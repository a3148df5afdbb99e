import ClusterMap.Data.Entries
import ClusterMap.Layout.Geometry
import ClusterMap.Tree.Basic

/-!
# The state of a view

What outlives a rebuild of the tree: what the pointer is doing, which nodes are collapsed, the
viewport and the focus. Everything is keyed by the identifiers of nodes.

A rebuilt tree takes over the remembered flags of the nodes that are still there
(`ViewState.carryFlags`), and forgets those of nodes that are gone. The first tree is taken as it
is.
-/

namespace ClusterMap

/-- What the pointer is doing. -/
inductive Mode (α : Type) where
  | idle
  | hovering (nodeId : String)
  | menuOpen (nodeId : String) (anchor : Point α)
  /-- Only while a toggled tree is laid out anew. -/
  | collapsing (nodeId : String)
deriving DecidableEq, Repr, Inhabited

/-- The node that a mode is about. -/
def Mode.nodeId? {α : Type} : Mode α → Option String
  | .idle => none
  | .hovering id | .menuOpen id _ | .collapsing id => some id

/-- The state of a view. -/
structure ViewState (α : Type) where
  mode : Mode α
  collapsed : Entries Bool
  pointer : Option (Point α)
  viewport : Viewport α
  fullscreen : Bool
  focused : Option String
  /-- Whether a tree has been seen. -/
  seeded : Bool
deriving DecidableEq, Repr

/-- Whether a node can be collapsed at present. -/
def NodeInfo.isCollapsible (i : NodeInfo) : Bool := i.collapsed.isSome

/-- What a node holds, with the remembered flag if it can be collapsed and there is one. -/
def NodeInfo.recall (flags : Entries Bool) (i : NodeInfo) : NodeInfo :=
  if i.isCollapsible then { i with collapsed := (flags.get? i.id).or i.collapsed } else i

/-- The flags of the nodes that can be collapsed. -/
def Node.collapseFlags (n : Node) : Entries Bool :=
  .ofList (n.descendants.filterMap fun n => n.info.collapsed.map (n.id, ·))

namespace ViewState

variable {α : Type}

/-- The state of a new view. -/
def ofViewport (v : Viewport α) : ViewState α := ⟨.idle, [], none, v, false, none, false⟩

/-- The node under the pointer. -/
def hovered? (s : ViewState α) : Option String :=
  match s.mode with
  | .hovering id => some id
  | _ => none

/-- The node whose menu is open, and where it was opened. -/
def openMenu? (s : ViewState α) : Option (String × Point α) :=
  match s.mode with
  | .menuOpen id anchor => some (id, anchor)
  | _ => none

/-- Where a tooltip belongs. -/
def tooltipAnchor? (s : ViewState α) : Option (Point α) :=
  match s.mode with
  | .hovering _ => s.pointer
  | _ => none

/-- Carries the remembered flags over to a new tree, and remembers the flags of that tree. -/
def carryFlags (s : ViewState α) (t : Tree) : ViewState α × Tree :=
  let root := if s.seeded then t.root.mapInfo (NodeInfo.recall s.collapsed) else t.root
  ({ s with collapsed := root.collapseFlags, seeded := true }, { t with root })

/-- Flips the flag of a node in the tree and in the memory; nothing happens if there is no such node
or it cannot be collapsed. The new flag comes first. -/
def toggle? (s : ViewState α) (t : Tree) (id : String) : Option (Bool × ViewState α × Tree) := do
  let node ← t.find? id
  let flag ← node.info.collapsed
  let root ← t.root.modify? id (·.withCollapsed (some !flag))
  pure (!flag, { s with collapsed := s.collapsed.insert id (!flag) }, { t with root })

/-- Ends a mode that is about a node that is not visible. -/
def dropHidden (s : ViewState α) (t : Tree) : ViewState α :=
  match s.mode.nodeId? with
  | none => s
  | some id => if t.root.visibleIds.contains id then s else { s with mode := .idle }

end ViewState

end ClusterMap
