import ClusterMap.Draw.Scene
import ClusterMap.Task.Plan
import ClusterMap.Tree.Build

/-!
# Sessions

A session owns a tree and the state of its view, and runs one event at a time: the state changes,
the tree is laid out anew where that is needed, and the effects tell the host what is left to do.

Layout, transform and the areas of the last frame are kept. `relayout` and `refit` renew the first
two, `regions` is dropped whenever the areas may have changed and worked out again when asked for.
A menu stays at its place relative to its node while the layout changes around it (`pin?`).
-/

namespace ClusterMap

/-- What happens to a view. -/
inductive Event (α : Type) where
  | pointerMoved (point : Point α)
  | pointerLeft
  | clicked (point : Point α)
  /-- A wish to close what is open. -/
  | dismiss
  | resized (viewport : Viewport α)
  | toggleFullscreen
deriving DecidableEq, Repr

/-- What an event leaves to the host. -/
inductive Effect where
  | redraw
  | dispatch (plan : Plan)
  | focusCompanion (nodeId : String)
  | fullscreenChanged (value : Bool)

/-- A view with everything behind it. -/
structure Session (α : Type) where
  /-- How many servers are shown without collapsing zones. -/
  threshold : Nat
  config : LayoutConfig α
  artist : Artist α
  /-- The cluster that the view is to be centred on. -/
  requested : Option String
  tree : Tree
  layout : Layout α
  transform : Transform α
  view : ViewState α
  /-- The areas on the screen, where they are known. -/
  regions : Option (List (HitRegion α))
  /-- The revision of the newest snapshot, if it had one. -/
  revision : Option Nat
  /-- How many frames have been drawn. -/
  sequence : Nat
  /-- How often the tree has been laid out. -/
  passes : Nat

/-- Where an open menu stands relative to its node, in layout coordinates. -/
structure Pin (α : Type) where
  nodeId : String
  offset : Point α
deriving DecidableEq, Repr

namespace Session

variable {α : Type} [Scalar α]

/-- A session that has seen no snapshot. -/
def start (threshold : Nat) (config : LayoutConfig α) (artist : Artist α)
    (requested : Option String) (viewport : Viewport α) : Session α :=
  let tree := Tree.build threshold [] requested
  let layout := Layout.ofTree config tree
  { threshold, config, artist, requested, tree, layout
    transform := Transform.fit layout viewport config
    view := .ofViewport viewport
    regions := none
    revision := none
    sequence := 0
    passes := 0 }

/-- What a frame would show. -/
def scene (s : Session α) : Scene α := ⟨s.tree, s.layout, s.transform, s.view⟩

/-- The areas that a frame would have. -/
def freshRegions (s : Session α) : List (HitRegion α) := s.artist.hitRegions s.scene

/-- The areas on the screen. -/
def currentRegions (s : Session α) : List (HitRegion α) := s.regions.getD s.freshRegions

/-- The session with its areas worked out. -/
def withRegions (s : Session α) : Session α := { s with regions := some s.currentRegions }

/-- The session in another mode. -/
def setMode (s : Session α) (mode : Mode α) : Session α :=
  { s with view := { s.view with mode }, regions := none }

/-! ### Pinned menus -/

/-- Where the menu of a mode stands relative to its node. -/
def pin? (s : Session α) (mode : Mode α) : Option (Pin α) :=
  match mode with
  | .menuOpen nodeId anchor =>
    (s.layout.anchorOf nodeId).map fun node =>
      let p := s.transform.invert anchor
      ⟨nodeId, ⟨p.x - node.x, p.y - node.y⟩⟩
  | _ => none

/-- Where a pinned menu stands on the screen now. -/
def pinnedAnchor? (s : Session α) (pinned : Option (Pin α)) : Option (Point α) := do
  let pin ← pinned
  let node ← s.layout.anchorOf pin.nodeId
  pure (s.transform.apply (node.offset pin.offset.x pin.offset.y))

/-- A mode whose menu, if one is open, stands at another point. -/
def moveMenu (mode : Mode α) (anchor : Point α) : Mode α :=
  match mode with
  | .menuOpen nodeId _ => .menuOpen nodeId anchor
  | mode => mode

/-! ### Fitting and laying out -/

/-- Fits the layout into the viewport again and moves an open menu along with its node. -/
def refitWith (s : Session α) (pinned : Option (Pin α)) : Session α :=
  let s := { s with transform := Transform.fit s.layout s.view.viewport s.config, regions := none }
  match s.pinnedAnchor? pinned with
  | some anchor => { s with view := { s.view with mode := moveMenu s.view.mode anchor } }
  | none => s

/-- Fits the layout into the viewport again. -/
def refit (s : Session α) : Session α := s.refitWith (s.pin? s.view.mode)

/-- Lays the tree out again. -/
def relayout (s : Session α) : Session α :=
  let pinned := s.pin? s.view.mode
  { s with layout := Layout.ofTree s.config s.tree, passes := Count.next s.passes }.refitWith pinned

/-- Ends a mode that is about a node that is not visible. -/
def dropHidden (s : Session α) : Session α := { s with view := s.view.dropHidden s.tree }

/-! ### Operations -/

/-- Whether a revision is newer than all before it. A snapshot without a revision always is. -/
def isNewer (s : Session α) (revision : Option Nat) : Bool :=
  match revision, s.revision with
  | some r, some applied => applied < r
  | _, _ => true

/-- Takes a snapshot over, unless it is stale. The second part tells whether it was taken over. -/
def apply (s : Session α) (clusters : List Snapshot.Cluster) (revision : Option Nat) :
    Session α × Bool :=
  if s.isNewer revision then
    let (view, tree) := s.view.carryFlags (Tree.build s.threshold clusters s.requested)
    ({ s with view, tree, revision := revision.or s.revision }.relayout.dropHidden, true)
  else (s, false)

/-- Collapses or expands a node. The menu of a node that stays visible stays open. The second part
tells whether there was something to do. -/
def toggle (s : Session α) (nodeId : String) : Session α × Bool :=
  match s.view.toggle? s.tree nodeId with
  | none => (s, false)
  | some (_, view, tree) =>
    let pinned := s.pin? s.view.mode
    let laid := { s with tree, view := { view with mode := .collapsing nodeId } }.relayout
    let mode : Mode α := match s.view.mode with
      | .menuOpen id anchor => .menuOpen id ((laid.pinnedAnchor? pinned).getD anchor)
      | _ => .idle
    ({ laid with view := { laid.view with mode } }.dropHidden, true)

/-- Sets the flag of a node that can be collapsed; other nodes are left alone. -/
def setCollapsed (s : Session α) (nodeId : String) (flag : Bool) : Session α :=
  match (s.tree.find? nodeId).bind (·.info.collapsed) with
  | some current => if current = flag then s else (s.toggle nodeId).1
  | none => s

/-- Expands the first node with an identifier if it is collapsed, and tells whether it was. -/
def expandNode (s : Session α) (nodeId : String) : Session α × Bool :=
  match s.tree.find? nodeId with
  | some node =>
    if node.isCollapsed then
      match s.view.toggle? s.tree nodeId with
      | some (_, view, tree) => ({ s with view, tree }, true)
      | none => (s, true)
    else (s, false)
  | none => (s, false)

/-- Expands several nodes one after another, and tells whether one of them was collapsed. -/
def expandAll (s : Session α) (path : List String) : Session α × Bool :=
  path.foldl (fun (s, any) id => let (s, one) := s.expandNode id; (s, any || one)) (s, false)

/-- Brings a node into view: everything above it is expanded. -/
def focus? (s : Session α) (nodeId : String) : Option (Session α × Effect) := do
  let path ← s.tree.ancestors? nodeId
  let (s, expanded) := s.expandAll path
  let s := if expanded then s.relayout else s
  pure ({ s with view := { s.view with focused := some nodeId } }, .focusCompanion nodeId)

/-- Switches between window and full screen. -/
def toggleFullscreen (s : Session α) : Session α :=
  { s with view := { s.view with fullscreen := !s.view.fullscreen } }.refit

/-- Changes the viewport. -/
def resize (s : Session α) (viewport : Viewport α) : Session α :=
  { s with view := { s.view with viewport } }.refit

/-- The menu of a node. -/
def menu? (s : Session α) (nodeId : String) : Option Menu :=
  (s.tree.find? nodeId).map fun node =>
    Menu.ofNode node (node.kind == .cluster && s.tree.isCurrent nodeId)

/-- The next frame. -/
def render (s : Session α) : Session α × Batch α :=
  let sequence := Count.next s.sequence
  let batch := s.artist.draw s.scene sequence
  ({ s with sequence, regions := some batch.hitRegions }, batch)

/-! ### Events -/

/-- The node under a point, if pointing at it shows something. -/
def hoverable? (s : Session α) (p : Point α) : Option String := do
  let target ← hitTest s.currentRegions p
  let node ← s.tree.find? target.nodeId
  if node.kind = .zone ∨ node.kind = .server then some node.id else none

/-- The pointer was moved. A tooltip follows it; an open menu is left alone. -/
def pointerMoved (s : Session α) (p : Point α) : Session α × List Effect :=
  let s := { s with view := { s.view with pointer := some p } }
  match s.view.mode with
  | .menuOpen _ _ | .collapsing _ => (s, [])
  | mode =>
    let s := s.withRegions
    match s.hoverable? p with
    | some id => ({ s with view := { s.view with mode := .hovering id } }, [.redraw])
    | none => match mode with
      | .hovering _ => (s.setMode .idle, [.redraw])
      | _ => (s, [])

/-- An open menu is closed. -/
def closeMenu (s : Session α) : Session α × List Effect :=
  match s.view.mode with
  | .menuOpen _ _ => (s.setMode .idle, [.redraw])
  | _ => (s, [])

/-- The plan for an action chosen in the menu of a node. -/
def planFor (s : Session α) (nodeId : String) (a : Action) : Plan :=
  match s.tree.find? nodeId with
  | some node => Plan.of a node s.tree
  | none => .ignore

/-- A point was clicked. -/
def clicked (s : Session α) (p : Point α) : Session α × List Effect :=
  let s := s.withRegions
  match hitTest s.currentRegions p with
  | some (.menuItem nodeId a) =>
    (s.setMode .idle,
      match s.planFor nodeId a with
      | .ignore => [.redraw]
      | plan => [.redraw, .dispatch plan])
  | some (.menuPanel _) => (s, [])
  | some (.moreActions nodeId) => (s.setMode (.menuOpen nodeId p), [.redraw])
  | some (.collapseToggle nodeId) =>
    let (s, toggled) := s.toggle nodeId
    (s, if toggled then [.redraw] else [])
  | some (.nodeBox _) | none => s.closeMenu

/-- The pointer left the view. -/
def pointerLeft (s : Session α) : Session α × List Effect :=
  let s := { s with view := { s.view with pointer := none } }
  match s.view.mode with
  | .hovering _ => (s.setMode .idle, [.redraw])
  | _ => (s, [])

/-- Runs one event. -/
def handle (s : Session α) : Event α → Session α × List Effect
  | .pointerMoved p => s.pointerMoved p
  | .pointerLeft => s.pointerLeft
  | .clicked p => s.clicked p
  | .dismiss => s.closeMenu
  | .resized v => (s.resize v, [.redraw])
  | .toggleFullscreen =>
    let s := s.toggleFullscreen
    (s, [.fullscreenChanged s.view.fullscreen, .redraw])

end Session

end ClusterMap
