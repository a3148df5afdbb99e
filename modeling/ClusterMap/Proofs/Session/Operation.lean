import ClusterMap.Proofs.Tree.Flags
import ClusterMap.View.Session
import Mathlib.Logic.Relation

/-!
# What each operation of a session does

Every operation that lays the tree out again ends in the same form: some tree and view, laid out and
fitted, no areas, and a mode that is what is left of the mode before (`Session.settled`). The
operations differ in the tree and view that they start from:

* `Session.apply_eq` — a new tree with the flags carried over;
* `Session.toggle_eq` — one flag flipped (`ViewState.toggle?_eq_some`);
* `Session.focus?_eq` — the flags on a path cleared one after another (`Session.Expand`).

What becomes of an open menu is that it moves or closes; it never goes to another node
(`Mode.Remains`).
-/

namespace ClusterMap

open Session

/-! ### Modes -/

namespace Mode

variable {α : Type}

@[simp] theorem nodeId?_moveMenu (m : Mode α) (p : Point α) :
    (moveMenu m p).nodeId? = m.nodeId? := by
  cases m <;> rfl

@[simp] theorem moveMenu_moveMenu (m : Mode α) (p q : Point α) :
    moveMenu (moveMenu m p) q = moveMenu m q := by
  cases m <;> rfl

/-- What is left of a mode in a tree with the given visible nodes: nothing, or the same mode about a
node that is visible, where a menu may have moved. -/
inductive Remains (visible : List String) (m : Mode α) : Mode α → Prop
  | ended : Remains visible m .idle
  | moved (p : Point α) (h : ∀ id ∈ m.nodeId?, id ∈ visible) : Remains visible m (moveMenu m p)

theorem Remains.of_moveMenu {visible : List String} {m m' : Mode α} {p : Point α}
    (h : Remains visible (moveMenu m p) m') : Remains visible m m' := by
  cases h with
  | ended => exact .ended
  | moved q hvis =>
    rw [nodeId?_moveMenu] at hvis
    rw [moveMenu_moveMenu]
    exact .moved q hvis

/-- Every mode is one whose menu was moved to where it is. -/
theorem exists_moveMenu_eq [Scalar α] (m : Mode α) : ∃ p, m = moveMenu m p := by
  cases m with
  | menuOpen id anchor => exact ⟨anchor, rfl⟩
  | idle => exact ⟨Point.zero, rfl⟩
  | hovering id => exact ⟨Point.zero, rfl⟩
  | collapsing id => exact ⟨Point.zero, rfl⟩

end Mode

/-! ### The state of a view -/

namespace ViewState

variable {α : Type} {s s' : ViewState α} {t t' : Tree}

theorem mode_of_openMenu? {id : String} {anchor : Point α} (h : s.openMenu? = some (id, anchor)) :
    s.mode = .menuOpen id anchor := by
  unfold openMenu? at h
  split at h
  next id' anchor' hmode =>
    obtain ⟨rfl, rfl⟩ := Prod.mk.inj (Option.some.inj h)
    exact hmode
  next => exact absurd h (by simp)

/-- What flipping a flag does: the flag of the first node with the identifier, which has one,
becomes the other in the tree, and is remembered. -/
theorem toggle?_eq_some {id : String} {flag : Bool} (h : s.toggle? t id = some (flag, s', t')) :
    ∃ node root, t.find? id = some node ∧ node.info.collapsed = some (!flag) ∧
      t.root.modify? id (·.withCollapsed (some flag)) = some root ∧
      s' = { s with collapsed := s.collapsed.insert id flag } ∧ t' = { t with root } := by
  obtain ⟨node, hnode, h⟩ := Option.bind_eq_some_iff.mp h
  obtain ⟨before, hbefore, h⟩ := Option.bind_eq_some_iff.mp h
  obtain ⟨root, hroot, h⟩ := Option.bind_eq_some_iff.mp h
  obtain ⟨rfl, rfl, rfl⟩ : (!before) = flag ∧ _ = s' ∧ _ = t' := by simpa using h
  exact ⟨node, root, hnode, by rw [hbefore, Bool.not_not], hroot, rfl, rfl⟩

/-- A flag that is found under an identifier can be flipped. -/
theorem exists_toggle? (s : ViewState α) {id : String} {flag : Bool}
    (h : (t.find? id).bind (·.info.collapsed) = some flag) :
    ∃ view tree, s.toggle? t id = some (!flag, view, tree) := by
  obtain ⟨node, hnode, hflag⟩ := Option.bind_eq_some_iff.mp h
  -- a node that is found can be replaced
  have hroot : (t.root.modify? id (·.withCollapsed (some !flag))).isSome := by
    rw [Node.modify?_isSome]
    exact Option.isSome_of_eq_some hnode
  obtain ⟨root, hroot⟩ := Option.isSome_iff_exists.mp hroot
  refine ⟨{ s with collapsed := s.collapsed.insert id (!flag) }, { t with root }, ?_⟩
  simp [toggle?, hnode, hflag, hroot]

theorem isSome_toggle? (s : ViewState α) (t : Tree) (id : String) :
    (s.toggle? t id).isSome = ((t.find? id).bind (·.info.collapsed)).isSome := by
  cases hflag : (t.find? id).bind (·.info.collapsed) with
  | some flag =>
    obtain ⟨view, tree, htoggle⟩ := s.exists_toggle? hflag
    rw [htoggle]
    rfl
  | none =>
    cases htoggle : s.toggle? t id with
    | none => rfl
    | some next =>
      obtain ⟨node, root, hnode, hbefore, -⟩ := toggle?_eq_some htoggle
      rw [hnode, Option.bind_some, hbefore] at hflag
      cases hflag

/-- A mode that is about a visible node is spared. -/
theorem dropHidden_of_visible {id : String} (h : s.mode.nodeId? = some id)
    (hvisible : id ∈ t.root.visibleIds) : s.dropHidden t = s := by
  rw [dropHidden, h]
  exact if_pos (List.contains_iff_mem.mpr hvisible)

/-- A mode that is about a hidden node is ended. -/
theorem dropHidden_of_hidden {id : String} (h : s.mode.nodeId? = some id)
    (hhidden : id ∉ t.root.visibleIds) : s.dropHidden t = { s with mode := .idle } := by
  rw [dropHidden, h]
  exact if_neg fun hcontains => hhidden (List.contains_iff_mem.mp hcontains)

/-- Dropping what is hidden leaves a mode that is about a visible node, or none. -/
theorem dropHidden_eq (s : ViewState α) (t : Tree) :
    (s.dropHidden t = s ∧ ∀ id ∈ s.mode.nodeId?, id ∈ t.root.visibleIds) ∨
      s.dropHidden t = { s with mode := .idle } := by
  cases hid : s.mode.nodeId? with
  | none =>
    refine Or.inl ⟨?_, fun id h => absurd h (by simp)⟩
    rw [dropHidden, hid]
  | some id =>
    by_cases hvisible : id ∈ t.root.visibleIds
    · refine Or.inl ⟨dropHidden_of_visible hid hvisible, fun id' hid' => ?_⟩
      obtain rfl : id = id' := Option.mem_some_iff.mp hid'
      exact hvisible
    · exact Or.inr (dropHidden_of_hidden hid hvisible)

end ViewState

namespace Session

section Expand

variable {α : Type}

/-! ### Settings -/

/-- Two sessions were started with the same settings. -/
structure SameSettings (s s' : Session α) : Prop where
  threshold : s'.threshold = s.threshold
  config : s'.config = s.config
  artist : s'.artist = s.artist
  requested : s'.requested = s.requested

/-! ### Expanding the nodes on a path -/

/-- One node was collapsed and is expanded. -/
def Expand (s s' : Session α) : Prop :=
  ∃ id view tree, s.view.toggle? s.tree id = some (false, view, tree) ∧ s' = { s with view, tree }

/-- Several nodes were expanded one after another. -/
abbrev Expands (s s' : Session α) : Prop := Relation.ReflTransGen Expand s s'

/-- A node is left alone, or its flag is flipped. -/
theorem expandNode_eq (s : Session α) (id : String) :
    s.expandNode id = (s, false) ∨
      ∃ view tree, s.view.toggle? s.tree id = some (false, view, tree) ∧
        s.expandNode id = ({ s with view, tree }, true) := by
  unfold expandNode
  cases hnode : s.tree.find? id with
  | none => exact Or.inl rfl
  | some node =>
    dsimp only
    by_cases hcol : node.isCollapsed
    · rw [if_pos hcol]
      have hflag : (s.tree.find? id).bind (·.info.collapsed) = some true := by
        rw [hnode, Option.bind_some]
        unfold Node.isCollapsed at hcol
        cases hc : node.info.collapsed with
        | none => rw [hc] at hcol; exact absurd hcol (by simp)
        | some flag => rw [hc] at hcol; exact congrArg some hcol
      obtain ⟨view, tree, htoggle⟩ := s.view.exists_toggle? hflag
      exact Or.inr ⟨view, tree, htoggle, by rw [htoggle]⟩
    · exact Or.inl (if_neg hcol)

/-- A node is expanded if the first one with the identifier is collapsed. -/
theorem snd_expandNode (s : Session α) (id : String) :
    (s.expandNode id).2 = (s.tree.find? id).any Node.isCollapsed := by
  unfold expandNode
  cases s.tree.find? id with
  | none => rfl
  | some node =>
    dsimp only [Option.any_some]
    cases node.isCollapsed with
    | false => rfl
    | true => cases s.view.toggle? s.tree id <;> rfl

/-- Whether a node on a path was collapsed is carried along and never forgotten. -/
private theorem foldl_expandNode (s : Session α) (path : List String) (any : Bool) :
    path.foldl (fun (s, any) id => let (s, one) := s.expandNode id; (s, any || one)) (s, any) =
      ((s.expandAll path).1, any || (s.expandAll path).2) := by
  unfold expandAll
  induction path generalizing s any with
  | nil => simp
  | cons id rest ih =>
    rw [List.foldl_cons, List.foldl_cons, ih, ih _ (false || _), Bool.false_or, Bool.or_assoc]

theorem expandAll_cons (s : Session α) (id : String) (rest : List String) :
    s.expandAll (id :: rest) = (((s.expandNode id).1.expandAll rest).1,
      (s.expandNode id).2 || ((s.expandNode id).1.expandAll rest).2) := by
  rw [expandAll, List.foldl_cons, foldl_expandNode, Bool.false_or]

/-- Expanding the nodes on a path does nothing where none is collapsed. -/
theorem expandAll_eq (s : Session α) (path : List String) :
    s.expandAll path = (s, false) ∨
      ∃ s', Expands s s' ∧ s.expandAll path = (s', true) := by
  induction path generalizing s with
  | nil => exact Or.inl rfl
  | cons id rest ih =>
    rw [expandAll_cons]
    rcases s.expandNode_eq id with hnode | ⟨view, tree, htoggle, hnode⟩
    · -- the first node of the path is left alone
      rw [hnode, Bool.false_or]
      exact ih s
    · have hexp₁ : Expand s { s with view, tree } := ⟨id, view, tree, htoggle, rfl⟩
      rw [hnode, Bool.true_or]
      rcases ih { s with view, tree } with hrest | ⟨s', hexp, hrest⟩
      · exact Or.inr ⟨_, .single hexp₁, by rw [hrest]⟩
      · exact Or.inr ⟨s', .head hexp₁ hexp, by rw [hrest]⟩

/-- Some node on a path is expanded if one of them is collapsed at the start. -/
theorem snd_expandAll (s : Session α) (path : List String) :
    (s.expandAll path).2 = path.any fun id => (s.tree.find? id).any Node.isCollapsed := by
  induction path with
  | nil => rfl
  | cons id rest ih =>
    rw [expandAll_cons, List.any_cons, ← snd_expandNode]
    -- up to the first collapsed node the tree is the one at the start
    rcases s.expandNode_eq id with hnode | ⟨view, tree, -, hnode⟩
    · rw [hnode, ih]
    · rw [hnode, Bool.true_or, Bool.true_or]

/-- Expanding touches the tree and what is remembered of it alone, and hides nothing. -/
theorem exists_of_expands {s s' : Session α} (h : Expands s s') :
    ∃ tree collapsed, s' = { s with tree, view := { s.view with collapsed } } ∧
      s.tree.root.visibleIds.Sublist tree.root.visibleIds := by
  induction h with
  | refl => exact ⟨s.tree, s.view.collapsed, rfl, List.Sublist.refl _⟩
  | tail _ h ih =>
    obtain ⟨_, _, rfl, hvis⟩ := ih
    obtain ⟨_, _, _, htoggle, rfl⟩ := h
    obtain ⟨_, root, -, -, hroot, rfl, rfl⟩ := ViewState.toggle?_eq_some htoggle
    exact ⟨_, _, rfl, hvis.trans (Node.visibleIds_sublist_of_modify? hroot)⟩

end Expand

variable {α : Type} [Scalar α] (s : Session α)

/-! ### Fitting and laying out -/

/-- The session laid out and fitted anew, in a mode. -/
def settled (mode : Mode α) : Session α :=
  let layout := Layout.ofTree s.config s.tree
  { s with
    layout
    transform := Transform.fit layout s.view.viewport s.config
    passes := Count.next s.passes
    regions := none
    view := { s.view with mode } }

/-- Refitting renews the transform, forgets the areas, and moves an open menu. -/
theorem refitWith_eq (pinned : Option (Pin α)) :
    ∃ p, s.refitWith pinned =
      { s with
        transform := Transform.fit s.layout s.view.viewport s.config
        regions := none
        view := { s.view with mode := moveMenu s.view.mode p } } := by
  unfold refitWith
  dsimp only
  split
  next anchor _ => exact ⟨anchor, rfl⟩
  next =>
    -- nothing is pinned, or its node is not placed: the menu stays where it is
    obtain ⟨p, hp⟩ := s.view.mode.exists_moveMenu_eq
    exact ⟨p, by rw [← hp]⟩

/-- Laying out anew ends in the mode before, with an open menu moved. -/
theorem relayout_eq : ∃ p, s.relayout = s.settled (moveMenu s.view.mode p) :=
  refitWith_eq { s with layout := Layout.ofTree s.config s.tree, passes := Count.next s.passes } _

@[simp] theorem tree_relayout : s.relayout.tree = s.tree := by
  obtain ⟨p, hp⟩ := relayout_eq s
  rw [hp]
  rfl

@[simp] theorem layout_relayout : s.relayout.layout = Layout.ofTree s.config s.tree := by
  obtain ⟨p, hp⟩ := relayout_eq s
  rw [hp]
  rfl

@[simp] theorem transform_relayout : s.relayout.transform =
    Transform.fit (Layout.ofTree s.config s.tree) s.view.viewport s.config := by
  obtain ⟨p, hp⟩ := relayout_eq s
  rw [hp]
  rfl

/-- What follows a new layout when hidden modes are dropped. -/
private theorem dropHidden_settled (mode : Mode α) :
    ∃ mode', Mode.Remains s.tree.root.visibleIds mode mode' ∧
      (s.settled mode).dropHidden = s.settled mode' := by
  rcases (s.settled mode).view.dropHidden_eq s.tree with ⟨heq, hvis⟩ | heq
  · obtain ⟨p, hp⟩ := mode.exists_moveMenu_eq
    refine ⟨mode, ?_, congrArg (fun view => { s.settled mode with view }) heq⟩
    have hmoved : Mode.Remains s.tree.root.visibleIds mode (moveMenu mode p) := .moved p hvis
    rwa [← hp] at hmoved
  · exact ⟨.idle, .ended, congrArg (fun view => { s.settled mode with view }) heq⟩

/-! ### Operations -/

/-- A snapshot that is not stale replaces the tree, with the flags carried over. -/
theorem apply_eq (clusters : List Snapshot.Cluster) {revision : Option Nat} {view : ViewState α}
    {tree : Tree} (hnew : s.isNewer revision)
    (hcarry : s.view.carryFlags (Tree.build s.threshold clusters s.requested) = (view, tree)) :
    ∃ mode, Mode.Remains tree.root.visibleIds s.view.mode mode ∧
      s.apply clusters revision =
        ({ s with view, tree, revision := revision.or s.revision }.settled mode, true) := by
  obtain ⟨p, hp⟩ := relayout_eq { s with view, tree, revision := revision.or s.revision }
  obtain ⟨mode, hmode, hdrop⟩ := dropHidden_settled
    { s with view, tree, revision := revision.or s.revision } (moveMenu view.mode p)
  -- the flags are carried over without a look at the mode
  have hview : view.mode = s.view.mode := by
    rw [ViewState.carryFlags, Prod.mk.injEq] at hcarry
    exact hcarry.1 ▸ rfl
  refine ⟨mode, hview ▸ hmode.of_moveMenu, ?_⟩
  rw [apply, if_pos hnew, hcarry]
  exact congrArg (·, true) ((congrArg dropHidden hp).trans hdrop)

/-- A stale snapshot is ignored. -/
theorem apply_of_stale {clusters : List Snapshot.Cluster} {revision : Option Nat}
    (h : ¬ s.isNewer revision) : s.apply clusters revision = (s, false) := by
  rw [apply, if_neg h]

/-- Flipping a flag lays the tree out anew; of the modes only an open menu remains. -/
theorem toggle_eq {id : String} {flag : Bool} {view : ViewState α} {tree : Tree}
    (h : s.view.toggle? s.tree id = some (flag, view, tree)) :
    ∃ mode, Mode.Remains tree.root.visibleIds s.view.mode mode ∧
      s.toggle id = ({ s with view, tree }.settled mode, true) := by
  obtain ⟨p, hp⟩ := relayout_eq
    { s with tree, view := { view with mode := .collapsing id } }
  -- the layout runs in a mode of its own; what follows it is set here, from the mode before
  obtain ⟨after, hafter, heq⟩ : ∃ after : Mode α,
      (after = .idle ∨ ∃ q, after = moveMenu s.view.mode q) ∧
      s.toggle id = (({ s with view, tree }.settled after).dropHidden, true) := by
    rw [toggle, h]
    dsimp only
    rw [hp]
    cases s.view.mode with
    | menuOpen id' anchor => exact ⟨.menuOpen id' _, Or.inr ⟨_, rfl⟩, rfl⟩
    | idle => exact ⟨.idle, Or.inl rfl, rfl⟩
    | hovering id' => exact ⟨.idle, Or.inl rfl, rfl⟩
    | collapsing id' => exact ⟨.idle, Or.inl rfl, rfl⟩
  obtain ⟨mode, hmode, hdrop⟩ := dropHidden_settled { s with view, tree } after
  refine ⟨mode, ?_, by rw [heq, hdrop]⟩
  rcases hafter with rfl | ⟨q, rfl⟩
  · cases hmode <;> exact .ended
  · exact hmode.of_moveMenu

/-- Where there is no flag to flip nothing happens. -/
theorem toggle_eq_self {id : String} (h : s.view.toggle? s.tree id = none) :
    s.toggle id = (s, false) := by
  rw [toggle, h]

variable {s}

/-- Bringing a node into view expands nodes one after another, and lays the tree out if there were
any. The focus is set in any case. -/
theorem focus?_eq {id : String} {e : Effect} {s' : Session α} (h : s.focus? id = some (s', e)) :
    ∃ s₂ : Session α, s' = { s₂ with view := { s₂.view with focused := some id } } ∧
      (s₂ = s ∨ ∃ s₁ p, Expands s s₁ ∧
        s₂ = s₁.settled (moveMenu s₁.view.mode p)) := by
  obtain ⟨path, -, h⟩ := Option.bind_eq_some_iff.mp h
  rcases s.expandAll_eq path with hall | ⟨s₁, hexp, hall⟩
  · rw [hall] at h
    exact ⟨s, (congrArg Prod.fst (Option.some.inj h)).symm, Or.inl rfl⟩
  · rw [hall] at h
    obtain ⟨p, hp⟩ := s₁.relayout_eq
    exact ⟨s₁.relayout, (congrArg Prod.fst (Option.some.inj h)).symm, Or.inr ⟨s₁, p, hexp, hp⟩⟩

end Session

end ClusterMap
