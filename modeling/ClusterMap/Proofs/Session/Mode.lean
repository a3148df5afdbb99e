import ClusterMap.Proofs.Layout.Visible
import ClusterMap.Proofs.Session.Freshness

/-!
# A mode is always about a visible node

Between two calls no toggle is under way, and the node that the pointer is over or whose menu is
open is visible in the tree (`Session.Grounded`). Only some calls drop a mode that has lost its
node. The others are harmless for one of three reasons: they leave the tree alone; they only expand
nodes, which hides nothing; or they enter a new mode, and then the node comes from an area that is
on the screen. The areas are those of the present tree by `Session.Fresh`, which is why the two
invariants go together.
-/

namespace ClusterMap

namespace Session

variable {α : Type} [Scalar α]

/-- What is kept is fresh, no toggle is under way, and the mode is about a visible node. -/
structure Grounded (s : Session α) : Prop where
  fresh : s.Fresh
  not_collapsing : ∀ id, s.view.mode ≠ .collapsing id
  visible : ∀ id ∈ s.view.mode.nodeId?, id ∈ s.tree.root.visibleIds

namespace Grounded

variable {s : Session α}

/-- Whatever can be pointed at belongs to a visible node. -/
theorem nodeId_visible_of_hitTest (h : s.Grounded) {p : Point α} {t : HitTarget}
    (hit : hitTest s.currentRegions p = some t) : t.nodeId ∈ s.tree.root.visibleIds := by
  rw [h.fresh.currentRegions_eq] at hit
  obtain ⟨r, hr, rfl⟩ := mem_of_hitTest hit
  rcases List.mem_append.mp hr with hr | hr
  · -- an area of the diagram: its node is placed, and what is placed is visible
    obtain ⟨id, hid, htarget⟩ := Artist.mem_nodeRegions hr
    rw [HitTarget.nodeId_of_mem_ofShape htarget]
    have hlayout : s.layout = Layout.ofTree s.config s.tree := h.fresh.layout
    change id ∈ s.layout.nodes.map NodePosition.id at hid
    rwa [hlayout, Layout.map_id_nodes] at hid
  · -- an area of the menu that is open, so of the node that the mode is about
    obtain ⟨id, anchor, hopen, htarget⟩ := Artist.mem_overlay_hitRegions hr
    rw [htarget.nodeId_eq]
    have hmode : s.view.mode = .menuOpen id anchor := ViewState.mode_of_openMenu? hopen
    refine h.visible id ?_
    rw [hmode]
    rfl

/-- A tooltip comes up for a visible node. -/
theorem visible_of_hoverable? (h : s.Grounded) {p : Point α} {id : String}
    (hid : s.hoverable? p = some id) : id ∈ s.tree.root.visibleIds := by
  obtain ⟨t, hit, hid⟩ := Option.bind_eq_some_iff.mp hid
  obtain ⟨node, hnode, hid⟩ := Option.bind_eq_some_iff.mp hid
  have hnodeId : node.id = t.nodeId := Node.id_of_find? hnode
  split at hid
  · obtain rfl := Option.some.inj hid
    rw [hnodeId]
    exact h.nodeId_visible_of_hitTest hit
  · exact absurd hid (by simp)

/-- A mode that remains of a grounded one is grounded in the new tree. -/
theorem of_remains (h : s.Grounded) {s' : Session α} (hfresh : s'.Fresh)
    (hmode : Mode.Remains s'.tree.root.visibleIds s.view.mode s'.view.mode) : s'.Grounded := by
  obtain ⟨mode, heq⟩ : ∃ mode, mode = s'.view.mode := ⟨_, rfl⟩
  rw [← heq] at hmode
  cases hmode with
  | ended =>
    refine ⟨hfresh, ?_, ?_⟩
    · rw [← heq]
      exact fun _ => nofun
    · rw [← heq]
      exact fun _ => nofun
  | moved p hvisible =>
    refine ⟨hfresh, ?_, ?_⟩
    · rw [← heq]
      intro id hid
      cases hbefore : s.view.mode with
      | collapsing id' => exact h.not_collapsing id' hbefore
      | _ => rw [hbefore] at hid; cases hid
    · rw [← heq, Mode.nodeId?_moveMenu]
      exact hvisible

end Grounded

/-- A new session is in no mode. -/
theorem grounded_start (threshold : Nat) (config : LayoutConfig α) (artist : Artist α)
    (requested : Option String) (viewport : Viewport α) :
    (Session.start threshold config artist requested viewport).Grounded :=
  ⟨fresh_start threshold config artist requested viewport, fun _ => nofun,
    fun _ => nofun⟩

/-- **Every call leaves a mode that is about a visible node.** -/
theorem grounded_invariant : Invariant (Grounded (α := α)) where
  change h hc := by
    have hfresh := fresh_invariant.change h.fresh hc
    cases hc with
    | pointer pointer => exact ⟨hfresh, h.not_collapsing, h.visible⟩
    | focused id => exact ⟨hfresh, h.not_collapsing, h.visible⟩
    | lookUp => exact ⟨hfresh, h.not_collapsing, h.visible⟩
    | frame => exact ⟨hfresh, h.not_collapsing, h.visible⟩
    | hover p id hmenu hid =>
      refine ⟨hfresh, fun _ => nofun, fun id' hid' => ?_⟩
      obtain rfl : id = id' := Option.some.inj hid'
      exact h.visible_of_hoverable? hid
    | rest => exact h.of_remains hfresh .ended
    | refit viewport fullscreen p => exact h.of_remains hfresh (.moved p h.visible)
    | toggle id flag view tree mode htoggle hmode => exact h.of_remains hfresh hmode
    | expand s₁ p hexp =>
      -- nothing is dropped here, and nothing has to be
      obtain ⟨tree, collapsed, rfl, hvis⟩ := exists_of_expands hexp
      exact h.of_remains hfresh (.moved p fun id hid => hvis.subset (h.visible id hid))
  opened h hit := by
    refine ⟨fresh_invariant.opened h.fresh hit, fun _ => nofun, fun id hid => ?_⟩
    obtain rfl := Option.some.inj hid
    exact h.nodeId_visible_of_hitTest hit
  taken h hnew hcarry hmode := h.of_remains (.of_settled _ _) hmode

/-- **A mode never dangles.** After any calls to a new session no toggle is under way, and a node
that the pointer is over or whose menu is open is visible in the present tree. -/
theorem mode_about_visible (threshold : Nat) (config : LayoutConfig α) (artist : Artist α)
    (requested : Option String) (viewport : Viewport α) (calls : List (Call α)) :
    let s := (Session.start threshold config artist requested viewport).run calls
    (∀ id, s.view.mode ≠ .collapsing id) ∧
      (∀ id, s.view.mode = .hovering id → id ∈ s.tree.root.visibleIds) ∧
      ∀ id anchor, s.view.mode = .menuOpen id anchor → id ∈ s.tree.root.visibleIds := by
  intro s
  have h : s.Grounded :=
    grounded_invariant.run (grounded_start threshold config artist requested viewport) calls
  refine ⟨h.not_collapsing, fun id hid => h.visible id ?_, fun id anchor hid => h.visible id ?_⟩
  · rw [hid]
    rfl
  · rw [hid]
    rfl

end Session

end ClusterMap
