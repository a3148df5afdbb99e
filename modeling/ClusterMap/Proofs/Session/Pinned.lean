import ClusterMap.Proofs.Layout.Fit
import ClusterMap.Proofs.Session.Menu
import ClusterMap.Proofs.Session.Mode

/-!
# An open menu stays at its node

In exact arithmetic an open menu keeps its distance from its node, measured in layout coordinates,
however the tree is laid out and fitted anew (`Session.StandsApart`). It closes only if its node is
hidden or if a click or a wish to close ends it.

A menu is pinned before the layout changes (`Session.menuPin?`) and put back afterwards, and that
the distance is the same then is due to the transform being undone by its inverse
(`Session.pin?_of_pinnedAnchor?`). This is used in two forms. Fitting and laying out anew put the
menu back themselves (`Session.menuPin?_refitWith`). A toggle lays out in a mode without a menu, and
puts the menu back by hand; both end with hidden modes being dropped
(`Session.pinned_dropHidden`).
-/

namespace ClusterMap

/-- Calls that are no decision about a menu: anything but a click and a wish to close. -/
def Call.sparesMenu {α : Type} : Call α → Bool
  | .handle (.clicked _) | .handle .dismiss => false
  | _ => true

theorem Mode.menuNode?_eq_some {α : Type} {m : Mode α} {id : String}
    (h : m.menuNode? = some id) : ∃ anchor, m = .menuOpen id anchor := by
  cases m with
  | menuOpen id' anchor =>
    obtain rfl : id' = id := Option.some.inj h
    exact ⟨anchor, rfl⟩
  | _ => cases h

theorem Mode.nodeId?_of_menuNode? {α : Type} {m : Mode α} {id : String}
    (h : m.menuNode? = some id) : m.nodeId? = some id := by
  obtain ⟨anchor, rfl⟩ := menuNode?_eq_some h
  rfl

namespace Session

section Pin

variable {α : Type} [Scalar α] {s : Session α} {pin : Pin α}

/-- Where the open menu stands relative to its node, if a menu is open and its node has a place. -/
def menuPin? (s : Session α) : Option (Pin α) := s.pin? s.view.mode

/-- A menu stands apart from its node by an offset: its point on the screen, taken back to the
layout, less the anchor of the node. -/
def StandsApart (s : Session α) (nodeId : String) (anchor offset : Point α) : Prop :=
  ∃ node, s.layout.anchorOf nodeId = some node ∧
    (s.transform.invert anchor).x - node.x = offset.x ∧
    (s.transform.invert anchor).y - node.y = offset.y

theorem pin?_eq_some_iff {nodeId : String} {anchor offset : Point α} :
    s.pin? (.menuOpen nodeId anchor) = some ⟨nodeId, offset⟩ ↔
      s.StandsApart nodeId anchor offset := by
  obtain ⟨x, y⟩ := offset
  rw [pin?, Option.map_eq_some_iff]
  refine exists_congr fun node => and_congr_right fun _ => ?_
  rw [Pin.mk.injEq, Point.mk.injEq, eq_self, true_and]

theorem standsApart_of_menuPin? {nodeId : String} {anchor offset : Point α}
    (h : s.menuPin? = some ⟨nodeId, offset⟩) (hmode : s.view.mode = .menuOpen nodeId anchor) :
    s.pin? (.menuOpen nodeId anchor) = some ⟨nodeId, offset⟩ ∧
      s.StandsApart nodeId anchor offset := by
  have hpin : s.pin? (.menuOpen nodeId anchor) = some ⟨nodeId, offset⟩ := by
    rw [← hmode]
    exact h
  exact ⟨hpin, pin?_eq_some_iff.mp hpin⟩

/-- A pin is that of the open menu, and its node has a place. -/
theorem of_menuPin? (h : s.menuPin? = some pin) :
    s.view.mode.menuNode? = some pin.nodeId ∧ (s.layout.anchorOf pin.nodeId).isSome := by
  unfold menuPin? pin? at h
  split at h
  next id anchor hmode =>
    obtain ⟨node, hnode, rfl⟩ := Option.map_eq_some_iff.mp h
    rw [hmode]
    exact ⟨rfl, Option.isSome_of_eq_some hnode⟩
  next => cases h

/-- The menu stands at its pin if its node is visible, and is closed if not. -/
inductive Pinned (pin : Pin α) (s : Session α) : Prop
  | opened (hvisible : pin.nodeId ∈ s.tree.root.visibleIds) (h : s.menuPin? = some pin)
  | closed (hhidden : pin.nodeId ∉ s.tree.root.visibleIds) (h : s.view.mode.menuNode? = none)

/-- Dropping hidden modes closes a menu whose node is hidden and spares one that stands at its
pin. -/
theorem pinned_dropHidden (hopen : s.view.mode.menuNode? = some pin.nodeId)
    (h : pin.nodeId ∈ s.tree.root.visibleIds → s.menuPin? = some pin) :
    Pinned pin s.dropHidden := by
  have hid : s.view.mode.nodeId? = some pin.nodeId := Mode.nodeId?_of_menuNode? hopen
  by_cases hvisible : pin.nodeId ∈ s.tree.root.visibleIds
  · have hself : s.dropHidden = s :=
      congrArg (fun view => { s with view }) (ViewState.dropHidden_of_visible hid hvisible)
    rw [hself]
    exact .opened hvisible (h hvisible)
  · refine .closed hvisible ?_
    change (s.view.dropHidden s.tree).mode.menuNode? = none
    rw [ViewState.dropHidden_of_hidden hid hvisible]
    rfl

/-- A menu that is open after some calls has a pin: its node is visible, so it has a place in the
layout, which is that of the tree. -/
theorem exists_menuPin? (hs : s.Grounded) {id : String} {anchor : Point α}
    (hmode : s.view.mode = .menuOpen id anchor) :
    ∃ offset, s.menuPin? = some ⟨id, offset⟩ := by
  have hvisible : id ∈ s.tree.root.visibleIds := by
    refine hs.visible id ?_
    rw [hmode]
    rfl
  obtain ⟨node, hnode⟩ : ∃ node, s.layout.anchorOf id = some node := by
    refine Option.isSome_iff_exists.mp ?_
    rw [hs.fresh.layout]
    exact Layout.isSome_anchorOf_iff.mpr hvisible
  rw [menuPin?, hmode]
  exact ⟨_, congrArg (Option.map _) hnode⟩

theorem visible_of_menuPin? (hs : s.Grounded) (h : s.menuPin? = some pin) :
    pin.nodeId ∈ s.tree.root.visibleIds :=
  hs.visible pin.nodeId (Mode.nodeId?_of_menuNode? (of_menuPin? h).1)

/-- What it means for a menu to stand at its pin or be closed, in terms of the mode. -/
theorem Pinned.mode_iff {id : String} {offset : Point α} (h : Pinned ⟨id, offset⟩ s) :
    ((∃ anchor, s.view.mode = .menuOpen id anchor) ↔ id ∈ s.tree.root.visibleIds) ∧
      ∀ anchor, s.view.mode = .menuOpen id anchor →
        s.pin? (.menuOpen id anchor) = some ⟨id, offset⟩ ∧ s.StandsApart id anchor offset := by
  cases h with
  | opened hvisible h =>
    have hopen : ∃ anchor, s.view.mode = .menuOpen id anchor :=
      Mode.menuNode?_eq_some (of_menuPin? h).1
    exact ⟨iff_of_true hopen hvisible, fun _ hmode => standsApart_of_menuPin? h hmode⟩
  | closed hhidden h =>
    have hclosed : ∀ anchor, s.view.mode ≠ .menuOpen id anchor := by
      intro anchor hmode
      rw [hmode] at h
      cases h
    refine ⟨iff_of_false ?_ hhidden, fun anchor hmode => absurd hmode (hclosed anchor)⟩
    rintro ⟨anchor, hmode⟩
    exact hclosed anchor hmode

end Pin

/-! ### Putting a menu back -/

variable {s : Session Rat} {pin : Pin Rat}

theorem exists_pinnedAnchor? (h : (s.layout.anchorOf pin.nodeId).isSome) :
    ∃ anchor, s.pinnedAnchor? (some pin) = some anchor := by
  obtain ⟨node, hnode⟩ := Option.isSome_iff_exists.mp h
  exact ⟨_, by rw [pinnedAnchor?, Option.bind_eq_bind, Option.bind_some, hnode]; rfl⟩

/-- **A menu that is put back at its pin is pinned there.** -/
theorem pin?_of_pinnedAnchor? (hscale : s.transform.scale ≠ 0) {anchor : Point Rat}
    (h : s.pinnedAnchor? (some pin) = some anchor) :
    s.pin? (.menuOpen pin.nodeId anchor) = some pin := by
  obtain ⟨node, hnode, hanchor⟩ := Option.bind_eq_some_iff.mp h
  obtain rfl := Option.some.inj hanchor
  have hx : node.x + pin.offset.x - node.x = pin.offset.x := add_sub_cancel_left _ _
  have hy : node.y + pin.offset.y - node.y = pin.offset.y := add_sub_cancel_left _ _
  change (s.layout.anchorOf pin.nodeId).map _ = some pin
  rw [hnode, Option.map_some, Transform.invert_apply hscale]
  change some (⟨pin.nodeId, ⟨node.x + pin.offset.x - node.x, node.y + pin.offset.y - node.y⟩⟩ :
    Pin Rat) = some pin
  rw [hx, hy]

/-- Refitting puts an open menu back. -/
theorem menuPin?_refitWith (hzoom : 0 < s.config.maxZoom)
    (hopen : s.view.mode.menuNode? = some pin.nodeId)
    (hplaced : (s.layout.anchorOf pin.nodeId).isSome) :
    (s.refitWith (some pin)).menuPin? = some pin := by
  obtain ⟨before, hmode⟩ := Mode.menuNode?_eq_some hopen
  have hscale : (Transform.fit s.layout s.view.viewport s.config).scale ≠ 0 :=
    (Transform.scale_fit_pos s.layout s.view.viewport hzoom).ne'
  unfold refitWith
  dsimp only
  split
  next anchor hanchor =>
    change pin? _ (moveMenu s.view.mode anchor) = some pin
    rw [hmode]
    exact pin?_of_pinnedAnchor? hscale hanchor
  next hnone =>
    -- a node that has a place gives the menu one
    obtain ⟨anchor, hanchor⟩ := exists_pinnedAnchor? (s := { s with
      transform := Transform.fit s.layout s.view.viewport s.config, regions := none }) hplaced
    rw [hanchor] at hnone
    cases hnone

theorem menuPin?_refit (hzoom : 0 < s.config.maxZoom) (h : s.menuPin? = some pin) :
    s.refit.menuPin? = some pin := by
  obtain ⟨hopen, hplaced⟩ := of_menuPin? h
  have hpin : s.pin? s.view.mode = some pin := h
  rw [refit, hpin]
  exact menuPin?_refitWith hzoom hopen hplaced

/-- Laying out anew puts an open menu back if its node is visible in the tree that is laid out. -/
theorem menuPin?_relayout (hzoom : 0 < s.config.maxZoom) (h : s.menuPin? = some pin)
    (hvisible : pin.nodeId ∈ s.tree.root.visibleIds) : s.relayout.menuPin? = some pin := by
  obtain ⟨hopen, -⟩ := of_menuPin? h
  have hpin : s.pin? s.view.mode = some pin := h
  unfold relayout
  dsimp only
  rw [hpin]
  exact menuPin?_refitWith hzoom hopen (Layout.isSome_anchorOf_iff.mpr hvisible)

/-! ### What becomes of a menu -/

theorem pinned_relayout_dropHidden (hzoom : 0 < s.config.maxZoom) (h : s.menuPin? = some pin) :
    Pinned pin s.relayout.dropHidden := by
  have hopen : s.relayout.view.mode.menuNode? = some pin.nodeId := by
    obtain ⟨p, hp⟩ := relayout_eq s
    rw [hp]
    exact (Mode.menuNode?_moveMenu _ p).trans (of_menuPin? h).1
  refine pinned_dropHidden hopen fun hvisible => menuPin?_relayout hzoom h ?_
  rwa [tree_relayout] at hvisible

/-- A snapshot that is taken over closes the menu or moves it along with its node. -/
theorem pinned_apply (hzoom : 0 < s.config.maxZoom) (h : s.menuPin? = some pin)
    (hvisible : pin.nodeId ∈ s.tree.root.visibleIds) (clusters : List Snapshot.Cluster)
    (revision : Option Nat) : Pinned pin (s.apply clusters revision).1 := by
  unfold apply
  split
  · -- the flags are carried over in the mode before, and with the layout before
    exact pinned_relayout_dropHidden (s := { s with
      view := (s.view.carryFlags (Tree.build s.threshold clusters s.requested)).1
      tree := (s.view.carryFlags (Tree.build s.threshold clusters s.requested)).2
      revision := revision.or s.revision }) hzoom h
  · exact .opened hvisible h

/-- A menu that is put back by hand after a new layout stands at its pin, if the layout has a place
for its node, and is dropped if not. -/
theorem pinned_putBack (hzoom : 0 < s.config.maxZoom) (pin : Pin Rat) (anchor : Point Rat) :
    Pinned pin (dropHidden { s.relayout with
      view := { s.relayout.view with
        mode := .menuOpen pin.nodeId ((s.relayout.pinnedAnchor? (some pin)).getD anchor) } }) := by
  refine pinned_dropHidden rfl fun hvisible => ?_
  have hscale : s.relayout.transform.scale ≠ 0 := by
    rw [transform_relayout]
    exact (Transform.scale_fit_pos _ _ hzoom).ne'
  have hplaced : (s.relayout.layout.anchorOf pin.nodeId).isSome := by
    change pin.nodeId ∈ s.relayout.tree.root.visibleIds at hvisible
    rw [tree_relayout] at hvisible
    rw [layout_relayout]
    exact Layout.isSome_anchorOf_iff.mpr hvisible
  obtain ⟨anchor', hanchor'⟩ := exists_pinnedAnchor? hplaced
  rw [hanchor']
  exact pin?_of_pinnedAnchor? hscale hanchor'

/-- A toggle, of whatever node, closes the menu or moves it along too. -/
theorem pinned_toggle (hzoom : 0 < s.config.maxZoom) (h : s.menuPin? = some pin)
    (hvisible : pin.nodeId ∈ s.tree.root.visibleIds) (nodeId : String) :
    Pinned pin (s.toggle nodeId).1 := by
  obtain ⟨anchor, hmode⟩ := Mode.menuNode?_eq_some (of_menuPin? h).1
  have hpin : s.pin? s.view.mode = some pin := h
  unfold toggle
  split
  next => exact .opened hvisible h
  next flag view tree htoggle =>
    dsimp only
    rw [hpin, hmode]
    -- the layout runs in a mode of its own, with the menu out of the way
    exact pinned_putBack (s := { s with
      tree, view := { view with mode := .collapsing nodeId } }) hzoom pin anchor

/-- Bringing a node into view only expands nodes, so that the node of the menu stays visible. -/
theorem pinned_focus (hzoom : 0 < s.config.maxZoom) (h : s.menuPin? = some pin)
    (hvisible : pin.nodeId ∈ s.tree.root.visibleIds) (nodeId : String) :
    Pinned pin (((s.focus? nodeId).map Prod.fst).getD s) := by
  cases hfocus : s.focus? nodeId with
  | none => exact .opened hvisible h
  | some next =>
    obtain ⟨path, -, hnext⟩ := Option.bind_eq_some_iff.mp hfocus
    rcases s.expandAll_eq path with hall | ⟨s₁, hexp, hall⟩
    · rw [hall] at hnext
      obtain rfl := Option.some.inj hnext
      exact .opened hvisible h
    · obtain ⟨tree, collapsed, rfl, hsub⟩ := exists_of_expands hexp
      rw [hall] at hnext
      obtain rfl := Option.some.inj hnext
      have hvisible₁ : pin.nodeId ∈ tree.root.visibleIds := hsub.subset hvisible
      have hlaid := menuPin?_relayout
        (s := { s with tree, view := { s.view with collapsed } }) hzoom h hvisible₁
      refine .opened ?_ hlaid
      change pin.nodeId ∈
        (relayout { s with tree, view := { s.view with collapsed } }).tree.root.visibleIds
      rwa [tree_relayout]

/-- Fitting into another viewport leaves the tree alone. -/
theorem pinned_refit (hzoom : 0 < s.config.maxZoom) (h : s.menuPin? = some pin)
    (hvisible : pin.nodeId ∈ s.tree.root.visibleIds) : Pinned pin s.refit := by
  obtain ⟨p, hp⟩ := refitWith_eq s (s.pin? s.view.mode)
  refine .opened ?_ (menuPin?_refit hzoom h)
  rw [refit, hp]
  exact hvisible

/-- The pointer does nothing to an open menu. -/
theorem pinned_pointerMoved (h : s.menuPin? = some pin)
    (hvisible : pin.nodeId ∈ s.tree.root.visibleIds) (p : Point Rat) :
    Pinned pin (s.pointerMoved p).1 := by
  obtain ⟨anchor, hmode⟩ := Mode.menuNode?_eq_some (of_menuPin? h).1
  unfold pointerMoved
  dsimp only
  split
  next => exact .opened hvisible h
  next => exact .opened hvisible h
  next hmenu _ => exact absurd hmode (hmenu pin.nodeId anchor)

theorem pinned_pointerLeft (h : s.menuPin? = some pin)
    (hvisible : pin.nodeId ∈ s.tree.root.visibleIds) : Pinned pin s.pointerLeft.1 := by
  obtain ⟨anchor, hmode⟩ := Mode.menuNode?_eq_some (of_menuPin? h).1
  unfold pointerLeft
  dsimp only
  split
  next id hhover =>
    rw [hmode] at hhover
    cases hhover
  next => exact .opened hvisible h

/-- **Calls that spare menus** leave an open menu at its pin, or close it if its node is hidden
then. -/
theorem pinned_step (hzoom : 0 < s.config.maxZoom) (h : s.menuPin? = some pin)
    (hvisible : pin.nodeId ∈ s.tree.root.visibleIds) {c : Call Rat} (hc : c.sparesMenu) :
    Pinned pin (s.step c) := by
  have hrefit (viewport : Viewport Rat) (fullscreen : Bool) :
      Pinned pin (refit { s with view := { s.view with viewport, fullscreen } }) :=
    pinned_refit (s := { s with view := { s.view with viewport, fullscreen } }) hzoom h hvisible
  cases c with
  | apply clusters revision => exact pinned_apply hzoom h hvisible clusters revision
  | toggle nodeId => exact pinned_toggle hzoom h hvisible nodeId
  | focus nodeId => exact pinned_focus hzoom h hvisible nodeId
  | toggleFullscreen => exact hrefit s.view.viewport (!s.view.fullscreen)
  | resize viewport => exact hrefit viewport s.view.fullscreen
  | render => exact .opened hvisible h
  | handle event =>
    cases event with
    | pointerMoved p => exact pinned_pointerMoved h hvisible p
    | pointerLeft => exact pinned_pointerLeft h hvisible
    | resized viewport => exact hrefit viewport s.view.fullscreen
    | toggleFullscreen => exact hrefit s.view.viewport (!s.view.fullscreen)
    | clicked p => cases hc
    | dismiss => cases hc

/-! ### The life of a menu -/

/-- A wish to close leaves no menu. -/
theorem menuNode?_closeMenu (s : Session Rat) : s.closeMenu.1.view.mode.menuNode? = none := by
  unfold closeMenu
  split
  next => rfl
  next hmenu =>
    cases hmode : s.view.mode with
    | menuOpen id anchor => exact absurd hmode (hmenu id anchor)
    | _ => rfl

/-- A click that opens no menu closes the open one or leaves it at its pin. -/
theorem menuPin?_clicked (hzoom : 0 < s.config.maxZoom) (h : s.menuPin? = some pin)
    (hvisible : pin.nodeId ∈ s.tree.root.visibleIds) {p : Point Rat}
    (hopens : ¬ s.Opens (.handle (.clicked p))) :
    (s.clicked p).1.view.mode.menuNode? = none ∨ (s.clicked p).1.menuPin? = some pin := by
  have hlook : s.withRegions.menuPin? = some pin := h
  unfold clicked
  dsimp only
  -- the cases are the targets in the order in which a click looks at them
  split
  next => exact Or.inl rfl
  next => exact Or.inr hlook
  next id hid => exact absurd ⟨id, hid⟩ hopens
  next id hid =>
    cases pinned_toggle (s := s.withRegions) hzoom hlook hvisible id with
    | opened _ h => exact Or.inr h
    | closed _ h => exact Or.inl h
  next => exact Or.inl (menuNode?_closeMenu s.withRegions)
  next => exact Or.inl (menuNode?_closeMenu s.withRegions)

/-- **Every call that opens no menu** leaves at most the menu that was open, and that at its pin. -/
theorem menuPin?_step (hs : s.Grounded) (hzoom : 0 < s.config.maxZoom)
    (h : s.view.mode.menuNode? = none ∨ s.menuPin? = some pin) {c : Call Rat}
    (hopens : ¬ s.Opens c) :
    (s.step c).view.mode.menuNode? = none ∨ (s.step c).menuPin? = some pin := by
  rcases h with hnone | h
  · -- what is closed stays closed
    refine Or.inl (Option.eq_none_iff_forall_ne_some.mpr fun id hid => ?_)
    rw [menuNode?_step hopens hid] at hnone
    cases hnone
  · have hvisible : pin.nodeId ∈ s.tree.root.visibleIds := visible_of_menuPin? hs h
    by_cases hc : c.sparesMenu
    · cases pinned_step hzoom h hvisible hc with
      | opened _ h => exact Or.inr h
      | closed _ h => exact Or.inl h
    · -- a click, or a wish to close
      cases c with
      | handle event =>
        cases event with
        | clicked p => exact menuPin?_clicked hzoom h hvisible hopens
        | dismiss => exact Or.inl (menuNode?_closeMenu s)
        | _ => exact absurd rfl hc
      | _ => exact absurd rfl hc

/-- **A menu that is open after a run that opens none** stands at the pin that it had before. -/
theorem menuPin?_run (hs : s.Grounded) (hzoom : 0 < s.config.maxZoom) (h : s.menuPin? = some pin)
    {calls : List (Call Rat)} (havoid : Avoids Opens s calls) :
    (s.run calls).view.mode.menuNode? = none ∨ (s.run calls).menuPin? = some pin := by
  have hrun := havoid.invariant_run
    (I := fun s' => s'.Grounded ∧ 0 < s'.config.maxZoom ∧
      (s'.view.mode.menuNode? = none ∨ s'.menuPin? = some pin))
    (fun s' c hc hs' => ⟨grounded_invariant.step hs'.1 c,
      (sameSettings_step s' c).config ▸ hs'.2.1, menuPin?_step hs'.1 hs'.2.1 hs'.2.2 hc⟩)
    ⟨hs, hzoom, Or.inr h⟩
  exact hrun.2.2

/-- **An open menu stays pinned to its node.** In exact arithmetic, let a menu be open on a node
after any calls to a new session. It stands apart from the node by some offset. Whatever is asked
next, apart from clicks and wishes to close, the menu is open afterwards exactly if the node is
visible then, and stands apart from it by the same offset in the layout and under the transform that
there are then. So the offset is the same for as long as the menu is open, whatever is asked in the
meantime. -/
theorem menu_stays_pinned (threshold : Nat) {config : LayoutConfig Rat} (artist : Artist Rat)
    (requested : Option String) (viewport : Viewport Rat) (before : List (Call Rat))
    (hzoom : 0 < config.maxZoom) {id : String} {anchor : Point Rat}
    (hmode : ((Session.start threshold config artist requested viewport).run before).view.mode =
      .menuOpen id anchor) :
    let s := (Session.start threshold config artist requested viewport).run before
    ∃ offset, s.pin? (.menuOpen id anchor) = some ⟨id, offset⟩ ∧ s.StandsApart id anchor offset ∧
      (∀ c, c.sparesMenu → let s' := s.step c
        ((∃ anchor', s'.view.mode = .menuOpen id anchor') ↔ id ∈ s'.tree.root.visibleIds) ∧
        ∀ anchor', s'.view.mode = .menuOpen id anchor' →
          s'.pin? (.menuOpen id anchor') = some ⟨id, offset⟩ ∧ s'.StandsApart id anchor' offset) ∧
      ∀ calls, Avoids Opens s calls → let s' := s.run calls
        ∀ id' anchor', s'.view.mode = .menuOpen id' anchor' →
          id' = id ∧ s'.pin? (.menuOpen id anchor') = some ⟨id, offset⟩ ∧
            s'.StandsApart id anchor' offset := by
  intro s
  have hs : s.Grounded :=
    grounded_invariant.run (grounded_start threshold config artist requested viewport) before
  have hconfig : s.config = config :=
    (sameSettings_run (Session.start threshold config artist requested viewport) before).config
  have hzoom' : 0 < s.config.maxZoom := by
    rw [hconfig]
    exact hzoom
  obtain ⟨offset, hpin⟩ := exists_menuPin? hs hmode
  have hvisible : id ∈ s.tree.root.visibleIds := visible_of_menuPin? hs hpin
  obtain ⟨hoffset, hapart⟩ := standsApart_of_menuPin? hpin hmode
  refine ⟨offset, hoffset, hapart,
    fun c hc => (pinned_step hzoom' hpin hvisible hc).mode_iff, ?_⟩
  intro calls havoid s' id' anchor' hmode'
  rcases menuPin?_run hs hzoom' hpin havoid with hnone | h
  · rw [hmode'] at hnone
    cases hnone
  · obtain ⟨hopen, -⟩ := of_menuPin? h
    rw [hmode'] at hopen
    obtain rfl : id' = id := Option.some.inj hopen
    exact ⟨rfl, standsApart_of_menuPin? h hmode'⟩

/-- The menu of a zone stays 84 to the right of the zone and 20 above it, in layout coordinates,
when another zone comes up beside it and the layout is shrunk to five eighths. It closes when its
cluster is collapsed. -/
theorem menu_stays_pinned_zone :
    let before : List (Call Rat) :=
      [.apply [Snapshot.Sample.cluster "c1" [1] .primary] (some 1), .handle (.clicked ⟨684, 216⟩)]
    let s := (Session.start 9 .standard .standard (some "c1") .standard).run before
    let calls : List (Call Rat) :=
      [.apply [Snapshot.Sample.cluster "c1" [1, 3] .primary] (some 2), .resize ⟨600, 300⟩,
        .toggle "zone2", .render]
    let s' := s.run calls
    (0 : Rat) < LayoutConfig.standard.maxZoom ∧ s.view.mode = .menuOpen "zone1" ⟨684, 216⟩ ∧
      (s.step (.toggle "c1")).view.mode ≠ .menuOpen "zone1" ⟨684, 216⟩ ∧
      Avoids Opens s calls ∧ s.transform.scale = 1 ∧ s'.transform.scale = 5 / 8 ∧
      s'.view.mode = .menuOpen "zone1" ⟨2205 / 8, 315 / 2⟩ ∧
      s.StandsApart "zone1" ⟨684, 216⟩ ⟨84, -20⟩ ∧
      s'.StandsApart "zone1" ⟨2205 / 8, 315 / 2⟩ ⟨84, -20⟩ := by
  intro before s calls s'
  have hzoom : (0 : Rat) < LayoutConfig.standard.maxZoom := by decide +kernel
  have hmode : s.view.mode = .menuOpen "zone1" ⟨684, 216⟩ := by decide +kernel
  have hhidden : "zone1" ∉ (s.step (.toggle "c1")).tree.root.visibleIds := by decide +kernel
  have hmode' : s'.view.mode = .menuOpen "zone1" ⟨2205 / 8, 315 / 2⟩ := by decide +kernel
  have hpin : s.pin? (.menuOpen "zone1" ⟨684, 216⟩) = some ⟨"zone1", ⟨84, -20⟩⟩ := by
    decide +kernel
  have havoid : Avoids Opens s calls :=
    ⟨False.elim, False.elim, False.elim, False.elim, trivial⟩
  obtain ⟨offset, hoffset, hapart, hstep, hrun⟩ :=
    menu_stays_pinned 9 .standard (some "c1") .standard before hzoom hmode
  obtain rfl : offset = ⟨84, -20⟩ := congrArg Pin.offset (Option.some.inj (hoffset.symm.trans hpin))
  obtain ⟨hiff, -⟩ := hstep (.toggle "c1") rfl
  obtain ⟨-, -, hapart'⟩ := hrun calls havoid "zone1" ⟨2205 / 8, 315 / 2⟩ hmode'
  exact ⟨hzoom, hmode, fun h => hhidden (hiff.mp ⟨_, h⟩), havoid, by decide +kernel,
    by decide +kernel, hmode', hapart, hapart'⟩

end Session

end ClusterMap
