import ClusterMap.Proofs.Session.Focus
import ClusterMap.Proofs.Session.Frame

/-!
# When the tree is laid out

To lay a tree out takes time, and most of what is asked of a session leaves the tree as it is. So a
session lays the tree out where the tree may have changed, and there once: for a snapshot that is
taken over, for a toggle that finds a flag, and for a node that is brought into view out of
something collapsed (`Session.laysOut`). The counter of a session tells how often this was
(`Session.passes_step`, `Session.passes_run`).

Calls of other sorts do not touch the diagram (`Session.diagram_step`). A few of them fit it into
the view again (`Call.refits`), which changes where it is drawn; the rest leaves it where it was.
-/

namespace ClusterMap

/-- Calls that fit the diagram into the view again and ask for nothing else. -/
def Call.refits {α : Type} : Call α → Bool
  | .handle (.resized _) | .handle .toggleFullscreen | .resize _ | .toggleFullscreen => true
  | _ => false

namespace Session

variable {α : Type}

/-! ### The diagram -/

/-- What there is to lay out, how it was laid out, and what is remembered of it. -/
structure Diagram (α : Type) where
  tree : Tree
  layout : Layout α
  collapsed : Entries Bool
  revision : Option Nat
  focused : Option String
  passes : Nat

def diagram (s : Session α) : Diagram α :=
  ⟨s.tree, s.layout, s.view.collapsed, s.revision, s.view.focused, s.passes⟩

/-- The diagram is the same and is drawn at the same place. -/
structure Still (s s' : Session α) : Prop where
  diagram : s'.diagram = s.diagram
  transform : s'.transform = s.transform

theorem still_closeMenu (s : Session α) : s.Still s.closeMenu.1 := by
  unfold closeMenu
  split <;> exact ⟨rfl, rfl⟩

theorem still_pointerLeft (s : Session α) : s.Still s.pointerLeft.1 := by
  unfold pointerLeft
  dsimp only
  split <;> exact ⟨rfl, rfl⟩

variable [Scalar α]

/-- Calls that may change the diagram. A click is one of them where it meets the mark of a node that
can be collapsed. -/
def Restructures (s : Session α) : Call α → Prop
  | .apply _ _ | .toggle _ | .focus _ => True
  | .handle (.clicked p) => ∃ id, hitTest s.currentRegions p = some (.collapseToggle id)
  | _ => False

/-! ### Calls that leave the diagram alone -/

section Still

variable (s : Session α)

theorem diagram_refitWith (pinned : Option (Pin α)) : (s.refitWith pinned).diagram = s.diagram := by
  obtain ⟨p, hp⟩ := s.refitWith_eq pinned
  rw [hp]
  rfl

theorem diagram_toggleFullscreen : s.toggleFullscreen.diagram = s.diagram :=
  diagram_refitWith _ _

theorem diagram_resize (viewport : Viewport α) : (s.resize viewport).diagram = s.diagram :=
  diagram_refitWith _ _

theorem still_pointerMoved (p : Point α) : s.Still (s.pointerMoved p).1 := by
  unfold pointerMoved
  dsimp only
  split
  -- while a menu is open, or a toggle under way, only the pointer moves
  next => exact ⟨rfl, rfl⟩
  next => exact ⟨rfl, rfl⟩
  next =>
    split
    · exact ⟨rfl, rfl⟩
    · split <;> exact ⟨rfl, rfl⟩

/-- A click that does not meet the mark of a node that can be collapsed. -/
theorem still_clicked {p : Point α} (h : ¬ s.Restructures (.handle (.clicked p))) :
    s.Still (s.clicked p).1 := by
  -- a click looks the areas up before anything else
  have hclose : s.Still s.withRegions.closeMenu.1 :=
    ⟨(still_closeMenu s.withRegions).diagram, (still_closeMenu s.withRegions).transform⟩
  unfold clicked
  dsimp only
  -- the cases are the targets in the order in which a click looks at them
  split
  next => exact ⟨rfl, rfl⟩
  next => exact ⟨rfl, rfl⟩
  next => exact ⟨rfl, rfl⟩
  next id hid => exact absurd ⟨id, hid⟩ h
  next => exact hclose
  next => exact hclose

variable {s} {c : Call α}

/-- **The frame of a call.** A call that is not made to change the diagram does not change it, and
does not move it unless it is made to fit it into the view. -/
theorem still_step (h : ¬ s.Restructures c) (hrefits : c.refits = false) : s.Still (s.step c) := by
  cases c with
  | apply clusters revision => exact absurd trivial h
  | toggle id => exact absurd trivial h
  | focus id => exact absurd trivial h
  | handle event =>
    cases event with
    | pointerMoved p => exact still_pointerMoved s p
    | pointerLeft => exact still_pointerLeft s
    | clicked p => exact still_clicked s h
    | dismiss => exact still_closeMenu s
    | resized viewport => cases hrefits
    | toggleFullscreen => cases hrefits
  | toggleFullscreen => cases hrefits
  | resize viewport => cases hrefits
  | render => exact ⟨rfl, rfl⟩

theorem diagram_step_of_refits (hrefits : c.refits) : (s.step c).diagram = s.diagram := by
  unfold Call.refits at hrefits
  split at hrefits
  next viewport => exact diagram_resize s viewport
  next => exact diagram_toggleFullscreen s
  next viewport => exact diagram_resize s viewport
  next => exact diagram_toggleFullscreen s
  next => cases hrefits

theorem diagram_step (h : ¬ s.Restructures c) : (s.step c).diagram = s.diagram := by
  cases hrefits : c.refits with
  | false => exact (still_step h hrefits).diagram
  | true => exact diagram_step_of_refits hrefits

end Still

/-! ### Passes -/

/-- Whether a call lays the tree out: a snapshot is taken over, a toggle finds a flag, or a node is
brought into view out of something collapsed. -/
def laysOut (s : Session α) : Call α → Bool
  | .apply clusters revision => (s.apply clusters revision).2
  | .toggle id => (s.toggle id).2
  | .focus id => (s.tree.ancestors? id).any fun path =>
    path.any fun above => (s.tree.find? above).any Node.isCollapsed
  | .handle (.clicked p) =>
    match hitTest s.currentRegions p with
    | some (.collapseToggle id) => (s.toggle id).2
    | _ => false
  | _ => false

/-- How many calls of a run lay the tree out. -/
def layouts : Session α → List (Call α) → Nat
  | _, [] => 0
  | s, c :: rest => (if s.laysOut c then 1 else 0) + (s.step c).layouts rest

section Passes

variable (s : Session α)

theorem passes_apply (clusters : List Snapshot.Cluster) (revision : Option Nat) :
    (s.apply clusters revision).1.passes =
      if (s.apply clusters revision).2 then Count.next s.passes else s.passes := by
  by_cases hnew : s.isNewer revision
  · obtain ⟨mode, -, heq⟩ := apply_eq s clusters hnew rfl
    rw [heq]
    rfl
  · rw [apply_of_stale s hnew]
    rfl

theorem passes_toggle (id : String) :
    (s.toggle id).1.passes = if (s.toggle id).2 then Count.next s.passes else s.passes := by
  cases h : s.view.toggle? s.tree id with
  | none =>
    rw [toggle_eq_self s h]
    rfl
  | some next =>
    obtain ⟨flag, view, tree⟩ := next
    obtain ⟨mode, -, heq⟩ := toggle_eq s h
    rw [heq]
    rfl

theorem passes_focus (id : String) : (s.step (.focus id)).passes =
    if s.laysOut (.focus id) then Count.next s.passes else s.passes := by
  change (((s.focus? id).map Prod.fst).getD s).passes = _
  rw [laysOut]
  cases hpath : s.tree.ancestors? id with
  | none =>
    rw [focus?, hpath]
    rfl
  | some path =>
    rw [focus?_of_ancestors? hpath, Option.any_some, ← snd_expandAll]
    -- the focus, which is set last, has nothing to do with the counter
    rcases s.expandAll_eq path with hall | ⟨s', hexp, hall⟩
    · rw [hall]
      rfl
    · obtain ⟨tree, collapsed, rfl, -⟩ := exists_of_expands hexp
      rw [hall]
      exact passes_relayout _

/-- A snapshot is taken over if it is newer than those before it. -/
theorem snd_apply (clusters : List Snapshot.Cluster) (revision : Option Nat) :
    (s.apply clusters revision).2 = s.isNewer revision := by
  unfold apply
  cases s.isNewer revision <;> rfl

/-- A toggle finds something to do if the first node with the identifier has a flag. -/
theorem snd_toggle (id : String) :
    (s.toggle id).2 = ((s.tree.find? id).bind (·.info.collapsed)).isSome := by
  rw [← s.view.isSome_toggle?]
  unfold toggle
  cases s.view.toggle? s.tree id <;> rfl

/-- A click on the mark of a node that can be collapsed is a toggle. -/
theorem step_of_toggles {p : Point α} {id : String}
    (h : hitTest s.currentRegions p = some (.collapseToggle id)) :
    s.step (.handle (.clicked p)) = s.withRegions.step (.toggle id) := by
  have hhit : hitTest s.withRegions.currentRegions p = some (.collapseToggle id) := h
  change (s.clicked p).1 = _
  unfold clicked
  dsimp only
  rw [hhit]
  rfl

theorem passes_clicked {p : Point α} {id : String}
    (h : hitTest s.currentRegions p = some (.collapseToggle id)) :
    (s.step (.handle (.clicked p))).passes =
      if s.laysOut (.handle (.clicked p)) then Count.next s.passes else s.passes := by
  -- that the areas are known by then does not matter to the toggle
  have hsnd : (s.withRegions.toggle id).2 = s.laysOut (.handle (.clicked p)) := by
    rw [laysOut, h, snd_toggle]
    exact (snd_toggle s id).symm
  rw [step_of_toggles s h, ← hsnd]
  exact passes_toggle s.withRegions id

variable {s} {c : Call α}

theorem laysOut_eq_false (h : ¬ s.Restructures c) : s.laysOut c = false := by
  unfold laysOut
  split
  -- snapshots, toggles and focus restructure the diagram in any case
  next => exact absurd trivial h
  next => exact absurd trivial h
  next => exact absurd trivial h
  next p =>
    split
    next id hid => exact absurd ⟨id, hid⟩ h
    next => rfl
  next => rfl

/-- **The layouts of a call.** A call lays the tree out once or not at all. -/
theorem passes_step (s : Session α) (c : Call α) :
    (s.step c).passes = if s.laysOut c then Count.next s.passes else s.passes := by
  by_cases h : s.Restructures c
  · -- of the events, only a click can be among these calls
    cases c with
    | apply clusters revision => exact passes_apply s clusters revision
    | toggle id => exact passes_toggle s id
    | focus id => exact passes_focus s id
    | handle event =>
      cases event with
      | clicked p =>
        obtain ⟨id, hid⟩ := h
        exact passes_clicked s hid
      | _ => exact h.elim
    | _ => exact h.elim
  · rw [laysOut_eq_false h]
    exact congrArg Diagram.passes (diagram_step h)

/-- **The layouts of a run.** The counter counts the calls that lay the tree out, up to its
limit. -/
theorem passes_run (hle : s.passes ≤ Count.limit) (calls : List (Call α)) :
    (s.run calls).passes = min (s.passes + s.layouts calls) Count.limit := by
  induction calls generalizing s with
  | nil => exact (Nat.min_eq_left hle).symm
  | cons c rest ih =>
    -- a counter below its limit stays below it, which is all that the induction needs to know
    have hstep : (s.step c).passes = min (s.passes + if s.laysOut c then 1 else 0) Count.limit := by
      rw [passes_step]
      split
      · rfl
      · exact (Nat.min_eq_left hle).symm
    have hle' : (s.step c).passes ≤ Count.limit := hstep ▸ Nat.min_le_right _ _
    change ((s.step c).run rest).passes = _
    rw [ih hle', hstep, layouts]
    omega

theorem Reachable.passes_le (hs : s.Reachable) : s.passes ≤ Count.limit := by
  obtain ⟨threshold, config, artist, requested, viewport, calls, rfl⟩ := hs
  rw [passes_run (Nat.zero_le _)]
  exact Nat.min_le_right _ _

end Passes

/-! ### What lays the tree out -/

/-- To bring a node into view lays the tree out exactly if it changes the tree. -/
theorem laysOut_focus_iff (s : Session α) (id : String) :
    s.laysOut (.focus id) ↔ (s.step (.focus id)).tree ≠ s.tree := by
  change s.laysOut (.focus id) ↔ (((s.focus? id).map Prod.fst).getD s).tree ≠ s.tree
  rw [laysOut]
  cases hpath : s.tree.ancestors? id with
  | none => simp [focus?, hpath]
  | some path =>
    rw [Option.any_some, ← snd_expandAll, ← tree_expandAll_ne_iff, focus?_of_ancestors? hpath]
    change _ ↔ (if (s.expandAll path).2 then (s.expandAll path).1.relayout
      else (s.expandAll path).1).tree ≠ s.tree
    split <;> simp

/-- **Only what restructures the diagram lays it out**, and what is refused changes nothing. Of the
calls that a session can be asked, those that are not about the structure leave the diagram alone,
and move it only to fit it into the view. The counter of layouts grows by one for a snapshot that is
taken over, for a toggle that finds a flag, and for a node that is brought into view if that changes
the tree, and otherwise stays. A stale snapshot, an identifier without a flag to toggle and one that
does not occur leave the session as it is. -/
theorem layouts_of_restructuring {s : Session α} (hs : s.Reachable) :
    (∀ c, ¬ s.Restructures c → (s.step c).diagram = s.diagram ∧
      (c.refits = false → (s.step c).transform = s.transform)) ∧
    (∀ c, s.passes < Count.limit →
      (s.step c).passes = s.passes + if s.laysOut c then 1 else 0) ∧
    (∀ calls, (s.run calls).passes = min (s.passes + s.layouts calls) Count.limit) ∧
    (∀ id, s.laysOut (.focus id) ↔ (s.step (.focus id)).tree ≠ s.tree) ∧
    (∀ clusters revision, (s.apply clusters revision).2 = s.isNewer revision ∧
      ((s.apply clusters revision).2 = false → s.step (.apply clusters revision) = s)) ∧
    (∀ id, (s.toggle id).2 = ((s.tree.find? id).bind (·.info.collapsed)).isSome ∧
      ((s.toggle id).2 = false → s.step (.toggle id) = s)) ∧
    ∀ id, (s.focus? id = none ↔ id ∉ s.tree.root.descendants.map Node.id) ∧
      (s.focus? id = none → s.step (.focus id) = s) := by
  refine ⟨fun c h => ⟨diagram_step h, fun hrefits => (still_step h hrefits).transform⟩,
    fun c hlt => ?_, passes_run hs.passes_le, laysOut_focus_iff s,
    fun clusters revision => ⟨s.snd_apply clusters revision, fun hstale => ?_⟩,
    fun id => ⟨s.snd_toggle id, fun hquiet => toggle_of_quiet hquiet⟩,
    fun id => ⟨focus?_eq_none_iff, fun hnone => ?_⟩⟩
  · rw [passes_step]
    split
    · exact Count.next_of_lt hlt
    · rfl
  · rw [snd_apply] at hstale
    rw [step, apply_of_stale s (Bool.eq_false_iff.mp hstale)]
  · change ((s.focus? id).map Prod.fst).getD s = s
    rw [hnone]
    rfl

/-- A stale snapshot, a toggle of a server and a node that does not occur are refused. Of the other
calls, one toggle and one focus lay the tree out: the second focus is on a node that is shown. -/
theorem layouts_of_restructuring_refused :
    let s : Session Rat := (Session.start 9 .standard .standard (some "c1") .standard).run
      [.apply [Snapshot.Sample.cluster "c1" [2, 1] .primary] (some 1)]
    let calls : List (Call Rat) := [.apply [] (some 1), .toggle "server:c1-z1-s1", .focus "c9",
      .handle .pointerLeft, .toggle "zone1", .render, .focus "server:c1-z1-s1",
      .toggleFullscreen, .focus "server:c1-z1-s1"]
    s.Reachable ∧ (s.run calls).passes = s.passes + 2 := by
  intro s calls
  have hs : s.Reachable := ⟨9, .standard, .standard, some "c1", .standard, _, rfl⟩
  have hlayouts : s.layouts calls = 2 := by decide +kernel
  have hpasses : s.passes = 1 := by decide +kernel
  obtain ⟨-, -, hrun, -⟩ := layouts_of_restructuring hs
  refine ⟨hs, ?_⟩
  rw [hrun, hlayouts, hpasses]
  rfl

end Session

end ClusterMap
