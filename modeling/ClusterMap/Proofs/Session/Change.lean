import ClusterMap.Proofs.Session.Operation

/-!
# Calls and what they change

A session is used by calls, one after another (`Call`, `Session.run`). What a call does to a session
is said once, so that a property of all runs is proven from few cases: a call takes a snapshot over
(`Session.apply_eq`), opens a menu (`Session.step_of_opens`), or is a chain of elementary changes
(`Session.step_changes`). `Session.Change` lists these with what each of them knows of the session
that it starts from; `Session.Invariant` is what has to be shown of a property for it to hold along
all runs.

`Session.Avoids` restricts a run to calls that are not of some sort, where the sort of a call may
hang on the session that it meets.
-/

namespace ClusterMap

/-- What can be asked of a session. -/
inductive Call (α : Type) where
  | apply (clusters : List Snapshot.Cluster) (revision : Option Nat)
  | handle (event : Event α)
  | toggle (nodeId : String)
  | focus (nodeId : String)
  | toggleFullscreen
  | resize (viewport : Viewport α)
  | render

namespace Session

variable {α : Type}

/-- Calls that take a snapshot over. -/
def TakesOver (s : Session α) : Call α → Prop
  | .apply _ revision => s.isNewer revision
  | _ => False

theorem exists_of_takesOver {s : Session α} {c : Call α} (h : s.TakesOver c) :
    ∃ clusters revision, c = .apply clusters revision ∧ s.isNewer revision := by
  cases c with
  | apply clusters revision => exact ⟨clusters, revision, rfl, h⟩
  | _ => exact h.elim

variable [Scalar α]

/-- The session after a call. -/
def step (s : Session α) : Call α → Session α
  | .apply clusters revision => (s.apply clusters revision).1
  | .handle event => (s.handle event).1
  | .toggle nodeId => (s.toggle nodeId).1
  | .focus nodeId => ((s.focus? nodeId).map Prod.fst).getD s
  | .toggleFullscreen => s.toggleFullscreen
  | .resize viewport => s.resize viewport
  | .render => s.render.1

/-- The session after several calls. -/
def run (s : Session α) (calls : List (Call α)) : Session α := calls.foldl step s

/-- Sessions that some calls to a new session lead to. -/
def Reachable (s : Session α) : Prop :=
  ∃ threshold config artist requested viewport calls,
    s = (Session.start threshold config artist requested viewport).run calls

/-- Calls that open a menu, of whatever node. -/
def Opens (s : Session α) : Call α → Prop
  | .handle (.clicked p) => ∃ id, hitTest s.currentRegions p = some (.moreActions id)
  | _ => False

theorem exists_of_opens {s : Session α} {c : Call α} (h : s.Opens c) :
    ∃ p id, c = .handle (.clicked p) ∧ hitTest s.currentRegions p = some (.moreActions id) := by
  cases c with
  | handle event =>
    cases event with
    | clicked p =>
      obtain ⟨id, hid⟩ := h
      exact ⟨p, id, rfl, hid⟩
    | _ => exact h.elim
  | _ => exact h.elim

/-- No call of a run is of a certain sort. -/
def Avoids (P : Session α → Call α → Prop) : Session α → List (Call α) → Prop
  | _, [] => True
  | s, c :: rest => ¬ P s c ∧ Avoids P (s.step c) rest

/-! ### Elementary changes -/

/-- The changes that calls consist of, apart from new snapshots and menus that open. -/
inductive Change (s : Session α) : Session α → Prop
  | pointer (pointer : Option (Point α)) : Change s { s with view := { s.view with pointer } }
  | focused (id : String) : Change s { s with view := { s.view with focused := some id } }
  /-- The areas are worked out where they are not known. -/
  | lookUp : Change s s.withRegions
  | frame : Change s s.render.1
  /-- The pointer comes to a node that has a tooltip, while no menu is open. -/
  | hover (p : Point α) (id : String) (hmenu : s.view.openMenu? = none)
      (hid : s.hoverable? p = some id) :
      Change s { s with view := { s.view with mode := .hovering id } }
  | rest : Change s (s.setMode .idle)
  | refit (viewport : Viewport α) (fullscreen : Bool) (p : Point α) :
      Change s { s with
        transform := Transform.fit s.layout viewport s.config
        regions := none
        view := { s.view with viewport, fullscreen, mode := moveMenu s.view.mode p } }
  | toggle (id : String) (flag : Bool) (view : ViewState α) (tree : Tree) (mode : Mode α)
      (h : s.view.toggle? s.tree id = some (flag, view, tree))
      (hmode : Mode.Remains tree.root.visibleIds s.view.mode mode) :
      Change s ({ s with view, tree }.settled mode)
  | expand (s₁ : Session α) (p : Point α) (h : Expands s s₁) :
      Change s (s₁.settled (moveMenu s₁.view.mode p))

/-- Several changes one after another. -/
abbrev Changes (s s' : Session α) : Prop := Relation.ReflTransGen Change s s'

/-! ### What each call changes -/

variable (s : Session α)

theorem changes_toggle (id : String) : Changes s (s.toggle id).1 := by
  cases h : s.view.toggle? s.tree id with
  | none => rw [toggle_eq_self s h]
  | some next =>
    obtain ⟨flag, view, tree⟩ := next
    obtain ⟨mode, hmode, heq⟩ := toggle_eq s h
    rw [heq]
    exact .single (.toggle id flag view tree mode h hmode)

theorem changes_focus (id : String) : Changes s (((s.focus? id).map Prod.fst).getD s) := by
  cases h : s.focus? id with
  | none => exact .refl
  | some next =>
    obtain ⟨s', e⟩ := next
    -- the focus is set last, whether the tree was laid out or not
    obtain ⟨s₂, rfl, rfl | ⟨s₁, p, hexp, rfl⟩⟩ := focus?_eq h
    · exact .single (.focused id)
    · exact .tail (.single (.expand s₁ p hexp)) (.focused id)

theorem changes_toggleFullscreen : Changes s s.toggleFullscreen := by
  obtain ⟨p, hp⟩ := refitWith_eq
    { s with view := { s.view with fullscreen := !s.view.fullscreen } } (s.pin? s.view.mode)
  rw [show s.toggleFullscreen = _ from hp]
  exact .single (.refit s.view.viewport (!s.view.fullscreen) p)

theorem changes_resize (viewport : Viewport α) : Changes s (s.resize viewport) := by
  obtain ⟨p, hp⟩ := refitWith_eq { s with view := { s.view with viewport } } (s.pin? s.view.mode)
  rw [show s.resize viewport = _ from hp]
  exact .single (.refit viewport s.view.fullscreen p)

theorem changes_closeMenu : Changes s s.closeMenu.1 := by
  unfold closeMenu
  split
  · exact .single .rest
  · exact .refl

theorem changes_pointerLeft : Changes s s.pointerLeft.1 := by
  refine .head (.pointer none) ?_
  unfold pointerLeft
  dsimp only
  split
  · exact .single .rest
  · exact .refl

theorem changes_pointerMoved (p : Point α) : Changes s (s.pointerMoved p).1 := by
  have hlook : Changes s { s with view := { s.view with pointer := some p } }.withRegions :=
    .tail (.single (.pointer (some p))) .lookUp
  unfold pointerMoved
  dsimp only
  split
  -- while a menu is open, or a toggle under way, only the pointer moves
  next => exact .single (.pointer (some p))
  next => exact .single (.pointer (some p))
  next mode hmenu _ =>
    split
    next id hid =>
      refine .tail hlook (.hover p id ?_ hid)
      change s.view.openMenu? = none
      unfold ViewState.openMenu?
      split
      next id' anchor hmode => exact absurd hmode (hmenu id' anchor)
      next => rfl
    next =>
      split
      · exact .tail hlook .rest
      · exact hlook

/-- A click that opens no menu. -/
theorem changes_clicked {p : Point α} (h : ¬ s.Opens (.handle (.clicked p))) :
    Changes s (s.clicked p).1 := by
  refine .head .lookUp ?_
  unfold clicked
  dsimp only
  -- the cases are the targets in the order in which a click looks at them
  split
  next => exact .single .rest
  next => exact .refl
  next id hid => exact absurd ⟨id, hid⟩ h
  next id hid => exact changes_toggle s.withRegions id
  next => exact changes_closeMenu s.withRegions
  next => exact changes_closeMenu s.withRegions

theorem changes_handle {event : Event α} (h : ¬ s.Opens (.handle event)) :
    Changes s (s.handle event).1 := by
  cases event with
  | pointerMoved p => exact changes_pointerMoved s p
  | pointerLeft => exact changes_pointerLeft s
  | clicked p => exact changes_clicked s h
  | dismiss => exact changes_closeMenu s
  | resized v => exact changes_resize s v
  | toggleFullscreen => exact changes_toggleFullscreen s

/-- **What a call does.** It takes a snapshot over, it opens a menu, or it is a chain of
elementary changes. -/
theorem step_changes {c : Call α} (hsnap : ¬ s.TakesOver c) (hopen : ¬ s.Opens c) :
    Changes s (s.step c) := by
  cases c with
  | apply clusters revision =>
    have hstale : ¬ s.isNewer revision := hsnap
    rw [step, apply_of_stale s hstale]
  | handle event => exact changes_handle s hopen
  | toggle id => exact changes_toggle s id
  | focus id => exact changes_focus s id
  | toggleFullscreen => exact changes_toggleFullscreen s
  | resize viewport => exact changes_resize s viewport
  | render => exact .single .frame

/-- A call that opens a menu does nothing else. -/
theorem step_of_opens {p : Point α} {id : String}
    (h : hitTest s.currentRegions p = some (.moreActions id)) :
    s.step (.handle (.clicked p)) = s.withRegions.setMode (.menuOpen id p) := by
  have hhit : hitTest s.withRegions.currentRegions p = some (.moreActions id) := h
  change (s.clicked p).1 = _
  unfold clicked
  dsimp only
  rw [hhit]

/-! ### Runs -/

variable {s}

/-- A property that every call keeps, said for what calls consist of. -/
structure Invariant (I : Session α → Prop) : Prop where
  change : ∀ {s s' : Session α}, I s → Change s s' → I s'
  opened : ∀ {s : Session α} {p : Point α} {id : String}, I s →
    hitTest s.currentRegions p = some (.moreActions id) →
    I (s.withRegions.setMode (.menuOpen id p))
  taken : ∀ {s : Session α} {clusters : List Snapshot.Cluster} {revision : Option Nat}
    {view : ViewState α} {tree : Tree} {mode : Mode α}, I s → s.isNewer revision →
    s.view.carryFlags (Tree.build s.threshold clusters s.requested) = (view, tree) →
    Mode.Remains tree.root.visibleIds s.view.mode mode →
    I ({ s with view, tree, revision := revision.or s.revision }.settled mode)

namespace Invariant

variable {I : Session α → Prop}

theorem changes (h : Invariant I) {s s' : Session α} (hs : I s) (hc : Changes s s') : I s' := by
  induction hc with
  | refl => exact hs
  | tail _ hc ih => exact h.change ih hc

theorem step (h : Invariant I) (hs : I s) (c : Call α) : I (s.step c) := by
  by_cases hsnap : s.TakesOver c
  · obtain ⟨clusters, revision, rfl, hnew⟩ := exists_of_takesOver hsnap
    obtain ⟨mode, hmode, heq⟩ := apply_eq s clusters hnew rfl
    rw [Session.step, heq]
    exact h.taken hs hnew rfl hmode
  by_cases hopen : s.Opens c
  · obtain ⟨p, id, rfl, hid⟩ := exists_of_opens hopen
    rw [step_of_opens s hid]
    exact h.opened hs hid
  -- what is left are the elementary changes
  exact h.changes hs (step_changes s hsnap hopen)

/-- **Run induction.** -/
theorem run (h : Invariant I) (hs : I s) (calls : List (Call α)) : I (s.run calls) := by
  induction calls generalizing s with
  | nil => exact hs
  | cons c rest ih => exact ih (h.step hs c)

/-- What holds of new sessions and is kept by every call holds of all that can be reached. -/
theorem of_reachable (h : Invariant I)
    (hstart : ∀ threshold config artist requested viewport,
      I (Session.start threshold config artist requested viewport))
    (hs : s.Reachable) : I s := by
  obtain ⟨threshold, config, artist, requested, viewport, calls, rfl⟩ := hs
  exact h.run (hstart threshold config artist requested viewport) calls

end Invariant

/-- Whatever a session that can be reached leads to can be reached. -/
theorem Reachable.run (hs : s.Reachable) (calls : List (Call α)) : (s.run calls).Reachable := by
  obtain ⟨threshold, config, artist, requested, viewport, before, rfl⟩ := hs
  exact ⟨threshold, config, artist, requested, viewport, before ++ calls, by
    rw [Session.run, Session.run, Session.run, List.foldl_append]⟩

/-- What every call keeps that is not of a sort, a run without such calls keeps. -/
theorem Avoids.invariant_run {I : Session α → Prop} {P : Session α → Call α → Prop}
    (hstep : ∀ s c, ¬ P s c → I s → I (s.step c)) {calls : List (Call α)} (h : Avoids P s calls)
    (hs : I s) : I (s.run calls) := by
  induction calls generalizing s with
  | nil => exact hs
  | cons c rest ih => exact ih h.2 (hstep s c h.1 hs)

/-! ### Settings -/

/-- No call changes the settings. -/
theorem invariant_sameSettings (s₀ : Session α) : Invariant (SameSettings s₀) where
  change h hc := by
    cases hc with
    | expand s₁ p hexp =>
      obtain ⟨_, _, rfl, -⟩ := exists_of_expands hexp
      exact ⟨h.threshold, h.config, h.artist, h.requested⟩
    | _ => exact ⟨h.threshold, h.config, h.artist, h.requested⟩
  opened h _ := ⟨h.threshold, h.config, h.artist, h.requested⟩
  taken h _ _ _ := ⟨h.threshold, h.config, h.artist, h.requested⟩

theorem sameSettings_step (s : Session α) (c : Call α) : SameSettings s (s.step c) :=
  (invariant_sameSettings s).step ⟨rfl, rfl, rfl, rfl⟩ c

theorem sameSettings_run (s : Session α) (calls : List (Call α)) : SameSettings s (s.run calls) :=
  (invariant_sameSettings s).run ⟨rfl, rfl, rfl, rfl⟩ calls

end Session

end ClusterMap
