import ClusterMap.Proofs.Draw.Regions
import ClusterMap.View.Session

/-!
# Events that ask for no frame

A host paints the frame that it has until the effects of an event ask for another one. An event that
does not ask must therefore leave a session that would be drawn as before
(`Session.compose_of_quiet`).

Few events are quiet. A toggle or a wish to close that has nothing to do leaves the session as it
is. What remains are the pointer and the areas: an event may look the areas up at any time, since no
frame hangs on whether they are known, and it may put the pointer down elsewhere as long as no
tooltip stands by it.
-/

namespace ClusterMap

namespace Session

variable {α : Type} [Scalar α]

/-- The frame that the session would draw now, under a number. -/
def compose (s : Session α) (sequence : Nat) : Batch α := s.artist.draw s.scene sequence

/-! ### What no frame shows -/

/-- Without a tooltip, a frame does not show where the pointer is. -/
theorem compose_setPointer {s : Session α} (h : ∀ id, s.view.mode ≠ .hovering id)
    (pointer : Option (Point α)) (sequence : Nat) :
    compose { s with view := { s.view with pointer } } sequence = s.compose sequence := by
  have hanchor : ViewState.tooltipAnchor? { s.view with pointer } = s.view.tooltipAnchor? := by
    unfold ViewState.tooltipAnchor?
    dsimp only
    cases hmode : s.view.mode with
    | hovering id => exact absurd hmode (h id)
    | _ => rfl
  have hdraw : s.artist.draw ⟨s.tree, s.layout, s.transform, { s.view with pointer }⟩ =
      s.artist.draw s.scene := Artist.draw_congr rfl rfl rfl rfl rfl hanchor rfl
  exact congrFun hdraw sequence

/-- A frame does not show whether the areas are known. -/
theorem compose_withRegions (s : Session α) (sequence : Nat) :
    s.withRegions.compose sequence = s.compose sequence := rfl

/-! ### Quiet events -/

omit [Scalar α] in
/-- A menu that does not have to be closed is none. -/
theorem closeMenu_of_quiet {s : Session α} (h : .redraw ∉ s.closeMenu.2) : s.closeMenu.1 = s := by
  unfold closeMenu at h ⊢
  split at h
  next => exact absurd List.mem_cons_self h
  next => rfl

/-- A toggle with nothing to do does nothing. -/
theorem toggle_of_quiet {s : Session α} {id : String} (h : (s.toggle id).2 = false) :
    (s.toggle id).1 = s := by
  unfold toggle at h ⊢
  split at h
  next => rfl
  next => cases h

theorem compose_pointerLeft {s : Session α} (h : .redraw ∉ s.pointerLeft.2) (sequence : Nat) :
    s.pointerLeft.1.compose sequence = s.compose sequence := by
  unfold pointerLeft at h ⊢
  dsimp only at h ⊢
  split at h
  next => exact absurd List.mem_cons_self h
  next hmode => exact compose_setPointer hmode none sequence

theorem compose_pointerMoved {s : Session α} {p : Point α} (h : .redraw ∉ (s.pointerMoved p).2)
    (sequence : Nat) : (s.pointerMoved p).1.compose sequence = s.compose sequence := by
  have hpointer (hmode : ∀ id, s.view.mode ≠ .hovering id) :
      compose { s with view := { s.view with pointer := some p } } sequence = s.compose sequence :=
    compose_setPointer hmode (some p) sequence
  revert h
  unfold pointerMoved
  dsimp only
  split
  -- while a menu is open, or a toggle under way, only the pointer moves
  next id anchor hmode => exact fun _ => hpointer (by rw [hmode]; exact fun _ => nofun)
  next id hmode => exact fun _ => hpointer (by rw [hmode]; exact fun _ => nofun)
  next =>
    -- a tooltip that comes up, follows the pointer or goes is told
    split
    next => exact fun h => absurd List.mem_cons_self h
    next =>
      split
      next => exact fun h => absurd List.mem_cons_self h
      next hmode => exact fun _ => hpointer hmode

theorem compose_clicked {s : Session α} {p : Point α} (h : .redraw ∉ (s.clicked p).2)
    (sequence : Nat) : (s.clicked p).1.compose sequence = s.compose sequence := by
  unfold clicked at h ⊢
  dsimp only at h ⊢
  -- the cases are the targets in the order in which a click looks at them
  split at h
  next =>
    split at h
    · exact absurd List.mem_cons_self h
    · exact absurd List.mem_cons_self h
  next => exact s.compose_withRegions sequence
  next => exact absurd List.mem_cons_self h
  next id _ =>
    split at h
    next => exact absurd List.mem_cons_self h
    next htoggled =>
      rw [toggle_of_quiet (Bool.eq_false_iff.mpr htoggled)]
      exact s.compose_withRegions sequence
  next =>
    rw [closeMenu_of_quiet h]
    exact s.compose_withRegions sequence
  next =>
    rw [closeMenu_of_quiet h]
    exact s.compose_withRegions sequence

/-- **A quiet event changes no frame.** If the effects of an event do not ask for a frame, the
session is drawn as it was before the event. -/
theorem compose_of_quiet {s : Session α} {event : Event α} (h : .redraw ∉ (s.handle event).2)
    (sequence : Nat) : (s.handle event).1.compose sequence = s.compose sequence := by
  cases event with
  | pointerMoved p => exact compose_pointerMoved h sequence
  | pointerLeft => exact compose_pointerLeft h sequence
  | clicked p => exact compose_clicked h sequence
  | dismiss =>
    have hself : s.closeMenu.1 = s := closeMenu_of_quiet h
    exact congrArg (compose · sequence) hself
  -- the canvas changes its size or goes to the full screen, which is always told
  | resized viewport => exact absurd List.mem_cons_self h
  | toggleFullscreen => exact absurd (List.mem_cons_of_mem _ List.mem_cons_self) h

end Session

end ClusterMap
