import ClusterMap.Proofs.Session.Frame
import ClusterMap.Proofs.Viewer.Input
import ClusterMap.Snapshot.Sample

/-!
# The frame on the canvas

A viewer paints the frame that it keeps for as long as it is not told that the frame may be out of
date. `Viewer.UpToDate` says that it is told in time: a frame that is not marked is the one that
would be drawn now.

Whether this is so hangs on the session, the kept frame and the mark alone, and most of what a
viewer does leaves these three in place (`Viewer.SameCanvas`). The rest is of three sorts: the
session is changed and the mark is set whatever the change was, an event is passed on and the mark
is set if the effects say so, or a frame is drawn. Only the second has to be looked into, and there
it comes down to events that ask for no frame (`Session.compose_of_quiet`).
-/

namespace ClusterMap

namespace Viewer

variable {α : Type}

/-! ### What leaves the canvas alone -/

/-- Two viewers have the same session and the same frame on the canvas. -/
structure SameCanvas (v v' : Viewer α) : Prop where
  session : v'.session = v.session
  batch : v'.batch = v.batch
  dirty : v'.dirty = v.dirty

namespace SameCanvas

variable {v v' v'' : Viewer α}

theorem refl (v : Viewer α) : SameCanvas v v := ⟨rfl, rfl, rfl⟩

theorem trans (h : SameCanvas v v') (h' : SameCanvas v' v'') : SameCanvas v v'' :=
  ⟨h'.session.trans h.session, h'.batch.trans h.batch, h'.dirty.trans h.dirty⟩

end SameCanvas

section SameCanvas

variable (v : Viewer α)

theorem sameCanvas_begin (plan : Plan) : SameCanvas v (v.begin plan) := by
  unfold begin
  split
  · exact ⟨rfl, rfl, rfl⟩
  · exact .refl v

theorem sameCanvas_takeOutcome (n : Notification) : SameCanvas v (v.takeOutcome n) := by
  unfold takeOutcome
  split
  · exact ⟨rfl, rfl, rfl⟩
  · exact .refl v

theorem sameCanvas_loseSnapshots : SameCanvas v v.loseSnapshots := by
  unfold loseSnapshots
  dsimp only
  split
  · exact ⟨rfl, rfl, rfl⟩
  · exact ⟨rfl, rfl, rfl⟩

theorem sameCanvas_loseOutcomes : SameCanvas v v.loseOutcomes := by
  unfold loseOutcomes
  dsimp only
  split
  · exact ⟨rfl, rfl, rfl⟩
  · exact ⟨rfl, rfl, rfl⟩

theorem sameCanvas_handOver (r : Request) : SameCanvas v (v.handOver r) := by
  unfold handOver
  split
  · exact ⟨rfl, rfl, rfl⟩
  · exact ⟨rfl, rfl, rfl⟩

theorem sameCanvas_cancel_handOver (r : Request) : SameCanvas v (v.cancel.handOver r) := by
  have hcancel : SameCanvas v v.cancel := ⟨rfl, rfl, rfl⟩
  exact hcancel.trans (sameCanvas_handOver v.cancel r)

theorem sameCanvas_agree : SameCanvas v v.agree := by
  unfold agree
  split
  next => exact .refl v
  next r _ => exact sameCanvas_cancel_handOver v r
  next =>
    split
    next r _ => exact sameCanvas_cancel_handOver v r
    next => exact ⟨rfl, rfl, rfl⟩

theorem sameCanvas_settle (values : Entries String) : SameCanvas v (v.settle values).1 := by
  have henter : SameCanvas v { v with pending := v.pending.map (Pending.withValues values) } :=
    ⟨rfl, rfl, rfl⟩
  have hcancel : ∀ v : Viewer α, SameCanvas v v.cancel := fun _ => ⟨rfl, rfl, rfl⟩
  rw [settle_eq]
  exact (henter.trans (sameCanvas_agree _)).trans (hcancel _)

theorem sameCanvas_fill (field text : String) : SameCanvas v ((v.fill? field text).getD v) := by
  unfold fill?
  cases v.pending.bind (·.fill? field text) with
  | none => exact .refl v
  | some pending => exact ⟨rfl, rfl, rfl⟩

theorem sameCanvas_scroll : SameCanvas v v.scroll := by
  unfold scroll
  split
  · exact .refl v
  · exact ⟨rfl, rfl, rfl⟩

end SameCanvas

/-! ### Effects -/

/-- Effects neither touch the session nor the frame. They set the mark if a frame is asked for, and
never take it away. -/
theorem applyEffects_spec (v : Viewer α) (effects : List Effect) :
    (v.applyEffects effects).session = v.session ∧ (v.applyEffects effects).batch = v.batch ∧
      ((v.applyEffects effects).dirty = false → v.dirty = false ∧ .redraw ∉ effects) := by
  unfold applyEffects
  induction effects generalizing v with
  | nil => exact ⟨rfl, rfl, fun h => ⟨h, List.not_mem_nil⟩⟩
  | cons e rest ih =>
    obtain ⟨hsession, hbatch, hdirty⟩ := ih (v.applyEffect e)
    have hmem : .redraw ∉ rest → e ≠ .redraw → .redraw ∉ e :: rest := fun hrest he h => by
      rcases List.mem_cons.mp h with h | h
      · exact he h.symm
      · exact hrest h
    rw [List.foldl_cons]
    cases e with
    | redraw => exact ⟨hsession, hbatch, fun h => absurd (hdirty h).1 (by simp [applyEffect])⟩
    | dispatch plan =>
      have hsame : SameCanvas v (v.begin plan) := sameCanvas_begin v plan
      refine ⟨hsession.trans hsame.session, hbatch.trans hsame.batch, fun h => ?_⟩
      obtain ⟨hv, hrest⟩ := hdirty h
      exact ⟨hsame.dirty.symm.trans hv, hmem hrest nofun⟩
    | focusCompanion id =>
      exact ⟨hsession, hbatch, fun h => absurd (hdirty h).1 (by simp [applyEffect])⟩
    | fullscreenChanged value =>
      refine ⟨hsession, hbatch, fun h => ?_⟩
      obtain ⟨hv, hrest⟩ := hdirty h
      exact ⟨hv, hmem hrest nofun⟩

/-! ### What has to do with the canvas -/

variable [Scalar α]

/-- A frame that is not marked as out of date is there, and is the one that would be drawn now,
whatever the number of it. -/
def UpToDate (v : Viewer α) : Prop :=
  v.dirty = false →
    ∃ b, v.batch = some b ∧ ∀ sequence, { b with sequence } = v.session.compose sequence

theorem SameCanvas.upToDate {v v' : Viewer α} (h : SameCanvas v v') (hv : v.UpToDate) :
    v'.UpToDate := by
  unfold UpToDate
  rw [h.session, h.batch, h.dirty]
  exact hv

namespace UpToDate

variable {v : Viewer α}

/-- A marked frame need not be that of the session. -/
theorem of_dirty (h : v.dirty = true) : v.UpToDate := fun hclean => by
  rw [h] at hclean
  cases hclean

/-- **Passing an event on.** Either the effects ask for a frame, and the mark is set, or the session
is drawn as before. -/
theorem forward (hv : v.UpToDate) (event : Event α) : (v.forward event).UpToDate := by
  intro hclean
  obtain ⟨hsession, hbatch, hdirty⟩ :=
    applyEffects_spec { v with session := (v.session.handle event).1 } (v.session.handle event).2
  obtain ⟨hbefore, hquiet⟩ := hdirty hclean
  obtain ⟨b, hb, hcompose⟩ := hv hbefore
  refine ⟨b, hbatch.trans hb, fun sequence => ?_⟩
  calc { b with sequence }
      = v.session.compose sequence := hcompose sequence
    _ = (v.session.handle event).1.compose sequence :=
        (Session.compose_of_quiet hquiet sequence).symm
    _ = (v.forward event).session.compose sequence :=
        congrArg (fun session => session.compose sequence) hsession.symm

/-- A frame that has just been drawn is that of the session. -/
theorem draw (v : Viewer α) : v.draw.1.UpToDate := fun _ =>
  ⟨v.session.render.2, rfl, fun _ => rfl⟩

theorem drawIfNeeded (hv : v.UpToDate) : v.drawIfNeeded.UpToDate := by
  unfold Viewer.drawIfNeeded
  split
  · exact draw v
  · exact hv

/-- A snapshot that is taken over sets the mark; a stale one changes nothing. -/
theorem takeRefresh (hv : v.UpToDate) (event : Refresh.Event) : (v.takeRefresh event).UpToDate := by
  unfold Viewer.takeRefresh
  split
  · exact hv
  · cases event with
    | updated clusters revision trigger =>
      dsimp only
      split
      · exact of_dirty rfl
      · exact hv
    | failed trigger message => exact SameCanvas.upToDate ⟨rfl, rfl, rfl⟩ hv

/-- Bringing a node into view sets the mark. -/
theorem focus (hv : v.UpToDate) (nodeId : String) : ((v.focus? nodeId).getD v).UpToDate := by
  unfold Viewer.focus?
  cases hfocus : v.session.focus? nodeId with
  | none => exact hv
  | some next =>
    obtain ⟨path, -, hnext⟩ := Option.bind_eq_some_iff.mp hfocus
    obtain rfl := Option.some.inj hnext
    exact of_dirty rfl

theorem key (hv : v.UpToDate) (k : Key) : (v.key k).UpToDate := by
  cases k with
  | escape =>
    change (if v.pending.isSome then v.cancel else v.forward .dismiss).UpToDate
    split
    · exact SameCanvas.upToDate ⟨rfl, rfl, rfl⟩ hv
    · exact hv.forward .dismiss
  | f11 => exact hv.forward .toggleFullscreen

theorem actuate (hv : v.UpToDate) (control : Control) : (v.actuate control).UpToDate := by
  cases control with
  | refresh => exact SameCanvas.upToDate ⟨rfl, rfl, rfl⟩ hv
  | fullscreen => exact hv.forward .toggleFullscreen
  | row nodeId => exact hv.focus nodeId
  | agree => exact (sameCanvas_agree v).upToDate hv
  | cancel => exact SameCanvas.upToDate ⟨rfl, rfl, rfl⟩ hv

/-! ### Frames of the window -/

theorem fitCanvas (hv : v.UpToDate) (viewport : Viewport α) : (v.fitCanvas viewport).UpToDate := by
  unfold Viewer.fitCanvas
  split
  · exact hv
  · exact hv.forward (.resized viewport)

/-- The viewer may remember another place of the pointer before it passes an event on. -/
theorem forward_lastPointer (hv : v.UpToDate) (lastPointer : Option (Point α)) (event : Event α) :
    ({ v with lastPointer }.forward event).UpToDate := by
  have hmoved : UpToDate { v with lastPointer } := SameCanvas.upToDate ⟨rfl, rfl, rfl⟩ hv
  exact hmoved.forward event

theorem hover (hv : v.UpToDate) (p : Point α) : (v.hover p).UpToDate := by
  unfold Viewer.hover
  split
  · exact hv
  · exact hv.forward_lastPointer (some p) (.pointerMoved p)

theorem follow (hv : v.UpToDate) (pointer : Pointer α) : (v.follow pointer).UpToDate := by
  match pointer with
  | .away =>
    change v.leave.UpToDate
    unfold Viewer.leave
    split
    · exact hv.forward_lastPointer none .pointerLeft
    · exact hv
  | .over p => exact hv.hover p
  | .clicking p => exact (hv.hover p).forward (.clicked p)

theorem frame (hv : v.UpToDate) (screen : Screen α) (pointer : Pointer α) :
    (v.frame screen pointer).UpToDate := by
  -- before and after the canvas, notices, scrolling and the dialog are looked after
  have hexpire : SameCanvas v { v with notices := Notice.expire v.now v.notices } := ⟨rfl, rfl, rfl⟩
  have hbefore := hexpire.trans (sameCanvas_scroll _)
  unfold Viewer.frame
  dsimp only
  generalize { v with notices := Notice.expire v.now v.notices }.scroll = v₁ at hbefore ⊢
  have hfit := (hbefore.upToDate hv).fitCanvas
    (if v₁.session.view.fullscreen then screen.full else screen.beside)
  have hcanvas := (hfit.follow pointer).drawIfNeeded
  exact SameCanvas.upToDate ⟨rfl, rfl, rfl⟩ hcanvas

end UpToDate

/-! ### Runs -/

/-- **Every input leaves the frame up to date.** -/
theorem upToDate_step (v : Viewer α) (input : Input α) (hv : v.UpToDate) :
    (v.step input).UpToDate := by
  cases input with
  | refreshed event => exact hv.takeRefresh event
  | outcome n => exact (sameCanvas_takeOutcome v n).upToDate hv
  | snapshotsLost => exact (sameCanvas_loseSnapshots v).upToDate hv
  | outcomesLost => exact (sameCanvas_loseOutcomes v).upToDate hv
  | requestsLost => exact SameCanvas.upToDate ⟨rfl, rfl, rfl⟩ hv
  | waited ms => exact SameCanvas.upToDate ⟨rfl, rfl, rfl⟩ hv
  | fetched => exact SameCanvas.upToDate ⟨rfl, rfl, rfl⟩ hv
  | key k => exact hv.key k
  | pressed control => exact hv.actuate control
  | filled field text => exact (sameCanvas_fill v field text).upToDate hv
  | settled values => exact (sameCanvas_settle v values).upToDate hv
  | canvas event => exact hv.forward event
  | focused nodeId => exact hv.focus nodeId
  | drawn => exact .draw v
  | frame screen pointer => exact hv.frame screen pointer

/-- **The painted frame is never out of date.** An event whose effects do not ask for a frame leaves
a session that is drawn as before. So at any time in the life of a viewer, whatever session it was
opened on, a frame that is not marked is there and is, but for its number, the one that the session
would draw now. -/
theorem frame_never_stale (s : Session α) :
    (∀ event, .redraw ∉ (s.handle event).2 →
      ∀ sequence, (s.handle event).1.compose sequence = s.compose sequence) ∧
    ∀ inputs, let v := (Viewer.start s).run inputs
      v.dirty = false →
        ∃ b, v.batch = some b ∧ ∀ sequence, { b with sequence } = v.session.compose sequence := by
  refine ⟨fun event hquiet => Session.compose_of_quiet hquiet, fun inputs => ?_⟩
  have hstart : (Viewer.start s).UpToDate := .of_dirty rfl
  exact run_induction (I := UpToDate) upToDate_step hstart inputs

/-- A frame outlives a move of the pointer while a menu is open, and is that of the session. -/
theorem frame_never_stale_menu :
    let s : Session Rat := Session.start 9 .standard .standard (some "c1") .standard
    let inputs : List (Input Rat) :=
      [.refreshed (.updated [Snapshot.Sample.cluster "c1" [1] .primary] 1 .startup),
        .canvas (.clicked ⟨684, 216⟩), .drawn, .canvas (.pointerMoved ⟨700, 230⟩)]
    let v := (Viewer.start s).run inputs
    (∃ anchor, v.session.view.openMenu? = some ("zone1", anchor)) ∧ v.dirty = false ∧
      (∃ b, v.batch = some b ∧ ∀ sequence, { b with sequence } = v.session.compose sequence) ∧
      .redraw ∉ (v.session.handle .pointerLeft).2 ∧
      ∀ sequence,
        (v.session.handle .pointerLeft).1.compose sequence = v.session.compose sequence := by
  intro s inputs v
  have hmenu : v.session.view.openMenu? = some ("zone1", ⟨684, 216⟩) := by decide +kernel
  have hclean : v.dirty = false := by decide +kernel
  have hquiet : .redraw ∉ (v.session.handle .pointerLeft).2 := by
    have hnone : (v.session.handle .pointerLeft).2.isEmpty := by decide +kernel
    rw [List.isEmpty_iff.mp hnone]
    exact List.not_mem_nil
  exact ⟨⟨_, hmenu⟩, hclean, (frame_never_stale s).2 inputs hclean, hquiet,
    (frame_never_stale v.session).1 .pointerLeft hquiet⟩

end Viewer

end ClusterMap
