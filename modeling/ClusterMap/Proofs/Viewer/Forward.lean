import ClusterMap.Proofs.Session.Menu
import ClusterMap.Proofs.Viewer.Input
import ClusterMap.Proofs.Viewer.Pending

/-!
# Events that a viewer passes on

Some inputs make a viewer pass events on to its session: a key, a button, the events of the canvas,
and a frame, which may pass on the size of the canvas and what the pointer does. Which events these
are can be told beforehand (`Viewer.passedOn`), and the session runs just these
(`Viewer.session_step_of_passedOn`).

Passing events on makes no request, and touches the pending action only by the plans that the
session reports (`Viewer.passOn_frame`, `Viewer.frame_frame`).
-/

namespace ClusterMap

/-! ### Plans that are reported -/

/-- The plan that an effect leaves to the host. -/
def Effect.plan? : Effect → Option Plan
  | .dispatch plan => some plan
  | .redraw | .focusCompanion _ | .fullscreenChanged _ => none

theorem Effect.eq_dispatch_of_plan? {e : Effect} {plan : Plan} (h : e.plan? = some plan) :
    e = .dispatch plan := by
  cases e with
  | dispatch plan' => rw [Option.some.inj h]
  | redraw | focusCompanion | fullscreenChanged => cases h

namespace Session

variable {α : Type} [Scalar α]

/-- The plans that a session reports while it runs one event after the other. -/
def plans (s : Session α) : List (Event α) → List Plan
  | [] => []
  | e :: rest => (s.handle e).2.filterMap Effect.plan? ++ (s.handle e).1.plans rest

/-- The session after several events. -/
def handleAll (s : Session α) (events : List (Event α)) : Session α :=
  events.foldl (fun s e => (s.handle e).1) s

theorem handleAll_append (s : Session α) (events rest : List (Event α)) :
    s.handleAll (events ++ rest) = (s.handleAll events).handleAll rest :=
  List.foldl_append

theorem plans_append (s : Session α) (events rest : List (Event α)) :
    s.plans (events ++ rest) = s.plans events ++ (s.handleAll events).plans rest := by
  induction events generalizing s with
  | nil => rfl
  | cons e events ih =>
    rw [List.cons_append, plans, ih, plans, List.append_assoc]
    rfl

/-- A plan that is reported asks for something, and the user has entered nothing for it yet. -/
theorem exists_request_of_mem_plans {s : Session α} {events : List (Event α)} {plan : Plan}
    (h : plan ∈ s.plans events) : ∃ r, plan.request? = some r ∧ r.payload = none := by
  induction events generalizing s with
  | nil => exact absurd h List.not_mem_nil
  | cons e rest ih =>
    rcases List.mem_append.mp h with h | h
    · obtain ⟨effect, heffect, hplan⟩ := List.mem_filterMap.mp h
      rw [Effect.eq_dispatch_of_plan? hplan] at heffect
      obtain ⟨-, id, a, -, -, rfl, hignore⟩ := exists_hitTest_of_dispatch heffect
      unfold planFor at hignore ⊢
      cases hnode : s.tree.find? id with
      | none => rw [hnode] at hignore; exact absurd rfl hignore
      | some node =>
        rw [hnode] at hignore
        obtain ⟨-, clusterId, -, hrequest⟩ := Plan.of_ne_ignore hignore
        exact ⟨_, hrequest, rfl⟩
    · exact ih h

end Session

namespace Viewer

variable {α : Type}

/-! ### Effects -/

theorem applyEffects_cons (v : Viewer α) (e : Effect) (rest : List Effect) :
    v.applyEffects (e :: rest) = (v.applyEffect e).applyEffects rest := rfl

/-- What stays pending after plans were reported: the last of them that asks for something. -/
def pendingAfter (p : Option Pending) (plans : List Plan) : Option Pending :=
  plans.foldl (fun p plan => (Pending.ofPlan? plan).or p) p

theorem pendingAfter_append (p : Option Pending) (plans rest : List Plan) :
    pendingAfter p (plans ++ rest) = pendingAfter (pendingAfter p plans) rest :=
  List.foldl_append

/-- Effects touch the pending action by their plans alone, and make no request. -/
theorem applyEffects_frame (v : Viewer α) (effects : List Effect) :
    let v' := v.applyEffects effects
    v'.session = v.session ∧ v'.lastPointer = v.lastPointer ∧ v'.requests = v.requests ∧
      v'.pending = pendingAfter v.pending (effects.filterMap Effect.plan?) := by
  induction effects generalizing v with
  | nil => exact ⟨rfl, rfl, rfl, rfl⟩
  | cons e rest ih =>
    rw [applyEffects_cons]
    obtain ⟨hsession, hpointer, hrequests, hpending⟩ := ih (v.applyEffect e)
    dsimp only
    rw [hsession, hpointer, hrequests, hpending]
    cases e with
    | redraw => exact ⟨rfl, rfl, rfl, rfl⟩
    | focusCompanion nodeId => exact ⟨rfl, rfl, rfl, rfl⟩
    | fullscreenChanged value =>
      refine ⟨rfl, rfl, ?_, rfl⟩
      -- an order, but not a request
      simp [applyEffect, ask, requests, Order.request?]
    | dispatch plan => cases plan <;> exact ⟨rfl, rfl, rfl, rfl⟩

/-! ### What is passed on -/

variable [Scalar α]

/-- The events that the session is passed when the pointer is at a point of the canvas. -/
def hovered (last : Option (Point α)) (p : Point α) : List (Event α) :=
  if last.any (·.same p) then [] else [.pointerMoved p]

/-- The events that the session is passed when the pointer, last seen somewhere, does something. -/
def followed (last : Option (Point α)) : Pointer α → List (Event α)
  | .away => if last.isSome then [.pointerLeft] else []
  | .over p => hovered last p
  | .clicking p => hovered last p ++ [.clicked p]

/-- The events that the session is passed when the canvas changes from one size to another. -/
def fitted (current viewport : Viewport α) : List (Event α) :=
  if viewport.same current then [] else [.resized viewport]

/-- The events that the session is passed at an input. -/
def passedOn (v : Viewer α) : Input α → List (Event α)
  | .canvas e => [e]
  | .key .escape => if v.pending.isSome then [] else [.dismiss]
  | .key .f11 | .pressed .fullscreen => [.toggleFullscreen]
  | .frame screen pointer =>
    fitted v.session.view.viewport
        (if v.session.view.fullscreen then screen.full else screen.beside) ++
      followed v.lastPointer pointer
  | _ => []

/-! ### Passing events on -/

/-- A viewer that passes on one event after the other. -/
def passOn (v : Viewer α) (events : List (Event α)) : Viewer α := events.foldl forward v

theorem passOn_frame (v : Viewer α) (events : List (Event α)) :
    let v' := v.passOn events
    v'.session = v.session.handleAll events ∧ v'.lastPointer = v.lastPointer ∧
      v'.requests = v.requests ∧
      v'.pending = pendingAfter v.pending (v.session.plans events) := by
  induction events generalizing v with
  | nil => exact ⟨rfl, rfl, rfl, rfl⟩
  | cons e rest ih =>
    obtain ⟨hsession, hpointer, hrequests, hpending⟩ :=
      applyEffects_frame { v with session := (v.session.handle e).1 } (v.session.handle e).2
    -- the rest is passed on by the viewer after the first event, to the session after it
    change (v.forward e).session = (v.session.handle e).1 at hsession
    obtain ⟨hsession', hpointer', hrequests', hpending'⟩ := ih (v.forward e)
    rw [hsession] at hsession' hpending'
    refine ⟨hsession', hpointer'.trans hpointer, hrequests'.trans hrequests, ?_⟩
    rw [Session.plans, pendingAfter_append]
    exact hpending'.trans (congrArg (pendingAfter · _) hpending)

theorem hover_eq (v : Viewer α) (p : Point α) :
    ∃ lastPointer, v.hover p = { v with lastPointer }.passOn (hovered v.lastPointer p) := by
  unfold hover hovered
  split
  · exact ⟨v.lastPointer, rfl⟩
  · exact ⟨some p, rfl⟩

/-- The canvas passes on what the pointer does. -/
theorem follow_eq (v : Viewer α) (pointer : Pointer α) :
    ∃ lastPointer,
      v.follow pointer = { v with lastPointer }.passOn (followed v.lastPointer pointer) := by
  match pointer with
  | .away =>
    change ∃ lastPointer, v.leave = { v with lastPointer }.passOn
      (if v.lastPointer.isSome then [.pointerLeft] else [])
    unfold leave
    split
    · exact ⟨none, rfl⟩
    · exact ⟨v.lastPointer, rfl⟩
  | .over p => exact hover_eq v p
  | .clicking p =>
    obtain ⟨lastPointer, h⟩ := hover_eq v p
    refine ⟨lastPointer, ?_⟩
    change (v.hover p).forward (.clicked p) = passOn _ (hovered v.lastPointer p ++ [.clicked p])
    rw [h, passOn, passOn, List.foldl_append]
    rfl

theorem follow_frame (v : Viewer α) (pointer : Pointer α) :
    let events := followed v.lastPointer pointer
    let v' := v.follow pointer
    v'.session = v.session.handleAll events ∧ v'.requests = v.requests ∧
      v'.pending = pendingAfter v.pending (v.session.plans events) := by
  obtain ⟨lastPointer, hfollow⟩ := follow_eq v pointer
  dsimp only
  rw [hfollow]
  obtain ⟨hsession, -, hrequests, hpending⟩ :=
    passOn_frame { v with lastPointer } (followed v.lastPointer pointer)
  exact ⟨hsession, hrequests, hpending⟩

theorem fitCanvas_eq (v : Viewer α) (viewport : Viewport α) :
    v.fitCanvas viewport = v.passOn (fitted v.session.view.viewport viewport) := by
  unfold fitCanvas fitted
  split <;> rfl

theorem drawIfNeeded_frame (v : Viewer α) :
    (v.drawIfNeeded.session = v.session ∨ v.drawIfNeeded.session = v.session.render.1) ∧
      v.drawIfNeeded.requests = v.requests ∧ v.drawIfNeeded.pending = v.pending := by
  unfold drawIfNeeded
  split
  · exact ⟨.inr rfl, rfl, rfl⟩
  · exact ⟨.inl rfl, rfl, rfl⟩

/-- The canvas passes on its size, and then what the pointer does. -/
theorem canvas_frame (v : Viewer α) (viewport : Viewport α) (pointer : Pointer α) :
    let events := fitted v.session.view.viewport viewport ++ followed v.lastPointer pointer
    let v' := (v.fitCanvas viewport).follow pointer
    v'.session = v.session.handleAll events ∧ v'.requests = v.requests ∧
      v'.pending = pendingAfter v.pending (v.session.plans events) := by
  obtain ⟨hsession, hpointer, hrequests, hpending⟩ :=
    passOn_frame v (fitted v.session.view.viewport viewport)
  rw [← fitCanvas_eq] at hsession hpointer hrequests hpending
  obtain ⟨hsession', hrequests', hpending'⟩ := follow_frame (v.fitCanvas viewport) pointer
  -- the pointer was last seen where it was before the size was passed on
  rw [hpointer, hsession] at hsession' hpending'
  rw [hpending] at hpending'
  intro events v'
  refine ⟨?_, hrequests'.trans hrequests, ?_⟩
  · rw [Session.handleAll_append]
    exact hsession'
  · rw [Session.plans_append, pendingAfter_append]
    exact hpending'

/-- What is passed on in a frame is passed on before the canvas is drawn and the dialog is shown. -/
theorem frame_frame (v : Viewer α) (screen : Screen α) (pointer : Pointer α) :
    let events := v.passedOn (.frame screen pointer)
    let v' := v.frame screen pointer
    (v'.session = v.session.handleAll events ∨
        v'.session = (v.session.handleAll events).render.1) ∧
      v'.requests = v.requests ∧
      v'.pending = (pendingAfter v.pending (v.session.plans events)).map Pending.shown := by
  -- before the canvas come messages and scrolling, which touch nothing that is asked here
  have hbefore : ∃ v₁ : Viewer α, { v with notices := Notice.expire v.now v.notices }.scroll = v₁ ∧
      v₁.session = v.session ∧ v₁.lastPointer = v.lastPointer ∧ v₁.requests = v.requests ∧
      v₁.pending = v.pending := by
    refine ⟨_, rfl, ?_⟩
    unfold scroll
    split <;> exact ⟨rfl, rfl, rfl, rfl⟩
  obtain ⟨v₁, hv₁, hsession₁, hpointer₁, hrequests₁, hpending₁⟩ := hbefore
  obtain ⟨hsession, hrequests, hpending⟩ := canvas_frame v₁
    (if v₁.session.view.fullscreen then screen.full else screen.beside) pointer
  unfold frame
  dsimp only [passedOn]
  rw [hv₁]
  generalize (v₁.fitCanvas (if v₁.session.view.fullscreen then screen.full
    else screen.beside)).follow pointer = v₂ at hsession hrequests hpending ⊢
  rw [hsession₁, hpointer₁] at hsession
  rw [hsession₁, hpointer₁, hpending₁] at hpending
  obtain ⟨hdrawn, hrequests', hpending'⟩ := drawIfNeeded_frame v₂
  refine ⟨?_, hrequests'.trans (hrequests.trans hrequests₁), ?_⟩
  · rw [← hsession]
    exact hdrawn
  · rw [hpending', hpending]

/-- **The events that are passed on are those that the session runs.** -/
theorem session_step_of_passedOn (v : Viewer α) (input : Input α) (h : v.passedOn input ≠ []) :
    let s := v.session.handleAll (v.passedOn input)
    (v.step input).session = s ∨ (v.step input).session = s.render.1 := by
  cases input with
  | canvas e => exact .inl (passOn_frame v [e]).1
  | frame screen pointer => exact (frame_frame v screen pointer).1
  | key k =>
    cases k with
    | f11 => exact .inl (passOn_frame v [.toggleFullscreen]).1
    | escape =>
      -- with something pending nothing is passed on
      cases hpending : v.pending with
      | some p => exact absurd (by simp [passedOn, hpending]) h
      | none =>
        have hpassed : v.passedOn (.key .escape) = [.dismiss] := by simp [passedOn, hpending]
        have hstep : v.step (.key .escape) = v.passOn [.dismiss] := by
          simp [step, key, hpending, passOn]
        dsimp only
        rw [hpassed, hstep]
        exact .inl (passOn_frame v [.dismiss]).1
  | pressed control =>
    cases control with
    | fullscreen => exact .inl (passOn_frame v [.toggleFullscreen]).1
    | refresh | row | agree | cancel => exact absurd rfl h
  | refreshed | outcome | snapshotsLost | outcomesLost | requestsLost | waited | fetched
  | filled | settled | focused | drawn => exact absurd rfl h

end Viewer

end ClusterMap
