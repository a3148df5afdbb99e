import ClusterMap.Proofs.Viewer.Forward

/-!
# What is requested was chosen and agreed to

The history of a run (`Viewer.history`) lists what is seen of the pending action, input by input.
What an input decides is found by going through all inputs (`Viewer.decides_step`), and the rest is
the induction over the run (`Viewer.Accounts.run`).

It comes to `Viewer.requests_agreed`: right before a request in the history stands the choice of the
plan that it fulfils. So no two requests share a choice, and nothing is requested of an action that
was dropped or replaced in between.
-/

namespace ClusterMap

namespace Viewer

variable {α : Type}

/-! ### What is seen in a run -/

/-- The requests that the host gets at an input. -/
def fetchedAt (v : Viewer α) : Input α → List Request
  | .fetched => v.requests
  | _ => []

variable [Scalar α]

/-- What is seen at an input. -/
def seen (v : Viewer α) (input : Input α) : List Happening :=
  v.happenings (v.step input) (v.session.plans (v.passedOn input))

/-- What is seen in a run. -/
def history (v : Viewer α) : List (Input α) → List Happening
  | [] => []
  | input :: rest => v.seen input ++ (v.step input).history rest

/-- The requests that the host gets in a run. -/
def fetched (v : Viewer α) : List (Input α) → List Request
  | [] => []
  | input :: rest => v.fetchedAt input ++ (v.step input).fetched rest

/-! ### What an input decides -/

/-- A plan that a session reports takes the place of what was pending. -/
theorem decides_of_plans {v v' : Viewer α} {s : Session α} {events : List (Event α)}
    (hpending : v'.pending.map Pending.plan =
      (pendingAfter v.pending (s.plans events)).map Pending.plan)
    (hrequests : v'.requests = v.requests) :
    Decides v v' (v.happenings v' (s.plans events)) := by
  rcases List.eq_nil_or_concat (s.plans events) with hplans | ⟨plans, plan, hplans⟩
  · rw [hplans] at hpending ⊢
    exact decides_of_same hpending hrequests
  · have hmem : plan ∈ s.plans events := by simp [hplans]
    obtain ⟨r, hr, hpayload⟩ := Session.exists_request_of_mem_plans hmem
    -- the last plan asks for something, so it is the one that is pending
    obtain ⟨q, hq⟩ := Option.isSome_iff_exists.mp
      (Pending.isSome_ofPlan? (Option.isSome_of_eq_some hr))
    have hafter : pendingAfter v.pending (s.plans events) = some q := by
      rw [hplans, List.concat_eq_append, pendingAfter_append]
      change (Pending.ofPlan? plan).or _ = some q
      rw [hq, Option.some_or]
    rw [hafter, Option.map_some, Pending.plan_of_ofPlan? hq] at hpending
    obtain ⟨p, hp, hplan⟩ := Option.map_eq_some_iff.mp hpending
    have hrequest : p.request = r := by
      have hrequest := Pending.request?_plan p
      rw [hplan, hr] at hrequest
      exact (Option.some.inj hrequest).symm
    have hsent : v.sentUntil v' = [] := sentUntil_of_eq (by rw [hrequests, List.append_nil])
    have hseen : v.happenings v' (s.plans events) = (plans ++ [p.plan]).map .chosen := by
      simp [happenings, hsent, hp, hplans, hplan]
    rw [hseen]
    exact .chosen plans p hp (hrequest ▸ hpayload) hrequests

/-- Passing events on decides nothing beyond the plans that are reported for them. -/
theorem decides_passOn (v : Viewer α) (events : List (Event α)) :
    Decides v (v.passOn events) (v.happenings (v.passOn events) (v.session.plans events)) := by
  obtain ⟨-, -, hrequests, hpending⟩ := passOn_frame v events
  exact decides_of_plans (congrArg (Option.map Pending.plan) hpending) hrequests

section Inputs

variable (v : Viewer α)

theorem decides_takeRefresh (event : Refresh.Event) :
    Decides v (v.takeRefresh event) (v.happenings (v.takeRefresh event) []) := by
  unfold takeRefresh
  split
  · exact decides_of_same rfl rfl
  · cases event with
    | updated clusters revision trigger =>
      dsimp only
      split
      · exact decides_of_same rfl rfl
      · exact decides_of_same rfl rfl
    | failed trigger message => exact decides_of_same rfl rfl

theorem decides_focus (nodeId : String) :
    Decides v ((v.focus? nodeId).getD v) (v.happenings ((v.focus? nodeId).getD v) []) := by
  unfold focus?
  cases hfocus : v.session.focus? nodeId with
  | none => exact decides_of_same rfl rfl
  | some next =>
    -- the effect is that of bringing a node into view, never a plan
    obtain ⟨path, -, hnext⟩ := Option.bind_eq_some_iff.mp hfocus
    obtain rfl := Option.some.inj hnext
    exact decides_of_same rfl rfl

theorem decides_key (k : Key) :
    Decides v (v.key k) (v.happenings (v.key k) (v.session.plans (v.passedOn (.key k)))) := by
  cases k with
  | f11 => exact decides_passOn v [.toggleFullscreen]
  | escape =>
    change Decides v (if v.pending.isSome then v.cancel else v.forward .dismiss)
      (v.happenings (if v.pending.isSome then v.cancel else v.forward .dismiss)
        (v.session.plans (if v.pending.isSome then [] else [.dismiss])))
    split
    · exact decides_of_gone rfl rfl
    · exact decides_passOn v [.dismiss]

theorem decides_actuate (control : Control) :
    Decides v (v.actuate control)
      (v.happenings (v.actuate control) (v.session.plans (v.passedOn (.pressed control)))) := by
  cases control with
  | refresh =>
    -- an order, but not a request
    have hrequests : (v.ask .refresh).requests = v.requests := by
      simp [ask, requests, Order.request?]
    exact decides_of_same rfl hrequests
  | fullscreen => exact decides_passOn v [.toggleFullscreen]
  | row nodeId => exact decides_focus v nodeId
  | agree => exact decides_agree v
  | cancel => exact decides_of_gone rfl rfl

theorem decides_frame (screen : Screen α) (pointer : Pointer α) :
    Decides v (v.frame screen pointer) (v.happenings (v.frame screen pointer)
      (v.session.plans (v.passedOn (.frame screen pointer)))) := by
  obtain ⟨-, hrequests, hpending⟩ := frame_frame v screen pointer
  refine decides_of_plans ?_ hrequests
  -- showing a dialog leaves the plan that it comes from
  rw [hpending, Option.map_map]
  exact congrArg (Option.map · _) (funext Pending.plan_shown)

/-- **What an input decides.** Every input apart from the fetching of orders keeps what is pending,
replaces it by a plan that is reported, drops it, or requests it. -/
theorem decides_step {input : Input α} (h : input ≠ .fetched) :
    Decides v (v.step input) (v.seen input) := by
  cases input with
  | refreshed event => exact decides_takeRefresh v event
  | outcome n => exact decides_takeOutcome v n
  | snapshotsLost => exact decides_loseSnapshots v
  | outcomesLost => exact decides_loseOutcomes v
  | requestsLost => exact decides_of_same rfl rfl
  | waited ms => exact decides_of_same rfl rfl
  | fetched => exact absurd rfl h
  | key k => exact decides_key v k
  | pressed control => exact decides_actuate v control
  | filled field text => exact decides_fill v field text
  | settled values => exact decides_settle v values
  | canvas event => exact decides_passOn v [event]
  | focused nodeId => exact decides_focus v nodeId
  | drawn => exact decides_of_same rfl rfl
  | frame screen pointer => exact decides_frame v screen pointer

end Inputs

/-! ### Runs -/

namespace Accounts

variable {v : Viewer α} {fetched : List Request} {log : List Happening}

/-- **One input.** -/
theorem step (h : v.Accounts fetched log) (input : Input α) :
    (v.step input).Accounts (fetched ++ v.fetchedAt input) (log ++ v.seen input) := by
  by_cases hinput : input = .fetched
  · -- the outbox is emptied, and nothing is decided
    subst hinput
    have hkept : (v.pending.isSome && v.pending.isNone) = false := by cases v.pending <;> rfl
    have hsent : v.sentUntil (v.step .fetched) = [] := List.drop_nil
    have hseen : v.seen .fetched = [] := by
      rw [seen, happenings, hsent]
      change (if (v.pending.isSome && v.pending.isNone && _) = true then _ else _) ++ _ = _
      rw [hkept]
      rfl
    refine ⟨?_, ?_, ?_⟩
    · rw [hseen, List.append_nil, ← h.requests]
      exact List.append_nil _
    · rw [hseen, List.append_nil]
      exact h.pending
    · rw [hseen, List.append_nil]
      exact h.granted
  · have hnothing : v.fetchedAt input = [] := by
      cases input with
      | fetched => exact absurd rfl hinput
      | _ => rfl
    rw [hnothing, List.append_nil]
    exact h.decided (decides_step v hinput)

/-- **Run induction.** A history goes on telling of the viewer. -/
theorem run (h : v.Accounts fetched log) (inputs : List (Input α)) :
    (v.run inputs).Accounts (fetched ++ v.fetched inputs) (log ++ v.history inputs) := by
  induction inputs generalizing v fetched log with
  | nil =>
    rw [Viewer.fetched, history, List.append_nil, List.append_nil]
    exact h
  | cons input rest ih =>
    rw [Viewer.fetched, history, ← List.append_assoc, ← List.append_assoc]
    exact ih (h.step input)

end Accounts

end Viewer

end ClusterMap
