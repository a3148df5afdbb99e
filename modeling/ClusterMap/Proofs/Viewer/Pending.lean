import ClusterMap.Proofs.Task.Dialog
import ClusterMap.Proofs.Task.Target
import ClusterMap.Viewer.State

/-!
# Decisions about the pending action

A viewer has one place for a pending action. Clicks in a menu fill it, the user empties it by
agreeing or by dropping the action, and any number of other inputs come in between.

What is seen of this (`Viewer.happenings`) is read off from outside: which plans the session
reported, which requests were put into the outbox, and where a pending action went away without one.
It says nothing of why a request was made. What may be behind it is one of four things
(`Viewer.Decides`), and one of them is what each operation comes to.

A history of such things is in order if every request comes right after the choice of the plan that
it fulfils (`Viewer.Granted`). It stays in order as long as it ends with the choice of what is
pending (`Viewer.Accounts`).
-/

namespace ClusterMap

/-! ### Plans and pending actions -/

/-- A request does what a plan asks for. After a confirmation it is just that; after a dialog it
also has a non-empty trimmed text under the key of every field of the dialog, and nothing else. -/
def Plan.FulfilledBy : Plan → Request → Prop
  | .ignore, _ => False
  | .confirm _ asked, r => r = asked ∧ r.payload = none
  | .openDialog d asked, r => ∃ texts : Entries String,
      r = { asked with payload := some (.ofMembers (texts.map fun (k, s) => (k, .text s))) } ∧
        (texts.map Prod.fst).Perm (d.fields.map (·.key)) ∧
        ∀ e ∈ texts, e.2 ≠ "" ∧ Text.trim e.2 = e.2

namespace Viewer

namespace Pending

/-- The plan that a pending action comes from. -/
def plan : Pending → Plan
  | .confirm message r => .confirm message r
  | .dialog d r _ _ => .openDialog d r

theorem request?_plan (p : Pending) : p.plan.request? = some p.request := by
  cases p <;> rfl

theorem request_eq_of_plan {p q : Pending} (h : p.plan = q.plan) : p.request = q.request := by
  have hrequest := congrArg Plan.request? h
  rw [request?_plan, request?_plan] at hrequest
  exact Option.some.inj hrequest

theorem plan_of_ofPlan? {plan : Plan} {p : Pending} (h : ofPlan? plan = some p) :
    p.plan = plan := by
  cases plan with
  | openDialog d r => obtain rfl := Option.some.inj h; rfl
  | confirm message r => obtain rfl := Option.some.inj h; rfl
  | ignore => cases h

theorem isSome_ofPlan? {plan : Plan} (h : plan.request?.isSome) : (ofPlan? plan).isSome := by
  cases plan with
  | openDialog d r => rfl
  | confirm message r => rfl
  | ignore => cases h

theorem plan_shown (p : Pending) : p.shown.plan = p.plan := by
  cases p <;> rfl

theorem plan_of_fill? {p p' : Pending} {field text : String} (h : p.fill? field text = some p') :
    p'.plan = p.plan := by
  cases p with
  | confirm => cases h
  | dialog d r values error => obtain rfl := Option.some.inj h; rfl

theorem plan_withValues (p : Pending) (values : Entries String) :
    (p.withValues values).plan = p.plan := by
  cases p <;> rfl

/-- **Agreeing fulfils the plan.** -/
theorem fulfilledBy_of_agreed? {p : Pending} {r : Request} (h : p.agreed? = some r)
    (hpayload : p.request.payload = none) : p.plan.FulfilledBy r := by
  cases p with
  | confirm message asked =>
    obtain rfl := Option.some.inj h
    exact ⟨rfl, hpayload⟩
  | dialog d asked values error =>
    change (complete d asked values).toOption = some r at h
    unfold complete at h
    cases hd : d.payload values with
    | error f => rw [hd] at h; cases h
    | ok payload =>
      rw [hd] at h
      obtain ⟨hall, texts, htexts, hperm⟩ := Dialog.exists_of_payload hd
      refine ⟨texts, htexts ▸ (Option.some.inj h).symm, ?_, fun e he => ?_⟩
      · have hkeys := hperm.map Prod.fst
        rwa [List.map_map] at hkeys
      · obtain ⟨f, hf, rfl⟩ := List.mem_map.mp (hperm.mem_iff.mp he)
        exact ⟨hall f hf, Dialog.given_trimmed f⟩

end Pending

/-! ### What happens, seen from outside -/

/-- What can be seen of a decision. -/
inductive Happening where
  /-- The session reported a plan. -/
  | chosen (plan : Plan)
  /-- The pending action went away, and nothing was requested. -/
  | dropped
  | sent (request : Request)

/-- The request that was made. -/
def Happening.request? : Happening → Option Request
  | .sent r => some r
  | .chosen _ | .dropped => none

/-- The request in an order. -/
def Order.request? : Order → Option Request
  | .execute r => some r
  | .refresh | .setFullscreen _ => none

variable {α : Type}

/-- The requests in the outbox. -/
def requests (v : Viewer α) : List Request := v.outbox.filterMap Order.request?

/-- What a viewer has put into the outbox of requests until it became another one. -/
def sentUntil (v v' : Viewer α) : List Request := v'.requests.drop v.requests.length

/-- What is seen of a viewer that becomes another one while its session reports plans. A request
that is made while a plan is reported comes first, so that it cannot be put down to this plan. -/
def happenings (v v' : Viewer α) (plans : List Plan) : List Happening :=
  (v.sentUntil v').map .sent ++
    (if v.pending.isSome && v'.pending.isNone && (v.sentUntil v').isEmpty then [.dropped]
      else []) ++
    plans.map .chosen

/-! ### What is decided -/

/-- What an input may do to the pending action, and what is seen of it. -/
inductive Decides (v v' : Viewer α) : List Happening → Prop
  /-- The action stays, though it may be shown or filled in. -/
  | idle (hpending : v'.pending.map Pending.plan = v.pending.map Pending.plan)
      (hrequests : v'.requests = v.requests) : Decides v v' []
  /-- Plans are reported, of which the last takes the place of what was pending. -/
  | chosen (plans : List Plan) (p : Pending) (hpending : v'.pending = some p)
      (hpayload : p.request.payload = none) (hrequests : v'.requests = v.requests) :
      Decides v v' ((plans ++ [p.plan]).map .chosen)
  | dropped (hpending : v'.pending = none) (hrequests : v'.requests = v.requests) :
      Decides v v' [.dropped]
  /-- The action is requested, and is not pending any more. -/
  | sent (p : Pending) (r : Request) (hp : v.pending = some p)
      (hr : p.request.payload = none → p.plan.FulfilledBy r) (hpending : v'.pending = none)
      (hrequests : v'.requests = v.requests ++ [r]) : Decides v v' [.sent r]

section Decides

variable {v v' : Viewer α}

theorem sentUntil_of_eq {rs : List Request} (h : v'.requests = v.requests ++ rs) :
    v.sentUntil v' = rs := by
  rw [sentUntil, h, List.drop_left]

/-- Nothing is seen of a viewer that keeps what is pending. -/
theorem decides_of_same (hpending : v'.pending.map Pending.plan = v.pending.map Pending.plan)
    (hrequests : v'.requests = v.requests) : Decides v v' (v.happenings v' []) := by
  have hsent : v.sentUntil v' = [] := sentUntil_of_eq (by rw [hrequests, List.append_nil])
  have hkept : (v.pending.isSome && v'.pending.isNone) = false := by
    have hsome := congrArg Option.isSome hpending
    rw [Option.isSome_map, Option.isSome_map] at hsome
    rw [← hsome, ← Option.not_isSome, Bool.and_not_self]
  have hseen : v.happenings v' [] = [] := by simp [happenings, hsent, hkept]
  rw [hseen]
  exact .idle hpending hrequests

/-- A viewer that lets go of what is pending and requests nothing is seen to drop it. -/
theorem decides_of_gone (hpending : v'.pending = none) (hrequests : v'.requests = v.requests) :
    Decides v v' (v.happenings v' []) := by
  cases hv : v.pending with
  | none => exact decides_of_same (by rw [hpending, hv]) hrequests
  | some p =>
    have hsent : v.sentUntil v' = [] := sentUntil_of_eq (by rw [hrequests, List.append_nil])
    have hseen : v.happenings v' [] = [.dropped] := by simp [happenings, hsent, hv, hpending]
    rw [hseen]
    exact .dropped hpending hrequests

/-- A request that is handed over is seen to be sent, unless it is not taken any more. -/
theorem decides_handOver {p : Pending} {r : Request} (hp : v.pending = some p)
    (hr : p.request.payload = none → p.plan.FulfilledBy r) :
    Decides v (v.cancel.handOver r) (v.happenings (v.cancel.handOver r) []) := by
  unfold handOver
  split
  next =>
    have hrequests : (v.cancel.ask (.execute r)).requests = v.requests ++ [r] := by
      simp [ask, cancel, requests, Order.request?]
    have hseen : v.happenings (v.cancel.ask (.execute r)) [] = [.sent r] := by
      simp [happenings, sentUntil_of_eq hrequests]
    rw [hseen]
    exact .sent p r hp hr rfl hrequests
  next => exact decides_of_gone rfl rfl

end Decides

/-! ### What the user and the workers do -/

section Operations

variable (v : Viewer α)

theorem decides_takeOutcome (n : Notification) :
    Decides v (v.takeOutcome n) (v.happenings (v.takeOutcome n) []) := by
  unfold takeOutcome
  split <;> exact decides_of_same rfl rfl

theorem decides_loseSnapshots : Decides v v.loseSnapshots (v.happenings v.loseSnapshots []) := by
  unfold loseSnapshots
  dsimp only
  split <;> exact decides_of_same rfl rfl

theorem decides_loseOutcomes : Decides v v.loseOutcomes (v.happenings v.loseOutcomes []) := by
  unfold loseOutcomes
  dsimp only
  split <;> exact decides_of_same rfl rfl

theorem decides_fill (field text : String) :
    Decides v ((v.fill? field text).getD v) (v.happenings ((v.fill? field text).getD v) []) := by
  unfold fill?
  cases hfill : v.pending.bind (·.fill? field text) with
  | none => exact decides_of_same rfl rfl
  | some p =>
    obtain ⟨q, hq, hp⟩ := Option.bind_eq_some_iff.mp hfill
    refine decides_of_same ?_ rfl
    change some p.plan = v.pending.map Pending.plan
    rw [hq, Option.map_some, Pending.plan_of_fill? hp]

/-- **The user agrees.** The request is the one that was pending, or the dialog stays. -/
theorem decides_agree : Decides v v.agree (v.happenings v.agree []) := by
  unfold agree
  split
  next => exact decides_of_same rfl rfl
  next message r hp =>
    exact decides_handOver hp (Pending.fulfilledBy_of_agreed? rfl)
  next d r values error hp =>
    split
    next r' hcomplete =>
      have hagreed : (Pending.dialog d r values error).agreed? = some r' := by
        rw [Pending.agreed?, hcomplete]
        rfl
      exact decides_handOver hp (Pending.fulfilledBy_of_agreed? hagreed)
    next f _ =>
      refine decides_of_same ?_ rfl
      rw [hp]
      rfl

theorem decides_settle (values : Entries String) :
    Decides v (v.settle values).1 (v.happenings (v.settle values).1 []) := by
  unfold settle
  split
  next r hagreed =>
    obtain ⟨p, hp, hr⟩ := Option.bind_eq_some_iff.mp hagreed
    refine decides_handOver hp fun hpayload => ?_
    rw [← Pending.plan_withValues p values]
    refine Pending.fulfilledBy_of_agreed? hr ?_
    cases p <;> exact hpayload
  next => exact decides_of_gone rfl rfl

end Operations

/-- Each request in a history comes right after the choice of the plan that it fulfils. -/
def Granted (log : List Happening) : Prop :=
  ∀ before r after, log = before ++ .sent r :: after →
    ∃ earlier plan, before = earlier ++ [.chosen plan] ∧ plan.FulfilledBy r

namespace Granted

theorem nil : Granted [] := by
  intro before r after h
  exact absurd h.symm (by simp)

/-- One thing more happens. If it is a request, the plan that it fulfils has just been chosen. -/
theorem append_one {log : List Happening} (hlog : Granted log) {x : Happening}
    (hx : ∀ r, x = .sent r → ∃ earlier plan, log = earlier ++ [.chosen plan] ∧ plan.FulfilledBy r) :
    Granted (log ++ [x]) := by
  intro before r after h
  -- the request is the last thing that happened, or it was there before
  rcases List.eq_nil_or_concat after with rfl | ⟨after', y, rfl⟩
  · obtain ⟨rfl, hxr⟩ := List.append_inj' h rfl
    exact hx r (List.cons.inj hxr).1
  · rw [List.concat_eq_append, ← List.cons_append, ← List.append_assoc] at h
    obtain ⟨hbefore, -⟩ := List.append_inj' h rfl
    exact hlog before r after' hbefore

theorem append_chosen {log : List Happening} (hlog : Granted log) (plans : List Plan) :
    Granted (log ++ plans.map .chosen) := by
  induction plans generalizing log with
  | nil => rwa [List.map_nil, List.append_nil]
  | cons plan rest ih =>
    have hone : Granted (log ++ [.chosen plan]) := hlog.append_one fun r h => by cases h
    rw [List.map_cons, List.append_cons]
    exact ih hone

end Granted

/-- What a history tells of a viewer: which requests there have been, and, as the last thing that
happened, the choice of what is pending. -/
structure Accounts (v : Viewer α) (fetched : List Request) (log : List Happening) : Prop where
  requests : fetched ++ v.requests = log.filterMap Happening.request?
  pending : ∀ p, v.pending = some p →
    p.request.payload = none ∧ ∃ earlier, log = earlier ++ [.chosen p.plan]
  granted : Granted log

namespace Accounts

variable {v v' : Viewer α} {fetched : List Request} {log : List Happening}

theorem decided (h : v.Accounts fetched log) {seen : List Happening} (hd : v.Decides v' seen) :
    v'.Accounts fetched (log ++ seen) := by
  cases hd with
  | idle hpending hrequests =>
    rw [List.append_nil]
    refine ⟨hrequests ▸ h.requests, fun p hp => ?_, h.granted⟩
    rw [hp, Option.map_some] at hpending
    obtain ⟨q, hq, hplan⟩ := Option.map_eq_some_iff.mp hpending.symm
    obtain ⟨hpayload, hlast⟩ := h.pending q hq
    rw [Pending.request_eq_of_plan hplan, hplan] at *
    exact ⟨hpayload, hlast⟩
  | chosen plans p hpending hpayload hrequests =>
    refine ⟨?_, fun q hq => ?_, h.granted.append_chosen _⟩
    · have hnone :
          ((plans ++ [p.plan]).map Happening.chosen).filterMap Happening.request? = [] := by
        rw [List.filterMap_map]
        exact List.filterMap_eq_nil_iff.mpr fun plan _ => rfl
      rw [List.filterMap_append, hnone, List.append_nil, hrequests]
      exact h.requests
    · obtain rfl : p = q := Option.some.inj (hpending.symm.trans hq)
      refine ⟨hpayload, log ++ plans.map .chosen, ?_⟩
      rw [List.map_append, List.append_assoc]
      rfl
  | dropped hpending hrequests =>
    refine ⟨?_, fun q hq => ?_, h.granted.append_one fun r hr => by cases hr⟩
    · rw [List.filterMap_append, hrequests, h.requests]
      exact (List.append_nil _).symm
    · rw [hpending] at hq
      cases hq
  | sent p r hp hr hpending hrequests =>
    obtain ⟨hpayload, earlier, hlast⟩ := h.pending p hp
    refine ⟨?_, fun q hq => ?_, h.granted.append_one fun r' hr' => ?_⟩
    · rw [List.filterMap_append, hrequests, ← List.append_assoc, h.requests]
      rfl
    · rw [hpending] at hq
      cases hq
    · obtain rfl : r = r' := Happening.sent.inj hr'
      exact ⟨earlier, p.plan, hlast, hr hpayload⟩

theorem start (s : Session α) : (Viewer.start s).Accounts [] [] :=
  ⟨rfl, fun _ hp => absurd hp nofun, Granted.nil⟩

end Accounts

end Viewer

end ClusterMap
