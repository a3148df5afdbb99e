import ClusterMap.Task.Worker

/-!
# What the worker carries out

While somebody listens, what the worker does falls into one stretch for each request that comes
before the first shutdown (`Task.deeds_eq_flatMap`). A stretch begins with the only submission in it
and ends with the only outcome, and a refresh is asked for in it exactly if the service takes the
request on (`Task.TakesOn`). From this the three channels are read off: requests out, refreshes, and
outcomes back (`Task.requests_carried_out`).

Commands may come in at any time. What was done before a command came is not changed by it
(`Task.deeds_isPrefix_append`), and if nobody listens any more there is only less to be submitted
(`Task.submitted_isPrefix`).
-/

namespace ClusterMap.Task

/-! ### Answers -/

/-- The body of an answer takes a request on: it is blank, or a receipt that does not say
otherwise. -/
def TakenOnBy (body : String) : Prop :=
  Text.trim body = "" ∨ ∃ receipt,
    Json.parseWith (Json.expectRecord "struct TaskReceipt" Receipt.fields Receipt.empty) body =
      .ok receipt ∧ receipt.accepted ≠ some false

/-- The service takes a request on. -/
def TakesOn : Http.Answer → Prop
  | .response status body => Http.isSuccess status = true ∧ TakenOnBy body
  | .timeout | .transport _ => False

theorem exists_parse_eq_ok_iff (body : String) :
    (∃ receipt, Receipt.parse body = .ok receipt) ↔ TakenOnBy body := by
  unfold Receipt.parse
  by_cases hblank : Text.trim body = ""
  · have hempty : (Text.trim body).isEmpty = true := by simpa using hblank
    rw [if_pos hempty]
    exact ⟨fun _ => .inl hblank, fun _ => ⟨_, rfl⟩⟩
  · have hempty : ¬ (Text.trim body).isEmpty = true := by simpa using hblank
    rw [if_neg hempty]
    -- the text is read, and what is read may refuse
    cases hread : Json.parseWith
        (Json.expectRecord "struct TaskReceipt" Receipt.fields Receipt.empty) body with
    | error fault =>
      constructor
      · rintro ⟨receipt, h⟩
        cases h
      · rintro (h | ⟨receipt, h, -⟩)
        · exact absurd h hblank
        · rw [hread] at h
          cases h
    | ok receipt =>
      change (∃ r, (if receipt.accepted = some false then Except.error _ else .ok receipt) =
        Except.ok r) ↔ _
      by_cases hrefused : receipt.accepted = some false
      · rw [if_pos hrefused]
        constructor
        · rintro ⟨r, h⟩
          cases h
        · rintro (h | ⟨r, h, haccepted⟩)
          · exact absurd h hblank
          · obtain rfl : receipt = r := Except.ok.inj (hread.symm.trans h)
            exact absurd hrefused haccepted
      · rw [if_neg hrefused]
        exact ⟨fun _ => .inr ⟨receipt, hread, hrefused⟩, fun _ => ⟨receipt, rfl⟩⟩

/-- **Success.** An answer counts as one exactly if the service takes the request on. -/
theorem exists_ofAnswer_eq_ok_iff (timeoutMs : Nat) (answer : Http.Answer) :
    (∃ receipt, Receipt.ofAnswer timeoutMs answer = .ok receipt) ↔ TakesOn answer := by
  cases answer with
  | timeout => exact ⟨fun ⟨_, h⟩ => absurd h nofun, False.elim⟩
  | transport e => exact ⟨fun ⟨_, h⟩ => absurd h nofun, False.elim⟩
  | response status body =>
    unfold Receipt.ofAnswer TakesOn
    dsimp only
    rw [← exists_parse_eq_ok_iff]
    by_cases hstatus : Http.isSuccess status = true
    · rw [if_pos hstatus]
      exact ⟨fun h => ⟨hstatus, h⟩, And.right⟩
    · rw [if_neg hstatus]
      exact ⟨fun ⟨_, h⟩ => absurd h nofun, fun h => absurd h.1 hstatus⟩

/-- What is told of a request that is taken on. -/
theorem outcome_of_takesOn (timeoutMs : Nat) {answer : Http.Answer} (h : TakesOn answer)
    (r : Request) :
    let o := Outcome.of r (Receipt.ofAnswer timeoutMs answer)
    o.refresh = true ∧ o.notification.level = .success := by
  obtain ⟨receipt, hreceipt⟩ := (exists_ofAnswer_eq_ok_iff timeoutMs answer).mpr h
  rw [hreceipt]
  exact ⟨rfl, rfl⟩

/-- What is told of a request that is not. -/
theorem outcome_of_not_takesOn (timeoutMs : Nat) {answer : Http.Answer} (h : ¬ TakesOn answer)
    (r : Request) :
    let o := Outcome.of r (Receipt.ofAnswer timeoutMs answer)
    o.refresh = false ∧ o.notification.level = .error ∧ o.taskId = none := by
  cases hanswer : Receipt.ofAnswer timeoutMs answer with
  | error e => exact ⟨rfl, rfl, rfl⟩
  | ok receipt => exact absurd ((exists_ofAnswer_eq_ok_iff timeoutMs answer).mp ⟨_, hanswer⟩) h

/-! ### Stretches of work -/

/-- The requests that are given to the worker before it is told to stop. -/
def given (commands : List Command) : List Request :=
  (commands.takeWhile fun c => c.request?.isSome).filterMap Command.request?

theorem given_execute (r : Request) (rest : List Command) :
    given (.execute r :: rest) = r :: given rest := rfl

/-- What comes of a request. -/
def outcome (timeoutMs : Nat) (answer : Http.Answer) (r : Request) : Outcome :=
  Outcome.of r (Receipt.ofAnswer timeoutMs answer)

/-- What is done about one request while somebody listens. -/
def stretch (timeoutMs : Nat) (answer : Http.Answer) (r : Request) : List Deed :=
  attempt r (outcome timeoutMs answer r) ++ [.told (outcome timeoutMs answer r)]

theorem request?_attempt (r : Request) (o : Outcome) :
    (attempt r o).filterMap Deed.request? = [r] := by
  unfold attempt
  split <;> rfl

theorem outcome?_attempt (r : Request) (o : Outcome) :
    (attempt r o).filterMap Deed.outcome? = [] := by
  unfold attempt
  split <;> rfl

theorem asksRefresh_attempt (r : Request) (o : Outcome) :
    (attempt r o).countP Deed.asksRefresh = [o].countP (·.refresh) := by
  unfold attempt
  rw [List.countP_cons, List.countP_singleton]
  split <;> rfl

section Deeds

variable (timeoutMs : Nat) (service : Nat → Http.Answer) {heard : Nat → Bool}

/-- **One stretch a request.** -/
theorem deeds_eq_flatMap (hheard : ∀ n, heard n = true) (n : Nat) (commands : List Command) :
    deeds timeoutMs service heard n commands =
      ((given commands).zipIdx n).flatMap fun x => stretch timeoutMs (service x.2) x.1 := by
  induction commands generalizing n with
  | nil => rfl
  | cons c rest ih =>
    cases c with
    | shutdown => rfl
    | execute r =>
      rw [given_execute, List.zipIdx_cons, List.flatMap_cons, ← ih (n + 1), deeds, hheard n,
        stretch, List.append_assoc]
      rfl

/-! ### Commands that come later, and listeners that leave -/

/-- **What is done is done.** Commands that come later do not change what was done before. -/
theorem deeds_isPrefix_append (n : Nat) (commands later : List Command) :
    deeds timeoutMs service heard n commands <+:
      deeds timeoutMs service heard n (commands ++ later) := by
  induction commands generalizing n with
  | nil => exact List.nil_prefix
  | cons c rest ih =>
    cases c with
    | shutdown => exact List.prefix_refl _
    | execute r =>
      rw [List.cons_append, deeds, deeds]
      refine (List.prefix_append_right_inj _).mpr ?_
      -- the worker goes on with the rest, or it stops in both runs alike
      split
      · exact (List.prefix_cons_inj _).mpr (ih (n + 1))
      · exact List.prefix_refl _

/-- Whoever listens, no request is submitted that was not given, none twice, and none out of
turn. -/
theorem submitted_isPrefix (n : Nat) (commands : List Command) :
    (deeds timeoutMs service heard n commands).filterMap Deed.request? <+: given commands := by
  induction commands generalizing n with
  | nil => exact List.nil_prefix
  | cons c rest ih =>
    cases c with
    | shutdown => exact List.nil_prefix
    | execute r =>
      rw [given_execute, deeds, List.filterMap_append, request?_attempt, List.singleton_append]
      refine (List.prefix_cons_inj _).mpr ?_
      split
      · exact ih (n + 1)
      · exact List.nil_prefix

end Deeds

/-! ### The three channels -/

section Channels

variable (timeoutMs : Nat) (service : Nat → Http.Answer) (numbered : List (Request × Nat))

theorem request?_stretches :
    (numbered.flatMap fun x => stretch timeoutMs (service x.2) x.1).filterMap Deed.request? =
      numbered.map Prod.fst := by
  rw [List.filterMap_flatMap, List.map_eq_flatMap]
  congr 1
  funext x
  rw [stretch, List.filterMap_append, request?_attempt]
  rfl

theorem outcome?_stretches :
    (numbered.flatMap fun x => stretch timeoutMs (service x.2) x.1).filterMap Deed.outcome? =
      numbered.map fun x => outcome timeoutMs (service x.2) x.1 := by
  rw [List.filterMap_flatMap, List.map_eq_flatMap]
  congr 1
  funext x
  rw [stretch, List.filterMap_append, outcome?_attempt]
  rfl

theorem asksRefresh_stretches :
    (numbered.flatMap fun x => stretch timeoutMs (service x.2) x.1).countP Deed.asksRefresh =
      (numbered.map fun x => outcome timeoutMs (service x.2) x.1).countP (·.refresh) := by
  induction numbered with
  | nil => rfl
  | cons x rest ih =>
    rw [List.flatMap_cons, List.countP_append, ih, List.map_cons, ← List.singleton_append,
      List.countP_append]
    congr 1
    rw [stretch, List.countP_append, asksRefresh_attempt]
    rfl

end Channels

/-- **What the worker does.** While somebody listens, the worker submits the requests that come
before the first shutdown, each once and in their order. Behind each submission it asks for a
refresh if the outcome calls for one, and tells the outcome. So there are as many outcomes as
submissions, in the same order, and as many refreshes as there are outcomes that call for one.

An outcome calls for a refresh exactly if the service takes the request on. Otherwise it is told as
an error and without a task. -/
theorem requests_carried_out (timeoutMs : Nat) (service : Nat → Http.Answer) {heard : Nat → Bool}
    (hheard : ∀ n, heard n = true) (commands : List Command) :
    let numbered := (given commands).zipIdx
    let outcomes := numbered.map fun x => outcome timeoutMs (service x.2) x.1
    let done := deeds timeoutMs service heard 0 commands
    (done = numbered.flatMap fun x => stretch timeoutMs (service x.2) x.1) ∧
    done.filterMap Deed.request? = given commands ∧
    done.filterMap Deed.outcome? = outcomes ∧
    done.countP Deed.asksRefresh = outcomes.countP (·.refresh) ∧
    ∀ answer r, let o := outcome timeoutMs answer r
      (TakesOn answer → o.refresh = true ∧ o.notification.level = .success) ∧
      (¬ TakesOn answer →
        o.refresh = false ∧ o.notification.level = .error ∧ o.taskId = none) := by
  intro numbered outcomes done
  have hdone : done = numbered.flatMap fun x => stretch timeoutMs (service x.2) x.1 :=
    deeds_eq_flatMap timeoutMs service hheard 0 commands
  refine ⟨hdone, ?_, ?_, ?_, fun answer r => ⟨fun h => ?_, fun h => ?_⟩⟩
  · rw [hdone, request?_stretches, List.zipIdx_map_fst]
  · rw [hdone, outcome?_stretches]
  · rw [hdone, asksRefresh_stretches]
  · exact outcome_of_takesOn timeoutMs h r
  · exact outcome_of_not_takesOn timeoutMs h r

/-- A restart is taken on, no answer comes to a stop, and a shutdown comes before anything else. -/
theorem requests_carried_out_timeout :
    let restart : Request := ⟨.restart, .zone, "zone1", "c1", none⟩
    let stop : Request := ⟨.stop, .zone, "zone1", "c1", none⟩
    let service : Nat → Http.Answer := fun i => if i = 0 then .response 202 " " else .timeout
    let done := deeds 2000 service (fun _ => true) 0
      [.execute restart, .execute stop, .shutdown, .execute restart]
    (∀ n : Nat, (fun _ => true) n = true) ∧
      done.filterMap Deed.request? = [restart, stop] ∧
      done.filterMap Deed.outcome? =
        [outcome 2000 (service 0) restart, outcome 2000 (service 1) stop] ∧
      (outcome 2000 (service 0) restart).refresh = true ∧
      (outcome 2000 (service 1) stop).refresh = false ∧ done.countP Deed.asksRefresh = 1 := by
  intro restart stop service done
  have hheard : ∀ n : Nat, (fun _ => true) n = true := fun _ => rfl
  obtain ⟨-, hsubmitted, houtcomes, hrefreshes, houtcome⟩ :=
    requests_carried_out 2000 service hheard
      [.execute restart, .execute stop, .shutdown, .execute restart]
  have htaken : TakesOn (service 0) := ⟨by decide, .inl (by decide)⟩
  have hrefresh := ((houtcome (service 0) restart).1 htaken).1
  have hnone := ((houtcome (service 1) stop).2 False.elim).1
  refine ⟨hheard, hsubmitted, houtcomes, hrefresh, hnone, hrefreshes.trans ?_⟩
  change [outcome 2000 (service 0) restart, outcome 2000 (service 1) stop].countP (·.refresh) = 1
  rw [List.countP_cons, List.countP_singleton, hrefresh, hnone]
  rfl

end ClusterMap.Task
