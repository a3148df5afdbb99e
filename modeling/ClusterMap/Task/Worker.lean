import ClusterMap.Task.Receipt

/-!
# The worker that carries out requests

Requests are carried out one after the other, each once and whatever became of those before. The
worker tells what came of each, and asks for a refresh before that if something may have changed. It
stops when it is told to, or when nobody listens any more.
-/

namespace ClusterMap.Task

/-- What the worker is given. -/
inductive Command where
  | execute (request : Request)
  | shutdown

/-- The request to carry out. -/
def Command.request? : Command → Option Request
  | .execute r => some r
  | .shutdown => none

/-- What the worker does, as it is seen from outside. -/
inductive Deed where
  /-- A request is submitted to the service, whose answer is waited for. -/
  | submitted (request : Request)
  | refreshAsked
  /-- An outcome is told to whoever listens. -/
  | told (outcome : Outcome)

namespace Deed

/-- The request that is submitted. -/
def request? : Deed → Option Request
  | .submitted r => some r
  | .refreshAsked | .told _ => none

/-- The outcome that is told. -/
def outcome? : Deed → Option Outcome
  | .told o => some o
  | .submitted _ | .refreshAsked => none

/-- Whether a refresh is asked for. -/
def asksRefresh : Deed → Bool
  | .refreshAsked => true
  | .submitted _ | .told _ => false

end Deed

/-- Submits a request, and asks for a refresh if its outcome calls for one. -/
def attempt (r : Request) (o : Outcome) : List Deed :=
  .submitted r :: if o.refresh then [.refreshAsked] else []

/-- What the worker does with commands, one after the other, up to a shutdown. The service answers
submission number `n` with `service n`, and `timeoutMs` is how long an answer is waited for.
`heard n` tells whether somebody still listens to outcome number `n`. -/
def deeds (timeoutMs : Nat) (service : Nat → Http.Answer) (heard : Nat → Bool) (n : Nat) :
    List Command → List Deed
  | [] | .shutdown :: _ => []
  | .execute r :: rest =>
    let o := Outcome.of r (Receipt.ofAnswer timeoutMs (service n))
    attempt r o ++ if heard n then .told o :: deeds timeoutMs service heard (n + 1) rest else []

/-- What the worker has done. -/
structure Work where
  /-- What was submitted to the service, in order. -/
  submitted : List Request
  /-- What came of each submission. -/
  outcomes : List Outcome
  /-- How many refreshes were asked for. -/
  refreshes : Nat

/-- Works through commands while somebody listens. -/
def work (timeoutMs : Nat) (service : Nat → Http.Answer) (n : Nat) (commands : List Command) :
    Work :=
  let done := deeds timeoutMs service (fun _ => true) n commands
  { submitted := done.filterMap Deed.request?
    outcomes := done.filterMap Deed.outcome?
    refreshes := done.countP Deed.asksRefresh }

end ClusterMap.Task
