import ClusterMap.Count
import ClusterMap.Snapshot.Source

/-!
# The refresh loop

A worker fetches the snapshot at the start, at regular intervals, and on request. Requests are held
back for a while so that several in a row lead to one fetch; each of them starts the wait anew.

`Loop` is what the worker knows between two wakings. Being woken sets what is pending
(`Loop.wake`); once the deadline has passed the pending fetch is due (`Loop.due?`), and its outcome
becomes an event (`Loop.conclude`). Successful fetches are numbered from one.
-/

namespace ClusterMap.Refresh

/-- The length of an interval where none is chosen, in milliseconds. -/
def standardPoll : Nat := 10000

/-- How long a request is held back where nothing is chosen, in milliseconds. -/
def standardDebounce : Nat := 200

/-- Why a snapshot is fetched. -/
inductive Trigger where
  | startup
  | interval
  | requested
deriving DecidableEq, Repr

namespace Trigger

/-- The name of a trigger. -/
def name : Trigger → String
  | .startup => "startup"
  | .interval => "interval"
  | .requested => "requested"

/-- The names of the triggers. -/
def names : List (String × Trigger) :=
  [("startup", .startup), ("interval", .interval), ("requested", .requested)]

/-- Why one fetch happens that serves a pending trigger and another one. A request prevails. -/
def merge : Option Trigger → Trigger → Trigger
  | none, next => next
  | some _, .requested => .requested
  | some pending, .startup | some pending, .interval => pending

end Trigger

/-- What the worker tells. -/
inductive Event where
  | updated (clusters : List Snapshot.Cluster) (revision : Nat) (trigger : Trigger)
  | failed (trigger : Trigger) (message : String)

/-- Why the worker wakes up. -/
inductive Wake where
  /-- A refresh was requested. -/
  | request
  /-- An interval is over. -/
  | tick
  /-- The deadline has come. -/
  | deadline
deriving DecidableEq, Repr

/-- What the worker knows. -/
structure Loop where
  pending : Option Trigger
  /-- When the pending fetch is due, in milliseconds. -/
  deadline : Option Nat
  /-- The number of the last successful fetch. -/
  revision : Nat
deriving DecidableEq, Repr, Inhabited

namespace Loop

/-- The loop at the start: one fetch is due at once. -/
def start (now : Nat) : Loop := ⟨some .startup, some now, 0⟩

/-- The loop after a waking. -/
def wake (debounce now : Nat) (l : Loop) : Wake → Loop
  | .request =>
    { l with pending := some (.merge l.pending .requested), deadline := some (now + debounce) }
  | .tick =>
    { l with pending := some (.merge l.pending .interval), deadline := l.deadline.or (some now) }
  | .deadline => l

/-- The trigger of the fetch that is due. -/
def due? (now : Nat) (l : Loop) : Option Trigger :=
  match l.deadline, l.pending with
  | some deadline, some trigger => if deadline ≤ now then some trigger else none
  | _, _ => none

/-- The loop while a fetch runs. -/
def begin (l : Loop) : Loop := { l with pending := none, deadline := none }

/-- The loop after a fetch, and what the worker tells of it. -/
def conclude (l : Loop) (trigger : Trigger) : Snapshot.Result → Loop × Event
  | .ok clusters =>
    let revision := Count.next l.revision
    ({ l with revision }, .updated clusters revision trigger)
  | .error e => (l, .failed trigger e.message)

end Loop

end ClusterMap.Refresh
