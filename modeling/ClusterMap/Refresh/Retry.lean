import ClusterMap.Count
import ClusterMap.Snapshot.Source

/-!
# Repeated attempts

A snapshot is asked for again after a failure that may pass, a limited number of times and with
growing pauses in between. The number of an attempt and the length of a pause are held at the limits
of 32 and 64 bits.
-/

namespace ClusterMap.Refresh

/-- The pause after a failed attempt, in milliseconds; attempts count from one. -/
def retryDelay (attempt : Nat) : Nat :=
  Nat.min (250 * Nat.pow 2 (Nat.min (attempt - 1) 5)) Count.limit

/-- The largest number of attempts. -/
def attemptLimit : Nat := 4294967295

/-- How many attempts there are when so many may be repeated. -/
def totalAttempts (maxRetries : Nat) : Nat := Nat.min (maxRetries + 1) attemptLimit

/-- The number of the attempt after another one. -/
def nextAttempt (attempt : Nat) : Nat := Nat.min (attempt + 1) attemptLimit

/-- Before the last attempt the number is not at its limit. -/
theorem nextAttempt_of_lt {maxRetries attempt : Nat} (h : attempt < totalAttempts maxRetries) :
    nextAttempt attempt = attempt + 1 :=
  Nat.min_eq_left (Nat.lt_of_lt_of_le h (Nat.min_le_right _ _))

/-- What is done to obtain a snapshot. -/
inductive Deed where
  | attempt (number : Nat)
  | pause (ms : Nat)
deriving DecidableEq, Repr

/-- Whether something that is done is an attempt. -/
def Deed.isAttempt : Deed → Bool
  | .attempt _ => true
  | .pause _ => false

/-- What a series of attempts came to. -/
structure Series where
  /-- What was done, in order. -/
  deeds : List Deed
  /-- The outcome of the last attempt. -/
  outcome : Snapshot.Result

/-- How many attempts were made. -/
def Series.attempts (s : Series) : Nat := s.deeds.countP Deed.isAttempt

/-- Makes attempt number `attempt`, and more of them as long as they fail in a way that may pass and
one more is allowed. -/
def attemptFrom (maxRetries : Nat) (once : Nat → Snapshot.Result) (attempt : Nat) : Series :=
  match once attempt with
  | .ok clusters => ⟨[.attempt attempt], .ok clusters⟩
  | .error e =>
    if attempt < totalAttempts maxRetries ∧ e.isRetryable then
      let later := attemptFrom maxRetries once (nextAttempt attempt)
      { later with deeds := .attempt attempt :: .pause (retryDelay attempt) :: later.deeds }
    else ⟨[.attempt attempt], .error e⟩
termination_by totalAttempts maxRetries - attempt
decreasing_by
  next h =>
    rw [nextAttempt_of_lt h.1]
    omega

/-- Asks for a snapshot; `once` is the outcome of each single attempt. -/
def fetch (maxRetries : Nat) (once : Nat → Snapshot.Result) : Series :=
  attemptFrom maxRetries once 1

end ClusterMap.Refresh
