import ClusterMap.Refresh.Retry
import Mathlib.Algebra.Group.Nat.Defs
import Mathlib.Order.Bounds.Basic
import Mathlib.Order.Nat

/-!
# How often a snapshot is asked for

An attempt is the last one if its outcome is final or if no further one is allowed
(`Refresh.Stops`). A step of the loop either ends there (`attemptFrom_of_stops`) or records the
attempt and its pause and goes on with the next number (`attemptFrom_of_not_stops`). By induction on
what lies between, a series goes from its first attempt to the first one that is the last
(`attemptFrom_eq`).
-/

namespace ClusterMap.Refresh

/-- Another attempt would not change this: it is a success, or a failure that does not pass. -/
def IsFinal : Snapshot.Result → Prop
  | .ok _ => True
  | .error e => e.isRetryable = false

/-- There is no attempt after this one. -/
def Stops (maxRetries : Nat) (once : Nat → Snapshot.Result) (i : Nat) : Prop :=
  totalAttempts maxRetries ≤ i ∨ IsFinal (once i)

/-- The attempts from one number to another, each but the last with the pause after it. -/
def trace (first last : Nat) : List Deed :=
  ((List.range' first (last - first)).flatMap fun i =>
    [.attempt i, .pause (250 * 2 ^ min (i - 1) 5)]) ++ [.attempt last]

/-! ### Numbers and pauses -/

theorem pause_le (i : Nat) : 250 * 2 ^ min (i - 1) 5 ≤ 8000 := by
  have hpow : 2 ^ min (i - 1) 5 ≤ 2 ^ 5 :=
    Nat.pow_le_pow_right (by decide) (Nat.min_le_right _ _)
  omega

/-- A pause is far from the limit at which it would be held. -/
theorem retryDelay_eq (i : Nat) : retryDelay i = 250 * 2 ^ min (i - 1) 5 :=
  Nat.min_eq_left ((pause_le i).trans (by decide))

theorem one_le_totalAttempts (maxRetries : Nat) : 1 ≤ totalAttempts maxRetries :=
  Nat.le_min.mpr ⟨Nat.le_add_left 1 maxRetries, by decide⟩

/-! ### Traces -/

theorem trace_self (n : Nat) : trace n n = [.attempt n] := by
  rw [trace, Nat.sub_self]
  rfl

theorem trace_of_lt {first last : Nat} (h : first < last) :
    trace first last =
      .attempt first :: .pause (250 * 2 ^ min (first - 1) 5) :: trace (first + 1) last := by
  have hlength : last - first = last - (first + 1) + 1 := by omega
  rw [trace, hlength, List.range'_succ]
  rfl

theorem countP_trace {first last : Nat} (h : first ≤ last) :
    (trace first last).countP Deed.isAttempt = last - first + 1 := by
  induction h using Nat.decreasingInduction with
  | self =>
    rw [trace_self, Nat.sub_self]
    rfl
  | of_succ i hi ih =>
    rw [trace_of_lt hi, List.countP_cons_of_pos rfl,
      List.countP_cons_of_neg (by simp [Deed.isAttempt]), ih]
    omega

theorem le_of_attempt_mem_trace {first last i : Nat} (h : .attempt i ∈ trace first last)
    (hle : first ≤ last) : first ≤ i ∧ i ≤ last := by
  rw [trace, List.mem_append, List.mem_flatMap, List.mem_singleton] at h
  rcases h with ⟨k, hk, hmem⟩ | hlast
  · obtain ⟨hfirst, hlt⟩ := List.mem_range'_1.mp hk
    have hik : i = k := by simpa using hmem
    omega
  · obtain rfl : i = last := by simpa using hlast
    exact ⟨hle, le_rfl⟩

theorem le_of_pause_mem_trace {first last ms : Nat} (h : .pause ms ∈ trace first last) :
    ms ≤ 8000 := by
  rw [trace, List.mem_append, List.mem_flatMap, List.mem_singleton] at h
  rcases h with ⟨k, -, hmem⟩ | hlast
  · obtain rfl : ms = 250 * 2 ^ min (k - 1) 5 := by simpa using hmem
    exact pause_le k
  · cases hlast

/-! ### The loop -/

section Loop

variable {maxRetries : Nat} {once : Nat → Snapshot.Result}

/-- **A step that ends the series.** -/
theorem attemptFrom_of_stops {i : Nat} (h : Stops maxRetries once i) :
    attemptFrom maxRetries once i = ⟨[.attempt i], once i⟩ := by
  unfold attemptFrom
  cases honce : once i with
  | ok clusters => rfl
  | error e =>
    refine if_neg ?_
    rintro ⟨hlt, hretry⟩
    rcases h with hle | hfinal
    · exact Nat.not_le_of_lt hlt hle
    · rw [honce, IsFinal, hretry] at hfinal
      cases hfinal

/-- **A step that goes on.** The series continues with the next number, and its outcome is that of
what follows. -/
theorem attemptFrom_of_not_stops {i : Nat} (h : ¬ Stops maxRetries once i) :
    attemptFrom maxRetries once i =
      ⟨.attempt i :: .pause (250 * 2 ^ min (i - 1) 5) ::
        (attemptFrom maxRetries once (i + 1)).deeds,
        (attemptFrom maxRetries once (i + 1)).outcome⟩ := by
  obtain ⟨hlt, hretry⟩ := not_or.mp h
  have hlt := Nat.lt_of_not_le hlt
  rw [attemptFrom]
  cases honce : once i with
  | ok clusters =>
    rw [honce] at hretry
    exact absurd trivial hretry
  | error e =>
    rw [honce] at hretry
    have hyes : e.isRetryable = true := by simpa [IsFinal] using hretry
    have hgo : i < totalAttempts maxRetries ∧ e.isRetryable = true := ⟨hlt, hyes⟩
    rw [nextAttempt_of_lt hlt, retryDelay_eq]
    exact if_pos hgo

/-- **A whole series.** If no attempt before number `last` is the last one, but that one is, then
all of them are made up to it, and its outcome is what counts. -/
theorem attemptFrom_eq {first last : Nat} (hle : first ≤ last) (hlast : Stops maxRetries once last)
    (hbefore : ∀ i, first ≤ i → i < last → ¬ Stops maxRetries once i) :
    attemptFrom maxRetries once first = ⟨trace first last, once last⟩ := by
  -- from the last attempt back to the first
  induction hle using Nat.decreasingInduction with
  | self => rw [attemptFrom_of_stops hlast, trace_self]
  | of_succ i hi ih =>
    have hlater := ih fun k hk => hbefore k (Nat.le_of_succ_le hk)
    rw [attemptFrom_of_not_stops (hbefore i le_rfl hi), hlater, trace_of_lt hi]

/-- The first attempt that is the last one. -/
theorem exists_isLeast_stops (maxRetries : Nat) (once : Nat → Snapshot.Result) :
    ∃ n, IsLeast {i | 1 ≤ i ∧ Stops maxRetries once i} n := by
  classical
  have hexists : ∃ i, 1 ≤ i ∧ Stops maxRetries once i :=
    ⟨totalAttempts maxRetries, one_le_totalAttempts maxRetries, .inl le_rfl⟩
  exact ⟨Nat.find hexists, Nat.isLeast_find hexists⟩

theorem fetch_eq {n : Nat} (h : IsLeast {i | 1 ≤ i ∧ Stops maxRetries once i} n) :
    fetch maxRetries once = ⟨trace 1 n, once n⟩ := by
  obtain ⟨⟨hpos, hstops⟩, hleast⟩ := h
  refine attemptFrom_eq hpos hstops ?_
  intro i hi hlt hstop
  exact Nat.not_le_of_lt hlt (hleast ⟨hi, hstop⟩)

/-- With a final outcome at `k` a series ends there or where no more attempts are allowed. -/
theorem isLeast_stops_min {k : Nat} (h : IsLeast {i | 1 ≤ i ∧ IsFinal (once i)} k) :
    IsLeast {i | 1 ≤ i ∧ Stops maxRetries once i} (min k (totalAttempts maxRetries)) := by
  obtain ⟨⟨hpos, hfinal⟩, hleast⟩ := h
  refine ⟨⟨Nat.le_min.mpr ⟨hpos, one_le_totalAttempts maxRetries⟩, ?_⟩, ?_⟩
  · rcases Nat.le_total k (totalAttempts maxRetries) with hle | hle
    · rw [Nat.min_eq_left hle]
      exact .inr hfinal
    · rw [Nat.min_eq_right hle]
      exact .inl le_rfl
  · rintro i ⟨hi, htotal | hifinal⟩
    · exact (Nat.min_le_right _ _).trans htotal
    · exact (Nat.min_le_left _ _).trans (hleast ⟨hi, hifinal⟩)

/-- Without a final outcome all attempts that are allowed are made. -/
theorem isLeast_stops_total (h : ∀ i, 1 ≤ i → ¬ IsFinal (once i)) :
    IsLeast {i | 1 ≤ i ∧ Stops maxRetries once i} (totalAttempts maxRetries) := by
  refine ⟨⟨one_le_totalAttempts maxRetries, .inl le_rfl⟩, ?_⟩
  rintro i ⟨hi, htotal | hifinal⟩
  · exact htotal
  · exact absurd hifinal (h i hi)

end Loop

/-- **Attempts are repeated exactly as long as they fail in a way that may pass.** One attempt is
made, and as many more as may be repeated, but none after the first outcome that is final; the
number of attempts ends at that of 32 bits. The last attempt has the outcome of the series. Attempts
are counted from one, and after each but the last there is a pause of a quarter of a second, twice
as long every time until it is eight seconds. -/
theorem fetch_retries (maxRetries : Nat) (once : Nat → Snapshot.Result) :
    let total := min (maxRetries + 1) 4294967295
    let s := fetch maxRetries once
    (∀ k, IsLeast {i | 1 ≤ i ∧ IsFinal (once i)} k → s.attempts = min k total) ∧
    ((∀ i, 1 ≤ i → ¬ IsFinal (once i)) → s.attempts = total) ∧
    s.outcome = once s.attempts ∧
    s.deeds = ((List.range' 1 (s.attempts - 1)).flatMap fun i =>
      [.attempt i, .pause (250 * 2 ^ min (i - 1) 5)]) ++ [.attempt s.attempts] ∧
    (∀ i, .attempt i ∈ s.deeds → 1 ≤ i ∧ i ≤ total) ∧
    ∀ ms, .pause ms ∈ s.deeds → ms ≤ 8000 := by
  intro total s
  obtain ⟨n, hn⟩ := exists_isLeast_stops maxRetries once
  have hs : s = ⟨trace 1 n, once n⟩ := fetch_eq hn
  have hattempts : s.attempts = n := by
    rw [hs, Series.attempts, countP_trace hn.1.1]
    exact Nat.sub_add_cancel hn.1.1
  have hdeeds : s.deeds = trace 1 n := congrArg Series.deeds hs
  rw [hattempts, hdeeds]
  refine ⟨?_, ?_, congrArg Series.outcome hs, rfl, ?_, ?_⟩
  · intro k hk
    exact hn.unique (isLeast_stops_min hk)
  · intro hnone
    exact hn.unique (isLeast_stops_total hnone)
  · intro i hi
    have htotal : n ≤ total := hn.2 ⟨one_le_totalAttempts maxRetries, .inl le_rfl⟩
    obtain ⟨hpos, hle⟩ := le_of_attempt_mem_trace hi hn.1.1
    exact ⟨hpos, hle.trans htotal⟩
  · intro ms hms
    exact le_of_pause_mem_trace hms

/-- Three attempts are made if all time out, and two if the second one succeeds. -/
theorem fetch_retries_timeouts :
    let silent : Nat → Snapshot.Result := fun _ => .error (.timeout 100)
    let second : Nat → Snapshot.Result := fun i => if i = 2 then .ok [] else .error (.timeout 100)
    (fetch 2 silent).deeds =
        [.attempt 1, .pause 250, .attempt 2, .pause 500, .attempt 3] ∧
      IsLeast {i | 1 ≤ i ∧ IsFinal (second i)} 2 ∧ (fetch 2 second).attempts = 2 := by
  intro silent second
  have hnone : ∀ i, 1 ≤ i → ¬ IsFinal (silent i) := by
    intro i _ h
    cases h
  have hsecond : IsLeast {i | 1 ≤ i ∧ IsFinal (second i)} 2 := by
    refine ⟨⟨by decide, trivial⟩, ?_⟩
    rintro i ⟨hi, hfinal⟩
    by_contra hlt
    obtain rfl : i = 1 := by omega
    cases hfinal
  obtain ⟨-, hthree, -, hdeeds, -⟩ := fetch_retries 2 silent
  obtain ⟨htwo, -⟩ := fetch_retries 2 second
  refine ⟨?_, hsecond, htwo 2 hsecond⟩
  rw [hdeeds, hthree hnone]
  decide

end ClusterMap.Refresh
