import ClusterMap.Text.Label
import Mathlib.Algebra.Order.Field.Rat
import Mathlib.Order.Bounds.Basic
import Mathlib.Tactic.Linarith

/-!
# The longest label that fits

How many characters fit a budget is found by trying: first down from a guess and then up. Both ways
keep to counts that fit (`Label.stepDown_spec`, `Label.stepUp_spec`), so where a count fits whenever
a greater one does, the search ends at the greatest of them whatever the guess was
(`Label.isGreatest_search`).

Nothing is said of how the width of a count is rounded. It is zero for no characters and the given
width for one, and it grows with the count (`Label.Measured`), as in single precision for every
positive width that is finite; quotients may be anything. Comparisons are those of a preorder
(`Scalar.Comparable`), which leaves room for scalars that are no numbers.
-/

namespace ClusterMap

open Scalar

/-- Comparisons go together, and counts are counts of one machine word. -/
class Scalar.Comparable (α : Type) [Scalar α] : Prop where
  le_trans {x y z : α} : le x y = true → le y z = true → le x z = true
  lt_iff {x y : α} : lt x y = true ↔ le x y = true ∧ le y x = false
  floorCount_le (x : α) : floorCount x ≤ Count.limit

instance : Scalar.Comparable Rat where
  le_trans := by
    intro x y z hxy hyz
    exact decide_eq_true ((of_decide_eq_true hxy).trans (of_decide_eq_true hyz))
  lt_iff := by
    intro x y
    change decide (x < y) = true ↔ decide (x ≤ y) = true ∧ decide (y ≤ x) = false
    rw [decide_eq_true_iff, decide_eq_true_iff, decide_eq_false_iff_not, lt_iff_le_not_ge]
  floorCount_le := fun x => Nat.min_le_right _ _

namespace Label

/-! ### The search -/

section Search

variable {fits : Nat → Bool} {limit : Nat}

/-- Stepping down ends at a count that fits. -/
theorem stepDown_spec (hzero : fits 0 = true) (guess : Nat) :
    fits (stepDown fits guess) = true ∧ stepDown fits guess ≤ guess := by
  induction guess with
  | zero => exact ⟨hzero, le_rfl⟩
  | succ n ih =>
    unfold stepDown
    split
    next h => exact ⟨h, le_rfl⟩
    next => exact ⟨ih.1, ih.2.trans (Nat.le_succ n)⟩

/-- Stepping up ends at a count that fits, and only where the next one does not or is too great. -/
theorem stepUp_spec {n : Nat} (hn : n ≤ limit) (hfits : fits n = true) :
    fits (stepUp fits limit n) = true ∧ stepUp fits limit n ≤ limit ∧
      ¬ (stepUp fits limit n < limit ∧ fits (stepUp fits limit n + 1) = true) := by
  fun_induction stepUp fits limit n with
  | case1 n h ih => exact ih h.1 h.2
  | case2 n h => exact ⟨hfits, hn, h⟩

/-- **Whatever the guess was, the search ends at the greatest count that fits.** -/
theorem isGreatest_search (hzero : fits 0 = true)
    (hdown : ∀ m n, m ≤ n → n ≤ limit → fits n = true → fits m = true)
    {guess : Nat} (hguess : guess ≤ limit) :
    IsGreatest {n | n ≤ limit ∧ fits n = true} (search fits limit guess) := by
  obtain ⟨hfits, hle⟩ := stepDown_spec hzero guess
  obtain ⟨hend, hlimit, hstop⟩ := stepUp_spec (hle.trans hguess) hfits
  refine ⟨⟨hlimit, hend⟩, ?_⟩
  rintro k ⟨hk, hkfits⟩
  by_contra hlt
  -- beyond the end of the search comes a count that does not fit
  have hnext : search fits limit guess + 1 ≤ k := Nat.lt_of_not_le hlt
  exact hstop ⟨hnext.trans hk, hdown _ k hnext hk hkfits⟩

end Search

/-! ### How many characters fit -/

variable {α : Type} [Scalar α]

/-- The widths of counts of characters, as far as they are relied on. -/
structure Measured (charWidth : α) : Prop where
  pos : lt 0 charWidth = true
  zero : ofNat 0 * charWidth = 0
  one : ofNat 1 * charWidth = charWidth
  mono {m n : Nat} : m ≤ n → n ≤ Count.limit →
    le (ofNat m * charWidth) (ofNat n * charWidth) = true

/-- In exact arithmetic every positive width can be relied on. -/
theorem measured_rat {charWidth : Rat} (h : 0 < charWidth) : Measured charWidth where
  pos := decide_eq_true h
  zero := zero_mul charWidth
  one := one_mul charWidth
  mono := by
    intro m n hmn _
    have hcast : (m : Rat) ≤ n := by exact_mod_cast hmn
    exact decide_eq_true (mul_le_mul_of_nonneg_right hcast h.le)

/-- A text is not wider than a budget. -/
def Fits (budget charWidth : α) (s : String) : Prop := le (width s charWidth) budget = true

variable {budget charWidth : α}

theorem fitsIn_zero (hwidth : Measured charWidth) (hbudget : le 0 budget = true) :
    fitsIn budget charWidth 0 = true := by
  rw [fitsIn, hwidth.zero]
  exact hbudget

variable [Comparable α]

theorem fitsIn_of_le (hwidth : Measured charWidth) (m n : Nat) (hmn : m ≤ n)
    (hn : n ≤ Count.limit) (h : fitsIn budget charWidth n = true) :
    fitsIn budget charWidth m = true :=
  Comparable.le_trans (hwidth.mono hmn hn) h

theorem isGreatest_search_fitsIn (hwidth : Measured charWidth) (hbudget : le 0 budget = true)
    {guess : Nat} (hguess : guess ≤ Count.limit) :
    IsGreatest {n | n ≤ Count.limit ∧ fitsIn budget charWidth n = true}
      (search (fitsIn budget charWidth) Count.limit guess) :=
  isGreatest_search (fitsIn_zero hwidth hbudget) (fitsIn_of_le hwidth) hguess

/-- The greatest count that fits is found, also where the budget is zero and nothing is searched
for. -/
theorem isGreatest_capacity (hwidth : Measured charWidth) (hbudget : le 0 budget = true) :
    IsGreatest {n | n ≤ Count.limit ∧ fitsIn budget charWidth n = true}
      (capacity budget charWidth) := by
  unfold capacity
  rw [hwidth.pos, Bool.true_and]
  split
  next => exact isGreatest_search_fitsIn hwidth hbudget (Comparable.floorCount_le _)
  next hnone =>
    -- the budget is at most zero, and one character is wider than that
    have hle : le budget 0 = true := by
      by_contra hnot
      exact hnone (Comparable.lt_iff.mpr ⟨hbudget, by simpa using hnot⟩)
    refine ⟨⟨Nat.zero_le _, fitsIn_zero hwidth hbudget⟩, ?_⟩
    rintro k ⟨hk, hfits⟩
    by_contra hpos
    have hone := fitsIn_of_le hwidth 1 k (Nat.pos_of_ne_zero (by omega)) hk hfits
    rw [fitsIn, hwidth.one] at hone
    have hback := (Comparable.lt_iff.mp hwidth.pos).2
    rw [Comparable.le_trans hone hle] at hback
    cases hback

/-- A count fits if it is not greater than the greatest one that does. -/
theorem fitsIn_iff (hwidth : Measured charWidth) (hbudget : le 0 budget = true) {n : Nat}
    (hn : n ≤ Count.limit) :
    fitsIn budget charWidth n = true ↔ n ≤ capacity budget charWidth := by
  obtain ⟨⟨hlimit, hfits⟩, hgreatest⟩ := isGreatest_capacity hwidth hbudget
  constructor
  · intro h
    exact hgreatest ⟨hn, h⟩
  · intro h
    exact fitsIn_of_le hwidth n _ h hlimit hfits

/-! ### The label -/

theorem shorten_of_le {s : String} {n : Nat} (h : s.length ≤ n) : shorten s n = s := if_pos h

theorem shorten_of_lt {s : String} {n : Nat} (h : n < s.length) :
    shorten s n = if n = 0 then "" else String.ofList (s.toList.take (n - 1) ++ [ellipsis]) :=
  if_neg (Nat.not_le.mpr h)

theorem length_shorten (s : String) (n : Nat) : (shorten s n).length = min s.length n := by
  rcases Nat.lt_or_ge n s.length with h | h
  · rw [shorten_of_lt h, Nat.min_eq_right h.le]
    split
    next hn => exact hn.symm
    next hn =>
      rw [String.length_ofList, List.length_append, List.length_take, String.length_toList,
        List.length_singleton]
      omega
  · rw [shorten_of_le h, Nat.min_eq_left h]

theorem shorten_eq_self_iff {s : String} {n : Nat} : shorten s n = s ↔ s.length ≤ n := by
  constructor
  · intro h
    have hlength := length_shorten s n
    rw [h] at hlength
    exact min_eq_left_iff.mp hlength.symm
  · exact shorten_of_le

theorem shorten_shorten (s : String) (n : Nat) : shorten (shorten s n) n = shorten s n := by
  refine shorten_of_le ?_
  rw [length_shorten]
  exact Nat.min_le_right _ _

/-- **A label is the best that fits.** Counts of characters that fit a budget are found whatever the
guess is from which they are looked for. A text is left as it is exactly if it fits. Otherwise its
label has as many characters as fit, an ellipsis the last of them, so that no longer beginning of
the text fits with an ellipsis; if not a single character fits, the label is empty. The label fits,
and cutting it again does not change it.

Texts have fewer characters than a counter can count. -/
theorem truncate_longest (hwidth : Measured charWidth) (hbudget : le 0 budget = true) {s : String}
    (hs : s.length < Count.limit) :
    let n := capacity budget charWidth
    let label := truncate s budget charWidth
    IsGreatest {k | k ≤ Count.limit ∧ le (ofNat k * charWidth) budget = true} n ∧
    (∀ guess ≤ Count.limit, search (fitsIn budget charWidth) Count.limit guess = n) ∧
    (label = s ↔ Fits budget charWidth s) ∧
    (¬ Fits budget charWidth s →
      label = (if n = 0 then "" else String.ofList (s.toList.take (n - 1) ++ [ellipsis])) ∧
      label.length = n ∧
      ∀ p, p <+: s.toList → Fits budget charWidth (String.ofList (p ++ [ellipsis])) →
        p.length + 1 ≤ n) ∧
    Fits budget charWidth label ∧
    truncate label budget charWidth = label := by
  intro n label
  have hgreatest := isGreatest_capacity hwidth hbudget
  have hfits {t : String} (ht : t.length ≤ Count.limit) : Fits budget charWidth t ↔ t.length ≤ n :=
    fitsIn_iff hwidth hbudget ht
  have hlength : label.length = min s.length n := length_shorten s n
  refine ⟨hgreatest, ?_, ?_, ?_, ?_, shorten_shorten s n⟩
  · intro guess hguess
    exact (isGreatest_search_fitsIn hwidth hbudget hguess).unique hgreatest
  · exact shorten_eq_self_iff.trans (hfits hs.le).symm
  · intro hwide
    have hlt : n < s.length := Nat.lt_of_not_le fun h => hwide ((hfits hs.le).mpr h)
    refine ⟨shorten_of_lt hlt, hlength.trans (Nat.min_eq_right hlt.le), ?_⟩
    intro p hp hpfits
    have hlong : (String.ofList (p ++ [ellipsis])).length = p.length + 1 := by
      rw [String.length_ofList, List.length_append, List.length_singleton]
    have hple : p.length ≤ s.length := by
      rw [← String.length_toList]
      exact hp.length_le
    rw [← hlong]
    exact (hfits (by omega)).mp hpfits
  · refine (hfits ?_).mpr ?_
    · rw [hlength]
      exact (Nat.min_le_left _ _).trans hs.le
    · rw [hlength]
      exact Nat.min_le_right _ _

/-- Of twelve characters of width seven the first four fit a width of forty, with an ellipsis. -/
theorem truncate_longest_cluster :
    Measured (7 : Rat) ∧ le 0 (40 : Rat) = true ∧ "cluster-east".length < Count.limit ∧
      ¬ Fits (40 : Rat) 7 "cluster-east" ∧ truncate "cluster-east" (40 : Rat) 7 = "clus…" := by
  have hwidth : Measured (7 : Rat) := measured_rat (by norm_num)
  have hbudget : le 0 (40 : Rat) = true := by decide
  have hs : "cluster-east".length < Count.limit := by decide
  have hwide : ¬ Fits (40 : Rat) 7 "cluster-east" := by
    have hlength : "cluster-east".length = 12 := by decide
    intro h
    rw [Fits, width, hlength] at h
    have hle : ((12 : Nat) : Rat) * 7 ≤ 40 := of_decide_eq_true h
    norm_num at hle
  obtain ⟨hgreatest, -, -, hcut, -⟩ := truncate_longest hwidth hbudget hs
  have hfive : capacity (40 : Rat) 7 = 5 := by
    have hle : ((5 : Nat) : Rat) * 7 ≤ 40 := by norm_num
    refine hgreatest.unique ⟨⟨by decide, decide_eq_true hle⟩, ?_⟩
    rintro k ⟨-, hk⟩
    by_contra hlt
    have hkle : (k : Rat) * 7 ≤ 40 := of_decide_eq_true hk
    have hsix : (6 : Rat) ≤ k := by exact_mod_cast Nat.lt_of_not_le hlt
    linarith
  obtain ⟨hlabel, -⟩ := hcut hwide
  rw [hfive] at hlabel
  exact ⟨hwidth, hbudget, hs, hwide, hlabel⟩

end Label

end ClusterMap
