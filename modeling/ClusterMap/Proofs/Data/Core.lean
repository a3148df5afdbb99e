import Mathlib.Data.List.DropRight
import Mathlib.Data.List.TakeWhile

/-!
# The core of a list

Texts are trimmed of blanks and menus of dividers: members of one sort are taken away from both ends
of a list, and what stands in between stays as it is. `IsCore` says what is left then, and not how
it is found. A list has one core (`isCore_iff`), which is a core of itself.
-/

namespace ClusterMap

variable {α : Type} {p : α → Bool} {l m : List α}

/-- `m` is what stands in `l` between two ends that satisfy `p`, and it cannot be made shorter. -/
structure IsCore (p : α → Bool) (l m : List α) : Prop where
  exists_ends : ∃ front back, l = front ++ m ++ back ∧
    (∀ x ∈ front, p x = true) ∧ ∀ x ∈ back, p x = true
  head : ∀ x ∈ m.head?, p x = false
  last : ∀ x ∈ m.getLast?, p x = false

/-- Dropping both ends leaves a core. -/
theorem isCore_rdropWhile_dropWhile (p : α → Bool) (l : List α) :
    IsCore p l ((l.dropWhile p).rdropWhile p) where
  exists_ends := by
    refine ⟨l.takeWhile p, (l.dropWhile p).rtakeWhile p, ?_, ?_, ?_⟩
    · rw [List.append_assoc, List.rdropWhile_append_rtakeWhile, List.takeWhile_append_dropWhile]
    · intro x hx
      exact List.mem_takeWhile_imp hx
    · intro x hx
      exact List.mem_rtakeWhile_imp hx
  head := by
    intro x hx
    -- what is in front now was in front before the other end was dropped
    obtain ⟨back, hback⟩ := List.rdropWhile_prefix p (l := l.dropWhile p)
    have hfront : (l.dropWhile p).head? = some x := by
      rw [← hback, List.head?_append, Option.mem_def.mp hx, Option.some_or]
    have hnot := List.head?_dropWhile_not p l
    rw [hfront] at hnot
    simpa using hnot
  last := by
    intro x hx
    obtain ⟨hne, rfl⟩ := List.mem_getLast?_eq_getLast hx
    simpa using List.rdropWhile_last_not p _ hne

/-- **There is one core.** -/
theorem isCore_iff : IsCore p l m ↔ (l.dropWhile p).rdropWhile p = m := by
  constructor
  · intro h
    obtain ⟨front, back, rfl, hfront, hback⟩ := h.exists_ends
    rw [List.append_assoc, List.dropWhile_append_of_pos hfront]
    cases m with
    | nil =>
      -- then the list is all front and back
      rw [List.nil_append, List.dropWhile_eq_nil_iff.mpr hback, List.rdropWhile_nil]
    | cons a rest =>
      have ha : ¬ p a = true := by simp [h.head a rfl]
      rw [List.cons_append, List.dropWhile_cons_of_neg ha, ← List.cons_append]
      have hback' : ∀ x ∈ back.reverse, p x = true := by
        intro x hx
        exact hback x (List.mem_reverse.mp hx)
      rw [List.rdropWhile, List.reverse_append, List.dropWhile_append_of_pos hback']
      -- from here on it is the end of the core that would be dropped
      refine List.rdropWhile_eq_self_iff.mpr fun hne => ?_
      simp [h.last _ (List.getLast?_eq_some_getLast hne)]
  · rintro rfl
    exact isCore_rdropWhile_dropWhile p l

/-- A core has nothing at its ends to be taken away. -/
theorem IsCore.self (h : IsCore p l m) : IsCore p m m where
  exists_ends := ⟨[], [], by simp⟩
  head := h.head
  last := h.last

/-- What is taken away may be put back on, or more of it: the core is the same. -/
theorem IsCore.pad (h : IsCore p l m) {front back : List α} (hfront : ∀ x ∈ front, p x = true)
    (hback : ∀ x ∈ back, p x = true) : IsCore p (front ++ l ++ back) m where
  exists_ends := by
    obtain ⟨front', back', rfl, hfront', hback'⟩ := h.exists_ends
    refine ⟨front ++ front', back' ++ back, by simp only [List.append_assoc], ?_, ?_⟩
    · exact List.forall_mem_append.mpr ⟨hfront, hfront'⟩
    · exact List.forall_mem_append.mpr ⟨hback', hback⟩
  head := h.head
  last := h.last

end ClusterMap
