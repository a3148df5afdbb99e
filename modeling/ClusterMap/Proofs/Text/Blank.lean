import ClusterMap.Proofs.Data.Core
import ClusterMap.Text.Blank

/-!
# Trimmed texts

Trimming drops the blanks at the ends of a text and nothing else. So there is nothing left to trim
(`trim_trim`), and blanks that are put around a text do not matter (`trim_padded`). They do matter
for what a text begins with (`startsWith_padded`).
-/

namespace ClusterMap.Text

/-- Whether a text consists of blanks. -/
def AllBlank (s : String) : Prop := ∀ c ∈ s.toList, isBlank c = true

instance (s : String) : Decidable (AllBlank s) :=
  decidable_of_iff (s.toList.all isBlank = true) List.all_eq_true

variable {cs ds : List Char}

/-- What is left of a text is its core between blanks. -/
theorem trimChars_eq_iff : trimChars cs = ds ↔ IsCore isBlank cs ds := isCore_iff.symm

/-- Trimmed characters have nothing left to trim. -/
theorem trimChars_trimChars (cs : List Char) : trimChars (trimChars cs) = trimChars cs := by
  have hcore : IsCore isBlank cs (trimChars cs) := trimChars_eq_iff.mp rfl
  exact trimChars_eq_iff.mpr hcore.self

/-- **A trimmed text has nothing left to trim.** -/
theorem trim_trim (s : String) : trim (trim s) = trim s := by
  rw [trim, trim, String.toList_ofList, trimChars_trimChars]

/-! ### Padded texts -/

section Padded

variable {front back word : String}

/-- **Blanks around a text do not matter for what is left of it.** -/
theorem trim_padded (hfront : AllBlank front) (hback : AllBlank back) (s : String) :
    trim (front ++ s ++ back) = trim s := by
  have hcore : IsCore isBlank s.toList (trimChars s.toList) := trimChars_eq_iff.mp rfl
  rw [trim, trim, String.toList_append, String.toList_append,
    trimChars_eq_iff.mpr (hcore.pad hfront hback)]

/-- A text that begins with a word is not blank. -/
theorem trim_ne_empty_of_startsWith {s : String} (hne : word.toList ≠ [])
    (hword : ∀ c ∈ word.toList, isBlank c = false) (h : s.startsWith word) : trim s ≠ "" := by
  intro htrim
  have hnil : trimChars s.toList = [] := by
    rw [← String.toList_ofList (l := trimChars s.toList), ← trim, htrim]
    rfl
  obtain ⟨front, back, hs, hfront, hback⟩ := (trimChars_eq_iff.mp hnil).exists_ends
  obtain ⟨c, hc⟩ := List.exists_mem_of_ne_nil _ hne
  have hmem : c ∈ s.toList := (String.startsWith_string_iff.mp h).subset hc
  have hblank : isBlank c = true := by
    rw [hs, List.append_nil] at hmem
    exact (List.mem_append.mp hmem).elim (hfront c) (hback c)
  rw [hword c hc] at hblank
  cases hblank

/-- A padded text begins with a word if the text does and no blank stands in front of it. -/
theorem startsWith_padded (hfront : AllBlank front) (hback : AllBlank back)
    (hne : word.toList ≠ []) (hword : ∀ c ∈ word.toList, isBlank c = false) (s : String) :
    (front ++ s ++ back).startsWith word ↔ front = "" ∧ s.startsWith word := by
  rw [String.startsWith_string_iff, String.startsWith_string_iff, String.toList_append,
    String.toList_append]
  constructor
  · intro h
    cases hcs : front.toList with
    | cons c rest =>
      -- then the word would begin with a blank
      obtain ⟨w, word', hw⟩ := List.exists_cons_of_ne_nil hne
      rw [hcs, hw] at h
      obtain rfl : w = c := (List.cons_prefix_cons.mp h).1
      have hblank := hfront w (by rw [hcs]; exact List.mem_cons_self)
      rw [hword w (by rw [hw]; exact List.mem_cons_self)] at hblank
      cases hblank
    | nil =>
      rw [hcs, List.nil_append] at h
      refine ⟨String.toList_eq_nil_iff.mp hcs, ?_⟩
      rcases List.prefix_or_prefix_of_prefix h (List.prefix_append s.toList back.toList) with
        hprefix | ⟨more, hmore⟩
      · exact hprefix
      · -- what the word has beyond the text would be blanks
        rw [← hmore] at h hword ⊢
        have hblanks := (List.prefix_append_right_inj _).mp h
        have hnil : more = [] := List.eq_nil_iff_forall_not_mem.mpr fun c hc => by
          have hblank := hback c (hblanks.subset hc)
          rw [hword c (List.mem_append_right _ hc)] at hblank
          cases hblank
        exact ⟨[], by rw [hnil, List.append_nil, List.append_nil]⟩
  · rintro ⟨rfl, h⟩
    exact h.trans (List.prefix_append _ _)

end Padded

end ClusterMap.Text
