import ClusterMap.Data.Entries

/-!
# Entries as finite maps

Entries that are in increasing order of their keys are determined by what is found in them
(`Entries.ext`), and every map that is built by `insert` is in that order (`sorted_ofList`). So two
ways of building a map can be compared by their look-ups alone.
-/

namespace ClusterMap

namespace Entries

variable {α : Type}

/-- The entries are in increasing order of their keys. -/
def Sorted (m : Entries α) : Prop := m.Pairwise fun a b => a.1 < b.1

/-! ### Look-ups -/

theorem mem_of_get? {m : Entries α} {k : String} {v : α} (h : m.get? k = some v) : (k, v) ∈ m := by
  obtain ⟨e, he, rfl⟩ := Option.map_eq_some_iff.mp h
  have hk : e.1 = k := by simpa using List.find?_some he
  exact hk ▸ List.mem_of_find?_eq_some he

theorem get?_eq_none_of_forall_ne {m : Entries α} {k : String} (h : ∀ e ∈ m, e.1 ≠ k) :
    m.get? k = none := by
  unfold get?
  rw [List.find?_eq_none.mpr fun e he => by simpa using h e he]
  rfl

/-- In sorted entries a look-up finds whatever stands under the key. -/
theorem Sorted.get?_eq_some_iff {m : Entries α} (hm : m.Sorted) {k : String} {v : α} :
    m.get? k = some v ↔ (k, v) ∈ m := by
  refine ⟨mem_of_get?, fun hmem => ?_⟩
  induction m with
  | nil => exact absurd hmem List.not_mem_nil
  | cons e rest ih =>
    obtain ⟨hlt, hrest⟩ := List.pairwise_cons.mp hm
    rw [get?_cons]
    rcases List.mem_cons.mp hmem with rfl | hmem
    · rw [if_pos rfl]
    · rw [if_neg (String.ne_of_lt (hlt _ hmem)), ih hrest hmem]

/-- Sorted entries are determined by what is found in them. -/
theorem ext {m m' : Entries α} (hm : m.Sorted) (hm' : m'.Sorted)
    (h : ∀ k, m.get? k = m'.get? k) : m = m' := by
  -- the same entries in the same order: a permutation of a sorted list is the list
  have nodup : ∀ {l : Entries α}, l.Sorted → l.Nodup := fun hl =>
    hl.imp fun hab heq => String.ne_of_lt hab (congrArg Prod.fst heq)
  have hperm : m.Perm m' := by
    rw [List.perm_ext_iff_of_nodup (nodup hm) (nodup hm')]
    rintro ⟨k, v⟩
    rw [← hm.get?_eq_some_iff, ← hm'.get?_eq_some_iff, h k]
  refine hperm.eq_of_pairwise (fun a b _ _ hab hba => ?_) hm hm'
  exact absurd hba (String.lt_asymm hab)

/-! ### Building a map -/

theorem mem_insert {m : Entries α} {k : String} {v : α} {e : String × α}
    (h : e ∈ m.insert k v) : e = (k, v) ∨ e ∈ m := by
  induction m with
  | nil => exact Or.inl (List.mem_singleton.mp h)
  | cons e' rest ih =>
    obtain ⟨k', v'⟩ := e'
    rw [insert] at h
    split at h
    · rcases List.mem_cons.mp h with h | h
      · exact Or.inl h
      · exact Or.inr (List.mem_cons_of_mem _ h)
    · split at h
      · exact List.mem_cons.mp h
      · rcases List.mem_cons.mp h with h | h
        · exact Or.inr (h ▸ List.mem_cons_self)
        · exact (ih h).imp_right (List.mem_cons_of_mem _)

/-- A value under a key that is new is one entry more. -/
theorem perm_insert {m : Entries α} {k : String} (hk : k ∉ m.map Prod.fst) (v : α) :
    (m.insert k v).Perm ((k, v) :: m) := by
  induction m with
  | nil => exact .refl _
  | cons e rest ih =>
    obtain ⟨k', v'⟩ := e
    obtain ⟨hne, hrest⟩ := List.ne_and_not_mem_of_not_mem_cons hk
    rw [insert, if_neg hne]
    split
    · exact .refl _
    · exact ((ih hrest).cons (k', v')).trans (.swap (k, v) (k', v') rest)

/-- Putting a value into sorted entries keeps them sorted. -/
theorem Sorted.insert {m : Entries α} (hm : m.Sorted) (k : String) (v : α) :
    Sorted (m.insert k v) := by
  induction m with
  | nil => exact List.pairwise_singleton _ _
  | cons e rest ih =>
    obtain ⟨k', v'⟩ := e
    obtain ⟨hlt, hrest⟩ := List.pairwise_cons.mp hm
    rw [Entries.insert]
    split
    next hk =>
      -- the entry is replaced, and its key is the one that stood there
      subst hk
      exact List.pairwise_cons.mpr ⟨hlt, hrest⟩
    next hk =>
      split
      next hkk' =>
        refine List.pairwise_cons.mpr ⟨fun e he => ?_, hm⟩
        rcases List.mem_cons.mp he with rfl | he
        · exact hkk'
        · exact String.lt_trans hkk' (hlt e he)
      next hkk' =>
        -- neither equal nor smaller: the new entry belongs further to the right
        have hgt : k' < k := by
          rw [← String.not_le]
          exact fun hle => hk (String.le_antisymm hle (String.not_lt.mp hkk'))
        refine List.pairwise_cons.mpr ⟨fun e he => ?_, ih hrest⟩
        rcases mem_insert he with rfl | he
        · exact hgt
        · exact hlt e he

/-- Entries put one after another into sorted ones leave them sorted. -/
private theorem sorted_foldl_insert (l : List (String × α)) {m : Entries α} (hm : m.Sorted) :
    Sorted (l.foldl (fun m (k, v) => Entries.insert m k v) m) := by
  induction l generalizing m with
  | nil => exact hm
  | cons e rest ih => exact ih (hm.insert e.1 e.2)

theorem sorted_ofList (l : List (String × α)) : Sorted (ofList l) :=
  sorted_foldl_insert l List.Pairwise.nil

/-- What is found after entries with different keys were put into a map. -/
private theorem get?_foldl_insert {l : List (String × α)} (hl : (l.map Prod.fst).Nodup)
    (m : Entries α) (k : String) :
    get? (l.foldl (fun m (k, v) => Entries.insert m k v) m) k = (get? l k).or (get? m k) := by
  induction l generalizing m with
  | nil => rfl
  | cons e rest ih =>
    obtain ⟨k', v⟩ := e
    obtain ⟨hk', hrest⟩ := List.nodup_cons.mp hl
    rw [List.foldl_cons, ih hrest, get?_insert, get?_cons]
    split
    next heq =>
      -- the key does not occur again, so the value put in first is not overwritten
      have hnone : get? rest k = none := by
        refine get?_eq_none_of_forall_ne fun e he hek => hk' ?_
        exact List.mem_map.mpr ⟨e, he, hek.trans heq.symm⟩
      rw [hnone]
      rfl
    next => rfl

/-- A map with different keys has the entries that it was made of. -/
theorem get?_ofList {l : List (String × α)} (hl : (l.map Prod.fst).Nodup) (k : String) :
    (ofList l).get? k = get? l k := by
  rw [ofList, get?_foldl_insert hl, get?_nil, Option.or_none]

end Entries

end ClusterMap
