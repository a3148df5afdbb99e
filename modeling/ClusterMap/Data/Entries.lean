/-!
# Entries sorted by key

Finite maps from texts, held as lists in increasing order of their keys.
-/

namespace ClusterMap

/-- Entries of a map. Built by `Entries.insert` they are in increasing order of keys. -/
abbrev Entries (α : Type) := List (String × α)

namespace Entries

variable {α : Type}

/-- The value under a key. -/
def get? (m : Entries α) (k : String) : Option α := (m.find? (·.1 == k)).map (·.2)

/-- Puts a value under a key, in place of an earlier one. -/
def insert (m : Entries α) (k : String) (v : α) : Entries α :=
  match m with
  | [] => [(k, v)]
  | (k', v') :: rest =>
    if k = k' then (k, v) :: rest
    else if k < k' then (k, v) :: (k', v') :: rest
    else (k', v') :: Entries.insert rest k v

/-- The map with the given entries; of equal keys the last counts. -/
def ofList (entries : List (String × α)) : Entries α :=
  entries.foldl (fun m (k, v) => Entries.insert m k v) []

theorem get?_nil (k : String) : get? ([] : Entries α) k = none := rfl

theorem get?_cons (k' : String) (v : α) (m : Entries α) (k : String) :
    get? ((k', v) :: m) k = if k' = k then some v else get? m k := by
  by_cases h : k' = k <;> simp [get?, h]

/-- What is found after a value was put into a map. -/
theorem get?_insert (m : Entries α) (k : String) (v : α) (j : String) :
    get? (m.insert k v) j = if k = j then some v else get? m j := by
  induction m with
  | nil => simp [insert, get?_cons]
  | cons e m ih =>
    obtain ⟨k', v'⟩ := e
    simp only [insert]
    split
    · subst k'
      simp only [get?_cons]
      split <;> rfl
    · split <;> simp only [get?_cons, ih]
      split <;> split <;> simp_all

end Entries

end ClusterMap
