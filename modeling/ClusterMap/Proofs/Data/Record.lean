import ClusterMap.Data.Decode.Record
import Mathlib.Data.List.Forall2
import Mathlib.Data.List.Nodup

/-!
# Records and their spellings

The same record can be written as a record whose members are in any order, or as the list of the
values of its fields (`Spelling`). The decoder of a record does not tell these from each other: what
a field becomes hangs on the value that is found for it and on nothing else.

To decode a record is to read its fields one after another. `Fields.Reads` says what some fields
make of some values wherever these are found, and is built up as the fields are, by one more field
at a time (`Fields.Reads.and`); `record_of_spelling` then gives the result for all spellings at
once.
-/

namespace ClusterMap

namespace Decode

variable {α β : Type}

/-! ### Scalars and lists -/

theorem optional_of_ok {d : Decoder α} {v : Value} {a : α} (hv : v ≠ .null) (h : d v = .ok a) :
    optional d v = .ok (some a) := by
  cases v with
  | null => exact absurd rfl hv
  | _ => exact congrArg (Except.map some) h

/-- A number that fits its width is read as it is. -/
theorem unsigned_ofNat {bits n : Nat} (expected : String) (h : n < Nat.pow 2 bits) :
    unsigned bits expected (.ofNat n) = .ok n := by
  have hle : (0 : Int) ≤ n ∧ (n : Int) ≤ ((Nat.pow 2 bits - 1 : Nat) : Int) := by omega
  change (if (0 : Int) ≤ n ∧ (n : Int) ≤ ((Nat.pow 2 bits - 1 : Nat) : Int) then _ else _ :
    Except Error Int).map Int.toNat = _
  rw [if_pos hle]
  rfl

/-- A list is read item by item. -/
theorem listOf_eq_ok_iff {d : Decoder α} {v : Value} {as : List α} :
    listOf d v = .ok as ↔
      ∃ items, v = .list items ∧ List.Forall₂ (fun v a => d v = .ok a) items as := by
  have hitems : ∀ (items : List Value) (as : List α),
      items.mapM d = .ok as ↔ List.Forall₂ (fun v a => d v = .ok a) items as := by
    intro items
    induction items with
    | nil => intro as; cases as <;> simp [pure, Except.pure]
    | cons v rest ih =>
      intro as
      rw [List.mapM_cons, List.forall₂_cons_left_iff]
      cases hv : d v with
      | error e => simp [bind, Except.bind]
      | ok a =>
        simp only [← ih, bind, Except.bind, Except.ok.injEq]
        cases rest.mapM d with
        | error e => simp
        | ok as' => simp [pure, Except.pure, eq_comm]
  cases v with
  | list items =>
    change items.mapM d = .ok as ↔ _
    simp [hitems]
  | _ => simp [listOf]

/-! ### Fields -/

namespace Fields

/-- Some fields make something of some values, wherever these are found under the places and names
of the fields. -/
structure Reads (f : Fields α) (values : List Value) (a : α) : Prop where
  length : values.length = f.names.length
  read : ∀ (offset : Nat) (s : Source),
    (∀ (i : Nat) (name : String) (v : Value), f.names[i]? = some name → values[i]? = some v →
      ∃ place, s.find? (offset + i) name = some (place, v)) →
    f.read offset s = .ok a

theorem reads_none (a : α) : (Fields.none a).Reads [] a := ⟨rfl, fun _ _ _ => rfl⟩

namespace Reads

variable {f : Fields (α → β)} {values : List Value} {g : α → β} {d : Decoder α} {v : Value} {a : α}

/-- One more field with one more value. -/
theorem and (hf : f.Reads values g) (name : String) (presence : Presence α) (hv : d v = .ok a) :
    (f.and name d presence).Reads (values ++ [v]) (g a) := by
  refine ⟨by simp [Fields.and, hf.length], fun offset s hfound => ?_⟩
  have hbefore : f.read offset s = .ok g := by
    refine hf.read offset s fun i name' v' hname hvalue => hfound i name' v' ?_ ?_
    · rw [Fields.and, List.getElem?_append_left (List.getElem?_eq_some_iff.mp hname).1, hname]
    · rw [List.getElem?_append_left (List.getElem?_eq_some_iff.mp hvalue).1, hvalue]
  obtain ⟨place, hlast⟩ := hfound f.names.length name v (by simp [Fields.and])
    (by rw [← hf.length]; simp)
  change (f.read offset s).apply _ = _
  rw [hbefore, hlast]
  change Outcome.apply _ ((d v).mapError _) = _
  rw [hv]
  rfl

theorem need (hf : f.Reads values g) (name : String) (hv : d v = .ok a) :
    (f.need name d).Reads (values ++ [v]) (g a) := hf.and name _ hv

theorem orElse (hf : f.Reads values g) (name : String) (substitute : α) (hv : d v = .ok a) :
    (f.orElse name d substitute).Reads (values ++ [v]) (g a) := hf.and name _ hv

end Reads

/-! ### Fields that have been read -/

/-- Two outcomes combine to a result only if both are results. -/
theorem exists_of_apply {o : Outcome (α → β)} {o' : Outcome α} {b : β} (h : o.apply o' = .ok b) :
    ∃ g a, o = .ok g ∧ o' = .ok a := by
  cases o with
  | error e => cases o' <;> cases h
  | ok g =>
    cases o' with
    | error e => cases h
    | ok a => exact ⟨g, a, rfl, rfl⟩

/-- Fields cannot be read unless the first ones of them can. -/
def Extends (f : Fields β) (first : Fields α) : Prop :=
  ∀ (offset : Nat) (s : Source) (b : β), f.read offset s = .ok b →
    ∃ a, first.read offset s = .ok a

theorem Extends.refl (f : Fields α) : f.Extends f := fun _ _ b h => ⟨b, h⟩

theorem Extends.and {γ : Type} {first : Fields γ} {f : Fields (α → β)} (h : f.Extends first)
    {name : String} {d : Decoder α} {presence : Presence α} :
    (f.and name d presence).Extends first := by
  intro offset s b hread
  obtain ⟨g, _, hf, -⟩ := exists_of_apply hread
  exact h offset s g hf

/-- A field that must be given has been read from the item at its place. -/
theorem exists_item_of_read_need {f : Fields (α → β)} {name : String} {d : Decoder α}
    {offset : Nat} {items : List Value} {b : β}
    (h : (f.need name d).read offset (.listed items) = .ok b) :
    ∃ v a, items[offset + f.names.length]? = some v ∧ d v = .ok a := by
  obtain ⟨_, a, -, hfield⟩ := exists_of_apply h
  have hfind : Source.find? (.listed items) (offset + f.names.length) name =
      (items[offset + f.names.length]?).map (offset + f.names.length, ·) := rfl
  cases hv : items[offset + f.names.length]? with
  | none =>
    rw [hv, Option.map_none] at hfind
    rw [hfind] at hfield
    cases hfield
  | some v =>
    rw [hv, Option.map_some] at hfind
    rw [hfind] at hfield
    change (d v).mapError _ = _ at hfield
    cases hd : d v with
    | error e => rw [hd] at hfield; cases hfield
    | ok a => exact ⟨v, a, rfl, hd⟩

end Fields

/-! ### Members -/

/-- A member is found under its name, if no other has this name. -/
theorem exists_findMember {members : List (String × Value)} (hn : (members.map Prod.fst).Nodup)
    {name : String} {v : Value} (h : (name, v) ∈ members) (index start : Nat) :
    ∃ place, findMember index name start (members.map fun m => (Key.name m.1, m.2)) =
      some (place, v) := by
  induction members generalizing start with
  | nil => exact absurd h List.not_mem_nil
  | cons m rest ih =>
    obtain ⟨hm, hrest⟩ := List.nodup_cons.mp hn
    rw [List.map_cons, findMember]
    rcases List.mem_cons.mp h with rfl | h
    · exact ⟨start, by simp [Key.names]⟩
    · have hne : m.1 ≠ name := by
        rintro rfl
        exact hm (List.mem_map.mpr ⟨_, h, rfl⟩)
      rw [if_neg (by simpa [Key.names] using hne)]
      exact ih hrest h (start + 1)

theorem getElem?_of_fieldIndex? {names : List String} {name : String} {i : Nat}
    (h : fieldIndex? names (.name name) = some i) : names[i]? = some name := by
  obtain ⟨hlt, hname, -⟩ := List.findIdx?_eq_some_iff_getElem.mp h
  rw [List.getElem?_eq_getElem hlt, beq_iff_eq.mp hname]

/-- Members with different names are not out of place, also behind fields with other names. -/
private theorem firstMisplaced_of_not_seen {names : List String} {members : List (String × Value)}
    (hn : (members.map Prod.fst).Nodup) {seen : List Nat}
    (hseen : ∀ m ∈ members, ∀ i ∈ seen, names[i]? ≠ some m.1) (place : Nat) :
    firstMisplaced names false place seen (members.map fun m => (Key.name m.1, m.2)) = none := by
  induction members generalizing place seen with
  | nil => rfl
  | cons m rest ih =>
    obtain ⟨hm, hrest⟩ := List.nodup_cons.mp hn
    have hbehind : ∀ m' ∈ rest, ∀ i ∈ seen, names[i]? ≠ some m'.1 := fun m' hm' =>
      hseen m' (List.mem_cons_of_mem _ hm')
    rw [List.map_cons]
    unfold firstMisplaced
    cases hi : fieldIndex? names (.name m.1) with
    | none => exact ih hrest hbehind (place + 1)
    | some i =>
      have hname := getElem?_of_fieldIndex? hi
      have hnew : ¬ seen.contains i := fun hmem =>
        hseen m List.mem_cons_self i (List.contains_iff_mem.mp hmem) hname
      dsimp only
      rw [if_neg hnew]
      refine ih hrest (fun m' hm' j hj => ?_) (place + 1)
      rcases List.mem_cons.mp hj with rfl | hj
      · -- the field that has just been seen goes by the name of the member in front
        rw [hname]
        intro heq
        exact hm (List.mem_map.mpr ⟨m', hm', (Option.some.inj heq).symm⟩)
      · exact hbehind m' hm' j hj

/-- Members with different names are not out of place. -/
theorem firstMisplaced_eq_none (names : List String) {members : List (String × Value)}
    (hn : (members.map Prod.fst).Nodup) :
    firstMisplaced names false 0 [] (members.map fun m => (Key.name m.1, m.2)) = none :=
  firstMisplaced_of_not_seen hn (fun _ _ _ h => absurd h List.not_mem_nil) 0

/-! ### Spellings -/

/-- The ways to write fields with the given names and values: as a record whose members are in any
order, or as the list of the values. -/
inductive Spelling (names : List String) (values : List Value) : Value → Prop where
  | named {members : List (String × Value)} (h : members.Perm (names.zip values)) :
    Spelling names values (.ofMembers members)
  | listed : Spelling names values (.list values)

/-- **A record is decoded alike in all spellings**: to what its fields make of the values. -/
theorem record_of_spelling {what : String} {fields : Fields α} {values : List Value} {a : α}
    {v : Value} (hn : fields.names.Nodup) (hr : fields.Reads values a)
    (hv : Spelling fields.names values v) : record what fields v = .ok a := by
  cases hv with
  | named h =>
    rename_i members
    have hzip : (fields.names.zip values).map Prod.fst = fields.names :=
      List.map_fst_zip (Nat.le_of_eq hr.length.symm)
    have hmembers : (members.map Prod.fst).Nodup := by
      rw [(h.map Prod.fst).nodup_iff, hzip]
      exact hn
    have hread := hr.read 0 (.named (members.map fun m => (Key.name m.1, m.2)))
      fun i name v hname hvalue => by
        refine exists_findMember hmembers (h.mem_iff.mpr ?_) _ 0
        refine List.mem_of_getElem? (i := i) ?_
        rw [List.getElem?_zip_eq_some]
        exact ⟨hname, hvalue⟩
    change fromMembers what fields false (members.map fun m => (Key.name m.1, m.2)) = _
    unfold fromMembers
    dsimp only
    rw [firstMisplaced_eq_none fields.names hmembers, hread]
  | listed =>
    have hread := hr.read 0 (.listed values) fun i name v _ hvalue => by
      refine ⟨0 + i, ?_⟩
      change (values[0 + i]?).map _ = _
      rw [Nat.zero_add, hvalue, Option.map_some]
    change fromItems what fields values = _
    unfold fromItems
    dsimp only
    rw [hread]
    exact if_pos (Nat.le_of_eq hr.length)

end Decode

end ClusterMap
