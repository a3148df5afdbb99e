import ClusterMap.Proofs.Data.Record

/-!
# Unknown members

A record does not care for members that it does not know. A value is enlarged (`Enlarged`) by
members with unknown names anywhere between the others. So may be, in their turn, what its fields
hold, in so far as these are records themselves.

An enlarged record is decoded to the same result, or neither is decoded at all (`agrees_record`).
What carries this through a record is that every field is looked up by its own name, which is said
of some fields at a time (`Fields.Respects`) and built up as they are, by one more field. Which of
several errors is met first is not followed.
-/

namespace ClusterMap

namespace Decode

variable {α β : Type}

/-! ### Results -/

/-- Two values are decoded to the same result, or neither is decoded at all. -/
def Agrees (d : Decoder α) (v v' : Value) : Prop := ∀ a, d v = .ok a ↔ d v' = .ok a

theorem agrees_refl (d : Decoder α) (v : Value) : Agrees d v v := fun _ => .rfl

/-- Lists agree if their items do. -/
theorem agrees_listOf {d : Decoder α} {items items' : List Value}
    (h : List.Forall₂ (Agrees d) items items') :
    Agrees (listOf d) (.list items) (.list items') := by
  have hitems : ∀ as, List.Forall₂ (fun v a => d v = .ok a) items as ↔
      List.Forall₂ (fun v a => d v = .ok a) items' as := by
    induction h with
    | nil => exact fun _ => .rfl
    | cons hv _ ih =>
      intro as
      simp only [List.forall₂_cons_left_iff, hv _, ih]
  intro as
  simp [listOf_eq_ok_iff, hitems]

theorem apply_eq_ok_iff {o : Outcome (α → β)} {o' : Outcome α} {b : β} :
    o.apply o' = .ok b ↔ ∃ g a, o = .ok g ∧ o' = .ok a ∧ g a = b := by
  cases o <;> cases o' <;> simp [Outcome.apply]

theorem mapError_eq_ok_iff {ε ε' : Type} {f : ε → ε'} {o : Except ε α} {a : α} :
    o.mapError f = .ok a ↔ o = .ok a := by
  cases o <;> simp [Except.mapError]

theorem fromMembers_eq_ok_iff {what : String} {fields : Fields α} {strict : Bool}
    {members : List (Key × Value)} {a : α} :
    fromMembers what fields strict members = .ok a ↔
      firstMisplaced fields.names strict 0 [] members = none ∧
        fields.read 0 (.named members) = .ok a := by
  unfold fromMembers
  dsimp only
  cases firstMisplaced fields.names strict 0 [] members <;>
    cases fields.read 0 (.named members) <;> simp

theorem fromItems_eq_ok_iff {what : String} {fields : Fields α} {items : List Value} {a : α} :
    fromItems what fields items = .ok a ↔
      items.length ≤ fields.names.length ∧ fields.read 0 (.listed items) = .ok a := by
  unfold fromItems
  dsimp only
  cases fields.read 0 (.listed items) with
  | error e => simp
  | ok a' =>
    dsimp only
    split <;> simp [*]

/-! ### Enlarged records -/

section Enlarged

variable (names : List String) (inside : String → Value → Value → Prop)

/-- Members, and the same ones with more in between that none of the named fields knows. What
becomes of the value of a field is told by `inside`. -/
inductive MoreMembers : List (Key × Value) → List (Key × Value) → Prop
  | nil : MoreMembers [] []
  | same (m : Key × Value) {members members' : List (Key × Value)}
      (h : MoreMembers members members') : MoreMembers (m :: members) (m :: members')
  | inside {name : String} {v v' : Value} (hv : inside name v v')
      {members members' : List (Key × Value)} (h : MoreMembers members members') :
      MoreMembers ((.name name, v) :: members) ((.name name, v') :: members')
  | extra {name : String} (hname : name ∉ names) (v : Value)
      {members members' : List (Key × Value)} (h : MoreMembers members members') :
      MoreMembers members ((.name name, v) :: members')

/-- A record, and the same one with more members that no field knows. If it is given as the list of
the values of its fields, it can have more of them only inside these. -/
inductive Enlarged : Value → Value → Prop
  | same (v : Value) : Enlarged v v
  | named {members members' : List (Key × Value)} (h : MoreMembers names inside members members') :
      Enlarged (.record members) (.record members')
  | listed {items items' : List Value} (hlength : items.length = items'.length)
      (h : ∀ (i : Nat) (v v' : Value), items[i]? = some v → items'[i]? = some v' →
        v = v' ∨ ∃ name, names[i]? = some name ∧ inside name v v') :
      Enlarged (.list items) (.list items')

/-- The values of some fields are parts of the record, each with what may become of it. Nothing may
become of the others. -/
def InParts (parts : List (String × (Value → Value → Prop))) (name : String) (v v' : Value) :
    Prop :=
  ∃ R, (name, R) ∈ parts ∧ R v v'

/-- Something may become of each item of a list. -/
def Each (R : Value → Value → Prop) (v v' : Value) : Prop :=
  ∃ items items', v = .list items ∧ v' = .list items' ∧ List.Forall₂ R items items'

end Enlarged

section Members

variable {names : List String} {inside : String → Value → Value → Prop}
  {members members' : List (Key × Value)}

theorem moreMembers_refl (members : List (Key × Value)) :
    MoreMembers names inside members members := by
  induction members with
  | nil => exact .nil
  | cons m rest ih => exact .same m ih

/-- A field finds what it found before, or what has become of it. -/
def Kept (inside : String → Value → Value → Prop) (name : String)
    (found found' : Option (Nat × Value)) : Prop :=
  Option.Rel (fun v v' => v = v' ∨ inside name v v') (found.map Prod.snd) (found'.map Prod.snd)

/-- What is found for a field is found among more members as well, at another place. -/
theorem kept_findMember (h : MoreMembers names inside members members') {name : String}
    (hname : name ∈ names) (index place place' : Nat) :
    Kept inside name (findMember index name place members)
      (findMember index name place' members') := by
  induction h generalizing place place' with
  | nil => exact .none
  | same m h ih =>
    rw [findMember, findMember]
    split
    · exact .some (.inl rfl)
    · exact ih (place + 1) (place' + 1)
  | @inside name' v v' hv members members' h ih =>
    rw [findMember, findMember]
    by_cases heq : name' = name
    · subst heq
      rw [if_pos (by simp [Key.names]), if_pos (by simp [Key.names])]
      exact .some (.inr hv)
    · rw [if_neg (by simpa [Key.names] using heq), if_neg (by simpa [Key.names] using heq)]
      exact ih (place + 1) (place' + 1)
  | @extra name' hunknown v members members' h ih =>
    have hne : name' ≠ name := by
      rintro rfl
      exact hunknown hname
    -- the member in front is passed over, so that only the places move
    have hskip : findMember index name place' ((.name name', v) :: members') =
        findMember index name (place' + 1) members' := if_neg (by simpa [Key.names] using hne)
    rw [hskip]
    exact ih place (place' + 1)

/-- Whether a member is out of place hangs on its key and on the fields that were given before. -/
theorem firstMisplaced_cons_eq_none_iff {k : Key} {v : Value} {rest : List (Key × Value)}
    {place : Nat} {seen : List Nat} :
    firstMisplaced names false place seen ((k, v) :: rest) = none ↔
      k ≠ .other ∧ (∀ i, fieldIndex? names k = some i → i ∉ seen) ∧
        firstMisplaced names false (place + 1) ((fieldIndex? names k).toList ++ seen) rest =
          none := by
  conv_lhs => unfold firstMisplaced
  cases k with
  | other => simp
  | name s =>
    cases hi : fieldIndex? names (.name s) with
    | none => simp
    | some i => by_cases hseen : i ∈ seen <;> simp [hseen]
  | position j =>
    cases hi : fieldIndex? names (.position j) with
    | none => simp
    | some i => by_cases hseen : i ∈ seen <;> simp [hseen]

/-- A key that no field knows counts for nothing. -/
theorem firstMisplaced_moreMembers (h : MoreMembers names inside members members')
    (place place' : Nat) (seen : List Nat) :
    firstMisplaced names false place seen members = none ↔
      firstMisplaced names false place' seen members' = none := by
  induction h generalizing place place' seen with
  | nil => exact .rfl
  | same m h ih =>
    rw [firstMisplaced_cons_eq_none_iff, firstMisplaced_cons_eq_none_iff,
      ih (place + 1) (place' + 1)]
  | inside hv h ih =>
    rw [firstMisplaced_cons_eq_none_iff, firstMisplaced_cons_eq_none_iff,
      ih (place + 1) (place' + 1)]
  | @extra name hname v members members' h ih =>
    -- no field is marked as given by it
    have hnone : fieldIndex? names (.name name) = none := by
      refine List.findIdx?_eq_none_iff.mpr fun name' hname' => ?_
      simpa using ne_of_mem_of_not_mem hname' hname
    rw [firstMisplaced_cons_eq_none_iff, hnone]
    simpa using ih place (place' + 1) seen

end Members

/-! ### Fields -/

namespace Fields

variable {inside : String → Value → Value → Prop}

/-- Two sources in which some fields find the same, or what has become of it, and in which absent
fields come to the same. -/
structure Alike (inside : String → Value → Value → Prop) (names : List String) (offset : Nat)
    (s s' : Source) : Prop where
  kept : ∀ (i : Nat) (name : String), names[i]? = some name →
    Kept inside name (s.find? (offset + i) name) (s'.find? (offset + i) name)
  absent : ∀ {γ : Type} (index : Nat) (name : String) (presence : Presence γ) (c : γ),
    s.absent index name presence = .ok c ↔ s'.absent index name presence = .ok c

theorem alike_named {names : List String} {members members' : List (Key × Value)}
    (h : MoreMembers names inside members members') :
    Alike inside names 0 (.named members) (.named members') where
  kept i name hname := kept_findMember h (List.mem_of_getElem? hname) (0 + i) 0 0
  absent index name presence c := by cases presence <;> simp [Source.absent]

theorem alike_listed {names : List String} {items items' : List Value}
    (hlength : items.length = items'.length)
    (h : ∀ (i : Nat) (v v' : Value), items[i]? = some v → items'[i]? = some v' →
      v = v' ∨ ∃ name, names[i]? = some name ∧ inside name v v') :
    Alike inside names 0 (.listed items) (.listed items') where
  kept i name hname := by
    change Option.Rel _ ((items[0 + i]?.map _).map _) ((items'[0 + i]?.map _).map _)
    rw [Nat.zero_add]
    by_cases hi : i < items.length
    · rw [List.getElem?_eq_getElem hi, List.getElem?_eq_getElem (hlength ▸ hi)]
      refine .some ((h i _ _ (List.getElem?_eq_getElem hi)
        (List.getElem?_eq_getElem (hlength ▸ hi))).imp_right ?_)
      rintro ⟨name', hname', hinside⟩
      obtain rfl := Option.some.inj (hname.symm.trans hname')
      exact hinside
    · rw [List.getElem?_eq_none (by omega), List.getElem?_eq_none (by omega)]
      exact .none
  absent _ _ _ _ := .rfl

/-- What one field comes to in a source. -/
def field (s : Source) (index : Nat) (name : String) (d : Decoder α) (presence : Presence α) :
    Outcome α :=
  match s.find? index name with
  | some (place, v) => (d v).mapError fun e => (place, .refused e)
  | Option.none => s.absent index name presence

theorem read_and (f : Fields (α → β)) (name : String) (d : Decoder α) (presence : Presence α)
    (offset : Nat) (s : Source) : (f.and name d presence).read offset s =
      (f.read offset s).apply (field s (offset + f.names.length) name d presence) := rfl

/-- A field comes to the same if what has become of its value is decoded to the same. -/
theorem field_eq_ok_iff {s s' : Source} {index : Nat} {name : String} {d : Decoder α}
    {presence : Presence α} (hd : ∀ v v', inside name v v' → Agrees d v v')
    (hkept : Kept inside name (s.find? index name) (s'.find? index name))
    (habsent : ∀ a, s.absent index name presence = .ok a ↔ s'.absent index name presence = .ok a)
    (a : α) : field s index name d presence = .ok a ↔ field s' index name d presence = .ok a := by
  unfold field
  unfold Kept at hkept
  cases hs : s.find? index name with
  | none =>
    cases hs' : s'.find? index name with
    | none => exact habsent a
    | some found' => rw [hs, hs'] at hkept; cases hkept
  | some found =>
    cases hs' : s'.find? index name with
    | none => rw [hs, hs'] at hkept; cases hkept
    | some found' =>
      rw [hs, hs'] at hkept
      dsimp only
      rw [mapError_eq_ok_iff, mapError_eq_ok_iff]
      cases hkept with
      | some h =>
        rcases h with heq | hinside
        · rw [heq]
        · exact hd _ _ hinside a

/-- Some fields come to the same in all sources that are alike to them. -/
def Respects (f : Fields α) (inside : String → Value → Value → Prop) : Prop :=
  ∀ (offset : Nat) (s s' : Source), Alike inside f.names offset s s' →
    ∀ a, f.read offset s = .ok a ↔ f.read offset s' = .ok a

theorem respects_none (a : α) : (Fields.none a).Respects inside := fun _ _ _ _ _ => .rfl

namespace Respects

variable {f : Fields (α → β)} {d : Decoder α} {presence : Presence α}

/-- One more field, whose decoder does not tell its value from what becomes of it. -/
theorem and (hf : f.Respects inside) (name : String)
    (hd : ∀ v v', inside name v v' → Agrees d v v') :
    (f.and name d presence).Respects inside := by
  intro offset s s' h b
  have hbefore : Alike inside f.names offset s s' := by
    refine ⟨fun i name' hname => h.kept i name' ?_, h.absent⟩
    rw [Fields.and, List.getElem?_append_left (List.getElem?_eq_some_iff.mp hname).1, hname]
  have hlast := h.kept f.names.length name (by simp [Fields.and])
  simp only [read_and, apply_eq_ok_iff, hf offset s s' hbefore,
    field_eq_ok_iff hd hlast (h.absent _ name presence)]

variable {parts : List (String × (Value → Value → Prop))}

/-- One more field that is not a part. -/
theorem plain (hf : f.Respects (InParts parts)) (name : String)
    (hname : name ∉ parts.map Prod.fst) : (f.and name d presence).Respects (InParts parts) :=
  hf.and name fun _ _ ⟨_, hmem, _⟩ => absurd (List.mem_map_of_mem hmem) hname

/-- One more field that is a part, with a list in it. -/
theorem part {R : Value → Value → Prop} {d : Decoder α} {f : Fields (List α → β)}
    {presence : Presence (List α)} (hf : f.Respects (InParts parts)) {name : String}
    (hn : (parts.map Prod.fst).Nodup) (hpart : (name, Each R) ∈ parts)
    (hd : ∀ v v', R v v' → Agrees d v v') :
    (f.and name (listOf d) presence).Respects (InParts parts) := by
  refine hf.and name ?_
  rintro v v' ⟨R', hpart', h⟩
  -- a name is that of one part only
  obtain rfl : R' = Each R :=
    congrArg Prod.snd (List.inj_on_of_nodup_map hn hpart' hpart rfl)
  obtain ⟨items, items', rfl, rfl, hitems⟩ := h
  exact agrees_listOf (hitems.imp hd)

end Respects

end Fields

/-! ### Records -/

/-- **A record agrees with an enlarged one.** -/
theorem agrees_record {inside : String → Value → Value → Prop} {what : String} {fields : Fields α}
    (hf : fields.Respects inside) {v v' : Value} (h : Enlarged fields.names inside v v') :
    Agrees (record what fields) v v' := by
  cases h with
  | same => exact agrees_refl _ _
  | named h =>
    intro a
    change fromMembers what fields false _ = _ ↔ fromMembers what fields false _ = _
    rw [fromMembers_eq_ok_iff, fromMembers_eq_ok_iff, firstMisplaced_moreMembers h 0 0 [],
      hf 0 _ _ (Fields.alike_named h) a]
  | listed hlength h =>
    intro a
    change fromItems what fields _ = _ ↔ fromItems what fields _ = _
    rw [fromItems_eq_ok_iff, fromItems_eq_ok_iff, hlength,
      hf 0 _ _ (Fields.alike_listed hlength h) a]

end Decode

end ClusterMap
