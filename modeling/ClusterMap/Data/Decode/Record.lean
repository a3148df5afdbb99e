import ClusterMap.Data.Decode.Scalar

/-!
# Decoding records

A record type is described by its fields in declaration order (`Fields`). Its value is given as a
record with a member for each field, or as the list of the fields' values:

* unknown members are ignored, or refused if the record is strict;
* a repeated known member is refused;
* an absent member is refused unless the field has a substitute (`Presence`), and so is a list that
  ends too early;
* of several errors the one met first in the order of the document is reported, absent members last.

Because every field is looked up by its own name, the result does not depend on the order of the
members, nor on members with other names.
-/

namespace ClusterMap.Decode

/-- What a field becomes when it is absent. -/
inductive Presence (α : Type) where
  /-- It must be given. -/
  | required
  /-- A record may leave it out, a list may not. -/
  | absentIs (a : α)
  /-- It may be left out. -/
  | default (a : α)

/-- The value that a record is decoded from. -/
inductive Source where
  | named (members : List (Key × Value))
  | listed (items : List Value)

/-- What stands in the way of a field. -/
inductive Problem where
  | refused (e : Error)
  | missing (name : String)

/-- A result, or the place of a problem in the order of the document and the problem. -/
abbrev Outcome (α : Type) := Except (Nat × Problem) α

/-- Combines two outcomes; of two problems the one met first counts. -/
def Outcome.apply {α β : Type} : Outcome (α → β) → Outcome α → Outcome β
  | .ok f, .ok a => .ok (f a)
  | .error e, .ok _ => .error e
  | .ok _, .error e => .error e
  | .error e, .error e' => .error (if e'.1 < e.1 then e' else e)

/-- Whether a key names the field declared at `index` under `name`. -/
def Key.names (k : Key) (index : Nat) (name : String) : Bool :=
  match k with
  | .name s => s == name
  | .position i => i == index
  | .other => false

/-- The first member for a field, with its place. -/
def findMember (index : Nat) (name : String) : Nat → List (Key × Value) → Option (Nat × Value)
  | _, [] => none
  | place, (k, v) :: rest =>
    if Key.names k index name then some (place, v) else findMember index name (place + 1) rest

/-- The value of the field declared at `index` under `name`, with its place. -/
def Source.find? (s : Source) (index : Nat) (name : String) : Option (Nat × Value) :=
  match s with
  | .named members => findMember index name 0 members
  | .listed items => items[index]?.map (index, ·)

/-- The outcome for an absent field. -/
def Source.absent {α : Type} (s : Source) (index : Nat) (name : String) :
    Presence α → Outcome α
  | .default a => .ok a
  | .absentIs a => match s with
    | .named _ => .ok a
    | .listed _ => .error (index, .missing name)
  | .required => match s with
    | .named members => .error (members.length, .missing name)
    | .listed _ => .error (index, .missing name)

/-- Some consecutive fields of a record: their names, and how they are read when the first of them
is declared at a given position. -/
structure Fields (α : Type) where
  names : List String
  read : Nat → Source → Outcome α

namespace Fields

variable {α β : Type}

/-- No field. -/
def none (a : α) : Fields α := ⟨[], fun _ _ => .ok a⟩

/-- One more field. -/
def and (f : Fields (α → β)) (name : String) (d : Decoder α)
    (presence : Presence α) : Fields β where
  names := f.names ++ [name]
  read offset s :=
    let index := offset + f.names.length
    let field : Outcome α :=
      match s.find? index name with
      | some (place, v) => (d v).mapError fun e => (place, .refused e)
      | Option.none => s.absent index name presence
    (f.read offset s).apply field

/-- One more field that must be given. -/
def need (f : Fields (α → β)) (name : String) (d : Decoder α) : Fields β :=
  f.and name d .required

/-- One more field that may be null, and absent from a record. -/
def may (f : Fields (Option α → β)) (name : String) (d : Decoder α) : Fields β :=
  f.and name (optional d) (.absentIs Option.none)

/-- One more field that may be absent, with the value that it then has. -/
def orElse (f : Fields (α → β)) (name : String) (d : Decoder α) (substitute : α) : Fields β :=
  f.and name d (.default substitute)

end Fields

/-- The index of the field that a key names. -/
def fieldIndex? (names : List String) : Key → Option Nat
  | .name s => names.findIdx? (· == s)
  | .position i => if i < names.length then some i else none
  | .other => none

/-- The first repeated member, member without a proper key or, if the record is strict, unknown
member. -/
def firstMisplaced (names : List String) (strict : Bool) :
    Nat → List Nat → List (Key × Value) → Option (Nat × Error)
  | _, _, [] => none
  | place, seen, (k, _) :: rest =>
    match k, fieldIndex? names k with
    | .other, _ => some (place, .wrongType "other" "field identifier")
    | _, some i =>
      if seen.contains i then some (place, .duplicateField (names.getD i ""))
      else firstMisplaced names strict (place + 1) (i :: seen) rest
    | .name s, none =>
      if strict then some (place, .unknownField s names)
      else firstMisplaced names strict (place + 1) seen rest
    | .position _, none => firstMisplaced names strict (place + 1) seen rest

/-- The error for a problem at a place; `what` describes the record type. -/
def Problem.toError (what : String) (names : List String) (s : Source) (place : Nat) :
    Problem → Error
  | .refused e => e
  | .missing name => match s with
    | .named _ => .missingField name
    | .listed _ => .wrongLength place (what ++ " with " ++ elements names.length)

variable {α : Type}

/-- Decodes the members of a record. -/
def fromMembers (what : String) (fields : Fields α) (strict : Bool)
    (members : List (Key × Value)) : Except Error α :=
  let s := Source.named members
  match firstMisplaced fields.names strict 0 [] members, fields.read 0 s with
  | none, .ok a => .ok a
  | some (_, e), .ok _ => .error e
  | none, .error (place, p) => .error (p.toError what fields.names s place)
  | some (i, e), .error (place, p) =>
    .error (if i < place then e else p.toError what fields.names s place)

/-- Decodes the list of a record's fields. -/
def fromItems (what : String) (fields : Fields α) (items : List Value) : Except Error α :=
  let s := Source.listed items
  match fields.read 0 s with
  | .error (place, p) => .error (p.toError what fields.names s place)
  | .ok a =>
    if items.length ≤ fields.names.length then .ok a
    else .error (.surplus items.length fields.names.length false)

/-- A record with the given fields; `what` describes the record type. -/
def record (what : String) (fields : Fields α) : Decoder α
  | .record members => fromMembers what fields false members
  | .list items => fromItems what fields items
  | v => .error (.wrongType v.found what)

/-- A record that refuses unknown members. -/
def strictRecord (what : String) (fields : Fields α) : Decoder α
  | .record members => fromMembers what fields true members
  | .list items => fromItems what fields items
  | v => .error (.wrongType v.found what)

/-! ### Unions with a tag -/

/-- Takes the tag out of the members of a record. The tag is read where it stands, and must not be
repeated. -/
def takeTag (tag : String) (known : List String) :
    Option String → List (Key × Value) → List (Key × Value) →
      Except Error (String × List (Key × Value))
  | some name, rest, [] => .ok (name, rest.reverse)
  | none, _, [] => .error (.missingField tag)
  | found, rest, (k, v) :: members =>
    if k = .name tag then
      match found with
      | some _ => .error (.duplicateField tag)
      | none => match v with
        | .text name =>
          if known.contains name then takeTag tag known (some name) rest members
          else .error (.unknownVariant name known)
        | v => .error (.wrongType v.found "variant identifier")
    else takeTag tag known found ((k, v) :: rest) members

/-- A union whose variant is told by the member `tag`, or by the first item of a list; the other
members or items are decoded by the variant. -/
def tagged (union tag : String) (variants : List (String × Decoder α)) : Decoder α := fun v =>
  let known := variants.map (·.1)
  let resume (name : String) (rest : Value) : Except Error α :=
    match variants.find? (·.1 == name) with
    | some (_, d) => (d rest).mapError Error.setAside
    | none => .error (.unknownVariant name known)
  match v with
  | .record members => do
    let (name, rest) ← takeTag tag known none [] members
    resume name (.record rest)
  | .list [] => .error (.missingField tag)
  | .list (.text name :: rest) => resume name (.list rest)
  | .list (v :: _) => .error (.wrongType v.found "variant identifier")
  | v => .error (.wrongType v.found s!"internally tagged enum {union}")

/-- A variant without fields: members do not matter, but a list must have no further items. -/
def bare (a : α) : Decoder α
  | .list (_ :: rest) => .error (.surplus (rest.length + 1) 0 true)
  | _ => .ok a

end ClusterMap.Decode
