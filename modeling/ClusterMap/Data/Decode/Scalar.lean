import ClusterMap.Data.Decode.Error
import ClusterMap.Data.Entries

/-!
# Decoding scalars, lists and maps

Decoders for the types that records are made of. An integer is accepted where a floating-point
number is wanted, but not the reverse; a word is refused when it does not fit its width; and a name
from a fixed list may be given as a text or as a record whose only member has that name.
-/

namespace ClusterMap.Decode

/-- A decoder of type `α`. -/
abbrev Decoder (α : Type) := Value → Except Error α

/-- Any value at all. -/
def anyValue : Decoder Value := .ok

/-- A text. -/
def text : Decoder String
  | .text s => .ok s
  | v => .error (.wrongType v.found "a string")

/-- A truth value. -/
def bool : Decoder Bool
  | .bool b => .ok b
  | v => .error (.wrongType v.found "a boolean")

/-- An integer between two limits; `expected` names the type. -/
def integer (low high : Int) (expected : String) : Decoder Int
  | .integer n =>
    if low ≤ n ∧ n ≤ high then .ok n else .error (.wrongValue (Value.integer n).found expected)
  | v => .error (.wrongType v.found expected)

/-- An unsigned number of the given width in bits. -/
def unsigned (bits : Nat) (expected : String) : Decoder Nat := fun v =>
  (integer 0 ((Nat.pow 2 bits - 1 : Nat) : Int) expected v).map Int.toNat

/-- A word of 16 bits. -/
def word16 : Decoder UInt16 := fun v => (unsigned 16 "u16" v).map UInt16.ofNat

/-- A word of 32 bits. -/
def word32 : Decoder UInt32 := fun v => (unsigned 32 "u32" v).map UInt32.ofNat

/-- A word of 64 bits. -/
def word64 : Decoder UInt64 := fun v => (unsigned 64 "u64" v).map UInt64.ofNat

/-- A count. -/
def count : Decoder Nat := unsigned 64 "usize"

/-- A double. -/
def float64 : Decoder Float
  | .integer n => .ok (if n < 0 then -(UInt64.ofNat n.natAbs).toFloat
      else (UInt64.ofNat n.natAbs).toFloat)
  | .real x => .ok x
  | .single x => .ok x.toFloat
  | v => .error (.wrongType v.found "f64")

/-- A single-precision number; what is too large for it becomes infinite. -/
def float32 : Decoder Float32
  | .integer n => .ok (if n < 0 then -(UInt64.ofNat n.natAbs).toFloat32
      else (UInt64.ofNat n.natAbs).toFloat32)
  | .real x => .ok x.toFloat32
  | .single x => .ok x
  | v => .error (.wrongType v.found "f32")

/-- Null, or what `d` accepts. -/
def optional {α : Type} (d : Decoder α) : Decoder (Option α)
  | .null => .ok none
  | v => (d v).map some

/-- A list whose items `d` accepts. -/
def listOf {α : Type} (d : Decoder α) : Decoder (List α)
  | .list items => items.mapM d
  | v => .error (.wrongType v.found "a sequence")

/-- A map from texts, sorted by key, to what `d` accepts. -/
def mapOf {α : Type} (d : Decoder α) : Decoder (Entries α)
  | .record members => members.foldlM (fun entries (k, v) =>
      match k with
      | .name k => do
        let v ← d v
        .ok (Entries.insert entries k v)
      | _ => .error (.wrongType "integer" "a string")) []
  | v => .error (.wrongType v.found "a map")

/-- The meaning of a name from a fixed list. -/
def nameOf {α : Type} (names : List (String × α)) (name : String) : Except Error α :=
  match names.find? (·.1 == name) with
  | some (_, a) => .ok a
  | none => .error (.unknownVariant name (names.map (·.1)))

/-- The meaning of a key: of a name from a fixed list, or of its place in the list. -/
def keyOf {α : Type} (names : List (String × α)) : Key → Except Error α
  | .name s => nameOf names s
  | .position i => match names[i]? with
    | some (_, a) => .ok a
    | none => .error (.wrongValue s!"integer `{i}`" s!"variant index 0 <= i < {names.length}")
  | .other => .error (.wrongType "other" "variant identifier")

/-- A name from a fixed list, as a text or as the only member of a record. A member must be null;
with `lenient` set it may also be an empty record. -/
def choice {α : Type} (names : List (String × α)) (lenient : Bool) : Decoder α
  | .text s => nameOf names s
  | .record [(k, v)] => do
    let a ← keyOf names k
    match v with
    | .null => .ok a
    | .record [] => if lenient then .ok a else .error (.wrongType v.found "unit")
    | v => .error (.wrongType v.found "unit")
  | .record _ => .error (.wrongValue "map" "map with a single key")
  | v => .error (.wrongType v.found "string or map")

end ClusterMap.Decode
