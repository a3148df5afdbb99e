import ClusterMap.Data.Value
import ClusterMap.Decimal.Written
import ClusterMap.Text.Quoted

/-!
# Why a value does not decode

The causes for which a structured value is refused by a record or a scalar type, and their wording.
-/

namespace ClusterMap

/-- How a value is named in a message. -/
def Value.found : Value → String
  | .null => "null"
  | .bool b => s!"boolean `{b}`"
  | .integer n => s!"integer `{n}`"
  | .real x => match Decimal.Reading.of64 x with
    | .finite b => "floating point `" ++ b.write .double ++ "`"
    | .infinite negative => if negative then "floating point `-inf`" else "floating point `inf`"
    | .notANumber => "floating point `NaN`"
  | .single x => match Decimal.Reading.of32 x with
    | .finite b => "floating point `" ++ b.write .single ++ "`"
    | _ => "floating point `NaN`"
  | .text s => "string " ++ Text.quote s
  | .list _ => "sequence"
  | .record _ => "map"

namespace Decode

/-- Why a value is refused. -/
inductive Error where
  /-- A value of another kind; `found` and `expected` are descriptions. -/
  | wrongType (found expected : String)
  /-- The right kind, but outside the range. -/
  | wrongValue (found expected : String)
  /-- A list that ends before the field at this position. -/
  | wrongLength (count : Nat) (expected : String)
  /-- A list with more items than the record has fields. `buffered` is set inside a value that was
  set aside before its type was known, which has a wording of its own. -/
  | surplus (given wanted : Nat) (buffered : Bool)
  | missingField (name : String)
  | duplicateField (name : String)
  | unknownField (name : String) (known : List String)
  | unknownVariant (name : String) (known : List String)
  /-- None of the alternatives of a union fits. -/
  | noAlternative (union : String)
deriving DecidableEq, Repr

/-- A list of names as it stands in a message. -/
def oneOf (names : List String) : String :=
  match names with
  | [a] => s!"`{a}`"
  | [a, b] => s!"`{a}` or `{b}`"
  | names => "one of " ++ String.intercalate ", " (names.map fun a => s!"`{a}`")

/-- The number of elements in words. -/
def elements (n : Nat) : String := if n = 1 then "1 element" else s!"{n} elements"

/-- The wording of an error. -/
def Error.message : Error → String
  | .wrongType found expected => s!"invalid type: {found}, expected {expected}"
  | .wrongValue found expected => s!"invalid value: {found}, expected {expected}"
  | .wrongLength n expected => s!"invalid length {n}, expected {expected}"
  | .surplus given _ false => s!"invalid length {given}, expected fewer elements in array"
  | .surplus given wanted true =>
    s!"invalid length {given}, expected " ++ elements wanted ++ " in sequence"
  | .missingField name => s!"missing field `{name}`"
  | .duplicateField name => s!"duplicate field `{name}`"
  | .unknownField name [] => s!"unknown field `{name}`, there are no fields"
  | .unknownField name known => s!"unknown field `{name}`, expected " ++ oneOf known
  | .unknownVariant name [] => s!"unknown variant `{name}`, there are no variants"
  | .unknownVariant name known => s!"unknown variant `{name}`, expected " ++ oneOf known
  | .noAlternative union => s!"data did not match any variant of untagged enum {union}"

/-- The error as it is worded inside a value that was set aside. -/
def Error.setAside : Error → Error
  | .surplus given wanted _ => .surplus given wanted true
  | e => e

end Decode

end ClusterMap
