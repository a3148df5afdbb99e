/-!
# Reading counts

Decimal counts with an upper limit, as settings give them: an optional plus sign and then ASCII
digits, without anything around them.
-/

namespace ClusterMap.Text

/-- Why a text is no count. -/
inductive NaturalError where
  /-- There is nothing to read. -/
  | empty
  /-- A character that is no digit, or a sign alone. -/
  | invalidDigit
  /-- The count is above the limit. -/
  | tooLarge
deriving DecidableEq, Repr

/-- The wording of a failed reading. -/
def NaturalError.message : NaturalError → String
  | .empty => "cannot parse integer from empty string"
  | .invalidDigit => "invalid digit found in string"
  | .tooLarge => "number too large to fit in target type"

/-- The value of an ASCII decimal digit. -/
def digitValue? (c : Char) : Option Nat :=
  if '0' ≤ c ∧ c ≤ '9' then some (c.toNat - '0'.toNat) else none

/-- Reads digits from the left onto the count read so far. The first character at fault decides
which error is reported. -/
def readDigits (limit : Nat) : List Char → Nat → Except NaturalError Nat
  | [], n => .ok n
  | c :: rest, n =>
    match digitValue? c with
    | none => .error .invalidDigit
    | some d =>
      let n := n * 10 + d
      if limit < n then .error .tooLarge else readDigits limit rest n

/-- Reads a count of at most `limit`. -/
def readNatural (limit : Nat) (s : String) : Except NaturalError Nat :=
  match s.toList with
  | [] => .error .empty
  | ['+'] => .error .invalidDigit
  | '+' :: digits => readDigits limit digits 0
  | digits => readDigits limit digits 0

end ClusterMap.Text
