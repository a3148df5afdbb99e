import ClusterMap.Data.Value
import ClusterMap.Decimal.Nearest
import ClusterMap.Text.Hex

/-!
# Plain YAML scalars

A scalar without quotes stands for null, a truth value, an integer or a floating-point number if it
is spelled like one, and for its own text otherwise. Integers are decimal, or have `0x`, `0o` or
`0b` in front; digits with a leading zero are a text. Integers beyond 64 bits have no value as long
as they have at most 128; longer ones are floating-point numbers.
-/

namespace ClusterMap.Yaml

/-- What a plain scalar stands for. An integer is unsigned unless it is written with a minus. -/
inductive Resolved where
  | null
  | bool (b : Bool)
  | unsigned (n : Nat)
  | signed (n : Int)
  /-- An integer of more than 64 but at most 128 bits. -/
  | tooLarge
  | real (x : Float)
  | text (s : String)

/-- The value of a digit in a base up to 16. -/
def digitIn? (base : Nat) (c : Char) : Option Nat :=
  (Text.hexDigit? c).filter (· < base)

/-- The value of a non-empty list of digits. -/
def digits? (base : Nat) : List Char → Option Nat
  | [] => none
  | cs => cs.foldlM (fun n c => (digitIn? base c).map (n * base + ·)) 0

/-- Whether a text is digits with a leading zero, perhaps behind a sign. -/
def isPaddedDigits (cs : List Char) : Bool :=
  let (_, cs) := Decimal.takeSign cs
  1 < cs.length && cs.head? == some '0' && cs.all Char.isDigit

/-- The magnitude of an integer, whose sign has been split off. -/
def magnitude? (cs : List Char) : Option Nat :=
  match cs with
  | '0' :: 'x' :: rest => digits? 16 rest
  | '0' :: 'o' :: rest => digits? 8 rest
  | '0' :: 'b' :: rest => digits? 2 rest
  | cs => if isPaddedDigits cs then none else digits? 10 cs

/-- Reads an integer of at most 128 bits. -/
def integer? (cs : List Char) : Option Resolved := do
  let (negative, body) := Decimal.takeSign cs
  let n ← magnitude? body
  if negative then
    if n ≤ Nat.pow 2 63 then some (.signed (-(n : Int)))
    else if n ≤ Nat.pow 2 127 then some .tooLarge
    else none
  else if n < Nat.pow 2 64 then some (.unsigned n)
  else if n < Nat.pow 2 128 then some .tooLarge
  else none

/-- Reads a floating-point number; a decimal that is too large is none. -/
def float? (cs : List Char) : Option Float :=
  let (negative, body) := Decimal.takeSign cs
  match String.ofList body with
  | ".inf" | ".Inf" | ".INF" => some (if negative then -(1.0 / 0.0) else 1.0 / 0.0)
  | ".nan" | ".NaN" | ".NAN" => if body.length = cs.length then some (0.0 / 0.0) else none
  | _ => (Decimal.readDouble? cs).filter Float.isFinite

/-- Reads a null. -/
def isNull (s : String) : Bool := s == "~" || s == "null" || s == "Null" || s == "NULL"

/-- Reads a truth value. -/
def bool? (s : String) : Option Bool :=
  if s == "true" || s == "True" || s == "TRUE" then some true
  else if s == "false" || s == "False" || s == "FALSE" then some false
  else none

/-- What a plain scalar stands for. -/
def resolve (s : String) : Resolved :=
  if s.isEmpty || isNull s then .null
  else match bool? s with
    | some b => .bool b
    | none =>
      let cs := s.toList
      match integer? cs with
      | some r => r
      | none =>
        if isPaddedDigits cs then .text s
        else match float? cs with
          | some x => .real x
          | none => .text s

end ClusterMap.Yaml
