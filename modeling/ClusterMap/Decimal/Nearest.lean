import ClusterMap.Decimal.Binary
import ClusterMap.Text.Natural

/-!
# Reading decimal numbers

`Format.nearest` gives the bits of the floating-point number that is nearest to a fraction, in exact
arithmetic; a fraction half-way between two numbers goes to the one with an even mantissa, and one
beyond the largest number to infinity.

`readSingle?` and `readDouble?` read a number from a text: an optional sign and then digits with at
most one point among them and perhaps an exponent, or `inf`, `infinity` or `nan` in any case.
-/

namespace ClusterMap.Decimal

namespace Format

/-- The bits of infinity. -/
def infinity (f : Format) : Nat := (Nat.pow 2 f.exponentBits - 1) * Nat.pow 2 f.fractionBits

/-- A quotient rounded to the nearest count; ties go to the even count. -/
def roundQuotient (n d : Nat) : Nat :=
  let rest := 2 * (n % d)
  if d < rest ∨ (rest = d ∧ n / d % 2 = 1) then n / d + 1 else n / d

/-- The fraction `n / d` divided by `2 ^ e`, as a fraction again. -/
def scaleDown (n d : Nat) : Int → Nat × Nat
  | .ofNat e => (n, d * Nat.pow 2 e)
  | .negSucc e => (n * Nat.pow 2 (e + 1), d)

/-- The exponent of the last place of the numbers around `n / d`, which is not zero. -/
def placeOf (f : Format) (n d : Nat) : Int :=
  let e : Int := n.log2 - d.log2 - f.fractionBits
  let (n, d) := scaleDown n d e
  max f.minExponent (if n < d * Nat.pow 2 f.fractionBits then e - 1 else e)

/-- The bits of the number nearest to `n / d`. -/
def nearest (f : Format) (n d : Nat) : Nat :=
  if n = 0 then 0
  else
    let e := f.placeOf n d
    let (n, d) := scaleDown n d e
    min f.infinity ((e - f.minExponent).toNat * Nat.pow 2 f.fractionBits + roundQuotient n d)

end Format

/-- The magnitude that digits write, of which the last `places` stand behind the point, times a
power of ten. Powers that no number of either precision reaches are cut off. -/
def magnitude (f : Format) (digits : List Nat) (places : Nat) (exponent : Int) : Nat :=
  let n : Nat := digits.foldl (fun n d => 10 * n + d) 0
  let power : Int := exponent - (places : Int)
  let top := power + (digits.length : Int)
  if n = 0 ∨ top < -400 then 0
  else if 400 < power then f.infinity
  else match power with
    | .ofNat p => f.nearest (n * Nat.pow 10 p) 1
    | .negSucc p => f.nearest n (Nat.pow 10 (p + 1))

/-- Digits at the start of a text, and what follows them. -/
def takeDigits : List Char → List Nat × List Char
  | [] => ([], [])
  | c :: rest =>
    match Text.digitValue? c with
    | none => ([], c :: rest)
    | some d => let (ds, rest) := takeDigits rest; (d :: ds, rest)

/-- An optional sign at the start of a text: whether it is a minus, and what follows. -/
def takeSign : List Char → Bool × List Char
  | '-' :: rest => (true, rest)
  | '+' :: rest => (false, rest)
  | cs => (false, cs)

/-- The exponent that ends a number, if it is written as one. -/
def readExponent? : List Char → Option Int
  | [] => some 0
  | c :: rest =>
    if c.toLower = 'e' then
      let (negative, rest) := takeSign rest
      match takeDigits rest with
      | (d :: ds, []) =>
        let n : Nat := (d :: ds).foldl (fun n d => 10 * n + d) 0
        some (if negative then -(n : Int) else n)
      | _ => none
    else none

/-- The bits of the magnitude that an unsigned number writes. -/
def readMagnitude? (f : Format) (cs : List Char) : Option Nat :=
  let word := cs.map Char.toLower
  if word = "inf".toList ∨ word = "infinity".toList then some f.infinity
  else if word = "nan".toList then some (f.infinity + Nat.pow 2 (f.fractionBits - 1))
  else
    let (whole, rest) := takeDigits cs
    let (decimals, rest) := match rest with
      | '.' :: rest => takeDigits rest
      | rest => ([], rest)
    if whole.isEmpty && decimals.isEmpty then none
    else (readExponent? rest).map (magnitude f (whole ++ decimals) decimals.length)

/-- Reads a single-precision number. -/
def readSingle? (s : String) : Option Float32 :=
  let (negative, rest) := takeSign s.toList
  (readMagnitude? .binary32 rest).map fun bits =>
    Float32.ofBits (UInt32.ofNat (if negative then bits + Nat.pow 2 31 else bits))

/-- Reads a double-precision number. -/
def readDouble? (cs : List Char) : Option Float :=
  let (negative, rest) := takeSign cs
  (readMagnitude? .binary64 rest).map fun bits =>
    Float.ofBits (UInt64.ofNat (if negative then bits + Nat.pow 2 63 else bits))

end ClusterMap.Decimal
