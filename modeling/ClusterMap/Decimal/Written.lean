import ClusterMap.Decimal.Shortest

/-!
# Writing numbers

How a number is laid out once its digits are chosen. A `Layout` holds the decisions of one format:
between which powers of ten a value is written positionally, and that an integral value keeps one
zero after the point. Outside those powers the text is scientific, with no sign on a positive
exponent.

`fixed` writes a value with a given number of places instead; a value half-way between two grid
points goes to the even one.
-/

namespace ClusterMap.Decimal

/-- Where positional notation ends. With `n` digits and the point after digit `k`, a value is
written positionally when `lowest < k ≤ highest`. -/
structure Layout where
  lowest : Int
  highest : Int

/-- Doubles are positional from `1e-5` up to, but not including, `1e16`. -/
def Layout.double : Layout := ⟨-5, 16⟩

/-- Singles are positional from `1e-6` up to, but not including, `1e13`. -/
def Layout.single : Layout := ⟨-6, 13⟩

/-- `n` zeros. -/
def zeros (n : Nat) : List Char := List.replicate n '0'

/-- The digits of `d` laid out by the rules of `l`. -/
def Layout.write (l : Layout) (d : Scientific) : List Char :=
  let ds := Nat.toDigits 10 d.digits
  let count : Int := ds.length
  let point := count + d.exponent
  if d.digits = 0 then ['0', '.', '0']
  else if 0 ≤ d.exponent ∧ point ≤ l.highest then
    ds ++ zeros d.exponent.toNat ++ ['.', '0']
  else if 0 < point ∧ point ≤ l.highest then
    ds.take point.toNat ++ '.' :: ds.drop point.toNat
  else if l.lowest < point ∧ point ≤ 0 then
    '0' :: '.' :: zeros (-point).toNat ++ ds
  else
    let exponent := point - 1
    let mantissa := match ds with
      | [x] => [x]
      | x :: rest => x :: '.' :: rest
      | [] => []
    mantissa ++ 'e' :: (toString exponent).toList

/-- The shortest text of a finite value. -/
def Binary.write (l : Layout) (b : Binary) : String :=
  String.ofList ((if b.negative then ['-'] else []) ++ l.write b.shortest)

/-- The nearest multiple of `10 ^ -places`, as a count of them; ties go to the even count. -/
def Binary.scaledTo (places : Nat) (b : Binary) : Nat :=
  let (n, d) := b.ratio
  let n := n * Nat.pow 10 places
  let quotient := n / d
  let rest := 2 * (n % d)
  if d < rest ∨ (rest = d ∧ quotient % 2 = 1) then quotient + 1 else quotient

/-- Fixed-point text with the given number of places. -/
def Reading.fixed (places : Nat) : Reading → String
  | .notANumber => "NaN"
  | .infinite negative => if negative then "-inf" else "inf"
  | .finite b =>
    let ds := Nat.toDigits 10 (b.scaledTo places)
    let ds := zeros (places + 1 - ds.length) ++ ds
    let whole := ds.length - places
    let body := if places = 0 then ds else ds.take whole ++ '.' :: ds.drop whole
    String.ofList ((if b.negative then ['-'] else []) ++ body)

end ClusterMap.Decimal
