import ClusterMap.Decimal.Binary

/-!
# The shortest decimal that reads back

Of all decimals that round to a given binary value, `shortest` picks one with the fewest digits,
and of those the one nearest to the value; an exact tie goes to the even digit. Everything is exact
natural-number arithmetic: a value is compared with the points of the decimal grids of one, two,
three, … digits, and the first grid with a point in the rounding interval wins. If a grid has a
point in the interval, then one of the value's two neighbours on that grid is in it, so two
candidates for each grid suffice.
-/

namespace ClusterMap.Decimal

/-- A decimal `digits · 10 ^ exponent`. -/
structure Scientific where
  digits : Nat
  exponent : Int
deriving DecidableEq, Repr

/-- The reals that round to a value, all over one denominator: `low` and `high` are the ends, and
they belong to the interval exactly when `closed`. -/
structure Interval where
  low : Nat
  mid : Nat
  high : Nat
  denominator : Nat
  closed : Bool

/-- Half-way to the neighbours on both sides; the ends round to an even mantissa. -/
def Binary.interval (b : Binary) : Interval :=
  let scale : Nat × Nat := match b.exponent - 2 with
    | .ofNat e => (Nat.pow 2 e, 1)
    | .negSucc e => (1, Nat.pow 2 (e + 1))
  let mid := 4 * b.mantissa
  { low := (mid - if b.lowestOfBinade then 1 else 2) * scale.1
    mid := mid * scale.1
    high := (mid + 2) * scale.1
    denominator := scale.2
    closed := b.mantissa % 2 == 0 }

/-- Whether `c · p / q` lies in the interval. -/
def Interval.holds (i : Interval) (c p q : Nat) : Bool :=
  let x := c * p * i.denominator
  if i.closed then i.low * q ≤ x && x ≤ i.high * q else i.low * q < x && x < i.high * q

/-- The number of decimal digits of a positive natural number. -/
def digitCount (n : Nat) : Nat := (Nat.toDigits 10 n).length

/-- The integer `t` with `10 ^ t ≤ n / d < 10 ^ (t + 1)`, for positive `n` and `d`. -/
def decimalOrder (n d : Nat) : Int :=
  let guess : Int := (digitCount n : Int) - (digitCount d : Int)
  let reaches : Bool := match guess with
    | .ofNat t => d * Nat.pow 10 t ≤ n
    | .negSucc t => d ≤ n * Nat.pow 10 (t + 1)
  if reaches then guess else guess - 1

/-- The power `10 ^ k` as a fraction. -/
def tenPower : Int → Nat × Nat
  | .ofNat k => (Nat.pow 10 k, 1)
  | .negSucc k => (1, Nat.pow 10 (k + 1))

/-- The point of the grid `10 ^ k` that reads back as the value and is nearest to it. -/
def Interval.onGrid? (i : Interval) (k : Int) : Option Nat :=
  let (p, q) := tenPower k
  let below := i.mid * q / (p * i.denominator)
  let low := i.holds below p q
  let high := i.holds (below + 1) p q
  if low && high then
    let twice := 2 * i.mid * q
    let middle := (2 * below + 1) * p * i.denominator
    if twice < middle then some below
    else if middle < twice then some (below + 1)
    else some (if below % 2 = 0 then below else below + 1)
  else if low then some below
  else if high then some (below + 1)
  else none

/-- Tries the grids from `k` downwards, at most `fuel` of them. -/
def Interval.firstHit (i : Interval) : Nat → Int → Option Scientific
  | 0, _ => none
  | fuel + 1, k =>
    match i.onGrid? k with
    | some c => some ⟨c, k⟩
    | none => i.firstHit fuel (k - 1)

/-- Moves trailing zeros of the digits into the exponent. -/
def Scientific.normalize (d : Scientific) : Scientific :=
  go (digitCount d.digits) d
where
  go : Nat → Scientific → Scientific
    | 0, d => d
    | n + 1, d =>
      if d.digits ≠ 0 ∧ d.digits % 10 = 0 then go n ⟨d.digits / 10, d.exponent + 1⟩ else d

/-- The shortest decimal that rounds to the magnitude of `b`. Seventeen digits always suffice. -/
def Binary.shortest (b : Binary) : Scientific :=
  if b.mantissa = 0 then ⟨0, 0⟩
  else
    let (n, d) := b.ratio
    match b.interval.firstHit 18 (decimalOrder n d) with
    | some found => found.normalize
    | none => ⟨0, 0⟩

end ClusterMap.Decimal
