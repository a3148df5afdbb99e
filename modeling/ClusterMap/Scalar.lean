import ClusterMap.Count
import ClusterMap.Decimal.Binary

/-!
# The scalars of the geometry

Layout, drawing and hit testing are written once, over any type with the operations of `Scalar`,
and in exactly the order in which the operations are to be carried out. The program runs them in
single precision (`instScalarFloat32`); laws of geometry are stated over the rationals
(`instScalarRat`), where no operation rounds.
-/

namespace ClusterMap

/-- The arithmetic that the geometry uses. Comparisons are Boolean: of two floating-point numbers
neither need be below the other. -/
class Scalar (α : Type) extends Add α, Sub α, Mul α, Div α, Neg α where
  /-- The scalar of a count. -/
  ofNat : Nat → α
  /-- Whether the first scalar is at most the second. -/
  le : α → α → Bool
  /-- Whether the first scalar is below the second. -/
  lt : α → α → Bool
  /-- Whether two scalars are numerically equal. -/
  eq : α → α → Bool
  /-- The smaller of two scalars; a scalar that is no number gives way to the other. -/
  min : α → α → α
  /-- The larger of two scalars; a scalar that is no number gives way to the other. -/
  max : α → α → α
  /-- The largest count at most the scalar, and at most `2 ^ 64 - 1`. -/
  floorCount : α → Nat

namespace Scalar

/-- Counts written as numerals are scalars. -/
instance (priority := low) instOfNatScalar {α : Type} [Scalar α] (n : Nat) : OfNat α n :=
  ⟨Scalar.ofNat n⟩

/-- The scalar held between two others: first raised to `low`, then lowered to `high`. -/
def clamp {α : Type} [Scalar α] (low high x : α) : α :=
  let x := if lt x low then low else x
  if lt high x then high else x

/-- The integral part of a single-precision number, held between zero and the largest count. -/
def floorCount32 (x : Float32) : Nat :=
  match Decimal.Reading.of32 x with
  | .notANumber => 0
  | .infinite negative => if negative then 0 else Count.limit
  | .finite b => if b.negative then 0 else Nat.min b.floorNat Count.limit

/-- Single precision, with every operation rounded once. Of zeros of different sign, `min` gives the
second and `max` the positive one. -/
instance instScalarFloat32 : Scalar Float32 where
  ofNat n := (UInt64.ofNat n).toFloat32
  le a b := decide (a ≤ b)
  lt a b := decide (a < b)
  eq a b := a == b
  min a b := if a.isNaN || b ≤ a then b else a
  max a b := if a.isNaN || a < b || (a == b && a.toBits != 0) then b else a
  floorCount := floorCount32

/-- Exact rational arithmetic. -/
instance instScalarRat : Scalar Rat where
  ofNat n := (n : Rat)
  le a b := decide (a ≤ b)
  lt a b := decide (a < b)
  eq a b := decide (a = b)
  min a b := if b < a then b else a
  max a b := if a < b then b else a
  floorCount x := Nat.min x.floor.toNat Count.limit

end Scalar

end ClusterMap
