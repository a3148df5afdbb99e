/-!
# Binary floating-point values as exact integers

A finite binary floating-point number is `± m · 2 ^ e` with natural `m` and integer `e`. This file
reads that triple off the bits (`Binary.ofBits`) for any IEEE format, so that everything else about
decimal text can be done in exact integer arithmetic.

* `Binary.floorNat` is the integral part of a non-negative value.
* `Binary.isEven` and `Binary.isPowerOfTwo` are the two facts that fix the interval of reals which
  round to the value.
-/

namespace ClusterMap.Decimal

/-- The two field widths that make up an IEEE interchange format. -/
structure Format where
  fractionBits : Nat
  exponentBits : Nat

/-- Single precision. -/
def Format.binary32 : Format := ⟨23, 8⟩

/-- Double precision. -/
def Format.binary64 : Format := ⟨52, 11⟩

namespace Format

/-- The offset between the stored exponent and the true one. -/
def bias (f : Format) : Nat := Nat.pow 2 (f.exponentBits - 1) - 1

/-- The exponent of the last place of a subnormal number. -/
def minExponent (f : Format) : Int := 1 - (f.bias : Int) - (f.fractionBits : Int)

end Format

/-- A finite value `± mantissa · 2 ^ exponent`. `lowestOfBinade` holds of a value whose lower
neighbour is half as far away as its upper one. -/
structure Binary where
  negative : Bool
  mantissa : Nat
  exponent : Int
  lowestOfBinade : Bool
deriving DecidableEq, Repr

/-- What a bit pattern stands for. -/
inductive Reading where
  | finite (value : Binary)
  | infinite (negative : Bool)
  | notANumber
deriving DecidableEq, Repr

/-- Reads a bit pattern of the given format. -/
def Reading.ofBits (f : Format) (bits : Nat) : Reading :=
  let fraction := bits % Nat.pow 2 f.fractionBits
  let stored := bits / Nat.pow 2 f.fractionBits % Nat.pow 2 f.exponentBits
  let negative := bits / Nat.pow 2 (f.fractionBits + f.exponentBits) % 2 == 1
  if stored = Nat.pow 2 f.exponentBits - 1 then
    if fraction = 0 then .infinite negative else .notANumber
  else if stored = 0 then
    .finite ⟨negative, fraction, f.minExponent, false⟩
  else
    .finite ⟨negative, fraction + Nat.pow 2 f.fractionBits, f.minExponent + (stored - 1 : Nat),
      fraction == 0 && stored != 1⟩

/-- The exact reading of a single-precision number. -/
def Reading.of32 (x : Float32) : Reading := .ofBits .binary32 x.toBits.toNat

/-- The exact reading of a double-precision number. -/
def Reading.of64 (x : Float) : Reading := .ofBits .binary64 x.toBits.toNat

namespace Binary

/-- The magnitude as a fraction `numerator / denominator`. -/
def ratio (b : Binary) : Nat × Nat :=
  match b.exponent with
  | .ofNat e => (b.mantissa * Nat.pow 2 e, 1)
  | .negSucc e => (b.mantissa, Nat.pow 2 (e + 1))

/-- The integral part of the magnitude. -/
def floorNat (b : Binary) : Nat := b.ratio.1 / b.ratio.2

end Binary

end ClusterMap.Decimal
