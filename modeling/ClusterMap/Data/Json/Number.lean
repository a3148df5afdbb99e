import ClusterMap.Data.Value
import ClusterMap.Data.Json.Cursor

/-!
# JSON numbers

An integer that fits 64 bits, with or without sign, stays an integer; every other number becomes a
double. A double is made from the leading digits that fit 64 bits and a power of ten, by one
multiplication or division in double precision, so a number of more than about sixteen digits may
differ from the nearest double in its last place. A number above the largest double is a fault, one
below the smallest is zero, and `-0` is the negative zero of the doubles.
-/

namespace ClusterMap.Json

/-- The largest unsigned and the largest signed word. -/
def maxWord : Nat := 18446744073709551615

/-- The largest exponent that is read; a longer one overflows. -/
def maxExponent : Nat := 2147483647

/-- The value of a decimal digit. -/
def digit? (c : Char) : Option Nat :=
  if '0' ≤ c ∧ c ≤ '9' then some (c.toNat - '0'.toNat) else none

/-- Applies a power of ten to a significand. Exponents outside the table of doubles are taken in
steps of `308`; `none` means that the number is too large. -/
def scaleByTen : Nat → Float → Int → Option Float
  | 0, x, _ => some x
  | fuel + 1, x, e =>
    if e.natAbs ≤ 308 then
      let power := Float.ofScientific 1 false e.natAbs
      if 0 ≤ e then
        let y := x * power
        if y.isInf then none else some y
      else some (x / power)
    else if x == 0.0 then some x
    else if 0 ≤ e then none
    else scaleByTen fuel (x / 1e308) (e + 308)

/-- The double with the given sign, significand and power of ten. -/
def assemble (positive : Bool) (significand : Nat) (exponent : Int) (c : Cursor) :
    Except (Located Fault) (Value × Cursor) :=
  match scaleByTen 8 (UInt64.ofNat significand).toFloat exponent with
  | none => here .numberOutOfRange c
  | some x => .ok (.real (if positive then x else -x), c)

/-- The digits at the cursor and the cursor behind them. -/
def takeDigits (c : Cursor) : List Nat × Cursor := go c.rest c.position
where
  go : List Char → Position → List Nat × Cursor
    | [], p => ([], ⟨[], p⟩)
    | x :: rest, p =>
      match digit? x with
      | none => ([], ⟨x :: rest, p⟩)
      | some d => let (ds, c) := go rest (p.after x); (d :: ds, c)

/-- Appends digits to a significand as long as it fits a word. Gives the significand, the number of
digits used and the number left over. -/
def accumulate (limit : Nat) : Nat → List Nat → Nat × Nat × Nat
  | n, [] => (n, 0, 0)
  | n, d :: ds =>
    if limit < n * 10 + d then (n, 0, ds.length + 1)
    else let (m, used, left) := accumulate limit (n * 10 + d) ds; (m, used + 1, left)

/-- The sign of an exponent, if one is written, and the cursor behind it. -/
def exponentSign (c : Cursor) : Bool × Cursor :=
  match c.peek? with
  | some '+' => (true, c.next)
  | some '-' => (false, c.next)
  | _ => (true, c)

/-- Reads the exponent behind its letter. -/
def readExponent (positive : Bool) (significand : Nat) (exponent : Int) :
    Read Fault Value := fun c =>
  let (up, c) := exponentSign c.next
  match c.peek? with
  | none => here .eofInValue c
  | some x =>
    match digit? x with
    | none => look .invalidNumber c
    | some first =>
      let (ds, after) := takeDigits c.next
      let (n, used, left) := accumulate maxExponent first ds
      if left ≠ 0 then
        if significand ≠ 0 && up then here .numberOutOfRange (c.drop (used + 2))
        else .ok (.real (if positive then 0.0 else -0.0), after)
      else
        assemble positive significand (if up then exponent + n else exponent - n) after

/-- Continues with an exponent if one follows. -/
def maybeExponent (positive : Bool) (significand : Nat) (exponent : Int) : Read Fault Value :=
  fun c =>
    match c.peek? with
    | some 'e' | some 'E' => readExponent positive significand exponent c
    | _ => assemble positive significand exponent c

/-- Reads the decimals behind the point. Decimals that no longer fit the significand are
dropped. -/
def readDecimals (positive : Bool) (significand : Nat) (exponent : Int) :
    Read Fault Value := fun c =>
  let c := c.next
  let (ds, after) := takeDigits c
  match ds with
  | [] => match c.peek? with
    | none => look .eofInValue c
    | some _ => look .invalidNumber c
  | _ =>
    let (n, used, _) := accumulate maxWord significand ds
    maybeExponent positive n (exponent - used) after

/-- Reads a number whose sign, if any, has been read. -/
def readNumber (positive : Bool) : Read Fault Value := fun c =>
  match c.peek? with
  | none => here .eofInValue c
  | some x =>
    match digit? x with
    | none => look .invalidNumber c
    | some 0 =>
      match c.next.peek?.bind digit? with
      | some _ => look .invalidNumber c.next
      | none => fraction 0 0 true c.next
    | some first =>
      let (ds, after) := takeDigits c.next
      let (n, _, left) := accumulate maxWord first ds
      fraction n left (left == 0) after
where
  /-- What follows the integer digits: decimals, an exponent, or nothing. -/
  fraction (n left : Nat) (fits : Bool) : Read Fault Value := fun c =>
    match c.peek? with
    | some '.' => readDecimals positive n left c
    | some 'e' | some 'E' => readExponent positive n left c
    | _ =>
      if !fits then assemble positive n left c
      else if positive then .ok (.integer n, c)
      else if n = 0 then .ok (.real (-0.0), c)
      else if n ≤ 9223372036854775808 then .ok (.integer (-(n : Int)), c)
      else .ok (.real (-(UInt64.ofNat n).toFloat), c)

end ClusterMap.Json
