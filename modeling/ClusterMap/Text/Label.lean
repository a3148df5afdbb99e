import ClusterMap.Scalar

/-!
# Labels of limited width

Every character is taken to be equally wide. A label that is wider than its budget is cut, and an
ellipsis stands in place of what was cut off.

`search` finds how many characters fit, from any first guess: it steps down to a count that fits and
then up as long as the next one fits. The guess only saves steps.
-/

namespace ClusterMap.Label

/-- What stands for the part that was cut off. -/
def ellipsis : Char := '…'

/-- The greatest count up to `n` that fits, zero if none does. -/
def stepDown (fits : Nat → Bool) : Nat → Nat
  | 0 => 0
  | n + 1 => if fits (n + 1) then n + 1 else stepDown fits n

/-- Steps up from `n` while the next count fits, at most to `limit`. -/
def stepUp (fits : Nat → Bool) (limit n : Nat) : Nat :=
  if n < limit ∧ fits (n + 1) then stepUp fits limit (n + 1) else n
termination_by limit - n

/-- How many characters fit, starting from a guess. -/
def search (fits : Nat → Bool) (limit guess : Nat) : Nat :=
  stepUp fits limit (stepDown fits guess)

/-- The first characters of a text with an ellipsis, `n` characters in all; the text itself if it is
no longer than that. -/
def shorten (s : String) (n : Nat) : String :=
  if s.length ≤ n then s
  else if n = 0 then ""
  else String.ofList (s.toList.take (n - 1) ++ [ellipsis])

variable {α : Type} [Scalar α]

open Scalar

/-- The width of a text. -/
def width (s : String) (charWidth : α) : α := ofNat s.length * charWidth

/-- Whether some characters fit a budget. -/
def fitsIn (budget charWidth : α) (n : Nat) : Bool := le (ofNat n * charWidth) budget

/-- How many characters fit a budget. -/
def capacity (budget charWidth : α) : Nat :=
  if lt 0 charWidth && lt 0 budget then
    search (fitsIn budget charWidth) Count.limit (floorCount (budget / charWidth))
  else 0

/-- The text cut to a budget. -/
def truncate (s : String) (budget charWidth : α) : String := shorten s (capacity budget charWidth)

end ClusterMap.Label
