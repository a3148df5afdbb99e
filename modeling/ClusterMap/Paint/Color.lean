import ClusterMap.Text.Blank
import ClusterMap.Text.Hex

/-!
# Colours

A colour is written as `#` with three, six or eight hexadecimal digits: a digit or a pair of digits
for each of red, green and blue, and in the longest form a pair for the opacity. A single digit
stands for itself written twice. Blanks around a colour do not count; in a pair, a plus sign in
place of the first digit stands for zero.

What is painted is a `Color`, whose channels are already weighted by its opacity.
-/

namespace ClusterMap

/-- The channels of a colour as they are written. -/
structure Channels where
  red : UInt8
  green : UInt8
  blue : UInt8
  /-- The opacity, where one is written. -/
  alpha : Option UInt8
deriving DecidableEq, Repr

/-- A colour whose channels are weighted by its opacity. -/
structure Color where
  red : UInt8
  green : UInt8
  blue : UInt8
  alpha : UInt8
deriving DecidableEq, Repr

namespace Channels

/-- The channel that one digit stands for: the digit written twice. -/
def single? (c : Char) : Option UInt8 := do
  let d ← Text.hexDigit? c
  pure (UInt8.ofNat (17 * d))

/-- The channel that two characters stand for. -/
def pair? (c d : Char) : Option UInt8 := do
  let high ← if c = '+' then some 0 else Text.hexDigit? c
  let low ← Text.hexDigit? d
  pure (UInt8.ofNat (16 * high + low))

/-- Reads what follows the `#`. -/
def ofDigits? : List Char → Option Channels
  | [r, g, b] => do pure ⟨← single? r, ← single? g, ← single? b, none⟩
  | [r, r', g, g', b, b'] => do pure ⟨← pair? r r', ← pair? g g', ← pair? b b', none⟩
  | [r, r', g, g', b, b', a, a'] => do
    pure ⟨← pair? r r', ← pair? g g', ← pair? b b', some (← pair? a a')⟩
  | _ => none

/-- Reads a colour. -/
def parse (s : String) : Option Channels :=
  match Text.trimChars s.toList with
  | '#' :: digits => ofDigits? digits
  | _ => none

/-- A channel weighted by an opacity, to the nearest; there are no ties, since 255 is odd. -/
def weigh (value alpha : UInt8) : UInt8 :=
  UInt8.ofNat ((2 * value.toNat * alpha.toNat + 255) / 510)

/-- The colour to paint. -/
def color (c : Channels) : Color :=
  let alpha := c.alpha.getD 255
  ⟨weigh c.red alpha, weigh c.green alpha, weigh c.blue alpha, alpha⟩

end Channels

namespace Color

/-- The colour that leaves what is below it. -/
def transparent : Color := ⟨0, 0, 0, 0⟩

/-- The colour of a canvas whose own is not to be read. -/
def white : Color := ⟨255, 255, 255, 255⟩

/-- The colour of a mark whose own is not to be read. -/
def grey : Color := ⟨140, 140, 140, 255⟩

/-- Reads a colour to paint. -/
def parse (s : String) : Option Color := (Channels.parse s).map Channels.color

end Color

end ClusterMap
