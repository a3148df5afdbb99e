/-!
# Blank characters

The characters with the Unicode property `White_Space`, and the trimming of texts by it. Core's
`Char.isWhitespace` knows four of them.
-/

namespace ClusterMap.Text

/-- The Unicode property `White_Space`. -/
def isBlank (c : Char) : Bool :=
  let n := c.toNat
  (9 ≤ n && n ≤ 13) || n == 0x20 || n == 0x85 || n == 0xA0 || n == 0x1680 ||
    (0x2000 ≤ n && n ≤ 0x200A) || n == 0x2028 || n == 0x2029 || n == 0x202F || n == 0x205F ||
    n == 0x3000

/-- Drops the blanks at both ends of a list of characters. -/
def trimChars (cs : List Char) : List Char :=
  ((cs.dropWhile isBlank).reverse.dropWhile isBlank).reverse

/-- The text without the blanks at its ends. -/
def trim (s : String) : String := String.ofList (trimChars s.toList)

/-- The text in upper case; letters outside ASCII stay as they are. -/
def upperAscii (s : String) : String := s.map Char.toUpper

/-- The text in lower case; letters outside ASCII stay as they are. -/
def lowerAscii (s : String) : String := s.map Char.toLower

end ClusterMap.Text
