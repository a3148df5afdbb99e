/-!
# Places in a YAML text

A cursor is the rest of a text and where it starts: the line and the column decide what belongs to
what, and the distance between two places decides what may still be a key. Line ends have been
unified before (`unifyBreaks`); besides the line feed there remain the line and the paragraph
separator, which end a line as well but are never folded into a space.
-/

namespace ClusterMap.Yaml

/-- Why a text is not read as YAML. -/
inductive Fault where
  | controlCharacter
  | strayTab
  | unexpectedCharacter
  | unexpectedColon
  | lostKey
  | keyNotAllowed
  | colonNotAllowed
  | itemNotAllowed
  | markerInQuotes
  | unclosedQuote
  | unknownEscape
  | badAnchor
  | badTag
  | badDirective
  | badBlockHeader
  | missingItem
  | missingKey
  | missingComma
  | missingNode
  | missingDocument
  | unknownHandle
  | unknownAnchor
  | localTag
  | badTaggedScalar
  | integerTooLarge
  | tooDeep
  | tooManyAliases
  | severalDocuments
deriving DecidableEq, Repr

/-- The wording of a fault. -/
def Fault.message : Fault → String
  | .controlCharacter => "control characters are not allowed"
  | .strayTab => "found a tab character that violates indentation"
  | .unexpectedCharacter => "found character that cannot start any token"
  | .unexpectedColon => "found unexpected ':'"
  | .lostKey => "could not find expected ':'"
  | .keyNotAllowed => "mapping keys are not allowed in this context"
  | .colonNotAllowed => "mapping values are not allowed in this context"
  | .itemNotAllowed => "block sequence entries are not allowed in this context"
  | .markerInQuotes => "found unexpected document indicator"
  | .unclosedQuote => "found unexpected end of stream"
  | .unknownEscape => "found unknown escape character"
  | .badAnchor => "did not find expected alphabetic or numeric character"
  | .badTag => "did not find expected tag URI"
  | .badDirective => "found unknown directive name"
  | .badBlockHeader => "did not find expected comment or line break"
  | .missingItem => "did not find expected '-' indicator"
  | .missingKey => "did not find expected key"
  | .missingComma => "did not find expected ',' or closing bracket"
  | .missingNode => "did not find expected node content"
  | .missingDocument => "did not find expected <document start>"
  | .unknownHandle => "found undefined tag handle"
  | .unknownAnchor => "unknown anchor"
  | .localTag => "untagged and internally tagged enums do not support enum input"
  | .badTaggedScalar => "invalid value"
  | .integerTooLarge => "integer out of range"
  | .tooDeep => "recursion limit exceeded"
  | .tooManyAliases => "repetition limit exceeded"
  | .severalDocuments =>
    "deserializing from YAML containing more than one document is not supported"

/-! ### Characters -/

/-- Whether a character may stand in a text. -/
def isAllowed (c : Char) : Bool :=
  let n := c.toNat
  c == '\t' || c == '\n' || c == '\r' || (0x20 ≤ n && n ≤ 0x7E) || n == 0x85 ||
    (0xA0 ≤ n && n ≤ 0xD7FF) || (0xE000 ≤ n && n ≤ 0xFFFD) || 0x10000 ≤ n

/-- Writes a carriage return, alone or before a line feed, and a next-line character as a line
feed. -/
def unifyBreaks : List Char → List Char
  | '\r' :: '\n' :: rest => '\n' :: unifyBreaks rest
  | '\r' :: rest => '\n' :: unifyBreaks rest
  | '\u0085' :: rest => '\n' :: unifyBreaks rest
  | c :: rest => c :: unifyBreaks rest
  | [] => []

/-- Whether a character ends a line. -/
def isBreak (c : Char) : Bool := c == '\n' || c == '\u2028' || c == '\u2029'

/-- Whether a character is a space or a tab. -/
def isSpace (c : Char) : Bool := c == ' ' || c == '\t'

/-- Whether there is a space, a tab, a line end or the end of the text. -/
def isGap : Option Char → Bool
  | none => true
  | some c => isSpace c || isBreak c

/-- The letters, digits and marks that names of anchors, tags and directives are made of. -/
def isNameChar (c : Char) : Bool := c.isAlphanum || c == '_' || c == '-'

/-- The characters that separate and enclose flow collections. -/
def isFlowMark (c : Char) : Bool := [',', '[', ']', '\x7b', '\x7d'].contains c

/-! ### Cursors -/

/-- The rest of a text, and where it starts. -/
structure Cursor where
  rest : List Char
  /-- How many octets lie before. -/
  index : Nat := 0
  line : Nat := 0
  column : Nat := 0

namespace Cursor

/-- The next character. -/
def peek? (c : Cursor) : Option Char := c.rest.head?

/-- The character after the next `n`. -/
def peekAt? (c : Cursor) (n : Nat) : Option Char := (c.rest.drop n).head?

/-- The cursor behind the next character. -/
def next (c : Cursor) : Cursor :=
  match c.rest with
  | [] => c
  | x :: rest =>
    let index := c.index + x.utf8Size
    if isBreak x then ⟨rest, index, c.line + 1, 0⟩ else ⟨rest, index, c.line, c.column + 1⟩

/-- The cursor behind the next `n` characters. -/
def drop (c : Cursor) : Nat → Cursor
  | 0 => c
  | n + 1 => c.next.drop n

/-- A number of steps that is enough for any walk to the end of the text. -/
def fuel (c : Cursor) : Nat := c.rest.length + 1

/-- The cursor behind the characters of the line that have a property, which no line end has. -/
def skipWhile (p : Char → Bool) (c : Cursor) : Cursor :=
  c.drop (c.rest.takeWhile p).length

/-- The cursor behind the spaces and tabs of the line. -/
def skipSpaces (c : Cursor) : Cursor := c.skipWhile isSpace

/-- The cursor at the end of the line. -/
def skipLine (c : Cursor) : Cursor := c.skipWhile (!isBreak ·)

/-- Whether a document marker stands here: three dashes or three points in column zero. -/
def atMarker (c : Cursor) : Bool :=
  c.column == 0 &&
    (match c.rest with
      | '-' :: '-' :: '-' :: rest | '.' :: '.' :: '.' :: rest => isGap rest.head?
      | _ => false)

/-- Passes over spaces and a comment up to the end of the line. -/
def finishLine? (c : Cursor) : Option Cursor :=
  let c := c.skipSpaces
  let c := if c.peek? == some '#' then c.skipLine else c
  match c.peek? with
  | none => some c
  | some x => if isBreak x then some c.next else none

end Cursor

end ClusterMap.Yaml
