import ClusterMap.Data.Yaml.Cursor
import ClusterMap.Text.Hex

/-!
# Texts in YAML

How the characters of a scalar are read, in each of its styles. Between the words of a plain or
quoted scalar a `Gap` stands: blanks on one line are kept, one line end reads as a space, and more
of them as one fewer.

What has been read is held in reverse.
-/

namespace ClusterMap.Yaml

/-! ### Between two words -/

/-- What stands between two words. -/
structure Gap where
  /-- The blanks, as long as no line has ended. -/
  blanks : List Char := []
  /-- Whether the line has changed. -/
  crossed : Bool := false
  /-- The first line end; a line end that is escaped does not count. -/
  first : Option Char := none
  /-- The other line ends. -/
  more : List Char := []

namespace Gap

/-- The characters, last first, that a gap reads as. -/
def reversed (g : Gap) : List Char :=
  if !g.crossed then g.blanks
  else if g.first == some '\n' then (if g.more.isEmpty then [' '] else g.more)
  else g.more ++ g.first.toList

/-- The gap with one more blank. -/
def blank (x : Char) (g : Gap) : Gap := if g.crossed then g else { g with blanks := x :: g.blanks }

/-- The gap with one more line end. -/
def lineEnd (x : Char) (g : Gap) : Gap :=
  if g.crossed then { g with more := x :: g.more }
  else { g with blanks := [], crossed := true, first := some x }

/-- Reads on to the next word. `tabs` is the column from which a tab may stand at the start of a
line. -/
def take (tabs : Nat) : Nat → Gap → Cursor → Except Fault (Gap × Cursor)
  | 0, g, c => .ok (g, c)
  | fuel + 1, g, c =>
    match c.peek? with
    | none => .ok (g, c)
    | some x =>
      if isBreak x then take tabs fuel (g.lineEnd x) c.next
      else if !isSpace x then .ok (g, c)
      else if x == '\t' && g.crossed && c.column < tabs then .error .strayTab
      else take tabs fuel (g.blank x) c.next

end Gap

/-! ### Plain scalars -/

/-- Reads the rest of a word, in front of what has been read. -/
def takeWord (flow : Bool) : Nat → List Char → Cursor → Except Fault (List Char × Cursor)
  | 0, acc, c => .ok (acc, c)
  | fuel + 1, acc, c =>
    match c.peek? with
    | none => .ok (acc, c)
    | some x =>
      let after := c.peekAt? 1
      let beforeMark := (after.map fun y => isFlowMark y || y == '?').getD false
      if isGap (some x) then .ok (acc, c)
      else if flow && x == ':' && beforeMark then .error .unexpectedColon
      else if (x == ':' && isGap after) || (flow && isFlowMark x) then .ok (acc, c)
      else takeWord flow fuel (x :: acc) c.next

/-- Reads a plain scalar whose further lines start at column `least` or later. The flag tells
whether the cursor behind it is on another line than the last word. -/
def takePlain (flow : Bool) (least : Nat) :
    Nat → List Char → Gap → Cursor → Except Fault (List Char × Bool × Cursor)
  | 0, acc, gap, c => .ok (acc, gap.crossed, c)
  | fuel + 1, acc, gap, c =>
    if c.atMarker || c.peek? == some '#' then .ok (acc, gap.crossed, c)
    else do
      let (word, c) ← takeWord flow c.fuel [] c
      let (acc, gap) := if word.isEmpty then (acc, gap) else (word ++ (gap.reversed ++ acc), {})
      if c.rest.isEmpty || !isGap c.peek? then .ok (acc, gap.crossed, c)
      else
        let (gap, c) ← gap.take least c.fuel c
        if !flow && c.column < least then .ok (acc, gap.crossed, c)
        else takePlain flow least fuel acc gap c

/-! ### Quoted scalars -/

/-- Reads `n` hexadecimal digits. -/
def takeHex? : Nat → Nat → Cursor → Option (Nat × Cursor)
  | 0, acc, c => some (acc, c)
  | n + 1, acc, c => do
    let x ← c.peek?
    let d ← Text.hexDigit? x
    takeHex? n (acc * 16 + d) c.next

/-- Reads a numeric escape of `n` digits. -/
def takeCode (n : Nat) (c : Cursor) : Except Fault (Char × Cursor) :=
  match takeHex? n 0 c with
  | some (code, c) => if code.isValidChar then .ok (Char.ofNat code, c) else .error .unknownEscape
  | none => .error .unknownEscape

/-- The escapes of one letter. -/
def escapes : List (Char × Char) :=
  [('0', '\x00'), ('a', '\x07'), ('b', '\x08'), ('t', '\t'), ('\t', '\t'), ('n', '\n'),
    ('v', '\x0b'), ('f', '\x0c'), ('r', '\r'), ('e', '\x1b'), (' ', ' '), ('"', '"'), ('/', '/'),
    ('\\', '\\'), ('N', '\u0085'), ('_', '\u00a0'), ('L', '\u2028'), ('P', '\u2029')]

/-- Reads the escape behind a backslash. -/
def takeEscape (c : Cursor) : Except Fault (Char × Cursor) :=
  match c.peek? with
  | some 'x' => takeCode 2 c.next
  | some 'u' => takeCode 4 c.next
  | some 'U' => takeCode 8 c.next
  | some x => match escapes.lookup x with
    | some y => .ok (y, c.next)
    | none => .error .unknownEscape
  | none => .error .unknownEscape

/-- Reads a word between quotes, in front of what has been read. The flag tells whether an escaped
line end stopped it. -/
def takeQuotedWord (quote : Char) :
    Nat → List Char → Cursor → Except Fault (List Char × Bool × Cursor)
  | 0, acc, c => .ok (acc, false, c)
  | fuel + 1, acc, c =>
    match c.peek? with
    | none => .ok (acc, false, c)
    | some x =>
      if isGap (some x) then .ok (acc, false, c)
      else if x == quote then
        if quote == '\'' && c.peekAt? 1 == some '\'' then
          takeQuotedWord quote fuel ('\'' :: acc) (c.drop 2)
        else .ok (acc, false, c)
      else if x == '\\' && quote == '"' then
        match c.peekAt? 1 with
        | none => .error .unknownEscape
        | some y =>
          if isBreak y then .ok (acc, true, c.drop 2)
          else do
            let (y, c) ← takeEscape c.next
            takeQuotedWord quote fuel (y :: acc) c
      else takeQuotedWord quote fuel (x :: acc) c.next

/-- Reads a quoted scalar from behind its opening quote. -/
def takeQuoted (quote : Char) : Nat → List Char → Cursor → Except Fault (List Char × Cursor)
  | 0, _, _ => .error .unclosedQuote
  | fuel + 1, acc, c =>
    if c.atMarker then .error .markerInQuotes
    else if c.rest.isEmpty then .error .unclosedQuote
    else do
      let (acc, escaped, c) ← takeQuotedWord quote c.fuel acc c
      if c.peek? == some quote then .ok (acc, c.next)
      else
        let (gap, c) ← Gap.take 0 c.fuel { crossed := escaped } c
        takeQuoted quote fuel (gap.reversed ++ acc) c

/-! ### Block scalars -/

/-- What becomes of the line ends behind a block scalar. -/
inductive Chomp where
  | strip
  | clip
  | keep
deriving DecidableEq

/-- Reads a chomping indicator. -/
def takeChomp (c : Cursor) : Option (Chomp × Cursor) :=
  match c.peek? with
  | some '+' => some (.keep, c.next)
  | some '-' => some (.strip, c.next)
  | _ => none

/-- Reads an indentation indicator, zero if there is none. -/
def takeIndent (c : Cursor) : Except Fault (Nat × Cursor) :=
  match c.peek? with
  | some x =>
    if x == '0' then .error .badBlockHeader
    else if x.isDigit then .ok (x.toNat - '0'.toNat, c.next)
    else .ok (0, c)
  | none => .ok (0, c)

/-- Reads the indicators of a block scalar, at most one of each kind, in any order. -/
def takeHeader (c : Cursor) : Except Fault (Nat × Chomp × Cursor) :=
  match takeChomp c with
  | some (chomp, c) => do
    let (n, c) ← takeIndent c
    .ok (n, chomp, c)
  | none => do
    let (n, c) ← takeIndent c
    if n = 0 then .ok (n, .clip, c)
    else
      let (chomp, c) := (takeChomp c).getD (.clip, c)
      .ok (n, chomp, c)

/-- Reads empty lines, and the indentation of the line behind them. An indentation of zero is one
that is not known yet. The result has the deepest column that was met and the line ends in front of
those that had been read. -/
def takeEmptyLines (indent : Nat) :
    Nat → Nat → List Char → Cursor → Except Fault (Nat × List Char × Cursor)
  | 0, deepest, ends, c => .ok (deepest, ends, c)
  | fuel + 1, deepest, ends, c =>
    let open_ := indent = 0 ∨ c.column < indent
    match c.peek? with
    | none => .ok (max deepest c.column, ends, c)
    | some x =>
      if x = ' ' ∧ open_ then takeEmptyLines indent fuel deepest ends c.next
      else if x = '\t' ∧ open_ then .error .strayTab
      else if isBreak x then
        takeEmptyLines indent fuel (max deepest c.column) (x :: ends) c.next
      else .ok (max deepest c.column, ends, c)

/-- What has been read of a block scalar. -/
structure Block where
  text : List Char := []
  /-- The end of the last line. -/
  lineEnd : Option Char := none
  /-- The ends of the empty lines behind it. -/
  empty : List Char := []
  /-- Whether the last line starts with a blank, so that its end is kept. -/
  indented : Bool := false

namespace Block

/-- The text with the line ends in front of a new line. In a folded scalar a single line end between
two lines reads as a space. -/
def joined (b : Block) (folded indented : Bool) : List Char :=
  if folded && b.lineEnd == some '\n' && !b.indented && !indented then
    if b.empty.isEmpty then ' ' :: b.text else b.empty ++ b.text
  else b.empty ++ (b.lineEnd.toList ++ b.text)

/-- The whole text. -/
def chomped (b : Block) : Chomp → List Char
  | .strip => b.text
  | .clip => b.lineEnd.toList ++ b.text
  | .keep => b.empty ++ (b.lineEnd.toList ++ b.text)

/-- Reads the lines that are indented by `indent`. -/
def takeLines (folded : Bool) (indent : Nat) :
    Nat → Block → Cursor → Except Fault (Block × Cursor)
  | 0, b, c => .ok (b, c)
  | fuel + 1, b, c =>
    if c.column ≠ indent ∨ c.rest.isEmpty then .ok (b, c)
    else do
      let indented := (c.peek?.map isSpace).getD false
      let line := c.rest.takeWhile (!isBreak ·)
      let text := line.reverse ++ b.joined folded indented
      let c := c.skipLine
      let (_, empty, after) ← takeEmptyLines indent c.fuel 0 [] c.next
      takeLines folded indent fuel ⟨text, c.peek?, empty, indented⟩ after

end Block

/-- Reads a block scalar from behind its indicator; `parent` is the column of the collection that it
stands in. -/
def takeBlock (folded : Bool) (parent : Option Nat) (c : Cursor) :
    Except Fault (List Char × Cursor) := do
  let (indent, chomp, c) ← takeHeader c
  match c.finishLine? with
  | none => .error .badBlockHeader
  | some c =>
    let least := (parent.map (· + 1)).getD 0
    let given := if indent = 0 then 0 else parent.getD 0 + indent
    let (deepest, empty, c) ← takeEmptyLines given c.fuel 0 [] c
    let indent := if given = 0 then max (max deepest least) 1 else given
    let (b, c) ← Block.takeLines folded indent c.fuel { empty } c
    .ok (b.chomped chomp, c)

end ClusterMap.Yaml
