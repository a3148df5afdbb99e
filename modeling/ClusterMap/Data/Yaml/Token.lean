import ClusterMap.Data.Yaml.Text

/-!
# The tokens of a YAML text

`Token.ofText` splits a text into tokens. Besides what is written, there are tokens for what the
columns say: where a block collection starts and ends. That a text or a bracket starts a key is seen
only at the colon behind it; `Scanner.keys` holds the places where a key may have started, and the
colon puts the tokens for the key there (`Scanner.insertAt`). A key stands on one line and has at
most `keyLimit` octets.
-/

namespace ClusterMap.Yaml

/-- What stands before a tag's own name: nothing if the tag is written out, or the handle of a
prefix. Both are octets. -/
structure Tag where
  handle : List UInt8
  suffix : List UInt8
deriving DecidableEq, Repr

/-- A token. -/
inductive Token where
  | version (major minor : Nat)
  | tagPrefix (handle value : List UInt8)
  | documentStart
  | documentEnd
  | blockList
  | blockRecord
  | blockEnd
  | openList
  | closeList
  | openRecord
  | closeRecord
  | comma
  | dash
  | key
  | colon
  | alias (name : String)
  | anchor (name : String)
  | tag (t : Tag)
  | scalar (text : String) (plain : Bool)
deriving DecidableEq, Repr

/-- The most octets of a key. -/
def keyLimit : Nat := 1024

/-- A place where a key may have started. -/
structure KeyStart where
  /-- How many tokens lie before. -/
  token : Nat
  index : Nat
  line : Nat
  column : Nat
  /-- Whether nothing else can stand there. -/
  required : Bool

/-- What is known between two tokens. -/
structure Scanner where
  cursor : Cursor
  /-- The tokens so far, last first. -/
  tokens : List Token := []
  /-- How many tokens there are. -/
  count : Nat := 0
  /-- The columns of the open block collections, innermost first. -/
  columns : List Nat := []
  /-- Where a key may have started, inside the innermost bracket and then outside of each
  bracket. -/
  keys : Option KeyStart × List (Option KeyStart) := (none, [])
  /-- Whether a key may start here. -/
  keyAllowed : Bool := true

namespace Scanner

/-- Whether brackets are open. -/
def inFlow (s : Scanner) : Bool := !s.keys.2.isEmpty

/-- The scanner with one more token. -/
def emit (t : Token) (s : Scanner) : Scanner :=
  { s with tokens := t :: s.tokens, count := s.count + 1 }

/-- The scanner with a token put behind the first `n`. -/
def insertAt (n : Nat) (t : Token) (s : Scanner) : Scanner :=
  let later := s.count - n
  { s with
    tokens := s.tokens.take later ++ t :: s.tokens.drop later
    count := s.count + 1 }

/-- The scanner behind the next `n` characters. -/
def skip (n : Nat) (s : Scanner) : Scanner := { s with cursor := s.cursor.drop n }

/-- Sets whether a key may start. -/
def allowKey (b : Bool) (s : Scanner) : Scanner := { s with keyAllowed := b }

/-! ### Columns -/

/-- Ends the block collections that stand further right than the given column, or all of them. -/
def closeBlocks (column : Option Nat) (s : Scanner) : Scanner :=
  if s.inFlow then s
  else
    let gone := match column with
      | some column => s.columns.takeWhile (column < ·)
      | none => s.columns
    gone.foldl (fun s _ => s.emit .blockEnd) { s with columns := s.columns.drop gone.length }

/-- Starts a block collection in a column if that is further right than the innermost one. The token
`t` is put behind the first `n`. -/
def openBlock (column n : Nat) (t : Token) (s : Scanner) : Scanner :=
  let further := match s.columns with
    | [] => true
    | innermost :: _ => innermost < column
  if s.inFlow || !further then s
  else { s with columns := column :: s.columns }.insertAt n t

/-! ### Keys -/

/-- Whether what started at `k` can no longer be a key. -/
def isLost (k : KeyStart) (c : Cursor) : Bool := k.line < c.line || k.index + keyLimit < c.index

/-- Gives up a place where a key may have started. -/
def giveUp : Option KeyStart → Except Fault (Option KeyStart)
  | some k => if k.required then .error .lostKey else .ok none
  | none => .ok none

/-- Gives up the places that are too far behind. -/
def forgetLostKeys (s : Scanner) : Except Fault Scanner := do
  let check (k? : Option KeyStart) : Except Fault (Option KeyStart) :=
    match k? with
    | some k => if isLost k s.cursor then giveUp k? else .ok k?
    | none => .ok none
  let inner ← check s.keys.1
  let outer ← s.keys.2.mapM check
  .ok { s with keys := (inner, outer) }

/-- Gives up the innermost place. -/
def dropKey (s : Scanner) : Except Fault Scanner := do
  let k ← giveUp s.keys.1
  .ok { s with keys := (k, s.keys.2) }

/-- Notes that a key may start here. -/
def noteKey (s : Scanner) : Except Fault Scanner :=
  if !s.keyAllowed then .ok s
  else do
    let s ← s.dropKey
    let c := s.cursor
    let required := !s.inFlow && s.columns.head? == some c.column
    .ok { s with keys := (some ⟨s.count, c.index, c.line, c.column, required⟩, s.keys.2) }

/-! ### The way to the next token -/

/-- Passes over blanks, comments and line ends. A tab in front of a possible key is not passed
over. -/
def toToken : Nat → Scanner → Scanner
  | 0, s => s
  | fuel + 1, s =>
    let c := s.cursor
    let c := if c.column == 0 && c.peek? == some '\ufeff' then c.next else c
    let tabs := s.inFlow || !s.keyAllowed
    let c := c.skipWhile fun x => x == ' ' || (tabs && x == '\t')
    let c := if c.peek? == some '#' then c.skipLine else c
    if (c.peek?.map isBreak).getD false then
      toToken fuel { s with cursor := c.next, keyAllowed := s.keyAllowed || !s.inFlow }
    else { s with cursor := c }

/-! ### Directives -/

/-- The octets of ASCII characters. -/
def octets (cs : List Char) : List UInt8 := cs.map fun c => UInt8.ofNat c.toNat

/-- Reads a number of at most nine digits. -/
def takeNumber? (c : Cursor) : Option (Nat × Cursor) :=
  let ds := c.rest.takeWhile Char.isDigit
  if ds.isEmpty || 9 < ds.length then none
  else some (ds.foldl (fun n d => n * 10 + (d.toNat - '0'.toNat)) 0, c.drop ds.length)

/-- Reads the octets that percent escapes write: the first tells how many belong together. -/
def takePercent? : Nat → List UInt8 → Cursor → Option (List UInt8 × Cursor)
  | 0, acc, c => some (acc, c)
  | left + 1, acc, c =>
    if c.peek? == some '%' then do
      let (n, c) ← takeHex? 2 0 c.next
      if n / 64 = 2 then takePercent? left (UInt8.ofNat n :: acc) c else none
    else none

/-- Reads one character in percent escapes, in front of what has been read. -/
def takeEscapedOctets? (acc : List UInt8) (c : Cursor) : Option (List UInt8 × Cursor) := do
  let (n, c) ← takeHex? 2 0 c.next
  let width ← if n < 0x80 then some 1
    else if n / 32 = 6 then some 2
    else if n / 16 = 14 then some 3
    else if n / 8 = 30 then some 4
    else none
  takePercent? (width - 1) (UInt8.ofNat n :: acc) c

/-- Whether a character may stand in a tag; `whole` is set in a tag that is written out and in the
prefix of a directive. -/
def isTagChar (whole : Bool) (c : Char) : Bool :=
  isNameChar c ||
    [';', '/', '?', ':', '@', '&', '=', '+', '$', '.', '%', '!', '~', '*', '\'', '(',
      ')'].contains c ||
    (whole && [',', '[', ']'].contains c)

/-- Reads the characters of a tag, in front of what has been read. -/
def takeTagChars? (whole : Bool) : Nat → List UInt8 → Cursor → Option (List UInt8 × Cursor)
  | 0, acc, c => some (acc, c)
  | fuel + 1, acc, c =>
    match c.peek? with
    | none => some (acc, c)
    | some x =>
      if !isTagChar whole x then some (acc, c)
      else if x == '%' then do
        let (acc, c) ← takeEscapedOctets? acc c
        takeTagChars? whole fuel acc c
      else takeTagChars? whole fuel (UInt8.ofNat x.toNat :: acc) c.next

/-- Reads the characters of a tag. Something must stand there unless `head` has come before, and a
zero octet ends the tag. -/
def takeTagText? (whole : Bool) (head : Option (List UInt8)) (c : Cursor) :
    Option (List UInt8 × Cursor) := do
  let (acc, after) ← takeTagChars? whole c.fuel [] c
  if head.isNone && after.index = c.index then none
  else some (((head.getD []).drop 1 ++ acc.reverse).takeWhile (· != 0), after)

/-- Reads a handle: an exclamation mark, perhaps a name, and perhaps another exclamation mark. -/
def takeHandle? (c : Cursor) : Option (List Char × Cursor) :=
  if c.peek? == some '!' then
    let name := c.next.rest.takeWhile isNameChar
    let after := c.drop (name.length + 1)
    if after.peek? == some '!' then some ('!' :: name ++ ['!'], after.next)
    else some ('!' :: name, after)
  else none

/-- Reads the prefix that a directive gives a handle. -/
def takeTagPrefix? (c : Cursor) : Option (Token × Cursor) := do
  let (handle, c) ← takeHandle? c.skipSpaces
  if handle ≠ ['!'] ∧ handle.getLast? ≠ some '!' then none
  if !(c.peek?.map isSpace).getD false then none
  let (value, c) ← takeTagText? true none c.skipSpaces
  if isGap c.peek? then some (.tagPrefix (octets handle) value, c) else none

/-- Reads the version that a directive names. -/
def takeVersion? (c : Cursor) : Option (Token × Cursor) := do
  let (major, c) ← takeNumber? c.skipSpaces
  if c.peek? == some '.' then
    let (minor, c) ← takeNumber? c.next
    some (.version major minor, c)
  else none

/-- Reads a directive. -/
def takeDirective? (c : Cursor) : Option (Token × Cursor) := do
  let name := c.next.rest.takeWhile isNameChar
  let c := c.drop (name.length + 1)
  if !isGap c.peek? then none
  let (t, c) ← match String.ofList name with
    | "YAML" => takeVersion? c
    | "TAG" => takeTagPrefix? c
    | _ => none
  let c ← c.finishLine?
  some (t, c)

/-! ### Properties of a node -/

/-- Reads the name of an anchor or an alias behind its mark. -/
def takeName? (c : Cursor) : Option (String × Cursor) :=
  let name := c.next.rest.takeWhile isNameChar
  let c := c.drop (name.length + 1)
  let ends := isGap c.peek? ||
    (c.peek?.map fun x => ['?', ':', ',', ']', '\x7d', '%', '@', '\x60'].contains x).getD false
  if name.isEmpty || !ends then none else some (String.ofList name, c)

/-- Reads a tag: written out in angle brackets, or a handle and a suffix. A text that starts like a
handle without being one is a suffix to the handle of one exclamation mark, which alone is a tag of
its own. -/
def takeTag? (flow : Bool) (c : Cursor) : Option (Tag × Cursor) := do
  let (t, c) ←
    if c.peekAt? 1 == some '<' then do
      let (suffix, c) ← takeTagText? true none (c.drop 2)
      if c.peek? == some '>' then some (⟨[], suffix⟩, c.next) else none
    else do
      let (handle, after) ← takeHandle? c
      if 1 < handle.length ∧ handle.getLast? = some '!' then
        let (suffix, c) ← takeTagText? false none after
        some (⟨octets handle, suffix⟩, c)
      else
        let (suffix, c) ← takeTagText? false (some (octets handle)) after
        some (if suffix.isEmpty then ⟨[], octets ['!']⟩ else ⟨octets ['!'], suffix⟩, c)
  if isGap c.peek? || (flow && c.peek? == some ',') then some (t, c) else none

/-! ### One token -/

/-- The fault if something is not there. -/
def orFault {α : Type} (e : Fault) : Option α → Except Fault α
  | some a => .ok a
  | none => .error e

/-- A directive or a document marker, which ends all block collections. -/
def takeMarker (t : Token) (after : Cursor) (s : Scanner) : Except Fault Scanner := do
  let s ← (s.closeBlocks none).dropKey
  .ok { s.emit t with cursor := after, keyAllowed := false }

/-- An opening bracket. -/
def takeOpening (t : Token) (s : Scanner) : Except Fault Scanner := do
  let s ← s.noteKey
  .ok { (s.emit t).skip 1 with keys := (none, s.keys.1 :: s.keys.2), keyAllowed := true }

/-- A closing bracket. -/
def takeClosing (t : Token) (s : Scanner) : Except Fault Scanner := do
  let s ← s.dropKey
  let keys := match s.keys with
    | (_, outer :: rest) => (outer, rest)
    | keys => keys
  .ok { (s.emit t).skip 1 with keys, keyAllowed := false }

/-- A comma. -/
def takeComma (s : Scanner) : Except Fault Scanner := do
  let s ← s.dropKey
  .ok ((s.emit .comma).skip 1 |>.allowKey true)

/-- A dash that starts an item. -/
def takeDash (s : Scanner) : Except Fault Scanner := do
  if !s.inFlow && !s.keyAllowed then .error .itemNotAllowed
  let s ← (s.openBlock s.cursor.column s.count .blockList).dropKey
  .ok ((s.emit .dash).skip 1 |>.allowKey true)

/-- A question mark that starts a key. -/
def takeQuestion (s : Scanner) : Except Fault Scanner := do
  if !s.inFlow && !s.keyAllowed then .error .keyNotAllowed
  let s ← (s.openBlock s.cursor.column s.count .blockRecord).dropKey
  .ok ((s.emit .key).skip 1 |>.allowKey (!s.inFlow))

/-- A colon that ends a key. -/
def takeColon (s : Scanner) : Except Fault Scanner :=
  match s.keys.1 with
  | some k =>
    let s := (s.insertAt k.token .key).openBlock k.column k.token .blockRecord
    .ok { (s.emit .colon).skip 1 with keys := (none, s.keys.2), keyAllowed := false }
  | none => do
    if !s.inFlow && !s.keyAllowed then .error .colonNotAllowed
    let s := s.openBlock s.cursor.column s.count .blockRecord
    .ok ((s.emit .colon).skip 1 |>.allowKey (!s.inFlow))

/-- A token with which a node, and so a key, may start. -/
def takeNode (t : Token) (after : Cursor) (s : Scanner) : Except Fault Scanner := do
  let s ← s.noteKey
  .ok { s.emit t with cursor := after, keyAllowed := false }

/-- A block scalar, which is no key. -/
def takeBlockScalar (folded : Bool) (s : Scanner) : Except Fault Scanner := do
  let s ← s.dropKey
  let (cs, c) ← takeBlock folded s.columns.head? s.cursor.next
  .ok { s.emit (.scalar (String.ofList cs.reverse) false) with cursor := c, keyAllowed := true }

/-- A quoted scalar. -/
def takeQuotedScalar (quote : Char) (s : Scanner) : Except Fault Scanner := do
  let (cs, c) ← takeQuoted quote s.cursor.fuel [] s.cursor.next
  s.takeNode (.scalar (String.ofList cs.reverse) false) c

/-- A plain scalar. A key may follow on another line. -/
def takePlainScalar (s : Scanner) : Except Fault Scanner := do
  let least := (s.columns.head?.map (· + 1)).getD 0
  let (cs, crossed, c) ← takePlain s.inFlow least s.cursor.fuel [] {} s.cursor
  let s ← s.takeNode (.scalar (String.ofList cs.reverse) true) c
  .ok (s.allowKey crossed)

/-- The characters that start a token of another kind, or are set aside for one. -/
def indicators : List Char :=
  ['#', '&', '*', '!', '|', '>', '\'', '"', '%', '@', '\x60']

/-- Whether a plain scalar may start with `x`, which `after` follows. -/
def startsPlain (flow : Bool) (x : Char) (after : Option Char) : Bool :=
  if x == '-' then !(after.map isSpace).getD false
  else if x == '?' || x == ':' then !flow && !isGap after
  else !isGap (some x) && !isFlowMark x && !indicators.contains x

/-- Reads the token that starts with `x`. -/
def takeToken (x : Char) (s : Scanner) : Except Fault Scanner :=
  let c := s.cursor
  let after := c.peekAt? 1
  if c.column == 0 && x == '%' then do
    let (t, c) ← orFault .badDirective (takeDirective? c)
    s.takeMarker t c
  else if c.atMarker then
    s.takeMarker (if x == '-' then .documentStart else .documentEnd) (c.drop 3)
  else if x == '[' then s.takeOpening .openList
  else if x == '\x7b' then s.takeOpening .openRecord
  else if x == ']' then s.takeClosing .closeList
  else if x == '\x7d' then s.takeClosing .closeRecord
  else if x == ',' then s.takeComma
  else if x == '-' && isGap after then s.takeDash
  else if x == '?' && (s.inFlow || isGap after) then s.takeQuestion
  else if x == ':' && (s.inFlow || isGap after) then s.takeColon
  else if x == '*' || x == '&' then do
    let (name, c) ← orFault .badAnchor (takeName? c)
    s.takeNode (if x == '*' then .alias name else .anchor name) c
  else if x == '!' then do
    let (t, c) ← orFault .badTag (takeTag? s.inFlow c)
    s.takeNode (.tag t) c
  else if (x == '|' || x == '>') && !s.inFlow then s.takeBlockScalar (x == '>')
  else if x == '\'' || x == '"' then s.takeQuotedScalar x
  else if startsPlain s.inFlow x after then s.takePlainScalar
  else .error .unexpectedCharacter

/-- Reads all tokens. -/
def run : Nat → Scanner → Except Fault (List Token)
  | 0, s => .ok s.tokens.reverse
  | fuel + 1, s => do
    let s := s.toToken s.cursor.fuel
    let s ← s.forgetLostKeys
    let s := s.closeBlocks (some s.cursor.column)
    match s.cursor.peek? with
    | some x =>
      let s ← s.takeToken x
      run fuel s
    | none =>
      let s ← (s.closeBlocks none).dropKey
      .ok s.tokens.reverse

end Scanner

/-- The tokens of a text with unified line ends. -/
def Token.ofText (cs : List Char) : Except Fault (List Token) :=
  Scanner.run (cs.length + 1) { cursor := { rest := cs } }

end ClusterMap.Yaml
