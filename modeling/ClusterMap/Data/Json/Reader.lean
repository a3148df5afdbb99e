import ClusterMap.Data.Json.Number
import ClusterMap.Data.Json.Text

/-!
# Reading JSON

`Json.parse` reads a whole text as one value. The first fault in the text is reported with its
place; lists and objects may nest `127` deep. `foldItems` and `foldMembers` walk the brackets and
are shared with readers that know what they expect.
-/

namespace ClusterMap.Json

/-- How deep lists and objects may nest. -/
def depthLimit : Nat := 127

variable {σ : Type}

/-- Reads the items of a list behind its opening bracket, up to the closing one, which is left in
place. `item` reads one item and adds it to the state; `more` tells whether to go on. -/
def foldItems (item : σ → Read Fault σ) : Nat → Bool → σ → Read Fault σ
  | 0, _, _, c => look .eofInList c
  | fuel + 1, first, state, c =>
    let c := c.skipSpaces
    match c.peek? with
    | none => look .eofInList c
    | some ']' => .ok (state, c)
    | some x =>
      if first then do
        let (state, c) ← item state c
        foldItems item fuel false state c
      else if x = ',' then
        let c := c.next.skipSpaces
        match c.peek? with
        | none => look .eofInValue c
        | some ']' => look .trailingComma c
        | some _ => do
          let (state, c) ← item state c
          foldItems item fuel false state c
      else look .expectedListCommaOrEnd c

/-- Reads the colon between a key and its value. -/
def readColon : Read Fault Unit := fun c =>
  let c := c.skipSpaces
  match c.peek? with
  | none => look .eofInObject c
  | some ':' => .ok ((), c.next)
  | some _ => look .expectedColon c

/-- Reads a key and its colon, then hands the key to `member`. -/
def readMember (member : String → σ → Read Fault σ) (state : σ) : Read Fault σ := fun c => do
  let (key, c) ← readText c.next
  let ((), c) ← readColon c
  member key state c

/-- Reads the members of an object behind its opening brace, up to the closing one, which is left
in place. `member` reads the value of one key and adds it to the state. -/
def foldMembers (member : String → σ → Read Fault σ) : Nat → Bool → σ → Read Fault σ
  | 0, _, _, c => look .eofInObject c
  | fuel + 1, first, state, c =>
    let c := c.skipSpaces
    match c.peek? with
    | none => look .eofInObject c
    | some '\x7d' => .ok (state, c)
    | some x =>
      if first then
        if x = '"' then do
          let (state, c) ← readMember member state c
          foldMembers member fuel false state c
        else look .keyMustBeString c
      else if x = ',' then
        let c := c.next.skipSpaces
        match c.peek? with
        | none => look .eofInValue c
        | some '"' => do
          let (state, c) ← readMember member state c
          foldMembers member fuel false state c
        | some '\x7d' => look .trailingComma c
        | some _ => look .keyMustBeString c
      else look .expectedObjectCommaOrEnd c

/-- Reads the rest of a word whose first character has been recognised. -/
def readWord (value : Value) : List Char → Read Fault Value
  | [], c => .ok (value, c)
  | x :: rest, c =>
    match c.peek? with
    | none => here .eofInValue c
    | some y => if x = y then readWord value rest c.next else look .expectedIdentifier c

/-- Reads one value, with at most `depth` more levels of lists and objects. -/
def readValue : Nat → Read Fault Value := fun depth c =>
  let c := c.skipSpaces
  match c.peek? with
  | none => look .eofInValue c
  | some 'n' => readWord .null ['u', 'l', 'l'] c.next
  | some 't' => readWord (.bool true) ['r', 'u', 'e'] c.next
  | some 'f' => readWord (.bool false) ['a', 'l', 's', 'e'] c.next
  | some '-' => readNumber false c.next
  | some '"' => do
    let (s, c) ← readText c.next
    .ok (.text s, c)
  | some '[' =>
    match depth with
    | 0 => look .tooDeep c
    | depth + 1 => do
      let item (items : List Value) : Read Fault (List Value) := fun c => do
        let (v, c) ← readValue depth c
        .ok (v :: items, c)
      let (items, c) ← foldItems item (c.rest.length + 1) true [] c.next
      .ok (.list items.reverse, c.next)
  | some '\x7b' =>
    match depth with
    | 0 => look .tooDeep c
    | depth + 1 => do
      let member (key : String) (ms : List (Key × Value)) :
          Read Fault (List (Key × Value)) := fun c => do
        let (v, c) ← readValue depth c
        .ok ((.name key, v) :: ms, c)
      let (ms, c) ← foldMembers member (c.rest.length + 1) true [] c.next
      .ok (.record ms.reverse, c.next)
  | some x => if (digit? x).isSome then readNumber true c else look .expectedValue c

/-- Checks that nothing but spaces follows. -/
def finish {α : Type} (result : α) (c : Cursor) : Except (Located Fault) α :=
  let c := c.skipSpaces
  match c.peek? with
  | none => .ok result
  | some _ => look .trailingCharacters c

/-- Reads a value and says where it ends. What follows it is not looked at. -/
def parseValue (s : String) : Except (Located Fault) (Value × Cursor) :=
  readValue depthLimit (.ofString s)

/-- Reads a whole text as one value. -/
def parse (s : String) : Except (Located Fault) Value := do
  let (v, c) ← parseValue s
  finish v c

end ClusterMap.Json
