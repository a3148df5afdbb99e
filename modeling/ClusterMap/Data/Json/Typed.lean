import ClusterMap.Data.Json.Skip

/-!
# Reading what is expected

Readers for a text of known shape. A value of the wrong type is refused at its end, a list or an
object at its first character; a repeated member is refused behind its key. A record may be given as
an object, whose unknown members are passed over, or as the list of its fields, of which trailing
ones may be left out.
-/

namespace ClusterMap.Json

/-- Refuses the value at the cursor, where something else is expected. -/
def refuse {α : Type} (expected : String) : Read Fault α := fun c =>
  let because (v : Value) (c : Cursor) : Except (Located Fault) (α × Cursor) :=
    here (.refused (.wrongType v.found expected)) c
  match c.peek? with
  | some '[' => because (.list []) c
  | some '\x7b' => because (.record []) c
  | _ => do
    let (v, c) ← readValue 0 c
    because v c

/-- Reads a text. -/
def expectText : Read Fault String := fun c =>
  let c := c.skipSpaces
  match c.peek? with
  | none => look .eofInValue c
  | some '"' => readText c.next
  | some _ => refuse "a string" c

/-- Reads a truth value. -/
def expectBool : Read Fault Bool := fun c =>
  let c := c.skipSpaces
  match c.peek? with
  | none => look .eofInValue c
  | some 't' => do
    let (_, c) ← readWord .null ['r', 'u', 'e'] c.next
    .ok (true, c)
  | some 'f' => do
    let (_, c) ← readWord .null ['a', 'l', 's', 'e'] c.next
    .ok (false, c)
  | some _ => refuse "a boolean" c

/-- Reads null or what `read` reads. -/
def expectOptional {α : Type} (read : Read Fault α) : Read Fault (Option α) := fun c =>
  let c := c.skipSpaces
  match c.peek? with
  | some 'n' => do
    let (_, c) ← readWord .null ['u', 'l', 'l'] c.next
    .ok (none, c)
  | _ => do
    let (a, c) ← read c
    .ok (some a, c)

/-- A field of a record: its name, and how its value is read into the record. -/
structure Field (σ : Type) where
  name : String
  read : σ → Read Fault σ

variable {σ : Type}

/-- Reads the value of a member into a record, which is kept with the names met so far. -/
def readField (fields : List (Field σ)) (key : String) (state : List String × σ) :
    Read Fault (List String × σ) := fun c =>
  match fields.find? (·.name == key) with
  | none => do
    let ((), c) ← skipValue c
    .ok (state, c)
  | some field => do
    let (a, c) ← field.read state.2 c
    .ok ((key :: state.1, a), c)

/-- Refuses a repeated member; the closing brace counts as read if it follows the key. -/
def refuseRepeated {α : Type} (key : String) : Read Fault α := fun c =>
  let c := c.skipSpaces
  here (.refused (.duplicateField key)) (if c.peek? = some '\x7d' then c.next else c)

/-- Reads the key of a member and the value behind it. -/
def readNamed (fields : List (Field σ)) (state : List String × σ) :
    Read Fault (List String × σ) := fun c => do
  let (key, c) ← readText c.next
  if state.1.contains key then refuseRepeated key c
  else
    let ((), c) ← readColon c
    readField fields key state c

/-- Reads the members of a record behind the opening brace and its closing brace; `fuel` bounds
their number. -/
def readMembers (fields : List (Field σ)) : Nat → Bool → List String × σ → Read Fault σ
  | 0, _, _, c => look .eofInObject c
  | fuel + 1, first, state, c =>
    let c := c.skipSpaces
    let member (c : Cursor) : Except (Located Fault) (σ × Cursor) := do
      let (state, c) ← readNamed fields state c
      readMembers fields fuel false state c
    match c.peek? with
    | none => look .eofInObject c
    | some '\x7d' => .ok (state.2, c.next)
    | some x =>
      if first then if x = '"' then member c else look .keyMustBeString c
      else if x = ',' then
        let c := c.next.skipSpaces
        match c.peek? with
        | none => look .eofInValue c
        | some '"' => member c
        | some '\x7d' => look .trailingComma c
        | some _ => look .keyMustBeString c
      else look .expectedObjectCommaOrEnd c

/-- Reads the end of a list that holds all fields. -/
def closeItems (state : σ) : Read Fault σ := fun c =>
  let c := c.skipSpaces
  match c.peek? with
  | none => look .eofInList c
  | some ']' => .ok (state, c.next)
  | some ',' =>
    let c := c.next.skipSpaces
    match c.peek? with
    | some ']' => look .trailingComma c
    | _ => look .trailingCharacters c
  | some _ => look .trailingCharacters c

/-- Reads the fields of a record behind the opening bracket and the closing bracket. -/
def readItems : List (Field σ) → Bool → σ → Read Fault σ
  | [], _, state, c => closeItems state c
  | field :: rest, first, state, c =>
    let c := c.skipSpaces
    let item (c : Cursor) : Except (Located Fault) (σ × Cursor) := do
      let (state, c) ← field.read state c
      readItems rest false state c
    match c.peek? with
    | none => look .eofInList c
    | some ']' => .ok (state, c.next)
    | some x =>
      if first then item c
      else if x = ',' then
        let c := c.next.skipSpaces
        match c.peek? with
        | none => look .eofInValue c
        | some ']' => look .trailingComma c
        | some _ => item c
      else look .expectedListCommaOrEnd c

/-- Reads a record, starting from one whose fields are all absent; `what` describes its type. -/
def expectRecord (what : String) (fields : List (Field σ)) (absent : σ) : Read Fault σ := fun c =>
  let c := c.skipSpaces
  match c.peek? with
  | none => look .eofInValue c
  | some '[' => readItems fields true absent c.next
  | some '\x7b' => readMembers fields (c.rest.length + 1) true ([], absent) c.next
  | some _ => refuse what c

/-- Reads a whole text with a reader. -/
def parseWith {α : Type} (read : Read Fault α) (s : String) : Except (Located Fault) α := do
  let (a, c) ← read (.ofString s)
  finish a c

end ClusterMap.Json
