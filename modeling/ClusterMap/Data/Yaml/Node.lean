import ClusterMap.Data.Yaml.Token

/-!
# The nodes of a YAML document

`Document.ofTokens` reads the tokens of a text as one document. A node is a scalar, a list, a record
or an alias. An anchor gives a node a slot, under which aliases further on find it; the slots are
numbered by how many names of anchors there are at the time, so a slot can pass to a later node.

The parts of a document are counted: a scalar and an alias as one, a list and a record as one for
each end. The count in front of a node is its place (`Reader.parts`).
-/

namespace ClusterMap.Yaml

/-- A scalar as it is written. A tag has its prefix in place of the handle. -/
structure Scalar where
  text : String
  plain : Bool
  tag : Option (List UInt8)
deriving DecidableEq, Repr

/-- A node. -/
inductive Node where
  | alias (slot : Nat)
  | scalar (s : Scalar)
  | list (tag : Option (List UInt8)) (items : List Node)
  | record (tag : Option (List UInt8)) (members : List (Node × Node))

instance : Inhabited Node := ⟨.scalar ⟨"", true, none⟩⟩

/-- A document. -/
structure Document where
  /-- Absent if there is nothing but blanks and comments in the text. -/
  root : Option Node
  parts : Nat
  /-- The node in each slot that an alias may name, the current one first. -/
  slots : List (Nat × Node)

/-- What is known between two nodes. -/
structure Reader where
  tokens : List Token
  parts : Nat := 0
  /-- The slot of each name of an anchor. -/
  anchors : List (String × Nat) := []
  /-- The place of the node in each slot, the latest first. -/
  slots : List (Nat × Nat) := []
  /-- The nodes with an anchor by their places. -/
  anchored : List (Nat × Node) := []
  /-- The prefix of each handle. -/
  prefixes : List (List UInt8 × List UInt8) := []

/-- An action that reads tokens. -/
abbrev Read := StateT Reader (Except Fault)

namespace Read

/-- The next token. -/
def peek : Read (Option Token) := fun r => .ok (r.tokens.head?, r)

/-- Passes over the next token. -/
def skip : Read Unit := fun r => .ok ((), { r with tokens := r.tokens.tail })

/-- Passes over the next token, which must be `t`. -/
def expect (t : Token) (e : Fault) : Read Unit := fun r =>
  match r.tokens with
  | t' :: rest => if t' = t then .ok ((), { r with tokens := rest }) else .error e
  | [] => .error e

/-- Whether the next token is one of the given ones. -/
def atOneOf (ts : List Token) : Read Bool := fun r =>
  .ok (((r.tokens.head?).map ts.contains).getD false, r)

/-- Counts one part. -/
def count : Read Unit := fun r => .ok ((), { r with parts := r.parts + 1 })

/-- Starts a node, to which its anchor gives a slot, and tells its place. -/
def start (anchor : Option String) : Read Nat := fun r =>
  let place := r.parts
  let r := { r with parts := place + 1 }
  match anchor with
  | none => .ok (place, r)
  | some name =>
    let slot := r.anchors.length
    .ok (place, { r with
      anchors := (name, slot) :: r.anchors.filter (·.1 != name)
      slots := (slot, place) :: r.slots })

/-- Ends a node that started at a place. -/
def finish (anchor : Option String) (place : Nat) (n : Node) : Read Node := fun r =>
  .ok (n, if anchor.isSome then { r with anchored := (place, n) :: r.anchored } else r)

/-- A node of one part. -/
def single (anchor : Option String) (n : Node) : Read Node := do
  let place ← start anchor
  finish anchor place n

/-- The scalar that stands where nothing is written. -/
def empty : Read Node := single none default

/-- The alias to a name. -/
def aliasTo (name : String) : Read Node := fun r =>
  match r.anchors.lookup name with
  | some slot => .ok (.alias slot, { r with parts := r.parts + 1 })
  | none => .error .unknownAnchor

/-- The tag with the prefix of its handle. -/
def expand (t : Tag) : Read (List UInt8) := fun r =>
  if t.handle.isEmpty then .ok (t.suffix, r)
  else match r.prefixes.lookup t.handle with
    | some p => .ok (p ++ t.suffix, r)
    | none => .error .unknownHandle

/-- Passes over an anchor. -/
def anchor? : Read (Option String) := do
  match ← peek with
  | some (.anchor name) => skip; return some name
  | _ => return none

/-- Passes over a tag. -/
def tag? : Read (Option (List UInt8)) := do
  match ← peek with
  | some (.tag t) => skip; return some (← expand t)
  | _ => return none

/-- Passes over an anchor and a tag, in any order. -/
def properties : Read (Option String × Option (List UInt8)) := do
  match ← anchor? with
  | some name => return (some name, ← tag?)
  | none =>
    let tag ← tag?
    if tag.isSome then return (← anchor?, tag) else return (none, none)

end Read

/-- The tag of an exclamation mark alone, which leaves a scalar as it would be without a tag. -/
def plainTag : List UInt8 := [33]

namespace Node

open Read

/-- The tokens before which the place of a member in a block record is empty. -/
def noMember : List Token := [.key, .colon, .blockEnd]

mutual
/-- Reads a node. A block collection may stand there if `block` is set, and a list in the column of
the record around it if `flush` is set. -/
def read : Nat → Bool → Bool → Read Node
  | 0, _, _ => throw .tooDeep
  | fuel + 1, block, flush => do
    if let some (.alias name) ← peek then
      skip
      return ← aliasTo name
    let (anchor, tag) ← properties
    match ← peek with
    | some (.scalar text plain) =>
      skip
      single anchor (.scalar ⟨text, plain, if tag = some plainTag then none else tag⟩)
    | some .openList =>
      skip
      let place ← start anchor
      let items ← flowItems fuel true []
      finish anchor place (.list tag items)
    | some .openRecord =>
      skip
      let place ← start anchor
      let members ← flowMembers fuel true []
      finish anchor place (.record tag members)
    | some t =>
      if t = .dash ∧ flush then
        let place ← start anchor
        let items ← flushItems fuel []
        finish anchor place (.list tag items)
      else if t = .blockList ∧ block then
        skip
        let place ← start anchor
        let items ← blockItems fuel []
        finish anchor place (.list tag items)
      else if t = .blockRecord ∧ block then
        skip
        let place ← start anchor
        let members ← blockMembers fuel []
        finish anchor place (.record tag members)
      else bare anchor tag
    | none => bare anchor tag
/-- A node of which nothing but its properties is written. -/
def bare (anchor : Option String) (tag : Option (List UInt8)) : Read Node :=
  if anchor.isSome || tag.isSome then single anchor (.scalar ⟨"", true, tag⟩)
  else throw .missingNode
/-- Reads the items of a block list. -/
def blockItems : Nat → List Node → Read (List Node)
  | 0, _ => throw .tooDeep
  | fuel + 1, items => do
    if ← atOneOf [.blockEnd] then
      skip
      count
      return items.reverse
    expect .dash .missingItem
    let item ← if ← atOneOf [.dash, .blockEnd] then empty else read fuel true false
    blockItems fuel (item :: items)
/-- Reads the items of a list that stands in the column of the record around it. -/
def flushItems : Nat → List Node → Read (List Node)
  | 0, _ => throw .tooDeep
  | fuel + 1, items => do
    if ← atOneOf [.dash] then
      skip
      let item ← if ← atOneOf (.dash :: noMember) then empty else read fuel true false
      flushItems fuel (item :: items)
    else
      count
      return items.reverse
/-- Reads the members of a block record. -/
def blockMembers : Nat → List (Node × Node) → Read (List (Node × Node))
  | 0, _ => throw .tooDeep
  | fuel + 1, members => do
    if ← atOneOf [.blockEnd] then
      skip
      count
      return members.reverse
    expect .key .missingKey
    let key ← if ← atOneOf noMember then empty else read fuel true true
    let value ←
      if ← atOneOf [.colon] then
        skip
        if ← atOneOf noMember then empty else read fuel true true
      else empty
    blockMembers fuel ((key, value) :: members)
/-- Reads the items of a flow list. An item that starts like a key is a record of one member. -/
def flowItems : Nat → Bool → List Node → Read (List Node)
  | 0, _, _ => throw .tooDeep
  | fuel + 1, first, items => do
    if !first && !(← atOneOf [.closeList]) then expect .comma .missingComma
    if ← atOneOf [.closeList] then
      skip
      count
      return items.reverse
    let item ←
      if ← atOneOf [.key] then
        skip
        flowPair fuel
      else read fuel false false
    flowItems fuel false (item :: items)
/-- Reads a record of one member behind the start of its key. If the key is empty, the token that
stands in its place is lost. -/
def flowPair : Nat → Read Node
  | 0 => throw .tooDeep
  | fuel + 1 => do
    count
    let key ←
      if ← atOneOf [.colon, .comma, .closeList] then
        skip
        empty
      else read fuel false false
    let value ← flowValue fuel .closeList
    count
    return .record none [(key, value)]
/-- Reads the value of a member in brackets. -/
def flowValue : Nat → Token → Read Node
  | 0, _ => throw .tooDeep
  | fuel + 1, closing => do
    if ← atOneOf [.colon] then
      skip
      if ← atOneOf [.comma, closing] then empty else read fuel false false
    else empty
/-- Reads the members of a flow record. -/
def flowMembers : Nat → Bool → List (Node × Node) → Read (List (Node × Node))
  | 0, _, _ => throw .tooDeep
  | fuel + 1, first, members => do
    if !first && !(← atOneOf [.closeRecord]) then expect .comma .missingComma
    if ← atOneOf [.closeRecord] then
      skip
      count
      return members.reverse
    let (key, value) ←
      if ← atOneOf [.key] then
        skip
        let key ← if ← atOneOf [.colon, .comma, .closeRecord] then empty else read fuel false false
        pure (key, ← flowValue fuel .closeRecord)
      else
        let key ← read fuel false false
        pure (key, ← empty)
    flowMembers fuel false ((key, value) :: members)
end

end Node

namespace Read

/-- The prefixes that every document has. -/
def standardPrefixes : List (List UInt8 × List UInt8) :=
  [([33], [33]), ([33, 33], "tag:yaml.org,2002:".toUTF8.data.toList)]

/-- Reads the directives in front of a document. A version must be known and a handle must not be
given two prefixes. -/
def directives : Nat → Bool → Read Unit
  | 0, _ => throw .tooDeep
  | fuel + 1, versioned => do
    match ← peek with
    | some (.version major minor) =>
      if versioned || major != 1 || !(minor == 1 || minor == 2) then throw .badDirective
      skip
      directives fuel true
    | some (.tagPrefix handle value) =>
      if ((← get).prefixes.lookup handle).isSome then throw .badDirective
      skip
      modify fun r => { r with prefixes := (handle, value) :: r.prefixes }
      directives fuel versioned
    | _ => return

/-- Whether the next token is a directive. -/
def atDirective : Read Bool := do
  match ← peek with
  | some (.version ..) | some (.tagPrefix ..) => return true
  | _ => return false

/-- Reads the root of a document, if there is one. -/
def root (fuel : Nat) : Read (Option Node) := do
  if (← peek).isNone then return none
  if (← atDirective) || (← atOneOf [.documentStart]) then
    directives fuel false
    modify fun r => { r with prefixes := r.prefixes ++ standardPrefixes }
    expect .documentStart .missingDocument
    if (← peek).isNone || (← atDirective) || (← atOneOf [.documentStart, .documentEnd]) then
      return some (← empty)
    return some (← Node.read fuel true false)
  else
    modify fun r => { r with prefixes := standardPrefixes }
    return some (← Node.read fuel true false)

end Read

/-- The document that the tokens of a text write, which must be the only one. -/
def Document.ofTokens (tokens : List Token) : Except Fault Document := do
  let (root, r) ← (Read.root (4 * tokens.length + 8)).run { tokens }
  if r.tokens.all (· == .documentEnd) then
    .ok {
      root
      parts := r.parts
      slots := r.slots.filterMap fun (slot, place) => (r.anchored.lookup place).map (slot, ·) }
  else .error .severalDocuments

end ClusterMap.Yaml
