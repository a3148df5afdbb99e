import ClusterMap.Data.Yaml.Node
import ClusterMap.Data.Yaml.Scalar

/-!
# Reading YAML

`Yaml.parse` reads a text of one document. Its tokens make up its nodes, and each node stands for a
value: an alias for the value of the node that it names, a plain scalar for what it is spelled like,
and a tagged scalar for what the tag says. Tags of one's own are refused.

Lists and records may nest `depthLimit` deep, aliases included, so that a node that contains an
alias to itself has no value; and at most `aliasLimit` times as many aliases are followed as the
document has parts.
-/

namespace ClusterMap.Yaml

/-- How deep lists and records may nest. -/
def depthLimit : Nat := 128

/-- How many aliases may be followed for each part of a document. -/
def aliasLimit : Nat := 100

/-! ### Tags -/

/-- What a tag says about a node. -/
inductive TagKind where
  | local
  | null
  | bool
  | integer
  | float
  /-- A tag of another kind: a scalar is a text. -/
  | other
  /-- A tag of one's own whose octets are no text: it says nothing. -/
  | ignored
deriving DecidableEq, Repr

/-- The kind of a tag. -/
def TagKind.ofOctets (t : List UInt8) : TagKind :=
  let core (name : String) : Bool := t == ("tag:yaml.org,2002:" ++ name).toUTF8.data.toList
  if t.head? = some 33 then
    if (String.fromUTF8? ⟨t.toArray⟩).isSome then .local else .ignored
  else if core "null" then .null
  else if core "bool" then .bool
  else if core "int" then .integer
  else if core "float" then .float
  else .other

/-- Whether a list or a record may have a tag. -/
def isAcceptable (tag : Option (List UInt8)) : Bool :=
  (tag.map TagKind.ofOctets) != some .local

/-! ### Scalars -/

/-- What a scalar stands for. -/
def Scalar.resolve (s : Scalar) : Except Fault Resolved :=
  let untagged := if s.plain then Yaml.resolve s.text else .text s.text
  let wanted (r : Option Resolved) : Except Fault Resolved :=
    match r with
    | some r => .ok r
    | none => .error .badTaggedScalar
  match s.tag.map TagKind.ofOctets with
  | none | some .ignored => .ok untagged
  | some .local => .error .localTag
  | some .null => wanted (if isNull s.text then some .null else none)
  | some .bool => wanted ((bool? s.text).map .bool)
  | some .integer => wanted (integer? s.text.toList)
  | some .float => wanted ((float? s.text.toList).map .real)
  | some .other => .ok (.text s.text)

/-- The value of a scalar. -/
def Resolved.value : Resolved → Except Fault Value
  | .null => .ok .null
  | .bool b => .ok (.bool b)
  | .unsigned n => .ok (.integer n)
  | .signed n => .ok (.integer n)
  | .tooLarge => .error .integerTooLarge
  | .real x => .ok (.real x)
  | .text s => .ok (.text s)

/-- The key of a member that a scalar stands for. -/
def Resolved.key : Resolved → Except Fault Key
  | .text s => .ok (.name s)
  | .unsigned n => .ok (.position n)
  | .tooLarge => .error .integerTooLarge
  | _ => .ok .other

/-! ### Nodes -/

/-- An action that counts the aliases it follows. -/
abbrev Follow := StateT Nat (Except Fault)

namespace Document

/-- The node that a node stands for. -/
def follow (d : Document) : Node → Follow Node
  | .alias slot => do
    let n ← get
    if d.parts * aliasLimit ≤ n then throw .tooManyAliases
    set (n + 1)
    match d.slots.lookup slot with
    | some n => return n
    | none => throw .tooDeep
  | n => return n

/-- The value of a node in which collections may nest to a given depth. -/
def valueOf (d : Document) : Nat → Node → Follow Value
  | 0, n => do
    match ← d.follow n with
    | .scalar s => StateT.lift (s.resolve >>= Resolved.value)
    | _ => throw .tooDeep
  | depth + 1, n => do
    match ← d.follow n with
    | .scalar s => StateT.lift (s.resolve >>= Resolved.value)
    | .list tag items =>
      if !isAcceptable tag then throw .localTag
      return .list (← items.mapM (valueOf d depth))
    | .record tag members =>
      if !isAcceptable tag then throw .localTag
      return .record (← members.mapM fun (k, v) => do
        let key ← match ← d.follow k with
          | .scalar s => StateT.lift (s.resolve >>= Resolved.key)
          | k => do
            let _ ← valueOf d depth k
            pure .other
        return (key, ← valueOf d depth v))
    | .alias _ => throw .tooDeep

/-- The value of a document. -/
def value (d : Document) : Except Fault Value :=
  match d.root with
  | none => .ok .null
  | some root => (d.valueOf depthLimit root).run' 0

end Document

/-- Reads a text of one document; an empty one is null. -/
def parse (s : String) : Except Fault Value :=
  if !s.toList.all isAllowed then .error .controlCharacter
  else do
    let tokens ← Token.ofText (unifyBreaks s.toList)
    let d ← Document.ofTokens tokens
    d.value

end ClusterMap.Yaml
