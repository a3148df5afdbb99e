/-!
# Structured values

What a document holds, whichever format it is written in: scalars, lists and records. A number is an
integer or a floating-point number of either precision; the precision decides how many digits it is
written with. A record keeps its members in the order and with the repetitions of the document; it
is for the reader of a record to say what a repeated or an unknown member means
(`ClusterMap.Data.Decode`).
-/

namespace ClusterMap

/-- What names a member of a record. Documents mostly use names; a format that allows other keys
may use a number, which stands for the position of a field in its record, or something else, which
names no field of any record. -/
inductive Key where
  | name (text : String)
  | position (index : Nat)
  | other
deriving DecidableEq, Repr

/-- A structured value. -/
inductive Value where
  | null
  | bool (b : Bool)
  | integer (n : Int)
  | real (x : Float)
  | single (x : Float32)
  | text (s : String)
  | list (items : List Value)
  | record (members : List (Key × Value))

instance : Inhabited Value := ⟨.null⟩

instance : Coe String Key := ⟨.name⟩

namespace Value

/-- A record with named members. -/
def ofMembers (members : List (String × Value)) : Value :=
  .record (members.map fun (name, value) => (.name name, value))

/-- A text, or null. -/
def ofText? : Option String → Value
  | some s => .text s
  | none => .null

/-- A count. -/
def ofNat (n : Nat) : Value := .integer n

/-- A count, or null. -/
def ofNat? : Option Nat → Value
  | some n => ofNat n
  | none => .null

/-- A floating-point number; what is not finite has no written form and becomes null. -/
def ofFloat (x : Float) : Value := if x.isFinite then .real x else .null

/-- A single-precision number; what is not finite becomes null. -/
def ofFloat32 (x : Float32) : Value := if x.isFinite then .single x else .null

/-- The members of a record, none for any other value. -/
def members : Value → List (Key × Value)
  | .record ms => ms
  | _ => []

/-- The value of the first member with the given name. -/
def get? (v : Value) (name : String) : Option Value :=
  (v.members.find? (·.1 == .name name)).map (·.2)

/-- The order of keys in a sorted record: by name. -/
def keyBefore : Key → Key → Bool
  | .name a, .name b => a < b
  | .name _, _ => true
  | _, _ => false

/-- Puts a member into a sorted record, in place of an earlier one with its key. -/
def insertMember (k : Key) (v : Value) : List (Key × Value) → List (Key × Value)
  | [] => [(k, v)]
  | (k', v') :: rest =>
    if k = k' then (k, v) :: rest
    else if keyBefore k k' then (k, v) :: (k', v') :: rest
    else (k', v') :: insertMember k v rest

/-- The members sorted by key; of repeated keys the last counts. -/
def sortMembers (ms : List (Key × Value)) : List (Key × Value) :=
  ms.foldl (fun sorted (k, v) => insertMember k v sorted) []

mutual
/-- The value with every record sorted by key, repeated keys resolved to the last. -/
def sorted : Value → Value
  | .list items => .list (sortedItems items)
  | .record members => .record (sortMembers (sortedMembers members))
  | v => v
/-- `sorted` for each item of a list. -/
def sortedItems : List Value → List Value
  | [] => []
  | v :: rest => v.sorted :: sortedItems rest
/-- `sorted` for each value of a list of members. -/
def sortedMembers : List (Key × Value) → List (Key × Value)
  | [] => []
  | (k, v) :: rest => (k, v.sorted) :: sortedMembers rest
end

end Value

end ClusterMap
