import ClusterMap.Data.Value
import ClusterMap.Decimal.Written

/-!
# Writing JSON

`Json.write` writes a value without any spaces, `Json.writeIndented` over several lines with two
spaces for each level. Members stand in the order of the record. Floating-point numbers have the
fewest digits that read back at their own precision, and always a point or an exponent.
-/

namespace ClusterMap.Json

/-- A character of a string as it is written. -/
def escapeChar (c : Char) : List Char :=
  match c with
  | '"' => ['\\', '"']
  | '\\' => ['\\', '\\']
  | '\x08' => ['\\', 'b']
  | '\x0c' => ['\\', 'f']
  | '\n' => ['\\', 'n']
  | '\r' => ['\\', 'r']
  | '\t' => ['\\', 't']
  | c =>
    if c.toNat < 0x20 then
      ['\\', 'u', '0', '0', Nat.digitChar (c.toNat / 16), Nat.digitChar (c.toNat % 16)]
    else [c]

/-- A string between its quotes. -/
def writeText (s : String) : String :=
  "\"" ++ String.ofList (s.toList.flatMap escapeChar) ++ "\""

/-- The text of a floating-point number. -/
def writeReading (l : Decimal.Layout) : Decimal.Reading → String
  | .finite b => b.write l
  | _ => "null"

/-- The name under which a member is written. -/
def writeKey : Key → String
  | .name s => writeText s
  | .position n => writeText (toString n)
  | .other => writeText ""

/-- A value that is neither list nor record. -/
def writeScalar : Value → String
  | .bool b => if b then "true" else "false"
  | .integer n => toString n
  | .real x => writeReading .double (.of64 x)
  | .single x => writeReading .single (.of32 x)
  | .text s => writeText s
  | _ => "null"

mutual
/-- Writes a value without spaces. -/
def write : Value → String
  | .list items => "[" ++ writeItems items ++ "]"
  | .record members => "\x7b" ++ writeMembers members ++ "\x7d"
  | v => writeScalar v
/-- Writes items with commas between them. -/
def writeItems : List Value → String
  | [] => ""
  | [v] => write v
  | v :: rest => write v ++ "," ++ writeItems rest
/-- Writes members with commas between them. -/
def writeMembers : List (Key × Value) → String
  | [] => ""
  | [(k, v)] => writeKey k ++ ":" ++ write v
  | (k, v) :: rest => writeKey k ++ ":" ++ write v ++ "," ++ writeMembers rest
end

/-- The start of a line at the given level. -/
def indent (level : Nat) : String := String.ofList (List.replicate (2 * level) ' ')

mutual
/-- Writes a value over several lines; `level` is that of the line it starts on. -/
def writeIndented (level : Nat) : Value → String
  | .list [] => "[]"
  | .list items => "[\n" ++ writeItemLines (level + 1) items ++ "\n" ++ indent level ++ "]"
  | .record [] => "\x7b\x7d"
  | .record members =>
    "\x7b\n" ++ writeMemberLines (level + 1) members ++ "\n" ++ indent level ++ "\x7d"
  | v => writeScalar v
/-- Writes each item on lines of its own. -/
def writeItemLines (level : Nat) : List Value → String
  | [] => ""
  | [v] => indent level ++ writeIndented level v
  | v :: rest => indent level ++ writeIndented level v ++ ",\n" ++ writeItemLines level rest
/-- Writes each member on lines of its own. -/
def writeMemberLines (level : Nat) : List (Key × Value) → String
  | [] => ""
  | [(k, v)] => indent level ++ writeKey k ++ ": " ++ writeIndented level v
  | (k, v) :: rest =>
    indent level ++ writeKey k ++ ": " ++ writeIndented level v ++ ",\n" ++
      writeMemberLines level rest
end

end ClusterMap.Json
