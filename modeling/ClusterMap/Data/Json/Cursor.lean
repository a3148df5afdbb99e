import ClusterMap.Data.Json.Fault

/-!
# Reading position

A cursor is the rest of a text together with its place in it. Readers take a cursor and give a
result and the cursor behind it, or a located fault. `look` is a fault noticed by looking at the
next character, `here` one noticed after reading it.
-/

namespace ClusterMap.Json

/-- The rest of a text and where it starts. -/
structure Cursor where
  rest : List Char
  position : Position

namespace Cursor

/-- The start of a text. -/
def ofString (s : String) : Cursor := ⟨s.toList, ⟨1, 0⟩⟩

/-- The next character. -/
def peek? (c : Cursor) : Option Char := c.rest.head?

/-- The cursor behind the next character. -/
def next (c : Cursor) : Cursor :=
  match c.rest with
  | [] => c
  | x :: rest => ⟨rest, c.position.after x⟩

/-- The cursor behind the next `n` characters. -/
def drop (c : Cursor) : Nat → Cursor
  | 0 => c
  | n + 1 => c.next.drop n

/-- The four characters that JSON allows between its parts. -/
def isSpace (x : Char) : Bool := x == ' ' || x == '\n' || x == '\t' || x == '\r'

/-- The cursor at the first character that is no space. -/
def skipSpaces (c : Cursor) : Cursor := go c.rest c.position
where
  go : List Char → Position → Cursor
    | [], p => ⟨[], p⟩
    | x :: rest, p => if isSpace x then go rest (p.after x) else ⟨x :: rest, p⟩

end Cursor

/-- A reader of JSON text whose faults are of type `ε`. -/
abbrev Read (ε α : Type) := Cursor → Except (Located ε) (α × Cursor)

/-- A fault at the cursor. -/
def here {ε α : Type} (cause : ε) (c : Cursor) : Except (Located ε) α :=
  .error ⟨cause, c.position⟩

/-- A fault at the character that the cursor looks at. -/
def look {ε α : Type} (cause : ε) (c : Cursor) : Except (Located ε) α :=
  match c.peek? with
  | none => .error ⟨cause, c.position⟩
  | some x => .error ⟨cause, c.position.afterByte x⟩

end ClusterMap.Json
