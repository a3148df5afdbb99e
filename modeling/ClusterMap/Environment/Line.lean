import ClusterMap.Text.Blank

/-!
# The lines of an environment file

A line of an environment file ends at the end of a line of text, unless a quotation is still open
there or the last character is to be taken as it is. A comment starts with `#`, at the start of a
line or behind a blank.
-/

namespace ClusterMap.Environment

/-- What surrounds the next character. -/
inductive Surround where
  | plain
  | escape
  | singleQuoted
  | singleEscape
  | doubleQuoted
  | doubleEscape
  | blank
deriving DecidableEq, Repr

/-- What a character opens outside quotations. -/
def Surround.opened (c : Char) : Surround :=
  if c = '\\' then .escape
  else if c = '"' then .doubleQuoted
  else if c = '\'' then .singleQuoted
  else .plain

/-- What surrounds the character after `c`; `none` if a comment starts at `c`. -/
def Surround.next (c : Char) : Surround → Option Surround
  | .blank => if c = '#' then none else some (.opened c)
  | .plain =>
    some (if Text.isBlank c && c != '\n' && c != '\r' then .blank else .opened c)
  | .escape => some .plain
  | .doubleQuoted =>
    some (if c = '\\' then .doubleEscape else if c = '"' then .plain else .doubleQuoted)
  | .doubleEscape => some .doubleQuoted
  | .singleQuoted =>
    some (if c = '\\' then .singleEscape else if c = '\'' then .plain else .singleQuoted)
  | .singleEscape => some .singleQuoted

/-- Goes through a line of text. Gives the part before a comment, and what surrounds the character
after the line; that is `none` if there was a comment. -/
def scanLine : Surround → List Char → List Char × Option Surround
  | s, [] => ([], some s)
  | s, c :: rest =>
    match s.next c with
    | none => ([], none)
    | some s => let (before, s) := scanLine s rest; (c :: before, s)

/-- Splits a text behind its line ends. -/
def textLines : List Char → List (List Char)
  | [] => []
  | '\n' :: rest => ['\n'] :: textLines rest
  | c :: rest =>
    match textLines rest with
    | [] => [[c]]
    | line :: lines => (c :: line) :: lines

/-- A line of text without its line end. -/
def dropLineEnd (line : List Char) : List Char :=
  match line.reverse with
  | '\n' :: '\r' :: rest | '\n' :: rest => rest.reverse
  | _ => line

/-- Joins lines of text to lines of the file. `taken` is the start of a line that is not complete.
The last line is `none` if it never ends. -/
def joinLines (taken : List Char) (s : Surround) : List (List Char) → List (Option (List Char))
  | [] => if s = .plain then [] else [none]
  | line :: rest =>
    if ((taken ++ line).dropWhile Text.isBlank).head? = some '#' then
      some [] :: joinLines [] .plain rest
    else
      match scanLine s line with
      | (before, none) => some (taken ++ before) :: joinLines [] .plain rest
      | (_, some .plain) => some (dropLineEnd (taken ++ line)) :: joinLines [] .plain rest
      | (_, some s) => joinLines (taken ++ line) s rest

/-- The lines of a file. -/
def lines (contents : String) : List (Option (List Char)) :=
  joinLines [] .plain (textLines contents.toList)

end ClusterMap.Environment
