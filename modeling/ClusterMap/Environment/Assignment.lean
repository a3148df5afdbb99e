import ClusterMap.Environment.Basic
import ClusterMap.Text.Blank
import ClusterMap.Text.Word

/-!
# Assignments in an environment file

A line is blank, a comment, or an assignment `name=value`, before which the word `export` may stand.
A value may be quoted as a whole or in parts. Single quotes keep everything as it is; elsewhere a
backslash takes the next character as it is, and `$name` or `$` with a name in braces stands for the
value of a variable.
-/

namespace ClusterMap.Environment

/-- Whether a character can start a name. -/
def startsName (c : Char) : Bool := c.isAlpha || c == '_'

/-- Whether a character can stand inside a name. -/
def insideName (c : Char) : Bool := c.isAlphanum || c == '_' || c == '.'

/-- Whether a character belongs to the name behind a `$`. -/
def insideReference (c : Char) : Bool := Text.isWord c

/-- Where the reading of a value stands. -/
inductive Place where
  | bare
  | single
  | double
  /-- Behind a blank that ended the value. -/
  | done
deriving DecidableEq, Repr

/-- A reference to a variable that is being read. -/
inductive Reference where
  | none
  /-- Behind a `$`. -/
  | plain
  /-- Behind a `$` and an opening brace. -/
  | braced
deriving DecidableEq, Repr

/-- What is known while a value is read. The characters of the value and of a name stand in
reverse. -/
structure Progress where
  value : List Char := []
  name : List Char := []
  place : Place := .bare
  reference : Reference := .none
  escaped : Bool := false

namespace Progress

/-- One more character of the value. -/
def push (p : Progress) (c : Char) : Progress := { p with value := c :: p.value }

/-- The reference that has been read is replaced by the value of its variable. -/
def resolve (env : Lookup) (p : Progress) : Progress :=
  let value := (env (String.ofList p.name.reverse)).getD ""
  { p with value := value.toList.reverse ++ p.value, name := [], reference := .none }

/-- Reads a character behind a backslash. -/
def unescape (p : Progress) (c : Char) : Option Progress :=
  let p := { p with escaped := false }
  if c = 'n' then some (p.push '\n')
  else if c = '\\' ∨ c = '\'' ∨ c = '"' ∨ c = '$' ∨ c = ' ' then some (p.push c)
  else none

/-- Reads a character of a reference. A character that ends the name is part of the value. -/
def refer (env : Lookup) (p : Progress) (c : Char) : Progress :=
  if insideReference c then { p with name := c :: p.name }
  else if p.reference = .plain then
    if c = '\x7b' ∧ p.name = [] then { p with reference := .braced }
    else
      let p := p.resolve env
      if c = '$' then { p with reference := .plain } else p.push c
  else if c = '\x7d' then p.resolve env
  else { p with name := c :: p.name }

/-- Reads a character outside single quotes, references and escapes. -/
def plain (p : Progress) (c : Char) : Progress :=
  if c = '$' then { p with reference := .plain }
  else if c = '\\' then { p with escaped := true }
  else if c = '"' then { p with place := if p.place = .double then .bare else .double }
  else if p.place = .double then p.push c
  else if c = '\'' then { p with place := .single }
  else if c = ' ' ∨ c = '\t' then { p with place := .done }
  else p.push c

/-- Whether everything that was opened has been closed. -/
def isClosed (p : Progress) : Bool :=
  p.reference != .braced && p.place != .single && p.place != .double

/-- Reads a value. -/
def read (env : Lookup) (p : Progress) : List Char → Option Progress
  | [] => if p.isClosed then some (p.resolve env) else none
  | c :: rest =>
    if p.place = .done then
      if c = ' ' ∨ c = '\t' then read env p rest
      else if c = '#' then some p
      else none
    else if p.escaped then (p.unescape c).bind fun p => read env p rest
    else if p.place = .single then
      read env (if c = '\'' then { p with place := .bare } else p.push c) rest
    else if p.reference ≠ .none then read env (p.refer env c) rest
    else read env (p.plain c) rest

end Progress

/-- The value that a text stands for. -/
def readValue (env : Lookup) (cs : List Char) : Option String :=
  (({} : Progress).read env cs).map fun p => String.ofList p.value.reverse

/-- Takes a name from the start of a text. -/
def takeName : List Char → Option (String × List Char)
  | [] => none
  | c :: rest =>
    if startsName c then
      some (String.ofList (c :: rest.takeWhile insideName), rest.dropWhile insideName)
    else none

/-- What a line of a file says. -/
inductive Line where
  | empty
  | assign (name value : String)
deriving DecidableEq, Repr

/-- A text without the blanks at its start. -/
def skipBlanks (cs : List Char) : List Char := cs.dropWhile Text.isBlank

/-- Reads what stands behind the name of an assignment. -/
def readAssigned (env : Lookup) (name : String) (rest : List Char) : Option Line :=
  match rest with
  | '=' :: rest =>
    match skipBlanks rest with
    | [] | '#' :: _ => some (.assign name "")
    | cs => (readValue env cs).map (.assign name)
  | _ => none

/-- Reads a line. The word `export` is a name itself if an equals sign follows. -/
def readLine (env : Lookup) (line : List Char) : Option Line :=
  match Text.trimChars line with
  | [] | '#' :: _ => some .empty
  | cs => do
    let (name, rest) ← takeName cs
    match name, skipBlanks rest with
    | "export", '=' :: rest => readAssigned env name ('=' :: rest)
    | "export", rest =>
      let (name, rest) ← takeName rest
      readAssigned env name (skipBlanks rest)
    | name, rest => readAssigned env name rest

end ClusterMap.Environment
