/-!
# Options on a command line

An option is written `--name value` or `--name=value`, a switch just `--name`. A value that is not
attached must not start with a minus, unless it is nothing else. An option is given at most once if
it is not made to be repeated. Nothing else may stand on the line, and the first thing that is wrong
ends the reading; so does a request for help.
-/

namespace ClusterMap.Command

/-- How an option is used. -/
inductive Use where
  | switch
  | once
  | repeated
deriving DecidableEq, Repr

/-- An option that a command knows. -/
structure OptionRule where
  name : String
  use : Use
  /-- Which values are accepted. -/
  accepts : String → Bool := fun _ => true

/-- Why a command line leads to no command. -/
inductive Stop where
  | help
  | misuse
deriving DecidableEq, Repr

/-- The options given, in their order. A switch has no value. -/
abbrev Given := List (String × String)

namespace Given

/-- The value of an option. -/
def value? (g : Given) (name : String) : Option String := (g.find? (·.1 == name)).map (·.2)

/-- All values of an option. -/
def values (g : Given) (name : String) : List String :=
  (g.filter (·.1 == name)).map (·.2)

/-- Whether an option is given. -/
def has (g : Given) (name : String) : Bool := g.any (·.1 == name)

/-- Adds an option, if that is allowed. -/
def add (g : Given) (rule : OptionRule) (value : String) : Except Stop Given :=
  if (rule.use ≠ .repeated ∧ g.has rule.name) ∨ !rule.accepts value then .error .misuse
  else .ok (g ++ [(rule.name, value)])

end Given

/-- A text split at the first equals sign, if there is one. -/
def splitValue (s : String) : String × Option String :=
  let name := s.toList.takeWhile (· != '=')
  match s.toList.dropWhile (· != '=') with
  | _ :: value => (String.ofList name, some (String.ofList value))
  | [] => (String.ofList name, none)

/-- Whether a word can be the value of an option that stands before it. -/
def isValue (word : String) : Bool := word == "-" || !word.startsWith "-"

/-- Reads options. -/
def readOptions (rules : List OptionRule) (given : Given) : List String → Except Stop Given
  | [] => .ok given
  | ["--"] => .ok given
  | word :: rest =>
    if word = "-h" ∨ word = "--help" ∨ (word.startsWith "-h" ∧ !word.startsWith "--") then
      .error .help
    else
      let (name, attached) := splitValue word
      match rules.find? fun r => "--" ++ r.name == name with
      | none => .error .misuse
      | some rule =>
        match rule.use, attached, rest with
        | .switch, none, rest => do readOptions rules (← given.add rule "") rest
        | .switch, some _, _ => .error .misuse
        | _, some value, rest => do readOptions rules (← given.add rule value) rest
        | _, none, value :: rest =>
          if isValue value then do readOptions rules (← given.add rule value) rest
          else .error .misuse
        | _, none, [] => .error .misuse

end ClusterMap.Command
