import ClusterMap.Environment.Assignment
import ClusterMap.Environment.Line

/-!
# Environment files

The assignments of an environment file are carried out from the top. A variable that is set already
keeps its value (`runLines_of_set`), and a line that cannot be read ends the file.
-/

namespace ClusterMap.Environment

/-- Carries out lines. -/
def runLines (env : Lookup) : List (Option (List Char)) → Lookup
  | some line :: rest =>
    match readLine env line with
    | some .empty => runLines env rest
    | some (.assign name value) => runLines (assign env name value) rest
    | none => env
  | _ => env

/-- The environment with the variables of a file. -/
def withFile (env : Lookup) (contents : String) : Lookup :=
  let text := match contents.toList with
    | '\ufeff' :: rest => String.ofList rest
    | _ => contents
  runLines env (lines text)

/-- The names that may be looked up while a file is read. -/
def references (contents : String) : List String :=
  go contents.toList
where
  /-- The names behind each `$` of a text. -/
  go : List Char → List String
    | [] => []
    | '$' :: '\x7b' :: rest => String.ofList (rest.takeWhile (· != '\x7d')) :: go rest
    | '$' :: rest => String.ofList (rest.takeWhile insideReference) :: go rest
    | _ :: rest => go rest

/-- What is set is not changed by a file. -/
theorem runLines_of_set {env : Lookup} {name value : String} (h : env name = some value)
    (ls : List (Option (List Char))) : runLines env ls name = some value := by
  induction ls generalizing env with
  | nil => exact h
  | cons l ls ih =>
    cases l with
    | none => exact h
    | some line =>
      rw [runLines]
      cases readLine env line with
      | none => exact h
      | some said =>
        cases said with
        | empty => exact ih h
        | assign other value => exact ih (assign_of_set h other value)

end ClusterMap.Environment
