/-!
# Errors with their causes

An error is reported with the causes behind it, outermost first. Several causes are numbered; the
further lines of a cause are indented like its first.
-/

namespace ClusterMap.Text

/-- A cause behind its lead; further lines start with as many blanks as the lead has characters. -/
def hang (lead cause : String) : String :=
  let blanks := String.ofList (List.replicate lead.length ' ')
  lead ++ String.intercalate ("\n" ++ blanks) (cause.splitOn "\n")

/-- What stands before a numbered cause: the number, right-aligned in five columns. -/
def numberLead (n : Nat) : String :=
  let digits := toString n
  String.ofList (List.replicate (5 - digits.length) ' ') ++ digits ++ ": "

/-- The causes, one below the other. -/
def listCauses : List String → List String
  | [cause] => [hang "    " cause]
  | causes => causes.zipIdx.map fun (cause, n) => hang (numberLead n) cause

/-- The report on an error, given the error and its causes. -/
def report : List String → String
  | [] => ""
  | [error] => error
  | error :: causes => error ++ "\n\nCaused by:\n" ++ String.intercalate "\n" (listCauses causes)

end ClusterMap.Text
