/-!
# Environments

The variables that a program finds set.
-/

namespace ClusterMap.Environment

/-- The value of a variable, if it is set. -/
abbrev Lookup := String → Option String

/-- An environment in which a variable is set, unless it was set before. -/
def assign (env : Lookup) (name value : String) : Lookup :=
  fun other => (env other).or (if other = name then some value else none)

/-- A variable that is set keeps its value. -/
theorem assign_of_set {env : Lookup} {name value : String} (h : env name = some value)
    (other text : String) : assign env other text name = some value := by
  simp [assign, h]

end ClusterMap.Environment
