/-!
# The address of a cluster's actions
-/

namespace ClusterMap.Task

/-- A text without the slashes at its end. -/
def dropSlashes (s : String) : String :=
  String.ofList (s.toList.reverse.dropWhile (· == '/')).reverse

/-- Where the actions of a cluster are posted, below the address of the task service. -/
def actionsUrl (base clusterId : String) : String :=
  dropSlashes base ++ "/clusters/" ++ clusterId ++ "/actions"

end ClusterMap.Task
