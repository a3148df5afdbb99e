import ClusterMap.Tree.Basic

/-!
# The companion list

Beside the diagram stands a list of all nodes below the root, also of those that are hidden in the
diagram.
-/

namespace ClusterMap.Viewer

/-- A row of the list. -/
structure CompanionRow where
  nodeId : String
  label : String
deriving DecidableEq, Repr

/-- The text of a row: the name of the node, indented by its depth, with its status. -/
def companionLabel (n : Node) (depth : Nat) : String :=
  String.ofList (List.replicate (4 * depth) ' ') ++ n.info.displayName ++ " [" ++
    n.info.status.getD "-" ++ "]"

mutual
/-- The rows of a node and of everything below it. -/
def companionRows (depth : Nat) : Node → List CompanionRow
  | ⟨i, cs⟩ => ⟨i.id, companionLabel ⟨i, cs⟩ depth⟩ :: companionRowsOf (depth + 1) cs
/-- The rows of several nodes. -/
def companionRowsOf (depth : Nat) : List Node → List CompanionRow
  | [] => []
  | n :: rest => companionRows depth n ++ companionRowsOf depth rest
end

/-- The rows of a tree. -/
def companionOf (t : Tree) : List CompanionRow := companionRowsOf 0 t.root.children

end ClusterMap.Viewer
