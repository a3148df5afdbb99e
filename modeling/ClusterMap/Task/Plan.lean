import ClusterMap.Task.Dialog
import ClusterMap.Task.Request

/-!
# What a chosen action leads to

An action on a node opens a dialog, or asks for confirmation; nothing happens if the menu of the
node does not offer the action now (`Plan.of`). The menu is worked out again for this, so a menu
that was opened before the tree changed cannot have an action requested that is no longer offered.
-/

namespace ClusterMap

/-- The next step towards a request. -/
inductive Plan where
  | openDialog (dialog : Dialog) (request : Request)
  | confirm (message : String) (request : Request)
  | ignore

namespace Plan

/-- The name by which the task service knows a node. -/
def targetId (n : Node) : String :=
  match n.info.detail with
  | .cluster id _ _ _ _ => id
  | .server id _ _ _ _ _ => id
  | .zone .. | .root => n.info.displayName

/-- The cluster that a node belongs to: the first below the root in which the identifier of the node
occurs. -/
def owner? (t : Tree) (nodeId : String) : Option String := do
  let cluster ← t.root.children.find? fun c => (c.find? nodeId).isSome
  match cluster.info.detail with
  | .cluster id _ _ _ _ => some id
  | _ => none

/-- The question before an action without a dialog. -/
def question (a : Action) (n : Node) : String :=
  if a = .toggleAutoDetect then
    let verb := match n.info.detail with
      | .cluster _ _ _ true _ => "Disable"
      | _ => "Enable"
    verb ++ " auto detection for cluster " ++ n.info.displayName ++ "?"
  else a.label ++ " " ++ n.kind.name ++ " " ++ n.info.displayName ++ "?"

/-- Whether a menu offers an action. -/
def offers (m : Menu) (a : Action) : Bool :=
  (m.filterMap MenuEntry.item?).any fun i => i.action == a && i.enabled

/-- The next step after an action was chosen for a node of a tree. -/
def of (a : Action) (n : Node) (t : Tree) : Plan :=
  match owner? t n.id with
  | none => .ignore
  | some clusterId =>
    if offers (Menu.ofNode n (n.kind == .cluster && t.isCurrent clusterId)) a then
      let request : Request := ⟨a, n.kind, targetId n, clusterId, none⟩
      match Dialog.ofAction? a with
      | some d => .openDialog d request
      | none => .confirm (question a n) request
    else .ignore

/-- The value of a plan. -/
def toValue : Plan → Value
  | .openDialog d r => .ofMembers [("plan", .text "open_dialog"), ("dialog", .text d.name),
      ("request", r.toValue)]
  | .confirm message r => .ofMembers [("plan", .text "confirm"), ("message", .text message),
      ("request", r.toValue)]
  | .ignore => .ofMembers [("plan", .text "ignore")]

end Plan

end ClusterMap
