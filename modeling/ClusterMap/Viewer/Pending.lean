import ClusterMap.Task.Plan

/-!
# Pending actions

An action that the user has chosen is not requested before the user has confirmed it or has filled
in its dialog. At most one action is pending; choosing another one replaces it.
-/

namespace ClusterMap.Viewer

/-- An action that waits for the user. -/
inductive Pending where
  | confirm (message : String) (request : Request)
  | dialog (kind : Dialog) (request : Request) (values : Entries String) (error : Option String)

namespace Pending

/-- What a plan makes the user decide. -/
def ofPlan? : Plan → Option Pending
  | .confirm message r => some (.confirm message r)
  | .openDialog d r => some (.dialog d r [] none)
  | .ignore => none

/-- The request that waits. -/
def request : Pending → Request
  | .confirm _ r | .dialog _ r _ _ => r

/-- A pending action as it is once it has been shown: every field of a dialog has a text. -/
def shown : Pending → Pending
  | .dialog d r values error =>
    .dialog d r (d.fields.foldl (fun values f =>
      if (values.get? f.key).isSome then values else values.insert f.key "") values) error
  | p => p

/-- Enters a text under the key of a field, if a dialog is open. -/
def fill? (field text : String) : Pending → Option Pending
  | .dialog d r values error => some (.dialog d r (values.insert field text) error)
  | .confirm _ _ => none

/-- The request with what the user entered, or the first field without a text. -/
def complete (d : Dialog) (r : Request) (values : Entries String) : Except DialogField Request :=
  (d.payload values).map fun payload => { r with payload := some payload }

/-- The request to make if the user agrees with what has been entered. -/
def agreed? : Pending → Option Request
  | .confirm _ r => some r
  | .dialog d r values _ => (complete d r values).toOption

/-- The texts entered in place of those before. -/
def withValues (values : Entries String) : Pending → Pending
  | .dialog d r _ error => .dialog d r values error
  | p => p

/-- The value of a pending action. -/
def toValue : Pending → Value
  | .confirm message r => .ofMembers [("confirm", .text message), ("request", r.toValue)]
  | .dialog d r values error => .ofMembers [("dialog", .text d.name), ("request", r.toValue),
      ("values", .ofMembers (values.map fun (k, s) => (k, .text s))), ("error", .ofText? error)]

end Pending

end ClusterMap.Viewer
