import ClusterMap.Action.Basic
import ClusterMap.Data.Entries
import ClusterMap.Data.Value
import ClusterMap.Text.Blank

/-!
# Dialogs

Some actions need input before they can be requested. A dialog asks for one or two texts, all of
them required; blanks around a text do not count.
-/

namespace ClusterMap

/-- What a dialog is for. -/
inductive Dialog where
  | changePassword
  | upgrade
  | addZone
  | addServer
  | createTenant
  | downloadLogs
deriving DecidableEq, Repr

/-- A text that a dialog asks for. -/
structure DialogField where
  key : String
  label : String
  /-- Whether the text is not to be shown. -/
  secret : Bool
deriving DecidableEq, Repr

namespace Dialog

/-- The names of the dialogs. -/
def names : List (String × Dialog) :=
  [("change_password", .changePassword), ("upgrade", .upgrade), ("add_zone", .addZone),
    ("add_server", .addServer), ("create_tenant", .createTenant),
    ("download_logs", .downloadLogs)]

/-- The name of a dialog. -/
def name : Dialog → String
  | .changePassword => "change_password"
  | .upgrade => "upgrade"
  | .addZone => "add_zone"
  | .addServer => "add_server"
  | .createTenant => "create_tenant"
  | .downloadLogs => "download_logs"

/-- The dialog that an action needs. -/
def ofAction? : Action → Option Dialog
  | .changePassword => some .changePassword
  | .upgrade => some .upgrade
  | .addZone => some .addZone
  | .addServer => some .addServer
  | .createTenant => some .createTenant
  | .downloadLogs => some .downloadLogs
  | .restart | .stop | .start | .delete | .stopProcess | .stopService | .toggleAutoDetect
  | .noOperation => none

/-- The title of a dialog. -/
def title : Dialog → String
  | .changePassword => "Change root password"
  | .upgrade => "Upgrade cluster"
  | .addZone => "Add zone"
  | .addServer => "Add server"
  | .createTenant => "Create tenant"
  | .downloadLogs => "Download logs"

/-- What a dialog asks for, from top to bottom. -/
def fields : Dialog → List DialogField
  | .changePassword => [⟨"password", "New password", true⟩]
  | .upgrade => [⟨"targetVersion", "Target version", false⟩]
  | .addZone => [⟨"zoneName", "Zone name", false⟩, ⟨"regionName", "Region", false⟩]
  | .addServer => [⟨"zoneName", "Zone", false⟩, ⟨"ip", "IP address", false⟩]
  | .createTenant => [⟨"tenantName", "Tenant name", false⟩]
  | .downloadLogs => [⟨"startTime", "Start time", false⟩, ⟨"endTime", "End time", false⟩]

/-- The trimmed text given for a field. -/
def given (values : Entries String) (f : DialogField) : String :=
  Text.trim ((values.get? f.key).getD "")

/-- The trimmed texts given in a dialog, or the first field for which there is none. -/
def answers (d : Dialog) (values : Entries String) : Except DialogField (Entries String) :=
  d.fields.foldlM (fun texts f =>
    let text := given values f
    if text = "" then .error f else .ok (texts.insert f.key text)) []

/-- What a dialog adds to a request. -/
def payload (d : Dialog) (values : Entries String) : Except DialogField Value :=
  (d.answers values).map fun texts => .ofMembers (texts.map fun (k, s) => (k, .text s))

/-- What is said about a field that was left blank. -/
def requiredMessage (f : DialogField) : String := f.label ++ " is required"

end Dialog

end ClusterMap
