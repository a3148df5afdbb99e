import ClusterMap.Settings
import ClusterMap.Text.Causes

/-!
# How a command fails

Each failure with its wording and with the causes behind it.
-/

namespace ClusterMap.Command

/-- Why a command fails. -/
inductive Failure where
  | settings (e : SettingsError)
  | snapshot (source : Snapshot.Source) (e : Snapshot.Error)
  | unknownNode (nodeId : String)
  | notCollapsible (nodeId : String)
  /-- An address that cannot be listened on. -/
  | binding (address reason : String)
  /-- A window that cannot be opened. -/
  | window (reason : String)

namespace Failure

/-- A failure and its causes, outermost first. -/
def chain : Failure → List String
  | .settings e => "failed to load configuration" :: e.chain
  | .snapshot source e =>
    ("failed to load snapshot from " ++ source.describe) :: e.message :: e.cause?.toList
  | .unknownNode id => [s!"unknown node `{id}`"]
  | .notCollapsible id => [s!"node `{id}` cannot be collapsed"]
  | .binding a reason => [s!"failed to bind HTTP server to `{a}`", reason]
  | .window reason => ["viewer UI exited with error: " ++ reason]

/-- What is printed about a failure. -/
def report (f : Failure) : String := "Error: " ++ Text.report f.chain ++ "\n"

end Failure

end ClusterMap.Command
