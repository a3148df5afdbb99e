import ClusterMap.Action.Basic
import ClusterMap.Text.Blank
import ClusterMap.Tree.Basic

/-!
# The meaning of a status

A snapshot reports a status as a free text. Clusters, zones and servers each have a vocabulary of
their own; a text outside of it, a blank text and no text all mean that the status is unknown. Case
and surrounding blanks do not matter. What the vocabularies share is the tone of a badge.
-/

namespace ClusterMap

/-- The tone of a badge. -/
inductive Tone where
  | healthy
  | idle
  | faulty
  | transitional
  | inactive
  | unknown
deriving DecidableEq, Repr

namespace Tone

/-- The name of a tone. -/
def name : Tone → String
  | .healthy => "healthy"
  | .idle => "idle"
  | .faulty => "faulty"
  | .transitional => "transitional"
  | .inactive => "inactive"
  | .unknown => "unknown"

/-- The colour of a badge. -/
def color : Tone → String
  | .healthy => "#52c41a"
  | .idle => "#faad14"
  | .faulty => "#ff4d4f"
  | .transitional => "#1890ff"
  | .inactive => "#595959"
  | .unknown => "#bfbfbf"

end Tone

/-- How a status is shown. -/
structure Appearance where
  label : String
  tone : Tone
deriving DecidableEq, Repr

namespace Appearance

/-- An unknown status. -/
def unknown : Appearance := ⟨"Unknown", .unknown⟩

/-- The icon of a node of some kind with this appearance. -/
def icon (a : Appearance) (k : Kind) : String := k.name ++ "-" ++ a.tone.name

end Appearance

namespace Status

/-- A reported status without blanks around it and in upper case; a blank one counts as none. -/
def normalize (raw : Option String) : Option String :=
  (raw.map fun s => Text.upperAscii (Text.trim s)).filter (· != "")

/-- The meaning of a reported status in a vocabulary. -/
def lookup {α : Type} (vocabulary : List (String × α)) (raw : Option String) : Option α :=
  (normalize raw).bind fun word => (vocabulary.find? (·.1 == word)).map (·.2)

/-- The states of a cluster. -/
inductive OfCluster where
  | running
  | stopped
  | unavailable
  | abandoned
  | failover
  | starting
  | stopping
  | restarting
  | upgrading
  | deleting
  | unknown
deriving DecidableEq, Repr

namespace OfCluster

/-- The words for the states of a cluster. -/
def vocabulary : List (String × OfCluster) :=
  [("RUNNING", .running), ("STOPPED", .stopped), ("UNAVAILABLE", .unavailable),
    ("ABANDONED", .abandoned), ("FAILOVER", .failover), ("STARTING", .starting),
    ("STOPPING", .stopping), ("RESTARTING", .restarting), ("UPGRADING", .upgrading),
    ("DELETING", .deleting)]

/-- The state that a cluster reports. -/
def parse (raw : Option String) : OfCluster := (lookup vocabulary raw).getD .unknown

/-- How the state of a cluster is shown. -/
def appearance : OfCluster → Appearance
  | .running => ⟨"Running", .healthy⟩
  | .stopped => ⟨"Stopped", .idle⟩
  | .unavailable => ⟨"Unavailable", .faulty⟩
  | .abandoned => ⟨"Abandoned", .inactive⟩
  | .failover => ⟨"Failed over", .inactive⟩
  | .starting => ⟨"Starting", .transitional⟩
  | .stopping => ⟨"Stopping", .transitional⟩
  | .restarting => ⟨"Restarting", .transitional⟩
  | .upgrading => ⟨"Upgrading", .transitional⟩
  | .deleting => ⟨"Deleting", .transitional⟩
  | .unknown => .unknown

end OfCluster

/-- The states of a zone. -/
inductive OfZone where
  | running
  | stopped
  | unavailable
  | starting
  | stopping
  | restarting
  | deleting
  | unknown
deriving DecidableEq, Repr

namespace OfZone

/-- The words for the states of a zone. -/
def vocabulary : List (String × OfZone) :=
  [("RUNNING", .running), ("STOPPED", .stopped), ("UNAVAILABLE", .unavailable),
    ("STARTING", .starting), ("STOPPING", .stopping), ("RESTARTING", .restarting),
    ("DELETING", .deleting)]

/-- The state that a zone reports. -/
def parse (raw : Option String) : OfZone := (lookup vocabulary raw).getD .unknown

/-- How the state of a zone is shown. -/
def appearance : OfZone → Appearance
  | .running => ⟨"Running", .healthy⟩
  | .stopped => ⟨"Stopped", .idle⟩
  | .unavailable => ⟨"Unavailable", .faulty⟩
  | .starting => ⟨"Starting", .transitional⟩
  | .stopping => ⟨"Stopping", .transitional⟩
  | .restarting => ⟨"Restarting", .transitional⟩
  | .deleting => ⟨"Deleting", .transitional⟩
  | .unknown => .unknown

/-- What can be done to a zone in a state. -/
def operations : OfZone → List Action
  | .running | .unavailable => [.restart, .stop, .delete]
  | .stopped => [.start, .delete]
  | .starting | .stopping | .restarting | .deleting | .unknown => []

/-- Whether a zone in a state has a menu. -/
def isOperable : OfZone → Bool
  | .running | .stopped | .unavailable => true
  | .starting | .stopping | .restarting | .deleting | .unknown => false

end OfZone

/-- The states of a server. -/
inductive OfServer where
  | running
  | stopped
  | unavailable
  | processStopped
  | serviceStopped
  | starting
  | stopping
  | restarting
  | deleting
  | unknown
deriving DecidableEq, Repr

namespace OfServer

/-- The words for the states of a server; two states have two words. -/
def vocabulary : List (String × OfServer) :=
  [("RUNNING", .running), ("STOPPED", .stopped), ("UNAVAILABLE", .unavailable),
    ("PROCESS_STOPPED", .processStopped), ("STOPPED_PROCESS", .processStopped),
    ("SERVICE_STOPPED", .serviceStopped), ("STOPPED_SERVICE", .serviceStopped),
    ("STARTING", .starting), ("STOPPING", .stopping), ("RESTARTING", .restarting),
    ("DELETING", .deleting)]

/-- The state that a server reports. -/
def parse (raw : Option String) : OfServer := (lookup vocabulary raw).getD .unknown

/-- How the state of a server is shown. -/
def appearance : OfServer → Appearance
  | .running => ⟨"Running", .healthy⟩
  | .stopped => ⟨"Stopped", .idle⟩
  | .unavailable => ⟨"Unavailable", .faulty⟩
  | .processStopped => ⟨"Process stopped", .idle⟩
  | .serviceStopped => ⟨"Service stopped", .idle⟩
  | .starting => ⟨"Starting", .transitional⟩
  | .stopping => ⟨"Stopping", .transitional⟩
  | .restarting => ⟨"Restarting", .transitional⟩
  | .deleting => ⟨"Deleting", .transitional⟩
  | .unknown => .unknown

/-- What can be done to a server in a state. -/
def operations : OfServer → List Action
  | .running | .unavailable => [.restart, .stopProcess, .stopService, .delete]
  | .processStopped => [.start, .stopService, .delete]
  | .stopped | .serviceStopped => [.start, .delete]
  | .starting | .stopping | .restarting | .deleting | .unknown => []

/-- Whether a server in a state has a menu. -/
def isOperable : OfServer → Bool
  | .running | .stopped | .unavailable | .processStopped | .serviceStopped => true
  | .starting | .stopping | .restarting | .deleting | .unknown => false

end OfServer

/-- How a reported status is shown on a node of some kind. -/
def appearance (k : Kind) (raw : Option String) : Appearance :=
  match k with
  | .root => .unknown
  | .cluster => (OfCluster.parse raw).appearance
  | .zone => (OfZone.parse raw).appearance
  | .server => (OfServer.parse raw).appearance

end Status

end ClusterMap
