import ClusterMap.Command.Failure
import ClusterMap.Command.Invocation
import ClusterMap.Data.Json.Writer
import ClusterMap.Environment.File
import ClusterMap.Refresh.Retry
import ClusterMap.Service.Report

/-!
# Running a command

A command is a function of the command line and of what the program finds around it
(`Command.execute`). Reports go to the standard output; a failure is told on the standard error.
-/

namespace ClusterMap.Command

/-- What the program finds around it. -/
structure Surroundings where
  /-- The variables that are set. -/
  environment : Environment.Lookup
  /-- The environment file of the directory. -/
  environmentFile : Option String
  /-- What a file holds. -/
  contents : String → Except Snapshot.ReadFailure String
  /-- The answer to a request for an address. -/
  answer : String → Http.Answer
  /-- Why an address that is well-formed cannot be listened on. -/
  listenFault : String
  /-- Why no window can be opened. -/
  windowFault : String

/-- What a program leaves behind. -/
structure Exit where
  code : Nat
  output : String
  errors : String
deriving DecidableEq, Repr

/-- The environment with the variables of the environment file. -/
def Surroundings.lookup (s : Surroundings) : Environment.Lookup :=
  match s.environmentFile with
  | some contents => Environment.withFile s.environment contents
  | none => s.environment

/-- Settings with those that were given with the command. -/
def Overrides.on (o : Overrides) (s : Settings) : Settings :=
  { s with
    source := (o.snapshot.map Snapshot.Source.parse).getD s.source
    currentCluster := o.cluster.or s.currentCluster }

/-- The overrides that a command has. -/
def overrides : Command → Overrides
  | .render o => o.overrides
  | .menu o => o.overrides
  | .view o => o
  | .serve _ => ⟨none, none⟩

/-- The settings under which a command runs. -/
def settings (c : Command) (s : Surroundings) : Except Failure Settings :=
  ((Settings.read s.lookup).mapError Failure.settings).map c.overrides.on

/-- One attempt to obtain the snapshot. -/
def attempt (s : Surroundings) (settings : Settings) : Snapshot.Result :=
  match settings.source with
  | .file path => Snapshot.ofFile path (s.contents path)
  | .http url => Snapshot.ofAnswer settings.requestTimeoutMs (s.answer url)

/-- The snapshot, after as many attempts as the settings allow. -/
def load (s : Surroundings) (settings : Settings) : Except Failure (List Snapshot.Cluster) :=
  (Refresh.fetch settings.fetchMaxRetries fun _ => attempt s settings).outcome.mapError
    (.snapshot settings.source)

/-- A session on a snapshot. -/
def openSession (settings : Settings) (viewport : Viewport Float32)
    (clusters : List Snapshot.Cluster) : Session Float32 :=
  ((Session.start settings.autoExpandThreshold .standard .standard settings.currentCluster
    viewport).apply clusters none).1

/-- Sets the flag of a node, which has to be one that can be collapsed. -/
def setFlag (flag : Bool) (s : Session Float32) (nodeId : String) :
    Except Failure (Session Float32) :=
  match s.tree.find? nodeId with
  | none => .error (.unknownNode nodeId)
  | some node =>
    if node.info.isCollapsible then .ok (s.setCollapsed nodeId flag)
    else .error (.notCollapsible nodeId)

/-- The layout of a snapshot with a frame. -/
def renderReport (settings : Settings) (clusters : List Snapshot.Cluster)
    (viewport : Viewport Float32) (expand collapse : List String) :
    Except Failure RenderReport := do
  let s ← expand.foldlM (setFlag false) (openSession settings viewport clusters)
  let s ← collapse.foldlM (setFlag true) s
  .ok (.ofSession s)

/-- The menu of a node of a snapshot. -/
def menuReport (settings : Settings) (clusters : List Snapshot.Cluster) (nodeId : String) :
    Except Failure MenuReport :=
  match MenuReport.ofSession? (openSession settings .standard clusters) nodeId with
  | some report => .ok report
  | none => .error (.unknownNode nodeId)

/-- Why an address is not of the form `host:port`. -/
def addressFault? (address : String) : Option String :=
  match (address.toList.reverse.span (· != ':')) with
  | (_, []) => some "invalid socket address"
  | (port, _) =>
    match Text.readNatural 65535 (String.ofList port.reverse) with
    | .ok _ => none
    | .error _ => some "invalid port value"

/-- The text of a report. -/
def print (pretty : Bool) (v : Value) : String :=
  (if pretty then Json.writeIndented 0 v else Json.write v) ++ "\n"

/-- What a command prints. -/
def run (c : Command) (s : Surroundings) : Except Failure String := do
  let settings ← c.settings s
  match c with
  | .render o =>
    let r ← renderReport settings (← load s settings) o.viewport o.expand o.collapse
    .ok (print o.pretty r.toValue)
  | .menu o =>
    let r ← menuReport settings (← load s settings) o.nodeId
    .ok (print o.pretty r.toValue)
  | .serve address => .error (.binding address ((addressFault? address).getD s.listenFault))
  | .view _ => .error (.window s.windowFault)

/-- How to use the program. -/
def usage : String :=
  "Usage: cluster-topology <COMMAND>\n\n" ++
  "Commands:\n" ++
  "  render [--snapshot S] [--cluster C] [--width W] [--height H]\n" ++
  "         [--expand NODE]... [--collapse NODE]... [--pretty]\n" ++
  "  menu   [--snapshot S] [--cluster C] --node NODE [--pretty]\n" ++
  "  serve  [--bind ADDRESS]\n" ++
  "  view   [--snapshot S] [--cluster C]\n"

/-- Runs the program. A command line that asks for nothing ends it with code 2, a failure with
code 1. -/
def execute (words : List String) (s : Surroundings) : Exit :=
  match parse words with
  | .error .help => ⟨0, usage, ""⟩
  | .error .misuse => ⟨2, "", usage⟩
  | .ok c =>
    match c.run s with
    | .ok output => ⟨0, output, ""⟩
    | .error f => ⟨1, "", f.report⟩

/-- The file that holds the snapshot, if the program will read one. -/
def snapshotFile? (words : List String) (s : Surroundings) : Option String :=
  match parse words with
  | .error _ => none
  | .ok c =>
    match c.settings s with
    | .ok { source := .file path, .. } => some path
    | _ => none

end ClusterMap.Command
