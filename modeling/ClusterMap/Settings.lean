import ClusterMap.Environment.Basic
import ClusterMap.Snapshot.Source
import ClusterMap.Text.Natural
import ClusterMap.Tree.Build

/-!
# Settings

What the program reads from its environment: eight variables, each with a value that is used if the
variable is not set. They are read in a fixed order, and the first one at fault is reported.
-/

namespace ClusterMap

/-- Why the settings cannot be used. -/
inductive SettingsError where
  | blankUrl
  | notHttp (url : String)
  | zero (name : String)
  | unreadable (name : String) (bits : Nat) (e : Text.NaturalError)
deriving DecidableEq, Repr

/-- An error and the causes behind it, outermost first. -/
def SettingsError.chain : SettingsError → List String
  | .blankUrl => ["TOPOLOGY_TASK_API_URL cannot be empty"]
  | .notHttp url => [s!"TOPOLOGY_TASK_API_URL must be an http(s) URL, got `{url}`"]
  | .zero name => [s!"{name} must be greater than 0"]
  | .unreadable name bits e => [s!"failed to parse {name} as u{bits}", e.message]

/-- The settings of the program. -/
structure Settings where
  source : Snapshot.Source
  currentCluster : Option String
  taskApiUrl : String
  refreshIntervalMs : Nat
  refreshDebounceMs : Nat
  requestTimeoutMs : Nat
  fetchMaxRetries : Nat
  autoExpandThreshold : Nat
deriving DecidableEq, Repr

namespace Settings

open Environment (Lookup)

/-- The variables that are read. -/
def names : List String :=
  ["TOPOLOGY_SNAPSHOT_SOURCE", "TOPOLOGY_CURRENT_CLUSTER", "TOPOLOGY_TASK_API_URL",
    "TOPOLOGY_REFRESH_INTERVAL_MS", "TOPOLOGY_REFRESH_DEBOUNCE_MS", "TOPOLOGY_REQUEST_TIMEOUT_MS",
    "TOPOLOGY_FETCH_MAX_RETRIES", "TOPOLOGY_AUTO_EXPAND_THRESHOLD"]

/-- A variable without blanks around it; a blank one counts as not set. -/
def readText (env : Lookup) (name : String) : Option String :=
  ((env name).map Text.trim).filter (· != "")

/-- A variable that holds a count of some bits. -/
def readCount (env : Lookup) (name : String) (bits substitute : Nat) :
    Except SettingsError Nat :=
  match env name with
  | none => .ok substitute
  | some raw =>
    (Text.readNatural (Nat.pow 2 bits - 1) (Text.trim raw)).mapError (.unreadable name bits)

/-- A variable that holds a positive count of 64 bits. -/
def readPositive (env : Lookup) (name : String) (substitute : Nat) :
    Except SettingsError Nat := do
  let n ← readCount env name 64 substitute
  if n = 0 then .error (.zero name) else .ok n

/-- The address of the task service, taken as it is. -/
def readUrl (env : Lookup) : Except SettingsError String :=
  let url := (env "TOPOLOGY_TASK_API_URL").getD "http://localhost:8080/api/v1"
  if Text.trim url = "" then .error .blankUrl
  else if url.startsWith "http://" || url.startsWith "https://" then .ok url
  else .error (.notHttp url)

/-- Reads the settings. -/
def read (env : Lookup) : Except SettingsError Settings := do
  let source := Snapshot.Source.parse
    ((readText env "TOPOLOGY_SNAPSHOT_SOURCE").getD "snapshot.json")
  let taskApiUrl ← readUrl env
  let refreshIntervalMs ← readPositive env "TOPOLOGY_REFRESH_INTERVAL_MS" 10000
  let refreshDebounceMs ← readCount env "TOPOLOGY_REFRESH_DEBOUNCE_MS" 64 200
  let requestTimeoutMs ← readPositive env "TOPOLOGY_REQUEST_TIMEOUT_MS" 5000
  let fetchMaxRetries ← readCount env "TOPOLOGY_FETCH_MAX_RETRIES" 32 2
  let autoExpandThreshold ←
    readCount env "TOPOLOGY_AUTO_EXPAND_THRESHOLD" 64 defaultThreshold
  .ok { source
        currentCluster := readText env "TOPOLOGY_CURRENT_CLUSTER"
        taskApiUrl, refreshIntervalMs, refreshDebounceMs, requestTimeoutMs, fetchMaxRetries
        autoExpandThreshold }

end Settings

end ClusterMap
