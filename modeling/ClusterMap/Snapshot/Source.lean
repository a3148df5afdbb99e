import ClusterMap.Snapshot.Codec
import ClusterMap.Data.Json.Reader
import ClusterMap.Data.Yaml.Reader
import ClusterMap.Http.Status
import ClusterMap.Text.Blank

/-!
# Where snapshots come from

A snapshot is read from a file or from the answer to an HTTP request. Files named `.yaml` or `.yml`
hold YAML, all others JSON, and so do answers. `Snapshot.Error` has the causes of failure, their
wording, and which of them another attempt may cure.
-/

namespace ClusterMap.Snapshot

/-- Why the contents of a file are not to be had. -/
inductive ReadFailure where
  | missing
  | isDirectory
  | notUtf8
  | other (reason : String)
deriving DecidableEq, Repr

/-- A read failure in words. -/
def ReadFailure.message : ReadFailure → String
  | .missing => "No such file or directory (os error 2)"
  | .isDirectory => "Is a directory (os error 21)"
  | .notUtf8 => "stream did not contain valid UTF-8"
  | .other reason => reason

/-- Why a text holds no snapshot. -/
inductive Flaw where
  | json (fault : Json.Fault) (position : Json.Position)
  | yaml (fault : Yaml.Fault)
  | shape (e : Decode.Error)
  | other (reason : String)

/-- A flaw in words. -/
def Flaw.message : Flaw → String
  | .json fault position => fault.message ++ position.suffix
  | .yaml fault => fault.message
  | .shape e => e.message
  | .other reason => reason

/-- Why no snapshot was obtained. -/
inductive Error where
  | read (path : String) (failure : ReadFailure)
  | parse (origin : String) (flaw : Flaw)
  | timeout (ms : Nat)
  | transport (e : Http.TransportError)
  | httpStatus (status : Nat) (body : String)

namespace Error

/-- An error in words. -/
def message : Error → String
  | .read path failure => s!"failed to read snapshot `{path}`: " ++ failure.message
  | .parse origin flaw => s!"failed to parse snapshot from {origin}: " ++ flaw.message
  | .timeout ms => s!"snapshot request timed out after {ms}ms"
  | .transport e => "HTTP request failed: " ++ e.message
  | .httpStatus status body =>
    "snapshot endpoint returned HTTP " ++ Http.describeStatus status ++ ": " ++ body

/-- Whether another attempt may succeed. -/
def isRetryable : Error → Bool
  | .timeout _ => true
  | .transport e => e == .timedOut || e == .unreachable
  | .httpStatus status _ => status == Http.tooManyRequests || Http.isServerError status
  | .read _ _ | .parse _ _ => false

/-- The cause behind an error that has one of its own. -/
def cause? : Error → Option String
  | .read _ failure => some failure.message
  | .transport e => some e.message
  | _ => none

end Error

/-- The clusters of a document, or why it has none. -/
abbrev Result := Except Error (List Cluster)

/-- The clusters of a value, which came from `origin`. -/
def ofValue (origin : String) (v : Value) : Result :=
  (decodeDocument v).mapError fun e => .parse origin (.shape e)

/-- The clusters of a JSON text. The document is read before its shape is checked, and the shape
before what follows the document. -/
def ofJson (origin : String) (s : String) : Result :=
  let located {α : Type} (r : Except (Json.Located Json.Fault) α) : Except Error α :=
    r.mapError fun l => .parse origin (.json l.cause l.position)
  do
    let (v, rest) ← located (Json.parseValue s)
    let clusters ← ofValue origin v
    located (Json.finish clusters rest)

/-- The clusters of a YAML text. -/
def ofYaml (origin : String) (s : String) : Result := do
  let v ← (Yaml.parse s).mapError fun fault => Error.parse origin (.yaml fault)
  ofValue origin v

/-- The last component of a path that is a name. -/
def fileName (path : String) : String :=
  ((path.splitOn "/").filter fun part => part != "" && part != ".").getLast?.getD ""

/-- The part of a file name behind its last point, if something stands before the point. -/
def extension? (path : String) : Option String :=
  let name := (fileName path).toList
  if name = ['.', '.'] then none
  else
    let tail := (name.reverse.takeWhile (· != '.')).reverse
    if tail.length + 1 < name.length then some (String.ofList tail) else none

/-- Whether the file at a path holds YAML. -/
def isYamlPath (path : String) : Bool :=
  extension? path == some "yaml" || extension? path == some "yml"

/-- The clusters of the file at a path, given its contents. -/
def ofFile (path : String) (contents : Except ReadFailure String) : Result := do
  let text ← contents.mapError (Error.read path)
  let origin := s!"`{path}`"
  if isYamlPath path then ofYaml origin text else ofJson origin text

/-- The clusters of the answer to a request that waits for `timeoutMs`. -/
def ofAnswer (timeoutMs : Nat) : Http.Answer → Result
  | .timeout => .error (.timeout timeoutMs)
  | .transport e => .error (.transport e)
  | .response status body =>
    if Http.isSuccess status then ofJson "json" body else .error (.httpStatus status body)

/-- Where a snapshot is to be found. -/
inductive Source where
  | file (path : String)
  | http (url : String)
deriving DecidableEq, Repr

namespace Source

/-- A source from its text: a web address is told by its scheme. -/
def parse (raw : String) : Source :=
  let trimmed := Text.trim raw
  if trimmed.startsWith "http://" || trimmed.startsWith "https://" then .http trimmed
  else .file trimmed

/-- A source as it is shown. -/
def describe : Source → String
  | .file path => path
  | .http url => url

end Source

end ClusterMap.Snapshot
