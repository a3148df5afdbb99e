import ClusterMap.Data.Json.Typed
import ClusterMap.Http.Status
import ClusterMap.Task.Request
import ClusterMap.Text.Blank

/-!
# Answers of the task service

The service acknowledges a request with a receipt, all of whose fields are optional; a blank answer
is a receipt too. A receipt may also say that the request was not accepted.
-/

namespace ClusterMap

/-- An acknowledgement. -/
structure Receipt where
  taskId : Option String
  accepted : Option Bool
  message : Option String
deriving DecidableEq, Repr

namespace Task

/-- Why a request was not carried out. -/
inductive Error where
  | timeout (ms : Nat)
  | transport (e : Http.TransportError)
  | httpStatus (status : Nat) (body : String)
  | rejected (reason : String)
  | format (fault : Json.Fault) (position : Json.Position)
deriving DecidableEq, Repr

/-- An error in words. -/
def Error.message : Error → String
  | .timeout ms => s!"task request timed out after {ms}ms"
  | .transport e => "HTTP request failed: " ++ e.message
  | .httpStatus status body =>
    "task service returned HTTP " ++ Http.describeStatus status ++ ": " ++ body
  | .rejected reason => "task service rejected the action: " ++ reason
  | .format fault position => "response format error: " ++ fault.message ++ position.suffix

/-- An error as the user is told of it: the service's own words where it gave any. -/
def Error.describe : Error → String
  | .rejected reason => reason
  | e => e.message

end Task

namespace Receipt

/-- The receipt that says nothing. -/
def empty : Receipt := ⟨none, none, none⟩

/-- The fields of a receipt. -/
def fields : List (Json.Field Receipt) :=
  [⟨"taskId", fun r c => do
      let (taskId, c) ← Json.expectOptional Json.expectText c
      .ok ({ r with taskId }, c)⟩,
   ⟨"accepted", fun r c => do
      let (accepted, c) ← Json.expectOptional Json.expectBool c
      .ok ({ r with accepted }, c)⟩,
   ⟨"message", fun r c => do
      let (message, c) ← Json.expectOptional Json.expectText c
      .ok ({ r with message }, c)⟩]

/-- Reads a receipt. -/
def parse (body : String) : Except Task.Error Receipt := do
  if (Text.trim body).isEmpty then .ok empty
  else
    let r ← (Json.parseWith (Json.expectRecord "struct TaskReceipt" fields empty) body).mapError
      fun l => Task.Error.format l.cause l.position
    if r.accepted = some false then .error (.rejected (r.message.getD "no reason given"))
    else .ok r

/-- The receipt in the answer to a request that waits for `timeoutMs`. -/
def ofAnswer (timeoutMs : Nat) : Http.Answer → Except Task.Error Receipt
  | .timeout => .error (.timeout timeoutMs)
  | .transport e => .error (.transport e)
  | .response status body =>
    if Http.isSuccess status then parse body else .error (.httpStatus status body)

end Receipt

/-- How a message is meant. -/
inductive Level where
  | success
  | error
deriving DecidableEq, Repr

/-- The names of the levels. -/
def Level.names : List (String × Level) := [("success", .success), ("error", .error)]

/-- The name of a level. -/
def Level.name : Level → String
  | .success => "success"
  | .error => "error"

/-- A message to the user. -/
structure Notification where
  level : Level
  message : String
deriving DecidableEq, Repr

/-- The value of a message. -/
def Notification.toValue (n : Notification) : Value :=
  .ofMembers [("level", .text n.level.name), ("message", .text n.message)]

/-- What came of a request. -/
structure Outcome where
  notification : Notification
  /-- Whether the snapshot should be fetched anew. -/
  refresh : Bool
  taskId : Option String
deriving DecidableEq, Repr

/-- What came of a request, given the service's answer. The tree is never changed here: what has
changed arrives with the next snapshot. -/
def Outcome.of (r : Request) : Except Task.Error Receipt → Outcome
  | .ok receipt => ⟨⟨.success, r.subject ++ ": submitted"⟩, true, receipt.taskId⟩
  | .error e => ⟨⟨.error, r.subject ++ " failed: " ++ e.describe⟩, false, none⟩

end ClusterMap
