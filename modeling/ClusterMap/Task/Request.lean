import ClusterMap.Menu.Codec
import ClusterMap.Tree.Codec

/-!
# Requests

What the task service is asked to do. The target is named as the service knows it: by the
identifier of a cluster or of a server, or by the name of a zone.
-/

namespace ClusterMap

/-- An action on a target. -/
structure Request where
  action : Action
  targetKind : Kind
  targetId : String
  clusterId : String
  /-- What the user entered. -/
  payload : Option Value

namespace Request

open Decode

/-- Reads a request. -/
def decode : Decoder Request :=
  record "struct ActionRequest" <|
    Fields.none Request.mk
    |>.need "actionKey" Action.decode
    |>.need "targetKind" Kind.decode
    |>.need "targetId" text
    |>.need "clusterId" text
    |>.orElse "confirmationPayload" (optional anyValue) none

/-- The value of a request; what was not entered is left out. -/
def toValue (r : Request) : Value :=
  .ofMembers ([("actionKey", r.action.toValue), ("targetKind", .text r.targetKind.name),
    ("targetId", .text r.targetId), ("clusterId", .text r.clusterId)] ++
    (r.payload.map fun v => ("confirmationPayload", v)).toList)

/-- A request in a message. -/
def subject (r : Request) : String :=
  r.action.label ++ " " ++ r.targetKind.name ++ " " ++ r.targetId

end Request

end ClusterMap
