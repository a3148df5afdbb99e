import ClusterMap.Service.Report

/-!
# The HTTP service

Answers requests for reports on a snapshot that comes with the request. The status of a failed
request is told from the wording of the error.
-/

namespace ClusterMap.Service

open Decode

/-- What is the same for all requests. -/
structure Config where
  threshold : Nat
  defaultCluster : Option String

/-- A request for a layout with a frame. -/
structure RenderRequest where
  clusters : Value
  current : Option String
  /-- Flags that differ from those of a new tree. -/
  collapsed : Entries Bool
  viewport : Option (Viewport Float32)
  layout : Option (LayoutConfig Float32)
  theme : Option (Theme Float32)

/-- A request for the menu of a node. -/
structure MenuRequest where
  clusters : Value
  current : Option String
  nodeId : String

/-- Reads a request for a layout. -/
def RenderRequest.decode : Decoder RenderRequest :=
  strictRecord "struct RenderRequest" <|
    Fields.none RenderRequest.mk
    |>.need "clusters" anyValue
    |>.orElse "currentClusterId" (optional text) none
    |>.orElse "collapsed" (mapOf bool) []
    |>.orElse "viewport" (optional Viewport.decode) none
    |>.orElse "layout" (optional LayoutConfig.decode) none
    |>.orElse "theme" (optional Theme.decode) none

/-- Reads a request for a menu. -/
def MenuRequest.decode : Decoder MenuRequest :=
  strictRecord "struct MenuRequest" <|
    Fields.none MenuRequest.mk
    |>.need "clusters" anyValue
    |>.orElse "currentClusterId" (optional text) none
    |>.need "nodeId" text

/-- Why a request is refused. -/
inductive Refusal where
  /-- The request, named by `route`, holds no snapshot. -/
  | snapshot (route : String) (e : Snapshot.Error)
  | unknownNode (nodeId : String)

/-- A refusal with its causes, outermost first. -/
def Refusal.message : Refusal → String
  | .snapshot route e => s!"invalid {route} request: " ++ e.message
  | .unknownNode id => s!"unknown node `{id}`"

/-- Whether one text occurs in another. -/
def occursIn (part : List Char) : List Char → Bool
  | [] => part.isEmpty
  | c :: rest => part.isPrefixOf (c :: rest) || occursIn part rest

/-- What tells that an error is the fault of the client. -/
def clientMarks : List String :=
  ["failed to parse snapshot", "invalid render request", "invalid menu request", "unknown node `"]

/-- The status for the wording of an error. -/
def statusOf (details : String) : Nat :=
  let text := (Text.lowerAscii details).toList
  if clientMarks.any fun mark => occursIn mark.toList text then 400 else 500

/-- Answers a request for a layout. -/
def render (config : Config) (r : RenderRequest) : Except Refusal RenderReport := do
  let clusters ← (Snapshot.ofValue "request body" r.clusters).mapError (.snapshot "render")
  let artist : Artist Float32 := ⟨r.theme.getD .standard, Kind.all⟩
  let s := Session.start config.threshold (r.layout.getD .standard) artist
    (r.current.or config.defaultCluster) (r.viewport.getD .standard)
  let (s, _) := s.apply clusters none
  .ok (.ofSession (r.collapsed.foldl (fun s (id, flag) => s.setCollapsed id flag) s))

/-- Answers a request for a menu. -/
def menu (config : Config) (r : MenuRequest) : Except Refusal MenuReport := do
  let clusters ← (Snapshot.ofValue "request body" r.clusters).mapError (.snapshot "menu")
  let s : Session Float32 := Session.start defaultThreshold .standard .standard
    (r.current.or config.defaultCluster) .standard
  match MenuReport.ofSession? (s.apply clusters none).1 r.nodeId with
  | some report => .ok report
  | none => .error (.unknownNode r.nodeId)

/-- The answer to a request: a status and a body. -/
structure Answer where
  status : Nat
  body : Value

/-- The answer that reports a result or its refusal. -/
def answerWith {α : Type} (toValue : α → Value) : Except Refusal α → Answer
  | .ok a => ⟨200, toValue a⟩
  | .error e => ⟨statusOf e.message, .ofMembers [("error", .text e.message)]⟩

/-- The answer that tells that the service runs. -/
def health : Answer := ⟨200, .ofMembers [("status", .text "ok")]⟩

/-- The answer to a request for a layout. -/
def answerRender (config : Config) (r : RenderRequest) : Answer :=
  answerWith RenderReport.toValue (render config r)

/-- The answer to a request for a menu. -/
def answerMenu (config : Config) (r : MenuRequest) : Answer :=
  answerWith MenuReport.toValue (menu config r)

end ClusterMap.Service
