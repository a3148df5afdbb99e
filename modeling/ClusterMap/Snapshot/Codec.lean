import ClusterMap.Snapshot.Basic
import ClusterMap.Data.Decode.Record

/-!
# Snapshots as structured values

The record of each part of a snapshot (`Cluster.fields` and so on), and the value that writes it
(`Cluster.toValue` and so on). A document holds a list of clusters or one cluster
(`decodeDocument`); an identifier is a text or a signed word, written in decimal.

Documents are set aside as a whole before their type is known, and every mismatch is reported as
the same error.
-/

namespace ClusterMap.Snapshot

open Decode

/-- An identifier: a text, or a signed word of 64 bits. -/
def identifier : Decoder String
  | .text s => .ok s
  | .integer n =>
    if -9223372036854775808 ≤ n ∧ n ≤ 9223372036854775807 then .ok (toString n)
    else .error (.noAlternative "RawId")
  | _ => .error (.noAlternative "RawId")

/-- The names of the roles. -/
def Role.names : List (String × Role) := [("PRIMARY", .primary), ("STANDBY", .standby)]

/-- The name of a role. -/
def Role.name : Role → String
  | .primary => "PRIMARY"
  | .standby => "STANDBY"

/-- The fields of a tenant. -/
def Tenant.fields : Fields Tenant :=
  Fields.none Tenant.mk
  |>.need "name" text
  |>.orElse "status" (optional text) none

/-- The fields of a server. -/
def Server.fields : Fields Server :=
  Fields.none Server.mk
  |>.need "id" identifier
  |>.need "ip" text
  |>.need "port" word16
  |>.orElse "sqlPort" (optional word16) none
  |>.orElse "status" (optional text) none
  |>.orElse "connectionCount" (optional word64) none
  |>.orElse "qps" (optional float64) none

/-- Reads a server. -/
def Server.decode : Decoder Server := record "struct ServerSnapshot" Server.fields

/-- Reads a tenant. -/
def Tenant.decode : Decoder Tenant := record "struct TenantSnapshot" Tenant.fields

/-- The fields of a zone. -/
def Zone.fields : Fields Zone :=
  Fields.none Zone.mk
  |>.need "name" text
  |>.orElse "regionName" (optional text) none
  |>.orElse "status" (optional text) none
  |>.orElse "rootServer" (optional text) none
  |>.orElse "cpuCount" (optional word32) none
  |>.orElse "memorySize" (optional text) none
  |>.orElse "unitCount" (optional word32) none
  |>.orElse "connectionCount" (optional word64) none
  |>.orElse "qps" (optional float64) none
  |>.orElse "servers" (listOf Server.decode) []

/-- Reads a zone. -/
def Zone.decode : Decoder Zone := record "struct ZoneSnapshot" Zone.fields

/-- The fields of a cluster. -/
def Cluster.fields : Fields Cluster :=
  Fields.none Cluster.mk
  |>.need "id" identifier
  |>.need "name" text
  |>.orElse "status" (optional text) none
  |>.orElse "obVersion" (optional text) none
  |>.orElse "role" (choice Role.names false) .primary
  |>.orElse "autoDetectEnabled" bool false
  |>.orElse "zones" (listOf Zone.decode) []
  |>.orElse "tenants" (listOf Tenant.decode) []

/-- Reads a cluster. -/
def Cluster.decode : Decoder Cluster := record "struct ClusterSnapshot" Cluster.fields

/-- Reads a list of clusters. -/
def decodeMany : Decoder (List Cluster) := listOf Cluster.decode

/-- Reads a document: a list of clusters if it is one, else one cluster. -/
def decodeDocument : Decoder (List Cluster) := fun v =>
  match decodeMany v with
  | .ok clusters => .ok clusters
  | .error _ => match Cluster.decode v with
    | .ok cluster => .ok [cluster]
    | .error _ => .error (.noAlternative "SnapshotDocument")

/-! ### Writing -/

/-- A measured rate, null if none was reported. -/
def rateValue : Option Float → Value
  | some x => .ofFloat x
  | none => .null

/-- The value of a tenant. -/
def Tenant.toValue (t : Tenant) : Value :=
  .ofMembers [("name", .text t.name), ("status", .ofText? t.status)]

/-- The value of a server. -/
def Server.toValue (s : Server) : Value :=
  .ofMembers [("id", .text s.id), ("ip", .text s.ip), ("port", .ofNat s.port.toNat),
    ("sqlPort", .ofNat? (s.sqlPort.map (·.toNat))), ("status", .ofText? s.status),
    ("connectionCount", .ofNat? (s.connectionCount.map (·.toNat))), ("qps", rateValue s.qps)]

/-- The value of a zone. -/
def Zone.toValue (z : Zone) : Value :=
  .ofMembers [("name", .text z.name), ("regionName", .ofText? z.regionName),
    ("status", .ofText? z.status), ("rootServer", .ofText? z.rootServer),
    ("cpuCount", .ofNat? (z.cpuCount.map (·.toNat))), ("memorySize", .ofText? z.memorySize),
    ("unitCount", .ofNat? (z.unitCount.map (·.toNat))),
    ("connectionCount", .ofNat? (z.connectionCount.map (·.toNat))), ("qps", rateValue z.qps),
    ("servers", .list (z.servers.map Server.toValue))]

/-- The value of a cluster. -/
def Cluster.toValue (c : Cluster) : Value :=
  .ofMembers [("id", .text c.id), ("name", .text c.name), ("status", .ofText? c.status),
    ("obVersion", .ofText? c.obVersion), ("role", .text c.role.name),
    ("autoDetectEnabled", .bool c.autoDetectEnabled),
    ("zones", .list (c.zones.map Zone.toValue)),
    ("tenants", .list (c.tenants.map Tenant.toValue))]

/-- The document that holds a list of clusters. -/
def toDocument (clusters : List Cluster) : Value := .list (clusters.map Cluster.toValue)

end ClusterMap.Snapshot
