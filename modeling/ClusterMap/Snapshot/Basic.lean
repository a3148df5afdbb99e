/-!
# Snapshots of clusters

What is known of a set of database clusters at one moment: each cluster with its zones, each zone
with its servers, and the tenants of the cluster. Every status is a free text of the reporting
service (`ClusterMap.Status` gives it a meaning).
-/

namespace ClusterMap.Snapshot

/-- Whether a cluster takes writes or follows another one. -/
inductive Role where
  | primary
  | standby
deriving DecidableEq, Repr, Inhabited

/-- A server of a zone. -/
structure Server where
  id : String
  ip : String
  port : UInt16
  sqlPort : Option UInt16
  status : Option String
  connectionCount : Option UInt64
  qps : Option Float

/-- A zone of a cluster. -/
structure Zone where
  name : String
  regionName : Option String
  status : Option String
  rootServer : Option String
  cpuCount : Option UInt32
  memorySize : Option String
  unitCount : Option UInt32
  connectionCount : Option UInt64
  qps : Option Float
  servers : List Server

/-- A tenant of a cluster. -/
structure Tenant where
  name : String
  status : Option String
deriving DecidableEq, Repr

/-- A cluster. -/
structure Cluster where
  id : String
  name : String
  status : Option String
  obVersion : Option String
  role : Role
  autoDetectEnabled : Bool
  zones : List Zone
  tenants : List Tenant

/-- The number of servers in all zones of a cluster. -/
def Cluster.serverCount (c : Cluster) : Nat := (c.zones.flatMap (·.servers)).length

end ClusterMap.Snapshot
