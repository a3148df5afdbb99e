import ClusterMap.Snapshot.Basic

/-!
# A sample cluster

A running cluster of any number of zones and servers, for trying things out.
-/

namespace ClusterMap.Snapshot.Sample

/-- The server with a number in the zone with a number. -/
def server (clusterId : String) (zone number : Nat) : Server where
  id := s!"{clusterId}-z{zone}-s{number}"
  ip := s!"10.0.{zone}.{number}"
  port := 2882
  sqlPort := some 2881
  status := some "RUNNING"
  connectionCount := some 4
  qps := some 120.0

/-- The zone with a number. -/
def zone (clusterId : String) (number servers : Nat) : Zone where
  name := s!"zone{number}"
  regionName := some "region-a"
  status := some "RUNNING"
  rootServer := none
  cpuCount := some 16
  memorySize := some "64G"
  unitCount := some 2
  connectionCount := some 12
  qps := some 340.5
  servers := (List.range servers).map fun i => server clusterId number (i + 1)

/-- A cluster whose zones have the given numbers of servers. -/
def cluster (id : String) (serversPerZone : List Nat) (role : Role) : Cluster where
  id
  name := s!"{id}-name"
  status := some "RUNNING"
  obVersion := some "4.2.1.0"
  role
  autoDetectEnabled := false
  zones := serversPerZone.mapIdx fun i n => zone id (i + 1) n
  tenants := [⟨"sys", some "RUNNING"⟩]

end ClusterMap.Snapshot.Sample
