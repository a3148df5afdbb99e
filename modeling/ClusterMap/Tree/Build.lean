import ClusterMap.Tree.Basic

/-!
# Building a tree from a snapshot

`Tree.build` hangs every cluster of a snapshot below the root. One cluster is current: the requested
one if it is there, else the first. It starts expanded and all others collapsed. If the current
cluster has more servers than the threshold, zones start collapsed too, except for the first zone of
each cluster when that zone alone stays within the threshold.

Zones and servers of the current cluster are identified by their own name or identifier; elsewhere
the identifier of their cluster stands in front.
-/

namespace ClusterMap

/-- How many servers are shown without collapsing zones. -/
def defaultThreshold : Nat := 9

namespace Tree

open Snapshot

/-- The identifier of a zone's node. -/
def zoneId (clusterId : String) (isCurrent : Bool) (name : String) : String :=
  if isCurrent then name else s!"{clusterId}/{name}"

/-- The identifier of a server's node. -/
def serverId (clusterId : String) (isCurrent : Bool) (id : String) : String :=
  if isCurrent then s!"server:{id}" else s!"server:{clusterId}/{id}"

/-- The node of a server. -/
def serverNode (clusterId : String) (isCurrent : Bool) (s : Server) : Node :=
  ⟨{ id := serverId clusterId isCurrent s.id
     kind := .server
     status := s.status
     displayName := s!"{s.ip}:{s.port}"
     collapsed := none
     detail := .server s.id s.ip s.port s.sqlPort s.connectionCount s.qps }, []⟩

/-- The node of a zone. -/
def zoneNode (clusterId : String) (isCurrent collapsed : Bool) (z : Zone) : Node :=
  ⟨{ id := zoneId clusterId isCurrent z.name
     kind := .zone
     status := z.status
     displayName := z.name
     collapsed := some collapsed
     detail := .zone z.regionName z.rootServer z.cpuCount z.memorySize z.unitCount
       z.servers.length z.connectionCount z.qps },
   z.servers.map (serverNode clusterId isCurrent)⟩

/-- Whether the zone at an index starts collapsed, in a view that has to save room or not. -/
def zoneCollapsed (threshold : Nat) (saveRoom : Bool) (index : Nat) (z : Zone) : Bool :=
  saveRoom && (0 < index || threshold < z.servers.length)

/-- The node of a cluster. -/
def clusterNode (threshold : Nat) (saveRoom isCurrent : Bool) (c : Cluster) : Node :=
  ⟨{ id := c.id
     kind := .cluster
     status := c.status
     displayName := c.name
     collapsed := some (!isCurrent)
     detail := .cluster c.id c.obVersion c.role c.autoDetectEnabled c.tenants.length },
   c.zones.mapIdx fun index z =>
     zoneNode c.id isCurrent (zoneCollapsed threshold saveRoom index z) z⟩

/-- The identifier of the current cluster: the requested one if there is such a cluster, else that
of the first cluster. -/
def chooseCurrent (clusters : List Cluster) (requested : Option String) : Option String :=
  (requested.filter fun id => clusters.any (·.id == id)).or (clusters.head?.map (·.id))

/-- How many servers the cluster with an identifier has. -/
def serverCountOf (clusters : List Cluster) (id : Option String) : Nat :=
  match id.bind fun id => clusters.find? (·.id == id) with
  | some c => c.serverCount
  | none => 0

/-- Builds the tree of a snapshot. -/
def build (threshold : Nat) (clusters : List Cluster) (requested : Option String) : Tree :=
  let current := chooseCurrent clusters requested
  let saveRoom : Bool := threshold < serverCountOf clusters current
  { root := ⟨{ id := rootId
               kind := .root
               status := none
               displayName := ""
               collapsed := none
               detail := .root },
      clusters.map fun c => clusterNode threshold saveRoom (current == some c.id) c⟩
    current }

end Tree

end ClusterMap
