import ClusterMap.Proofs.Task.Target
import ClusterMap.Snapshot.Sample
import Mathlib.Algebra.GroupWithZero.Nat

/-!
# What a tree knows of its snapshot

A tree is built from a snapshot and keeps all of it but the tenants, of which it keeps the number.
What belongs to a cluster, a zone or a server is found in its node: in what nodes of this kind hold
(`Detail`), in the status and in the name that is displayed. `Tree.clusters?` reads it all back
(`Tree.clusters?_build`), so that nothing is lost or mixed up on the way into the tree.

Readers do not look at flags (`Tree.clusters?_unflagged`). Whatever the threshold was and whatever
was collapsed since, the snapshot is still there.
-/

namespace ClusterMap

open Snapshot

/-- The cluster with tenants that have neither name nor status. -/
def Snapshot.Cluster.blankTenants (c : Cluster) : Cluster :=
  { c with tenants := c.tenants.map fun _ => ⟨"", none⟩ }

/-! ### Readers -/

/-- The server that a node stands for. -/
def Node.server? (n : Node) : Option Server :=
  match n.info.detail with
  | .server id ip port sqlPort connectionCount qps =>
    some { id, ip, port, sqlPort, status := n.info.status, connectionCount, qps }
  | _ => none

/-- The zone that a node stands for, with the servers below it. -/
def Node.zone? (n : Node) : Option Zone :=
  match n.info.detail with
  | .zone regionName rootServer cpuCount memorySize unitCount _ connectionCount qps => do
    let servers ← n.children.mapM Node.server?
    pure { name := n.info.displayName, regionName, status := n.info.status, rootServer, cpuCount,
           memorySize, unitCount, connectionCount, qps, servers }
  | _ => none

/-- The cluster that a node stands for, with the zones below it and as many blank tenants as it
has. -/
def Node.cluster? (n : Node) : Option Cluster :=
  match n.info.detail with
  | .cluster id obVersion role autoDetectEnabled tenantCount => do
    let zones ← n.children.mapM Node.zone?
    pure { id, name := n.info.displayName, status := n.info.status, obVersion, role,
           autoDetectEnabled, zones, tenants := .replicate tenantCount ⟨"", none⟩ }
  | _ => none

/-- The clusters that the nodes below the root stand for. -/
def Tree.clusters? (t : Tree) : Option (List Cluster) := t.root.children.mapM Node.cluster?

/-! ### Reading and flags -/

namespace Node

theorem mapM_children_unflagged {β : Type} {read : Node → Option β}
    (h : ∀ m, read m.unflagged = read m) (n : Node) :
    n.unflagged.children.mapM read = n.children.mapM read := by
  have hread : read ∘ unflagged = read := funext h
  rw [children_unflagged, List.mapM_map, hread]

theorem server?_unflagged (n : Node) : n.unflagged.server? = n.server? := by
  obtain ⟨i, cs⟩ := n
  rfl

theorem zone?_unflagged (n : Node) : n.unflagged.zone? = n.zone? := by
  have hservers := mapM_children_unflagged server?_unflagged n
  -- all else is read from beside the flag
  obtain ⟨i, cs⟩ := n
  rw [zone?, zone?, hservers]
  rfl

theorem cluster?_unflagged (n : Node) : n.unflagged.cluster? = n.cluster? := by
  have hzones := mapM_children_unflagged zone?_unflagged n
  obtain ⟨i, cs⟩ := n
  rw [cluster?, cluster?, hzones]
  rfl

end Node

/-- What is read does not hang on what is collapsed. -/
theorem Tree.clusters?_unflagged (t : Tree) : t.unflagged.clusters? = t.clusters? :=
  Node.mapM_children_unflagged Node.cluster?_unflagged t.root

/-! ### Reading what was built -/

section Reading

variable {β γ δ : Type} {read : γ → Option δ} (image : β → δ)

theorem mapM_map_eq_some {make : β → γ} (h : ∀ b, read (make b) = some (image b)) (l : List β) :
    (l.map make).mapM read = some (l.map image) := by
  have hread : read ∘ make = fun b => pure (image b) := funext h
  rw [List.mapM_map, hread]
  exact List.mapM_pure

theorem mapM_mapIdx_eq_some {make : Nat → β → γ}
    (h : ∀ index b, read (make index b) = some (image b)) (l : List β) :
    (l.mapIdx make).mapM read = some (l.map image) := by
  induction l generalizing make with
  | nil => rfl
  | cons b rest ih =>
    -- the rest is made with indices that are higher by one
    rw [List.mapIdx_cons, List.mapM_cons, h, ih fun index => h (index + 1)]
    rfl

end Reading

namespace Tree

theorem server?_serverNode (clusterId : String) (isCurrent : Bool) (s : Server) :
    (serverNode clusterId isCurrent s).server? = some s := rfl

theorem zone?_zoneNode (clusterId : String) (isCurrent collapsed : Bool) (z : Zone) :
    (zoneNode clusterId isCurrent collapsed z).zone? = some z := by
  have hservers : (z.servers.map (serverNode clusterId isCurrent)).mapM Node.server? =
      some z.servers := by
    rw [mapM_map_eq_some id (server?_serverNode clusterId isCurrent), List.map_id]
  change ((z.servers.map _).mapM Node.server?).bind _ = _
  rw [hservers]
  rfl

theorem cluster?_clusterNode (threshold : Nat) (saveRoom isCurrent : Bool) (c : Cluster) :
    (clusterNode threshold saveRoom isCurrent c).cluster? = some c.blankTenants := by
  -- a zone is read alike whether it is collapsed or not, and so the index drops out
  have hzones : ((c.zones.mapIdx fun index z => zoneNode c.id isCurrent
      (zoneCollapsed threshold saveRoom index z) z).mapM Node.zone?) = some c.zones := by
    rw [mapM_mapIdx_eq_some id fun index z => zone?_zoneNode _ _ _ z, List.map_id]
  change ((c.zones.mapIdx _).mapM Node.zone?).bind _ = _
  rw [hzones, Cluster.blankTenants, List.map_const']
  rfl

/-- **What was built can be read back**, with blank tenants. -/
theorem clusters?_build (threshold : Nat) (clusters : List Cluster) (requested : Option String) :
    (build threshold clusters requested).clusters? =
      some (clusters.map Cluster.blankTenants) :=
  mapM_map_eq_some _ (fun c => cluster?_clusterNode _ _ _ c) clusters

/-! ### Tenants -/

/-- Of the tenants nothing goes into the tree but their number. -/
theorem build_blankTenants (threshold : Nat) (clusters : List Cluster) (requested : Option String) :
    build threshold (clusters.map Cluster.blankTenants) requested =
      build threshold clusters requested := by
  -- clusters are chosen by their identifiers, and counted by their zones
  have hcurrent : chooseCurrent (clusters.map Cluster.blankTenants) requested =
      chooseCurrent clusters requested := by
    simp [chooseCurrent, Cluster.blankTenants, Function.comp_def]
  have hcount (id : Option String) : serverCountOf (clusters.map Cluster.blankTenants) id =
      serverCountOf clusters id := by
    have hfind (id : String) : (clusters.map Cluster.blankTenants).find? (·.id == id) =
        (clusters.find? (·.id == id)).map Cluster.blankTenants := List.find?_map
    cases id with
    | none => rfl
    | some id =>
      rw [serverCountOf, serverCountOf, Option.bind_some, Option.bind_some, hfind]
      cases clusters.find? (·.id == id) <;> rfl
  -- the node of a cluster takes the number of the tenants alone
  have hnode (saveRoom isCurrent : Bool) (c : Cluster) :
      clusterNode threshold saveRoom isCurrent c.blankTenants =
        clusterNode threshold saveRoom isCurrent c := by
    simp [clusterNode, Cluster.blankTenants]
  rw [build, build]
  simp only [hcurrent, hcount, List.map_map, Function.comp_def, hnode]
  rfl

end Tree

/-! ### Counting -/

/-- How many objects of a kind a cluster has, itself included. -/
def Snapshot.Cluster.count (c : Cluster) : Kind → Nat
  | .root => 0
  | .cluster => 1
  | .zone => c.zones.length
  | .server => c.serverCount

theorem Snapshot.Cluster.countP_targets (c : Cluster) (k : Kind) :
    c.targets.countP (·.kind == k) = c.count k := by
  have hzone (z : Zone) : (z.targets c.id).countP (·.kind == k) =
      (if k = .server then z.servers.length else 0) + if k = .zone then 1 else 0 := by
    rw [Zone.targets, List.countP_cons, List.countP_map]
    cases k <;> simp [Function.comp_def, Target.kind]
  have hzones : List.countP (·.kind == k) ∘ Zone.targets c.id = _ := funext hzone
  rw [targets, List.countP_cons, List.countP_flatMap, hzones]
  cases k <;> simp [count, serverCount, List.length_flatMap, Target.kind]

theorem Tree.countKind_build (threshold : Nat) (clusters : List Cluster)
    (requested : Option String) (k : Kind) :
    (build threshold clusters requested).root.countKind k =
      (clusters.map (·.count k)).sum + if k = .root then 1 else 0 := by
  have htargets : (targets clusters).countP (·.kind == k) = (clusters.map (·.count k)).sum := by
    rw [targets, List.countP_flatMap]
    exact congrArg List.sum (List.map_congr_left fun c _ => c.countP_targets k)
  -- the kind of a node is seen in how it is known
  have hfaces := congrArg (List.countP (·.kind == k)) (map_face_build threshold clusters requested)
  rw [List.countP_cons, List.countP_map, List.countP_map] at hfaces
  rw [← htargets]
  cases k <;> exact hfaces

/-- **A tree keeps its snapshot**, but for the names and statuses of tenants. The clusters can be
read back from it in their order, whatever the threshold was and whichever cluster is current. So
snapshots whose trees differ in flags at most are the same up to their tenants; and if they are the
same, so are their trees. The root has a child for every cluster, and there are as many nodes of a
kind as there are clusters, zones or servers. -/
theorem Tree.build_keeps_snapshot (threshold : Nat) (clusters : List Cluster)
    (requested : Option String) :
    let t := build threshold clusters requested
    t.clusters? = some (clusters.map Cluster.blankTenants) ∧
    (∀ threshold' clusters' requested',
      (build threshold' clusters' requested').unflagged = t.unflagged →
        clusters'.map Cluster.blankTenants = clusters.map Cluster.blankTenants) ∧
    (∀ clusters', clusters'.map Cluster.blankTenants = clusters.map Cluster.blankTenants →
      build threshold clusters' requested = t) ∧
    t.root.children.length = clusters.length ∧
    t.root.countKind .cluster = clusters.length ∧
    t.root.countKind .zone = (clusters.flatMap Cluster.zones).length ∧
    t.root.countKind .server = (clusters.map Cluster.serverCount).sum := by
  intro t
  refine ⟨clusters?_build threshold clusters requested, ?_, fun clusters' h => ?_, ?_, ?_, ?_, ?_⟩
  · intro threshold' clusters' requested' h
    have hread := clusters?_build threshold' clusters' requested'
    rw [← clusters?_unflagged, h, clusters?_unflagged, clusters?_build] at hread
    exact (Option.some.inj hread).symm
  · rw [← build_blankTenants threshold clusters', h, build_blankTenants]
  · exact List.length_map _
  · simp [t, countKind_build, Cluster.count]
  · simp [t, countKind_build, Cluster.count, List.length_flatMap]
  · exact countKind_build threshold clusters requested .server

/-- A tenant is renamed, which the tree does not show, and is dropped, which it does. -/
theorem Tree.build_keeps_snapshot_tenants :
    let c := Sample.cluster "c1" [2, 0, 1] .primary
    let renamed := { c with tenants := [⟨"metrics", none⟩] }
    let dropped := { c with tenants := [] }
    build 9 [renamed] none = build 9 [c] none ∧
      (build 1 [dropped] none).unflagged ≠ (build 9 [c] none).unflagged := by
  intro c renamed dropped
  obtain ⟨-, hsame, htenants, -⟩ := build_keeps_snapshot 9 [c] none
  refine ⟨htenants [renamed] rfl, fun h => ?_⟩
  -- the number of tenants is kept
  have hblank := hsame 1 [dropped] none h
  exact absurd (congrArg (List.map fun c : Cluster => c.tenants.length) hblank) (by decide)

end ClusterMap
