import ClusterMap.Proofs.Tree.Identifier
import ClusterMap.Snapshot.Sample

/-!
# The object of a node

`Plan.exists_request` leaves open which of several objects with one node identifier a request is
about. Where identifiers are different there is but one, and it can be told by the place of the node
in the tree: the child of the root at some place is that of the cluster at this place in the
snapshot, and so on down to zones and servers.

So a request asks for the object at the place of its node (`Tree.AsksFor`). The cluster is found by
a search for the identifier of the node below the clusters (`Plan.owner?_nodeId`), and the name is
read off the node (`Node.face`); neither hangs on which cluster is current, nor on the flags.
-/

namespace ClusterMap

open Snapshot

/-! ### Trees with other flags -/

theorem Node.face_eq_of_unflagged {n n' : Node} (h : n.unflagged = n'.unflagged) :
    n.face = n'.face := by
  rw [← face_unflagged, h, face_unflagged]

theorem Node.kind_eq_of_unflagged {n n' : Node} (h : n.unflagged = n'.unflagged) :
    n.kind = n'.kind := by
  have hkind := congrArg Face.kind (face_eq_of_unflagged h)
  exact hkind

/-- Nodes that differ in flags alone have children that differ in flags alone, place by place. -/
theorem Node.exists_child_of_unflagged {n n' : Node} (h : n.unflagged = n'.unflagged) {i : Nat}
    {m' : Node} (hm' : n'.children[i]? = some m') :
    ∃ m, n.children[i]? = some m ∧ m.unflagged = m'.unflagged := by
  have hmap : (n.children[i]?).map unflagged = some m'.unflagged := by
    rw [← List.getElem?_map, ← children_unflagged, h, children_unflagged, List.getElem?_map, hm',
      Option.map_some]
  exact Option.map_eq_some_iff.mp hmap

section

variable {t : Tree} {threshold : Nat} {clusters : List Cluster} {requested : Option String}

theorem Tree.map_face_descendants
    (ht : t.unflagged = (build threshold clusters requested).unflagged) :
    t.root.descendants.map Node.face =
      ⟨rootId, .root, ""⟩ :: (targets clusters).map (Target.face t.current) := by
  have hroot : t.root.unflagged = (build threshold clusters requested).root.unflagged :=
    congrArg Tree.root ht
  rw [← Node.map_face_descendants_unflagged, hroot, Node.map_face_descendants_unflagged,
    map_face_build, current_eq_of_unflagged ht]

/-! ### Owners -/

/-- Where identifiers are different, that of the node of an object stands for this object. -/
theorem Snapshot.targetOf?_nodeId
    (ht : t.unflagged = (Tree.build threshold clusters requested).unflagged)
    (hd : t.root.DistinctIds) {o : Target} (ho : o ∈ targets clusters) :
    targetOf? clusters t.current (o.nodeId t.current) = some o := by
  have hids := congrArg (List.map Face.nodeId) (Tree.map_face_descendants ht)
  rw [List.map_map, List.map_cons, List.map_map] at hids
  have hnodup : ((targets clusters).map (Target.nodeId t.current)).Nodup := by
    unfold Node.DistinctIds at hd
    exact (List.nodup_cons.mp (hids ▸ hd)).2
  exact find?_of_nodup_map hnodup ho

/-- Where identifiers are different, the owner of the node of an object is the cluster that the
object belongs to. -/
theorem Plan.owner?_nodeId
    (ht : t.unflagged = (Tree.build threshold clusters requested).unflagged)
    (hd : t.root.DistinctIds) {o : Target} (ho : o ∈ targets clusters) :
    owner? t (o.nodeId t.current) = some o.clusterId := by
  rw [owner?_congr ht, owner?_build, ← Tree.current_eq_of_unflagged ht, targetOf?_nodeId ht hd ho,
    Option.map_some]

/-- Whatever is chosen for a node and not ignored, a given object is asked for: by its cluster, its
kind, which is that of the node, and its name, with the chosen action and nothing entered yet. -/
def Tree.AsksFor (t : Tree) (n : Node) (o : Target) : Prop :=
  n.kind = o.kind ∧ ∀ a, Plan.of a n t ≠ .ignore →
    (Plan.of a n t).request? = some ⟨a, o.kind, o.id, o.clusterId, none⟩

/-- Where identifiers are different, the object is asked for that the node is known as. -/
theorem Tree.asksFor_of_face (ht : t.unflagged = (build threshold clusters requested).unflagged)
    (hd : t.root.DistinctIds) {n : Node} {o : Target} (ho : o ∈ targets clusters)
    (hface : n.face = o.face t.current) : t.AsksFor n o := by
  have hid : n.id = o.nodeId t.current := congrArg Face.nodeId hface
  have hkind : n.kind = o.kind := congrArg Face.kind hface
  have hname : Plan.targetId n = o.id := congrArg Face.id hface
  refine ⟨hkind, fun a hplan => ?_⟩
  obtain ⟨-, clusterId, howner, hrequest⟩ := Plan.of_ne_ignore hplan
  rw [hid, Plan.owner?_nodeId ht hd ho] at howner
  rw [hrequest, hkind, hname, Option.some.inj howner]

/-- **A request names the object at the place of its node.** Let a tree show a snapshot, with any
flags, and let its identifiers be different. The nodes below the root stand at the places of the
clusters, below these the nodes of their zones, and below these the nodes of their servers. Whatever
is chosen for one of them and not ignored, the request names the object at its place and the cluster
that this belongs to, be it the current one or not. -/
theorem Tree.requests_name_their_objects
    (ht : t.unflagged = (build threshold clusters requested).unflagged)
    (hd : t.root.DistinctIds) {i : Nat} {c : Cluster} (hc : clusters[i]? = some c) :
    ∃ cn, t.root.children[i]? = some cn ∧ t.AsksFor cn (.cluster c.id) ∧
      ∀ (j : Nat) (z : Zone), c.zones[j]? = some z →
        ∃ zn, cn.children[j]? = some zn ∧ t.AsksFor zn (.zone c.id z.name) ∧
          ∀ (k : Nat) (s : Server), z.servers[k]? = some s →
            ∃ sn, zn.children[k]? = some sn ∧ t.AsksFor sn (.server c.id s.id) := by
  have hcmem : c ∈ clusters := List.mem_of_getElem? hc
  have hcurrent : t.current = chooseCurrent clusters requested := current_eq_of_unflagged ht
  -- the node of the cluster, up to its flags
  have hroot : t.root.unflagged = (build threshold clusters requested).root.unflagged :=
    congrArg Tree.root ht
  obtain ⟨cn, hcn, hcflags⟩ := Node.exists_child_of_unflagged hroot (i := i) (by
    change (clusters.map _)[i]? = _
    rw [List.getElem?_map, hc, Option.map_some])
  refine ⟨cn, hcn, asksFor_of_face ht hd ?_ ?_, fun j z hz => ?_⟩
  · exact mem_targets.mpr ⟨c, hcmem, .inl rfl⟩
  · rw [Node.face_eq_of_unflagged hcflags, hcurrent]
    rfl
  -- the node of the zone
  have hzmem : z ∈ c.zones := List.mem_of_getElem? hz
  obtain ⟨zn, hzn, hzflags⟩ := Node.exists_child_of_unflagged hcflags (i := j) (by
    change (c.zones.mapIdx _)[j]? = _
    rw [List.getElem?_mapIdx, hz, Option.map_some])
  refine ⟨zn, hzn, asksFor_of_face ht hd ?_ ?_, fun k s hs => ?_⟩
  · exact mem_targets.mpr ⟨c, hcmem, .inr ⟨z, hzmem, .inl rfl⟩⟩
  · rw [Node.face_eq_of_unflagged hzflags, hcurrent]
    rfl
  -- the node of the server
  obtain ⟨sn, hsn, hsflags⟩ := Node.exists_child_of_unflagged hzflags (i := k) (by
    change (z.servers.map _)[k]? = _
    rw [List.getElem?_map, hs, Option.map_some])
  refine ⟨sn, hsn, asksFor_of_face ht hd ?_ ?_⟩
  · exact mem_targets.mpr
      ⟨c, hcmem, .inr ⟨z, hzmem, .inr ⟨s, List.mem_of_getElem? hs, rfl⟩⟩⟩
  · rw [Node.face_eq_of_unflagged hsflags, hcurrent]
    rfl

end

/-- A zone and a server of a cluster that is not current, which are called as a zone and a server of
the current one. -/
theorem Tree.requests_name_their_objects_other :
    let cluster := { Sample.cluster "c1" [1] .primary with id := "c2" }
    let clusters := [Sample.cluster "c1" [1] .primary, cluster]
    let t := build defaultThreshold clusters (some "c1")
    t.root.DistinctIds ∧ clusters[1]? = some cluster ∧
      ∃ cn zn sn, t.root.children[1]? = some cn ∧ cn.children[0]? = some zn ∧
        zn.children[0]? = some sn ∧
        (Plan.of .restart zn t).request? = some ⟨.restart, .zone, "zone1", "c2", none⟩ ∧
        (Plan.of .stopProcess sn t).request? =
          some ⟨.stopProcess, .server, "c1-z1-s1", "c2", none⟩ := by
  intro cluster clusters t
  have ht : t.unflagged = (build defaultThreshold clusters (some "c1")).unflagged := rfl
  have hd : t.root.DistinctIds := by decide +kernel
  have hc : clusters[1]? = some cluster := rfl
  obtain ⟨cn, hcn, -, hzones⟩ := requests_name_their_objects ht hd hc
  obtain ⟨zn, hzn, ⟨-, hzone⟩, hservers⟩ := hzones 0 _ rfl
  obtain ⟨sn, hsn, -, hserver⟩ := hservers 0 _ rfl
  -- both menus offer what is chosen
  have hrestart : ((t.root.children[1]?.bind (·.children[0]?)).map
      fun n => (Plan.of .restart n t).request?.isSome) = some true := by decide +kernel
  have hstop : (((t.root.children[1]?.bind (·.children[0]?)).bind (·.children[0]?)).map
      fun n => (Plan.of .stopProcess n t).request?.isSome) = some true := by decide +kernel
  rw [hcn, Option.bind_some, hzn, Option.map_some] at hrestart
  rw [hcn, Option.bind_some, hzn, Option.bind_some, hsn, Option.map_some] at hstop
  exact ⟨hd, hc, cn, zn, sn, hcn, hzn, hsn,
    hzone .restart (Plan.ne_ignore_of_request? (Option.some.inj hrestart)),
    hserver .stopProcess (Plan.ne_ignore_of_request? (Option.some.inj hstop))⟩

end ClusterMap
