import ClusterMap.Proofs.Tree.Flags
import ClusterMap.Task.Plan
import ClusterMap.Tree.Build

/-!
# What a request is about

A request names an object of the snapshot (`Target`): a cluster, or a zone or a server of a cluster.
The screen knows the same object by the identifier of its node, which hangs on the cluster that is
current (`Target.nodeId`).

The nodes below the root of a built tree stand for the targets of the snapshot one by one, in
pre-order (`Tree.map_face_build`). Hence a plan that comes to a request is about the first target
with the identifier of the node (`Plan.exists_request`), for every tree that is the built one up to
its flags. Which object that is does not hang on how the tree was built, only on what it looks like
(`Snapshot.targetOf?_congr`).
-/

namespace ClusterMap

open Snapshot

/-- An object that a request can be about. -/
inductive Target where
  | cluster (id : String)
  | zone (clusterId name : String)
  | server (clusterId id : String)
deriving DecidableEq, Repr

namespace Target

/-- The cluster that the object belongs to. -/
def clusterId : Target → String
  | .cluster id => id
  | .zone clusterId _ | .server clusterId _ => clusterId

/-- What the object is. -/
def kind : Target → Kind
  | .cluster _ => .cluster
  | .zone _ _ => .zone
  | .server _ _ => .server

/-- The name by which the task service knows the object in its cluster. -/
def id : Target → String
  | .cluster id => id
  | .zone _ name => name
  | .server _ id => id

/-- The identifier of the node that stands for the object, if a given cluster is current. -/
def nodeId (current : Option String) : Target → String
  | .cluster id => id
  | .zone clusterId name => Tree.zoneId clusterId (current == some clusterId) name
  | .server clusterId id => Tree.serverId clusterId (current == some clusterId) id

/-- An object is known by its cluster, its kind and its name. -/
theorem ext {t t' : Target} (hc : t.clusterId = t'.clusterId) (hk : t.kind = t'.kind)
    (hi : t.id = t'.id) : t = t' := by
  cases t <;> cases t' <;> simp_all [clusterId, kind, id]

end Target

/-- The objects of a zone, in the order of their nodes. -/
def Snapshot.Zone.targets (clusterId : String) (z : Zone) : List Target :=
  .zone clusterId z.name :: z.servers.map fun s => .server clusterId s.id

/-- The objects of a cluster, in the order of their nodes. -/
def Snapshot.Cluster.targets (c : Cluster) : List Target :=
  .cluster c.id :: c.zones.flatMap (·.targets c.id)

/-- The objects of a snapshot, in the order of their nodes. -/
def Snapshot.targets (clusters : List Cluster) : List Target := clusters.flatMap (·.targets)

theorem Snapshot.targets_cons (c : Cluster) (rest : List Cluster) :
    targets (c :: rest) = c.targets ++ targets rest := rfl

/-- The object that a node identifier stands for, if a given cluster is current: of several the
first. -/
def Snapshot.targetOf? (clusters : List Cluster) (current : Option String) (nodeId : String) :
    Option Target :=
  (targets clusters).find? (·.nodeId current == nodeId)

/-! ### Node identifiers -/

namespace Tree

/-- A zone has different identifiers inside and outside the current cluster. -/
theorem zoneId_inj {clusterId name : String} {b b' : Bool} :
    zoneId clusterId b name = zoneId clusterId b' name ↔ b = b' := by
  -- the longer text is not the shorter one, whatever the names are
  have hne : name ≠ s!"{clusterId}/{name}" := by
    intro h
    have hlen := congrArg String.length h
    have hslash : "/".length = 1 := rfl
    simp only [String.length_append, toString] at hlen
    omega
  cases b <;> cases b' <;> simp [zoneId, hne, hne.symm]

/-- A server has different identifiers inside and outside the current cluster. -/
theorem serverId_inj {clusterId id : String} {b b' : Bool} :
    serverId clusterId b id = serverId clusterId b' id ↔ b = b' := by
  have hne : s!"server:{id}" ≠ s!"server:{clusterId}/{id}" := by
    intro h
    have hlen := congrArg String.length h
    have hslash : "/".length = 1 := rfl
    simp only [String.length_append, toString] at hlen
    omega
  cases b <;> cases b' <;> simp [serverId, hne, hne.symm]

end Tree

/-- An object keeps its node identifier exactly as long as its cluster stays current, or stays not
current; a cluster keeps it always. -/
theorem Target.nodeId_eq_iff {t : Target} {current current' : Option String} :
    t.nodeId current = t.nodeId current' ↔
      t.kind = .cluster ∨ (current = some t.clusterId ↔ current' = some t.clusterId) := by
  have hbeq : ∀ id : String, (current == some id) = (current' == some id) ↔
      (current = some id ↔ current' = some id) := by
    intro id
    rw [Bool.eq_iff_iff, beq_iff_eq, beq_iff_eq]
  cases t with
  | cluster id => simp [nodeId, kind]
  | zone clusterId name => simp [nodeId, kind, Target.clusterId, Tree.zoneId_inj, hbeq]
  | server clusterId id => simp [nodeId, kind, Target.clusterId, Tree.serverId_inj, hbeq]

/-! ### Nodes and objects -/

/-- How a node is known, on the screen and to the task service. -/
structure Face where
  nodeId : String
  kind : Kind
  id : String

/-- How a node is known. -/
def Node.face (n : Node) : Face := ⟨n.id, n.kind, Plan.targetId n⟩

/-- How the node of an object is known, if a given cluster is current. -/
def Target.face (current : Option String) (t : Target) : Face := ⟨t.nodeId current, t.kind, t.id⟩

namespace Tree

variable (current : Option String)

/-- Servers have nothing below them. -/
theorem descendantsOf_map_serverNode (clusterId : String) (isCurrent : Bool)
    (servers : List Server) : Node.descendantsOf (servers.map (serverNode clusterId isCurrent)) =
      servers.map (serverNode clusterId isCurrent) := by
  induction servers with
  | nil => rfl
  | cons s rest ih =>
    rw [List.map_cons, Node.descendantsOf, ih]
    rfl

/-- The nodes of a zone stand for its objects. -/
theorem map_face_zoneNode (clusterId : String) (collapsed : Bool) (z : Zone) :
    (zoneNode clusterId (current == some clusterId) collapsed z).descendants.map Node.face =
      (z.targets clusterId).map (Target.face current) := by
  rw [zoneNode, Node.descendants, descendantsOf_map_serverNode, Zone.targets, List.map_cons,
    List.map_cons, List.map_map, List.map_map]
  rfl

theorem map_face_zoneNodes (clusterId : String) (zones : List Zone)
    (collapsed : Nat → Zone → Bool) :
    (Node.descendantsOf (zones.mapIdx fun index z =>
      zoneNode clusterId (current == some clusterId) (collapsed index z) z)).map Node.face =
      (zones.flatMap (·.targets clusterId)).map (Target.face current) := by
  induction zones generalizing collapsed with
  | nil => rfl
  | cons z rest ih =>
    rw [List.mapIdx_cons, Node.descendantsOf, List.map_append, map_face_zoneNode,
      ih fun index => collapsed (index + 1), List.flatMap_cons, List.map_append]

/-- The nodes of a cluster stand for its objects. -/
theorem map_face_clusterNode (threshold : Nat) (saveRoom : Bool) (c : Cluster) :
    (clusterNode threshold saveRoom (current == some c.id) c).descendants.map Node.face =
      c.targets.map (Target.face current) := by
  rw [clusterNode, Node.descendants, List.map_cons, map_face_zoneNodes, Cluster.targets,
    List.map_cons]
  rfl

/-- The nodes of several clusters stand for their objects. -/
theorem map_face_clusterNodes (threshold : Nat) (saveRoom : Bool) (clusters : List Cluster) :
    (Node.descendantsOf (clusters.map fun c =>
      clusterNode threshold saveRoom (current == some c.id) c)).map Node.face =
      (targets clusters).map (Target.face current) := by
  induction clusters with
  | nil => rfl
  | cons c rest ih =>
    rw [List.map_cons, Node.descendantsOf, List.map_append, map_face_clusterNode, ih, targets_cons,
      List.map_append]

/-- Nodes that stand for objects one by one are found where the objects are found. -/
theorem map_face_find? {current : Option String} {ns : List Node} {ts : List Target}
    (h : ns.map Node.face = ts.map (Target.face current)) (id : String) :
    (ns.find? (·.id == id)).map Node.face =
      (ts.find? (·.nodeId current == id)).map (Target.face current) := by
  have hfaces : (ns.map Node.face).find? (·.nodeId == id) =
      (ts.map (Target.face current)).find? (·.nodeId == id) := by rw [h]
  rw [List.find?_map, List.find?_map] at hfaces
  exact hfaces

/-- **The nodes of a built tree stand for the objects of the snapshot**, those below the root. -/
theorem map_face_build (threshold : Nat) (clusters : List Cluster) (requested : Option String) :
    let t := build threshold clusters requested
    t.root.descendants.map Node.face =
      ⟨rootId, .root, ""⟩ :: (targets clusters).map (Target.face t.current) := by
  intro t
  change (Node.descendants (.mk _ _)).map _ = _
  rw [Node.descendants, List.map_cons, map_face_clusterNodes]
  rfl

/-- A search in a built tree finds the node of the first object with the identifier. -/
theorem map_face_find?_build (threshold : Nat) (clusters : List Cluster)
    (requested : Option String) {id : String} (hid : id ≠ rootId) :
    let t := build threshold clusters requested
    (t.find? id).map Node.face = (targetOf? clusters t.current id).map (Target.face t.current) := by
  intro t
  have hfaces := congrArg (List.find? (·.nodeId == id))
    (map_face_build threshold clusters requested)
  rw [List.find?_cons_of_neg (by simpa using hid.symm), List.find?_map, List.find?_map] at hfaces
  rw [find?, Node.find?_eq]
  exact hfaces

/-- The objects of a cluster belong to it. -/
theorem clusterId_of_mem_targets {c : Cluster} {o : Target} (h : o ∈ c.targets) :
    o.clusterId = c.id := by
  rcases List.mem_cons.mp h with rfl | h
  · rfl
  · obtain ⟨z, -, h⟩ := List.mem_flatMap.mp h
    rcases List.mem_cons.mp h with rfl | h
    · rfl
    · obtain ⟨s, -, rfl⟩ := List.mem_map.mp h
      rfl

end Tree

namespace Plan

/-- The owner of a node is the cluster of the first object with its identifier. -/
theorem owner?_clusterNodes (threshold : Nat) (saveRoom : Bool) (current : Option String)
    (clusters : List Cluster) (i : NodeInfo) (id : String) :
    owner? ⟨⟨i, clusters.map fun c => Tree.clusterNode threshold saveRoom (current == some c.id) c⟩,
      current⟩ id = (targetOf? clusters current id).map Target.clusterId := by
  induction clusters with
  | nil => rfl
  | cons c rest ih =>
    -- the identifier occurs below the cluster exactly if one of its objects has it
    have hfind := Tree.map_face_find? (Tree.map_face_clusterNode current threshold saveRoom c) id
    have hcons : targetOf? (c :: rest) current id =
        (c.targets.find? (·.nodeId current == id)).or (targetOf? rest current id) := by
      rw [targetOf?, targets_cons, List.find?_append]
      rfl
    rw [← Node.find?_eq] at hfind
    unfold owner? at ih ⊢
    rw [hcons, Node.children_mk, List.map_cons]
    cases ho : c.targets.find? (·.nodeId current == id) with
    | some o =>
      have hsome := congrArg Option.isSome hfind
      rw [ho, Option.isSome_map] at hsome
      rw [List.find?_cons_of_pos (p := fun n : Node => (n.find? id).isSome) hsome, Option.some_or,
        Option.map_some, Tree.clusterId_of_mem_targets (List.mem_of_find?_eq_some ho)]
      rfl
    | none =>
      rw [ho, Option.map_none, Option.map_eq_none_iff] at hfind
      rw [List.find?_cons_of_neg (by rw [hfind]; simp), Option.none_or]
      exact ih

theorem owner?_build (threshold : Nat) (clusters : List Cluster) (requested : Option String)
    (id : String) :
    let t := Tree.build threshold clusters requested
    owner? t id = (targetOf? clusters t.current id).map Target.clusterId :=
  owner?_clusterNodes threshold _ _ clusters _ id

end Plan

/-! ### Trees with other flags -/

theorem Node.face_unflagged (n : Node) : n.unflagged.face = n.face := by
  obtain ⟨i, cs⟩ := n
  rfl

theorem Node.map_face_descendants_unflagged (n : Node) :
    n.unflagged.descendants.map Node.face = n.descendants.map Node.face := by
  rw [unflagged, descendants_mapInfo, List.map_map]
  exact List.map_congr_left fun m _ => m.face_unflagged

/-- How the found node is known does not hang on the flags. -/
theorem Tree.map_face_find?_congr {t t' : Tree} (h : t.unflagged = t'.unflagged) (id : String) :
    (t.find? id).map Node.face = (t'.find? id).map Node.face := by
  have hun : ∀ t : Tree, (t.unflagged.find? id).map Node.face = (t.find? id).map Node.face := by
    intro t
    have hfind : t.unflagged.find? id = (t.find? id).map Node.unflagged :=
      Node.find?_unflagged id t.root
    rw [hfind, Option.map_map]
    exact Option.map_congr fun n _ => n.face_unflagged
  rw [← hun t, h, hun t']

/-- The owner of a node does not hang on the flags. -/
theorem Plan.owner?_congr {t t' : Tree} (h : t.unflagged = t'.unflagged) (id : String) :
    owner? t id = owner? t' id := by
  have hun : ∀ t : Tree, owner? t.unflagged id = owner? t id := by
    rintro ⟨⟨i, cs⟩, current⟩
    have hsome : ((fun n : Node => (n.find? id).isSome) ∘ Node.mapInfo NodeInfo.unflagged) =
        fun n : Node => (n.find? id).isSome := by
      funext n
      change (n.unflagged.find? id).isSome = _
      rw [Node.find?_unflagged, Option.isSome_map]
    unfold owner?
    change ((Node.mapInfoOf NodeInfo.unflagged cs).find? _).bind _ = (cs.find? _).bind _
    rw [Node.mapInfoOf_eq_map, List.find?_map, hsome, Option.bind_map]
    congr 1
    funext n
    obtain ⟨j, ds⟩ := n
    rfl
  rw [← hun t, h, hun t']

/-- What the node identifiers stand for can be read off the tree, and does not hang on the flags. -/
theorem Snapshot.targetOf?_congr {threshold : Nat} {clusters clusters' : List Cluster}
    {requested : Option String}
    (h : (Tree.build threshold clusters requested).unflagged =
      (Tree.build threshold clusters' requested).unflagged) (id : String) :
    let current := (Tree.build threshold clusters requested).current
    targetOf? clusters current id = targetOf? clusters' current id := by
  intro current
  have hcurrent := congrArg Tree.current h
  change current = (Tree.build threshold clusters' requested).current at hcurrent
  have howner := Plan.owner?_congr h id
  rw [Plan.owner?_build, Plan.owner?_build, ← hcurrent] at howner
  -- the objects of both snapshots are known alike, one by one
  have hfaces : (targets clusters).map (Target.face current) =
      (targets clusters').map (Target.face current) := by
    have hroot := congrArg (fun t => List.map Node.face t.root.descendants) h
    change (Node.unflagged _).descendants.map _ = (Node.unflagged _).descendants.map _ at hroot
    rw [Node.map_face_descendants_unflagged, Node.map_face_descendants_unflagged,
      Tree.map_face_build, Tree.map_face_build, ← hcurrent] at hroot
    exact (List.cons.inj hroot).2
  have hface : (targetOf? clusters current id).map (Target.face current) =
      (targetOf? clusters' current id).map (Target.face current) := by
    have hfind := congrArg (List.find? (·.nodeId == id)) hfaces
    rw [List.find?_map, List.find?_map] at hfind
    exact hfind
  -- how it is known leaves the cluster of an object open; that one is the owner of its node
  cases ho : targetOf? clusters current id with
  | none =>
    rw [ho, Option.map_none, eq_comm, Option.map_eq_none_iff] at hface
    exact hface.symm
  | some o =>
    rw [ho, Option.map_some, eq_comm] at hface howner
    obtain ⟨o', ho', hface⟩ := Option.map_eq_some_iff.mp hface
    rw [ho', Option.map_some] at howner
    rw [ho', Target.ext (Option.some.inj howner) (congrArg Face.kind hface)
      (congrArg Face.id hface)]

/-! ### Requests -/

/-- A request is about an object. -/
structure Request.Addresses (r : Request) (o : Target) : Prop where
  clusterId : r.clusterId = o.clusterId
  kind : r.targetKind = o.kind
  id : r.targetId = o.id

/-- A request is about no more than one object. -/
theorem Request.Addresses.unique {r : Request} {o o' : Target} (h : r.Addresses o)
    (h' : r.Addresses o') : o = o' :=
  Target.ext (h.clusterId.symm.trans h'.clusterId) (h.kind.symm.trans h'.kind)
    (h.id.symm.trans h'.id)

namespace Plan

/-- The request that a plan leads to. -/
def request? : Plan → Option Request
  | .openDialog _ r | .confirm _ r => some r
  | .ignore => none

theorem ne_ignore_of_request? {p : Plan} (h : p.request?.isSome) : p ≠ .ignore := by
  rintro rfl
  cases h

/-- The menu of the root offers nothing. -/
theorem not_offers_root {n : Node} (h : n.kind = .root) (isCurrent : Bool) (a : Action) :
    offers (Menu.ofNode n isCurrent) a = false := by
  unfold Menu.ofNode
  rw [h]
  simp [offers, Menu.finish, MenuItem.disabled, MenuEntry.item?]

/-- What a plan that is not ignored asks for. -/
theorem of_ne_ignore {a : Action} {n : Node} {t : Tree} (h : Plan.of a n t ≠ .ignore) :
    n.kind ≠ .root ∧ ∃ clusterId, owner? t n.id = some clusterId ∧
      (Plan.of a n t).request? = some ⟨a, n.kind, targetId n, clusterId, none⟩ := by
  unfold Plan.of at h ⊢
  cases howner : owner? t n.id with
  | none => rw [howner] at h; exact absurd rfl h
  | some clusterId =>
    rw [howner] at h
    dsimp only at h ⊢
    by_cases hoffers : offers (Menu.ofNode n (n.kind == .cluster && t.isCurrent clusterId)) a
    · refine ⟨fun hroot => ?_, clusterId, rfl, ?_⟩
      · rw [not_offers_root hroot] at hoffers
        exact absurd hoffers (by simp)
      · rw [if_pos hoffers]
        cases Dialog.ofAction? a <;> rfl
    · rw [if_neg hoffers] at h
      exact absurd rfl h

/-- **What a plan is about.** In a tree that is built from a snapshot, up to its flags, a plan that
is not ignored asks for the first object whose node has the identifier. -/
theorem exists_request {t : Tree} {threshold : Nat} {clusters : List Cluster}
    {requested : Option String}
    (ht : t.unflagged = (Tree.build threshold clusters requested).unflagged)
    {a : Action} {id : String} {node : Node} (hnode : t.find? id = some node)
    (hplan : Plan.of a node t ≠ .ignore) :
    ∃ o r, targetOf? clusters t.current id = some o ∧ (Plan.of a node t).request? = some r ∧
      r.Addresses o := by
  obtain ⟨hroot, clusterId, howner, hrequest⟩ := of_ne_ignore hplan
  have hcurrent := congrArg Tree.current ht
  change t.current = (Tree.build threshold clusters requested).current at hcurrent
  -- the owner gives the object
  have hid : node.id = id := Node.id_of_find? hnode
  rw [hid, owner?_congr ht, owner?_build, ← hcurrent] at howner
  obtain ⟨o, ho, rfl⟩ := Option.map_eq_some_iff.mp howner
  refine ⟨o, _, ho, hrequest, ?_⟩
  -- the node that is found is known as the object is
  have hface := Tree.map_face_find?_congr ht id
  rw [hnode, Option.map_some] at hface
  -- the identifier is not that of the root, for whose menu nothing is asked
  have hne : id ≠ Tree.rootId := by
    rintro rfl
    have hkind : node.face.kind = .root := congrArg Face.kind (Option.some.inj hface)
    exact hroot hkind
  rw [Tree.map_face_find?_build threshold clusters requested hne, ← hcurrent, ho] at hface
  have hface := Option.some.inj hface
  exact ⟨rfl, congrArg Face.kind hface, congrArg Face.id hface⟩

end Plan

end ClusterMap
