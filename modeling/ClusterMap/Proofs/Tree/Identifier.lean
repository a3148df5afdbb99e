import ClusterMap.Proofs.Task.Target
import ClusterMap.Snapshot.Sample
import Mathlib.Data.List.Nodup

/-!
# Identifiers of nodes

Objects of a snapshot are told apart by their kinds, their clusters and their names
(`Snapshot.nodup_targets`), but the identifiers of their nodes are mere texts: a name, with the
identifier of a cluster or a mark of servers in front or not. Objects of the same kind in the same
cluster never share an identifier (`Target.eq_of_nodeId_eq`). Objects of different kinds or of
different clusters may, and the identifiers of a tree are different exactly if this does not happen
(`Snapshot.Unambiguous`).

It does not happen where names are plain, that is, where they hold nothing that could be taken for
what is put in front of names elsewhere, and no zone of the current cluster is called as a cluster
is (`Snapshot.PlainNames.unambiguous`). An identifier then tells what it is the identifier of: a
server if it has the mark, and something outside the current cluster if it has a slash, before which
stands the cluster (`Target.marked_iff`, `Target.slash_mem_iff`, `Target.takeWhile_nodeId`).
-/

namespace ClusterMap

namespace Snapshot

/-- Clusters have different identifiers, and within a cluster zones have different names and servers
have different identifiers. -/
structure DistinctNames (clusters : List Cluster) : Prop where
  clusterIds : (clusters.map Cluster.id).Nodup
  zoneNames : ∀ c ∈ clusters, (c.zones.map Zone.name).Nodup
  serverIds : ∀ c ∈ clusters, ((c.zones.flatMap Zone.servers).map Server.id).Nodup

/-- If a given cluster is current, objects of different kinds and objects of different clusters have
different node identifiers, and none has that of the root. -/
structure Unambiguous (clusters : List Cluster) (current : Option String) : Prop where
  root : ∀ o ∈ targets clusters, o.nodeId current ≠ Tree.rootId
  kinds : ∀ o ∈ targets clusters, ∀ o' ∈ targets clusters, o.kind ≠ o'.kind →
    o.nodeId current ≠ o'.nodeId current
  scopes : ∀ o ∈ targets clusters, ∀ o' ∈ targets clusters, o.clusterId ≠ o'.clusterId →
    o.nodeId current ≠ o'.nodeId current

instance (clusters : List Cluster) : Decidable (DistinctNames clusters) :=
  decidable_of_iff
    ((clusters.map Cluster.id).Nodup ∧ (∀ c ∈ clusters, (c.zones.map Zone.name).Nodup) ∧
      ∀ c ∈ clusters, ((c.zones.flatMap Zone.servers).map Server.id).Nodup)
    ⟨fun h => ⟨h.1, h.2.1, h.2.2⟩, fun h => ⟨h.1, h.2, h.3⟩⟩

/-! ### Objects -/

theorem mem_targets {clusters : List Cluster} {o : Target} : o ∈ targets clusters ↔
    ∃ c ∈ clusters, o = .cluster c.id ∨ ∃ z ∈ c.zones, o = .zone c.id z.name ∨
      ∃ s ∈ z.servers, o = .server c.id s.id := by
  simp only [targets, Cluster.targets, Zone.targets, List.mem_flatMap, List.mem_cons, List.mem_map,
    eq_comm]

theorem exists_clusterId_eq {clusters : List Cluster} {o : Target} (h : o ∈ targets clusters) :
    ∃ c ∈ clusters, o.clusterId = c.id := by
  obtain ⟨c, hc, ho⟩ := List.mem_flatMap.mp h
  exact ⟨c, hc, Tree.clusterId_of_mem_targets ho⟩

theorem Zone.mem_targets {clusterId : String} {z : Zone} {o : Target} :
    o ∈ z.targets clusterId ↔
      o = .zone clusterId z.name ∨ ∃ id ∈ z.servers.map Server.id, o = .server clusterId id := by
  simp [Zone.targets, eq_comm]

theorem Zone.nodup_targets (clusterId : String) {z : Zone}
    (h : (z.servers.map Server.id).Nodup) : (z.targets clusterId).Nodup := by
  refine List.nodup_cons.mpr ⟨by simp, ?_⟩
  -- the list of the servers' identifiers, each made into an object
  have hmap : z.servers.map (fun s => Target.server clusterId s.id) =
      (z.servers.map Server.id).map (Target.server clusterId) := by rw [List.map_map]; rfl
  rw [hmap]
  exact h.map fun _ _ heq => (Target.server.inj heq).2

theorem Cluster.nodup_targets {c : Cluster} (hzones : (c.zones.map Zone.name).Nodup)
    (hservers : ((c.zones.flatMap Zone.servers).map Server.id).Nodup) : c.targets.Nodup := by
  rw [List.map_flatMap, List.nodup_flatMap] at hservers
  refine List.nodup_cons.mpr ⟨?_, List.nodup_flatMap.mpr ⟨fun z hz => ?_, ?_⟩⟩
  · -- below the cluster there is no cluster
    intro h
    obtain ⟨z, -, hz⟩ := List.mem_flatMap.mp h
    obtain h | ⟨_, -, h⟩ := Zone.mem_targets.mp hz <;> cases h
  · exact Zone.nodup_targets c.id (hservers.1 z hz)
  · -- two zones differ in name, and no server is in both
    refine ((List.pairwise_map.mp hzones).and hservers.2).imp ?_
    rintro z z' ⟨hname, hdisjoint⟩ o ho ho'
    rcases Zone.mem_targets.mp ho with rfl | ⟨id, hid, rfl⟩
    · obtain h | ⟨_, -, h⟩ := Zone.mem_targets.mp ho'
      · exact hname (Target.zone.inj h).2
      · cases h
    · obtain h | ⟨id', hid', h⟩ := Zone.mem_targets.mp ho'
      · cases h
      · cases h
        exact hdisjoint hid hid'

/-- **No object is listed twice** where names are different. -/
theorem nodup_targets {clusters : List Cluster} (h : DistinctNames clusters) :
    (targets clusters).Nodup := by
  refine List.nodup_flatMap.mpr
    ⟨fun c hc => Cluster.nodup_targets (h.zoneNames c hc) (h.serverIds c hc), ?_⟩
  -- an object that two clusters list belongs to both
  refine (List.pairwise_map.mp h.clusterIds).imp fun {c c'} hid o ho ho' => hid ?_
  rw [← Tree.clusterId_of_mem_targets ho, ← Tree.clusterId_of_mem_targets ho']

end Snapshot

/-! ### Texts of identifiers -/

namespace Tree

/-- What stands in front of the identifiers of servers. -/
def serverMark : String := "server:"

theorem toList_zoneId_other (clusterId name : String) :
    (zoneId clusterId false name).toList = clusterId.toList ++ '/' :: name.toList := by
  change (clusterId ++ "/" ++ name).toList = _
  rw [String.toList_append, String.toList_append, List.append_assoc]
  rfl

theorem toList_serverId_current (clusterId id : String) :
    (serverId clusterId true id).toList = serverMark.toList ++ id.toList := by
  change ("server:" ++ id).toList = _
  rw [String.toList_append, serverMark]

theorem toList_serverId_other (clusterId id : String) :
    (serverId clusterId false id).toList =
      serverMark.toList ++ (clusterId.toList ++ '/' :: id.toList) := by
  change ("server:" ++ clusterId ++ "/" ++ id).toList = _
  rw [String.toList_append, String.toList_append, String.toList_append, List.append_assoc,
    List.append_assoc, serverMark]
  rfl

theorem zoneId_name_inj {clusterId name name' : String} {b : Bool} :
    zoneId clusterId b name = zoneId clusterId b name' ↔ name = name' := by
  cases b with
  | true => rfl
  | false => simp [← String.toList_inj, toList_zoneId_other]

theorem serverId_id_inj {clusterId id id' : String} {b : Bool} :
    serverId clusterId b id = serverId clusterId b id' ↔ id = id' := by
  cases b with
  | true => simp [← String.toList_inj, toList_serverId_current]
  | false => simp [← String.toList_inj, toList_serverId_other]

end Tree

/-- **Objects of the same kind in the same cluster are told apart by their node identifiers.** -/
theorem Target.eq_of_nodeId_eq {current : Option String} {o o' : Target} (hk : o.kind = o'.kind)
    (hc : o.clusterId = o'.clusterId) (h : o.nodeId current = o'.nodeId current) : o = o' := by
  refine ext hc hk ?_
  cases o <;> cases o' <;> cases hk <;> cases hc
  case cluster => rfl
  case zone => exact Tree.zoneId_name_inj.mp h
  case server => exact Tree.serverId_id_inj.mp h

/-! ### Plain names -/

/-- A text in which nothing is taken for what stands in front of names. -/
def IsPlain (name : String) : Prop := '/' ∉ name.toList ∧ ¬ Tree.serverMark.toList <+: name.toList

instance : DecidablePred IsPlain := fun _ => inferInstanceAs (Decidable (_ ∧ _))

/-- If a given cluster is current, the identifiers of clusters and the names of its zones are plain
and none of them is that of the root, its zones are not called as clusters are, and the identifiers
of its servers have no slash. -/
structure Snapshot.PlainNames (clusters : List Cluster) (current : Option String) : Prop where
  clusterIds : ∀ c ∈ clusters, IsPlain c.id ∧ c.id ≠ Tree.rootId
  zoneNames : ∀ c ∈ clusters, current = some c.id → ∀ z ∈ c.zones,
    IsPlain z.name ∧ z.name ≠ Tree.rootId ∧ ∀ c' ∈ clusters, z.name ≠ c'.id
  serverIds : ∀ c ∈ clusters, current = some c.id → ∀ z ∈ c.zones, ∀ s ∈ z.servers,
    '/' ∉ s.id.toList

instance (clusters : List Snapshot.Cluster) (current : Option String) :
    Decidable (Snapshot.PlainNames clusters current) :=
  decidable_of_iff
    ((∀ c ∈ clusters, IsPlain c.id ∧ c.id ≠ Tree.rootId) ∧
      (∀ c ∈ clusters, current = some c.id → ∀ z ∈ c.zones,
        IsPlain z.name ∧ z.name ≠ Tree.rootId ∧ ∀ c' ∈ clusters, z.name ≠ c'.id) ∧
      ∀ c ∈ clusters, current = some c.id → ∀ z ∈ c.zones, ∀ s ∈ z.servers, '/' ∉ s.id.toList)
    ⟨fun h => ⟨h.1, h.2.1, h.2.2⟩, fun h => ⟨h.1, h.2, h.3⟩⟩

/-- What starts a text up to a mark and does not hold the mark starts what stands before it. -/
private theorem isPrefix_of_append_cons {α : Type} {p a b : List α} {x : α}
    (h : p <+: a ++ x :: b) (hx : x ∉ p) : p <+: a := by
  rcases List.prefix_or_prefix_of_prefix h (List.prefix_append a _) with hp | ⟨t, rfl⟩
  · exact hp
  · -- what is left over starts with the mark, or there is nothing left over
    rw [List.prefix_append_right_inj] at h
    cases t with
    | nil => simp
    | cons y t =>
      obtain ⟨rfl, -⟩ := List.cons_prefix_cons.mp h
      simp at hx

namespace Target

/-- The texts that make up the node identifier of an object are plain. -/
def HasPlainNames (current : Option String) : Target → Prop
  | .cluster id => IsPlain id
  | .zone clusterId name => IsPlain clusterId ∧ (current = some clusterId → IsPlain name)
  | .server clusterId id => IsPlain clusterId ∧ (current = some clusterId → '/' ∉ id.toList)

variable {current : Option String} {o : Target}

theorem toList_nodeId_zone (c name : String) : ((zone c name).nodeId current).toList =
    if current = some c then name.toList else c.toList ++ '/' :: name.toList := by
  change (Tree.zoneId c (current == some c) name).toList = _
  by_cases h : current = some c
  · rw [if_pos h, beq_iff_eq.mpr h]
    rfl
  · rw [if_neg h, beq_eq_false_iff_ne.mpr h, Tree.toList_zoneId_other]

theorem toList_nodeId_server (c id : String) : ((server c id).nodeId current).toList =
    Tree.serverMark.toList ++
      if current = some c then id.toList else c.toList ++ '/' :: id.toList := by
  change (Tree.serverId c (current == some c) id).toList = _
  by_cases h : current = some c
  · rw [if_pos h, beq_iff_eq.mpr h, Tree.toList_serverId_current]
  · rw [if_neg h, beq_eq_false_iff_ne.mpr h, Tree.toList_serverId_other]

/-- The identifiers of servers have the mark, and no others. -/
theorem marked_iff (h : o.HasPlainNames current) :
    Tree.serverMark.toList <+: (o.nodeId current).toList ↔ o.kind = .server := by
  cases o with
  | cluster c => exact iff_of_false h.2 (by simp [kind])
  | zone c name =>
    refine iff_of_false ?_ (by simp [kind])
    rw [toList_nodeId_zone]
    by_cases hc : current = some c
    · rw [if_pos hc]
      exact (h.2 hc).2
    · -- the mark has no slash, so it would stand in front of the identifier of the cluster
      rw [if_neg hc]
      exact fun hp => h.1.2 (isPrefix_of_append_cons hp (by decide))
  | server c id => simp [toList_nodeId_server, kind]

/-- The identifiers of zones and servers outside the current cluster have a slash, and no others. -/
theorem slash_mem_iff (h : o.HasPlainNames current) :
    '/' ∈ (o.nodeId current).toList ↔ o.kind ≠ .cluster ∧ current ≠ some o.clusterId := by
  have hmark : '/' ∉ Tree.serverMark.toList := by decide
  cases o with
  | cluster c => exact iff_of_false h.1 (by simp [kind])
  | zone c name =>
    rw [toList_nodeId_zone]
    by_cases hc : current = some c
    · simp [hc, (h.2 hc).1, clusterId]
    · simp [hc, kind, clusterId]
  | server c id =>
    rw [toList_nodeId_server]
    by_cases hc : current = some c
    · simp [hc, h.2 hc, hmark, clusterId]
    · simp [hc, kind, clusterId]

/-- Without a slash, an identifier is that of a cluster or of something in the current one. -/
theorem current_of_slash_not_mem (h : o.HasPlainNames current) (hkind : o.kind ≠ .cluster)
    (hslash : '/' ∉ (o.nodeId current).toList) : current = some o.clusterId := by
  by_contra hother
  exact hslash ((slash_mem_iff h).mpr ⟨hkind, hother⟩)

/-- The first part of an identifier with a slash is that of the cluster, with the mark in front if
it is the identifier of a server. -/
theorem takeWhile_nodeId (h : o.HasPlainNames current) (hslash : '/' ∈ (o.nodeId current).toList) :
    (o.nodeId current).toList.takeWhile (· != '/') =
      (if o.kind = .server then Tree.serverMark.toList else []) ++ o.clusterId.toList := by
  obtain ⟨hkind, hother⟩ := (slash_mem_iff h).mp hslash
  have hclear : ∀ {l : List Char}, '/' ∉ l → ∀ x ∈ l, (x != '/') = true := by
    intro l hl x hx
    exact bne_iff_ne.mpr fun heq => hl (heq ▸ hx)
  cases o with
  | cluster c => exact absurd rfl hkind
  | zone c name =>
    have hc : current ≠ some c := hother
    rw [toList_nodeId_zone, if_neg hc, List.takeWhile_append_of_pos (hclear h.1.1)]
    simp [kind, clusterId]
  | server c id =>
    have hc : current ≠ some c := hother
    rw [toList_nodeId_server, if_neg hc, List.takeWhile_append_of_pos (hclear (by decide)),
      List.takeWhile_append_of_pos (hclear h.1.1)]
    simp [kind, clusterId]

end Target

namespace Snapshot

variable {clusters : List Cluster} {current : Option String}

namespace PlainNames

theorem hasPlainNames (h : PlainNames clusters current) {o : Target} (ho : o ∈ targets clusters) :
    o.HasPlainNames current := by
  obtain ⟨c, hc, rfl | ⟨z, hz, rfl | ⟨s, hs, rfl⟩⟩⟩ := mem_targets.mp ho
  · exact (h.clusterIds c hc).1
  · exact ⟨(h.clusterIds c hc).1, fun hcurrent => (h.zoneNames c hc hcurrent z hz).1⟩
  · exact ⟨(h.clusterIds c hc).1, fun hcurrent => h.serverIds c hc hcurrent z hz s hs⟩

/-- An identifier with neither mark nor slash is that of a cluster, or that of a zone of the current
one and not called as any cluster is; it is not that of the root. -/
theorem nodeId_of_unmarked (h : PlainNames clusters current) {o : Target}
    (ho : o ∈ targets clusters) (hmark : o.kind ≠ .server)
    (hslash : '/' ∉ (o.nodeId current).toList) : o.nodeId current ≠ Tree.rootId ∧
      (o.kind = .cluster ∧ o.nodeId current = o.clusterId ∨
        o.kind = .zone ∧ current = some o.clusterId ∧
          ∀ c ∈ clusters, o.nodeId current ≠ c.id) := by
  have hplain := h.hasPlainNames ho
  obtain ⟨c, hc, rfl | ⟨z, hz, rfl | ⟨s, hs, rfl⟩⟩⟩ := mem_targets.mp ho
  · exact ⟨(h.clusterIds c hc).2, .inl ⟨rfl, rfl⟩⟩
  · -- without a slash, the zone is one of the current cluster and goes by its bare name
    have hcurrent : current = some c.id :=
      Target.current_of_slash_not_mem hplain (by simp [Target.kind]) hslash
    have hid : (Target.zone c.id z.name).nodeId current = z.name := by
      rw [← String.toList_inj, Target.toList_nodeId_zone, if_pos hcurrent]
    obtain ⟨-, hroot, hclusters⟩ := h.zoneNames c hc hcurrent z hz
    rw [hid]
    exact ⟨hroot, .inr ⟨rfl, hcurrent, hclusters⟩⟩
  · exact absurd rfl hmark

/-- An identifier tells the kind and the cluster of the object whose node has it. -/
theorem scope_eq (h : PlainNames clusters current) {o o' : Target} (ho : o ∈ targets clusters)
    (ho' : o' ∈ targets clusters) (heq : o.nodeId current = o'.nodeId current) :
    o.kind = o'.kind ∧ o.clusterId = o'.clusterId := by
  have hplain := h.hasPlainNames ho
  have hplain' := h.hasPlainNames ho'
  have hmark : o.kind = .server ↔ o'.kind = .server := by
    rw [← Target.marked_iff hplain, ← Target.marked_iff hplain', heq]
  by_cases hslash : '/' ∈ (o.nodeId current).toList
  · -- both are outside the current cluster, and their clusters can be read off
    have hslash' : '/' ∈ (o'.nodeId current).toList := heq ▸ hslash
    have hkind : o.kind = o'.kind := by
      have hne := ((Target.slash_mem_iff hplain).mp hslash).1
      have hne' := ((Target.slash_mem_iff hplain').mp hslash').1
      cases o <;> cases o' <;> simp_all [Target.kind]
    have hfirst := Target.takeWhile_nodeId hplain hslash
    rw [heq, Target.takeWhile_nodeId hplain' hslash', hkind, List.append_cancel_left_eq,
      String.toList_inj] at hfirst
    exact ⟨hkind, hfirst.symm⟩
  · have hslash' : '/' ∉ (o'.nodeId current).toList := heq ▸ hslash
    by_cases hserver : o.kind = .server
    · -- both are servers of the current cluster
      have hserver' := hmark.mp hserver
      have hcurrent := Target.current_of_slash_not_mem hplain (by simp [hserver]) hslash
      have hcurrent' := Target.current_of_slash_not_mem hplain' (by simp [hserver']) hslash'
      exact ⟨hserver.trans hserver'.symm, Option.some.inj (hcurrent.symm.trans hcurrent')⟩
    · -- both are clusters or zones of the current cluster, and no zone is called as a cluster is
      obtain ⟨c, hc, hid⟩ := exists_clusterId_eq ho
      obtain ⟨c', hc', hid'⟩ := exists_clusterId_eq ho'
      rcases h.nodeId_of_unmarked ho hserver hslash with
        ⟨-, ⟨hkind, hnode⟩ | ⟨hkind, hcurrent, hclusters⟩⟩ <;>
      rcases h.nodeId_of_unmarked ho' (mt hmark.mpr hserver) hslash' with
        ⟨-, ⟨hkind', hnode'⟩ | ⟨hkind', hcurrent', hclusters'⟩⟩
      · exact ⟨hkind.trans hkind'.symm, hnode.symm.trans (heq.trans hnode')⟩
      · exact absurd (heq.symm.trans (hnode.trans hid)) (hclusters' c hc)
      · exact absurd (heq.trans (hnode'.trans hid')) (hclusters c' hc')
      · exact ⟨hkind.trans hkind'.symm, Option.some.inj (hcurrent.symm.trans hcurrent')⟩

/-- **Plain names keep identifiers apart.** -/
theorem unambiguous (h : PlainNames clusters current) : Unambiguous clusters current where
  root o ho heq := by
    -- the identifier of the root has neither slash nor mark
    have hslash : '/' ∉ (o.nodeId current).toList := by rw [heq]; decide
    have hmark : o.kind ≠ .server := by
      rw [Ne, ← Target.marked_iff (h.hasPlainNames ho), heq]
      decide
    exact (h.nodeId_of_unmarked ho hmark hslash).1 heq
  kinds o ho o' ho' hne heq := hne (h.scope_eq ho ho' heq).1
  scopes o ho o' ho' hne heq := hne (h.scope_eq ho ho' heq).2

end PlainNames

end Snapshot

namespace Tree

open Snapshot

theorem map_id_descendants_build (threshold : Nat) (clusters : List Cluster)
    (requested : Option String) :
    let t := build threshold clusters requested
    t.root.descendants.map Node.id =
      rootId :: (targets clusters).map (Target.nodeId t.current) := by
  intro t
  have hfaces := congrArg (List.map Face.nodeId) (map_face_build threshold clusters requested)
  rw [List.map_map, List.map_cons, List.map_map] at hfaces
  exact hfaces

/-- **When identifiers are different.** Where names are different, the nodes of a built tree have
different identifiers exactly if objects of different kinds or clusters have, and none has that of
the root; which is so if names are plain. -/
theorem distinctIds_build_iff {clusters : List Cluster} (h : DistinctNames clusters)
    (threshold : Nat) (requested : Option String) :
    let t := build threshold clusters requested
    (t.root.DistinctIds ↔ Unambiguous clusters t.current) ∧
      (PlainNames clusters t.current → t.root.DistinctIds) := by
  intro t
  have hiff : t.root.DistinctIds ↔ Unambiguous clusters t.current := by
    unfold Node.DistinctIds
    rw [map_id_descendants_build, List.nodup_cons, List.mem_map,
      List.nodup_map_iff_inj_on (nodup_targets h)]
    constructor
    · -- where node identifiers tell objects apart, objects that differ at all differ in them
      rintro ⟨hroot, hinj⟩
      exact
        { root := fun o ho heq => hroot ⟨o, ho, heq⟩
          kinds := fun o ho o' ho' hne heq => hne (congrArg Target.kind (hinj o ho o' ho' heq))
          scopes := fun o ho o' ho' hne heq =>
            hne (congrArg Target.clusterId (hinj o ho o' ho' heq)) }
    · intro hunambiguous
      refine ⟨fun ⟨o, ho, heq⟩ => hunambiguous.root o ho heq, fun o ho o' ho' heq => ?_⟩
      -- of the same kind and in the same cluster, they are told apart by their names
      refine Target.eq_of_nodeId_eq ?_ ?_ heq
      · by_contra hne
        exact hunambiguous.kinds o ho o' ho' hne heq
      · by_contra hne
        exact hunambiguous.scopes o ho o' ho' hne heq
  exact ⟨hiff, fun hplain => hiff.mpr hplain.unambiguous⟩

/-- Two clusters with zones and servers of the same names. -/
theorem distinctIds_build_two_clusters :
    let clusters := [Sample.cluster "c1" [2, 1] .primary, Sample.cluster "c2" [1] .standby]
    let t := build defaultThreshold clusters (some "c1")
    DistinctNames clusters ∧ PlainNames clusters t.current ∧ t.root.DistinctIds ∧
      Unambiguous clusters t.current := by
  intro clusters t
  have hnames : DistinctNames clusters := by decide +kernel
  have hplain : PlainNames clusters t.current := by decide +kernel
  obtain ⟨hiff, hdistinct⟩ := distinctIds_build_iff hnames defaultThreshold (some "c1")
  exact ⟨hnames, hplain, hdistinct hplain, hiff.mp (hdistinct hplain)⟩

/-- A zone of the current cluster that is called as the cluster is has the identifier of the
cluster, though no two zones and no two servers have the same name. -/
theorem distinctIds_build_fails_namesake :
    let zone := { Sample.zone "c1" 1 1 with name := "c1" }
    let clusters := [{ Sample.cluster "c1" [] .primary with zones := [zone] }]
    DistinctNames clusters ∧ ¬ (build defaultThreshold clusters (some "c1")).root.DistinctIds := by
  decide +kernel

end Tree

end ClusterMap
