import ClusterMap.Proofs.Tree.Lineage
import ClusterMap.Snapshot.Sample
import ClusterMap.Tree.Build
import Mathlib.Data.List.Nodup

/-!
# How much is shown at first

A tree that was just built shows at most as many servers as its threshold allows
(`Tree.build_respects_threshold`). The current cluster alone is expanded, so only its servers are
shown. If they are too many, its zones are collapsed but for the first, and this one too if its
servers are too many already.

The cluster that decides whether room is to be saved is looked up by its identifier, and the flag of
each cluster is set by a comparison of identifiers; both find the same cluster where the identifiers
of clusters are different. For the zones of all clusters it is this one that decides.
-/

namespace ClusterMap

open Snapshot

/-! ### Counting what is visible -/

namespace Node

/-- How many nodes of a kind are visible. -/
def countVisible (n : Node) (k : Kind) : Nat := n.visible.countP (·.kind == k)

/-- How many nodes of a kind are visible at and below the nodes of a list. -/
def countVisibleOf (ns : List Node) (k : Kind) : Nat := (visibleOf ns).countP (·.kind == k)

theorem countVisible_mk (i : NodeInfo) (cs : List Node) (k : Kind) :
    countVisible ⟨i, cs⟩ k = (if i.collapsed.getD false then 0 else countVisibleOf cs k) +
      if i.kind == k then 1 else 0 := by
  rw [countVisible, visible, List.countP_cons]
  split <;> rfl

theorem countVisibleOf_cons (n : Node) (rest : List Node) (k : Kind) :
    countVisibleOf (n :: rest) k = n.countVisible k + countVisibleOf rest k := by
  rw [countVisibleOf, visibleOf, List.countP_append]
  rfl

end Node

namespace Tree

variable {threshold : Nat} {clusters : List Cluster} {requested current : Option String}

/-! ### The current cluster -/

theorem chooseCurrent_of_mem {c : Cluster} (hc : c ∈ clusters) :
    chooseCurrent clusters (some c.id) = some c.id := by
  have hany : clusters.any (·.id == c.id) := List.any_eq_true.mpr ⟨c, hc, beq_self_eq_true _⟩
  have hfilter : (some c.id).filter (fun id => clusters.any (·.id == id)) = some c.id :=
    Option.filter_some_eq_some.mpr hany
  rw [chooseCurrent, hfilter]
  rfl

/-- A request for a cluster that is not there falls back to the first one. -/
theorem chooseCurrent_of_not_mem (h : ∀ c ∈ clusters, requested ≠ some c.id) :
    chooseCurrent clusters requested = clusters.head?.map Cluster.id := by
  have hfilter : requested.filter (fun id => clusters.any (·.id == id)) = none := by
    refine Option.filter_eq_none_iff.mpr fun id hid hany => ?_
    obtain ⟨c, hc, heq⟩ := List.any_eq_true.mp hany
    exact h c hc (hid.trans (congrArg some (eq_of_beq heq).symm))
  rw [chooseCurrent, hfilter]
  rfl

theorem exists_chooseCurrent (h : clusters ≠ []) (requested : Option String) :
    ∃ c ∈ clusters, chooseCurrent clusters requested = some c.id := by
  by_cases hthere : ∃ c ∈ clusters, requested = some c.id
  · obtain ⟨c, hc, rfl⟩ := hthere
    exact ⟨c, hc, chooseCurrent_of_mem hc⟩
  · -- the first cluster stands in for one that is not there
    obtain ⟨c, rest, rfl⟩ := List.exists_cons_of_ne_nil h
    refine ⟨c, List.mem_cons_self, ?_⟩
    rw [chooseCurrent_of_not_mem fun c hc heq => hthere ⟨c, hc, heq⟩]
    rfl

/-- Where identifiers are different, the count is that of the cluster itself. -/
theorem serverCountOf_of_mem (hd : (clusters.map Cluster.id).Nodup) {c : Cluster}
    (hc : c ∈ clusters) : serverCountOf clusters (some c.id) = c.serverCount := by
  rw [serverCountOf, Option.bind_some, find?_of_nodup_map hd hc]

/-! ### Servers that are shown -/

theorem countVisibleOf_serverNodes (clusterId : String) (isCurrent : Bool)
    (servers : List Server) :
    Node.countVisibleOf (servers.map (serverNode clusterId isCurrent)) .server =
      servers.length := by
  induction servers with
  | nil => rfl
  | cons s rest ih =>
    rw [List.map_cons, Node.countVisibleOf_cons, ih, List.length_cons, Nat.add_comm]
    rfl

/-- A zone shows all its servers or none. -/
theorem countVisible_zoneNode (clusterId : String) (isCurrent collapsed : Bool) (z : Zone) :
    (zoneNode clusterId isCurrent collapsed z).countVisible .server =
      if collapsed then 0 else z.servers.length := by
  rw [zoneNode, Node.countVisible_mk, countVisibleOf_serverNodes]
  rfl

section Zones

variable (clusterId : String) (isCurrent : Bool) (zones : List Zone)
  (collapsed : Nat → Zone → Bool)

theorem countVisibleOf_zoneNodes_le : Node.countVisibleOf (zones.mapIdx fun index z =>
    zoneNode clusterId isCurrent (collapsed index z) z) .server ≤
      (zones.flatMap Zone.servers).length := by
  induction zones generalizing collapsed with
  | nil => exact Nat.le_refl 0
  | cons z rest ih =>
    rw [List.mapIdx_cons, Node.countVisibleOf_cons, countVisible_zoneNode, List.flatMap_cons,
      List.length_append]
    -- the rest has flags of its own, as they go by the index
    refine Nat.add_le_add ?_ (ih fun index => collapsed (index + 1))
    split
    · exact Nat.zero_le _
    · exact Nat.le_refl _

theorem countVisibleOf_zoneNodes_of_collapsed (h : ∀ index z, collapsed index z) :
    Node.countVisibleOf (zones.mapIdx fun index z =>
      zoneNode clusterId isCurrent (collapsed index z) z) .server = 0 := by
  induction zones generalizing collapsed with
  | nil => rfl
  | cons z rest ih =>
    rw [List.mapIdx_cons, Node.countVisibleOf_cons, countVisible_zoneNode, if_pos (h 0 z),
      ih (fun index => collapsed (index + 1)) fun index => h (index + 1)]

end Zones

theorem countVisible_clusterNode_other (saveRoom : Bool) (c : Cluster) :
    (clusterNode threshold saveRoom false c).countVisible .server = 0 := by
  -- a cluster that is not current is collapsed
  rfl

/-- The current cluster shows no more servers than the threshold if it has no more, or if room is
saved. -/
theorem countVisible_clusterNode_le {saveRoom : Bool} {c : Cluster}
    (h : saveRoom = false → c.serverCount ≤ threshold) :
    (clusterNode threshold saveRoom true c).countVisible .server ≤ threshold := by
  rw [clusterNode, Node.countVisible_mk]
  change Node.countVisibleOf _ .server ≤ threshold
  cases saveRoom with
  | false => exact Nat.le_trans (countVisibleOf_zoneNodes_le c.id true c.zones _) (h rfl)
  | true =>
    cases c.zones with
    | nil => exact Nat.zero_le _
    | cons z rest =>
      -- all zones after the first are collapsed, so the servers of the first are all there are
      rw [List.mapIdx_cons, Node.countVisibleOf_cons, countVisible_zoneNode,
        countVisibleOf_zoneNodes_of_collapsed c.id true rest _ fun index z => by
          simp [zoneCollapsed]]
      split
      next => exact Nat.zero_le _
      next hopen => simpa [zoneCollapsed] using hopen

theorem countVisibleOf_clusterNodes_other {saveRoom : Bool}
    (h : ∀ c ∈ clusters, current ≠ some c.id) :
    Node.countVisibleOf (clusters.map fun c =>
      clusterNode threshold saveRoom (current == some c.id) c) .server = 0 := by
  induction clusters with
  | nil => rfl
  | cons c rest ih =>
    obtain ⟨hc, hrest⟩ := List.forall_mem_cons.mp h
    rw [List.map_cons, Node.countVisibleOf_cons, ih hrest, beq_eq_false_iff_ne.mpr hc,
      countVisible_clusterNode_other]

/-- Of clusters with different identifiers one at most is current. -/
theorem countVisibleOf_clusterNodes_le {saveRoom : Bool} {limit : Nat}
    (hd : (clusters.map Cluster.id).Nodup)
    (hcurrent : ∀ c ∈ clusters, current = some c.id →
      (clusterNode threshold saveRoom true c).countVisible .server ≤ limit) :
    Node.countVisibleOf (clusters.map fun c =>
      clusterNode threshold saveRoom (current == some c.id) c) .server ≤ limit := by
  induction clusters with
  | nil => exact Nat.zero_le _
  | cons c rest ih =>
    obtain ⟨hc, hrest⟩ := List.forall_mem_cons.mp hcurrent
    obtain ⟨hfresh, hd⟩ := List.nodup_cons.mp hd
    rw [List.map_cons, Node.countVisibleOf_cons]
    by_cases h : current = some c.id
    · -- the current cluster comes first, and no other has its identifier
      have hother : ∀ c' ∈ rest, current ≠ some c'.id := by
        intro c' hc' heq
        refine hfresh (List.mem_map.mpr ⟨c', hc', ?_⟩)
        exact Option.some.inj (heq.symm.trans h)
      rw [countVisibleOf_clusterNodes_other hother, beq_iff_eq.mpr h]
      exact hc h
    · rw [beq_eq_false_iff_ne.mpr h, countVisible_clusterNode_other, Nat.zero_add]
      exact ih hd hrest

theorem countVisible_build_le (threshold : Nat) (hd : (clusters.map Cluster.id).Nodup)
    (requested : Option String) :
    (build threshold clusters requested).root.countVisible .server ≤ threshold := by
  rw [build, Node.countVisible_mk]
  refine countVisibleOf_clusterNodes_le hd fun c hc hcurrent => ?_
  refine countVisible_clusterNode_le fun hroom => ?_
  -- room is saved if this cluster is too large
  rw [hcurrent, serverCountOf_of_mem hd hc] at hroom
  simpa using hroom

/-! ### Where the servers are that are shown -/

/-- Servers are shown where neither their cluster nor their zone is collapsed. -/
theorem mem_shown_server_iff {t : Tree} {cn zn sn : Node} (hroot : t.root.isCollapsed = false)
    (hcn : cn ∈ t.root.children) (hzn : zn ∈ cn.children) (hsn : sn ∈ zn.children) :
    ⟨sn, [zn, cn, t.root]⟩ ∈ t.shown ↔ cn.isCollapsed = false ∧ zn.isCollapsed = false := by
  have hplace : ⟨sn, [zn, cn, t.root]⟩ ∈ t.root.lineages [] := by
    refine Node.child_mem_lineages hsn ?_
    refine Node.child_mem_lineages hzn ?_
    refine Node.child_mem_lineages hcn ?_
    rw [Node.lineages_eq_cons]
    exact List.mem_cons_self
  rw [shown, List.mem_filter, Lineage.isShown]
  simp [hplace, hroot, and_comm]

/-- Where room has to be saved, a zone is open if it is the first and not too large itself. -/
theorem zoneCollapsed_eq_false_iff {saveRoom : Bool} {index : Nat} {z : Zone} :
    zoneCollapsed threshold saveRoom index z = false ↔
      saveRoom = false ∨ index = 0 ∧ z.servers.length ≤ threshold := by
  cases saveRoom <;> simp [zoneCollapsed]

/-- The nodes stand at the places of clusters, zones and servers, and each flag is set by its
place. -/
theorem exists_nodes_build (threshold : Nat) (requested : Option String) {i : Nat} {c : Cluster}
    (hc : clusters[i]? = some c) :
    let t := build threshold clusters requested
    ∃ cn, t.root.children[i]? = some cn ∧ (cn.isCollapsed = false ↔ t.current = some c.id) ∧
      ∀ (j : Nat) (z : Zone), c.zones[j]? = some z → ∃ zn, cn.children[j]? = some zn ∧
        (zn.isCollapsed = false ↔ serverCountOf clusters t.current ≤ threshold ∨
          j = 0 ∧ z.servers.length ≤ threshold) ∧
        ∀ (k : Nat) (s : Server), z.servers[k]? = some s →
          zn.children[k]? = some (serverNode c.id (t.current == some c.id) s) := by
  intro t
  let saveRoom : Bool := threshold < serverCountOf clusters t.current
  have hroom : saveRoom = false ↔ serverCountOf clusters t.current ≤ threshold := by
    rw [decide_eq_false_iff_not, Nat.not_lt]
  refine ⟨clusterNode threshold saveRoom (t.current == some c.id) c, ?_, ?_, fun j z hz => ?_⟩
  · change (clusters.map _)[i]? = _
    rw [List.getElem?_map, hc]
    rfl
  · change (!(t.current == some c.id)) = false ↔ _
    rw [Bool.not_eq_false', beq_iff_eq]
  refine ⟨zoneNode c.id (t.current == some c.id) (zoneCollapsed threshold saveRoom j z) z, ?_, ?_,
    fun k s hs => ?_⟩
  · change (c.zones.mapIdx _)[j]? = _
    rw [List.getElem?_mapIdx, hz]
    rfl
  · change zoneCollapsed threshold saveRoom j z = false ↔ _
    rw [zoneCollapsed_eq_false_iff, hroom]
  · change (z.servers.map _)[k]? = _
    rw [List.getElem?_map, hs]
    rfl

/-- **A view never starts with more servers than its threshold.** Let the identifiers of clusters be
different. If there are clusters, exactly one of them is current: the requested one, or else the
first. It alone is expanded. No more servers are visible than the threshold allows. Which these are
can be told by their places: they belong to the current cluster, and if this has more servers than
the threshold, to its first zone, provided that this zone has no more than the threshold either. -/
theorem build_respects_threshold (threshold : Nat) {clusters : List Cluster}
    (requested : Option String) (hd : (clusters.map Cluster.id).Nodup) :
    let t := build threshold clusters requested
    (clusters ≠ [] → ∃! c, c ∈ clusters ∧ t.current = some c.id) ∧
    (∀ c ∈ clusters, requested = some c.id → t.current = some c.id) ∧
    ((∀ c ∈ clusters, requested ≠ some c.id) → t.current = clusters.head?.map Cluster.id) ∧
    t.root.children.map Node.id = clusters.map Cluster.id ∧
    (∀ cn ∈ t.root.children, cn.isCollapsed = false ↔ t.current = some cn.id) ∧
    t.root.countVisible .server ≤ threshold ∧
    ∀ (i : Nat) (c : Cluster), clusters[i]? = some c → ∃ cn, t.root.children[i]? = some cn ∧
      ∀ (j : Nat) (z : Zone), c.zones[j]? = some z → ∃ zn, cn.children[j]? = some zn ∧
        ∀ (k : Nat) (s : Server), z.servers[k]? = some s →
          let sn := serverNode c.id (t.current == some c.id) s
          zn.children[k]? = some sn ∧ (⟨sn, [zn, cn, t.root]⟩ ∈ t.shown ↔ t.current = some c.id ∧
            (c.serverCount ≤ threshold ∨ j = 0 ∧ z.servers.length ≤ threshold)) := by
  intro t
  refine ⟨fun hne => ?_, ?_, chooseCurrent_of_not_mem, ?_, ?_,
    countVisible_build_le threshold hd requested, fun i c hc => ?_⟩
  · obtain ⟨c, hc, hcurrent⟩ := exists_chooseCurrent hne requested
    refine ⟨c, ⟨hc, hcurrent⟩, ?_⟩
    -- another one that is current has the same identifier
    rintro c' ⟨hc', hcurrent'⟩
    exact List.inj_on_of_nodup_map hd hc' hc (Option.some.inj (hcurrent'.symm.trans hcurrent))
  · rintro c hc rfl
    exact chooseCurrent_of_mem hc
  · change (clusters.map _).map _ = _
    rw [List.map_map]
    rfl
  · intro cn hcn
    obtain ⟨c, -, rfl⟩ := List.mem_map.mp hcn
    change (!(t.current == some c.id)) = false ↔ t.current = some c.id
    rw [Bool.not_eq_false', beq_iff_eq]
  obtain ⟨cn, hcn, hcluster, hzones⟩ := exists_nodes_build threshold requested hc
  refine ⟨cn, hcn, fun j z hz => ?_⟩
  obtain ⟨zn, hzn, hzone, hservers⟩ := hzones j z hz
  refine ⟨zn, hzn, fun k s hs => ?_⟩
  have hsn := hservers k s hs
  refine ⟨hsn, ?_⟩
  rw [mem_shown_server_iff rfl (List.mem_of_getElem? hcn) (List.mem_of_getElem? hzn)
    (List.mem_of_getElem? hsn), hcluster, hzone]
  refine and_congr_right fun hcurrent => ?_
  -- the cluster that is counted is this one
  rw [hcurrent, serverCountOf_of_mem hd (List.mem_of_getElem? hc)]

/-- The current cluster has four servers, in zones of two, one and one. Of these the first zone is
shown, and one threshold lower nothing. -/
theorem build_respects_threshold_zones :
    let clusters := [Sample.cluster "c1" [1] .primary, Sample.cluster "c2" [2, 1, 1] .standby]
    (clusters.map Cluster.id).Nodup ∧
      (build 2 clusters (some "c2")).root.countVisible .server = 2 ∧
      (build 1 clusters (some "c2")).root.countVisible .server = 0 ∧
      (build 1 clusters (some "c2")).current = some "c2" := by
  intro clusters
  have hd : (clusters.map Cluster.id).Nodup := by decide
  obtain ⟨-, hrequested, -⟩ := build_respects_threshold 1 (some "c2") hd
  refine ⟨hd, by decide +kernel, by decide +kernel, ?_⟩
  exact hrequested (Sample.cluster "c2" [2, 1, 1] .standby) (by simp [clusters]) rfl

end Tree

end ClusterMap
