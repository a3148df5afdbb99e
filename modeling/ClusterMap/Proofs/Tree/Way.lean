import ClusterMap.Proofs.Tree.Flags
import ClusterMap.Proofs.Tree.Lineage

/-!
# The way to a node

The search for the nodes above a node gives their identifiers from the root down, and no more than
that: the nodes themselves have to be looked up again. `Lineage.way` reads the same identifiers off
the place of a node, and the search finds the way to the first place with the identifier that is
looked for (`Node.ancestors?_eq`), whatever it walks into before.

A node is hidden by collapsed nodes above it and by nothing else, so it comes into view when the
nodes on its way are expanded (`NodeInfo.opened`, `Node.visible_of_opened`).
-/

namespace ClusterMap

namespace Lineage

/-- The identifiers of the nodes above, from the root down. -/
def way (l : Lineage) : List String := (l.above.map Node.id).reverse

/-- The place after a change of what every node holds. -/
def mapInfo (f : NodeInfo → NodeInfo) (l : Lineage) : Lineage :=
  ⟨l.node.mapInfo f, l.above.map (Node.mapInfo f)⟩

theorem mem_way {l : Lineage} {id : String} : id ∈ l.way ↔ ∃ m ∈ l.above, m.id = id := by
  rw [way, List.mem_reverse, List.mem_map]

end Lineage

namespace Node

/-! ### Searching for the way -/

mutual
/-- Below what stands above a node, the search gives the way to the first place with the
identifier. -/
theorem map_ancestors? (id : String) : ∀ (n : Node) (above : List Node),
    (n.ancestors? id).map ((above.map Node.id).reverse ++ ·) =
      ((n.lineages above).find? (·.node.id == id)).map Lineage.way
  | ⟨i, cs⟩, above => by
    rw [ancestors?, lineages]
    by_cases hid : i.id = id
    · rw [if_pos hid, List.find?_cons_of_pos (by simpa using hid), Option.map_some,
        List.append_nil]
      rfl
    · -- the search goes on below, with one more node on the way
      have hway : ((above.map Node.id).reverse ++ ·) ∘ (i.id :: ·) =
          (((Node.mk i cs :: above).map Node.id).reverse ++ ·) := by
        funext path
        simp
      rw [if_neg hid, List.find?_cons_of_neg (by simpa using hid), Option.map_map, hway]
      exact map_ancestorsIn? id cs (⟨i, cs⟩ :: above)
theorem map_ancestorsIn? (id : String) : ∀ (ns above : List Node),
    (ancestorsIn? id ns).map ((above.map Node.id).reverse ++ ·) =
      ((lineagesOf above ns).find? (·.node.id == id)).map Lineage.way
  | [], _ => rfl
  | n :: rest, above => by
    rw [ancestorsIn?, lineagesOf, Option.map_or, map_ancestors? id n, map_ancestorsIn? id rest,
      List.find?_append, Option.map_or]
end

/-- **The search finds the way to the first node with an identifier.** -/
theorem ancestors?_eq (id : String) (n : Node) :
    n.ancestors? id = ((n.lineages []).find? (·.node.id == id)).map Lineage.way := by
  rw [← map_ancestors? id n []]
  exact Option.map_id'.symm

/-- Where identifiers are different, the search finds the way to every place. -/
theorem ancestors?_of_mem {n : Node} (hd : n.DistinctIds) {l : Lineage} (hl : l ∈ n.lineages []) :
    n.ancestors? l.node.id = some l.way := by
  have hids : ((n.lineages []).map fun l => l.node.id).Nodup := by
    unfold DistinctIds at hd
    rwa [← map_node_lineages n [], List.map_map] at hd
  rw [ancestors?_eq, find?_of_nodup_map hids hl, Option.map_some]

/-- There is no way to what is not there. -/
theorem ancestors?_eq_none_iff {n : Node} {id : String} :
    n.ancestors? id = none ↔ id ∉ n.descendants.map Node.id := by
  rw [ancestors?_eq, Option.map_eq_none_iff, List.find?_eq_none, ← map_node_lineages n [],
    List.map_map]
  simp

/-- What stands above a node is in the tree. -/
theorem mem_descendants_of_mem_above {root : Node} {l : Lineage} (h : l ∈ root.lineages []) :
    ∀ m ∈ l.above, m ∈ root.descendants := by
  obtain ⟨node, above⟩ := l
  -- going up one node at a time, the parent has its place too
  induction above generalizing node with
  | nil => exact List.forall_mem_nil _
  | cons parent above ih =>
    rcases parent_of_mem_lineages h with h | ⟨parent', rest, habove, hmem, -⟩
    · cases (Lineage.mk.inj h).2
    · obtain ⟨rfl, rfl⟩ := List.cons.inj habove
      refine List.forall_mem_cons.mpr ⟨?_, ih parent hmem⟩
      rw [← map_node_lineages root []]
      exact List.mem_map_of_mem (f := Lineage.node) hmem

/-! ### Places in a changed tree -/

mutual
/-- Changing what nodes hold leaves them at their places. -/
theorem lineages_mapInfo (f : NodeInfo → NodeInfo) : ∀ (n : Node) (above : List Node),
    (n.mapInfo f).lineages (above.map (mapInfo f)) = (n.lineages above).map (Lineage.mapInfo f)
  | ⟨i, cs⟩, above => by
    -- the node itself stands above what is below it, and is changed as well
    have hbelow := lineagesOf_mapInfoOf f cs (⟨i, cs⟩ :: above)
    rw [List.map_cons, mapInfo] at hbelow
    rw [mapInfo, lineages, lineages, List.map_cons, hbelow, Lineage.mapInfo, mapInfo]
theorem lineagesOf_mapInfoOf (f : NodeInfo → NodeInfo) : ∀ (ns above : List Node),
    lineagesOf (above.map (mapInfo f)) (mapInfoOf f ns) =
      (lineagesOf above ns).map (Lineage.mapInfo f)
  | [], _ => rfl
  | n :: rest, above => by
    rw [mapInfoOf, lineagesOf, lineagesOf, List.map_append, lineages_mapInfo f n,
      lineagesOf_mapInfoOf f rest]
end

theorem mem_lineages_mapInfo {f : NodeInfo → NodeInfo} {n : Node} {l : Lineage}
    (hl : l ∈ n.lineages []) : l.mapInfo f ∈ (n.mapInfo f).lineages [] := by
  rw [← List.map_nil (f := Node.mapInfo f), lineages_mapInfo]
  exact List.mem_map_of_mem hl

/-- What is shown at a place is visible. -/
theorem visible_of_isShown {n : Node} {l : Lineage} (hl : l ∈ n.lineages [])
    (hshown : l.isShown) : l.node ∈ n.visible := by
  rw [visible_eq_map_lineages n (List.forall_mem_nil _)]
  exact List.mem_map_of_mem (List.mem_filter.mpr ⟨hl, hshown⟩)

end Node

/-! ### Opening the way -/

/-- What a node holds after the nodes with some identifiers were expanded. -/
def NodeInfo.opened (ids : List String) (i : NodeInfo) : NodeInfo :=
  { i with collapsed := i.collapsed.map (· && decide (i.id ∉ ids)) }

theorem NodeInfo.opened_eq_reflag (ids : List String) :
    NodeInfo.opened ids = NodeInfo.reflag fun id flag => flag && decide (id ∉ ids) :=
  rfl

/-- Nothing on an opened way is collapsed. -/
theorem Lineage.isShown_opened {l : Lineage} {ids : List String} (h : ∀ id ∈ l.way, id ∈ ids) :
    (l.mapInfo (NodeInfo.opened ids)).isShown := by
  refine List.all_eq_true.mpr fun m hm => ?_
  obtain ⟨n, hn, rfl⟩ := List.mem_map.mp hm
  have hid : n.info.id ∈ ids := h n.id (mem_way.mpr ⟨n, hn, rfl⟩)
  rw [Node.isCollapsed, Node.info_mapInfo, NodeInfo.opened]
  cases n.info.collapsed with
  | none => rfl
  | some flag => simp [hid]

/-- **A node whose way is opened is visible.** -/
theorem Node.visible_of_opened {root : Node} {l : Lineage} (hl : l ∈ root.lineages [])
    {ids : List String} (h : ∀ id ∈ l.way, id ∈ ids) :
    l.node.id ∈ (root.mapInfo (NodeInfo.opened ids)).visibleIds := by
  rw [← id_mapInfo (f := NodeInfo.opened ids) (fun _ => rfl) l.node]
  exact List.mem_map_of_mem
    (visible_of_isShown (mem_lineages_mapInfo hl) (Lineage.isShown_opened h))

end ClusterMap
