import ClusterMap.Proofs.Layout.Visible
import ClusterMap.Proofs.Tree.Flags
import ClusterMap.Proofs.Tree.Lineage
import ClusterMap.Snapshot.Sample
import ClusterMap.Tree.Build

/-!
# Paths between parents and children

Three walks over a tree have to agree: the one that collects the visible nodes, the one that
collects the edges, and the one that places the nodes. The layout then looks the ends of each edge
up by their identifiers, and leaves out an edge with an end that has no place.

None is left out (`Layout.map_edge_edges`), since the ends of every edge are visible. Where
identifiers are different, the place that is found is that of the node itself
(`Layout.eq_iff_of_anchorOf`), so that every path leads from below a parent to above its own child
(`Layout.agrees_with_tree`).
-/

namespace ClusterMap

variable {α : Type} [Scalar α]

/-- The edge that a path is drawn for. -/
def EdgePath.edge (path : EdgePath α) : Edge := ⟨path.parent, path.child, path.style⟩

/-- The points of a path that leaves a parent in the middle of its lower side, goes down, across and
down again, and arrives at a child in the middle of its upper side. -/
def IsElbow (c : LayoutConfig α) (parent child : Point α) (points : List (Point α)) : Prop :=
  let start := parent.offset 0 (c.nominalNode.height / 2)
  let stop := child.offset 0 (-(c.nominalNode.height / 2))
  ∃ y, points = [start, ⟨start.x, y⟩, ⟨stop.x, y⟩, stop]

theorem isElbow_elbow (c : LayoutConfig α) (parent child : Point α) :
    IsElbow c parent child (elbow c parent child) :=
  ⟨_, rfl⟩

theorem EdgePath.ofEdge?_eq_some_iff {c : LayoutConfig α} {nodes : List (NodePosition α)}
    {e : Edge} {path : EdgePath α} : ofEdge? c nodes e = some path ↔
      ∃ parent child, anchorIn nodes e.parent = some parent ∧
        anchorIn nodes e.child = some child ∧
        path = ⟨e.parent, e.child, e.style, elbow c parent child⟩ := by
  unfold ofEdge?
  cases anchorIn nodes e.parent with
  | none => simp
  | some parent =>
    cases anchorIn nodes e.child with
    | none => simp
    | some child => simp [eq_comm]

namespace Layout

variable {c : LayoutConfig α} {t : Tree}

/-- Every edge of the tree has its path in the layout, and there are no other paths. -/
theorem map_edge_edges (c : LayoutConfig α) (t : Tree) :
    (ofTree c t).edges.map EdgePath.edge = t.edges := by
  have hpath : ∀ e ∈ t.edges,
      (EdgePath.ofEdge? c (ofTree c t).nodes e).map EdgePath.edge = some e := by
    intro e he
    -- both ends are visible, and so they have a place
    obtain ⟨hparent, hchild⟩ := Tree.visible_of_mem_edges he
    obtain ⟨parent, hparent⟩ := Option.isSome_iff_exists.mp
      (isSome_anchorOf_iff (c := c).mpr hparent)
    obtain ⟨child, hchild⟩ := Option.isSome_iff_exists.mp (isSome_anchorOf_iff (c := c).mpr hchild)
    rw [EdgePath.ofEdge?_eq_some_iff.mpr ⟨parent, child, hparent, hchild, rfl⟩]
    rfl
  calc (ofTree c t).edges.map EdgePath.edge
      = t.edges.filterMap fun e =>
          (EdgePath.ofEdge? c (ofTree c t).nodes e).map EdgePath.edge := List.map_filterMap
    _ = t.edges.filterMap some := List.filterMap_congr hpath
    _ = t.edges := List.filterMap_some

/-- Where identifiers are different, the place found under an identifier is the only one that has
it. -/
theorem eq_iff_of_anchorOf (hd : t.root.DistinctIds) {id : String} {anchor : Point α}
    (h : (ofTree c t).anchorOf id = some anchor) :
    ∃ p ∈ (ofTree c t).nodes, p.anchor = anchor ∧
      ∀ r ∈ (ofTree c t).nodes, r.id = id ↔ r = p := by
  obtain ⟨p, hp, hanchor⟩ := Option.map_eq_some_iff.mp h
  have hpmem : p ∈ (ofTree c t).nodes := List.mem_of_find?_eq_some hp
  have hpid : p.id = id := by simpa using List.find?_some hp
  have hnodup : ((ofTree c t).nodes.map NodePosition.id).Nodup := by
    rw [map_id_nodes]
    exact (t.root.visible_sublist.map Node.id).nodup hd
  refine ⟨p, hpmem, hanchor, fun r hr => ⟨fun hid => ?_, fun heq => heq ▸ hpid⟩⟩
  exact List.inj_on_of_nodup_map hnodup hr hpmem (hid.trans hpid.symm)

/-- Where identifiers are different, a path leads from the only place that has the identifier of the
parent to the only one that has that of the child. -/
theorem isElbow_of_mem_edges (hd : t.root.DistinctIds) {path : EdgePath α}
    (hpath : path ∈ (ofTree c t).edges) :
    ∃ parent ∈ (ofTree c t).nodes, ∃ child ∈ (ofTree c t).nodes,
      (∀ p ∈ (ofTree c t).nodes, p.id = path.parent ↔ p = parent) ∧
      (∀ p ∈ (ofTree c t).nodes, p.id = path.child ↔ p = child) ∧
      IsElbow c parent.anchor child.anchor path.points := by
  obtain ⟨e, -, he⟩ := List.mem_filterMap.mp hpath
  obtain ⟨a, b, ha, hb, rfl⟩ := EdgePath.ofEdge?_eq_some_iff.mp he
  obtain ⟨parent, hparent, rfl, hparentIff⟩ := eq_iff_of_anchorOf hd ha
  obtain ⟨child, hchild, rfl, hchildIff⟩ := eq_iff_of_anchorOf hd hb
  exact ⟨parent, hparent, child, hchild, hparentIff, hchildIff, isElbow_elbow c _ _⟩

/-- The paths belong to the shown places below the root, in their order. -/
theorem joinedBy_edge_edges (c : LayoutConfig α) (t : Tree) :
    List.Forall₂ (fun l path => Lineage.JoinedBy t.rootStyle l path.edge) t.shown.tail
      (ofTree c t).edges := by
  rw [← List.forall₂_map_right_iff, map_edge_edges]
  exact Node.joinedBy_edges t.rootStyle t.root (List.forall_mem_nil _)

/-- **What is visible, what is placed and what is joined agree**, for every tree and all flags. The
visible nodes are those below no collapsed node, in pre-order; each of them has its place, in the
same order; each but the root is joined to its parent, in the same order; and each of these edges
has its path. Where identifiers are different, a path is an elbow from below the place of the parent
to above the place of the child. -/
theorem agrees_with_tree (c : LayoutConfig α) (t : Tree) :
    -- every node with what stands above it, from its parent up to the root
    ((t.root.lineages []).map Lineage.node = t.root.descendants ∧
      ∀ l ∈ t.root.lineages [],
        (l.node :: l.above).IsChain (fun n parent => n ∈ parent.children) ∧
          (l.node :: l.above).getLast? = some t.root) ∧
    t.root.visible = ((t.root.lineages []).filter
      fun l => l.above.all fun m => !m.isCollapsed).map Lineage.node ∧
    (ofTree c t).nodes.map NodePosition.id = t.root.visibleIds ∧
    t.shown.head? = some ⟨t.root, []⟩ ∧
    List.Forall₂ (Lineage.JoinedBy t.rootStyle) t.shown.tail t.edges ∧
    (ofTree c t).edges.map EdgePath.edge = t.edges ∧
    (t.root.DistinctIds → ∀ path ∈ (ofTree c t).edges,
      ∃ parent ∈ (ofTree c t).nodes, ∃ child ∈ (ofTree c t).nodes,
        (∀ p ∈ (ofTree c t).nodes, p.id = path.parent ↔ p = parent) ∧
        (∀ p ∈ (ofTree c t).nodes, p.id = path.child ↔ p = child) ∧
        IsElbow c parent.anchor child.anchor path.points) := by
  refine ⟨⟨Node.map_node_lineages t.root [], fun l hl => Node.isChain_of_mem_lineages hl⟩,
    t.map_node_shown.symm, map_id_nodes c t, ?_, ?_, map_edge_edges c t,
    fun hd path hpath => isElbow_of_mem_edges hd hpath⟩
  · rw [t.shown_eq_cons, List.head?_cons]
  · exact Node.joinedBy_edges t.rootStyle t.root (List.forall_mem_nil _)

/-- A cluster of two zones with one server each, beside one that is collapsed. -/
theorem agrees_with_tree_two :
    let t := Tree.build defaultThreshold
      [Snapshot.Sample.cluster "c1" [1, 1] .primary,
        Snapshot.Sample.cluster "c2" [1] .standby] none
    t.root.DistinctIds ∧
      (ofTree (.standard : LayoutConfig Rat) t).edges.map (fun path => (path.parent, path.child)) =
        [("root", "c1"), ("c1", "zone1"), ("zone1", "server:c1-z1-s1"), ("c1", "zone2"),
          ("zone2", "server:c1-z2-s1"), ("root", "c2")] ∧
      ∀ path ∈ (ofTree (.standard : LayoutConfig Rat) t).edges,
        ∃ parent ∈ (ofTree (.standard : LayoutConfig Rat) t).nodes,
          ∃ child ∈ (ofTree (.standard : LayoutConfig Rat) t).nodes,
            parent.id = path.parent ∧ child.id = path.child ∧
              IsElbow .standard parent.anchor child.anchor path.points := by
  intro t
  have hd : t.root.DistinctIds := by decide +kernel
  obtain ⟨-, -, -, -, -, hedges, hpaths⟩ := agrees_with_tree (.standard : LayoutConfig Rat) t
  refine ⟨hd, ?_, fun path hpath => ?_⟩
  · -- the paths are those of the edges, which hang on no distance
    have hends := congrArg (List.map fun e : Edge => (e.parent, e.child)) hedges
    rw [List.map_map] at hends
    exact hends.trans (by decide +kernel)
  · obtain ⟨parent, hparent, child, hchild, hp, hq, helbow⟩ := hpaths hd path hpath
    exact ⟨parent, hparent, child, hchild, (hp parent hparent).mpr rfl, (hq child hchild).mpr rfl,
      helbow⟩

end Layout

end ClusterMap
