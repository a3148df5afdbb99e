import ClusterMap.Proofs.Tree.Walk
import ClusterMap.Tree.Edge
import Mathlib.Data.List.Forall2

/-!
# Where a node stands

A node does not know what is above it. `Node.lineages` lists the nodes of a tree in pre-order, each
with the nodes above it, so that what is visible can be told without a walk of its own: a node is
shown if nothing above it is collapsed (`Lineage.isShown`).

The walk that collects the visible nodes gives exactly the shown ones
(`Node.visible_eq_map_lineages`), and the walk that collects the edges joins each of them, in the
same order, to the node directly above (`Node.joinedBy_edges`). A parent is shown wherever its child
is (`Node.parent_of_mem_lineages`, and downwards `Node.child_mem_lineages`).
-/

namespace ClusterMap

/-- What is in the second of two related lists is related to something in the first. -/
theorem exists_left_of_forall₂ {β γ : Type} {R : β → γ → Prop} {l : List β} {l' : List γ}
    (h : List.Forall₂ R l l') {b : γ} (hb : b ∈ l') : ∃ a ∈ l, R a b := by
  induction h with
  | nil => exact absurd hb List.not_mem_nil
  | cons hhead _ ih =>
    rcases List.mem_cons.mp hb with rfl | hb
    · exact ⟨_, List.mem_cons_self, hhead⟩
    · obtain ⟨a, ha, hab⟩ := ih hb
      exact ⟨a, List.mem_cons_of_mem _ ha, hab⟩

/-- A place in a tree: a node and all nodes above it, from its parent up to the root. -/
structure Lineage where
  node : Node
  above : List Node

/-- Whether nothing above the node is collapsed. -/
def Lineage.isShown (l : Lineage) : Bool := l.above.all fun m => !m.isCollapsed

namespace Node

mutual
/-- The places at a node and below it in pre-order, where `above` is what is above the node. -/
def lineages (above : List Node) : Node → List Lineage
  | ⟨i, cs⟩ => ⟨⟨i, cs⟩, above⟩ :: lineagesOf (⟨i, cs⟩ :: above) cs
/-- The places at the nodes of a list and below them. -/
def lineagesOf (above : List Node) : List Node → List Lineage
  | [] => []
  | n :: rest => n.lineages above ++ lineagesOf above rest
end

theorem lineages_eq_cons (above : List Node) (n : Node) :
    n.lineages above = ⟨n, above⟩ :: lineagesOf (n :: above) n.children := by
  obtain ⟨i, cs⟩ := n
  rw [lineages, children_mk]

mutual
/-- Every node has its place. -/
theorem map_node_lineages : ∀ (n : Node) (above : List Node),
    (n.lineages above).map Lineage.node = n.descendants
  | ⟨i, cs⟩, above => by
    rw [lineages, descendants, List.map_cons, map_node_lineagesOf cs]
theorem map_node_lineagesOf : ∀ (ns : List Node) (above : List Node),
    (lineagesOf above ns).map Lineage.node = descendantsOf ns
  | [], _ => rfl
  | n :: rest, above => by
    rw [lineagesOf, descendantsOf, List.map_append, map_node_lineages n,
      map_node_lineagesOf rest]
end

mutual
/-- What stands above a node stands above everything below it. -/
theorem suffix_above_of_mem_lineages {l : Lineage} : ∀ {n : Node} {above : List Node},
    l ∈ n.lineages above → above <:+ l.above
  | ⟨i, cs⟩, above, h => by
    rw [lineages] at h
    rcases List.mem_cons.mp h with rfl | h
    · exact List.suffix_refl above
    · exact (List.suffix_cons _ above).trans (suffix_above_of_mem_lineagesOf h)
theorem suffix_above_of_mem_lineagesOf {l : Lineage} : ∀ {ns : List Node} {above : List Node},
    l ∈ lineagesOf above ns → above <:+ l.above
  | [], _, h => absurd h List.not_mem_nil
  | n :: rest, above, h => by
    rw [lineagesOf] at h
    rcases List.mem_append.mp h with h | h
    · exact suffix_above_of_mem_lineages h
    · exact suffix_above_of_mem_lineagesOf h
end

/-! ### Parents -/

mutual
/-- Every node but the topmost is a child of the node directly above it, and that node has its place
too. -/
theorem parent_of_mem_lineages {l : Lineage} : ∀ {n : Node} {above : List Node},
    l ∈ n.lineages above → l = ⟨n, above⟩ ∨
      ∃ parent rest, l.above = parent :: rest ∧ ⟨parent, rest⟩ ∈ n.lineages above ∧
        l.node ∈ parent.children
  | ⟨i, cs⟩, above, h => by
    rw [lineages] at h
    rcases List.mem_cons.mp h with rfl | h
    · exact .inl rfl
    · refine .inr ?_
      rw [lineages]
      rcases parent_of_mem_lineagesOf h with ⟨habove, hnode⟩ | ⟨parent, rest, habove, hmem, hnode⟩
      · -- a child of the node itself
        exact ⟨⟨i, cs⟩, above, habove, List.mem_cons_self, hnode⟩
      · exact ⟨parent, rest, habove, List.mem_cons_of_mem _ hmem, hnode⟩
theorem parent_of_mem_lineagesOf {l : Lineage} : ∀ {ns : List Node} {above : List Node},
    l ∈ lineagesOf above ns → (l.above = above ∧ l.node ∈ ns) ∨
      ∃ parent rest, l.above = parent :: rest ∧ ⟨parent, rest⟩ ∈ lineagesOf above ns ∧
        l.node ∈ parent.children
  | [], _, h => absurd h List.not_mem_nil
  | n :: rest, above, h => by
    rw [lineagesOf] at h ⊢
    rcases List.mem_append.mp h with h | h
    · rcases parent_of_mem_lineages h with rfl | ⟨parent, rest', habove, hmem, hnode⟩
      · exact .inl ⟨rfl, List.mem_cons_self⟩
      · exact .inr ⟨parent, rest', habove, List.mem_append_left _ hmem, hnode⟩
    · rcases parent_of_mem_lineagesOf h with ⟨habove, hnode⟩ | ⟨parent, rest', habove, hmem, hnode⟩
      · exact .inl ⟨habove, List.mem_cons_of_mem _ hnode⟩
      · exact .inr ⟨parent, rest', habove, List.mem_append_right _ hmem, hnode⟩
end

theorem mem_lineagesOf {m : Node} {ns : List Node} (hm : m ∈ ns) (above : List Node) :
    ⟨m, above⟩ ∈ lineagesOf above ns := by
  induction ns with
  | nil => exact absurd hm List.not_mem_nil
  | cons n rest ih =>
    rw [lineagesOf]
    rcases List.mem_cons.mp hm with rfl | hm
    · rw [lineages_eq_cons]
      exact List.mem_append_left _ List.mem_cons_self
    · exact List.mem_append_right _ (ih hm)

mutual
/-- The children of a node have their places directly below it. -/
theorem child_mem_lineages {parent m : Node} {rest : List Node} (hm : m ∈ parent.children) :
    ∀ {n : Node} {above : List Node}, ⟨parent, rest⟩ ∈ n.lineages above →
      ⟨m, parent :: rest⟩ ∈ n.lineages above
  | ⟨i, cs⟩, above, h => by
    rw [lineages] at h ⊢
    rcases List.mem_cons.mp h with h | h
    · obtain ⟨rfl, rfl⟩ := Lineage.mk.inj h
      exact List.mem_cons_of_mem _ (mem_lineagesOf hm _)
    · exact List.mem_cons_of_mem _ (child_mem_lineagesOf hm h)
theorem child_mem_lineagesOf {parent m : Node} {rest : List Node} (hm : m ∈ parent.children) :
    ∀ {ns : List Node} {above : List Node}, ⟨parent, rest⟩ ∈ lineagesOf above ns →
      ⟨m, parent :: rest⟩ ∈ lineagesOf above ns
  | [], _, h => absurd h List.not_mem_nil
  | n :: ns, above, h => by
    rw [lineagesOf] at h ⊢
    rcases List.mem_append.mp h with h | h
    · exact List.mem_append_left _ (child_mem_lineages hm h)
    · exact List.mem_append_right _ (child_mem_lineagesOf hm h)
end

/-- What stands above a node is the way up to the root, from child to parent. -/
theorem isChain_of_mem_lineages {root : Node} {l : Lineage} (h : l ∈ root.lineages []) :
    (l.node :: l.above).IsChain (fun n parent => n ∈ parent.children) ∧
      (l.node :: l.above).getLast? = some root := by
  obtain ⟨node, above⟩ := l
  -- going up one node at a time
  induction above generalizing node with
  | nil =>
    rcases parent_of_mem_lineages h with h | ⟨parent, rest, habove, -⟩
    · obtain ⟨rfl, -⟩ := Lineage.mk.inj h
      exact ⟨List.IsChain.singleton _, rfl⟩
    · cases habove
  | cons parent above ih =>
    rcases parent_of_mem_lineages h with h | ⟨parent', rest, habove, hmem, hnode⟩
    · cases (Lineage.mk.inj h).2
    · obtain ⟨rfl, rfl⟩ := List.cons.inj habove
      obtain ⟨hchain, hlast⟩ := ih parent hmem
      refine ⟨List.isChain_cons_cons.mpr ⟨hnode, hchain⟩, ?_⟩
      rw [List.getLast?_cons_cons]
      exact hlast

/-! ### What is shown -/

mutual
/-- Nothing is shown below a collapsed node. -/
theorem filter_isShown_lineages_eq_nil {above : List Node} (h : ∃ m ∈ above, m.isCollapsed) :
    ∀ n : Node, (n.lineages above).filter Lineage.isShown = []
  | ⟨i, cs⟩ => by
    obtain ⟨m, hm, hcollapsed⟩ := h
    have hhere : ¬ Lineage.isShown ⟨⟨i, cs⟩, above⟩ := by
      intro hshown
      have hopen := List.all_eq_true.mp hshown m hm
      rw [hcollapsed] at hopen
      cases hopen
    rw [lineages, List.filter_cons_of_neg hhere]
    exact filter_isShown_lineagesOf_eq_nil ⟨m, List.mem_cons_of_mem _ hm, hcollapsed⟩ cs
theorem filter_isShown_lineagesOf_eq_nil {above : List Node} (h : ∃ m ∈ above, m.isCollapsed) :
    ∀ ns : List Node, (lineagesOf above ns).filter Lineage.isShown = []
  | [] => rfl
  | n :: rest => by
    rw [lineagesOf, List.filter_append, filter_isShown_lineages_eq_nil h n,
      filter_isShown_lineagesOf_eq_nil h rest]
    rfl
end

/-- Of the places at a shown node and below it, the node itself is shown, and beyond it what is
shown below its children, unless it is collapsed. -/
theorem filter_isShown_lineages {above : List Node} (h : ∀ m ∈ above, m.isCollapsed = false)
    (n : Node) : (n.lineages above).filter Lineage.isShown =
      ⟨n, above⟩ :: if n.isCollapsed then []
        else (lineagesOf (n :: above) n.children).filter Lineage.isShown := by
  have hhere : Lineage.isShown ⟨n, above⟩ := by
    refine List.all_eq_true.mpr fun m hm => ?_
    rw [h m hm]
    rfl
  rw [lineages_eq_cons, List.filter_cons_of_pos hhere]
  split
  next hn => rw [filter_isShown_lineagesOf_eq_nil ⟨n, List.mem_cons_self, hn⟩]
  next => rfl

mutual
/-- The walk over the visible nodes meets those that are shown, in their order. -/
theorem visible_eq_map_lineages : ∀ (n : Node) {above : List Node},
    (∀ m ∈ above, m.isCollapsed = false) →
    n.visible = ((n.lineages above).filter Lineage.isShown).map Lineage.node
  | ⟨i, cs⟩, above, h => by
    rw [visible, filter_isShown_lineages h, List.map_cons, children_mk]
    change _ = _ :: List.map _ (if i.collapsed.getD false then _ else _)
    split
    next => rfl
    next hopen =>
      rw [visibleOf_eq_map_lineages cs (List.forall_mem_cons.mpr ⟨?_, h⟩)]
      exact Bool.eq_false_iff.mpr hopen
theorem visibleOf_eq_map_lineages : ∀ (ns : List Node) {above : List Node},
    (∀ m ∈ above, m.isCollapsed = false) →
    visibleOf ns = ((lineagesOf above ns).filter Lineage.isShown).map Lineage.node
  | [], _, _ => rfl
  | n :: rest, above, h => by
    rw [visibleOf, lineagesOf, List.filter_append, List.map_append, visible_eq_map_lineages n h,
      visibleOf_eq_map_lineages rest h]
end

/-- A shown node is the topmost one, or its parent is shown. -/
theorem shown_parent {l : Lineage} {n : Node} {above : List Node}
    (h : l ∈ (n.lineages above).filter Lineage.isShown) : l = ⟨n, above⟩ ∨
      ∃ parent rest, l.above = parent :: rest ∧
        ⟨parent, rest⟩ ∈ (n.lineages above).filter Lineage.isShown := by
  obtain ⟨hl, hshown⟩ := List.mem_filter.mp h
  rcases parent_of_mem_lineages hl with rfl | ⟨parent, rest, habove, hmem, -⟩
  · exact .inl rfl
  · refine .inr ⟨parent, rest, habove, List.mem_filter.mpr ⟨hmem, ?_⟩⟩
    -- what is above the parent is above the node
    rw [Lineage.isShown, habove, List.all_cons, Bool.and_eq_true] at hshown
    exact hshown.2

end Node

/-! ### Edges -/

/-- An edge leads from the parent of a node to the node. Its style is that of the edges of a root if
the parent is a root. -/
def Lineage.JoinedBy (rootStyle : EdgeStyle) (l : Lineage) (e : Edge) : Prop :=
  ∃ parent, l.above.head? = some parent ∧
    e = ⟨parent.id, l.node.id, if parent.kind = .root then rootStyle else .solid⟩

namespace Node

mutual
/-- **Every shown node below a shown one is joined to its parent by an edge**, in the same order,
and there are no other edges. -/
theorem joinedBy_edges (rootStyle : EdgeStyle) : ∀ (n : Node) {above : List Node},
    (∀ m ∈ above, m.isCollapsed = false) →
    List.Forall₂ (Lineage.JoinedBy rootStyle)
      ((n.lineages above).filter Lineage.isShown).tail (n.edges rootStyle)
  | ⟨i, cs⟩, above, h => by
    rw [filter_isShown_lineages h, edges, List.tail_cons, children_mk]
    change List.Forall₂ _ (if i.collapsed.getD false then _ else _) _
    split
    next => exact List.Forall₂.nil
    next hopen =>
      exact joinedBy_edgesFrom rootStyle ⟨i, cs⟩ cs
        (List.forall_mem_cons.mpr ⟨Bool.eq_false_iff.mpr hopen, h⟩)
/-- Children of one node are joined to it, each before what is below it. -/
theorem joinedBy_edgesFrom (rootStyle : EdgeStyle) (parent : Node) :
    ∀ (ns : List Node) {above : List Node},
    (∀ m ∈ parent :: above, m.isCollapsed = false) →
    List.Forall₂ (Lineage.JoinedBy rootStyle)
      ((lineagesOf (parent :: above) ns).filter Lineage.isShown)
      (edgesFrom rootStyle parent.id (if parent.kind = .root then rootStyle else .solid) ns)
  | [], _, _ => List.Forall₂.nil
  | n :: rest, above, h => by
    have hn := joinedBy_edges rootStyle n h
    rw [filter_isShown_lineages h, List.tail_cons] at hn
    rw [lineagesOf, edgesFrom, List.filter_append, filter_isShown_lineages h]
    -- the edge to the child itself, those below it, and those to its siblings
    exact List.rel_append (List.Forall₂.cons ⟨parent, rfl, rfl⟩ hn)
      (joinedBy_edgesFrom rootStyle parent rest h)
end

end Node

/-- The shown places of a tree, in pre-order. -/
def Tree.shown (t : Tree) : List Lineage := (t.root.lineages []).filter Lineage.isShown

namespace Tree

theorem map_node_shown (t : Tree) : t.shown.map Lineage.node = t.root.visible :=
  (Node.visible_eq_map_lineages t.root (List.forall_mem_nil _)).symm

/-- The root is always shown, and first of all. -/
theorem shown_eq_cons (t : Tree) : t.shown = ⟨t.root, []⟩ :: t.shown.tail := by
  rw [shown, Node.filter_isShown_lineages (List.forall_mem_nil _)]
  rfl

/-- Every edge joins two visible nodes. -/
theorem visible_of_mem_edges {t : Tree} {e : Edge} (he : e ∈ t.edges) :
    e.parent ∈ t.root.visibleIds ∧ e.child ∈ t.root.visibleIds := by
  have hvisible : ∀ l ∈ t.shown, l.node.id ∈ t.root.visibleIds := by
    intro l hl
    rw [Node.visibleIds, ← map_node_shown, List.map_map]
    exact List.mem_map_of_mem hl
  obtain ⟨l, hl, parent, hparent, rfl⟩ := exists_left_of_forall₂
    (Node.joinedBy_edges t.rootStyle t.root (List.forall_mem_nil _)) he
  have hl : l ∈ t.shown := List.mem_of_mem_tail hl
  refine ⟨?_, hvisible l hl⟩
  rcases Node.shown_parent hl with rfl | ⟨parent', rest, habove, hmem⟩
  · -- the root has no parent
    cases hparent
  · rw [habove, List.head?_cons] at hparent
    obtain rfl := Option.some.inj hparent
    exact hvisible _ hmem

end Tree

end ClusterMap
