import ClusterMap.Proofs.Tree.Flags
import ClusterMap.Tree.Edge

/-!
# What collapsed nodes hide

`Node.trimmed` cuts away everything below collapsed nodes, and leaves only whether there was
anything: one blank child in place of all. Two trees differ only in what they hide if they are equal
once trimmed.

Trimming keeps the visible nodes, each of them trimmed itself (`Node.visible_trimmed`), and the
edges between them (`Tree.edges_trimmed`). A search goes through hidden nodes too, but where
identifiers are different it finds a visible node without being misled by them
(`Tree.map_find?_congr`).
-/

namespace ClusterMap

namespace Node

mutual
/-- The node without what is hidden below it. -/
def trimmed : Node → Node
  | ⟨i, cs⟩ =>
    ⟨i, if i.collapsed.getD false then (if cs.isEmpty then [] else [default]) else trimmedOf cs⟩
/-- The nodes of a list without what is hidden below them. -/
def trimmedOf : List Node → List Node
  | [] => []
  | n :: rest => n.trimmed :: trimmedOf rest
end

end Node

/-- The tree without what is hidden. -/
def Tree.trimmed (t : Tree) : Tree := { t with root := t.root.trimmed }

namespace Node

@[simp] theorem info_trimmed (n : Node) : n.trimmed.info = n.info := by
  obtain ⟨i, cs⟩ := n
  rw [trimmed, info_mk, info_mk]

@[simp] theorem id_trimmed (n : Node) : n.trimmed.id = n.id :=
  congrArg NodeInfo.id n.info_trimmed

@[simp] theorem length_trimmedOf (ns : List Node) : (trimmedOf ns).length = ns.length := by
  induction ns with
  | nil => rfl
  | cons n rest ih => rw [trimmedOf, List.length_cons, List.length_cons, ih]

@[simp] theorem isEmpty_trimmedOf (ns : List Node) : (trimmedOf ns).isEmpty = ns.isEmpty := by
  cases ns <;> rfl

/-- Trimming keeps whether there is anything below a node. -/
@[simp] theorem isEmpty_children_trimmed (n : Node) :
    n.trimmed.children.isEmpty = n.children.isEmpty := by
  obtain ⟨i, cs⟩ := n
  rw [trimmed, children_mk, children_mk]
  by_cases hi : i.collapsed.getD false
  · rw [if_pos hi]
    cases cs <;> rfl
  · rw [if_neg hi, isEmpty_trimmedOf]

/-- Where a node is not collapsed, trimming keeps its children, each of them trimmed. -/
theorem children_trimmed {n : Node} (h : n.isCollapsed = false) :
    n.trimmed.children = trimmedOf n.children := by
  obtain ⟨i, cs⟩ := n
  rw [trimmed, children_mk, children_mk]
  exact if_neg (Bool.eq_false_iff.mp h)

/-! ### Walks -/

mutual
/-- Trimming keeps what is visible. -/
theorem visible_trimmed : ∀ n : Node, n.trimmed.visible = n.visible.map trimmed
  | ⟨i, cs⟩ => by
    rw [trimmed, visible, visible, List.map_cons, trimmed]
    split
    · rfl
    · rw [visibleOf_trimmedOf cs]
theorem visibleOf_trimmedOf : ∀ ns : List Node,
    visibleOf (trimmedOf ns) = (visibleOf ns).map trimmed
  | [] => rfl
  | n :: rest => by
    rw [trimmedOf, visibleOf, visibleOf, List.map_append, visible_trimmed n,
      visibleOf_trimmedOf rest]
end

mutual
/-- Trimming keeps the edges. -/
theorem edges_trimmed (rootStyle : EdgeStyle) : ∀ n : Node,
    n.trimmed.edges rootStyle = n.edges rootStyle
  | ⟨i, cs⟩ => by
    rw [trimmed, edges, edges]
    split
    · rfl
    · exact edgesFrom_trimmedOf rootStyle i.id _ cs
theorem edgesFrom_trimmedOf (rootStyle : EdgeStyle) (parent : String) (style : EdgeStyle) :
    ∀ ns : List Node,
    edgesFrom rootStyle parent style (trimmedOf ns) = edgesFrom rootStyle parent style ns
  | [] => rfl
  | n :: rest => by
    rw [trimmedOf, edgesFrom, edgesFrom, id_trimmed, edges_trimmed rootStyle n,
      edgesFrom_trimmedOf rootStyle parent style rest]
end

/-! ### Searches -/

/-- Where identifiers are different, a search for a visible node need not look at hidden ones. -/
theorem DistinctIds.find?_eq_find?_visible {n : Node} (hd : n.DistinctIds) {id : String}
    (h : id ∈ n.visibleIds) : n.find? id = n.visible.find? (·.id == id) := by
  obtain ⟨m, hm, rfl⟩ := List.mem_map.mp h
  have hnodup : (n.visible.map Node.id).Nodup := (n.visible_sublist.map Node.id).nodup hd
  rw [find?_of_nodup_map hnodup hm]
  exact hd.find?_eq_some_iff.mpr ⟨n.visible_sublist.subset hm, rfl⟩

/-- Where identifiers are different, what a search for a visible node finds is visible after
trimming. -/
theorem DistinctIds.map_trimmed_find? {n : Node} (hd : n.DistinctIds) {id : String}
    (h : id ∈ n.visibleIds) :
    (n.find? id).map trimmed = n.trimmed.visible.find? (·.id == id) := by
  -- the test of the search does not see what is cut away
  have hid : (fun m : Node => m.id == id) ∘ trimmed = fun m : Node => m.id == id := by
    funext m
    exact congrArg (· == id) m.id_trimmed
  rw [hd.find?_eq_find?_visible h, visible_trimmed, List.find?_map, hid]

end Node

namespace Tree

variable {t t' : Tree}

theorem visibleIds_trimmed (t : Tree) : t.trimmed.root.visibleIds = t.root.visibleIds := by
  rw [Node.visibleIds, trimmed, Node.visible_trimmed, List.map_map]
  exact List.map_congr_left fun n _ => n.id_trimmed

/-- A root that is not collapsed keeps its children. -/
theorem isMulti_trimmed (ho : t.root.isCollapsed = false) : t.trimmed.isMulti = t.isMulti := by
  rw [isMulti, isMulti, trimmed, Node.children_trimmed ho, Node.length_trimmedOf]

theorem edges_trimmed (ho : t.root.isCollapsed = false) : t.trimmed.edges = t.edges := by
  rw [edges, edges, rootStyle, rootStyle, isMulti_trimmed ho]
  exact Node.edges_trimmed _ t.root

/-- **A search is not misled by hidden nodes.** In two trees that differ only in what they hide,
searches for a visible node find nodes that hold the same and that both have children or both have
none. -/
theorem map_find?_congr (h : t.trimmed = t'.trimmed) (hd : t.root.DistinctIds)
    (hd' : t'.root.DistinctIds) {id : String} (hid : id ∈ t.root.visibleIds) {β : Type}
    {f : Node → β}
    (hf : ∀ n n' : Node, n.info = n'.info → n.children.isEmpty = n'.children.isEmpty → f n = f n') :
    (t.find? id).map f = (t'.find? id).map f := by
  have hid' : id ∈ t'.root.visibleIds := by rwa [← visibleIds_trimmed, ← h, visibleIds_trimmed]
  have hroot : t.root.trimmed = t'.root.trimmed := congrArg Tree.root h
  have hkept : ∀ n : Node, f n = f n.trimmed := fun n =>
    hf n n.trimmed n.info_trimmed.symm n.isEmpty_children_trimmed.symm
  have htrimmed : ∀ o : Option Node, o.map f = (o.map Node.trimmed).map f := by
    intro o
    rw [Option.map_map]
    exact congrArg (Option.map · o) (funext hkept)
  calc (t.find? id).map f
      = (t.root.trimmed.visible.find? (·.id == id)).map f := by
        rw [htrimmed, find?, hd.map_trimmed_find? hid]
    _ = (t'.root.trimmed.visible.find? (·.id == id)).map f := by rw [hroot]
    _ = (t'.find? id).map f := by
        rw [htrimmed (t'.find? id), find?, hd'.map_trimmed_find? hid']

end Tree

end ClusterMap
