import ClusterMap.Tree.Basic
import Mathlib.Data.List.Infix

/-!
# The outline of the visible tree

A visible node is a leaf if nothing is visible below it. Numbered in pre-order, the leaves below a
node have numbers one after another, so its depth and the numbers of its first and its last leaf say
where it stands among the others (`Spot`). The outline of a tree lists the visible nodes in
pre-order, each with these (`Node.outline`).

* `Node.map_first_outline` — the leaves of an outline are numbered in their order;
* `Node.outline_isInfix` — below each of its nodes, an outline is the outline of that node, so the
  numbering holds for every node and not for the root alone;
* `Node.pairwise_outline` — of two nodes, the first is above the other or all its leaves come before
  those of the other.
-/

namespace ClusterMap

namespace Node

/-- Whether nothing is visible below the node. -/
def isLeaf (n : Node) : Bool := n.isCollapsed || n.children.isEmpty

/-- The visible leaves, in pre-order. -/
def leaves (n : Node) : List Node := n.visible.filter isLeaf

/-- The visible leaves below all nodes of a list. -/
def leavesOf (ns : List Node) : List Node := (visibleOf ns).filter isLeaf

end Node

/-- Where a visible node stands: how deep, and from which leaf on. -/
structure Spot where
  node : Node
  depth : Nat
  /-- The number of the first leaf below the node, or of the node itself if it is a leaf. -/
  first : Nat

namespace Spot

/-- The number of the last leaf below the node. -/
def last (s : Spot) : Nat := s.first + (s.node.leaves.length - 1)

/-- The first is above the second, or all its leaves come before those of the second. -/
def Precedes (s s' : Spot) : Prop := s.depth < s'.depth ∨ s.last < s'.first

end Spot

namespace Node

mutual
/-- The visible nodes with their depths and leaves, where the node itself stands at a depth and its
first leaf has a number. -/
def outline (depth first : Nat) : Node → List Spot
  | ⟨i, cs⟩ => ⟨⟨i, cs⟩, depth, first⟩ ::
      if i.collapsed.getD false then [] else outlineOf (depth + 1) first cs
/-- The outlines of siblings, one after another. -/
def outlineOf (depth first : Nat) : List Node → List Spot
  | [] => []
  | n :: rest => n.outline depth first ++ outlineOf depth (first + n.leaves.length) rest
end

/-! ### Leaves and branches -/

section Cases

variable {n : Node} {depth first : Nat}

@[simp] theorem leavesOf_nil : leavesOf [] = [] := rfl

@[simp] theorem leavesOf_cons (n : Node) (rest : List Node) :
    leavesOf (n :: rest) = n.leaves ++ leavesOf rest := by
  rw [leavesOf, visibleOf, List.filter_append]
  rfl

theorem leaves_of_isLeaf (h : n.isLeaf) : n.leaves = [n] := by
  obtain ⟨i, cs⟩ := n
  -- collapsed or childless, the node has nothing visible below it
  have hbelow : (if i.collapsed.getD false then [] else visibleOf cs) = [] := by
    rcases (Bool.or_eq_true _ _).mp h with hc | hc
    · exact if_pos hc
    · obtain rfl : cs = [] := List.isEmpty_iff.mp hc
      exact ite_self _
  rw [leaves, visible, hbelow]
  exact List.filter_cons_of_pos h

theorem children_ne_nil_of_not_isLeaf (h : n.isLeaf = false) : n.children ≠ [] := by
  intro hnil
  rw [isLeaf, hnil, List.isEmpty_nil, Bool.or_true] at h
  cases h

theorem leaves_of_not_isLeaf (h : n.isLeaf = false) : n.leaves = leavesOf n.children := by
  obtain ⟨i, cs⟩ := n
  have hopen : ¬ i.collapsed.getD false := by
    rw [Bool.not_eq_true]
    exact (Bool.or_eq_false_iff.mp h).1
  rw [leaves, visible, if_neg hopen, List.filter_cons_of_neg (by rw [h]; exact Bool.false_ne_true)]
  rfl

theorem outline_of_isLeaf (h : n.isLeaf) : n.outline depth first = [⟨n, depth, first⟩] := by
  obtain ⟨i, cs⟩ := n
  rw [outline]
  rcases (Bool.or_eq_true _ _).mp h with hc | hc
  · rw [if_pos (by exact hc)]
  · obtain rfl : cs = [] := List.isEmpty_iff.mp hc
    rw [outlineOf, ite_self]

theorem outline_of_not_isLeaf (h : n.isLeaf = false) :
    n.outline depth first = ⟨n, depth, first⟩ :: outlineOf (depth + 1) first n.children := by
  obtain ⟨i, cs⟩ := n
  have hopen : ¬ i.collapsed.getD false := by
    rw [Bool.not_eq_true]
    exact (Bool.or_eq_false_iff.mp h).1
  rw [outline, if_neg hopen]
  rfl

end Cases

mutual
/-- Every node has a leaf. -/
theorem length_leaves_pos : ∀ n : Node, 0 < n.leaves.length
  | ⟨i, cs⟩ => by
    cases h : (Node.mk i cs).isLeaf with
    | true =>
      rw [leaves_of_isLeaf h]
      exact Nat.one_pos
    | false =>
      -- there is a child, and by induction on the children each of them has a leaf
      rw [leaves_of_not_isLeaf h]
      have hne : cs ≠ [] := children_ne_nil_of_not_isLeaf h
      exact Nat.lt_of_lt_of_le (List.length_pos_iff.mpr hne) (length_le_length_leavesOf cs)
/-- There are no fewer leaves than nodes above them. -/
theorem length_le_length_leavesOf : ∀ ns : List Node, ns.length ≤ (leavesOf ns).length
  | [] => Nat.le_refl _
  | n :: rest => by
    have hn := length_leaves_pos n
    have hrest := length_le_length_leavesOf rest
    rw [leavesOf_cons, List.length_append, List.length_cons]
    omega
end

end Node

namespace Spot

theorem first_le_last (s : Spot) : s.first ≤ s.last := Nat.le_add_right _ _

theorem last_of_isLeaf {s : Spot} (h : s.node.isLeaf) : s.last = s.first := by
  rw [last, Node.leaves_of_isLeaf h]
  rfl

/-- The leaves of a node have as many numbers as there are leaves. -/
theorem last_add_one (s : Spot) : s.last + 1 = s.first + s.node.leaves.length := by
  have hpos := s.node.length_leaves_pos
  rw [last]
  omega

end Spot

namespace Node

/-! ### What an outline lists -/

mutual
theorem map_node_outline : ∀ (n : Node) (depth first : Nat),
    (n.outline depth first).map Spot.node = n.visible
  | ⟨i, cs⟩, depth, first => by
    rw [outline, visible, List.map_cons]
    split
    · rfl
    · rw [map_node_outlineOf cs]
theorem map_node_outlineOf : ∀ (ns : List Node) (depth first : Nat),
    (outlineOf depth first ns).map Spot.node = visibleOf ns
  | [], _, _ => rfl
  | n :: rest, depth, first => by
    rw [outlineOf, visibleOf, List.map_append, map_node_outline n, map_node_outlineOf rest]
end

mutual
/-- **The leaves are numbered in pre-order**, from the given number on. -/
theorem map_first_outline : ∀ (n : Node) (depth first : Nat),
    ((n.outline depth first).filter (·.node.isLeaf)).map Spot.first =
      List.range' first n.leaves.length
  | ⟨i, cs⟩, depth, first => by
    cases h : (Node.mk i cs).isLeaf with
    | true =>
      rw [outline_of_isLeaf h, leaves_of_isLeaf h,
        List.filter_cons_of_pos (p := fun s : Spot => s.node.isLeaf) h]
      rfl
    | false =>
      -- a branch itself has no number
      rw [outline_of_not_isLeaf h, leaves_of_not_isLeaf h,
        List.filter_cons_of_neg (p := fun s : Spot => s.node.isLeaf)
          (by rw [h]; exact Bool.false_ne_true)]
      exact map_first_outlineOf cs (depth + 1) first
theorem map_first_outlineOf : ∀ (ns : List Node) (depth first : Nat),
    ((outlineOf depth first ns).filter (·.node.isLeaf)).map Spot.first =
      List.range' first (leavesOf ns).length
  | [], _, _ => rfl
  | n :: rest, depth, first => by
    -- the numbers of the next sibling go on where those of the first one end
    rw [outlineOf, List.filter_append, List.map_append, map_first_outline n,
      map_first_outlineOf rest, leavesOf_cons, List.length_append, List.range'_append_1]
end

mutual
/-- Below each of its nodes, an outline is the outline of that node. -/
theorem outline_isInfix : ∀ {n : Node} {depth first : Nat} {s : Spot},
    s ∈ n.outline depth first → s.node.outline s.depth s.first <:+: n.outline depth first
  | ⟨i, cs⟩, depth, first, s, hs => by
    rw [outline] at hs
    rcases List.mem_cons.mp hs with rfl | hs
    · exact List.infix_rfl
    · rw [outline]
      split at hs
      next => exact absurd hs List.not_mem_nil
      next hopen =>
        -- below an expanded node, it is below one of the children
        rw [if_neg hopen]
        exact List.infix_cons (outlineOf_isInfix hs)
theorem outlineOf_isInfix : ∀ {ns : List Node} {depth first : Nat} {s : Spot},
    s ∈ outlineOf depth first ns → s.node.outline s.depth s.first <:+: outlineOf depth first ns
  | [], _, _, _, hs => absurd hs List.not_mem_nil
  | n :: rest, depth, first, s, hs => by
    rw [outlineOf] at hs ⊢
    rcases List.mem_append.mp hs with hs | hs
    · exact (outline_isInfix hs).trans (List.prefix_append _ _).isInfix
    · exact (outlineOf_isInfix hs).trans (List.suffix_append _ _).isInfix
end

/-! ### The order of an outline -/

mutual
/-- What is listed is no higher than the node, and its leaves are among those of the node. -/
theorem bounds_of_mem_outline : ∀ {n : Node} {depth first : Nat} {s : Spot},
    s ∈ n.outline depth first →
      depth ≤ s.depth ∧ first ≤ s.first ∧ s.last < first + n.leaves.length
  | ⟨i, cs⟩, depth, first, s, hs => by
    cases h : (Node.mk i cs).isLeaf with
    | true =>
      rw [outline_of_isLeaf h] at hs
      obtain rfl := List.mem_singleton.mp hs
      exact ⟨Nat.le_refl _, Nat.le_refl _, Nat.le_of_eq (Spot.last_add_one _)⟩
    | false =>
      rw [outline_of_not_isLeaf h] at hs
      rcases List.mem_cons.mp hs with rfl | hs
      · exact ⟨Nat.le_refl _, Nat.le_refl _, Nat.le_of_eq (Spot.last_add_one _)⟩
      · -- the children stand one row lower and have the leaves of the node
        obtain ⟨hdepth, hfirst, hlast⟩ := bounds_of_mem_outlineOf hs
        rw [leaves_of_not_isLeaf h]
        exact ⟨Nat.le_of_succ_le hdepth, hfirst, hlast⟩
theorem bounds_of_mem_outlineOf : ∀ {ns : List Node} {depth first : Nat} {s : Spot},
    s ∈ outlineOf depth first ns →
      depth ≤ s.depth ∧ first ≤ s.first ∧ s.last < first + (leavesOf ns).length
  | [], _, _, _, hs => absurd hs List.not_mem_nil
  | n :: rest, depth, first, s, hs => by
    rw [outlineOf] at hs
    rw [leavesOf_cons, List.length_append]
    rcases List.mem_append.mp hs with hs | hs
    · obtain ⟨hdepth, hfirst, hlast⟩ := bounds_of_mem_outline hs
      exact ⟨hdepth, hfirst, by omega⟩
    · obtain ⟨hdepth, hfirst, hlast⟩ := bounds_of_mem_outlineOf hs
      exact ⟨hdepth, by omega, by omega⟩
end

mutual
/-- **The order of an outline.** -/
theorem pairwise_outline : ∀ (n : Node) (depth first : Nat),
    (n.outline depth first).Pairwise Spot.Precedes
  | ⟨i, cs⟩, depth, first => by
    cases h : (Node.mk i cs).isLeaf with
    | true =>
      rw [outline_of_isLeaf h]
      exact List.pairwise_singleton _ _
    | false =>
      -- the node is above everything else in its outline
      rw [outline_of_not_isLeaf h]
      refine List.pairwise_cons.mpr ⟨fun s hs => Or.inl ?_, pairwise_outlineOf cs _ _⟩
      exact (bounds_of_mem_outlineOf hs).1
theorem pairwise_outlineOf : ∀ (ns : List Node) (depth first : Nat),
    (outlineOf depth first ns).Pairwise Spot.Precedes
  | [], _, _ => List.Pairwise.nil
  | n :: rest, depth, first => by
    rw [outlineOf]
    refine List.pairwise_append.mpr
      ⟨pairwise_outline n _ _, pairwise_outlineOf rest _ _, fun s hs s' hs' => Or.inr ?_⟩
    -- the leaves of the first sibling come before those of the others
    exact Nat.lt_of_lt_of_le (bounds_of_mem_outline hs).2.2 (bounds_of_mem_outlineOf hs').2.1
end

end Node

end ClusterMap
