import ClusterMap.Proofs.Layout.Fit
import ClusterMap.Proofs.Tree.Outline
import ClusterMap.Snapshot.Sample
import ClusterMap.Tree.Build
import Mathlib.Tactic.Linarith

/-!
# Columns and rows

In exact arithmetic the layout of a tree has a closed form (`Spot.anchor`). Every visible leaf has a
column of its own, in pre-order from left to right, and the columns are centred on the origin. Every
other visible node stands half-way between its first and its last leaf, and how deep it is says in
which row it stands.

The layout itself is worked out from widths: the visible tree below a node is as wide as the columns
of its leaves (`Node.subtreeWidth_eq`), so centring a node over its children never moves the
children (`Node.place_eq`). This needs widths and gaps that are not negative.
-/

namespace ClusterMap

/-! ### The grid -/

namespace LayoutConfig

/-- From one column to the next. -/
def columnPitch (c : LayoutConfig Rat) : Rat := c.nominalNode.width + c.horizontalGap

/-- From one row to the next. -/
def rowPitch (c : LayoutConfig Rat) : Rat := c.nominalNode.height + c.verticalGap

/-- Where a column stands, of several that are centred on the origin. -/
def columnX (c : LayoutConfig Rat) (count number : Nat) : Rat :=
  (number - (count - 1) / 2) * c.columnPitch

/-- The width of several columns next to each other, without the gap at the end. -/
def columnsWidth (c : LayoutConfig Rat) (count : Nat) : Rat :=
  count * c.columnPitch - c.horizontalGap

end LayoutConfig

namespace Spot

/-- Where a visible node stands in a tree with a number of leaves: a leaf in its own column, any
other node half-way between its first and its last leaf. -/
def anchor (c : LayoutConfig Rat) (count : Nat) (s : Spot) : Point Rat where
  x := if s.node.isLeaf then c.columnX count s.first
    else (c.columnX count s.first + c.columnX count s.last) / 2
  y := s.depth * c.rowPitch

/-- The node at its place. -/
def position (c : LayoutConfig Rat) (count : Nat) (s : Spot) : NodePosition Rat :=
  ⟨s.node.id, s.node.kind, s.anchor c count⟩

theorem columnX_last (c : LayoutConfig Rat) (count : Nat) (s : Spot) :
    c.columnX count s.last =
      c.columnX count s.first + (s.node.leaves.length - 1) * c.columnPitch := by
  -- from the first to the last leaf there are as many steps as there are further leaves
  have hlast : (s.last + 1 : Rat) = s.first + s.node.leaves.length := by
    exact_mod_cast s.last_add_one
  rw [LayoutConfig.columnX, LayoutConfig.columnX, eq_sub_of_add_eq hlast]
  ring

/-- A node stands half-way between its first and its last leaf, also if it is a leaf. -/
theorem anchor_x (c : LayoutConfig Rat) (count : Nat) (s : Spot) :
    (s.anchor c count).x = (c.columnX count s.first + c.columnX count s.last) / 2 := by
  unfold anchor
  dsimp only
  split
  next h =>
    rw [last_of_isLeaf h]
    ring
  next => rfl

end Spot

namespace Node

/-! ### Widths -/

section Widths

variable {c : LayoutConfig Rat}

theorem subtreeWidth_of_isLeaf {n : Node} (h : n.isLeaf) :
    n.subtreeWidth c = c.nominalNode.width := by
  obtain ⟨i, cs⟩ := n
  rw [subtreeWidth]
  exact if_pos h

theorem subtreeWidth_of_not_isLeaf {n : Node} (h : n.isLeaf = false) :
    n.subtreeWidth c = max (childrenWidth c n.children) c.nominalNode.width := by
  obtain ⟨i, cs⟩ := n
  rw [subtreeWidth, ← Scalar.max_rat]
  exact if_neg (by rw [Bool.not_eq_true]; exact h)

theorem place_of_isLeaf {n : Node} (h : n.isLeaf) (left : Rat) (depth : Nat) :
    n.place c left depth =
      [⟨n.id, n.kind, ⟨left + n.subtreeWidth c / 2, depth * c.rowPitch⟩⟩] := by
  obtain ⟨i, cs⟩ := n
  rw [place]
  exact if_pos h

theorem place_of_not_isLeaf {n : Node} (h : n.isLeaf = false) (left : Rat) (depth : Nat) :
    n.place c left depth = ⟨n.id, n.kind, ⟨left + n.subtreeWidth c / 2, depth * c.rowPitch⟩⟩ ::
      placeRow c (left + (n.subtreeWidth c - childrenWidth c n.children) / 2) (depth + 1)
        n.children := by
  obtain ⟨i, cs⟩ := n
  rw [place]
  exact if_neg (by rw [Bool.not_eq_true]; exact h)

theorem childrenWidth_of_sumWidths {ns : List Node} (hne : ns ≠ []) {k : Nat}
    (hsum : sumWidths c 0 ns = k * c.columnPitch - ns.length * c.horizontalGap) :
    childrenWidth c ns = c.columnsWidth k := by
  -- a row has one gap less than it has nodes
  have hrow : childrenWidth c ns = sumWidths c 0 ns + c.horizontalGap * (ns.length - 1 : Nat) := rfl
  rw [hrow, hsum, Nat.cast_pred (List.length_pos_iff.mpr hne), LayoutConfig.columnsWidth]
  ring

/-- Any columns are at least as wide as a node. -/
theorem width_le_columnsWidth (hw : 0 ≤ c.nominalNode.width) (hg : 0 ≤ c.horizontalGap) {k : Nat}
    (hk : 0 < k) : c.nominalNode.width ≤ c.columnsWidth k := by
  have hone : (1 : Rat) ≤ k := by exact_mod_cast hk
  have hpitch : 0 ≤ c.columnPitch := add_nonneg hw hg
  calc c.nominalNode.width = 1 * c.columnPitch - c.horizontalGap := by
        rw [LayoutConfig.columnPitch]
        ring
    _ ≤ k * c.columnPitch - c.horizontalGap :=
        sub_le_sub_right (mul_le_mul_of_nonneg_right hone hpitch) _

mutual
/-- **The visible tree below a node is as wide as the columns of its leaves.** -/
theorem subtreeWidth_eq (hw : 0 ≤ c.nominalNode.width) (hg : 0 ≤ c.horizontalGap) :
    ∀ n : Node, n.subtreeWidth c = c.columnsWidth n.leaves.length
  | ⟨i, cs⟩ => by
    cases h : (Node.mk i cs).isLeaf with
    | true =>
      rw [subtreeWidth_of_isLeaf h, leaves_of_isLeaf h, LayoutConfig.columnsWidth,
        LayoutConfig.columnPitch, List.length_singleton]
      ring
    | false =>
      -- the row of the children is never narrower than the node itself, so it decides
      have hne : cs ≠ [] := children_ne_nil_of_not_isLeaf h
      have hsum := sumWidths_eq hw hg cs 0
      rw [zero_add] at hsum
      have hpos : 0 < (leavesOf cs).length :=
        Nat.lt_of_lt_of_le (List.length_pos_iff.mpr hne) (length_le_length_leavesOf cs)
      rw [subtreeWidth_of_not_isLeaf h, leaves_of_not_isLeaf h, children_mk,
        childrenWidth_of_sumWidths hne hsum, max_eq_left (width_le_columnsWidth hw hg hpos)]
/-- Siblings are as wide as the columns of their leaves, without the gaps between the siblings. -/
theorem sumWidths_eq (hw : 0 ≤ c.nominalNode.width) (hg : 0 ≤ c.horizontalGap) :
    ∀ (ns : List Node) (total : Rat), sumWidths c total ns =
      total + ((leavesOf ns).length * c.columnPitch - ns.length * c.horizontalGap)
  | [], total => by
    rw [sumWidths, leavesOf_nil, List.length_nil, Nat.cast_zero, zero_mul, zero_mul, sub_zero,
      add_zero]
  | n :: rest, total => by
    rw [sumWidths, sumWidths_eq hw hg rest, subtreeWidth_eq hw hg n, leavesOf_cons,
      List.length_append, List.length_cons, LayoutConfig.columnsWidth]
    push_cast
    ring
end

section Nonneg

variable (hw : 0 ≤ c.nominalNode.width) (hg : 0 ≤ c.horizontalGap)
include hw hg

theorem childrenWidth_eq {ns : List Node} (hne : ns ≠ []) :
    childrenWidth c ns = c.columnsWidth (leavesOf ns).length :=
  childrenWidth_of_sumWidths hne (by rw [sumWidths_eq hw hg, zero_add])

/-! ### Places -/

/-- A node that starts with the column of its first leaf is placed where it belongs. -/
theorem anchor_eq (count depth first : Nat) (n : Node) :
    (⟨c.columnX count first - c.nominalNode.width / 2 + n.subtreeWidth c / 2,
      depth * c.rowPitch⟩ : Point Rat) = Spot.anchor c count ⟨n, depth, first⟩ := by
  have hx := Spot.anchor_x c count ⟨n, depth, first⟩
  rw [Spot.columnX_last] at hx
  refine congrArg (Point.mk · _) (Eq.trans ?_ hx.symm)
  rw [subtreeWidth_eq hw hg, LayoutConfig.columnsWidth, LayoutConfig.columnPitch]
  ring

mutual
/-- **Where a node is placed.** If the first leaf of a node stands in the column with its number,
everything below the node stands at its place. -/
theorem place_eq (count : Nat) : ∀ (n : Node) (depth first : Nat),
    n.place c (c.columnX count first - c.nominalNode.width / 2) depth =
      (n.outline depth first).map (Spot.position c count)
  | ⟨i, cs⟩, depth, first => by
    cases h : (Node.mk i cs).isLeaf with
    | true =>
      rw [place_of_isLeaf h, anchor_eq hw hg, outline_of_isLeaf h]
      rfl
    | false =>
      -- the row of the children is as wide as the node, and starts where the node starts
      have hwidth : (Node.mk i cs).subtreeWidth c = childrenWidth c cs := by
        have hne : cs ≠ [] := children_ne_nil_of_not_isLeaf h
        rw [subtreeWidth_eq hw hg, leaves_of_not_isLeaf h, children_mk, childrenWidth_eq hw hg hne]
      rw [place_of_not_isLeaf h, anchor_eq hw hg, outline_of_not_isLeaf h, children_mk, hwidth,
        sub_self, zero_div, add_zero, placeRow_eq count cs, List.map_cons]
      rfl
theorem placeRow_eq (count : Nat) : ∀ (ns : List Node) (depth first : Nat),
    placeRow c (c.columnX count first - c.nominalNode.width / 2) depth ns =
      (outlineOf depth first ns).map (Spot.position c count)
  | [], _, _ => rfl
  | n :: rest, depth, first => by
    -- the next sibling starts with the next column
    have hnext : c.columnX count first - c.nominalNode.width / 2 +
        (n.subtreeWidth c + c.horizontalGap) =
          c.columnX count (first + n.leaves.length) - c.nominalNode.width / 2 := by
      rw [subtreeWidth_eq hw hg, LayoutConfig.columnsWidth, LayoutConfig.columnX,
        LayoutConfig.columnX]
      push_cast
      ring
    rw [placeRow, hnext, place_eq count n, placeRow_eq count rest, outlineOf, List.map_append]
end

end Nonneg

end Widths

end Node

namespace Layout

/-- A layout places the outline of its tree. -/
theorem nodes_eq_map_outline {c : LayoutConfig Rat} (hw : 0 ≤ c.nominalNode.width)
    (hg : 0 ≤ c.horizontalGap) (t : Tree) : (Layout.ofTree c t).nodes =
      (t.root.outline 0 0).map (Spot.position c t.root.leaves.length) := by
  -- the leftmost column of a tree that is centred on the origin
  have hleft : -(t.root.subtreeWidth c) / 2 =
      c.columnX t.root.leaves.length 0 - c.nominalNode.width / 2 := by
    rw [Node.subtreeWidth_eq hw hg, LayoutConfig.columnsWidth, LayoutConfig.columnX,
      LayoutConfig.columnPitch, Nat.cast_zero]
    ring
  change t.root.place c (-(t.root.subtreeWidth c) / 2) 0 = _
  rw [hleft, Node.place_eq hw hg]

/-- **The layout of a tree in columns and rows.** Let widths and gaps not be negative. The layout
places the visible nodes in pre-order. The leaves among them are numbered in this order, for the
tree and below each node, and every node is placed as `Spot.anchor` says: the leaf with a number in
the column with this number, of as many columns as there are leaves, centred on the origin; any
other node half-way between its first and its last leaf; and each in the row that its depth says. -/
theorem nodes_eq_columns {c : LayoutConfig Rat} (hw : 0 ≤ c.nominalNode.width)
    (hg : 0 ≤ c.horizontalGap) (t : Tree) :
    let outline := t.root.outline 0 0
    (Layout.ofTree c t).nodes = outline.map (Spot.position c t.root.leaves.length) ∧
      outline.map Spot.node = t.root.visible ∧
      (outline.filter (·.node.isLeaf)).map Spot.first = List.range t.root.leaves.length ∧
      ∀ s ∈ outline, ∃ below, below <:+: outline ∧ below.map Spot.node = s.node.visible ∧
        (below.filter (·.node.isLeaf)).map Spot.first =
          List.range' s.first (s.last + 1 - s.first) := by
  intro outline
  refine ⟨nodes_eq_map_outline hw hg t, t.root.map_node_outline 0 0, ?_, fun s hs => ?_⟩
  · rw [t.root.map_first_outline 0 0, List.range_eq_range']
  · refine ⟨s.node.outline s.depth s.first, Node.outline_isInfix hs,
      s.node.map_node_outline _ _, ?_⟩
    rw [s.node.map_first_outline, s.last_add_one, Nat.add_sub_cancel_left]

/-- A cluster with an expanded zone, an empty one and a collapsed one: the leaves are two servers
and two zones. -/
theorem nodes_eq_columns_sample :
    let t := (Tree.build 9 [Snapshot.Sample.cluster "c1" [2, 0, 3] .primary] none).setCollapsed
      "zone3" true
    let c : LayoutConfig Rat := .standard
    0 ≤ c.nominalNode.width ∧ 0 ≤ c.horizontalGap ∧
      (Layout.ofTree c t).nodes.map (fun p => (p.id, p.anchor.x, p.anchor.y)) =
        [("root", 0, 0), ("c1", 0, 116), ("zone1", -246, 232), ("server:c1-z1-s1", -369, 348),
          ("server:c1-z1-s2", -123, 348), ("zone2", 123, 232), ("zone3", 369, 232)] := by
  intro t c
  have hw : 0 ≤ c.nominalNode.width := by decide +kernel
  have hg : 0 ≤ c.horizontalGap := by decide +kernel
  refine ⟨hw, hg, ?_⟩
  rw [(nodes_eq_columns hw hg t).1]
  decide +kernel

end Layout

end ClusterMap
