import ClusterMap.Draw.Scene
import ClusterMap.Proofs.Layout.Visible
import ClusterMap.Proofs.Tree.Hidden
import ClusterMap.Snapshot.Sample
import ClusterMap.Tree.Build

/-!
# Frames do not show what is hidden

Widths, places and edges of a tree are those of the trimmed tree (`Layout.ofTree_trimmed`), so a
layout tells nothing about what collapsed nodes hide. A frame looks nodes up in the tree again; it
finds them under the identifiers of visible nodes, and draws of a node what it holds itself and
whether it has children (`Shape.draw_congr`), which trimming keeps. So two trees that differ only in
what they hide are laid out, fitted and drawn alike (`Artist.hidden_not_drawn`).
-/

namespace ClusterMap

variable {α : Type} [Scalar α]

/-! ### Layout -/

namespace Node

mutual
/-- Trimming keeps the width. -/
theorem subtreeWidth_trimmed (c : LayoutConfig α) : ∀ n : Node,
    n.trimmed.subtreeWidth c = n.subtreeWidth c
  | ⟨i, cs⟩ => by
    rw [trimmed, subtreeWidth, subtreeWidth]
    by_cases hi : i.collapsed.getD false
    · rw [hi, Bool.true_or, Bool.true_or]
      rfl
    · rw [if_neg hi, isEmpty_trimmedOf, length_trimmedOf, sumWidths_trimmedOf c cs]
theorem sumWidths_trimmedOf (c : LayoutConfig α) : ∀ (ns : List Node) (total : α),
    sumWidths c total (trimmedOf ns) = sumWidths c total ns
  | [], _ => rfl
  | n :: rest, total => by
    rw [trimmedOf, sumWidths, sumWidths, subtreeWidth_trimmed c n, sumWidths_trimmedOf c rest]
end

mutual
/-- Trimming keeps what is placed, and where. -/
theorem place_trimmed (c : LayoutConfig α) : ∀ (n : Node) (left : α) (depth : Nat),
    n.trimmed.place c left depth = n.place c left depth
  | ⟨i, cs⟩, left, depth => by
    have hwidth := subtreeWidth_trimmed c ⟨i, cs⟩
    rw [trimmed] at hwidth
    rw [trimmed, place, place, hwidth]
    by_cases hi : i.collapsed.getD false
    · rw [hi, Bool.true_or, Bool.true_or]
      rfl
    · have hrow : childrenWidth c (trimmedOf cs) = childrenWidth c cs := by
        rw [childrenWidth, childrenWidth, length_trimmedOf, sumWidths_trimmedOf c cs]
      rw [if_neg hi, isEmpty_trimmedOf, hrow, placeRow_trimmedOf c cs]
theorem placeRow_trimmedOf (c : LayoutConfig α) : ∀ (ns : List Node) (cursor : α) (depth : Nat),
    placeRow c cursor depth (trimmedOf ns) = placeRow c cursor depth ns
  | [], _, _ => rfl
  | n :: rest, cursor, depth => by
    rw [trimmedOf, placeRow, placeRow, place_trimmed c n, subtreeWidth_trimmed c n,
      placeRow_trimmedOf c rest]
end

end Node

/-- Trimming keeps the layout. -/
theorem Layout.ofTree_trimmed (c : LayoutConfig α) {t : Tree} (ho : t.root.isCollapsed = false) :
    ofTree c t.trimmed = ofTree c t := by
  have hplace : ∀ left : α, t.trimmed.root.place c left 0 = t.root.place c left 0 :=
    fun left => t.root.place_trimmed c left 0
  have hwidth : t.trimmed.root.subtreeWidth c = t.root.subtreeWidth c :=
    t.root.subtreeWidth_trimmed c
  rw [ofTree, ofTree, hwidth, hplace, Tree.edges_trimmed ho, Tree.isMulti_trimmed ho]

/-! ### Frames -/

/-- Of a node, its shape shows what it holds itself, and whether it has children. -/
theorem Shape.draw_congr {n n' : Node} (hinfo : n.info = n'.info)
    (hempty : n.children.isEmpty = n'.children.isEmpty) (k : Kind) (anchor : Point α)
    (theme : Theme α) (isCurrent hovered : Bool) :
    draw k ⟨n, anchor, theme, isCurrent, hovered⟩ =
      draw k ⟨n', anchor, theme, isCurrent, hovered⟩ := by
  obtain ⟨i, cs⟩ := n
  obtain ⟨i', cs'⟩ := n'
  obtain rfl : i = i' := hinfo
  have htoggle : hasToggle k ⟨i, cs⟩ = hasToggle k ⟨i, cs'⟩ := by
    rw [hasToggle, hasToggle, hempty]
  have hcard : (card? k ⟨i, cs⟩ : Option (Card α)) = card? k ⟨i, cs'⟩ := by cases k <;> rfl
  unfold draw
  rw [htoggle, hcard]
  rfl

/-- Of a node, its menu shows what it holds itself. -/
theorem Menu.ofNode_congr_info {n n' : Node} (hinfo : n.info = n'.info) (isCurrent : Bool) :
    ofNode n isCurrent = ofNode n' isCurrent := by
  obtain ⟨i, cs⟩ := n
  obtain ⟨i', cs'⟩ := n'
  obtain rfl : i = i' := hinfo
  rfl

namespace Artist

section Scenes

variable {t t' : Tree} (h : t.trimmed = t'.trimmed) (hd : t.root.DistinctIds)
  (hd' : t'.root.DistinctIds) (a : Artist α) (layout : Layout α) (transform : Transform α)
  (view : ViewState α)

include h

theorem isCurrent_congr_of_trimmed : t.isCurrent = t'.isCurrent := by
  have hcurrent : t.trimmed.current = t'.trimmed.current := congrArg Tree.current h
  funext id
  exact congrArg (· == some id) hcurrent

include hd hd'

/-- The shapes of visible nodes do not show what is hidden. -/
theorem shapes_congr_of_trimmed (hlayout : ∀ p ∈ layout.nodes, p.id ∈ t.root.visibleIds) :
    a.shapes ⟨t, layout, transform, view⟩ = a.shapes ⟨t', layout, transform, view⟩ := by
  refine List.filterMap_congr fun p hp => ?_
  unfold shapeOf?
  dsimp only
  rw [isCurrent_congr_of_trimmed h]
  split
  · refine Tree.map_find?_congr h hd hd' (hlayout p hp) fun n n' hinfo hempty => ?_
    have hid : n.id = n'.id := congrArg NodeInfo.id hinfo
    rw [hid]
    exact Shape.draw_congr hinfo hempty _ _ _ _ _
  · rfl

/-- The menu of a visible node does not show what is hidden. -/
theorem openMenu?_congr_of_trimmed
    (hmenu : ∀ id anchor, view.openMenu? = some (id, anchor) → id ∈ t.root.visibleIds) :
    a.openMenu? ⟨t, layout, transform, view⟩ = a.openMenu? ⟨t', layout, transform, view⟩ := by
  unfold openMenu?
  dsimp only
  cases hview : view.openMenu? with
  | none => rfl
  | some menu =>
    obtain ⟨id, anchor⟩ := menu
    rw [isCurrent_congr_of_trimmed h]
    have hdraw := Tree.map_find?_congr h hd hd' (hmenu id anchor hview)
      (f := fun n => Menu.draw a.theme id (Menu.ofNode n (t'.isCurrent id)) anchor view.viewport)
      fun n n' hinfo _ => by rw [Menu.ofNode_congr_info hinfo]
    rwa [Option.map_eq_bind, Option.map_eq_bind] at hdraw

/-- The tooltip of a visible node does not show what is hidden. -/
theorem tooltip_congr_of_trimmed
    (hhovered : ∀ id, view.hovered? = some id → id ∈ t.root.visibleIds) :
    a.tooltip ⟨t, layout, transform, view⟩ = a.tooltip ⟨t', layout, transform, view⟩ := by
  unfold tooltip
  dsimp only
  cases view.tooltipAnchor? with
  | none => rfl
  | some anchor =>
    cases hview : view.hovered? with
    | none => rfl
    | some id =>
      have hdetail := Tree.map_find?_congr h hd hd' (hhovered id hview)
        (f := fun n => n.info.detail) fun n n' hinfo _ => by rw [hinfo]
      rw [Option.bind_some, Option.bind_some]
      -- both searches fail, or both find a node with the same detail
      cases hn : t.find? id with
      | none =>
        rw [hn, Option.map_none, eq_comm, Option.map_eq_none_iff] at hdetail
        rw [hdetail]
      | some n =>
        rw [hn, Option.map_some, eq_comm, Option.map_eq_some_iff] at hdetail
        obtain ⟨n', hn', hdetail⟩ := hdetail
        rw [hn']
        dsimp only
        rw [hdetail]

end Scenes

/-- **What is hidden is not drawn.** Let two trees differ only in what collapsed nodes hide, let the
identifiers of each be different, and let the roots not be collapsed. If the node under the pointer
and the node of the open menu are visible, then the trees have the same layout, which is fitted into
every viewport in the same way, and under every transform the frames are the same. -/
theorem hidden_not_drawn {t t' : Tree} (h : t.trimmed = t'.trimmed) (hd : t.root.DistinctIds)
    (hd' : t'.root.DistinctIds) (ho : t.root.isCollapsed = false) (c : LayoutConfig α)
    (a : Artist α) (view : ViewState α)
    (hhovered : ∀ id, view.hovered? = some id → id ∈ t.root.visibleIds)
    (hmenu : ∀ id anchor, view.openMenu? = some (id, anchor) → id ∈ t.root.visibleIds)
    (sequence : Nat) :
    Layout.ofTree c t = Layout.ofTree c t' ∧
    (∀ viewport, Transform.fit (Layout.ofTree c t) viewport c =
      Transform.fit (Layout.ofTree c t') viewport c) ∧
    ∀ transform, a.draw ⟨t, Layout.ofTree c t, transform, view⟩ sequence =
      a.draw ⟨t', Layout.ofTree c t', transform, view⟩ sequence := by
  -- the root holds the same in both trees
  have ho' : t'.root.isCollapsed = false := by
    have hroot : t.root.trimmed = t'.root.trimmed := congrArg Tree.root h
    unfold Node.isCollapsed at ho ⊢
    rwa [← Node.info_trimmed, ← hroot, Node.info_trimmed]
  have hlayout : Layout.ofTree c t = Layout.ofTree c t' := by
    rw [← Layout.ofTree_trimmed c ho, h, Layout.ofTree_trimmed c ho']
  have hplaced : ∀ p ∈ (Layout.ofTree c t').nodes, p.id ∈ t.root.visibleIds := by
    intro p hp
    rw [← Layout.map_id_nodes c t, hlayout]
    exact List.mem_map_of_mem hp
  refine ⟨hlayout, fun viewport => by rw [hlayout], fun transform => ?_⟩
  have hshapes := shapes_congr_of_trimmed h hd hd' a _ transform view hplaced
  have hopen := openMenu?_congr_of_trimmed h hd hd' a (Layout.ofTree c t') transform view hmenu
  have htooltip := tooltip_congr_of_trimmed h hd hd' a (Layout.ofTree c t') transform view hhovered
  -- nothing else of the trees is drawn
  rw [hlayout, draw, draw, diagram, diagram, hitRegions, hitRegions, nodeRegions, nodeRegions,
    overlay, overlay, hshapes, hopen, htooltip]

/-- A collapsed cluster may have one zone or two, while the pointer is over a zone of another. -/
theorem hidden_not_drawn_cluster :
    let t (zones : List Nat) := Tree.build defaultThreshold
      [Snapshot.Sample.cluster "c1" [1] .primary, Snapshot.Sample.cluster "c2" zones .standby] none
    let view : ViewState Rat :=
      { ViewState.ofViewport ⟨800, 600⟩ with mode := .hovering "zone1", pointer := some ⟨5, 5⟩ }
    (t [1]).root.descendants.length = 7 ∧ (t [2, 3]).root.descendants.length = 12 ∧
    (t [1]).trimmed = (t [2, 3]).trimmed ∧ (t [1]).root.DistinctIds ∧ (t [2, 3]).root.DistinctIds ∧
    view.hovered? = some "zone1" ∧ "zone1" ∈ (t [1]).root.visibleIds ∧
    ∀ transform, standard.draw ⟨t [1], .ofTree .standard (t [1]), transform, view⟩ 1 =
      standard.draw ⟨t [2, 3], .ofTree .standard (t [2, 3]), transform, view⟩ 1 := by
  intro t view
  have htrimmed : (t [1]).trimmed = (t [2, 3]).trimmed := rfl
  have hd : (t [1]).root.DistinctIds := by decide +kernel
  have hd' : (t [2, 3]).root.DistinctIds := by decide +kernel
  have hzone : "zone1" ∈ (t [1]).root.visibleIds := by decide +kernel
  have hframe := hidden_not_drawn htrimmed hd hd' rfl .standard standard view
    (fun id hid => by
      obtain rfl : "zone1" = id := Option.some.inj hid
      exact hzone)
    (fun id anchor hmenu => by cases hmenu) 1
  exact ⟨by decide +kernel, by decide +kernel, htrimmed, hd, hd', rfl, hzone, hframe.2.2⟩

end Artist

end ClusterMap
