import ClusterMap.Proofs.Draw.Regions
import ClusterMap.Proofs.Layout.Columns
import ClusterMap.Proofs.Layout.Rectangle
import Mathlib.Algebra.Order.Group.Abs

/-!
# Areas do not get in each other's way

In exact arithmetic, what a pointer hits in the middle of an area of a frame is that area, unless a
menu is open. There are two reasons.

* Areas of different nodes have no point in common. Boxes are much wider than the footprint that the
  layout gives to a node, but everything that a node reacts with stays near its anchor
  (`Shape.within_reach`), and anchors in the same row or in different rows are far enough from each
  other (`Spot.Precedes.far`).
* Of the areas of one node, none covers the middle of one before it (`Shape.pairwise_areas`), and
  the later one wins (`hitTest_middle`).

A positive scale leaves all this as it is.
-/

namespace ClusterMap

/-! ### The last area wins -/

/-- An area is hit in its middle if no later one covers it. -/
theorem hitTest_middle {regions : List (HitRegion Rat)}
    (hlater : regions.Pairwise fun r r' => ¬ r'.bounds.contains r.bounds.middle)
    {r : HitRegion Rat} (hr : r ∈ regions) (hself : r.bounds.contains r.bounds.middle) :
    hitTest regions r.bounds.middle = some r.target := by
  -- the search goes through the areas from the last one on, so only later ones come before it
  obtain ⟨before, after, rfl⟩ := List.append_of_mem hr
  have hafter : ∀ r' ∈ after.reverse, ¬ r'.bounds.contains r.bounds.middle := by
    intro r' hr'
    have hsplit := (List.pairwise_append.mp hlater).2.1
    exact List.rel_of_pairwise_cons hsplit (List.mem_reverse.mp hr')
  have hregion : regionAt? (before ++ r :: after) r.bounds.middle = some r := by
    rw [regionAt?, List.reverse_append, List.reverse_cons, List.append_assoc, List.find?_append,
      List.find?_eq_none.mpr hafter, Option.none_or, List.singleton_append]
    exact List.find?_cons_of_pos (p := fun r' : HitRegion Rat => r'.bounds.contains _) hself
  rw [hitTest, hregion]
  rfl

/-! ### The areas of one node -/

namespace Shape

/-- All areas that a card of a size can have. -/
def areas (id : String) (anchor : Point Rat) (size : Size Rat) : List (HitTarget × Bounds Rat) :=
  [(.nodeBox id, cardArea anchor size), (.moreActions id, actionsArea anchor size),
    (.collapseToggle id, toggleArea anchor size)]

theorem hitAreas_draw_root (c : ShapeContext Rat) : (draw .root c).hitAreas = [] := rfl

/-- A shape has some of the areas of its card, in the same order. -/
theorem hitAreas_draw_sublist (k : Kind) (c : ShapeContext Rat) :
    (draw k c).hitAreas.Sublist (areas c.node.id c.anchor (boxSize k)) := by
  -- a card shows the mark of its menu or not
  have hcard : ∀ card : Card Rat, (cardAreas c card).Sublist
      [(.nodeBox c.node.id, cardArea c.anchor card.size),
        (.moreActions c.node.id, actionsArea c.anchor card.size)] := by
    intro card
    rw [cardAreas]
    refine List.Sublist.cons_cons _ ?_
    split
    · exact List.Sublist.refl _
    · exact List.nil_sublist _
  cases hk : (card? k c.node : Option (Card Rat)) with
  | none =>
    rw [draw_of_card?_eq_none hk]
    exact List.nil_sublist _
  | some card =>
    have hsize : card.size = boxSize k := by
      cases k with
      | root => cases hk
      | _ => exact congrArg Card.size (Option.some.inj hk).symm
    rw [← hsize, hitAreas_draw hk]
    refine (hcard card).append ?_
    split
    · exact List.Sublist.refl _
    · exact List.nil_sublist _

/-- Boxes that have room for a mark in a corner and are no larger than this. -/
structure Roomy (size : Size Rat) : Prop where
  wide : 56 < size.width
  narrow : size.width ≤ 240
  tall : 28 ≤ size.height
  low : size.height ≤ 72

theorem roomy_boxSize {k : Kind} (h : k ≠ .root) : Roomy (boxSize k) := by
  cases k with
  | root => exact absurd rfl h
  | _ => constructor <;> decide +kernel

/-- How far from an anchor something may react to the pointer. -/
def reach (anchor : Point Rat) : Bounds Rat :=
  ⟨anchor.x - 120, anchor.y - 36, anchor.x + 120, anchor.y + 61⟩

section Areas

variable {id : String} {anchor : Point Rat} {size : Size Rat}

theorem cardArea_rat : cardArea anchor size =
    ⟨anchor.x - size.width / 2, anchor.y - size.height / 2,
      anchor.x + size.width / 2, anchor.y + size.height / 2⟩ := by
  change Bounds.mk (anchor.x + -size.width / 2) (anchor.y + -size.height / 2)
    (anchor.x + -size.width / 2 + size.width) (anchor.y + -size.height / 2 + size.height) = _
  congr 1 <;> ring

theorem actionsArea_rat : actionsArea anchor size =
    ⟨anchor.x + size.width / 2 - 28, anchor.y - size.height / 2 + 4,
      anchor.x + size.width / 2 - 4, anchor.y - size.height / 2 + 28⟩ := by
  change Bounds.mk (anchor.x + -size.width / 2 + size.width - 16 - 24 / 2)
    (anchor.y + -size.height / 2 + 16 - 24 / 2)
    (anchor.x + -size.width / 2 + size.width - 16 + 24 / 2)
    (anchor.y + -size.height / 2 + 16 + 24 / 2) = _
  congr 1 <;> ring

theorem toggleArea_rat : toggleArea anchor size =
    ⟨anchor.x - 8, anchor.y + size.height / 2 + 9,
      anchor.x + 8, anchor.y + size.height / 2 + 25⟩ := by
  change Bounds.mk (anchor.x + 0 + 0 - (7 + 1)) (anchor.y + size.height / 2 + 10 + 7 - (7 + 1))
    (anchor.x + 0 + 0 + (7 + 1)) (anchor.y + size.height / 2 + 10 + 7 + (7 + 1)) = _
  congr 1 <;> ring

theorem forall_mem_areas {P : Bounds Rat → Prop} (hcard : P (cardArea anchor size))
    (hactions : P (actionsArea anchor size)) (htoggle : P (toggleArea anchor size)) :
    ∀ a ∈ areas id anchor size, P a.2 := by
  simp only [areas, List.forall_mem_cons]
  exact ⟨hcard, hactions, htoggle, fun _ h => absurd h List.not_mem_nil⟩

theorem proper_of_mem_areas (h : Roomy size) : ∀ a ∈ areas id anchor size, a.2.Proper := by
  have hwide := h.wide
  have htall := h.tall
  refine forall_mem_areas ?_ ?_ ?_
  · rw [cardArea_rat]
    constructor <;> dsimp only <;> linarith
  · rw [actionsArea_rat]
    constructor <;> dsimp only <;> linarith
  · rw [toggleArea_rat]
    constructor <;> dsimp only <;> linarith

/-- **Everything stays near the anchor.** -/
theorem within_reach (h : Roomy size) : ∀ a ∈ areas id anchor size, a.2.Within (reach anchor) := by
  have hwide := h.wide
  have hnarrow := h.narrow
  have htall := h.tall
  have hlow := h.low
  refine forall_mem_areas (P := (·.Within (reach anchor))) ?_ ?_ ?_
  · rw [cardArea_rat]
    constructor <;> dsimp only [reach] <;> linarith
  · rw [actionsArea_rat]
    constructor <;> dsimp only [reach] <;> linarith
  · rw [toggleArea_rat]
    constructor <;> dsimp only [reach] <;> linarith

/-- **No area covers the middle of one before it**: the mark stands in a corner of the box, and the
toggle below the box. -/
theorem pairwise_areas (h : Roomy size) :
    (areas id anchor size).Pairwise fun a b => ¬ b.2.contains a.2.middle := by
  have hwide := h.wide
  have htall := h.tall
  -- the mark begins to the right of the middle of a box that is wide enough
  have hmark : ¬ (actionsArea anchor size).contains (cardArea anchor size).middle := by
    rw [cardArea_rat, actionsArea_rat, Bounds.middle_rat, Bounds.contains_iff]
    rintro ⟨⟨hx, -⟩, -⟩
    dsimp only at hx
    linarith
  -- the toggle begins below the lower edge of the box
  have hbelow : ∀ p : Point Rat, p.y ≤ anchor.y + size.height / 2 →
      ¬ (toggleArea anchor size).contains p := by
    intro p hp
    rw [toggleArea_rat, Bounds.contains_iff]
    rintro ⟨-, hy, -⟩
    dsimp only at hy
    linarith
  have hbox : ¬ (toggleArea anchor size).contains (cardArea anchor size).middle := by
    refine hbelow _ ?_
    rw [cardArea_rat, Bounds.middle_rat]
    dsimp only
    linarith
  have hcorner : ¬ (toggleArea anchor size).contains (actionsArea anchor size).middle := by
    refine hbelow _ ?_
    rw [actionsArea_rat, Bounds.middle_rat]
    dsimp only
    linarith
  simp only [areas, List.pairwise_cons, List.forall_mem_cons]
  simp [hmark, hbox, hcorner]

end Areas

end Shape

/-! ### Anchors -/

/-- Two anchors around which nothing overlaps. -/
def Point.Far (p q : Point Rat) : Prop := 240 < |p.x - q.x| ∨ 97 < |p.y - q.y|

/-- Nothing is in reach of two anchors that are far from each other. -/
theorem Point.Far.not_reach {p q : Point Rat} (h : p.Far q) (point : Point Rat) :
    ¬ ((Shape.reach p).contains point ∧ (Shape.reach q).contains point) := by
  rintro ⟨hp, hq⟩
  obtain ⟨⟨hpx, hpx'⟩, hpy, hpy'⟩ := Bounds.contains_iff.mp hp
  obtain ⟨⟨hqx, hqx'⟩, hqy, hqy'⟩ := Bounds.contains_iff.mp hq
  dsimp only [Shape.reach] at hpx hpx' hpy hpy' hqx hqx' hqy hqy'
  -- on one of the axes the anchors are farther apart than a reach is long
  rcases h with h | h <;> rcases lt_abs.mp h with h | h <;> linarith

/-- **Two nodes stand far from each other**, in different rows or in columns of the same row. -/
theorem Spot.Precedes.far {s s' : Spot} (h : s.Precedes s') {c : LayoutConfig Rat}
    (hcolumn : 240 < c.columnPitch) (hrow : 97 < c.rowPitch) (count : Nat) :
    (s.anchor c count).Far (s'.anchor c count) := by
  by_cases hdepth : s.depth = s'.depth
  · -- in the same row, the leaves of the one come before those of the other
    have hlast : s.last < s'.first := h.resolve_left (Nat.not_lt.mpr (Nat.le_of_eq hdepth.symm))
    -- so from middle to middle there is at least one column
    have hsteps : (2 : Rat) ≤ s'.first + s'.last - (s.first + s.last) := by
      have hnat : s.first + s.last + 2 ≤ s'.first + s'.last := by
        have := s.first_le_last
        have := s'.first_le_last
        omega
      have hrat : (s.first + s.last + 2 : Rat) ≤ s'.first + s'.last := by exact_mod_cast hnat
      linarith
    have hx : (s'.anchor c count).x - (s.anchor c count).x =
        (s'.first + s'.last - (s.first + s.last)) / 2 * c.columnPitch := by
      rw [anchor_x, anchor_x]
      unfold LayoutConfig.columnX
      ring
    refine Or.inl ?_
    rw [abs_sub_comm, lt_abs, hx]
    refine Or.inl (hcolumn.trans_le ?_)
    exact le_mul_of_one_le_left (by linarith) (by linarith)
  · -- rows are apart, whichever is the lower one
    have hy : ∀ {a b : Spot}, a.depth < b.depth →
        97 < (b.anchor c count).y - (a.anchor c count).y := by
      intro a b hab
      have hsteps : (1 : Rat) ≤ b.depth - a.depth := by
        have hrat : (a.depth + 1 : Rat) ≤ b.depth := by exact_mod_cast hab
        linarith
      change 97 < b.depth * c.rowPitch - a.depth * c.rowPitch
      rw [← sub_mul]
      exact hrow.trans_le (le_mul_of_one_le_left (by linarith) hsteps)
    refine Or.inr (lt_abs.mpr ?_)
    rcases Nat.lt_or_gt_of_ne hdepth with hlt | hlt
    · exact Or.inr (by rw [neg_sub]; exact hy hlt)
    · exact Or.inl (hy hlt)

/-! ### Frames -/

namespace Artist

/-- An area of a layout on the screen. -/
def toScreen (t : Transform Rat) (area : HitTarget × Bounds Rat) : HitRegion Rat :=
  ⟨area.1, t.applyBounds area.2⟩

/-- The areas on the screen of a placed node. -/
def regionsOf (a : Artist Rat) (s : Scene Rat) (p : NodePosition Rat) : List (HitRegion Rat) :=
  match a.shapeOf? s p with
  | some shape => shape.hitAreas.map (toScreen s.transform)
  | none => []

theorem nodeRegions_eq_flatMap (a : Artist Rat) (s : Scene Rat) :
    a.nodeRegions s = s.layout.nodes.flatMap (a.regionsOf s) := by
  unfold nodeRegions shapes
  induction s.layout.nodes with
  | nil => rfl
  | cons p rest ih =>
    rw [List.flatMap_cons, ← ih, regionsOf]
    cases hshape : a.shapeOf? s p with
    | none => rw [List.filterMap_cons_none hshape, List.nil_append]
    | some shape =>
      rw [List.filterMap_cons_some hshape, List.flatMap_cons, List.map_append]
      rfl

theorem hitRegions_eq_flatMap {a : Artist Rat} {s : Scene Rat}
    (hmenu : ∀ id anchor, s.view.mode ≠ .menuOpen id anchor) :
    a.hitRegions s = s.layout.nodes.flatMap (a.regionsOf s) := by
  have hopen : s.view.openMenu? = none := by
    unfold ViewState.openMenu?
    split
    next id anchor hmode => exact absurd hmode (hmenu id anchor)
    next => rfl
  rw [hitRegions_eq_nodeRegions hopen, nodeRegions_eq_flatMap]

section Regions

variable {a : Artist Rat} {s : Scene Rat} {p q : NodePosition Rat} {r : HitRegion Rat}

/-- The areas of a placed node are some of those of a card at its anchor, in the same order. -/
theorem regionsOf_sublist (a : Artist Rat) (s : Scene Rat) (p : NodePosition Rat) :
    ∃ id size, Shape.Roomy size ∧
      (a.regionsOf s p).Sublist ((Shape.areas id p.anchor size).map (toScreen s.transform)) := by
  -- where nothing is drawn, any card will do
  have hnone : ∀ l : List (HitRegion Rat), l = [] → ∃ id size, Shape.Roomy size ∧
      l.Sublist ((Shape.areas id p.anchor size).map (toScreen s.transform)) := by
    rintro l rfl
    exact ⟨p.id, _, Shape.roomy_boxSize (k := .cluster) nofun, List.nil_sublist _⟩
  unfold regionsOf
  split
  next shape hshape =>
    unfold shapeOf? at hshape
    split at hshape
    · obtain ⟨node, -, rfl⟩ := Option.map_eq_some_iff.mp hshape
      by_cases hroot : p.kind = .root
      · refine hnone _ ?_
        rw [hroot, Shape.hitAreas_draw_root, List.map_nil]
      · exact ⟨_, _, Shape.roomy_boxSize hroot, (Shape.hitAreas_draw_sublist _ _).map _⟩
    · cases hshape
  next => exact hnone _ rfl

/-- An area of a placed node on the screen is an area near the anchor of the node. -/
theorem exists_of_mem_regionsOf (hr : r ∈ a.regionsOf s p) : ∃ b : Bounds Rat,
    b.Proper ∧ b.Within (Shape.reach p.anchor) ∧ r.bounds = s.transform.applyBounds b := by
  obtain ⟨id, size, hroomy, hsub⟩ := a.regionsOf_sublist s p
  obtain ⟨area, harea, rfl⟩ := List.mem_map.mp (hsub.subset hr)
  exact ⟨area.2, Shape.proper_of_mem_areas hroomy area harea,
    Shape.within_reach hroomy area harea, rfl⟩

variable (hscale : 0 < s.transform.scale)
include hscale

theorem contains_middle_of_mem_regionsOf (hr : r ∈ a.regionsOf s p) :
    r.bounds.contains r.bounds.middle := by
  obtain ⟨b, hproper, -, hb⟩ := exists_of_mem_regionsOf hr
  rw [hb, Transform.middle_applyBounds, Transform.contains_applyBounds_apply hscale]
  exact hproper.contains_middle

theorem pairwise_regionsOf (a : Artist Rat) (p : NodePosition Rat) :
    (a.regionsOf s p).Pairwise fun r r' => ¬ r'.bounds.contains r.bounds.middle := by
  obtain ⟨id, size, hroomy, hsub⟩ := a.regionsOf_sublist s p
  refine List.Pairwise.sublist hsub (List.pairwise_map.mpr ?_)
  refine (Shape.pairwise_areas hroomy).imp fun {area area'} h => ?_
  rw [toScreen, toScreen, Transform.middle_applyBounds,
    Transform.contains_applyBounds_apply hscale]
  exact h

/-- Areas of nodes that stand far from each other have no point in common. -/
theorem disjoint_of_far (hfar : p.anchor.Far q.anchor) {r' : HitRegion Rat}
    (hr : r ∈ a.regionsOf s p) (hr' : r' ∈ a.regionsOf s q) (point : Point Rat) :
    ¬ (r.bounds.contains point ∧ r'.bounds.contains point) := by
  obtain ⟨b, -, hb, heq⟩ := exists_of_mem_regionsOf hr
  obtain ⟨b', -, hb', heq'⟩ := exists_of_mem_regionsOf hr'
  -- the point comes from one of the layout, which is in reach of no more than one of the anchors
  rw [heq, heq', ← Transform.apply_invert hscale.ne' point,
    Transform.contains_applyBounds_apply hscale, Transform.contains_applyBounds_apply hscale]
  rintro ⟨h, h'⟩
  exact hfar.not_reach _ ⟨hb.contains h, hb'.contains h'⟩

end Regions

/-- **Every area can be reached, and no two nodes share a point of the screen.** Whatever the tree
and its flags, the viewport and the kinds that are drawn: as long as no menu is open, the areas of a
frame are those of the placed nodes, areas of different placed nodes have no point in common, and
the middle of every area hits that area. -/
theorem areas_apart (a : Artist Rat) (t : Tree) (view : ViewState Rat)
    (hmenu : ∀ id anchor, view.mode ≠ .menuOpen id anchor) (sequence : Nat) :
    let layout := Layout.ofTree .standard t
    let s : Scene Rat := ⟨t, layout, Transform.fit layout view.viewport .standard, view⟩
    let regions := (a.draw s sequence).hitRegions
    regions = layout.nodes.flatMap (a.regionsOf s) ∧
      (layout.nodes.Pairwise fun p q => ∀ r ∈ a.regionsOf s p, ∀ r' ∈ a.regionsOf s q,
        ∀ point, ¬ (r.bounds.contains point ∧ r'.bounds.contains point)) ∧
      ∀ r ∈ regions, hitTest regions r.bounds.middle = some r.target := by
  intro layout s regions
  have hscale : 0 < s.transform.scale :=
    Transform.scale_fit_pos layout view.viewport (c := .standard) (by decide +kernel)
  have hregions : regions = layout.nodes.flatMap (a.regionsOf s) := hitRegions_eq_flatMap hmenu
  have hfar : layout.nodes.Pairwise fun p q => p.anchor.Far q.anchor := by
    have hnodes : layout.nodes = _ :=
      Layout.nodes_eq_map_outline (c := .standard) (by decide +kernel) (by decide +kernel) t
    rw [hnodes, List.pairwise_map]
    exact (t.root.pairwise_outline 0 0).imp fun h =>
      h.far (by decide +kernel) (by decide +kernel) _
  have hdisjoint : layout.nodes.Pairwise fun p q => ∀ r ∈ a.regionsOf s p,
      ∀ r' ∈ a.regionsOf s q, ∀ point, ¬ (r.bounds.contains point ∧ r'.bounds.contains point) :=
    hfar.imp fun h r hr r' hr' point => disjoint_of_far hscale h hr hr' point
  refine ⟨hregions, hdisjoint, fun r hr => ?_⟩
  have hself : ∀ p, ∀ r ∈ a.regionsOf s p, r.bounds.contains r.bounds.middle :=
    fun p r hr => contains_middle_of_mem_regionsOf hscale hr
  -- within a node no later area covers the middle, and areas of other nodes do not come near
  have hlater : regions.Pairwise fun r r' => ¬ r'.bounds.contains r.bounds.middle := by
    rw [hregions, List.pairwise_flatMap]
    refine ⟨fun p _ => pairwise_regionsOf hscale a p, hdisjoint.imp fun {p q} h r hr r' hr' => ?_⟩
    exact fun hcover => h r hr r' hr' _ ⟨hself p r hr, hcover⟩
  obtain ⟨p, -, hp⟩ := List.mem_flatMap.mp (hregions ▸ hr)
  exact hitTest_middle hlater hr (hself p r hp)

/-- Two clusters in a small window, both expanded, with the pointer over a zone. -/
theorem areas_apart_hovering :
    let t := (Tree.build 9 [Snapshot.Sample.cluster "c1" [2, 0] .primary,
      Snapshot.Sample.cluster "c2" [1] .standby] none).setCollapsed "c2" false
    let view : ViewState Rat := { ViewState.ofViewport ⟨300, 200⟩ with mode := .hovering "zone1" }
    let layout := Layout.ofTree .standard t
    let s : Scene Rat := ⟨t, layout, Transform.fit layout view.viewport .standard, view⟩
    let regions := (Artist.standard.draw s 1).hitRegions
    (∀ id anchor, view.mode ≠ .menuOpen id anchor) ∧
      regions.map (·.target) =
        [.nodeBox "c1", .moreActions "c1", .nodeBox "zone1", .moreActions "zone1",
          .collapseToggle "zone1", .nodeBox "server:c1-z1-s1", .moreActions "server:c1-z1-s1",
          .nodeBox "server:c1-z1-s2", .moreActions "server:c1-z1-s2", .nodeBox "zone2",
          .moreActions "zone2", .nodeBox "c2", .moreActions "c2", .nodeBox "c2/zone1",
          .moreActions "c2/zone1", .collapseToggle "c2/zone1", .nodeBox "server:c2/c2-z1-s1",
          .moreActions "server:c2/c2-z1-s1"] ∧
      ∀ r ∈ regions, hitTest regions r.bounds.middle = some r.target := by
  intro t view layout s regions
  have hmenu : ∀ id anchor, view.mode ≠ .menuOpen id anchor := fun _ _ h => by cases h
  exact ⟨hmenu, by decide +kernel, (areas_apart Artist.standard t view hmenu 1).2.2⟩

end Artist

end ClusterMap
