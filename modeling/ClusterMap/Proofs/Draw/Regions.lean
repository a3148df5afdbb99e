import ClusterMap.Draw.Scene
import ClusterMap.Proofs.Tree.Walk

/-!
# What the areas of a frame are about

An area of a frame belongs either to the shape of a placed node (`mem_nodeRegions`) or to the menu
that is open (`mem_overlay_hitRegions`). Of the state of the view they hang on the open menu and on
the viewport alone: pointing at a node and moving the pointer change a frame but none of its areas
(`Artist.hitRegions_congr`). The frame itself hangs, beside these, on the node under the pointer and
on the place of its tooltip (`Artist.draw_congr`).
-/

namespace ClusterMap

variable {α : Type} [Scalar α]

/-! ### Shapes -/

/-- The targets that the shape of a node may have. -/
def HitTarget.ofShape (nodeId : String) : List HitTarget :=
  [.nodeBox nodeId, .moreActions nodeId, .collapseToggle nodeId]

theorem HitTarget.nodeId_of_mem_ofShape {id : String} {t : HitTarget}
    (h : t ∈ HitTarget.ofShape id) : t.nodeId = id := by
  simp only [ofShape, List.mem_cons, List.not_mem_nil, or_false] at h
  rcases h with rfl | rfl | rfl <;> rfl

/-- Every area of a card is about the node that the card is drawn for. -/
theorem Shape.mem_cardAreas {c : ShapeContext α} {card : Shape.Card α}
    {area : HitTarget × Bounds α} (h : area ∈ Shape.cardAreas c card) :
    area.1 ∈ HitTarget.ofShape c.node.id := by
  unfold Shape.cardAreas at h
  rcases List.mem_cons.mp h with rfl | h
  · exact List.mem_cons_self
  · split at h
    · obtain rfl := List.mem_singleton.mp h
      exact List.mem_cons_of_mem _ List.mem_cons_self
    · exact absurd h List.not_mem_nil

namespace Shape

variable {k : Kind} {c : ShapeContext α} {card : Card α}

/-! What a shape consists of: nothing without a card, and otherwise the card and what there is of a
toggle. -/

theorem draw_of_card?_eq_none (h : (card? k c.node : Option (Card α)) = none) :
    draw k c = ⟨[], []⟩ := by
  unfold draw
  rw [h]

theorem hitAreas_draw (h : card? k c.node = some card) : (draw k c).hitAreas =
    cardAreas c card ++ if hasToggle k c.node then (toggle c card.size).hitAreas else [] := by
  unfold draw
  rw [h]
  dsimp only
  split
  · rfl
  · exact (List.append_nil _).symm

theorem commands_draw (h : card? k c.node = some card) : (draw k c).commands =
    cardCommands c card ++ if hasToggle k c.node then (toggle c card.size).commands else [] := by
  unfold draw
  rw [h]
  dsimp only
  split
  · rfl
  · exact (List.append_nil _).symm

end Shape

/-- Every area of a shape is about the node that it is drawn for. -/
theorem Shape.mem_hitAreas_draw {k : Kind} {c : ShapeContext α} {area : HitTarget × Bounds α}
    (h : area ∈ (Shape.draw k c).hitAreas) : area.1 ∈ HitTarget.ofShape c.node.id := by
  cases hcard : (Shape.card? k c.node : Option (Shape.Card α)) with
  | none =>
    rw [draw_of_card?_eq_none hcard] at h
    exact absurd h List.not_mem_nil
  | some card =>
    rw [hitAreas_draw hcard] at h
    rcases List.mem_append.mp h with h | h
    · exact mem_cardAreas h
    · -- of the toggle, if there is one
      split at h
      · obtain rfl := List.mem_singleton.mp h
        exact List.mem_cons_of_mem _ (List.mem_cons_of_mem _ List.mem_cons_self)
      · exact absurd h List.not_mem_nil

/-- Whether the pointer is over a node does not move its areas. -/
theorem Shape.hitAreas_draw_hovered (k : Kind) (c : ShapeContext α) (hovered : Bool) :
    (Shape.draw k { c with hovered }).hitAreas = (Shape.draw k c).hitAreas := by
  unfold Shape.draw
  cases (Shape.card? k c.node : Option (Shape.Card α)) with
  | none => rfl
  | some card =>
    change (if _ then _ else _ : Shape α).hitAreas = (if _ then _ else _ : Shape α).hitAreas
    split <;> rfl

/-! ### Menus -/

/-- Every line of a menu that reacts to the pointer is about the node of the menu. -/
theorem Menu.mem_hitRegions_lines {theme : Theme α} {nodeId : String} {left : α} {m : Menu}
    {r : HitRegion α} : ∀ {index : Nat} {cursor : α},
    r ∈ (Menu.lines theme nodeId left index cursor m).hitRegions →
      ∃ action, r.target = .menuItem nodeId action := by
  induction m with
  | nil => exact fun h => absurd h List.not_mem_nil
  | cons e rest ih =>
    intro index cursor h
    rcases List.mem_append.mp h with h | h
    · -- the area of the first line, if that line can be chosen
      cases e with
      | divider => exact absurd h List.not_mem_nil
      | item i =>
        rw [Menu.entryRegion?] at h
        split at h
        · obtain rfl := List.mem_singleton.mp h
          exact ⟨i.action, rfl⟩
        · exact absurd h List.not_mem_nil
    · exact ih h

/-- The targets that the menu of a node has. -/
def HitTarget.IsMenuOf (nodeId : String) (t : HitTarget) : Prop :=
  t = .menuPanel nodeId ∨ ∃ action, t = .menuItem nodeId action

theorem HitTarget.IsMenuOf.nodeId_eq {id : String} {t : HitTarget} (h : t.IsMenuOf id) :
    t.nodeId = id := by
  rcases h with rfl | ⟨action, rfl⟩ <;> rfl

theorem Menu.mem_hitRegions_draw {theme : Theme α} {nodeId : String} {m : Menu}
    {anchor : Point α} {v : Viewport α} {r : HitRegion α}
    (h : r ∈ (Menu.draw theme nodeId m anchor v).hitRegions) : r.target.IsMenuOf nodeId := by
  rcases List.mem_cons.mp h with rfl | h
  · exact Or.inl rfl
  · exact Or.inr (mem_hitRegions_lines h)

/-! ### Frames -/

namespace Artist

variable {a : Artist α} {s : Scene α} {r : HitRegion α}

/-- An area of the diagram is about a placed node. -/
theorem mem_nodeRegions (h : r ∈ a.nodeRegions s) :
    ∃ id ∈ s.layout.nodes.map NodePosition.id, r.target ∈ HitTarget.ofShape id := by
  obtain ⟨area, harea, rfl⟩ := List.mem_map.mp h
  obtain ⟨shape, hshape, harea⟩ := List.mem_flatMap.mp harea
  obtain ⟨p, hp, hdraw⟩ := List.mem_filterMap.mp hshape
  refine ⟨p.id, List.mem_map_of_mem hp, ?_⟩
  unfold shapeOf? at hdraw
  split at hdraw
  · obtain ⟨node, hnode, rfl⟩ := Option.map_eq_some_iff.mp hdraw
    -- the shape is drawn for the node found under the identifier of the position
    have hid : node.id = p.id := Node.id_of_find? hnode
    rw [← hid]
    exact Shape.mem_hitAreas_draw harea
  · exact absurd hdraw (Option.some_ne_none _).symm

/-- An area of the overlay is about the node whose menu is open. -/
theorem mem_overlay_hitRegions (h : r ∈ (a.overlay s).hitRegions) :
    ∃ id anchor, s.view.openMenu? = some (id, anchor) ∧ r.target.IsMenuOf id := by
  unfold overlay at h
  cases hmenu : a.openMenu? s with
  | none =>
    rw [hmenu] at h
    exact absurd h List.not_mem_nil
  | some menu =>
    rw [hmenu] at h
    obtain ⟨⟨id, anchor⟩, hopen, hmenu⟩ := Option.bind_eq_some_iff.mp hmenu
    obtain ⟨node, -, hdraw⟩ := Option.bind_eq_some_iff.mp hmenu
    obtain rfl := Option.some.inj hdraw
    exact ⟨id, anchor, hopen, Menu.mem_hitRegions_draw h⟩

/-- Without a menu, only nodes have areas. -/
theorem hitRegions_eq_nodeRegions (hmenu : s.view.openMenu? = none) :
    a.hitRegions s = a.nodeRegions s := by
  have hoverlay : (a.overlay s).hitRegions = [] := by
    refine List.eq_nil_iff_forall_not_mem.mpr fun r hr => ?_
    obtain ⟨id, anchor, hopen, -⟩ := mem_overlay_hitRegions hr
    rw [hmenu] at hopen
    cases hopen
  rw [hitRegions, hoverlay, List.append_nil]

/-- **What the areas hang on.** Scenes of the same tree, layout and transform have the same areas if
the same menu is open in the same viewport. -/
theorem hitRegions_congr {s s' : Scene α} (ht : s.tree = s'.tree) (hl : s.layout = s'.layout)
    (hf : s.transform = s'.transform) (hm : s.view.openMenu? = s'.view.openMenu?)
    (hv : s.view.viewport = s'.view.viewport) : a.hitRegions s = a.hitRegions s' := by
  -- the areas of the nodes are collected position by position
  have hareas : ∀ s : Scene α, (a.shapes s).flatMap (·.hitAreas) =
      s.layout.nodes.flatMap fun p => (a.shapeOf? s p).toList.flatMap (·.hitAreas) := fun s => by
    rw [shapes, List.filterMap_eq_flatMap_toList, List.flatMap_assoc]
  -- of the view, a shape sees only which node is under the pointer
  have hshape : ∀ p, (a.shapeOf? s p).toList.flatMap (·.hitAreas) =
      (a.shapeOf? s' p).toList.flatMap (·.hitAreas) := by
    intro p
    unfold shapeOf?
    rw [ht]
    split
    · cases s'.tree.find? p.id with
      | none => rfl
      | some node =>
        exact congrArg (· ++ []) (Shape.hitAreas_draw_hovered p.kind
          ⟨node, p.anchor, a.theme, s'.tree.isCurrent node.id, _⟩ _)
    · rfl
  have hnodes : a.nodeRegions s = a.nodeRegions s' := by
    unfold nodeRegions
    rw [hareas, hareas, hl, hf, funext hshape]
  have hopen : a.openMenu? s = a.openMenu? s' := by
    unfold openMenu?
    rw [ht, hm, hv]
  -- without a menu there may be a tooltip, which has no areas
  have hoverlay : (a.overlay s).hitRegions = (a.overlay s').hitRegions := by
    unfold overlay
    rw [hopen]
    cases a.openMenu? s' <;> rfl
  rw [hitRegions, hitRegions, hnodes, hoverlay]

/-- **What a frame hangs on.** Scenes of the same tree, layout and transform are drawn alike if in
the same viewport the same node is under the pointer, the same menu is open and the same tooltip
belongs at the same place. -/
theorem draw_congr {s s' : Scene α} (ht : s.tree = s'.tree) (hl : s.layout = s'.layout)
    (hf : s.transform = s'.transform) (hh : s.view.hovered? = s'.view.hovered?)
    (hm : s.view.openMenu? = s'.view.openMenu?)
    (hp : s.view.tooltipAnchor? = s'.view.tooltipAnchor?)
    (hv : s.view.viewport = s'.view.viewport) : a.draw s = a.draw s' := by
  have hdiagram : a.diagram s = a.diagram s' := by
    have hshape : a.shapeOf? s = a.shapeOf? s' := by
      funext p
      unfold shapeOf?
      rw [ht, hh]
    unfold diagram shapes
    rw [hl, hshape]
  have hoverlay : a.overlay s = a.overlay s' := by
    unfold overlay openMenu? tooltip
    rw [ht, hm, hv, hp, hh]
  have hregions : a.hitRegions s = a.hitRegions s' := hitRegions_congr ht hl hf hm hv
  funext sequence
  rw [draw, draw, hf, hdiagram, hoverlay, hregions]

end Artist

/-! ### Pointing -/

section Pointing

variable {regions : List (HitRegion α)} {p : Point α} {t : HitTarget}

/-- What is pointed at is one of the areas at the point. -/
theorem exists_of_hitTest (h : hitTest regions p = some t) :
    ∃ r ∈ regions, r.bounds.contains p ∧ r.target = t := by
  obtain ⟨r, hr, rfl⟩ := Option.map_eq_some_iff.mp h
  have hp : r.bounds.contains p :=
    List.find?_some (p := fun r : HitRegion α => r.bounds.contains p) hr
  exact ⟨r, List.mem_reverse.mp (List.mem_of_find?_eq_some hr), hp, rfl⟩

/-- What is pointed at is one of the areas. -/
theorem mem_of_hitTest (h : hitTest regions p = some t) : ∃ r ∈ regions, r.target = t := by
  obtain ⟨r, hr, -, htarget⟩ := exists_of_hitTest h
  exact ⟨r, hr, htarget⟩

theorem hitTest_eq_none_iff : hitTest regions p = none ↔ ∀ r ∈ regions, ¬ r.bounds.contains p := by
  rw [hitTest, Option.map_eq_none_iff, regionAt?, List.find?_eq_none]
  simp only [List.mem_reverse]

/-- Where all areas at a point have the same target, it is what is pointed at. -/
theorem hitTest_eq_of_forall (hall : ∀ r ∈ regions, r.bounds.contains p → r.target = t)
    (hsome : ∃ r ∈ regions, r.bounds.contains p) : hitTest regions p = some t := by
  cases hit : hitTest regions p with
  | none =>
    obtain ⟨r, hr, hp⟩ := hsome
    exact absurd hp (hitTest_eq_none_iff.mp hit r hr)
  | some t' =>
    obtain ⟨r, hr, hp, rfl⟩ := exists_of_hitTest hit
    rw [hall r hr hp]

/-- What comes later lies on top. -/
theorem hitTest_append (regions regions' : List (HitRegion α)) (p : Point α) :
    hitTest (regions ++ regions') p = (hitTest regions' p).or (hitTest regions p) := by
  rw [hitTest, regionAt?, List.reverse_append, List.find?_append, Option.map_or]
  rfl

end Pointing

end ClusterMap
