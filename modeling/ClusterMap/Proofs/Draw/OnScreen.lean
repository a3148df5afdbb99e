import ClusterMap.Proofs.Draw.Parts
import ClusterMap.Proofs.Layout.Extent
import ClusterMap.Proofs.Menu.Agreement
import ClusterMap.Snapshot.Sample

/-!
# What is fitted stays on the screen

Fitting looks at the extent of a layout, which is worked out from half the size of the largest drawn
box. Not all that reacts to the pointer lies in it: the toggle below a zone in the lowest row
reaches one further down (`Shape.reach`). But the largest allowed scale is one, so on the screen
this is no more than one, and the padding below is larger (`Artist.within_screen`).

In a view of one cluster the row of the root is left out of the extent. The root itself has no
areas, and no other node may be mistaken for it.
-/

namespace ClusterMap

/-- Nodes other than the root count for the extent, if none of them is called as the root is. -/
theorem Layout.anchor_mem_drawnAnchors {c : LayoutConfig Rat} (hw : 0 ≤ c.nominalNode.width)
    (hg : 0 ≤ c.horizontalGap) {t : Tree} (hroot : t.root.kind = .root)
    (honly : ∀ n ∈ Node.descendantsOf t.root.children, n.id ≠ Tree.rootId) {p : NodePosition Rat}
    (hp : p ∈ (Layout.ofTree c t).nodes) (hkind : p.kind ≠ .root) (multi : Bool) :
    p.anchor ∈ drawnAnchors (Layout.ofTree c t).nodes multi := by
  have hid : p.id ≠ Tree.rootId := by
    rw [Layout.nodes_eq_map_outline hw hg] at hp
    obtain ⟨spot, hspot, rfl⟩ := List.mem_map.mp hp
    have hvisible : spot.node ∈ t.root.visible := by
      rw [← t.root.map_node_outline 0 0]
      exact List.mem_map_of_mem hspot
    -- a visible node is the root or one of those below it
    have hmem : spot.node ∈ t.root.descendants := (Node.visible_sublist t.root).subset hvisible
    cases htree : t.root with
    | mk i cs =>
      rw [htree] at hmem honly hroot
      rcases List.mem_cons.mp hmem with hmem | hmem
      · have hspotKind : spot.node.kind = .root := by rw [hmem, hroot]
        exact absurd hspotKind hkind
      · exact honly _ hmem
  refine List.mem_map_of_mem (List.mem_filter.mpr ⟨hp, ?_⟩)
  rw [Bool.or_eq_true, bne_iff_ne]
  exact Or.inr hid

namespace Artist

/-- A root has no areas. -/
theorem kind_ne_root_of_mem_regionsOf {a : Artist Rat} {s : Scene Rat} {p : NodePosition Rat}
    {r : HitRegion Rat} (hr : r ∈ a.regionsOf s p) : p.kind ≠ .root := by
  intro hkind
  unfold regionsOf at hr
  cases hshape : a.shapeOf? s p with
  | none =>
    rw [hshape] at hr
    exact absurd hr List.not_mem_nil
  | some shape =>
    obtain ⟨c, rfl⟩ := exists_of_shapeOf? hshape
    rw [hshape, hkind] at hr
    exact absurd hr List.not_mem_nil

/-- **What reacts to the pointer is on the screen**, with the usual distances. -/
theorem within_screen (a : Artist Rat) {t : Tree} (hroot : t.root.kind = .root)
    (honly : ∀ n ∈ Node.descendantsOf t.root.children, n.id ≠ Tree.rootId) (view : ViewState Rat)
    {v : Viewport Rat} (hroom : (Layout.ofTree .standard t).HasRoom .standard v)
    {r : HitRegion Rat} (hr : r ∈ a.nodeRegions ⟨t, .ofTree .standard t,
      Transform.fit (.ofTree .standard t) v .standard, view⟩) : r.bounds.Within v.screen := by
  let layout : Layout Rat := .ofTree .standard t
  let fit := Transform.fit layout v .standard
  rw [nodeRegions_eq_flatMap] at hr
  obtain ⟨p, hp, hr⟩ := List.mem_flatMap.mp hr
  have hkind : p.kind ≠ .root := kind_ne_root_of_mem_regionsOf hr
  obtain ⟨b, -, hreach, hb⟩ := exists_of_mem_regionsOf hr
  have hextent : ((Bounds.around p.anchor).inflate 125 60).Within layout.contentBounds :=
    within_contentBounds .standard (Layout.anchor_mem_drawnAnchors (c := .standard)
      (by decide +kernel) (by decide +kernel) hroot honly hp hkind t.isMulti)
  have hpositive : 0 < fit.scale := Transform.scale_fit_pos layout v (by decide +kernel)
  have hone : fit.scale ≤ 1 := Transform.scale_fit_le layout v .standard
  have hfits : (fit.applyBounds layout.contentBounds).Within (layout.padded .standard v) :=
    Transform.fit_within_padded (by decide +kernel) hroom
  -- only downwards it may reach out of the extent, and there by no more than one
  have hnear : b.Within ⟨layout.contentBounds.minX, layout.contentBounds.minY,
      layout.contentBounds.maxX, layout.contentBounds.maxY + 1⟩ := by
    obtain ⟨hminX, hmaxX, hminY, hmaxY⟩ := hreach
    obtain ⟨hminX', hmaxX', hminY', hmaxY'⟩ := hextent
    simp only [Shape.reach, Bounds.inflate, Bounds.around] at *
    constructor <;> dsimp only <;> linarith
  have hmapped : (fit.applyBounds b).Within _ := Transform.within_applyBounds hpositive hnear
  have htop : 0 ≤ layout.topPadding .standard := by
    unfold Layout.topPadding
    split <;> decide +kernel
  have hpadded : layout.padded .standard v =
      ⟨20, layout.topPadding .standard, v.width - 20, v.height - 20⟩ := rfl
  rw [hpadded] at hfits
  rw [hb]
  change (fit.applyBounds b).Within v.screen
  obtain ⟨hleft, hright, habove, hbelow⟩ := hfits
  obtain ⟨hleft', hright', habove', hbelow'⟩ := hmapped
  simp only [Transform.applyBounds, Transform.apply] at *
  constructor <;> simp only [Viewport.screen] <;> linarith

/-- **Fitting keeps everything on the screen, and zooms as far as it can.** Into a viewport whose
paddings leave at least one by one, every layout is fitted with a positive scale that is at most the
largest allowed one, so that its extent lies between the paddings; and if the extent is at least one
by one, no transform with an allowed scale that does the same has a larger one. With the usual
distances, whatever is collapsed of a built tree in which no other node is called as the root is,
every area of a frame that is not one of a menu lies in the viewport. -/
theorem fitted_on_screen :
    (∀ (l : Layout Rat) (c : LayoutConfig Rat) (v : Viewport Rat), 0 < c.maxZoom →
      l.HasRoom c v →
        let fit := Transform.fit l v c
        (0 < fit.scale ∧ fit.scale ≤ c.maxZoom) ∧
          (fit.applyBounds l.contentBounds).Within (l.padded c v) ∧
          (1 ≤ l.contentBounds.width → 1 ≤ l.contentBounds.height → ∀ t : Transform Rat,
            t.scale ≤ c.maxZoom → (t.applyBounds l.contentBounds).Within (l.padded c v) →
              t.scale ≤ fit.scale)) ∧
    ∀ (threshold : Nat) (clusters : List Snapshot.Cluster) (requested : Option String) (t : Tree),
      t.unflagged = (Tree.build threshold clusters requested).unflagged →
      (∀ n ∈ Node.descendantsOf t.root.children, n.id ≠ Tree.rootId) →
      ∀ (theme : Theme Rat) (view : ViewState Rat) (v : Viewport Rat) (sequence : Nat),
        let layout := Layout.ofTree .standard t
        let s : Scene Rat := ⟨t, layout, Transform.fit layout v .standard, view⟩
        layout.HasRoom .standard v →
          ∀ r ∈ ((Artist.mk theme Kind.all).draw s sequence).hitRegions,
            (∀ id, ¬ r.target.IsMenuOf id) → r.bounds.Within v.screen := by
  constructor
  · intro l c v hzoom hroom fit
    exact ⟨⟨Transform.scale_fit_pos l v hzoom, Transform.scale_fit_le l v c⟩,
      Transform.fit_within_padded hzoom hroom,
      fun hwidth hheight t ht hwithin => Transform.scale_le_fit hroom hwidth hheight ht hwithin⟩
  · intro threshold clusters requested t ht honly theme view v sequence layout s hroom r hr hmenu
    have hroot : t.root.kind = .root := Node.kind_eq_of_unflagged (congrArg Tree.root ht)
    rcases List.mem_append.mp hr with hr | hr
    · exact within_screen _ hroot honly view hroom hr
    · obtain ⟨id, anchor, -, htarget⟩ := mem_overlay_hitRegions hr
      exact absurd htarget (hmenu id)

/-- The smallest viewport with room, and a collapsed zone in the lowest row. -/
theorem fitted_on_screen_smallest :
    let t := Tree.build 0 [Snapshot.Sample.cluster "c1" [1, 2] .primary] none
    let v : Viewport Rat := ⟨41, 81⟩
    let layout : Layout Rat := .ofTree .standard t
    let s : Scene Rat := ⟨t, layout, Transform.fit layout v .standard, .ofViewport v⟩
    layout.HasRoom .standard v ∧ 0 < s.transform.scale ∧
      (s.transform.applyBounds layout.contentBounds).Within (layout.padded .standard v) ∧
      ∃ r ∈ ((Artist.mk .standard Kind.all).draw s 1).hitRegions,
        r.target = .collapseToggle "zone2" ∧ r.bounds.Within v.screen := by
  intro t v layout s
  have hroom : layout.HasRoom .standard v := by constructor <;> decide +kernel
  obtain ⟨hfit, hscreen⟩ := fitted_on_screen
  obtain ⟨⟨hscale, -⟩, hwithin, -⟩ := hfit layout .standard v (by decide +kernel) hroom
  have hids : ∀ n ∈ Node.descendantsOf t.root.children, n.id ≠ Tree.rootId := by
    have hlist : ∀ id ∈ (Node.descendantsOf t.root.children).map Node.id, id ≠ Tree.rootId := by
      decide +kernel
    exact fun n hn => hlist n.id (List.mem_map_of_mem hn)
  have htoggle : .collapseToggle "zone2" ∈
      (((Artist.mk .standard Kind.all).draw s 1).hitRegions).map HitRegion.target := by
    decide +kernel
  obtain ⟨r, hr, htarget⟩ := List.mem_map.mp htoggle
  refine ⟨hroom, hscale, hwithin, r, hr, htarget, ?_⟩
  refine hscreen 0 [Snapshot.Sample.cluster "c1" [1, 2] .primary] none t rfl hids .standard
    (.ofViewport v) v 1 hroom r hr fun id hmenu => ?_
  rw [htarget] at hmenu
  rcases hmenu with hmenu | ⟨action, hmenu⟩ <;> cases hmenu

end Artist

end ClusterMap
