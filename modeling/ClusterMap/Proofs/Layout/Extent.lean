import ClusterMap.Proofs.Layout.Rectangle

/-!
# The extent of a layout on the screen

The extent of a layout contains what is drawn around the anchors that count
(`within_contentBounds`). Fitting maps it into the part of the viewport that the paddings leave
(`Transform.fit_within_padded`): sideways it is centred there, and from above it begins at the
padding. Its scale is a minimum of three bounds, each of which holds of every other transform that
does the same, so no such transform has a larger scale (`Transform.scale_le_fit`).
-/

namespace ClusterMap

namespace Bounds

variable {b outer : Bounds Rat}

theorem Within.refl (b : Bounds Rat) : b.Within b := ⟨le_rfl, le_rfl, le_rfl, le_rfl⟩

/-- Rectangles that are grown alike stay inside each other. -/
theorem Within.inflate (h : b.Within outer) (dx dy : Rat) :
    (b.inflate dx dy).Within (outer.inflate dx dy) :=
  ⟨sub_le_sub_right h.minX dx, add_le_add_left h.maxX dx, sub_le_sub_right h.minY dy,
    add_le_add_left h.maxY dy⟩

theorem within_cover (b : Bounds Rat) (p : Point Rat) : b.Within (b.cover p) := by
  constructor <;> simp [cover]

theorem around_within_cover (b : Bounds Rat) (p : Point Rat) :
    (Bounds.around p).Within (b.cover p) := by
  constructor <;> simp [cover, around]

/-- A rectangle that is grown to include points includes them all. -/
theorem within_foldl_cover (b : Bounds Rat) (points : List (Point Rat)) :
    b.Within (points.foldl cover b) ∧
      ∀ p ∈ points, (Bounds.around p).Within (points.foldl cover b) := by
  induction points generalizing b with
  | nil => exact ⟨.refl b, fun p hp => absurd hp List.not_mem_nil⟩
  | cons q rest ih =>
    obtain ⟨hwithin, hrest⟩ := ih (b.cover q)
    refine ⟨(b.within_cover q).trans hwithin, fun p hp => ?_⟩
    rcases List.mem_cons.mp hp with rfl | hp
    · exact (b.around_within_cover p).trans hwithin
    · exact hrest p hp

end Bounds

/-- **Everything drawn around an anchor lies in the extent.** -/
theorem within_contentBounds (c : LayoutConfig Rat) {nodes : List (NodePosition Rat)} {multi : Bool}
    {p : Point Rat} (hp : p ∈ drawnAnchors nodes multi) :
    ((Bounds.around p).inflate c.drawnHalfExtent.width c.drawnHalfExtent.height).Within
      (contentBounds c nodes multi) := by
  unfold contentBounds
  cases hanchors : drawnAnchors nodes multi with
  | nil =>
    rw [hanchors] at hp
    exact absurd hp List.not_mem_nil
  | cons first rest =>
    rw [hanchors] at hp
    obtain ⟨hfirst, hrest⟩ := Bounds.within_foldl_cover (Bounds.around first) rest
    rcases List.mem_cons.mp hp with rfl | hp
    · exact hfirst.inflate _ _
    · exact (hrest p hp).inflate _ _

namespace Transform

/-- Positive scales keep rectangles inside each other. -/
theorem within_applyBounds {t : Transform Rat} (ht : 0 < t.scale) {b outer : Bounds Rat}
    (h : b.Within outer) : (t.applyBounds b).Within (t.applyBounds outer) := by
  have hmono : ∀ {x y d : Rat}, x ≤ y → x * t.scale + d ≤ y * t.scale + d := by
    intro x y d hxy
    exact add_le_add_left (mul_le_mul_of_nonneg_right hxy ht.le) d
  exact ⟨hmono h.minX, hmono h.maxX, hmono h.minY, hmono h.maxY⟩

end Transform

/-! ### Fitting -/

/-- The part of a viewport that the paddings leave for a layout. -/
def Layout.padded (l : Layout Rat) (c : LayoutConfig Rat) (v : Viewport Rat) : Bounds Rat :=
  ⟨c.fitPadding, l.topPadding c, v.width - c.fitPadding, v.height - c.fitPadding⟩

/-- The paddings leave at least one by one. -/
structure Layout.HasRoom (l : Layout Rat) (c : LayoutConfig Rat) (v : Viewport Rat) : Prop where
  width : 1 ≤ (l.padded c v).width
  height : 1 ≤ (l.padded c v).height

namespace Transform

variable {l : Layout Rat} {c : LayoutConfig Rat} {v : Viewport Rat}

/-- Fitting never enlarges by more than is allowed. -/
theorem scale_fit_le (l : Layout Rat) (v : Viewport Rat) (c : LayoutConfig Rat) :
    (fit l v c).scale ≤ c.maxZoom := by
  unfold fit
  dsimp only
  rw [Scalar.min_rat]
  exact min_le_right _ _

/-- With room to fit into, the scale is the least of three bounds, and the content is centred. -/
theorem fit_eq (h : l.HasRoom c v) :
    let b := l.contentBounds
    let room := l.padded c v
    let scale := min (min (room.width / max b.width 1) (room.height / max b.height 1)) c.maxZoom
    fit l v c = ⟨scale, room.minX + (room.width - max b.width 1 * scale) / 2 - b.minX * scale,
      room.minY - b.minY * scale⟩ := by
  intro b room scale
  -- the room that the paddings leave is not raised to one
  have hwidth : Scalar.max (v.width - 2 * c.fitPadding) 1 = room.width := by
    have heq : v.width - 2 * c.fitPadding = room.width := by
      change v.width - 2 * c.fitPadding = v.width - c.fitPadding - c.fitPadding
      ring
    rw [heq, Scalar.max_rat]
    exact max_eq_left h.width
  have hheight : Scalar.max (v.height - l.topPadding c - c.fitPadding) 1 = room.height := by
    have heq : v.height - l.topPadding c - c.fitPadding = room.height := by
      change v.height - l.topPadding c - c.fitPadding = v.height - c.fitPadding - l.topPadding c
      ring
    rw [heq, Scalar.max_rat]
    exact max_eq_left h.height
  have hextent : ∀ x : Rat, max x 1 = Scalar.max x 1 := fun x => (Scalar.max_rat x 1).symm
  unfold fit scale
  rw [hextent, hextent, ← Scalar.min_rat, ← Scalar.min_rat, ← hwidth, ← hheight]
  rfl

/-- **What is fitted lies between the paddings.** -/
theorem fit_within_padded (hzoom : 0 < c.maxZoom) (hroom : l.HasRoom c v) :
    ((fit l v c).applyBounds l.contentBounds).Within (l.padded c v) := by
  have hscale := scale_fit_pos l v hzoom
  rw [fit_eq hroom] at hscale ⊢
  dsimp only at hscale ⊢
  generalize hk : min (min ((l.padded c v).width / max l.contentBounds.width 1)
    ((l.padded c v).height / max l.contentBounds.height 1)) c.maxZoom = k at hscale ⊢
  -- the scaled extent is no larger than the room for it
  have hx : k * max l.contentBounds.width 1 ≤ (l.padded c v).width := by
    rw [← le_div_iff₀ (lt_max_of_lt_right one_pos), ← hk]
    exact (min_le_left _ _).trans (min_le_left _ _)
  have hy : k * max l.contentBounds.height 1 ≤ (l.padded c v).height := by
    rw [← le_div_iff₀ (lt_max_of_lt_right one_pos), ← hk]
    exact (min_le_left _ _).trans (min_le_right _ _)
  have hwidth : k * l.contentBounds.width ≤ k * max l.contentBounds.width 1 :=
    mul_le_mul_of_nonneg_left (le_max_left _ _) hscale.le
  have hheight : k * l.contentBounds.height ≤ k * max l.contentBounds.height 1 :=
    mul_le_mul_of_nonneg_left (le_max_left _ _) hscale.le
  have hroomWidth : (l.padded c v).width = (l.padded c v).maxX - (l.padded c v).minX := rfl
  have hroomHeight : (l.padded c v).height = (l.padded c v).maxY - (l.padded c v).minY := rfl
  have hextentWidth : k * l.contentBounds.width =
      l.contentBounds.maxX * k - l.contentBounds.minX * k := by
    rw [Bounds.width]
    ring
  have hextentHeight : k * l.contentBounds.height =
      l.contentBounds.maxY * k - l.contentBounds.minY * k := by
    rw [Bounds.height]
    ring
  constructor <;> simp only [applyBounds, apply] <;> linarith

/-- **Nothing larger fits.** -/
theorem scale_le_fit (hroom : l.HasRoom c v) (hwidth : 1 ≤ l.contentBounds.width)
    (hheight : 1 ≤ l.contentBounds.height) {t : Transform Rat} (hzoom : t.scale ≤ c.maxZoom)
    (ht : (t.applyBounds l.contentBounds).Within (l.padded c v)) :
    t.scale ≤ (fit l v c).scale := by
  rw [fit_eq hroom]
  have hx : t.scale * l.contentBounds.width ≤ (l.padded c v).width := by
    have hleft := ht.minX
    have hright := ht.maxX
    simp only [applyBounds, apply] at hleft hright
    change t.scale * (l.contentBounds.maxX - l.contentBounds.minX) ≤
      (l.padded c v).maxX - (l.padded c v).minX
    linarith
  have hy : t.scale * l.contentBounds.height ≤ (l.padded c v).height := by
    have habove := ht.minY
    have hbelow := ht.maxY
    simp only [applyBounds, apply] at habove hbelow
    change t.scale * (l.contentBounds.maxY - l.contentBounds.minY) ≤
      (l.padded c v).maxY - (l.padded c v).minY
    linarith
  dsimp only
  rw [max_eq_left hwidth, max_eq_left hheight]
  exact le_min (le_min ((le_div_iff₀ (one_pos.trans_le hwidth)).mpr hx)
    ((le_div_iff₀ (one_pos.trans_le hheight)).mpr hy)) hzoom

end Transform

end ClusterMap
