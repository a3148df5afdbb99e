import ClusterMap.Proofs.Layout.Fit
import Mathlib.Tactic.Linarith
import Mathlib.Tactic.NormNum

/-!
# Rectangles in exact arithmetic

Over the rationals a rectangle contains the points between its sides (`Bounds.contains_iff`), so it
contains its own middle unless it is turned inside out, and a rectangle inside another one contains
no more. A transform with a positive scale moves rectangles, their middles and their points alike
(`Transform.contains_applyBounds_apply`), and every point of the screen comes from one of the layout
(`Transform.apply_invert`); so what overlaps and what does not is the same on both sides.
-/

namespace ClusterMap

namespace Bounds

/-- A rectangle that has a point. -/
structure Proper (b : Bounds Rat) : Prop where
  x : b.minX ≤ b.maxX
  y : b.minY ≤ b.maxY

/-- A rectangle inside another one. -/
structure Within (b outer : Bounds Rat) : Prop where
  minX : outer.minX ≤ b.minX
  maxX : b.maxX ≤ outer.maxX
  minY : outer.minY ≤ b.minY
  maxY : b.maxY ≤ outer.maxY

theorem contains_iff {b : Bounds Rat} {p : Point Rat} : b.contains p ↔
    (b.minX ≤ p.x ∧ p.x ≤ b.maxX) ∧ b.minY ≤ p.y ∧ p.y ≤ b.maxY := by
  change (decide _ && decide _ && decide _ && decide _) = true ↔ _
  simp only [Bool.and_eq_true, decide_eq_true_eq, and_assoc]

theorem Within.contains {b outer : Bounds Rat} (h : b.Within outer) {p : Point Rat}
    (hp : b.contains p) : outer.contains p := by
  obtain ⟨⟨hminX, hmaxX⟩, hminY, hmaxY⟩ := contains_iff.mp hp
  exact contains_iff.mpr ⟨⟨h.minX.trans hminX, hmaxX.trans h.maxX⟩,
    h.minY.trans hminY, hmaxY.trans h.maxY⟩

theorem Within.trans {b outer outermost : Bounds Rat} (h : b.Within outer)
    (h' : outer.Within outermost) : b.Within outermost :=
  ⟨h'.minX.trans h.minX, h.maxX.trans h'.maxX, h'.minY.trans h.minY, h.maxY.trans h'.maxY⟩

theorem middle_rat (b : Bounds Rat) :
    b.middle = ⟨(b.minX + b.maxX) / 2, (b.minY + b.maxY) / 2⟩ := rfl

theorem Proper.contains_middle {b : Bounds Rat} (h : b.Proper) : b.contains b.middle := by
  -- each coordinate of the middle is the mean of two sides in their order
  have hx := h.x
  have hy := h.y
  rw [middle_rat]
  refine contains_iff.mpr ⟨⟨?_, ?_⟩, ?_, ?_⟩ <;> dsimp only <;> linarith

end Bounds

/-- The part of the screen that a viewport shows. -/
def Viewport.screen (v : Viewport Rat) : Bounds Rat := ⟨0, 0, v.width, v.height⟩

namespace Transform

variable {t : Transform Rat}

/-- What a point is mapped back to is mapped to the point. -/
theorem apply_invert (h : t.scale ≠ 0) (p : Point Rat) : t.apply (t.invert p) = p := by
  have hx : (p.x - t.translate.x) / t.scale * t.scale + t.translate.x = p.x := by
    rw [div_mul_cancel₀ _ h]
    ring
  have hy : (p.y - t.translate.y) / t.scale * t.scale + t.translate.y = p.y := by
    rw [div_mul_cancel₀ _ h]
    ring
  rw [invert, apply, hx, hy]

/-- Rectangles and their points are mapped alike. -/
theorem contains_applyBounds_apply (h : 0 < t.scale) (b : Bounds Rat) (p : Point Rat) :
    (t.applyBounds b).contains (t.apply p) = b.contains p := by
  -- scaling and shifting keep the order of two coordinates
  have hmono : ∀ x y d : Rat, x * t.scale + d ≤ y * t.scale + d ↔ x ≤ y := by
    intro x y d
    rw [add_le_add_iff_right, mul_le_mul_iff_left₀ h]
  rw [Bool.eq_iff_iff, Bounds.contains_iff, Bounds.contains_iff]
  exact and_congr (and_congr (hmono _ _ _) (hmono _ _ _)) (and_congr (hmono _ _ _) (hmono _ _ _))

theorem middle_applyBounds (t : Transform Rat) (b : Bounds Rat) :
    (t.applyBounds b).middle = t.apply b.middle := by
  have hmid : ∀ x y d : Rat,
      (x * t.scale + d + (y * t.scale + d)) / 2 = (x + y) / 2 * t.scale + d := by
    intro x y d
    ring
  rw [Bounds.middle_rat, Bounds.middle_rat]
  exact congrArg₂ Point.mk (hmid _ _ _) (hmid _ _ _)

end Transform

end ClusterMap
