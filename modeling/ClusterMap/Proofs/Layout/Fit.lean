import ClusterMap.Layout.Basic
import Mathlib.Algebra.Order.Field.Rat
import Mathlib.Tactic.FieldSimp
import Mathlib.Tactic.Ring

/-!
# Fitting in exact arithmetic

Over the rationals the operations of `Scalar` are those of an ordered field, so a transform that
scales by anything but zero can be undone (`Transform.invert_apply`). Fitting never scales by zero:
the room for a layout and the extent of it are both taken to be at least one, so the scale is
positive wherever the largest allowed one is (`Transform.scale_fit_pos`).
-/

namespace ClusterMap

/-! ### The scalars of exact arithmetic -/

namespace Scalar

@[simp] theorem ofNat_rat (n : Nat) : (Scalar.ofNat n : Rat) = n := rfl

@[simp] theorem max_rat (a b : Rat) : Scalar.max a b = Max.max a b := by
  change (if a < b then b else a) = Max.max a b
  rw [max_def_lt]

@[simp] theorem min_rat (a b : Rat) : Scalar.min a b = Min.min a b := by
  change (if b < a then b else a) = Min.min a b
  rw [min_comm, min_def_lt]

theorem clamp_rat (low high x : Rat) : clamp low high x = Min.min (Max.max x low) high := by
  rw [← max_rat, ← min_rat]
  simp only [clamp, lt, Scalar.max, Scalar.min, decide_eq_true_eq]

/-- What is held between two scalars lies between them. -/
theorem clamp_rat_mem {low high : Rat} (h : low ≤ high) (x : Rat) :
    low ≤ clamp low high x ∧ clamp low high x ≤ high := by
  rw [clamp_rat]
  exact ⟨le_min (le_max_right x low) h, min_le_right _ high⟩

end Scalar

namespace Transform

/-! ### Mapping back -/

/-- What is mapped is mapped back to where it was. -/
theorem invert_apply {t : Transform Rat} (h : t.scale ≠ 0) (p : Point Rat) :
    t.invert (t.apply p) = p := by
  have hx : (p.x * t.scale + t.translate.x - t.translate.x) / t.scale = p.x := by
    field_simp
    ring
  have hy : (p.y * t.scale + t.translate.y - t.translate.y) / t.scale = p.y := by
    field_simp
    ring
  rw [invert, apply, hx, hy]

/-! ### The scale -/

/-- **Fitting scales by a positive factor**, whatever is fitted into whatever viewport. -/
theorem scale_fit_pos (l : Layout Rat) (v : Viewport Rat) {c : LayoutConfig Rat}
    (h : 0 < c.maxZoom) : 0 < (fit l v c).scale := by
  -- every extent is raised to one where it is below
  have hextent : ∀ x : Rat, 0 < Scalar.max x 1 := by
    intro x
    rw [Scalar.max_rat]
    exact lt_max_of_lt_right one_pos
  have hratio : ∀ x y : Rat, 0 < Scalar.max x 1 / Scalar.max y 1 :=
    fun x y => div_pos (hextent x) (hextent y)
  unfold fit
  dsimp only
  rw [Scalar.min_rat, Scalar.min_rat]
  exact lt_min (lt_min (hratio _ _) (hratio _ _)) h

end Transform

end ClusterMap
