import ClusterMap.Scalar

/-!
# Plane geometry

Points, sizes and axis-parallel rectangles over a scalar type, with `y` growing downwards, and the
map that scales and shifts the plane.
-/

namespace ClusterMap

/-- A point. -/
structure Point (α : Type) where
  x : α
  y : α
deriving DecidableEq, Repr, Inhabited

/-- A width and a height. -/
structure Size (α : Type) where
  width : α
  height : α
deriving DecidableEq, Repr, Inhabited

/-- The part of the screen that a view fills, from the origin to the lower right. -/
structure Viewport (α : Type) where
  width : α
  height : α
deriving DecidableEq, Repr, Inhabited

/-- A rectangle with its border. -/
structure Bounds (α : Type) where
  minX : α
  minY : α
  maxX : α
  maxY : α
deriving DecidableEq, Repr, Inhabited

variable {α : Type} [Scalar α]

open Scalar

namespace Point

/-- The origin. -/
def zero : Point α := ⟨0, 0⟩

/-- The point moved by a vector. -/
def offset (p : Point α) (dx dy : α) : Point α := ⟨p.x + dx, p.y + dy⟩

/-- Whether two points have equal coordinates. -/
def same (p q : Point α) : Bool := Scalar.eq p.x q.x && Scalar.eq p.y q.y

end Point

namespace Viewport

/-- The viewport of a view that has not been measured. -/
def standard : Viewport α := ⟨1200, 800⟩

/-- Whether two viewports have equal sides. -/
def same (v w : Viewport α) : Bool := Scalar.eq v.width w.width && Scalar.eq v.height w.height

end Viewport

namespace Bounds

/-- The rectangle that is one point. -/
def around (p : Point α) : Bounds α := ⟨p.x, p.y, p.x, p.y⟩

/-- The rectangle grown to include a point. -/
def cover (b : Bounds α) (p : Point α) : Bounds α :=
  { minX := min b.minX p.x, minY := min b.minY p.y, maxX := max b.maxX p.x, maxY := max b.maxY p.y }

/-- The rectangle grown on all sides. -/
def inflate (b : Bounds α) (dx dy : α) : Bounds α :=
  { minX := b.minX - dx, minY := b.minY - dy, maxX := b.maxX + dx, maxY := b.maxY + dy }

/-- The horizontal extent. -/
def width (b : Bounds α) : α := b.maxX - b.minX

/-- The vertical extent. -/
def height (b : Bounds α) : α := b.maxY - b.minY

/-- Whether a point lies in the rectangle or on its border. -/
def contains (b : Bounds α) (p : Point α) : Bool :=
  le b.minX p.x && le p.x b.maxX && le b.minY p.y && le p.y b.maxY

/-- The rectangle with a given corner and size. -/
def ofSize (origin : Point α) (size : Size α) : Bounds α :=
  ⟨origin.x, origin.y, origin.x + size.width, origin.y + size.height⟩

/-- The point half-way between opposite corners. -/
def middle (b : Bounds α) : Point α := ⟨(b.minX + b.maxX) / 2, (b.minY + b.maxY) / 2⟩

end Bounds

/-- The map of the plane that scales and then shifts. -/
structure Transform (α : Type) where
  scale : α
  translate : Point α
deriving DecidableEq, Repr, Inhabited

namespace Transform

/-- The map that moves nothing. -/
def identity : Transform α := ⟨1, Point.zero⟩

/-- Where a point is mapped to. -/
def apply (t : Transform α) (p : Point α) : Point α :=
  ⟨p.x * t.scale + t.translate.x, p.y * t.scale + t.translate.y⟩

/-- Which point is mapped to the given one. -/
def invert (t : Transform α) (p : Point α) : Point α :=
  ⟨(p.x - t.translate.x) / t.scale, (p.y - t.translate.y) / t.scale⟩

/-- Where a rectangle is mapped to, corner by corner. -/
def applyBounds (t : Transform α) (b : Bounds α) : Bounds α :=
  let topLeft := t.apply ⟨b.minX, b.minY⟩
  let bottomRight := t.apply ⟨b.maxX, b.maxY⟩
  ⟨topLeft.x, topLeft.y, bottomRight.x, bottomRight.y⟩

end Transform

end ClusterMap
