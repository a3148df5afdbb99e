import ClusterMap.Layout.Codec
import ClusterMap.Paint.Mark

/-!
# Marks as structured values
-/

namespace ClusterMap

/-- The value of a colour: its channels, opacity last. -/
def Color.toValue (c : Color) : Value :=
  .list ([c.red, c.green, c.blue, c.alpha].map fun channel => .ofNat channel.toNat)

/-- The value of a line. -/
def Stroke.toValue (s : Stroke Float32) : Value :=
  .ofMembers [("width", coordinate s.width), ("color", s.color.toValue)]

/-- The value of a point that is given by its coordinates alone. -/
def Point.toPair (p : Point Float32) : Value := .list [coordinate p.x, coordinate p.y]

namespace Mark

/-- The members of a rectangle. -/
def rectMembers (b : Bounds Float32) (radius : Nat) (fill : Color) (stroke : Stroke Float32) :
    List (String × Value) :=
  [("shape", .text "rect"), ("min", .list [coordinate b.minX, coordinate b.minY]),
    ("max", .list [coordinate b.maxX, coordinate b.maxY]), ("corner_radius", .ofNat radius),
    ("fill", fill.toValue), ("stroke", stroke.toValue)]

/-- The members of a circle. -/
def circleMembers (center : Point Float32) (radius : Float32) (fill : Color)
    (stroke : Stroke Float32) : List (String × Value) :=
  [("shape", .text "circle"), ("center", center.toPair), ("radius", coordinate radius),
    ("fill", fill.toValue), ("stroke", stroke.toValue)]

/-- The value of a mark. -/
def toValue (m : Mark Float32) : Value :=
  .ofMembers <| match m with
    | .surface bounds radius color => rectMembers bounds radius color .absent
    | .outline bounds radius stroke => rectMembers bounds radius .transparent stroke
    | .disc center radius color => circleMembers center radius color .absent
    | .ring center radius stroke => circleMembers center radius .transparent stroke
    | .lettering _ _ content size color => [("shape", .text "text"), ("text", .text content),
        ("size", coordinate size), ("color", color.toValue)]
    | .line points stroke => [("shape", .text "path"), ("points", .list (points.map Point.toPair)),
        ("width", coordinate stroke.width)]
    | .dashes _ stroke _ _ => [("shape", .text "dashes"), ("stroke", stroke.toValue)]

/-- Whether two marks are dashes of the same line style, which run into one another. -/
def joins : Mark Float32 → Mark Float32 → Bool
  | .dashes _ s _ _, .dashes _ t _ _ => Scalar.eq s.width t.width && s.color == t.color
  | _, _ => false

/-- Marks with every run of equal dashes reduced to its last part. -/
def joinDashes : List (Mark Float32) → List (Mark Float32)
  | m :: n :: rest => if m.joins n then joinDashes (n :: rest) else m :: joinDashes (n :: rest)
  | ms => ms

end Mark

end ClusterMap
