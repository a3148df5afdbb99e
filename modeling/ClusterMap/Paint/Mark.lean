import ClusterMap.Draw.Command
import ClusterMap.Paint.Color

/-!
# Painting a frame

Turns the commands of a frame into marks on a canvas (`Batch.paint`). The diagram goes through the
transform of the frame, the overlay does not; both are shifted to the corner of the canvas
(`Projection`).

A colour that cannot be read is treated as one that is not given: a surface or a border is then left
out, an icon or a text is grey, and the canvas is white.
-/

namespace ClusterMap

variable {α : Type} [Scalar α]

open Scalar

/-- How the coordinates of commands are mapped onto the canvas. -/
structure Projection (α : Type) where
  transform : Option (Transform α)
  origin : Point α

/-- A line as it is painted. -/
structure Stroke (α : Type) where
  width : α
  color : Color
deriving DecidableEq, Repr

/-- No line. -/
def Stroke.absent : Stroke α := ⟨0, .transparent⟩

/-- The line as it is drawn in one piece: a line that cannot be seen is none. -/
def Stroke.solid (s : Stroke α) : Stroke α := if s.color = .transparent then .absent else s

/-- What is put on the canvas. -/
inductive Mark (α : Type) where
  /-- A filled rectangle with rounded corners. -/
  | surface (bounds : Bounds α) (radius : Nat) (color : Color)
  /-- The border of a rectangle. -/
  | outline (bounds : Bounds α) (radius : Nat) (stroke : Stroke α)
  | disc (center : Point α) (radius : α) (color : Color)
  | ring (center : Point α) (radius : α) (stroke : Stroke α)
  | lettering (position : Point α) (align : Align) (content : String) (size : α) (color : Color)
  | line (points : List (Point α)) (stroke : Stroke α)
  | dashes (points : List (Point α)) (stroke : Stroke α) (dash gap : α)
deriving DecidableEq, Repr

/-- The length of a dash. -/
def dashLength : α := 6

/-- The distance between dashes. -/
def dashGap : α := 4

/-- The radius of a corner in whole pixels: a half is rounded up, and 255 is the limit. -/
def cornerPixels (radius : α) : Nat :=
  let whole := floorCount radius
  let rest := radius - Scalar.ofNat whole
  Nat.min (if le (1 / 2) rest then whole + 1 else whole) 255

/-- Whether dashes show on a line, which they do if it has any length. A piece without a length is
passed over; one whose length is no number ends the line. -/
def showsDashes : List (Point α) → Bool
  | p :: q :: rest =>
    let dx := q.x - p.x
    let dy := q.y - p.y
    if eq dx 0 && eq dy 0 then showsDashes (q :: rest) else eq dx dx && eq dy dy
  | _ => false

/-- The colour of a surface. -/
def Style.fillColor? (s : Style α) : Option Color := s.fill.bind Color.parse

/-- The colour of a text. -/
def Style.textColor? (s : Style α) : Option Color := s.text.bind Color.parse

namespace Projection

/-- Where a point lies on the canvas. -/
def point (p : Projection α) (q : Point α) : Point α :=
  let q := match p.transform with
    | some t => t.apply q
    | none => q
  ⟨p.origin.x + q.x, p.origin.y + q.y⟩

/-- How long something is on the canvas. -/
def length (p : Projection α) (x : α) : α :=
  match p.transform with
  | some t => x * t.scale
  | none => x

/-- The line of a style, at least half a pixel wide. -/
def stroke? (p : Projection α) (s : Style α) : Option (Stroke α) :=
  (s.stroke.bind Color.parse).map fun color =>
    ⟨max (p.length (s.strokeWidth.getD 1)) (1 / 2), color⟩

/-- The rectangle of a command on the canvas. -/
def rectangle (p : Projection α) (origin : Point α) (size : Size α) : Bounds α :=
  .ofSize (p.point origin) ⟨p.length size.width, p.length size.height⟩

/-- The square of an icon on the canvas. -/
def square (p : Projection α) (center : Point α) (size : α) : Bounds α :=
  let c := p.point center
  let half := p.length size / 2
  ⟨c.x - half, c.y - half, c.x + half, c.y + half⟩

/-- A surface and then its border, as far as a style gives them. -/
def faces (p : Projection α) (s : Style α) (surface : Color → Mark α)
    (border : Stroke α → Mark α) : List (Mark α) :=
  (s.fillColor?.map surface).toList ++ ((p.stroke? s).map border).toList

/-- The marks of a primitive. -/
def marks (p : Projection α) (s : Style α) : Primitive α → List (Mark α)
  | .rect origin size radius =>
    let bounds := p.rectangle origin size
    let radius := cornerPixels (p.length radius)
    p.faces s (.surface bounds radius) (.outline bounds radius)
  | .icon _ center size =>
    [.surface (p.square center size) (cornerPixels (p.length size / 4))
      (s.fillColor?.getD .grey)]
  | .text position content fontSize align =>
    [.lettering (p.point position) align content (max (p.length fontSize) 1)
      (s.textColor?.getD .grey)]
  | .circle center radius =>
    let c := p.point center
    let r := p.length radius
    p.faces s (.disc c r) (.ring c r)
  | .path points dashed =>
    match p.stroke? s with
    | none => []
    | some stroke =>
      let points := points.map p.point
      if !dashed then [.line points stroke.solid]
      else if showsDashes points then
        [.dashes points stroke (p.length dashLength) (p.length dashGap)]
      else []

/-- The marks of commands, in their order. -/
def paint (p : Projection α) (commands : List (DrawCommand α)) : List (Mark α) :=
  commands.flatMap fun c => p.marks c.style c.primitive

end Projection

namespace Batch

/-- How the diagram of a frame is mapped onto a canvas. -/
def diagramProjection (b : Batch α) (origin : Point α) : Projection α := ⟨some b.transform, origin⟩

/-- How the overlay of a frame is mapped onto a canvas. -/
def overlayProjection (origin : Point α) : Projection α := ⟨none, origin⟩

/-- The marks of a frame on a canvas, the background first. -/
def paint (b : Batch α) (canvas : Bounds α) : List (Mark α) :=
  let origin : Point α := ⟨canvas.minX, canvas.minY⟩
  .surface canvas 0 ((Color.parse b.background).getD .white) ::
    ((b.diagramProjection origin).paint b.diagram ++ (overlayProjection origin).paint b.overlay)

end Batch

end ClusterMap
