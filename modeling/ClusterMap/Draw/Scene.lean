import ClusterMap.Draw.Overlay
import ClusterMap.Draw.Shape
import ClusterMap.View.State

/-!
# Frames

A frame is a function of the tree, its layout, the transform and the state of the view
(`Artist.draw`). Edges come before nodes, and commands are sorted by layer without changing the
order within a layer. On top lies the open menu, or else the tooltip.
-/

namespace ClusterMap

/-- How a view is drawn: with which theme, and which kinds of nodes at all. -/
structure Artist (α : Type) where
  theme : Theme α
  kinds : List Kind
deriving DecidableEq, Repr

/-- What is drawn. -/
structure Scene (α : Type) where
  tree : Tree
  layout : Layout α
  transform : Transform α
  view : ViewState α

namespace Artist

variable {α : Type} [Scalar α]

/-- The usual theme, and all kinds. -/
def standard : Artist α := ⟨.standard, Kind.all⟩

/-- The shape of a placed node, if it is in the tree and its kind is drawn. -/
def shapeOf? (a : Artist α) (s : Scene α) (p : NodePosition α) : Option (Shape α) :=
  if a.kinds.contains p.kind then
    (s.tree.find? p.id).map fun node =>
      Shape.draw p.kind
        { node
          anchor := p.anchor
          theme := a.theme
          isCurrent := s.tree.isCurrent node.id
          hovered := s.view.hovered? == some node.id }
  else none

/-- The shapes of all placed nodes. -/
def shapes (a : Artist α) (s : Scene α) : List (Shape α) := s.layout.nodes.filterMap (a.shapeOf? s)

/-- The diagram, lowest layer first. -/
def diagram (a : Artist α) (s : Scene α) : List (DrawCommand α) :=
  (s.layout.edges.flatMap (EdgePath.draw a.theme) ++ (a.shapes s).flatMap (·.commands)).mergeSort
    fun c d => decide (c.layer ≤ d.layer)

/-- The areas of the nodes on the screen. -/
def nodeRegions (a : Artist α) (s : Scene α) : List (HitRegion α) :=
  ((a.shapes s).flatMap (·.hitAreas)).map fun (target, bounds) =>
    ⟨target, s.transform.applyBounds bounds⟩

/-- The open menu, if its node is in the tree. -/
def openMenu? (a : Artist α) (s : Scene α) : Option (Overlay α) := do
  let (id, anchor) ← s.view.openMenu?
  let node ← s.tree.find? id
  pure (Menu.draw a.theme id (Menu.ofNode node (s.tree.isCurrent id)) anchor s.view.viewport)

/-- The tooltip of the node under the pointer. -/
def tooltip (a : Artist α) (s : Scene α) : List (DrawCommand α) :=
  match s.view.tooltipAnchor?, s.view.hovered?.bind s.tree.find? with
  | some anchor, some node =>
    Tooltip.draw a.theme (Tooltip.linesOf node.info.detail) anchor s.view.viewport
  | _, _ => []

/-- The overlay: the open menu, or else the tooltip. -/
def overlay (a : Artist α) (s : Scene α) : Overlay α :=
  (a.openMenu? s).getD ⟨a.tooltip s, []⟩

/-- All areas that react to the pointer, those of the overlay on top. -/
def hitRegions (a : Artist α) (s : Scene α) : List (HitRegion α) :=
  a.nodeRegions s ++ (a.overlay s).hitRegions

/-- A frame. -/
def draw (a : Artist α) (s : Scene α) (sequence : Nat) : Batch α :=
  { sequence
    transform := s.transform
    background := a.theme.background
    diagram := a.diagram s
    overlay := (a.overlay s).commands
    hitRegions := a.hitRegions s }

end Artist

end ClusterMap
