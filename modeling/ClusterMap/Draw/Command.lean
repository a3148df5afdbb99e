import ClusterMap.Action.Basic
import ClusterMap.Layout.Geometry

/-!
# Drawing commands

What one frame consists of: primitives to paint, and areas that react to the pointer. The diagram is
given in the coordinates of the layout and is painted through the transform of the frame; the
overlay and the areas are given in the coordinates of the screen.
-/

namespace ClusterMap

/-- Colours and line width of a primitive. -/
structure Style (α : Type) where
  fill : Option String
  stroke : Option String
  strokeWidth : Option α
  text : Option String
deriving DecidableEq, Repr

namespace Style

variable {α : Type}

/-- A surface with a border. -/
def bordered (fill stroke : String) (width : α) : Style α :=
  ⟨some fill, some stroke, some width, none⟩

/-- A line. -/
def line (color : String) (width : α) : Style α := ⟨none, some color, some width, none⟩

/-- A surface. -/
def surface (color : String) : Style α := ⟨some color, none, none, none⟩

/-- A text. -/
def lettering (color : String) : Style α := ⟨none, none, none, some color⟩

end Style

/-- To which side of its position a text stands. -/
inductive Align where
  | left
  | center
  | right
deriving DecidableEq, Repr

/-- What a command paints. -/
inductive Primitive (α : Type) where
  | rect (origin : Point α) (size : Size α) (cornerRadius : α)
  | icon (name : String) (center : Point α) (size : α)
  | text (position : Point α) (content : String) (fontSize : α) (align : Align)
  | circle (center : Point α) (radius : α)
  | path (points : List (Point α)) (dashed : Bool)
deriving DecidableEq, Repr

/-- One primitive with its name, its layer and its style. Higher layers cover lower ones. -/
structure DrawCommand (α : Type) where
  id : String
  layer : Int
  primitive : Primitive α
  style : Style α
deriving DecidableEq, Repr

/-- The layers, from the lowest. -/
def edgeLayer : Int := 10
/-- Covers of edges. -/
def edgeCoverLayer : Int := 11
/-- Boxes of nodes. -/
def boxLayer : Int := 20
/-- What is written in the boxes. -/
def contentLayer : Int := 21
/-- What is attached to the boxes. -/
def affixLayer : Int := 22
/-- Tooltips. -/
def tooltipLayer : Int := 100
/-- Menus. -/
def menuLayer : Int := 110

/-- What a click or a move can be aimed at. -/
inductive HitTarget where
  | nodeBox (nodeId : String)
  | moreActions (nodeId : String)
  | collapseToggle (nodeId : String)
  | menuItem (nodeId : String) (action : Action)
  | menuPanel (nodeId : String)
deriving DecidableEq, Repr

/-- The node that a target belongs to. -/
def HitTarget.nodeId : HitTarget → String
  | .nodeBox id | .moreActions id | .collapseToggle id | .menuItem id _ | .menuPanel id => id

/-- An area of the screen that reacts to the pointer. -/
structure HitRegion (α : Type) where
  target : HitTarget
  bounds : Bounds α
deriving DecidableEq, Repr

section HitTest

variable {α : Type} [Scalar α]

/-- The region at a point: of several the last, which lies on top. -/
def regionAt? (regions : List (HitRegion α)) (p : Point α) : Option (HitRegion α) :=
  regions.reverse.find? (·.bounds.contains p)

/-- The target at a point. -/
def hitTest (regions : List (HitRegion α)) (p : Point α) : Option HitTarget :=
  (regionAt? regions p).map (·.target)

end HitTest

/-- A frame. -/
structure Batch (α : Type) where
  sequence : Nat
  transform : Transform α
  background : String
  diagram : List (DrawCommand α)
  overlay : List (DrawCommand α)
  hitRegions : List (HitRegion α)
deriving DecidableEq, Repr

namespace Batch

variable {α : Type}

/-- All commands of a frame. -/
def commands (b : Batch α) : List (DrawCommand α) := b.diagram ++ b.overlay

/-- The first command with a name. -/
def find? (b : Batch α) (id : String) : Option (DrawCommand α) := b.commands.find? (·.id == id)

/-- The names of the commands that start in a given way. -/
def idsStarting (b : Batch α) (start : String) : List String :=
  (b.commands.map (·.id)).filter (·.startsWith start)

end Batch

end ClusterMap
