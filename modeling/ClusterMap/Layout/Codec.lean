import ClusterMap.Layout.Basic
import ClusterMap.Tree.Codec

/-!
# Layouts as structured values

Reading and writing single-precision geometry, layout distances and layouts.
-/

namespace ClusterMap

open Decode

/-- The value of a single-precision number. -/
def coordinate (x : Float32) : Value := .ofFloat32 x

/-- Reads a point. -/
def Point.decode : Decoder (Point Float32) :=
  record "struct Point" <|
    Fields.none Point.mk
    |>.need "x" float32
    |>.need "y" float32

/-- The value of a point. -/
def Point.toValue (p : Point Float32) : Value :=
  .ofMembers [("x", coordinate p.x), ("y", coordinate p.y)]

/-- Reads a size. -/
def Size.decode : Decoder (Size Float32) :=
  record "struct Size" <|
    Fields.none Size.mk
    |>.need "width" float32
    |>.need "height" float32

/-- The value of a size. -/
def Size.toValue (s : Size Float32) : Value :=
  .ofMembers [("width", coordinate s.width), ("height", coordinate s.height)]

/-- Reads a viewport. -/
def Viewport.decode : Decoder (Viewport Float32) :=
  record "struct Viewport" <|
    Fields.none Viewport.mk
    |>.need "width" float32
    |>.need "height" float32

/-- The value of a viewport. -/
def Viewport.toValue (v : Viewport Float32) : Value :=
  .ofMembers [("width", coordinate v.width), ("height", coordinate v.height)]

/-- Reads a rectangle. -/
def Bounds.decode : Decoder (Bounds Float32) :=
  record "struct Bounds" <|
    Fields.none Bounds.mk
    |>.need "min_x" float32
    |>.need "min_y" float32
    |>.need "max_x" float32
    |>.need "max_y" float32

/-- The value of a rectangle. -/
def Bounds.toValue (b : Bounds Float32) : Value :=
  .ofMembers [("min_x", coordinate b.minX), ("min_y", coordinate b.minY),
    ("max_x", coordinate b.maxX), ("max_y", coordinate b.maxY)]

/-- Reads a transform. -/
def Transform.decode : Decoder (Transform Float32) :=
  record "struct FitTransform" <|
    Fields.none Transform.mk
    |>.need "scale" float32
    |>.need "translate" Point.decode

/-- The value of a transform. -/
def Transform.toValue (t : Transform Float32) : Value :=
  .ofMembers [("scale", coordinate t.scale), ("translate", t.translate.toValue)]

/-- Reads layout distances; what is left out is as usual. -/
def LayoutConfig.decode : Decoder (LayoutConfig Float32) :=
  let usual : LayoutConfig Float32 := .standard
  record "struct LayoutConfig" <|
    Fields.none LayoutConfig.mk
    |>.orElse "nominal_node" Size.decode usual.nominalNode
    |>.orElse "horizontal_gap" float32 usual.horizontalGap
    |>.orElse "vertical_gap" float32 usual.verticalGap
    |>.orElse "drawn_half_extent" Size.decode usual.drawnHalfExtent
    |>.orElse "fit_padding" float32 usual.fitPadding
    |>.orElse "multi_cluster_top_padding" float32 usual.multiClusterTopPadding
    |>.orElse "single_cluster_top_padding" float32 usual.singleClusterTopPadding
    |>.orElse "max_zoom" float32 usual.maxZoom

/-- The value of layout distances. -/
def LayoutConfig.toValue (c : LayoutConfig Float32) : Value :=
  .ofMembers [("nominal_node", c.nominalNode.toValue),
    ("horizontal_gap", coordinate c.horizontalGap), ("vertical_gap", coordinate c.verticalGap),
    ("drawn_half_extent", c.drawnHalfExtent.toValue), ("fit_padding", coordinate c.fitPadding),
    ("multi_cluster_top_padding", coordinate c.multiClusterTopPadding),
    ("single_cluster_top_padding", coordinate c.singleClusterTopPadding),
    ("max_zoom", coordinate c.maxZoom)]

/-- Reads a placed node. -/
def NodePosition.decode : Decoder (NodePosition Float32) :=
  record "struct NodePosition" <|
    Fields.none NodePosition.mk
    |>.need "id" text
    |>.need "kind" Kind.decode
    |>.need "anchor" Point.decode

/-- The value of a placed node. -/
def NodePosition.toValue (n : NodePosition Float32) : Value :=
  .ofMembers [("id", .text n.id), ("kind", .text n.kind.name), ("anchor", n.anchor.toValue)]

/-- Reads the path of an edge. -/
def EdgePath.decode : Decoder (EdgePath Float32) :=
  record "struct EdgePath" <|
    Fields.none EdgePath.mk
    |>.need "from" text
    |>.need "to" text
    |>.need "style" (choice EdgeStyle.names false)
    |>.need "points" (listOf Point.decode)

/-- The value of the path of an edge. -/
def EdgePath.toValue (e : EdgePath Float32) : Value :=
  .ofMembers [("from", .text e.parent), ("to", .text e.child), ("style", .text e.style.name),
    ("points", .list (e.points.map Point.toValue))]

/-- Reads a layout. -/
def Layout.decode : Decoder (Layout Float32) :=
  record "struct TopologyLayout" <|
    Fields.none Layout.mk
    |>.need "nodes" (listOf NodePosition.decode)
    |>.need "edges" (listOf EdgePath.decode)
    |>.need "content_bounds" Bounds.decode
    |>.need "multi_cluster" bool

/-- The value of a layout. -/
def Layout.toValue (l : Layout Float32) : Value :=
  .ofMembers [("nodes", .list (l.nodes.map NodePosition.toValue)),
    ("edges", .list (l.edges.map EdgePath.toValue)),
    ("content_bounds", l.contentBounds.toValue), ("multi_cluster", .bool l.multiCluster)]

end ClusterMap
