import ClusterMap.Layout.Geometry
import ClusterMap.Tree.Edge

/-!
# Layout of the visible tree

Every visible node gets the same small nominal footprint; children stand side by side below their
parent, which is centred over them. Boxes are drawn around the anchors later, so the size of a drawn
box never changes where a node stands. `Layout.ofTree` gives the anchors in pre-order, the paths of
the edges, and the extent of what will be drawn.

`Transform.fit` maps a layout onto a viewport.
-/

namespace ClusterMap

/-- The distances of a layout. -/
structure LayoutConfig (α : Type) where
  /-- The footprint of every node. -/
  nominalNode : Size α
  horizontalGap : α
  verticalGap : α
  /-- Half the size of the largest drawn box; only used when fitting. -/
  drawnHalfExtent : Size α
  fitPadding : α
  multiClusterTopPadding : α
  singleClusterTopPadding : α
  maxZoom : α
deriving DecidableEq, Repr

/-- Where a visible node stands. -/
structure NodePosition (α : Type) where
  id : String
  kind : Kind
  anchor : Point α
deriving DecidableEq, Repr

/-- The path of an edge. -/
structure EdgePath (α : Type) where
  parent : String
  child : String
  style : EdgeStyle
  points : List (Point α)
deriving DecidableEq, Repr

/-- Where everything visible stands, in layout coordinates. -/
structure Layout (α : Type) where
  /-- The visible nodes in pre-order. -/
  nodes : List (NodePosition α)
  edges : List (EdgePath α)
  /-- The extent of what is drawn. -/
  contentBounds : Bounds α
  multiCluster : Bool
deriving DecidableEq, Repr

variable {α : Type} [Scalar α]

open Scalar

/-- The usual distances. -/
def LayoutConfig.standard : LayoutConfig α where
  nominalNode := ⟨16, 16⟩
  horizontalGap := 230
  verticalGap := 100
  drawnHalfExtent := ⟨125, 60⟩
  fitPadding := 20
  multiClusterTopPadding := 20
  singleClusterTopPadding := 60
  maxZoom := 1

/-- The first anchor with an identifier. -/
def anchorIn (nodes : List (NodePosition α)) (id : String) : Option (Point α) :=
  (nodes.find? (·.id == id)).map (·.anchor)

/-! ### Placing nodes -/

/-- The width of a row of siblings: `total` is the sum of their widths and `count` their number. -/
def rowWidth (c : LayoutConfig α) (total : α) (count : Nat) : α :=
  total + c.horizontalGap * ofNat (count - 1)

namespace Node

mutual
/-- The width of the visible tree below a node, at least that of the node itself. -/
def subtreeWidth (c : LayoutConfig α) : Node → α
  | ⟨i, cs⟩ =>
    let own := c.nominalNode.width
    if i.collapsed.getD false || cs.isEmpty then own
    else max (rowWidth c (sumWidths c (-0) cs) cs.length) own
/-- Adds the widths of a list of siblings from the left. -/
def sumWidths (c : LayoutConfig α) (total : α) : List Node → α
  | [] => total
  | n :: rest => sumWidths c (total + n.subtreeWidth c) rest
end

/-- The width of the row of a node's children. -/
def childrenWidth (c : LayoutConfig α) (children : List Node) : α :=
  rowWidth c (sumWidths c (-0) children) children.length

mutual
/-- Places a node whose subtree starts at `left`, and everything visible below it. -/
def place (c : LayoutConfig α) (left : α) (depth : Nat) : Node → List (NodePosition α)
  | ⟨i, cs⟩ =>
    let width := subtreeWidth c ⟨i, cs⟩
    let levelHeight := c.nominalNode.height + c.verticalGap
    let here : NodePosition α := ⟨i.id, i.kind, ⟨left + width / 2, ofNat depth * levelHeight⟩⟩
    if i.collapsed.getD false || cs.isEmpty then [here]
    else here :: placeRow c (left + (width - childrenWidth c cs) / 2) (depth + 1) cs
/-- Places siblings from the left. -/
def placeRow (c : LayoutConfig α) (cursor : α) (depth : Nat) : List Node → List (NodePosition α)
  | [] => []
  | n :: rest =>
    n.place c cursor depth ++ placeRow c (cursor + (n.subtreeWidth c + c.horizontalGap)) depth rest
end

end Node

/-! ### Edges and extent -/

/-- Down from the parent, across, and down to the child. -/
def elbow (c : LayoutConfig α) (parent child : Point α) : List (Point α) :=
  let half := c.nominalNode.height / 2
  let start := parent.offset 0 half
  let stop := child.offset 0 (-half)
  let midY := (start.y + stop.y) / 2
  [start, ⟨start.x, midY⟩, ⟨stop.x, midY⟩, stop]

/-- The path of an edge between placed nodes. -/
def EdgePath.ofEdge? (c : LayoutConfig α) (nodes : List (NodePosition α)) (e : Edge) :
    Option (EdgePath α) :=
  match anchorIn nodes e.parent, anchorIn nodes e.child with
  | some parent, some child => some ⟨e.parent, e.child, e.style, elbow c parent child⟩
  | _, _ => none

/-- The anchors around which something is drawn. A root draws nothing, and a view of one cluster
leaves the root's row out. -/
def drawnAnchors (nodes : List (NodePosition α)) (multi : Bool) : List (Point α) :=
  (nodes.filter fun n => multi || n.id != Tree.rootId).map (·.anchor)

/-- The extent of what is drawn around the nodes. -/
def contentBounds (c : LayoutConfig α) (nodes : List (NodePosition α)) (multi : Bool) :
    Bounds α :=
  let inflated (b : Bounds α) := b.inflate c.drawnHalfExtent.width c.drawnHalfExtent.height
  match drawnAnchors nodes multi with
  | first :: rest => inflated (rest.foldl Bounds.cover (Bounds.around first))
  | [] => match nodes with
    | n :: _ => inflated (Bounds.around n.anchor)
    | [] => Bounds.around Point.zero

namespace Layout

/-- The layout of a tree. -/
def ofTree (c : LayoutConfig α) (t : Tree) : Layout α :=
  let nodes := t.root.place c (-(t.root.subtreeWidth c) / 2) 0
  { nodes
    edges := t.edges.filterMap (EdgePath.ofEdge? c nodes)
    contentBounds := ClusterMap.contentBounds c nodes t.isMulti
    multiCluster := t.isMulti }

/-- Where the node with an identifier stands. -/
def anchorOf (l : Layout α) (id : String) : Option (Point α) := anchorIn l.nodes id

/-- How many placed nodes have a kind. -/
def countKind (l : Layout α) (k : Kind) : Nat := l.nodes.countP (·.kind == k)

/-- The padding above the content. -/
def topPadding (l : Layout α) (c : LayoutConfig α) : α :=
  if l.multiCluster then c.multiClusterTopPadding else c.singleClusterTopPadding

end Layout

/-- Scales a layout into a viewport as far as `maxZoom` allows, centred below the padding at the
top. -/
def Transform.fit (l : Layout α) (v : Viewport α) (c : LayoutConfig α) : Transform α :=
  let top := l.topPadding c
  let b := l.contentBounds
  let contentWidth := max b.width 1
  let contentHeight := max b.height 1
  let availableWidth := max (v.width - 2 * c.fitPadding) 1
  let availableHeight := max (v.height - top - c.fitPadding) 1
  let scale := min (min (availableWidth / contentWidth) (availableHeight / contentHeight)) c.maxZoom
  let x := c.fitPadding + (availableWidth - contentWidth * scale) / 2 - b.minX * scale
  let y := top - b.minY * scale
  ⟨scale, ⟨x, y⟩⟩

end ClusterMap
