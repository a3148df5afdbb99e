import ClusterMap.Tree.Basic

/-!
# Edges of the visible tree

Every visible node but the root is joined to its parent. The edges of the root show whether several
clusters share the view: they are dashed if so, and otherwise drawn and then covered again, since a
lone cluster needs no connection to a root that is not drawn.
-/

namespace ClusterMap

/-- How an edge is drawn. -/
inductive EdgeStyle where
  | solid
  /-- An edge of the root of several clusters. -/
  | dashed
  /-- The edge of the root of a single cluster: drawn and then covered. -/
  | hiddenOverlay
deriving DecidableEq, Repr, Inhabited

/-- The name of a style. -/
def EdgeStyle.name : EdgeStyle → String
  | .solid => "solid"
  | .dashed => "dashed"
  | .hiddenOverlay => "hidden_overlay"

/-- The names of the styles. -/
def EdgeStyle.names : List (String × EdgeStyle) :=
  [("solid", .solid), ("dashed", .dashed), ("hidden_overlay", .hiddenOverlay)]

/-- An edge from a node to one of its children. -/
structure Edge where
  parent : String
  child : String
  style : EdgeStyle
deriving DecidableEq, Repr

namespace Node

mutual
/-- The edges below a node; those of a root have the style `rootStyle`. -/
def edges (rootStyle : EdgeStyle) : Node → List Edge
  | ⟨i, cs⟩ =>
    if i.collapsed.getD false then []
    else edgesFrom rootStyle i.id (if i.kind = .root then rootStyle else .solid) cs
/-- The edges from a parent to a list of children, each followed by those below it. -/
def edgesFrom (rootStyle : EdgeStyle) (parent : String) (style : EdgeStyle) :
    List Node → List Edge
  | [] => []
  | n :: rest =>
    ⟨parent, n.id, style⟩ :: n.edges rootStyle ++ edgesFrom rootStyle parent style rest
end

end Node

/-- How the edges of the root are drawn. -/
def Tree.rootStyle (t : Tree) : EdgeStyle := if t.isMulti then .dashed else .hiddenOverlay

/-- The edges of the visible tree, in pre-order of the children. -/
def Tree.edges (t : Tree) : List Edge := t.root.edges t.rootStyle

end ClusterMap
