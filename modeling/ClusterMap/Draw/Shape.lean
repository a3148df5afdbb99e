import ClusterMap.Draw.Command
import ClusterMap.Draw.Theme
import ClusterMap.Layout.Basic
import ClusterMap.Status
import ClusterMap.Text.Label

/-!
# Shapes of nodes and edges

Every kind of node has a shape: what it draws and which areas react to the pointer, both in the
coordinates of the layout. A root draws nothing; the others draw a card, and a zone with servers a
toggle below its card.
-/

namespace ClusterMap

/-- What a shape is drawn for. -/
structure ShapeContext (α : Type) where
  node : Node
  anchor : Point α
  theme : Theme α
  isCurrent : Bool
  hovered : Bool

/-- What a shape consists of. -/
structure Shape (α : Type) where
  commands : List (DrawCommand α)
  hitAreas : List (HitTarget × Bounds α)
deriving DecidableEq, Repr

namespace Shape

variable {α : Type} [Scalar α]

/-- What is written on a card. -/
structure Card (α : Type) where
  size : Size α
  subtitle : Option String
  appearance : Appearance
  showActions : Bool

/-- From the left edge of a card to its texts. -/
def contentInset : α := 42
/-- Room to the right of the texts. -/
def affixReserve : α := 30
/-- The length of the line from a card to its toggle. -/
def stubLength : α := 10
/-- The radius of a toggle. -/
def toggleRadius : α := 7

/-- The size of the box of a kind. -/
def boxSize : Kind → Size α
  | .root => ⟨0, 0⟩
  | .cluster => ⟨240, 64⟩
  | .zone => ⟨200, 72⟩
  | .server => ⟨190, 64⟩

/-- The name of a part of a node. -/
def partId (n : Node) (part : String) : String := "node:" ++ n.id ++ ":" ++ part

/-- The corner of a card. -/
def cardOrigin (anchor : Point α) (size : Size α) : Point α :=
  anchor.offset (-size.width / 2) (-size.height / 2)

/-- The area of a card. -/
def cardArea (anchor : Point α) (size : Size α) : Bounds α := .ofSize (cardOrigin anchor size) size

/-- The middle of the mark that opens the menu of a card. -/
def actionsCenter (anchor : Point α) (size : Size α) : Point α :=
  let origin := cardOrigin anchor size
  ⟨origin.x + size.width - 16, origin.y + 16⟩

/-- The area of the mark that opens the menu of a card. -/
def actionsArea (anchor : Point α) (size : Size α) : Bounds α :=
  (Bounds.around (actionsCenter anchor size)).inflate (24 / 2) (24 / 2)

/-- A text at a position, with its left end there. -/
def textAt (id : String) (layer : Int) (position : Point α) (content : String) (fontSize : α)
    (align : Align) (color : String) : DrawCommand α :=
  { id, layer, primitive := .text position content fontSize align, style := .lettering color }

/-- The colour of the border of a card. -/
def borderColor (c : ShapeContext α) : String :=
  if c.isCurrent then c.theme.accent
  else if c.hovered then c.theme.hoverStroke
  else c.theme.nodeStroke

/-- The mark that opens the menu of a card. -/
def actionsMark (c : ShapeContext α) (card : Card α) : DrawCommand α :=
  textAt (partId c.node "more") affixLayer (actionsCenter c.anchor card.size) "⋯" 16 .center
    c.theme.secondaryText

/-- The commands of a card. -/
def cardCommands (c : ShapeContext α) (card : Card α) : List (DrawCommand α) :=
  let theme := c.theme
  let size := card.size
  let origin := cardOrigin c.anchor size
  let room := size.width - contentInset - affixReserve
  let badge := card.appearance.tone.color
  let badgeY := origin.y + size.height - 12
  let box : DrawCommand α :=
    { id := partId c.node "box"
      layer := boxLayer
      primitive := .rect origin size 6
      style := .bordered theme.nodeFill (borderColor c) (if c.isCurrent then 2 else 1) }
  let icon : DrawCommand α :=
    { id := partId c.node "icon"
      layer := contentLayer
      primitive := .icon (card.appearance.icon c.node.kind) ⟨origin.x + 22, c.anchor.y⟩ 24
      style := .surface badge }
  let name := textAt (partId c.node "name") contentLayer
    ⟨origin.x + contentInset, origin.y + 18⟩
    (Label.truncate c.node.info.displayName room theme.labelCharWidth) theme.titleFontSize .left
    theme.text
  let subtitle := card.subtitle.map fun s =>
    textAt (partId c.node "subtitle") contentLayer ⟨origin.x + contentInset, origin.y + 35⟩
      (Label.truncate s room theme.secondaryCharWidth) theme.secondaryFontSize .left
      theme.secondaryText
  let badgeDot : DrawCommand α :=
    { id := partId c.node "badge"
      layer := contentLayer
      primitive := .circle ⟨origin.x + contentInset + 4, badgeY⟩ 4
      style := .surface badge }
  let status := textAt (partId c.node "status") contentLayer
    ⟨origin.x + contentInset + 14, badgeY⟩ card.appearance.label theme.secondaryFontSize .left
    theme.secondaryText
  [box, icon, name] ++ subtitle.toList ++ [badgeDot, status] ++
    if card.showActions then [actionsMark c card] else []

/-- The areas of a card. -/
def cardAreas (c : ShapeContext α) (card : Card α) : List (HitTarget × Bounds α) :=
  (.nodeBox c.node.id, cardArea c.anchor card.size) ::
    if card.showActions then [(.moreActions c.node.id, actionsArea c.anchor card.size)] else []

/-- A card. -/
def ofCard (c : ShapeContext α) (card : Card α) : Shape α := ⟨cardCommands c card, cardAreas c card⟩

/-- Where the line to the toggle of a card starts. -/
def stubStart (anchor : Point α) (size : Size α) : Point α :=
  ⟨anchor.x, anchor.y + size.height / 2⟩

/-- The middle of the toggle of a card. -/
def toggleCenter (anchor : Point α) (size : Size α) : Point α :=
  ((stubStart anchor size).offset 0 stubLength).offset 0 toggleRadius

/-- The area of the toggle of a card. -/
def toggleArea (anchor : Point α) (size : Size α) : Bounds α :=
  (Bounds.around (toggleCenter anchor size)).inflate (toggleRadius + 1) (toggleRadius + 1)

/-- The toggle below a card. -/
def toggle (c : ShapeContext α) (size : Size α) : Shape α :=
  let theme := c.theme
  let start := stubStart c.anchor size
  let center := toggleCenter c.anchor size
  { commands :=
      [{ id := partId c.node "toggle-stub"
         layer := affixLayer
         primitive := .path [start, start.offset 0 stubLength] false
         style := .line theme.edge theme.edgeWidth },
       { id := partId c.node "toggle"
         layer := affixLayer
         primitive := .circle center toggleRadius
         style := .bordered theme.nodeFill theme.edge 1 },
       textAt (partId c.node "toggle-glyph") affixLayer center
         (if c.node.isCollapsed then "+" else "−") 12 .center theme.text]
    hitAreas := [(.collapseToggle c.node.id, toggleArea c.anchor size)] }

/-- Two shapes as one. -/
def append (s t : Shape α) : Shape α := ⟨s.commands ++ t.commands, s.hitAreas ++ t.hitAreas⟩

/-- What the card of a cluster says below the name. -/
def clusterSubtitle : Detail → Option String
  | .cluster _ version role _ _ =>
    let version := match version with
      | some v => "v" ++ v
      | none => "version unknown"
    match role with
    | .primary => some version
    | .standby => some (version ++ " · standby")
  | _ => none

/-- What the card of a zone says below the name. -/
def zoneSubtitle : Detail → Option String
  | .zone region _ _ _ _ _ _ _ => region
  | _ => none

/-- The card that a kind of node has; a root has none. -/
def card? (k : Kind) (n : Node) : Option (Card α) :=
  match k with
  | .root => none
  | .cluster =>
    some ⟨boxSize .cluster, clusterSubtitle n.info.detail, Status.appearance .cluster n.info.status,
      true⟩
  | .zone =>
    let state := Status.OfZone.parse n.info.status
    some ⟨boxSize .zone, zoneSubtitle n.info.detail, state.appearance, state.isOperable⟩
  | .server =>
    let state := Status.OfServer.parse n.info.status
    some ⟨boxSize .server, none, state.appearance, state.isOperable⟩

/-- Whether the shape of a kind has a toggle. -/
def hasToggle (k : Kind) (n : Node) : Bool := k == .zone && !n.children.isEmpty

/-- A node drawn as one of a kind. -/
def draw (k : Kind) (c : ShapeContext α) : Shape α :=
  match card? k c.node with
  | none => ⟨[], []⟩
  | some card =>
    let body := ofCard c card
    if hasToggle k c.node then body.append (toggle c card.size) else body

end Shape

/-- The path of an edge. A hidden edge is covered by a wider path in the colour of the
background. -/
def EdgePath.draw {α : Type} [Scalar α] (theme : Theme α) (e : EdgePath α) :
    List (DrawCommand α) :=
  let id := "edge:" ++ e.parent ++ "->" ++ e.child
  let path : DrawCommand α :=
    { id
      layer := edgeLayer
      primitive := .path e.points (e.style == .dashed)
      style := .line theme.edge theme.edgeWidth }
  let cover : DrawCommand α :=
    { id := id ++ ":overlay"
      layer := edgeCoverLayer
      primitive := .path e.points false
      style := .line theme.background (theme.edgeWidth + theme.coverExtraWidth) }
  if e.style = .hiddenOverlay then [path, cover] else [path]

end ClusterMap
