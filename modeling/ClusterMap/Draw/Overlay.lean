import ClusterMap.Draw.Command
import ClusterMap.Draw.Theme
import ClusterMap.Menu.Basic
import ClusterMap.Decimal.Written
import ClusterMap.Text.Label

/-!
# Menus and tooltips on the screen

Both are panels placed near a point of the screen and kept inside the viewport (`placePanel`). Of a
menu, the panel and each action that can be chosen react to the pointer.
-/

namespace ClusterMap

/-- Commands to paint with the areas that they come with. -/
structure Overlay (α : Type) where
  commands : List (DrawCommand α)
  hitRegions : List (HitRegion α)
deriving DecidableEq, Repr

variable {α : Type} [Scalar α]

open Scalar

/-- The top left corner of a panel opened at a point. It opens to the lower right, changes sides
where it would overflow, and is held inside the viewport at last. -/
def placePanel (anchor : Point α) (size : Size α) (v : Viewport α) : Point α :=
  let x := if lt v.width (anchor.x + size.width) then anchor.x - size.width else anchor.x
  let y := if lt v.height (anchor.y + size.height) then anchor.y - size.height else anchor.y
  ⟨clamp 0 (max (v.width - size.width) 0) x, clamp 0 (max (v.height - size.height) 0) y⟩

namespace Menu

/-- The width of every menu. -/
def panelWidth : α := 180
/-- The height of an action. -/
def itemHeight : α := 28
/-- The height of the reason below a disabled action. -/
def reasonHeight : α := 14
/-- The height of a divider. -/
def dividerHeight : α := 9
/-- The space above and below the lines. -/
def padding : α := 4
/-- The space to the left and to the right of a text. -/
def textInset : α := 12

/-- The height of a line. -/
def entryHeight : MenuEntry → α
  | .divider => dividerHeight
  | .item i => if i.disabledReason.isSome then itemHeight + reasonHeight else itemHeight

/-- The height of all lines together, from the first to the last. -/
def entriesHeight (m : Menu) : α := m.foldl (fun sum e => sum + entryHeight e) 0

/-- The size of a menu. -/
def panelSize (m : Menu) : Size α := ⟨panelWidth, entriesHeight m + 2 * padding⟩

/-- One line of a text in a menu. -/
def line (id : String) (position : Point α) (content : String)
    (charWidth fontSize : α) (color : String) : DrawCommand α :=
  let room : α := panelWidth - 2 * textInset
  { id
    layer := menuLayer
    primitive := .text position (Label.truncate content room charWidth) fontSize .left
    style := .lettering color }

/-- What the line of a menu at an index draws, with its upper edge at `cursor`. -/
def entryCommands (theme : Theme α) (left cursor : α) (index : Nat) :
    MenuEntry → List (DrawCommand α)
  | .divider =>
    let y := cursor + dividerHeight / 2
    [{ id := s!"menu:{index}:divider"
       layer := menuLayer
       primitive := .path [⟨left + padding, y⟩, ⟨left + panelWidth - padding, y⟩] false
       style := .line theme.menuDivider 1 }]
  | .item i =>
    let name := line (s!"menu:{index}:" ++ i.action.name)
      ⟨left + textInset, cursor + itemHeight / 2⟩ i.label theme.labelCharWidth theme.titleFontSize
      (if i.enabled then theme.menuText else theme.menuDisabledText)
    let reason := i.disabledReason.map fun reason =>
      line s!"menu:{index}:reason" ⟨left + textInset, cursor + itemHeight⟩ reason
        theme.secondaryCharWidth theme.secondaryFontSize theme.menuDisabledText
    name :: reason.toList

/-- The area of a line with its upper edge at `cursor`, if the line can be chosen. -/
def entryRegion? (nodeId : String) (left cursor : α) : MenuEntry → Option (HitRegion α)
  | .divider => none
  | .item i =>
    if i.enabled then
      some ⟨.menuItem nodeId i.action, .ofSize ⟨left, cursor⟩ ⟨panelWidth, entryHeight (.item i)⟩⟩
    else none

/-- The lines of a menu from top to bottom, the first of them at an index and a height. -/
def lines (theme : Theme α) (nodeId : String) (left : α) : Nat → α → Menu → Overlay α
  | _, _, [] => ⟨[], []⟩
  | index, cursor, e :: rest =>
    let below := lines theme nodeId left (index + 1) (cursor + entryHeight e) rest
    ⟨entryCommands theme left cursor index e ++ below.commands,
      (entryRegion? nodeId left cursor e).toList ++ below.hitRegions⟩

/-- The menu of a node opened at a point. -/
def draw (theme : Theme α) (nodeId : String) (m : Menu) (anchor : Point α) (v : Viewport α) :
    Overlay α :=
  let size := panelSize m
  let origin := placePanel anchor size v
  let panel : DrawCommand α :=
    { id := "menu:panel"
      layer := menuLayer
      primitive := .rect origin size 4
      style := .bordered theme.menuFill theme.menuStroke 1 }
  let body := lines theme nodeId origin.x 0 (origin.y + padding) m
  ⟨panel :: body.commands, ⟨.menuPanel nodeId, .ofSize origin size⟩ :: body.hitRegions⟩

end Menu

namespace Tooltip

/-- A count, or a dash. -/
def countText : Option UInt64 → String
  | some n => toString n.toNat
  | none => "-"

/-- A rate with one decimal place, or a dash. -/
def rateText : Option Float → String
  | some x => (Decimal.Reading.of64 x).fixed 1
  | none => "-"

/-- What the tooltip of a node says; clusters and the root have none. -/
def linesOf (d : Detail) : List String :=
  match d with
  | .zone _ _ _ _ _ _ connections qps =>
    ["Connections: " ++ countText connections, "QPS: " ++ rateText qps]
  | .server _ _ port _ connections qps =>
    ["Connections: " ++ countText connections, "QPS: " ++ rateText qps, s!"Port: {port.toNat}"]
  | .root | .cluster .. => []

/-- How far from the pointer a tooltip opens. -/
def offset : α := 12
/-- The height of a line. -/
def lineHeight : α := 16
/-- The space around the lines. -/
def padding : α := 8

/-- The line of a tooltip at an index. -/
def drawLine (theme : Theme α) (origin : Point α) (index : Nat) (content : String) :
    DrawCommand α :=
  { id := s!"tooltip:{index}"
    layer := tooltipLayer
    primitive := .text
      ⟨origin.x + padding, origin.y + padding + (ofNat index + 1 / 2) * lineHeight⟩
      content theme.secondaryFontSize .left
    style := .lettering theme.tooltipText }

/-- A tooltip near the pointer; without lines there is none. -/
def draw (theme : Theme α) (lines : List String) (pointer : Point α) (v : Viewport α) :
    List (DrawCommand α) :=
  if lines.isEmpty then []
  else
    let longest := lines.foldl (fun n line => Nat.max n line.length) 0
    let size : Size α :=
      ⟨ofNat longest * theme.secondaryCharWidth + 2 * padding,
        ofNat lines.length * lineHeight + 2 * padding⟩
    let origin := placePanel (pointer.offset offset offset) size v
    { id := "tooltip:panel"
      layer := tooltipLayer
      primitive := .rect origin size 4
      style := .surface theme.tooltipFill } :: lines.mapIdx (drawLine theme origin)

end Tooltip

end ClusterMap
