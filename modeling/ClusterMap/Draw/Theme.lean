import ClusterMap.Scalar

/-!
# Themes

The colours, line widths and letter sizes of a view.
-/

namespace ClusterMap

/-- Colours, widths and sizes of what is drawn. -/
structure Theme (α : Type) where
  background : String
  nodeFill : String
  nodeStroke : String
  accent : String
  hoverStroke : String
  text : String
  secondaryText : String
  edge : String
  menuFill : String
  menuStroke : String
  menuText : String
  menuDisabledText : String
  menuDivider : String
  tooltipFill : String
  tooltipText : String
  edgeWidth : α
  /-- By how much the cover of a hidden edge is wider than the edge. -/
  coverExtraWidth : α
  titleFontSize : α
  secondaryFontSize : α
  labelCharWidth : α
  secondaryCharWidth : α
deriving DecidableEq, Repr

/-- The theme of a view that chooses none. -/
def Theme.standard {α : Type} [Scalar α] : Theme α where
  background := "#ffffff"
  nodeFill := "#ffffff"
  nodeStroke := "#d9d9d9"
  accent := "#1677ff"
  hoverStroke := "#69b1ff"
  text := "#262626"
  secondaryText := "#8c8c8c"
  edge := "#bfbfbf"
  menuFill := "#ffffff"
  menuStroke := "#e8e8e8"
  menuText := "#262626"
  menuDisabledText := "#bfbfbf"
  menuDivider := "#f0f0f0"
  tooltipFill := "#262626"
  tooltipText := "#ffffff"
  edgeWidth := 3 / 2
  coverExtraWidth := 2
  titleFontSize := 13
  secondaryFontSize := 11
  labelCharWidth := 7
  secondaryCharWidth := 6

end ClusterMap
