import ClusterMap.Draw.Scene
import ClusterMap.Layout.Codec
import ClusterMap.Menu.Codec

/-!
# Frames as structured values

Reading and writing themes, commands, areas and frames in single precision.
-/

namespace ClusterMap

open Decode

/-- A signed word of 32 bits. -/
def Decode.signed32 : Decoder Int := integer (-2147483648) 2147483647 "i32"

/-- Reads a theme; what is left out is as usual. -/
def Theme.decode : Decoder (Theme Float32) :=
  let usual : Theme Float32 := .standard
  record "struct Theme" <|
    Fields.none Theme.mk
    |>.orElse "background" Decode.text usual.background
    |>.orElse "node_fill_color" Decode.text usual.nodeFill
    |>.orElse "node_stroke_color" Decode.text usual.nodeStroke
    |>.orElse "accent_color" Decode.text usual.accent
    |>.orElse "hover_stroke_color" Decode.text usual.hoverStroke
    |>.orElse "text_color" Decode.text usual.text
    |>.orElse "secondary_text_color" Decode.text usual.secondaryText
    |>.orElse "edge_color" Decode.text usual.edge
    |>.orElse "menu_fill_color" Decode.text usual.menuFill
    |>.orElse "menu_stroke_color" Decode.text usual.menuStroke
    |>.orElse "menu_text_color" Decode.text usual.menuText
    |>.orElse "menu_disabled_text_color" Decode.text usual.menuDisabledText
    |>.orElse "menu_divider_color" Decode.text usual.menuDivider
    |>.orElse "tooltip_fill_color" Decode.text usual.tooltipFill
    |>.orElse "tooltip_text_color" Decode.text usual.tooltipText
    |>.orElse "edge_width_px" float32 usual.edgeWidth
    |>.orElse "overlay_extra_width_px" float32 usual.coverExtraWidth
    |>.orElse "title_font_size" float32 usual.titleFontSize
    |>.orElse "secondary_font_size" float32 usual.secondaryFontSize
    |>.orElse "label_char_width_px" float32 usual.labelCharWidth
    |>.orElse "secondary_char_width_px" float32 usual.secondaryCharWidth

/-- The value of a theme. -/
def Theme.toValue (t : Theme Float32) : Value :=
  .ofMembers [("background", .text t.background), ("node_fill_color", .text t.nodeFill),
    ("node_stroke_color", .text t.nodeStroke), ("accent_color", .text t.accent),
    ("hover_stroke_color", .text t.hoverStroke), ("text_color", .text t.text),
    ("secondary_text_color", .text t.secondaryText), ("edge_color", .text t.edge),
    ("menu_fill_color", .text t.menuFill), ("menu_stroke_color", .text t.menuStroke),
    ("menu_text_color", .text t.menuText),
    ("menu_disabled_text_color", .text t.menuDisabledText),
    ("menu_divider_color", .text t.menuDivider), ("tooltip_fill_color", .text t.tooltipFill),
    ("tooltip_text_color", .text t.tooltipText), ("edge_width_px", coordinate t.edgeWidth),
    ("overlay_extra_width_px", coordinate t.coverExtraWidth),
    ("title_font_size", coordinate t.titleFontSize),
    ("secondary_font_size", coordinate t.secondaryFontSize),
    ("label_char_width_px", coordinate t.labelCharWidth),
    ("secondary_char_width_px", coordinate t.secondaryCharWidth)]

/-- Reads a style. -/
def Style.decode : Decoder (Style Float32) :=
  record "struct DrawStyle" <|
    Fields.none Style.mk
    |>.may "fill_color" Decode.text
    |>.may "stroke_color" Decode.text
    |>.may "stroke_width_px" float32
    |>.may "text_color" Decode.text

/-- The value of a style. -/
def Style.toValue (s : Style Float32) : Value :=
  .ofMembers [("fill_color", .ofText? s.fill), ("stroke_color", .ofText? s.stroke),
    ("stroke_width_px", (s.strokeWidth.map coordinate).getD .null),
    ("text_color", .ofText? s.text)]

/-- The names of the sides. -/
def Align.names : List (String × Align) :=
  [("left", .left), ("center", .center), ("right", .right)]

/-- The name of a side. -/
def Align.name : Align → String
  | .left => "left"
  | .center => "center"
  | .right => "right"

namespace DrawCommand

/-- Reads a command. -/
def decode : Decoder (DrawCommand Float32) :=
  tagged "DrawCommand" "type"
    [("rect", record "struct variant DrawCommand::Rect" <|
        Fields.none (fun id layer origin size radius style =>
          (⟨id, layer, .rect origin size radius, style⟩ : DrawCommand Float32))
        |>.need "id" text
        |>.need "layer" signed32
        |>.need "origin" Point.decode
        |>.need "size" Size.decode
        |>.need "corner_radius" float32
        |>.need "style" Style.decode),
     ("icon", record "struct variant DrawCommand::Icon" <|
        Fields.none (fun id layer icon center size style =>
          (⟨id, layer, .icon icon center size, style⟩ : DrawCommand Float32))
        |>.need "id" text
        |>.need "layer" signed32
        |>.need "icon" text
        |>.need "center" Point.decode
        |>.need "size" float32
        |>.need "style" Style.decode),
     ("text", record "struct variant DrawCommand::Text" <|
        Fields.none (fun id layer position content fontSize align style =>
          (⟨id, layer, .text position content fontSize align, style⟩ : DrawCommand Float32))
        |>.need "id" text
        |>.need "layer" signed32
        |>.need "position" Point.decode
        |>.need "text" text
        |>.need "font_size" float32
        |>.need "align" (choice Align.names true)
        |>.need "style" Style.decode),
     ("circle", record "struct variant DrawCommand::Circle" <|
        Fields.none (fun id layer center radius style =>
          (⟨id, layer, .circle center radius, style⟩ : DrawCommand Float32))
        |>.need "id" text
        |>.need "layer" signed32
        |>.need "center" Point.decode
        |>.need "radius" float32
        |>.need "style" Style.decode),
     ("path", record "struct variant DrawCommand::Path" <|
        Fields.none (fun id layer points dashed style =>
          (⟨id, layer, .path points dashed, style⟩ : DrawCommand Float32))
        |>.need "id" text
        |>.need "layer" signed32
        |>.need "points" (listOf Point.decode)
        |>.need "dashed" bool
        |>.need "style" Style.decode)]

/-- The value of a command. -/
def toValue (c : DrawCommand Float32) : Value :=
  let (name, parts) : String × List (String × Value) := match c.primitive with
    | .rect origin size radius => ("rect", [("origin", origin.toValue), ("size", size.toValue),
        ("corner_radius", coordinate radius)])
    | .icon icon center size => ("icon", [("icon", .text icon), ("center", center.toValue),
        ("size", coordinate size)])
    | .text position content fontSize align => ("text", [("position", position.toValue),
        ("text", .text content), ("font_size", coordinate fontSize),
        ("align", .text align.name)])
    | .circle center radius => ("circle", [("center", center.toValue),
        ("radius", coordinate radius)])
    | .path points dashed => ("path", [("points", .list (points.map Point.toValue)),
        ("dashed", .bool dashed)])
  .ofMembers ([("type", .text name), ("id", .text c.id), ("layer", .integer c.layer)] ++ parts ++
    [("style", c.style.toValue)])

end DrawCommand

namespace HitTarget

/-- Reads a target that has only a node. -/
def decodeNode (variant : String) (make : String → HitTarget) : Decoder HitTarget :=
  record ("struct variant HitTarget::" ++ variant) (Fields.none make |>.need "node_id" text)

/-- Reads a target. -/
def decode : Decoder HitTarget :=
  tagged "HitTarget" "type"
    [("node_box", decodeNode "NodeBox" .nodeBox),
     ("more_actions", decodeNode "MoreActions" .moreActions),
     ("collapse_toggle", decodeNode "CollapseToggle" .collapseToggle),
     ("menu_item", record "struct variant HitTarget::MenuItem" <|
        Fields.none HitTarget.menuItem
        |>.need "node_id" text
        |>.need "key" Action.decodeSetAside),
     ("menu_panel", decodeNode "MenuPanel" .menuPanel)]

/-- The value of a target. -/
def toValue (t : HitTarget) : Value :=
  let name := match t with
    | .nodeBox _ => "node_box"
    | .moreActions _ => "more_actions"
    | .collapseToggle _ => "collapse_toggle"
    | .menuItem _ _ => "menu_item"
    | .menuPanel _ => "menu_panel"
  let action := match t with
    | .menuItem _ a => [("key", a.toValue)]
    | _ => []
  .ofMembers ([("type", .text name), ("node_id", .text t.nodeId)] ++ action)

end HitTarget

/-- Reads an area. -/
def HitRegion.decode : Decoder (HitRegion Float32) :=
  record "struct HitRegion" <|
    Fields.none HitRegion.mk
    |>.need "target" HitTarget.decode
    |>.need "bounds" Bounds.decode

/-- The value of an area. -/
def HitRegion.toValue (r : HitRegion Float32) : Value :=
  .ofMembers [("target", r.target.toValue), ("bounds", r.bounds.toValue)]

/-- Reads a frame. -/
def Batch.decode : Decoder (Batch Float32) :=
  record "struct DrawCommandBatch" <|
    Fields.none Batch.mk
    |>.need "sequence" (unsigned 64 "u64")
    |>.need "transform" Transform.decode
    |>.need "background" text
    |>.need "diagram" (listOf DrawCommand.decode)
    |>.need "overlay" (listOf DrawCommand.decode)
    |>.need "hit_regions" (listOf HitRegion.decode)

/-- The value of a frame. -/
def Batch.toValue (b : Batch Float32) : Value :=
  .ofMembers [("sequence", .ofNat b.sequence), ("transform", b.transform.toValue),
    ("background", .text b.background), ("diagram", .list (b.diagram.map DrawCommand.toValue)),
    ("overlay", .list (b.overlay.map DrawCommand.toValue)),
    ("hit_regions", .list (b.hitRegions.map HitRegion.toValue))]

end ClusterMap
