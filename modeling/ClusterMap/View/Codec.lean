import ClusterMap.Layout.Codec
import ClusterMap.View.State

/-!
# The state of a view as a structured value
-/

namespace ClusterMap

open Decode

/-- Reads a mode. -/
def Mode.decode : Decoder (Mode Float32) :=
  tagged "InteractionMode" "state"
    [("idle", bare .idle),
     ("hovering", record "struct variant InteractionMode::Hovering"
        (Fields.none Mode.hovering |>.need "node_id" text)),
     ("menu_open", record "struct variant InteractionMode::MenuOpen"
        (Fields.none Mode.menuOpen |>.need "node_id" text |>.need "anchor" Point.decode)),
     ("collapsing", record "struct variant InteractionMode::Collapsing"
        (Fields.none Mode.collapsing |>.need "node_id" text))]

/-- The members that tell a mode and its node. -/
def Mode.members {α : Type} : Mode α → List (String × Value)
  | .idle => [("state", .text "idle")]
  | .hovering id => [("state", .text "hovering"), ("node_id", .text id)]
  | .menuOpen id _ => [("state", .text "menu_open"), ("node_id", .text id)]
  | .collapsing id => [("state", .text "collapsing"), ("node_id", .text id)]

/-- The value of a mode. -/
def Mode.toValue (m : Mode Float32) : Value :=
  .ofMembers <| m.members ++ match m with
    | .menuOpen _ anchor => [("anchor", anchor.toValue)]
    | _ => []

/-- Reads the state of a view. -/
def ViewState.decode : Decoder (ViewState Float32) :=
  record "struct ViewState" <|
    Fields.none ViewState.mk
    |>.need "mode" Mode.decode
    |>.need "collapsed" (mapOf bool)
    |>.may "pointer" Point.decode
    |>.need "viewport" Viewport.decode
    |>.need "fullscreen" bool
    |>.may "focused_node_id" text
    |>.need "seeded" bool

/-- The value of the state of a view. -/
def ViewState.toValue (s : ViewState Float32) : Value :=
  .ofMembers [("mode", s.mode.toValue),
    ("collapsed", .ofMembers (s.collapsed.map fun (id, flag) => (id, .bool flag))),
    ("pointer", (s.pointer.map Point.toValue).getD .null), ("viewport", s.viewport.toValue),
    ("fullscreen", .bool s.fullscreen), ("focused_node_id", .ofText? s.focused),
    ("seeded", .bool s.seeded)]

end ClusterMap
