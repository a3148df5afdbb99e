import ClusterMap.Menu.Basic
import ClusterMap.Data.Decode.Record

/-!
# Menus as structured values
-/

namespace ClusterMap

open Decode

/-- The names of the actions. -/
def Action.names : List (String × Action) := Action.all.map fun a => (a.name, a)

/-- Reads an action. -/
def Action.decode : Decoder Action := choice Action.names false

/-- Reads an action inside a value that was set aside. -/
def Action.decodeSetAside : Decoder Action := choice Action.names true

/-- The value of an action. -/
def Action.toValue (a : Action) : Value := .text a.name

/-- The fields of an action in a menu. -/
def MenuItem.fields : Fields MenuItem :=
  Fields.none MenuItem.mk
  |>.need "key" Action.decodeSetAside
  |>.need "label" text
  |>.need "enabled" bool
  |>.orElse "disabled_reason" (optional text) none

/-- The members of an action in a menu; a reason that is not given is left out. -/
def MenuItem.members (i : MenuItem) : List (String × Value) :=
  [("key", i.action.toValue), ("label", .text i.label), ("enabled", .bool i.enabled)] ++
    (i.disabledReason.map fun reason => ("disabled_reason", .text reason)).toList

/-- The value of an action in a menu. -/
def MenuItem.toValue (i : MenuItem) : Value := .ofMembers i.members

/-- Reads a line of a menu. -/
def MenuEntry.decode : Decoder MenuEntry :=
  tagged "MenuEntry" "type"
    [("item", fun v => (record "struct ActionMenuItem" MenuItem.fields v).map .item),
     ("divider", bare .divider)]

/-- The value of a line of a menu. -/
def MenuEntry.toValue : MenuEntry → Value
  | .item i => .ofMembers (("type", .text "item") :: i.members)
  | .divider => .ofMembers [("type", .text "divider")]

/-- The value of a menu. -/
def Menu.toValue (m : Menu) : Value := .list (m.map MenuEntry.toValue)

end ClusterMap
