import ClusterMap.Status

/-!
# Menus

A menu lists the actions for a node, in groups set apart by dividers; what it offers follows from
the status of the node each time it is opened (`Menu.ofNode`). Actions that cannot be chosen now are
shown disabled. No menu is empty, and none has a divider at either end (`Menu.finish`).
-/

namespace ClusterMap

/-- An action in a menu. -/
structure MenuItem where
  action : Action
  label : String
  enabled : Bool
  /-- Why a disabled action cannot be chosen, where there is something to say. -/
  disabledReason : Option String
deriving DecidableEq, Repr

namespace MenuItem

/-- An action that can be chosen. -/
def offer (a : Action) : MenuItem := ⟨a, a.label, true, none⟩

/-- An action that cannot be chosen. -/
def disabled (a : Action) (reason : Option String) : MenuItem := ⟨a, a.label, false, reason⟩

end MenuItem

/-- A line of a menu. -/
inductive MenuEntry where
  | item (i : MenuItem)
  | divider
deriving DecidableEq, Repr

namespace MenuEntry

/-- An action that can be chosen. -/
def offer (a : Action) : MenuEntry := .item (.offer a)

/-- Whether a line is a divider. -/
def isDivider : MenuEntry → Bool
  | .item _ => false
  | .divider => true

/-- The action on a line. -/
def item? : MenuEntry → Option MenuItem
  | .item i => some i
  | .divider => none

end MenuEntry

/-- A menu from top to bottom. -/
abbrev Menu := List MenuEntry

namespace Menu

/-- Why a standby cluster cannot create tenants. -/
def standbyReason : String := "Tenants can only be created on the primary cluster"

/-- What the menu of a zone offers. -/
def zoneAllowed : List Action := [.restart, .stop, .start]

/-- What the menu of a server offers. -/
def serverAllowed : List Action := [.restart, .stopProcess, .stopService]

/-- All operations, with those that are not allowed disabled. -/
def restrict (operations allowed : List Action) : Menu :=
  operations.map fun a => if allowed.contains a then .offer a else .item (.disabled a none)

/-- The menu of a running cluster. -/
def ofRunningCluster (isPrimary autoDetectEnabled : Bool) : Menu :=
  let createTenant : MenuEntry :=
    if isPrimary then .offer .createTenant
    else .item (.disabled .createTenant (some standbyReason))
  let toggle : MenuItem :=
    { MenuItem.offer .toggleAutoDetect with
      label := if autoDetectEnabled then "Disable auto detection" else "Enable auto detection" }
  [createTenant, .offer .addZone, .offer .addServer, .divider,
    .offer .upgrade, .offer .changePassword, .divider,
    .offer .restart, .offer .stop, .offer .delete, .divider,
    .item toggle, .offer .downloadLogs]

/-- The menu of a cluster by its state. -/
def ofClusterState (isPrimary autoDetectEnabled : Bool) : Status.OfCluster → Menu
  | .running => ofRunningCluster isPrimary autoDetectEnabled
  | .stopped => [.offer .upgrade, .divider, .offer .start, .offer .delete]
  | .unavailable => [.offer .restart, .offer .stop, .offer .delete]
  | .abandoned | .failover => [.offer .delete]
  | .starting | .stopping | .restarting | .upgrading | .deleting | .unknown => []

/-- What is offered for a cluster, as it stands; only the current cluster can be acted on. -/
def ofCluster (n : Node) (isCurrent : Bool) : Menu :=
  if n.kind = .cluster ∧ isCurrent then
    let state := Status.OfCluster.parse n.info.status
    match n.info.detail with
    | .cluster _ _ role auto _ => ofClusterState (role == .primary) auto state
    | _ => ofClusterState true false state
  else []

/-- The menu without dividers at its ends; if nothing is left, a line that says so. -/
def finish (entries : Menu) : Menu :=
  let entries := entries.dropWhile MenuEntry.isDivider
  let entries := (entries.reverse.dropWhile MenuEntry.isDivider).reverse
  if entries.isEmpty then [.item (.disabled .noOperation none)] else entries

/-- The menu of a node. -/
def ofNode (n : Node) (isCurrent : Bool) : Menu :=
  finish <| match n.kind with
    | .root => []
    | .cluster => ofCluster n isCurrent
    | .zone => restrict (Status.OfZone.parse n.info.status).operations zoneAllowed
    | .server => restrict (Status.OfServer.parse n.info.status).operations serverAllowed

end Menu

end ClusterMap
