import ClusterMap.Tree.Edge
import ClusterMap.Snapshot.Codec

/-!
# Trees as structured values

Reading and writing nodes and trees. A node is decoded with as many levels below it as its value
has.
-/

namespace ClusterMap

open Decode

/-- The names of the kinds. -/
def Kind.names : List (String × Kind) := Kind.all.map fun k => (k.name, k)

/-- Reads a kind. -/
def Kind.decode : Decoder Kind := choice Kind.names false

namespace Detail

/-- Reads what only nodes of one kind have. -/
def decode : Decoder Detail :=
  tagged "NodeMetadata" "kind"
    [("root", bare .root),
     ("cluster", record "struct variant NodeMetadata::Cluster" <|
        Fields.none Detail.cluster
        |>.need "cluster_id" text
        |>.may "version" text
        |>.need "role" (choice Snapshot.Role.names true)
        |>.need "auto_detect_enabled" bool
        |>.need "tenant_count" count),
     ("zone", record "struct variant NodeMetadata::Zone" <|
        Fields.none Detail.zone
        |>.may "region" text
        |>.may "root_server" text
        |>.may "cpu_count" word32
        |>.may "memory_size" text
        |>.may "unit_count" word32
        |>.need "server_count" count
        |>.may "connection_count" word64
        |>.may "qps" float64),
     ("server", record "struct variant NodeMetadata::Server" <|
        Fields.none Detail.server
        |>.need "server_id" text
        |>.need "ip" text
        |>.need "port" word16
        |>.may "sql_port" word16
        |>.may "connection_count" word64
        |>.may "qps" float64)]

/-- The value of what only nodes of one kind have. -/
def toValue : Detail → Value
  | .root => .ofMembers [("kind", .text "root")]
  | .cluster clusterId version role auto tenants =>
    .ofMembers [("kind", .text "cluster"), ("cluster_id", .text clusterId),
      ("version", .ofText? version), ("role", .text role.name),
      ("auto_detect_enabled", .bool auto), ("tenant_count", .ofNat tenants)]
  | .zone region rootServer cpu memory units servers connections qps =>
    .ofMembers [("kind", .text "zone"), ("region", .ofText? region),
      ("root_server", .ofText? rootServer), ("cpu_count", .ofNat? (cpu.map (·.toNat))),
      ("memory_size", .ofText? memory), ("unit_count", .ofNat? (units.map (·.toNat))),
      ("server_count", .ofNat servers),
      ("connection_count", .ofNat? (connections.map (·.toNat))),
      ("qps", Snapshot.rateValue qps)]
  | .server serverId ip port sqlPort connections qps =>
    .ofMembers [("kind", .text "server"), ("server_id", .text serverId), ("ip", .text ip),
      ("port", .ofNat port.toNat), ("sql_port", .ofNat? (sqlPort.map (·.toNat))),
      ("connection_count", .ofNat? (connections.map (·.toNat))),
      ("qps", Snapshot.rateValue qps)]

end Detail

mutual
/-- How many levels of lists and records a value has. -/
def Value.depth : Value → Nat
  | .list items => depthOfItems items + 1
  | .record members => depthOfMembers members + 1
  | _ => 0
/-- The depth of the deepest item. -/
def Value.depthOfItems : List Value → Nat
  | [] => 0
  | v :: rest => max v.depth (depthOfItems rest)
/-- The depth of the deepest member. -/
def Value.depthOfMembers : List (Key × Value) → Nat
  | [] => 0
  | (_, v) :: rest => max v.depth (depthOfMembers rest)
end

namespace Node

/-- A node from its parts in the order of its record. -/
def ofParts (id : String) (kind : Kind) (status : Option String) (displayName : String)
    (collapsed : Option Bool) (children : List Node) (detail : Detail) : Node :=
  ⟨⟨id, kind, status, displayName, collapsed, detail⟩, children⟩

/-- Reads a node with at most the given number of levels. -/
def decodeWithin : Nat → Decoder Node
  | 0 => fun v => .error (.wrongType v.found "struct TopologyNode")
  | levels + 1 =>
    record "struct TopologyNode" <|
      Fields.none ofParts
      |>.need "id" text
      |>.need "kind" Kind.decode
      |>.may "status" text
      |>.need "display_name" text
      |>.may "collapsed" bool
      |>.need "children" (listOf (decodeWithin levels))
      |>.need "metadata" Detail.decode

/-- Reads a node. -/
def decode : Decoder Node := fun v => decodeWithin (v.depth + 1) v

mutual
/-- The value of a node. -/
def toValue : Node → Value
  | ⟨i, cs⟩ => .ofMembers [("id", .text i.id), ("kind", .text i.kind.name),
      ("status", .ofText? i.status), ("display_name", .text i.displayName),
      ("collapsed", (i.collapsed.map Value.bool).getD .null),
      ("children", .list (toValues cs)), ("metadata", i.detail.toValue)]
/-- The values of a list of nodes. -/
def toValues : List Node → List Value
  | [] => []
  | n :: rest => n.toValue :: toValues rest
end

end Node

/-- Reads a tree. -/
def Tree.decode : Decoder Tree :=
  record "struct TopologyTree" <|
    Fields.none Tree.mk
    |>.need "root" Node.decode
    |>.may "current_cluster_id" text

/-- The value of a tree. -/
def Tree.toValue (t : Tree) : Value :=
  .ofMembers [("root", t.root.toValue), ("current_cluster_id", .ofText? t.current)]

/-- The value of an edge. -/
def Edge.toValue (e : Edge) : Value :=
  .ofMembers [("from", .text e.parent), ("to", .text e.child), ("style", .text e.style.name)]

end ClusterMap
