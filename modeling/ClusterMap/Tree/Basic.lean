import ClusterMap.Snapshot.Basic

/-!
# The tree of a view

Clusters, zones and servers of a snapshot hang below one root. A node carries what drawing needs;
whether it is collapsed is the only part of the tree that a user changes.

Functions on trees recurse over a node and over a list of nodes together, in pre-order.
-/

namespace ClusterMap

/-- What a node stands for. -/
inductive Kind where
  | root
  | cluster
  | zone
  | server
deriving DecidableEq, Repr, Inhabited

namespace Kind

/-- The kinds in their order. -/
def all : List Kind := [.root, .cluster, .zone, .server]

/-- The name of a kind. -/
def name : Kind → String
  | .root => "root"
  | .cluster => "cluster"
  | .zone => "zone"
  | .server => "server"

/-- Clusters and zones can be collapsed. -/
def canCollapse : Kind → Bool
  | .cluster | .zone => true
  | .root | .server => false

end Kind

/-- What only nodes of one kind have. Layout never looks at it. -/
inductive Detail where
  | root
  | cluster (clusterId : String) (version : Option String) (role : Snapshot.Role)
      (autoDetectEnabled : Bool) (tenantCount : Nat)
  | zone (region rootServer : Option String) (cpuCount : Option UInt32)
      (memorySize : Option String) (unitCount : Option UInt32) (serverCount : Nat)
      (connectionCount : Option UInt64) (qps : Option Float)
  | server (serverId ip : String) (port : UInt16) (sqlPort : Option UInt16)
      (connectionCount : Option UInt64) (qps : Option Float)

/-- What a node holds apart from its children. -/
structure NodeInfo where
  id : String
  kind : Kind
  status : Option String
  displayName : String
  /-- Absent for what cannot be collapsed. -/
  collapsed : Option Bool
  detail : Detail

/-- A node with its children. -/
inductive Node where
  | mk (info : NodeInfo) (children : List Node)

instance : Inhabited Node := ⟨⟨⟨"", .root, none, "", none, .root⟩, []⟩⟩

namespace Node

/-- What the node itself holds. -/
def info : Node → NodeInfo
  | ⟨i, _⟩ => i

/-- The nodes directly below. -/
def children : Node → List Node
  | ⟨_, cs⟩ => cs

/-- The identifier of the node. -/
def id (n : Node) : String := n.info.id

/-- What the node stands for. -/
def kind (n : Node) : Kind := n.info.kind

/-- Whether what is below the node is hidden. -/
def isCollapsed (n : Node) : Bool := n.info.collapsed.getD false

@[simp] theorem info_mk (i : NodeInfo) (cs : List Node) : (Node.mk i cs).info = i := rfl

@[simp] theorem children_mk (i : NodeInfo) (cs : List Node) : (Node.mk i cs).children = cs := rfl

/-- The node with another collapse flag. -/
def withCollapsed (flag : Option Bool) : Node → Node
  | ⟨i, cs⟩ => ⟨{ i with collapsed := flag }, cs⟩

/-! ### Walks -/

mutual
/-- The node and everything below it, in pre-order. -/
def descendants : Node → List Node
  | ⟨i, cs⟩ => ⟨i, cs⟩ :: descendantsOf cs
/-- The descendants of all nodes of a list. -/
def descendantsOf : List Node → List Node
  | [] => []
  | n :: rest => n.descendants ++ descendantsOf rest
end

mutual
/-- The node and what is below it without a collapsed node in between, in pre-order. -/
def visible : Node → List Node
  | ⟨i, cs⟩ => ⟨i, cs⟩ :: if i.collapsed.getD false then [] else visibleOf cs
/-- The visible nodes below all nodes of a list. -/
def visibleOf : List Node → List Node
  | [] => []
  | n :: rest => n.visible ++ visibleOf rest
end

/-- The identifiers of the visible nodes. -/
def visibleIds (n : Node) : List String := n.visible.map Node.id

/-- How many nodes of a kind there are. -/
def countKind (n : Node) (k : Kind) : Nat := n.descendants.countP (·.kind == k)

mutual
/-- Changes what every node holds. -/
def mapInfo (f : NodeInfo → NodeInfo) : Node → Node
  | ⟨i, cs⟩ => ⟨f i, mapInfoOf f cs⟩
/-- Changes what every node of a list holds. -/
def mapInfoOf (f : NodeInfo → NodeInfo) : List Node → List Node
  | [] => []
  | n :: rest => n.mapInfo f :: mapInfoOf f rest
end

/-! ### Searches -/

mutual
/-- The first node with an identifier, in pre-order. -/
def find? (id : String) : Node → Option Node
  | ⟨i, cs⟩ => if i.id = id then some ⟨i, cs⟩ else findIn? id cs
/-- The first node with an identifier in a list. -/
def findIn? (id : String) : List Node → Option Node
  | [] => none
  | n :: rest => (n.find? id).or (findIn? id rest)
end

mutual
/-- Replaces the first node with an identifier by its image under `f`. -/
def modify? (id : String) (f : Node → Node) : Node → Option Node
  | ⟨i, cs⟩ =>
    if i.id = id then some (f ⟨i, cs⟩) else (modifyIn? id f cs).map (⟨i, ·⟩)
/-- Replaces the first node with an identifier in a list. -/
def modifyIn? (id : String) (f : Node → Node) : List Node → Option (List Node)
  | [] => none
  | n :: rest =>
    match n.modify? id f with
    | some n' => some (n' :: rest)
    | none => (modifyIn? id f rest).map (n :: ·)
end

mutual
/-- The identifiers on the way down to the parent of the first node with an identifier. -/
def ancestors? (id : String) : Node → Option (List String)
  | ⟨i, cs⟩ => if i.id = id then some [] else (ancestorsIn? id cs).map (i.id :: ·)
/-- The identifiers on the way from a list of nodes. -/
def ancestorsIn? (id : String) : List Node → Option (List String)
  | [] => none
  | n :: rest => (n.ancestors? id).or (ancestorsIn? id rest)
end

end Node

/-- A tree and the identifier of the cluster that the view is centred on. -/
structure Tree where
  root : Node
  current : Option String

namespace Tree

/-- The identifier of every root. -/
def rootId : String := "root"

/-- Whether there is no cluster. -/
def isEmpty (t : Tree) : Bool := t.root.children.isEmpty

/-- Whether several clusters share the view. -/
def isMulti (t : Tree) : Bool := 1 < t.root.children.length

/-- The first node with an identifier. -/
def find? (t : Tree) (id : String) : Option Node := t.root.find? id

/-- Whether an identifier is that of the current cluster. -/
def isCurrent (t : Tree) (id : String) : Bool := t.current == some id

/-- Sets the collapse flag of the first node with an identifier, whatever its kind. -/
def setCollapsed (t : Tree) (id : String) (flag : Bool) : Tree :=
  match t.root.modify? id (·.withCollapsed (some flag)) with
  | some root => { t with root }
  | none => t

/-- The identifiers on the way from the root to the parent of a node. -/
def ancestors? (t : Tree) (id : String) : Option (List String) := t.root.ancestors? id

end Tree

end ClusterMap
