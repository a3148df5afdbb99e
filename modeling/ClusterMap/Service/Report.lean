import ClusterMap.Draw.Codec
import ClusterMap.Settings
import ClusterMap.View.Session

/-!
# Reports on a snapshot

What can be asked about a snapshot without a window: the layout with a frame, and the menu of a
node.
-/

namespace ClusterMap

/-- A layout with a frame. -/
structure RenderReport where
  currentCluster : Option String
  layout : Layout Float32
  batch : Batch Float32

/-- The menu of a node. -/
structure MenuReport where
  nodeId : String
  kind : Kind
  entries : Menu

namespace RenderReport

/-- The report on a session. -/
def ofSession (s : Session Float32) : RenderReport :=
  ⟨s.tree.current, s.layout, s.render.2⟩

/-- The value of a report. -/
def toValue (r : RenderReport) : Value :=
  .ofMembers [("currentClusterId", .ofText? r.currentCluster), ("layout", r.layout.toValue),
    ("batch", r.batch.toValue)]

end RenderReport

namespace MenuReport

/-- The report on a node of a session. -/
def ofSession? (s : Session Float32) (nodeId : String) : Option MenuReport := do
  let node ← s.tree.find? nodeId
  let entries ← s.menu? nodeId
  pure ⟨nodeId, node.kind, entries⟩

/-- The value of a report. -/
def toValue (r : MenuReport) : Value :=
  .ofMembers [("nodeId", .text r.nodeId), ("kind", .text r.kind.name),
    ("entries", r.entries.toValue)]

end MenuReport

end ClusterMap
