import ClusterMap.Layout.Basic

/-!
# What is placed

A layout has one position for each visible node, in the same order (`Layout.map_id_nodes`): where a
node is left out by the layout it is left out because a node above it is collapsed. So a node can be
looked up in a layout exactly if it is visible (`Layout.isSome_anchorOf_iff`).
-/

namespace ClusterMap

variable {α : Type} [Scalar α]

namespace Node

mutual
/-- Placing a node places what is visible of it, each as one of its kind. -/
theorem map_place (c : LayoutConfig α) : ∀ (n : Node) (left : α) (depth : Nat),
    (n.place c left depth).map (fun p => (p.id, p.kind)) = n.visible.map fun m => (m.id, m.kind)
  | ⟨i, cs⟩, left, depth => by
    rw [place, visible, List.map_cons]
    cases i.collapsed.getD false with
    | true => rfl
    | false =>
      -- a node without children is placed alone, and nothing below it is visible
      cases cs with
      | nil => rfl
      | cons n rest => exact congrArg ((i.id, i.kind) :: ·) (map_placeRow c (n :: rest) _ _)
/-- Placing siblings places what is visible of them, each as one of its kind. -/
theorem map_placeRow (c : LayoutConfig α) : ∀ (ns : List Node) (cursor : α) (depth : Nat),
    (placeRow c cursor depth ns).map (fun p => (p.id, p.kind)) =
      (visibleOf ns).map fun m => (m.id, m.kind)
  | [], _, _ => rfl
  | n :: rest, cursor, depth => by
    rw [placeRow, visibleOf, List.map_append, List.map_append, map_place c n, map_placeRow c rest]
end

end Node

/-- The placed nodes are the visible ones, each as one of its kind. -/
theorem Layout.map_nodes (c : LayoutConfig α) (t : Tree) :
    (Layout.ofTree c t).nodes.map (fun p => (p.id, p.kind)) =
      t.root.visible.map fun n => (n.id, n.kind) :=
  Node.map_place c t.root _ _

/-- The placed nodes are the visible ones. -/
theorem Layout.map_id_nodes (c : LayoutConfig α) (t : Tree) :
    (Layout.ofTree c t).nodes.map NodePosition.id = t.root.visibleIds := by
  have hids := congrArg (List.map Prod.fst) (map_nodes c t)
  rw [List.map_map, List.map_map] at hids
  exact hids

/-- A node has a place exactly if it is visible. -/
theorem Layout.isSome_anchorOf_iff {c : LayoutConfig α} {t : Tree} {id : String} :
    ((Layout.ofTree c t).anchorOf id).isSome ↔ id ∈ t.root.visibleIds := by
  rw [← map_id_nodes c t, anchorOf, anchorIn, Option.isSome_map, List.find?_isSome, List.mem_map]
  simp only [beq_iff_eq]

end ClusterMap
