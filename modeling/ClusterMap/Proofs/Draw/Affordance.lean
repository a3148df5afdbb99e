import ClusterMap.Proofs.Draw.Connector
import ClusterMap.Proofs.Layout.Elbow
import ClusterMap.Proofs.Task.Object

/-!
# What can be done on a frame

Let a tree show a snapshot, with any flags, and let a frame show the tree in its own layout without
an open menu. What reacts to the pointer follows the nodes: `Node.affordances` says what a node
reacts with, from its kind, from the words of its status and from whether it has children. The areas
of the frame are those of the visible nodes below the root, in pre-order
(`Artist.map_target_nodeRegions`).

The diagram follows the edges: each of the visible nodes below the root has one connector that leads
from its parent to it, dashed at the root of several clusters and painted over at the root of one
(`Artist.affordances_follow_tree`).
-/

namespace ClusterMap

open Snapshot

/-! ### Trees of snapshots -/

namespace Tree

variable {t : Tree} {threshold : Nat} {clusters : List Cluster} {requested : Option String}

section

variable (ht : t.unflagged = (build threshold clusters requested).unflagged)

include ht

theorem kind_root_of_unflagged : t.root.kind = .root :=
  Node.kind_eq_of_unflagged (congrArg Tree.root ht)

/-- The root has no flag, and so it is not collapsed. -/
theorem isCollapsed_root_of_unflagged : t.root.isCollapsed = false := by
  have hroot : t.root.unflagged.info.collapsed = none := by
    have hroot := congrArg (fun t : Tree => t.root.info.collapsed) ht
    exact hroot
  rw [Node.unflagged, Node.info_mapInfo] at hroot
  rw [Node.isCollapsed, Option.map_eq_none_iff.mp hroot]
  rfl

/-- There is one node below the root for each cluster. -/
theorem length_children_root_of_unflagged : t.root.children.length = clusters.length := by
  have hlength := congrArg (fun t : Tree => t.root.children.length) ht
  change t.root.unflagged.children.length =
    (build threshold clusters requested).root.unflagged.children.length at hlength
  rw [Node.children_unflagged, Node.children_unflagged, List.length_map, List.length_map] at hlength
  rw [hlength]
  exact List.length_map _

/-- No node below the root is a root. -/
theorem kind_ne_root_of_unflagged {n : Node} (hn : n ∈ t.root.descendants.tail) :
    n.kind ≠ .root := by
  have hfaces := congrArg List.tail (map_face_descendants ht)
  rw [← List.map_tail, List.tail_cons] at hfaces
  have hface : n.face ∈ (targets clusters).map (Target.face t.current) :=
    hfaces ▸ List.mem_map_of_mem hn
  obtain ⟨o, -, hface⟩ := List.mem_map.mp hface
  have hkind : o.kind = n.kind := congrArg Face.kind hface
  rw [← hkind]
  intro hroot
  cases o <;> cases hroot

/-- A place is that of a root exactly if nothing stands above it. -/
theorem kind_eq_root_iff_of_mem_lineages {l : Lineage} (hl : l ∈ t.root.lineages []) :
    l.node.kind = .root ↔ l.above = [] := by
  rw [Node.lineages_eq_cons] at hl
  rcases List.mem_cons.mp hl with rfl | hl
  · exact iff_of_true (kind_root_of_unflagged ht) rfl
  · have hbelow : l.node ∈ t.root.descendants.tail := by
      rw [← Node.map_node_lineages t.root [], Node.lineages_eq_cons, List.map_cons, List.tail_cons]
      exact List.mem_map_of_mem hl
    refine iff_of_false (kind_ne_root_of_unflagged ht hbelow) fun habove => ?_
    have hsuffix := Node.suffix_above_of_mem_lineagesOf hl
    rw [habove] at hsuffix
    cases List.suffix_nil.mp hsuffix

/-- The edge of a shown place leads to it from the node directly above, and has the style of the
edges of the root exactly if that node is the root. -/
theorem style_of_joinedBy {l : Lineage} (hl : l ∈ t.shown) {e : Edge}
    (he : l.JoinedBy t.rootStyle e) : ∃ parent above, l.above = parent :: above ∧
      e = ⟨parent.id, l.node.id, if above = [] then t.rootStyle else .solid⟩ := by
  obtain ⟨parent, hparent, rfl⟩ := he
  rcases Node.shown_parent hl with rfl | ⟨parent', above, habove, hmem⟩
  · cases hparent
  · rw [habove, List.head?_cons] at hparent
    obtain rfl := Option.some.inj hparent
    have hkind := kind_eq_root_iff_of_mem_lineages ht (List.mem_filter.mp hmem).1
    refine ⟨parent', above, habove, ?_⟩
    rw [Edge.mk.injEq]
    exact ⟨rfl, rfl, if_congr hkind rfl rfl⟩

end

/-- Below a root with one child, this child is shown first, and everything else stands below it. -/
theorem exists_shown_tail_eq (ho : t.root.isCollapsed = false) {n : Node}
    (hn : t.root.children = [n]) : ∃ below, t.shown.tail = ⟨n, [t.root]⟩ :: below ∧
      ∀ l ∈ below, [n, t.root] <:+ l.above := by
  have hopen : ∀ m ∈ [t.root], m.isCollapsed = false := fun m hm => by
    rwa [List.mem_singleton.mp hm]
  rw [shown, Node.filter_isShown_lineages (List.forall_mem_nil _), if_neg (by simp [ho]),
    List.tail_cons, hn, Node.lineagesOf, Node.lineagesOf, List.append_nil,
    Node.filter_isShown_lineages hopen]
  refine ⟨_, rfl, fun l hl => ?_⟩
  split at hl
  · exact absurd hl List.not_mem_nil
  · exact Node.suffix_above_of_mem_lineagesOf (List.mem_filter.mp hl).1

end Tree

/-! ### Words that allow operations -/

theorem Status.any_lookup {β : Type} {vocabulary : List (String × β)}
    (hwords : (vocabulary.map Prod.fst).Nodup) (ok : β → Bool) (raw : Option String) :
    (lookup vocabulary raw).any ok =
      (normalize raw).any ((vocabulary.filter fun e => ok e.2).map Prod.fst).contains := by
  unfold lookup
  cases normalize raw with
  | none => rfl
  | some word =>
    rw [Option.bind_some, Option.any_some, Bool.eq_iff_iff, List.contains_iff_mem, List.mem_map]
    simp only [List.mem_filter]
    cases hfind : vocabulary.find? (·.1 == word) with
    | none =>
      refine iff_of_false (by simp) ?_
      rintro ⟨e, ⟨he, -⟩, hword⟩
      exact List.find?_eq_none.mp hfind e he (beq_iff_eq.mpr hword)
    | some e =>
      rw [Option.map_some, Option.any_some]
      have hword : e.1 = word := by simpa using List.find?_some hfind
      refine ⟨fun h => ⟨e, ⟨List.mem_of_find?_eq_some hfind, h⟩, hword⟩, ?_⟩
      rintro ⟨e', ⟨he', hok⟩, hword'⟩
      rwa [← List.inj_on_of_nodup_map hwords he' (List.mem_of_find?_eq_some hfind)
        (hword'.trans hword.symm)]

/-- The words for the states in which a zone or a server can be operated. -/
def Kind.operableWords : Kind → List String
  | .zone => ["RUNNING", "STOPPED", "UNAVAILABLE"]
  | .server =>
    ["RUNNING", "STOPPED", "UNAVAILABLE", "PROCESS_STOPPED", "STOPPED_PROCESS", "SERVICE_STOPPED",
      "STOPPED_SERVICE"]
  | .root | .cluster => []

/-- A zone can be operated if its status, up to case and blanks around it, is one of the words. -/
theorem Status.OfZone.isOperable_parse (raw : Option String) :
    (parse raw).isOperable = (normalize raw).any Kind.zone.operableWords.contains := by
  have hany : (parse raw).isOperable = (lookup vocabulary raw).any isOperable := by
    unfold parse
    cases lookup vocabulary raw <;> rfl
  rw [hany]
  exact any_lookup (by decide) isOperable raw

/-- A server can be operated if its status, up to case and blanks around it, is one of the words. -/
theorem Status.OfServer.isOperable_parse (raw : Option String) :
    (parse raw).isOperable = (normalize raw).any Kind.server.operableWords.contains := by
  have hany : (parse raw).isOperable = (lookup vocabulary raw).any isOperable := by
    unfold parse
    cases lookup vocabulary raw <;> rfl
  rw [hany]
  exact any_lookup (by decide) isOperable raw

/-! ### What nodes react with -/

namespace Node

/-- Whether there is something to do with a node: with every cluster, and with a zone or a server if
it can be operated. -/
def hasActions (n : Node) : Bool :=
  n.kind == .cluster || (Status.normalize n.info.status).any n.kind.operableWords.contains

/-- What a node reacts with: its box, the mark that opens its menu if there is something to do, and
a toggle if it is a zone with something below it. -/
def affordances (n : Node) : List HitTarget :=
  [.nodeBox n.id] ++ (if n.hasActions then [.moreActions n.id] else []) ++
    if n.kind = .zone ∧ n.children ≠ [] then [.collapseToggle n.id] else []

end Node

variable {α : Type} [Scalar α]

namespace Shape

theorem map_target_cardAreas (c : ShapeContext α) (card : Card α) :
    (cardAreas c card).map Prod.fst =
      [.nodeBox c.node.id] ++ if card.showActions then [.moreActions c.node.id] else [] := by
  unfold cardAreas
  split <;> rfl

/-- The card of a node below the root shows the mark exactly if there is something to do. -/
theorem exists_card?_eq_some {n : Node} (hn : n.kind ≠ .root) :
    ∃ card : Card α, card? n.kind n = some card ∧ card.showActions = n.hasActions := by
  unfold Node.hasActions
  cases hkind : n.kind with
  | root => exact absurd hkind hn
  | cluster => exact ⟨_, rfl, rfl⟩
  | zone => exact ⟨_, rfl, Status.OfZone.isOperable_parse n.info.status⟩
  | server => exact ⟨_, rfl, Status.OfServer.isOperable_parse n.info.status⟩

/-- The areas of the shape of a node below the root. -/
theorem map_target_draw {c : ShapeContext α} (hn : c.node.kind ≠ .root) :
    (draw c.node.kind c).hitAreas.map Prod.fst = c.node.affordances := by
  obtain ⟨card, hcard, hactions⟩ := exists_card?_eq_some (α := α) hn
  have htoggle : hasToggle c.node.kind c.node ↔ c.node.kind = .zone ∧ c.node.children ≠ [] := by
    simp [hasToggle]
  rw [hitAreas_draw hcard, List.map_append, map_target_cardAreas, hactions, Node.affordances,
    List.append_cancel_left_eq]
  by_cases h : c.node.kind = .zone ∧ c.node.children ≠ []
  · rw [if_pos (htoggle.mpr h), if_pos h]
    rfl
  · rw [if_neg (htoggle.not.mpr h), if_neg h, List.map_nil]

/-- A shape is that of a node, somewhere and in some state. -/
def Depicts (n : Node) (shape : Shape α) : Prop :=
  ∃ c : ShapeContext α, c.node = n ∧ shape = draw n.kind c

/-- What reacts of the shapes of nodes below the root, node by node. -/
theorem map_target_of_depicts {ns : List Node} {shapes : List (Shape α)}
    (h : List.Forall₂ Depicts ns shapes) (hkinds : ∀ n ∈ ns, n.kind ≠ .root) :
    (shapes.flatMap (·.hitAreas)).map Prod.fst = ns.flatMap Node.affordances := by
  induction h with
  | nil => rfl
  | cons hdraw _ ih =>
    obtain ⟨c, rfl, rfl⟩ := hdraw
    obtain ⟨hkind, hkinds⟩ := List.forall_mem_cons.mp hkinds
    rw [List.flatMap_cons, List.flatMap_cons, List.map_append, map_target_draw hkind, ih hkinds]

end Shape

/-! ### Connectors -/

/-- A command draws the connector from a node to another: an elbow between their places, dashed or
not. -/
def DrawCommand.Connects (theme : Theme α) (c : LayoutConfig α) (nodes : List (NodePosition α))
    (dashed : Bool) (parent child : Node) (cmd : DrawCommand α) : Prop :=
  ∃ p ∈ nodes, ∃ q ∈ nodes, p.id = parent.id ∧ q.id = child.id ∧
    ∃ points, IsElbow c p.anchor q.anchor points ∧
      cmd = ⟨"edge:" ++ parent.id ++ "->" ++ child.id, edgeLayer, .path points dashed,
        .line theme.edge theme.edgeWidth⟩

section Connectors

variable {t : Tree} {threshold : Nat} {clusters : List Cluster} {requested : Option String}
  (ht : t.unflagged = (Tree.build threshold clusters requested).unflagged)

include ht

/-- The paths of a layout belong to the shown places below the root, in their order; those that
leave the root have the style of its edges. -/
theorem Layout.forall₂_edges_of_unflagged (c : LayoutConfig α) :
    List.Forall₂ (fun l path => path ∈ (ofTree c t).edges ∧ ∃ parent above,
        l.above = parent :: above ∧
        path.edge = ⟨parent.id, l.node.id, if above = [] then t.rootStyle else .solid⟩)
      t.shown.tail (ofTree c t).edges := by
  have hjoined := joinedBy_edge_edges c t
  -- what is known of the places and of the paths, beside how they belong together
  have hmem : List.Forall₂ (fun l path => l ∈ t.shown.tail ∧
      path ∈ (ofTree c t).edges ∧ Lineage.JoinedBy t.rootStyle l path.edge)
      t.shown.tail (ofTree c t).edges := by
    refine (List.forall₂_and_left _ _).mpr ⟨fun l hl => hl, List.Forall₂.flip ?_⟩
    exact (List.forall₂_and_left _ _).mpr ⟨fun path hpath => hpath, List.Forall₂.flip hjoined⟩
  refine hmem.imp fun l path h => ?_
  obtain ⟨hl, hpath, hedge⟩ := h
  exact ⟨hpath, Tree.style_of_joinedBy ht (List.mem_of_mem_tail hl) hedge⟩

/-- Each of the paths is drawn as a connector from parent to child, dashed if it leaves the root of
several clusters. -/
theorem Layout.forall₂_connectors_of_unflagged (hd : t.root.DistinctIds) (theme : Theme α)
    (c : LayoutConfig α) :
    List.Forall₂ (fun l cmd => ∃ parent above, l.above = parent :: above ∧
        cmd.Connects theme c (ofTree c t).nodes (decide (1 < clusters.length) && above.isEmpty)
          parent l.node)
      t.shown.tail ((ofTree c t).edges.map (EdgePath.connector theme)) := by
  refine List.forall₂_map_right_iff.mpr
    ((forall₂_edges_of_unflagged ht c).imp fun l path h => ?_)
  obtain ⟨hpath, parent, above, habove, hedge⟩ := h
  obtain ⟨hparent, hchild, hstyle⟩ := Edge.mk.inj hedge
  obtain ⟨p, hp, q, hq, hpIff, hqIff, helbow⟩ := isElbow_of_mem_edges hd hpath
  refine ⟨parent, above, habove, p, hp, q, hq, ((hpIff p hp).mpr rfl).trans hparent,
    ((hqIff q hq).mpr rfl).trans hchild, path.points, helbow, ?_⟩
  have hdashed : (path.style == .dashed) =
      (decide (1 < clusters.length) && above.isEmpty) := by
    rw [hstyle, Tree.rootStyle, Tree.isMulti, Tree.length_children_root_of_unflagged ht]
    cases above with
    | nil => by_cases hmulti : 1 < clusters.length <;> simp [hmulti]
    | cons => simp
  rw [EdgePath.connector, hparent, hchild, hdashed]

/-- The only path of one cluster that is painted over is the first, which leaves the root. -/
theorem Layout.erasers_of_single (theme : Theme α) (c : LayoutConfig α)
    (hsingle : clusters.length = 1) : ∃ cluster below path rest,
      t.shown.tail = ⟨cluster, [t.root]⟩ :: below ∧ (ofTree c t).edges = path :: rest ∧
      (ofTree c t).edges.flatMap (EdgePath.erasers theme) =
        [(path.connector theme).eraser theme] := by
  have hlength := Tree.length_children_root_of_unflagged ht
  obtain ⟨cluster, hcluster⟩ := List.length_eq_one_iff.mp (hlength.trans hsingle)
  obtain ⟨below, hbelow, hdeep⟩ :=
    Tree.exists_shown_tail_eq (Tree.isCollapsed_root_of_unflagged ht) hcluster
  have hstyle : t.rootStyle = .hiddenOverlay := by
    rw [Tree.rootStyle, Tree.isMulti, hlength, hsingle]
    rfl
  have hedges := forall₂_edges_of_unflagged ht c
  rw [hbelow] at hedges
  obtain ⟨path, rest, ⟨-, parent, above, habove, hedge⟩, hrest, hpaths⟩ :=
    List.forall₂_cons_left_iff.mp hedges
  refine ⟨cluster, below, path, rest, hbelow, hpaths, ?_⟩
  -- the first path leaves the root
  have hfirst : path.style = .hiddenOverlay := by
    obtain ⟨-, rfl⟩ := List.cons.inj habove
    exact (Edge.mk.inj hedge).2.2.trans hstyle
  -- all others start further below
  have hsolid : rest.flatMap (EdgePath.erasers theme) = [] := by
    refine List.flatMap_eq_nil_iff.mpr fun path' hpath' => ?_
    obtain ⟨l, hl, -, parent', above', habove', hedge'⟩ := exists_left_of_forall₂ hrest hpath'
    have hdeep := (hdeep l hl).length_le
    have hne : above' ≠ [] := by
      rintro rfl
      rw [habove'] at hdeep
      simp at hdeep
    have hstyle' : path'.style = .solid := (Edge.mk.inj hedge').2.2.trans (if_neg hne)
    rw [EdgePath.erasers, hstyle', if_neg (by decide)]
  rw [hpaths, List.flatMap_cons, hsolid, EdgePath.erasers, if_pos hfirst, List.append_nil]

/-- Where there is not exactly one cluster, nothing is painted over. -/
theorem Layout.erasers_of_not_single (theme : Theme α) (c : LayoutConfig α)
    (hsingle : clusters.length ≠ 1) :
    (ofTree c t).edges.flatMap (EdgePath.erasers theme) = [] := by
  refine List.flatMap_eq_nil_iff.mpr fun path hpath => ?_
  obtain ⟨l, hl, -, parent, above, -, hedge⟩ :=
    exists_left_of_forall₂ (forall₂_edges_of_unflagged ht c) hpath
  -- there is something below the root, and so there are several clusters
  have hstyle : t.rootStyle = .dashed := by
    have hlength := Tree.length_children_root_of_unflagged ht
    have hsome : t.root.children.length ≠ 0 := by
      intro hnone
      rw [Tree.shown, Node.filter_isShown_lineages (List.forall_mem_nil _),
        List.length_eq_zero_iff.mp hnone] at hl
      simp [Node.lineagesOf] at hl
    rw [Tree.rootStyle, Tree.isMulti, if_pos (by simp; omega)]
  have hvisible : path.style ≠ .hiddenOverlay := by
    rw [(Edge.mk.inj hedge).2.2, hstyle]
    split <;> decide
  rw [EdgePath.erasers, if_neg hvisible]

end Connectors

/-! ### Frames -/

namespace Artist

section Frames

variable {a : Artist α} (hall : ∀ k, k ∈ a.kinds) (c : LayoutConfig α) {t : Tree}
  (hd : t.root.DistinctIds) (transform : Transform α) (view : ViewState α)

include hall hd

/-- Every visible node is drawn as one of its kind, in the order of the nodes. -/
theorem depicts_shapes : List.Forall₂ Shape.Depicts t.root.visible
    (a.shapes ⟨t, .ofTree c t, transform, view⟩) := by
  -- node and position have the same identifier and kind
  have hplaced : List.Forall₂ (fun (n : Node) (p : NodePosition α) =>
      n ∈ t.root.visible ∧ (n.id, n.kind) = (p.id, p.kind))
      t.root.visible (Layout.ofTree c t).nodes := by
    refine (List.forall₂_and_left _ _).mpr ⟨fun n hn => hn, ?_⟩
    have hpairs : List.Forall₂ Eq (t.root.visible.map fun n => (n.id, n.kind))
        ((Layout.ofTree c t).nodes.map fun p => (p.id, p.kind)) := by
      rw [List.forall₂_eq_eq_eq]
      exact (Layout.map_nodes c t).symm
    exact List.forall₂_map_left_iff.mp (List.forall₂_map_right_iff.mp hpairs)
  rw [← List.filterMap_some (l := t.root.visible)]
  refine List.rel_filterMap ?_ hplaced
  intro n p h
  obtain ⟨hn, hpair⟩ := h
  obtain ⟨hid, hkind⟩ := Prod.mk.inj hpair
  -- a search for the identifier of the position finds the node itself
  have hfind : t.find? p.id = some n :=
    hd.find?_eq_some_iff.mpr ⟨t.root.visible_sublist.subset hn, hid⟩
  unfold shapeOf?
  dsimp only
  rw [if_pos (List.contains_iff_mem.mpr (hall p.kind)), hfind, ← hkind]
  exact Option.Rel.some ⟨_, rfl, rfl⟩

variable {threshold : Nat} {clusters : List Cluster} {requested : Option String}
  (ht : t.unflagged = (Tree.build threshold clusters requested).unflagged)

include ht

/-- **What reacts to the pointer follows the nodes**: the areas of a frame are those of the visible
nodes below the root, in pre-order. -/
theorem map_target_nodeRegions :
    (a.nodeRegions ⟨t, .ofTree c t, transform, view⟩).map HitRegion.target =
      t.root.visible.tail.flatMap Node.affordances := by
  have hshapes := depicts_shapes hall c hd transform view
  have hkinds : ∀ n ∈ t.root.visible.tail, n.kind ≠ .root := fun n hn =>
    Tree.kind_ne_root_of_unflagged ht (t.root.visible_sublist.tail.subset hn)
  rw [nodeRegions, List.map_map]
  change List.map Prod.fst _ = _
  rw [Node.visible_eq_cons] at hshapes
  generalize a.shapes ⟨t, .ofTree c t, transform, view⟩ = shapes at hshapes ⊢
  -- the root draws nothing, and so nothing of it reacts
  cases hshapes with
  | cons hroot hrest =>
    obtain ⟨ctx, -, rfl⟩ := hroot
    rw [Tree.kind_root_of_unflagged ht, List.flatMap_cons,
      ← Shape.map_target_of_depicts hrest hkinds]
    rfl

/-- What the shapes of a frame draw is named after visible nodes below the root. -/
theorem exists_partName_of_mem_shapes {shape : Shape α} {cmd : DrawCommand α}
    (hshape : shape ∈ a.shapes ⟨t, .ofTree c t, transform, view⟩) (hcmd : cmd ∈ shape.commands) :
    ∃ n ∈ t.root.visible.tail, ∃ suffix ∈ Shape.suffixes, cmd.id = Shape.partName n.id suffix := by
  obtain ⟨n, hn, ctx, rfl, rfl⟩ :=
    exists_left_of_forall₂ (depicts_shapes hall c hd transform view) hshape
  rw [Node.visible_eq_cons] at hn
  rcases List.mem_cons.mp hn with hroot | hn
  · -- the root draws nothing
    rw [hroot, Tree.kind_root_of_unflagged ht] at hcmd
    exact absurd hcmd List.not_mem_nil
  · exact ⟨ctx.node, hn, Shape.exists_suffix_of_mem_draw hcmd⟩

end Frames

/-- **What can be done on a frame follows the tree.** Let a tree show a snapshot, with any flags,
and let its identifiers be different. A frame with all kinds of nodes shows it in its own layout,
without an open menu. Then the areas are those that go with the visible nodes below the root, in
pre-order. The diagram begins with one connector for each of these nodes, from its parent to it,
dashed exactly if it leaves the root of several clusters. If there is exactly one cluster then the
connector that leaves the root is painted over, and no other one is; otherwise none is. Everything
else is drawn for a visible node. -/
theorem affordances_follow_tree {t : Tree} {threshold : Nat} {clusters : List Cluster}
    {requested : Option String}
    (ht : t.unflagged = (Tree.build threshold clusters requested).unflagged)
    (hd : t.root.DistinctIds) {a : Artist α} (hall : ∀ k, k ∈ a.kinds) (c : LayoutConfig α)
    (transform : Transform α) (view : ViewState α) (hmenu : view.openMenu? = none)
    (sequence : Nat) :
    let frame := a.draw ⟨t, .ofTree c t, transform, view⟩ sequence
    frame.hitRegions.map HitRegion.target = t.root.visible.tail.flatMap Node.affordances ∧
    t.shown.tail.map Lineage.node = t.root.visible.tail ∧
    ∃ connectors erasers cards, frame.diagram = connectors ++ erasers ++ cards ∧
      List.Forall₂ (fun l cmd => ∃ parent above, l.above = parent :: above ∧
          cmd.Connects a.theme c (Layout.ofTree c t).nodes
            (decide (1 < clusters.length) && above.isEmpty) parent l.node)
        t.shown.tail connectors ∧
      (clusters.length = 1 → ∃ cluster below connector rest,
        t.shown.tail = ⟨cluster, [t.root]⟩ :: below ∧ connectors = connector :: rest ∧
        erasers = [connector.eraser a.theme]) ∧
      (clusters.length ≠ 1 → erasers = []) ∧
      ∀ cmd ∈ cards, ∃ n ∈ t.root.visible.tail, ∃ suffix ∈ Shape.suffixes,
        cmd.id = Shape.partName n.id suffix := by
  intro frame
  refine ⟨?_, ?_, ?_⟩
  · change (a.hitRegions _).map _ = _
    rw [hitRegions_eq_nodeRegions hmenu, map_target_nodeRegions hall c hd transform view ht]
  · rw [List.map_tail, Tree.map_node_shown]
  · obtain ⟨cards, hdiagram, hcards⟩ := exists_diagram_eq a ⟨t, .ofTree c t, transform, view⟩
    refine ⟨_, _, cards, hdiagram, Layout.forall₂_connectors_of_unflagged ht hd a.theme c,
      fun hsingle => ?_, Layout.erasers_of_not_single ht a.theme c, fun cmd hcmd => ?_⟩
    · obtain ⟨cluster, below, path, rest, hbelow, hpaths, herasers⟩ :=
        Layout.erasers_of_single ht a.theme c hsingle
      exact ⟨cluster, below, path.connector a.theme, rest.map (EdgePath.connector a.theme), hbelow,
        congrArg (List.map (EdgePath.connector a.theme)) hpaths, herasers⟩
    · obtain ⟨shape, hshape, hcmd⟩ := hcards cmd hcmd
      exact exists_partName_of_mem_shapes hall c hd transform view ht hshape hcmd

/-- One cluster with a collapsed zone: the connector to the cluster is painted over, the one to the
zone is not. -/
theorem affordances_follow_tree_single :
    let clusters := [Sample.cluster "c1" [2] .primary]
    let t := (Tree.build defaultThreshold clusters none).setCollapsed "zone1" true
    let frame := (standard : Artist Rat).draw
      ⟨t, .ofTree .standard t, ⟨1, ⟨0, 0⟩⟩, .ofViewport ⟨800, 600⟩⟩ 1
    t.unflagged = (Tree.build defaultThreshold clusters none).unflagged ∧ t.root.DistinctIds ∧
    frame.hitRegions.map HitRegion.target = [.nodeBox "c1", .moreActions "c1", .nodeBox "zone1",
      .moreActions "zone1", .collapseToggle "zone1"] ∧
    ∃ first second cards, frame.diagram = [first, second, first.eraser .standard] ++ cards := by
  intro clusters t frame
  have ht : t.unflagged = (Tree.build defaultThreshold clusters none).unflagged := rfl
  have hd : t.root.DistinctIds := by decide +kernel
  have hall : ∀ k, k ∈ (standard : Artist Rat).kinds := fun k => by cases k <;> decide
  obtain ⟨htargets, hshown, connectors, erasers, cards, hdiagram, hconnectors, hsingle, -, -⟩ :=
    affordances_follow_tree ht hd hall .standard ⟨1, ⟨0, 0⟩⟩ (.ofViewport ⟨800, 600⟩) rfl 1
  refine ⟨ht, hd, htargets.trans (by decide +kernel), ?_⟩
  obtain ⟨cluster, below, first, rest, -, rfl, rfl⟩ := hsingle rfl
  -- there are two nodes below the root, and a connector to each
  have hlength : (first :: rest).length = 2 := by
    rw [← hconnectors.length_eq, ← List.length_map Lineage.node, hshown]
    decide +kernel
  obtain ⟨second, rfl⟩ := List.length_eq_one_iff.mp (Nat.succ.inj hlength)
  exact ⟨first, second, cards, hdiagram⟩

end Artist

end ClusterMap
