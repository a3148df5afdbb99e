import ClusterMap.Proofs.Session.Collapse
import ClusterMap.Proofs.Tree.Way

/-!
# Bringing a node into view

A session brings a node into view by expanding what is collapsed above it, one node after the other,
and each of these is looked up again by its identifier and toggled. A toggle follows only where the
look-up finds something collapsed, so the flags that are found under the identifiers end up false,
whatever they were (`Session.collapsed_expandAll`).

Where identifiers are different, a look-up finds the node on the way and nothing else. What is found
is then what is remembered, and determines the tree (`Session.tree_expandAll`). The tree is laid out
again only if something was expanded, and that can be read off the place of the node
(`Session.snd_expandAll_way`).
-/

namespace ClusterMap

namespace Session

variable {α : Type} {s : Session α}

/-! ### Expanding nodes -/

theorem unflagged_expandAll (s : Session α) (path : List String) :
    (s.expandAll path).1.tree.unflagged = s.tree.unflagged := by
  rcases s.expandAll_eq path with h | ⟨s', hexp, h⟩
  · rw [h]
  · rw [h]
    exact (flips_of_expands hexp).unflagged_eq

/-- Expanding a node makes the flag under its identifier false, and no other. -/
theorem collapsed_expandNode (s : Session α) (id k : String) :
    ((s.expandNode id).1.tree.find? k).bind (·.info.collapsed) =
      ((s.tree.find? k).bind (·.info.collapsed)).map (· && decide (k ≠ id)) := by
  rcases s.expandNode_eq id with h | ⟨view, tree, htoggle, h⟩
  · -- nothing is found that is collapsed, so a flag under the identifier is false already
    have hopen : (s.tree.find? id).any Node.isCollapsed = false := by
      rw [← snd_expandNode, h]
    rw [h]
    by_cases hk : k = id
    · subst hk
      cases hnode : s.tree.find? k with
      | none => rfl
      | some node =>
        rw [hnode, Option.any_some, Node.isCollapsed] at hopen
        cases hflag : node.info.collapsed with
        | none => simp [hflag]
        | some flag =>
          rw [hflag, Option.getD_some] at hopen
          simp [hflag, hopen]
    · simp [hk]
  · obtain ⟨node, root, hnode, hbefore, hroot, -, rfl⟩ := ViewState.toggle?_eq_some htoggle
    rw [h]
    change (root.find? k).bind _ = _
    rw [Node.collapsed_of_modify? hroot]
    by_cases hk : k = id
    · rw [if_pos hk, hk, hnode, Option.bind_some, hbefore]
      simp
    · simp [hk, Tree.find?]

/-- One expanded node after the other: the flags under the identifiers become false. -/
theorem collapsed_expandAll (s : Session α) (path : List String) (k : String) :
    ((s.expandAll path).1.tree.find? k).bind (·.info.collapsed) =
      ((s.tree.find? k).bind (·.info.collapsed)).map (· && decide (k ∉ path)) := by
  induction path generalizing s with
  | nil =>
    change (s.tree.find? k).bind (·.info.collapsed) = _
    simp
  | cons id rest ih =>
    have hpath : (· && decide (k ∉ rest)) ∘ (· && decide (k ≠ id)) =
        (· && decide (k ∉ id :: rest)) := by
      funext flag
      by_cases hk : k = id <;> simp [hk]
    rw [expandAll_cons]
    dsimp only
    rw [ih, collapsed_expandNode, Option.map_map, hpath]

/-- Where identifiers are different, the flags that are looked up are those that are remembered. -/
theorem get?_collapseFlags_expandAll (hd : s.tree.root.DistinctIds) (path : List String)
    (k : String) : (s.expandAll path).1.tree.root.collapseFlags.get? k =
      (s.tree.root.collapseFlags.get? k).map (· && decide (k ∉ path)) := by
  have hd' : (s.expandAll path).1.tree.root.DistinctIds :=
    hd.congr (congrArg Tree.root (unflagged_expandAll s path).symm)
  rw [Node.get?_collapseFlags hd, Node.get?_collapseFlags hd']
  exact collapsed_expandAll s path k

/-- Expanding nodes opens the way that they make up, and changes nothing else in the tree. -/
theorem tree_expandAll (hd : s.tree.root.DistinctIds) (path : List String) :
    (s.expandAll path).1.tree =
      { s.tree with root := s.tree.root.mapInfo (NodeInfo.opened path) } := by
  rw [NodeInfo.opened_eq_reflag]
  exact Tree.eq_reflag hd (unflagged_expandAll s path) (get?_collapseFlags_expandAll hd path)

/-- Expanding nodes changes the tree if one of them was collapsed, whatever the identifiers are. -/
theorem tree_expandAll_ne_iff (s : Session α) (path : List String) :
    (s.expandAll path).1.tree ≠ s.tree ↔ (s.expandAll path).2 := by
  rcases s.expandAll_eq path with h | ⟨s', -, h⟩
  · simp [h]
  · have hany : path.any (fun id => (s.tree.find? id).any Node.isCollapsed) := by
      rw [← snd_expandAll, h]
    obtain ⟨id, hid, hcollapsed⟩ := List.any_eq_true.mp hany
    refine ⟨fun _ => by rw [h], fun _ htree => ?_⟩
    -- the flag that was found under the identifier is false now
    have hflag := collapsed_expandAll s path id
    rw [htree] at hflag
    cases hnode : s.tree.find? id with
    | none =>
      rw [hnode] at hcollapsed
      cases hcollapsed
    | some node =>
      rw [hnode, Option.any_some, Node.isCollapsed] at hcollapsed
      cases hbefore : node.info.collapsed with
      | none =>
        rw [hbefore] at hcollapsed
        cases hcollapsed
      | some flag =>
        have htrue : flag = true := by simpa [hbefore] using hcollapsed
        simp [hnode, hbefore, htrue, hid] at hflag

/-- Something is expanded on the way to a node if something above the node is collapsed. -/
theorem snd_expandAll_way (hd : s.tree.root.DistinctIds) {l : Lineage}
    (hl : l ∈ s.tree.root.lineages []) : (s.expandAll l.way).2 = !l.isShown := by
  -- an identifier on the way leads back to the node above
  have hfind : ∀ m ∈ l.above, (s.tree.find? m.id).any Node.isCollapsed = m.isCollapsed := by
    intro m hm
    have hfound : s.tree.find? m.id = some m :=
      hd.find?_eq_some_iff.mpr ⟨Node.mem_descendants_of_mem_above hl m hm, rfl⟩
    rw [hfound, Option.any_some]
  rw [snd_expandAll, Lineage.way, List.any_reverse, List.any_map, Lineage.isShown,
    ← List.not_any_eq_all_not, Bool.not_not]
  rw [Bool.eq_iff_iff, List.any_eq_true, List.any_eq_true]
  exact exists_congr fun m => and_congr_right fun hm => by rw [Function.comp_apply, hfind m hm]

/-! ### Focus -/

variable [Scalar α]

/-- Laying out anew counts as one pass. -/
@[simp] theorem passes_relayout (s : Session α) : s.relayout.passes = Count.next s.passes := by
  obtain ⟨p, hp⟩ := relayout_eq s
  rw [hp]
  rfl

theorem focus?_of_ancestors? {id : String} {path : List String}
    (h : s.tree.ancestors? id = some path) :
    let next := if (s.expandAll path).2 then (s.expandAll path).1.relayout
      else (s.expandAll path).1
    s.focus? id =
      some ({ next with view := { next.view with focused := some id } }, .focusCompanion id) := by
  rw [focus?, h]
  rfl

/-- There is nothing to bring into view exactly if the identifier does not occur. -/
theorem focus?_eq_none_iff {id : String} :
    s.focus? id = none ↔ id ∉ s.tree.root.descendants.map Node.id := by
  rw [← Node.ancestors?_eq_none_iff]
  change s.focus? id = none ↔ s.tree.ancestors? id = none
  cases h : s.tree.ancestors? id with
  | none => simp [focus?, h]
  | some path => simp [focus?_of_ancestors? h]

/-- What bringing the node at a place into view makes of a session. -/
structure Reveals (s : Session α) (l : Lineage) (s' : Session α) : Prop where
  tree : s'.tree = { s.tree with root := s.tree.root.mapInfo (NodeInfo.opened l.way) }
  focused : s'.view.focused = some l.node.id
  /-- Nothing that was visible is hidden. -/
  visible : s.tree.root.visibleIds.Sublist s'.tree.root.visibleIds
  passes : s'.passes = if l.isShown then s.passes else Count.next s.passes
  /-- Where nothing was collapsed above the node, only the focus moves. -/
  still : l.isShown → s' = { s with view := { s.view with focused := some l.node.id } }
  /-- All else stays, but that an open menu moves along with its node. -/
  rest : ∃ p, s' = { s with
    tree := s'.tree
    layout := s'.layout
    transform := s'.transform
    regions := s'.regions
    passes := s'.passes
    view := { s.view with
      collapsed := s'.view.collapsed
      focused := some l.node.id
      mode := moveMenu s.view.mode p } }

/-- The node at any place can be brought into view. -/
theorem exists_reveals (hd : s.tree.root.DistinctIds) {l : Lineage}
    (hl : l ∈ s.tree.root.lineages []) :
    ∃ s', s.focus? l.node.id = some (s', .focusCompanion l.node.id) ∧ s.Reveals l s' := by
  have hsnd := snd_expandAll_way hd hl
  have htree := tree_expandAll hd l.way
  rw [focus?_of_ancestors? (Node.ancestors?_of_mem hd hl)]
  refine ⟨_, rfl, ?_⟩
  rcases s.expandAll_eq l.way with hall | ⟨s₁, hexp, hall⟩
  · -- nothing is collapsed above the node, and the tree is not laid out
    rw [hall] at hsnd htree ⊢
    have hshown : l.isShown := by simpa using hsnd.symm
    obtain ⟨p, hp⟩ := s.view.mode.exists_moveMenu_eq
    exact
      { tree := htree
        focused := rfl
        visible := .refl _
        passes := (if_pos hshown).symm
        still := fun _ => rfl
        rest := ⟨p, by rw [← hp]; rfl⟩ }
  · rw [hall] at hsnd htree ⊢
    have hhidden : ¬ l.isShown := by simpa using hsnd.symm
    obtain ⟨tree, collapsed, rfl, hvisible⟩ := exists_of_expands hexp
    obtain ⟨p, hp⟩ := relayout_eq { s with tree, view := { s.view with collapsed } }
    refine ⟨?_, rfl, ?_, ?_, fun hshown => absurd hshown hhidden, p, ?_⟩
    · exact (tree_relayout _).trans htree
    · change s.tree.root.visibleIds.Sublist (relayout _).tree.root.visibleIds
      rwa [tree_relayout]
    · rw [if_neg hhidden]
      exact passes_relayout _
    · dsimp only [if_true]
      rw [hp]
      rfl

namespace Reveals

variable {s' : Session α} {l : Lineage}

omit [Scalar α] in
theorem root_eq (h : s.Reveals l s') :
    s'.tree.root = s.tree.root.mapInfo (NodeInfo.opened l.way) :=
  congrArg Tree.root h.tree

omit [Scalar α] in
theorem distinctIds (h : s.Reveals l s') (hd : s.tree.root.DistinctIds) :
    s'.tree.root.DistinctIds := by
  rw [h.root_eq, NodeInfo.opened_eq_reflag]
  exact hd.congr (Node.unflagged_reflag _ _).symm

omit [Scalar α] in
/-- What is remembered are the flags of the tree, before and after. -/
theorem get?_collapsed (h : s.Reveals l s') (hd : s.tree.root.DistinctIds)
    (hcoherent : s.memory.Coherent) (hcoherent' : s'.memory.Coherent) (k : String) :
    s'.view.collapsed.get? k =
      (s.view.collapsed.get? k).map (· && decide (k ∉ l.way)) := by
  have hafter : s'.view.collapsed = s'.tree.root.collapseFlags :=
    hcoherent'.flags (h.distinctIds hd)
  have hbefore : s.view.collapsed = s.tree.root.collapseFlags := hcoherent.flags hd
  rw [hafter, h.root_eq, NodeInfo.opened_eq_reflag, Node.get?_collapseFlags_reflag hd, hbefore]

omit [Scalar α] in
theorem visible_node (h : s.Reveals l s') (hl : l ∈ s.tree.root.lineages []) :
    l.node.id ∈ s'.tree.root.visibleIds := by
  rw [h.root_eq]
  exact Node.visible_of_opened hl fun _ hid => hid

/-- A node that was brought into view is shown, so that there is nothing left to do for it. -/
theorem focus?_again (h : s.Reveals l s') (hd : s.tree.root.DistinctIds)
    (hl : l ∈ s.tree.root.lineages []) :
    s'.focus? l.node.id = some (s', .focusCompanion l.node.id) := by
  have hplace : l.mapInfo (NodeInfo.opened l.way) ∈ s'.tree.root.lineages [] := by
    rw [h.root_eq]
    exact Node.mem_lineages_mapInfo hl
  -- the node is at the same place in the opened tree, under the same identifier
  have hid : (l.mapInfo (NodeInfo.opened l.way)).node.id = l.node.id :=
    Node.id_mapInfo (f := NodeInfo.opened l.way) (fun _ => rfl) l.node
  obtain ⟨s'', hfocus, hagain⟩ := exists_reveals (h.distinctIds hd) hplace
  rw [hid] at hfocus
  have hstill := hagain.still (Lineage.isShown_opened fun _ hid => hid)
  -- the focus is on the node already
  have hself : { s' with view := { s'.view with focused := some l.node.id } } = s' := by
    rw [← h.focused]
  rw [hid, hself] at hstill
  rw [hfocus, hstill]

end Reveals

/-- **Focus reveals its node and touches nothing else.** Let the identifiers of the tree be
different. An identifier that does not occur changes nothing. Otherwise there is a node that has it;
the flags of the nodes above it become false, in the tree and in what is remembered, and no other
flags change. The node is visible then, and so is all that was visible before. The tree is laid out
anew, once, exactly if something above the node was collapsed; if nothing was, nothing changes but
the focus. What is not about the tree or its layout stays in any case, but that an open menu moves
along. To ask again for the same node changes nothing at all. -/
theorem focus_reveals {s : Session α} (hs : s.Reachable) (hd : s.tree.root.DistinctIds)
    (id : String) :
    (s.focus? id = none ↔ id ∉ s.tree.root.descendants.map Node.id) ∧
      (s.focus? id = none → s.step (.focus id) = s) ∧
      ∀ s' e, s.focus? id = some (s', e) → s' = s.step (.focus id) ∧ e = .focusCompanion id ∧
        ∃ l ∈ s.tree.root.lineages [], l.node.id = id ∧
          s'.tree = { s.tree with root := s.tree.root.mapInfo (NodeInfo.opened l.way) } ∧
          (∀ k, s'.view.collapsed.get? k =
            (s.view.collapsed.get? k).map (· && decide (k ∉ l.way))) ∧
          id ∈ s'.tree.root.visibleIds ∧
          s.tree.root.visibleIds.Sublist s'.tree.root.visibleIds ∧
          (s.passes < Count.limit → s'.passes = s.passes + if l.isShown then 0 else 1) ∧
          (l.isShown → s' = { s with view := { s.view with focused := some id } }) ∧
          (∃ p, s' = { s with
            tree := s'.tree
            layout := s'.layout
            transform := s'.transform
            regions := s'.regions
            passes := s'.passes
            view := { s.view with
              collapsed := s'.view.collapsed
              focused := some id
              mode := moveMenu s.view.mode p } }) ∧
          s'.focus? id = some (s', e) := by
  refine ⟨focus?_eq_none_iff, fun hnone => ?_, fun s' e hfocus => ?_⟩
  · -- a call that finds no node leaves the session as it is
    change ((s.focus? id).map Prod.fst).getD s = s
    rw [hnone]
    rfl
  have hstep : s' = s.step (.focus id) := by
    change s' = ((s.focus? id).map Prod.fst).getD s
    rw [hfocus]
    rfl
  -- the place of the node
  obtain ⟨l, hl, rfl⟩ : ∃ l ∈ s.tree.root.lineages [], l.node.id = id := by
    have hid : id ∈ s.tree.root.descendants.map Node.id := by
      by_contra hid
      rw [focus?_eq_none_iff.mpr hid] at hfocus
      cases hfocus
    rw [← Node.map_node_lineages _ [], List.map_map] at hid
    exact List.mem_map.mp hid
  -- what is done there is the one outcome of the call
  obtain ⟨s'', hfocus', hreveals⟩ := exists_reveals hd hl
  obtain ⟨rfl, rfl⟩ := Prod.mk.inj (Option.some.inj (hfocus'.symm.trans hfocus))
  have hs' : s''.Reachable := hstep ▸ hs.run [.focus l.node.id]
  refine ⟨hstep, rfl, l, hl, rfl, hreveals.tree, ?_, hreveals.visible_node hl, hreveals.visible,
    fun hlt => ?_, hreveals.still, hreveals.rest, hreveals.focus?_again hd hl⟩
  · exact hreveals.get?_collapsed hd hs.coherent hs'.coherent
  rw [hreveals.passes]
  split
  · rfl
  · exact Count.next_of_lt hlt

/-- A server in the second of two collapsed zones of a collapsed cluster: the cluster and the zone
are expanded, and the other zone stays collapsed. -/
theorem focus_reveals_server :
    let s : Session Rat := (Session.start 1 .standard .standard (some "c1") .standard).run
      [.apply [Snapshot.Sample.cluster "c1" [2, 1] .primary] (some 1), .toggle "c1"]
    let id := "server:c1-z2-s1"
    s.Reachable ∧ s.tree.root.DistinctIds ∧ id ∉ s.tree.root.visibleIds ∧
      ∃ s', s.focus? id = some (s', .focusCompanion id) ∧ id ∈ s'.tree.root.visibleIds ∧
        s'.view.collapsed = [("c1", false), ("zone1", true), ("zone2", false)] ∧
        s'.focus? id = some (s', .focusCompanion id) := by
  intro s id
  have hs : s.Reachable := ⟨1, .standard, .standard, some "c1", .standard, _, rfl⟩
  have hd : s.tree.root.DistinctIds := by decide +kernel
  have hhidden : id ∉ s.tree.root.visibleIds := by decide +kernel
  have hflags : (s.step (.focus id)).view.collapsed =
      [("c1", false), ("zone1", true), ("zone2", false)] := by decide +kernel
  obtain ⟨hnone, -, hsome⟩ := focus_reveals hs hd id
  cases hfocus : s.focus? id with
  | none => exact absurd (hnone.mp hfocus) (by decide +kernel)
  | some next =>
    obtain ⟨s', e⟩ := next
    obtain ⟨hstep, rfl, l, -, -, -, -, hvisible, -, -, -, -, hagain⟩ := hsome s' e hfocus
    refine ⟨hs, hd, hhidden, s', rfl, hvisible, ?_, hagain⟩
    rw [hstep]
    exact hflags

end Session

end ClusterMap
