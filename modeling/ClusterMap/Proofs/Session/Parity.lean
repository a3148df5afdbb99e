import ClusterMap.Proofs.Session.Collapse

/-!
# Toggling counts modulo two

What a number of toggles does to a tree hangs on how often each identifier is toggled, and of that
on the parity alone: `NodeInfo.flipped` flips the flag of a node that is toggled an odd number of
times.

A toggle is followed in the flags that are remembered, since there it is a single insertion
(`Session.get?_collapseFlags_toggle`); a toggle of what cannot be collapsed flips a flag that is not
there. Where identifiers are different these flags determine the tree
(`Node.eq_of_collapseFlags_eq`), and everything else that a session keeps of what it shows is worked
out from the tree, so that neither the order of toggles nor a pair of them is left in the outcome
(`Session.toggles_obey_parity`).
-/

namespace ClusterMap

/-- What a node holds after the toggles of some identifiers: its flag is flipped if its own
identifier is toggled an odd number of times. -/
def NodeInfo.flipped (ids : List String) (i : NodeInfo) : NodeInfo :=
  { i with collapsed := i.collapsed.map (· ^^ decide (ids.count i.id % 2 = 1)) }

/-- Flipping is a change of flags by identifiers. -/
theorem NodeInfo.flipped_eq_reflag (ids : List String) :
    NodeInfo.flipped ids = NodeInfo.reflag fun id flag => flag ^^ decide (ids.count id % 2 = 1) :=
  rfl

namespace Session

variable {α : Type} {s : Session α}

/-! ### Outcomes -/

/-- What toggles of some identifiers make of a session: the tree stays up to its flags, the viewport
stays, and a flag is flipped if its identifier is toggled an odd number of times. -/
structure Toggled (s : Session α) (ids : List String) (s' : Session α) : Prop where
  unflagged : s'.tree.unflagged = s.tree.unflagged
  viewport : s'.view.viewport = s.view.viewport
  flags : ∀ k, s'.tree.root.collapseFlags.get? k =
    (s.tree.root.collapseFlags.get? k).map (· ^^ decide (ids.count k % 2 = 1))

/-- Where identifiers are different, the tree after toggles is the one with the flipped flags. -/
theorem Toggled.tree_eq {ids : List String} {s' : Session α} (h : s.Toggled ids s')
    (hd : s.tree.root.DistinctIds) :
    s'.tree = { s.tree with root := s.tree.root.mapInfo (NodeInfo.flipped ids) } := by
  rw [NodeInfo.flipped_eq_reflag]
  exact Tree.eq_reflag hd h.unflagged h.flags

/-- Two sessions have the same tree, remember the same flags, and show the tree in the same way. -/
structure SameView (s s' : Session α) : Prop where
  tree : s.tree = s'.tree
  collapsed : s.view.collapsed = s'.view.collapsed
  layout : s.layout = s'.layout
  transform : s.transform = s'.transform

/-! ### One toggle -/

/-- Where there is nothing to toggle there is no flag. -/
theorem get?_collapseFlags_of_toggle?_eq_none (hd : s.tree.root.DistinctIds) {id : String}
    (h : s.view.toggle? s.tree id = none) : s.tree.root.collapseFlags.get? id = none := by
  -- a flag that is found could be flipped
  have hnone := s.view.isSome_toggle? s.tree id
  rw [h, Option.isSome_none, eq_comm, Option.isSome_eq_false_iff, Option.isNone_iff_eq_none]
    at hnone
  rw [Node.get?_collapseFlags hd]
  exact hnone

variable [Scalar α]

/-- A toggle changes the flags of the tree alone. -/
theorem unflagged_toggle (s : Session α) (id : String) :
    (s.step (.toggle id)).tree.unflagged = s.tree.unflagged :=
  (flips_step s (c := .toggle id) fun h => h).unflagged_eq

theorem viewport_toggle (s : Session α) (id : String) :
    (s.step (.toggle id)).view.viewport = s.view.viewport := by
  change (s.toggle id).1.view.viewport = _
  cases htoggle : s.view.toggle? s.tree id with
  | none => rw [toggle_eq_self s htoggle]
  | some result =>
    obtain ⟨flag, view, tree⟩ := result
    obtain ⟨mode, -, heq⟩ := toggle_eq s htoggle
    obtain ⟨node, root, -, -, -, rfl, -⟩ := ViewState.toggle?_eq_some htoggle
    rw [heq]
    rfl

/-- A toggle flips the flag under its identifier, if there is one, and no other. -/
theorem get?_collapseFlags_toggle (hd : s.tree.root.DistinctIds) (id k : String) :
    (s.step (.toggle id)).tree.root.collapseFlags.get? k =
      (s.tree.root.collapseFlags.get? k).map (· ^^ decide (k = id)) := by
  change (s.toggle id).1.tree.root.collapseFlags.get? k = _
  cases htoggle : s.view.toggle? s.tree id with
  | none =>
    rw [toggle_eq_self s htoggle]
    by_cases hk : k = id
    · rw [hk, get?_collapseFlags_of_toggle?_eq_none hd htoggle, Option.map_none]
    · simp [hk]
  | some result =>
    obtain ⟨flag, view, tree⟩ := result
    obtain ⟨mode, -, heq⟩ := toggle_eq s htoggle
    obtain ⟨hbefore, hafter⟩ := collapseFlags_of_toggle? hd htoggle
    rw [heq]
    change tree.root.collapseFlags.get? k = _
    rw [hafter, Entries.get?_insert]
    by_cases hk : k = id
    · rw [hk, if_pos rfl, hbefore]
      simp
    · rw [if_neg fun h => hk h.symm]
      simp [hk]

/-! ### Several toggles -/

/-- Toggles flip flags by their parity, one toggle at a time. -/
theorem toggled_run (hd : s.tree.root.DistinctIds) (ids : List String) :
    s.Toggled ids (s.run (ids.map .toggle)) := by
  induction ids generalizing s with
  | nil => exact ⟨rfl, rfl, fun k => by simp [run]⟩
  | cons id rest ih =>
    have hroot : s.tree.root.unflagged = (s.step (.toggle id)).tree.root.unflagged :=
      congrArg Tree.root (unflagged_toggle s id).symm
    obtain ⟨hunflagged, hviewport, hflags⟩ := ih (hd.congr hroot)
    refine ⟨hunflagged.trans (unflagged_toggle s id), hviewport.trans (viewport_toggle s id),
      fun k => ?_⟩
    -- the first toggle flips the flag under its identifier, and is one more to count
    have hparity : (fun flag => flag ^^ decide (rest.count k % 2 = 1)) ∘
        (fun flag => flag ^^ decide (k = id)) =
          fun flag => flag ^^ decide ((id :: rest).count k % 2 = 1) := by
      funext flag
      by_cases hk : k = id
      · subst hk
        rcases Nat.mod_two_eq_zero_or_one (rest.count k) with h | h <;>
          simp [List.count_cons_self, Nat.add_mod, h]
      · simp [hk, List.count_cons_of_ne fun h => hk h.symm]
    rw [← hparity, ← Option.map_map, ← get?_collapseFlags_toggle hd]
    exact hflags k

section Outcome

variable (hs : s.Reachable) (hd : s.tree.root.DistinctIds)

include hs hd

/-- What is kept after toggles is worked out from the tree after them. -/
theorem outcome_run_toggle (ids : List String) :
    let s' := s.run (ids.map .toggle)
    s'.tree = { s.tree with root := s.tree.root.mapInfo (NodeInfo.flipped ids) } ∧
      s'.view.collapsed = s'.tree.root.collapseFlags ∧
      s'.layout = Layout.ofTree s.config s'.tree ∧
      s'.transform = Transform.fit s'.layout s.view.viewport s.config := by
  intro s'
  have htoggled : s.Toggled ids s' := toggled_run hd ids
  have hs' : s'.Reachable := hs.run _
  have hfresh : s'.Fresh := fresh_invariant.of_reachable fresh_start hs'
  have hconfig : s'.config = s.config := (sameSettings_run s _).config
  have hd' : s'.tree.root.DistinctIds := hd.congr (congrArg Tree.root htoggled.unflagged.symm)
  refine ⟨htoggled.tree_eq hd, hs'.coherent.flags hd', ?_, ?_⟩
  · rw [hfresh.layout, hconfig]
  · rw [hfresh.transform, hconfig, htoggled.viewport]

/-- Toggles that agree in the parity of every identifier have the same outcome. -/
theorem sameView_of_count {ids ids' : List String}
    (h : ∀ id, ids.count id % 2 = ids'.count id % 2) :
    (s.run (ids.map .toggle)).SameView (s.run (ids'.map .toggle)) := by
  have hflipped : NodeInfo.flipped ids = NodeInfo.flipped ids' := by
    funext i
    rw [NodeInfo.flipped, NodeInfo.flipped, h]
  obtain ⟨htree, hcollapsed, hlayout, htransform⟩ := outcome_run_toggle hs hd ids
  obtain ⟨htree', hcollapsed', hlayout', htransform'⟩ := outcome_run_toggle hs hd ids'
  have hsame : (s.run (ids.map .toggle)).tree = (s.run (ids'.map .toggle)).tree := by
    rw [htree, htree', hflipped]
  refine ⟨hsame, ?_, ?_, ?_⟩
  · rw [hcollapsed, hcollapsed', hsame]
  · rw [hlayout, hlayout', hsame]
  · rw [htransform, htransform', hlayout, hlayout', hsame]

end Outcome

/-- **Toggles obey a parity law.** Let the identifiers of the tree be different. After any toggles,
of whatever identifiers, the flag of every node that has one is flipped if the identifier of the
node was toggled an odd number of times, and nothing else in the tree is changed; the remembered
flags, the layout and the transform are those of this tree. So it does not matter in which order one
toggles, and two toggles of one identifier might as well be left out. -/
theorem toggles_obey_parity {s : Session α} (hs : s.Reachable) (hd : s.tree.root.DistinctIds)
    (ids : List String) :
    let toggled (ids : List String) := s.run (ids.map .toggle)
    let s' := toggled ids
    s'.tree = { s.tree with root := s.tree.root.mapInfo (NodeInfo.flipped ids) } ∧
      (∀ id flag, s'.view.collapsed.get? id = some flag ↔
        ∃ n ∈ s'.tree.root.descendants, n.id = id ∧ n.info.collapsed = some flag) ∧
      s'.layout = Layout.ofTree s.config s'.tree ∧
      s'.transform = Transform.fit s'.layout s.view.viewport s.config ∧
      (∀ ids', ids'.Perm ids → (toggled ids').SameView s') ∧
      ∀ before between after id, ids = before ++ id :: between ++ id :: after →
        (toggled (before ++ between ++ after)).SameView s' := by
  intro toggled s'
  obtain ⟨htree, hcollapsed, hlayout, htransform⟩ := outcome_run_toggle hs hd ids
  have hd' : s'.tree.root.DistinctIds :=
    hd.congr (congrArg Tree.root (toggled_run hd ids).unflagged.symm)
  refine ⟨htree, fun id flag => ?_, hlayout, htransform, fun ids' hperm => ?_, ?_⟩
  · change (s.run (ids.map .toggle)).view.collapsed.get? id = some flag ↔ _
    rw [hcollapsed]
    exact Node.get?_collapseFlags_eq_some_iff hd'
  · exact sameView_of_count hs hd fun id => by rw [hperm.count_eq id]
  · rintro before between after id rfl
    refine sameView_of_count hs hd fun k => ?_
    -- the two toggles that are left out do not count
    simp only [List.count_append, List.count_cons]
    split <;> omega

/-- A zone is toggled before and after the cluster that it belongs to, with a server in between,
which cannot be collapsed. -/
theorem toggles_obey_parity_nested :
    let s : Session Rat := (Session.start 9 .standard .standard (some "c1") .standard).run
      [.apply [Snapshot.Sample.cluster "c1" [2, 1] .primary] (some 1)]
    s.Reachable ∧ s.tree.root.DistinctIds ∧
      (s.run (["c1", "server:c1-z1-s1"].map .toggle)).SameView
        (s.run (["zone1", "c1", "server:c1-z1-s1", "zone1"].map .toggle)) := by
  intro s
  have hs : s.Reachable := ⟨9, .standard, .standard, some "c1", .standard, _, rfl⟩
  have hd : s.tree.root.DistinctIds := by decide +kernel
  obtain ⟨-, -, -, -, -, hpair⟩ :=
    toggles_obey_parity hs hd ["zone1", "c1", "server:c1-z1-s1", "zone1"]
  exact ⟨hs, hd, hpair [] ["c1", "server:c1-z1-s1"] [] "zone1" rfl⟩

end Session

end ClusterMap
