import ClusterMap.Proofs.Session.Freshness
import ClusterMap.Snapshot.Sample

/-!
# Collapse flags across snapshots

A session holds every collapse flag twice: in the tree, and under the identifier of the node in what
it remembers for the next tree (`Session.memory`). Apart from snapshots that are taken over, calls
change this memory by flipping flags one after another (`Memory.Flip`), which keeps two things:

* `Memory.Coherent` — where identifiers are different, what is remembered are the flags of the tree,
  and before the first snapshot there are none;
* `Session.Shows` — up to its flags, the tree is the one built from the snapshot taken over last.

So a new tree takes over exactly the flags that the old tree has (`Session.tree_apply`), and the
snapshot that is already shown changes nothing (`Session.apply_shown`).
-/

namespace ClusterMap

/-- What a node of a new tree holds when it takes over its flag from an old tree: the flag of the
node with the same identifier there, if that one has a flag, and otherwise its own. A node that
cannot be collapsed stays as it is. -/
def NodeInfo.inherit (old : Node) (i : NodeInfo) : NodeInfo :=
  match i.collapsed, (old.find? i.id).bind (·.info.collapsed) with
  | some _, some flag => { i with collapsed := some flag }
  | _, _ => i

/-- Recalling the flags of a tree is taking them over from it. -/
theorem NodeInfo.recall_collapseFlags {old : Node} (hold : old.DistinctIds) :
    NodeInfo.recall old.collapseFlags = NodeInfo.inherit old := by
  funext i
  rw [NodeInfo.recall, Node.get?_collapseFlags hold, NodeInfo.inherit]
  cases hi : i.collapsed with
  | none => simp [isCollapsible, hi]
  | some own =>
    rw [if_pos (by simp [isCollapsible, hi])]
    cases (old.find? i.id).bind (·.info.collapsed) with
    | none => exact congrArg (fun collapsed => { i with collapsed }) hi.symm
    | some flag => rw [Option.some_or]

/-- Carrying flags over to a tree changes its flags alone. -/
theorem ViewState.unflagged_of_carryFlags {α : Type} {v v' : ViewState α} {t t' : Tree}
    (h : v.carryFlags t = (v', t')) : t'.unflagged = t.unflagged := by
  rw [carryFlags, Prod.mk.injEq] at h
  obtain ⟨-, rfl⟩ := h
  have hroot : (if v.seeded then t.root.mapInfo (NodeInfo.recall v.collapsed)
      else t.root).unflagged = t.root.unflagged := by
    split
    · exact Node.unflagged_mapInfo_recall _ t.root
    · rfl
  exact congrArg (fun root => { t with root }) hroot

/-! ### The memory of a session -/

/-- A tree with what is remembered of it. -/
structure Memory where
  tree : Tree
  collapsed : Entries Bool
  /-- Whether a snapshot has been taken over. -/
  seeded : Bool

namespace Memory

/-- The flag of a node that has one is flipped, in the tree and in what is remembered. -/
inductive Flip (m : Memory) : Memory → Prop
  | flip {id : String} {flag : Bool} {node root : Node} (hnode : m.tree.find? id = some node)
      (hflag : node.info.collapsed = some (!flag))
      (hroot : m.tree.root.modify? id (·.withCollapsed (some flag)) = some root) :
      Flip m ⟨{ m.tree with root }, m.collapsed.insert id flag, m.seeded⟩

/-- What is remembered are the flags of the tree; before the first snapshot there are none. -/
structure Coherent (m : Memory) : Prop where
  flags : m.tree.root.DistinctIds → m.collapsed = m.tree.root.collapseFlags
  unseeded : m.seeded = false → ∀ n ∈ m.tree.root.descendants, n.info.collapsed = none

variable {m m' : Memory}

theorem Flip.unflagged_eq (h : Flip m m') : m'.tree.unflagged = m.tree.unflagged := by
  cases h with
  | flip hnode hflag hroot =>
    have hun := Node.unflagged_of_modify? hroot hnode (Option.isSome_of_eq_some hflag)
    exact congrArg (fun root => { m.tree with root }) hun

theorem Coherent.flip (hm : m.Coherent) (h : Flip m m') : m'.Coherent := by
  cases h with
  | @flip id flag node root hnode hflag hroot =>
    have hsome : node.info.collapsed.isSome := Option.isSome_of_eq_some hflag
    refine ⟨fun hdistinct => ?_, fun hseeded => ?_⟩
    · -- the identifiers are those before, and both places get the same flag
      have hbefore : m.tree.root.DistinctIds :=
        Node.DistinctIds.congr (Node.unflagged_of_modify? hroot hnode hsome) hdistinct
      change m.collapsed.insert id flag = root.collapseFlags
      rw [hm.flags hbefore, Node.collapseFlags_of_modify? hbefore hroot hnode hsome]
    · -- there is no flag to flip before the first snapshot
      have hnone := hm.unseeded hseeded node (Node.mem_descendants_of_find? hnode)
      rw [hnone] at hflag
      exact absurd hflag (by simp)

/-- Several flags are flipped one after another. -/
abbrev Flips (m m' : Memory) : Prop := Relation.ReflTransGen Flip m m'

theorem Flips.unflagged_eq (h : Flips m m') : m'.tree.unflagged = m.tree.unflagged := by
  induction h with
  | refl => rfl
  | tail _ hflip ih => exact hflip.unflagged_eq.trans ih

theorem Coherent.flips (hm : m.Coherent) (h : Flips m m') : m'.Coherent := by
  induction h with
  | refl => exact hm
  | tail _ hflip ih => exact ih.flip hflip

/-- A tree that takes over what is remembered takes over the flags of the tree before. -/
theorem Coherent.recall_eq (hm : m.Coherent) (hdistinct : m.tree.root.DistinctIds) (n : Node) :
    (if m.seeded then n.mapInfo (NodeInfo.recall m.collapsed) else n) =
      n.mapInfo (NodeInfo.recall m.tree.root.collapseFlags) := by
  cases hseeded : m.seeded with
  | true => rw [if_pos rfl, hm.flags hdistinct]
  | false =>
    -- nothing is taken over, and there is nothing to take over
    have hempty : m.tree.root.collapseFlags = [] := by
      unfold Node.collapseFlags
      rw [List.filterMap_eq_nil_iff.mpr]
      · rfl
      · intro n hn
        rw [hm.unseeded hseeded n hn]
        rfl
    have hrecall : NodeInfo.recall [] = fun i => i := by
      funext i
      unfold NodeInfo.recall
      rw [Entries.get?_nil, Option.none_or, ite_self]
    rw [hempty, hrecall, Node.mapInfo_id]
    rfl

end Memory

namespace Session

variable {α : Type}

/-- The tree of a session with what is remembered of it. -/
def memory (s : Session α) : Memory := ⟨s.tree, s.view.collapsed, s.view.seeded⟩

/-- The tree is that of a snapshot, up to its flags. -/
def Shows (s : Session α) (clusters : List Snapshot.Cluster) : Prop :=
  s.tree.unflagged = (Tree.build s.threshold clusters s.requested).unflagged

/-- Flipping flags leaves the shown snapshot in place. -/
theorem Shows.flips {s s' : Session α} {clusters : List Snapshot.Cluster} (hs : s.Shows clusters)
    (hsame : SameSettings s s') (h : Memory.Flips s.memory s'.memory) : s'.Shows clusters := by
  unfold Shows at hs ⊢
  rw [hsame.threshold, hsame.requested, ← hs]
  exact h.unflagged_eq

/-! ### Calls that take no snapshot over -/

theorem flip_of_toggle? {s : Session α} {id : String} {flag : Bool} {view : ViewState α}
    {tree : Tree} (h : s.view.toggle? s.tree id = some (flag, view, tree)) :
    Memory.Flip s.memory ⟨tree, view.collapsed, view.seeded⟩ := by
  obtain ⟨node, root, hnode, hflag, hroot, rfl, rfl⟩ := ViewState.toggle?_eq_some h
  exact .flip hnode hflag hroot

theorem flips_of_expands {s s' : Session α} (h : Expands s s') :
    Memory.Flips s.memory s'.memory := by
  refine h.lift memory fun s s' hexp => ?_
  obtain ⟨id, view, tree, htoggle, rfl⟩ := hexp
  exact flip_of_toggle? htoggle

/-- Where identifiers are different, a toggle puts one flag in place of its opposite. -/
theorem collapseFlags_of_toggle? {s : Session α} (hd : s.tree.root.DistinctIds) {id : String}
    {flag : Bool} {view : ViewState α} {tree : Tree}
    (h : s.view.toggle? s.tree id = some (flag, view, tree)) :
    s.tree.root.collapseFlags.get? id = some (!flag) ∧
      tree.root.collapseFlags = s.tree.root.collapseFlags.insert id flag := by
  obtain ⟨node, root, hnode, hflag, hroot, -, rfl⟩ := ViewState.toggle?_eq_some h
  refine ⟨?_, Node.collapseFlags_of_modify? hd hroot hnode (Option.isSome_of_eq_some hflag)⟩
  rw [Node.get?_collapseFlags hd]
  exact Option.bind_eq_some_iff.mpr ⟨node, hnode, hflag⟩

variable [Scalar α]

theorem flips_of_change {s s' : Session α} (hc : Change s s') :
    Memory.Flips s.memory s'.memory := by
  cases hc with
  | toggle id flag view tree mode htoggle hmode =>
    have hflip : Memory.Flip s.memory ⟨tree, view.collapsed, view.seeded⟩ := flip_of_toggle? htoggle
    exact .single hflip
  | expand s₁ p hexp =>
    have hflips : Memory.Flips s.memory s₁.memory := flips_of_expands hexp
    exact hflips
  | _ => exact .refl

/-- A call that takes no snapshot over flips flags, if it does anything to them. -/
theorem flips_step (s : Session α) {c : Call α} (h : ¬ s.TakesOver c) :
    Memory.Flips s.memory (s.step c).memory := by
  by_cases hopen : s.Opens c
  · obtain ⟨p, id, rfl, hid⟩ := exists_of_opens hopen
    rw [step_of_opens s hid]
    exact .refl
  · exact Relation.ReflTransGen.trans_induction_on (step_changes s h hopen) (fun _ => .refl)
      (fun hc => flips_of_change hc) fun _ _ h₁ h₂ => h₁.trans h₂

/-- A run that takes no snapshot over flips flags one after another. -/
theorem flips_run {s : Session α} {calls : List (Call α)} (h : Avoids TakesOver s calls) :
    Memory.Flips s.memory (s.run calls).memory :=
  h.invariant_run (I := fun s' => Memory.Flips s.memory s'.memory)
    (fun s' _ hc ih => ih.trans (flips_step s' hc)) .refl

/-- **Every call keeps tree and memory coherent.** -/
theorem coherent_invariant : Invariant (fun s : Session α => s.memory.Coherent) where
  change h hc := h.flips (flips_of_change hc)
  opened h _ := h
  taken _ _ hcarry _ := by
    rw [ViewState.carryFlags, Prod.mk.injEq] at hcarry
    obtain ⟨rfl, rfl⟩ := hcarry
    exact ⟨fun _ => rfl, fun hunseeded => by cases hunseeded⟩

/-- Whatever can be reached is coherent. -/
theorem Reachable.coherent {s : Session α} (hs : s.Reachable) : s.memory.Coherent := by
  refine coherent_invariant.of_reachable (fun threshold config artist requested viewport => ?_) hs
  refine ⟨fun _ => rfl, fun _ n hn => ?_⟩
  -- a new session has no more than the root
  obtain rfl : n = _ := List.mem_singleton.mp hn
  rfl

/-! ### Snapshots that are taken over -/

section Apply

variable {s : Session α} {clusters : List Snapshot.Cluster} {revision : Option Nat}

/-- The tree after a snapshot is the one built from it, with the flags of the tree before. -/
theorem tree_apply (hcoherent : s.memory.Coherent) (hold : s.tree.root.DistinctIds)
    (hnew : s.isNewer revision) :
    let built := Tree.build s.threshold clusters s.requested
    (s.apply clusters revision).1.tree =
      { built with root := built.root.mapInfo (NodeInfo.recall s.tree.root.collapseFlags) } := by
  intro built
  obtain ⟨mode, -, heq⟩ := apply_eq s clusters hnew rfl
  rw [heq]
  change { built with root := if s.view.seeded then _ else _ } = _
  exact congrArg (fun root => { built with root }) (hcoherent.recall_eq hold built.root)

/-- What is remembered after a snapshot are the flags of the new tree. -/
theorem collapsed_apply (hnew : s.isNewer revision) :
    (s.apply clusters revision).1.view.collapsed =
      (s.apply clusters revision).1.tree.root.collapseFlags := by
  obtain ⟨mode, -, heq⟩ := apply_eq s clusters hnew rfl
  rw [heq]
  rfl

/-- Up to its flags, the tree after a snapshot is the one built from it. -/
theorem shows_apply (hnew : s.isNewer revision) : (s.apply clusters revision).1.Shows clusters := by
  obtain ⟨mode, -, heq⟩ := apply_eq s clusters hnew rfl
  rw [heq]
  exact ViewState.unflagged_of_carryFlags rfl

end Apply

/-- Calls that take no snapshot over leave the shown snapshot in place. -/
theorem Shows.run {s : Session α} {clusters : List Snapshot.Cluster} (hs : s.Shows clusters)
    {calls : List (Call α)} (h : Avoids TakesOver s calls) : (s.run calls).Shows clusters :=
  hs.flips (sameSettings_run s calls) (flips_run h)

/-- **The tree is that of a snapshot at any time**, up to its flags. -/
theorem shows_invariant : Invariant (fun s : Session α => ∃ clusters, s.Shows clusters) where
  change h hc := by
    obtain ⟨clusters, h⟩ := h
    have hsame := (invariant_sameSettings _).change ⟨rfl, rfl, rfl, rfl⟩ hc
    exact ⟨clusters, h.flips hsame (flips_of_change hc)⟩
  opened h _ := h
  taken _ _ hcarry _ := ⟨_, ViewState.unflagged_of_carryFlags hcarry⟩

/-- Whatever can be reached shows a snapshot; a new session shows the empty one. -/
theorem Reachable.exists_shows {s : Session α} (hs : s.Reachable) : ∃ clusters, s.Shows clusters :=
  shows_invariant.of_reachable (fun _ _ _ _ _ => ⟨[], rfl⟩) hs

/-- The snapshot that is already shown changes nothing. -/
theorem apply_shown {s : Session α} (hs : s.Reachable) (hdistinct : s.tree.root.DistinctIds)
    {clusters : List Snapshot.Cluster} (hshows : s.Shows clusters) (revision : Option Nat) :
    let s' := s.step (.apply clusters revision)
    s'.tree = s.tree ∧ s'.layout = s.layout ∧ s'.view.collapsed = s.view.collapsed := by
  intro s'
  by_cases hnew : s.isNewer revision
  · have hroot : (Tree.build s.threshold clusters s.requested).root.unflagged =
        s.tree.root.unflagged := congrArg Tree.root hshows.symm
    have hcurrent := congrArg Tree.current hshows
    change s.tree.current = (Tree.build s.threshold clusters s.requested).current at hcurrent
    -- the built tree differs from the shown one in its flags alone, and gets these back
    have htree : s'.tree = s.tree := by
      refine (tree_apply hs.coherent hdistinct hnew).trans ?_
      rw [Node.mapInfo_recall_of_unflagged_eq hdistinct hroot, ← hcurrent]
    have hfresh : s.Fresh := fresh_invariant.of_reachable fresh_start hs
    have hfresh' : s'.Fresh := fresh_invariant.step hfresh _
    have hconfig : s'.config = s.config := (sameSettings_step s _).config
    refine ⟨htree, ?_, ?_⟩
    · -- equal trees have equal layouts, and neither session keeps a stale one
      rw [hfresh'.layout, hfresh.layout, htree, hconfig]
    · have hmemory : s.view.collapsed = s.tree.root.collapseFlags := hs.coherent.flags hdistinct
      have hmemory' : s'.view.collapsed = s'.tree.root.collapseFlags := collapsed_apply hnew
      rw [hmemory, hmemory', htree]
  · have hself : s' = s := by
      change (s.apply clusters revision).1 = s
      rw [apply_of_stale s hnew]
    rw [hself]
    exact ⟨rfl, rfl, rfl⟩

/-- **Snapshots carry the flags over exactly.** Where identifiers are different, the tree after a
snapshot is the one built from it, with every flag taken over from the node with the same identifier
in the tree before, if there is one. What is remembered are the flags of the new tree and no others.
Taking the same snapshot over again changes nothing, whatever was asked of the session in between,
as long as no other snapshot was taken over. -/
theorem apply_inherits {s : Session α} (hs : s.Reachable) (clusters : List Snapshot.Cluster)
    {revision : Option Nat} (hnew : s.isNewer revision) (hold : s.tree.root.DistinctIds)
    (hbuilt : (Tree.build s.threshold clusters s.requested).root.DistinctIds) :
    let built := Tree.build s.threshold clusters s.requested
    let s' := s.step (.apply clusters revision)
    s'.tree = { built with root := built.root.mapInfo (NodeInfo.inherit s.tree.root) } ∧
      (∀ id flag, s'.view.collapsed.get? id = some flag ↔
        ∃ n ∈ s'.tree.root.descendants, n.id = id ∧ n.info.collapsed = some flag) ∧
      ∀ calls again, Avoids TakesOver s' calls →
        let s₁ := s'.run calls
        let s₂ := s₁.step (.apply clusters again)
        s₂.tree = s₁.tree ∧ s₂.layout = s₁.layout ∧ s₂.view.collapsed = s₁.view.collapsed := by
  intro built s'
  have hshows : s'.Shows clusters := shows_apply hnew
  have hsame : SameSettings s s' := sameSettings_step s _
  -- carrying flags over changes no identifier
  have hdistinct : s'.tree.root.DistinctIds := by
    refine hbuilt.congr ?_
    unfold Shows at hshows
    rw [hsame.threshold, hsame.requested] at hshows
    exact congrArg Tree.root hshows.symm
  refine ⟨?_, fun id flag => ?_, fun calls again havoid => ?_⟩
  · rw [← NodeInfo.recall_collapseFlags hold]
    exact tree_apply hs.coherent hold hnew
  · have hmemory : s'.view.collapsed = s'.tree.root.collapseFlags := collapsed_apply hnew
    rw [hmemory]
    exact Node.get?_collapseFlags_eq_some_iff hdistinct
  · have hreach : (s'.run calls).Reachable := hs.run (.apply clusters revision :: calls)
    have hdistinct' : (s'.run calls).tree.root.DistinctIds :=
      hdistinct.congr (congrArg Tree.root (flips_run havoid).unflagged_eq.symm)
    exact apply_shown hreach hdistinct' (hshows.run havoid) again

/-- A zone that was collapsed by hand is collapsed in the next tree as well. -/
theorem apply_inherits_toggled :
    let s : Session Rat := (Session.start 9 .standard .standard (some "c1") .standard).run
      [.apply [Snapshot.Sample.cluster "c1" [2, 1] .primary] (some 1), .toggle "zone1"]
    let clusters :=
      [Snapshot.Sample.cluster "c1" [1, 1, 3] .primary, Snapshot.Sample.cluster "c2" [1] .standby]
    s.isNewer (some 2) ∧ s.tree.root.DistinctIds ∧
      (Tree.build s.threshold clusters s.requested).root.DistinctIds ∧
      ∃ n ∈ (s.step (.apply clusters (some 2))).tree.root.descendants,
        n.id = "zone1" ∧ n.info.collapsed = some true := by
  intro s clusters
  have hnew : s.isNewer (some 2) := by decide +kernel
  have hold : s.tree.root.DistinctIds := by decide +kernel
  have hbuilt : (Tree.build s.threshold clusters s.requested).root.DistinctIds := by
    decide +kernel
  have hs : s.Reachable := ⟨9, .standard, .standard, some "c1", .standard, _, rfl⟩
  have hflag : (s.step (.apply clusters (some 2))).view.collapsed.get? "zone1" = some true := by
    decide +kernel
  refine ⟨hnew, hold, hbuilt, ?_⟩
  exact ((apply_inherits hs clusters hnew hold hbuilt).2.1 "zone1" true).mp hflag

end Session

end ClusterMap
