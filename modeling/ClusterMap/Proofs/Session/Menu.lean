import ClusterMap.Proofs.Session.Collapse
import ClusterMap.Proofs.Task.Target
import ClusterMap.Snapshot.Sample

/-!
# Which object an open menu is about

A menu is opened on a node and stays open on the identifier of that node, whatever happens to the
tree (`Session.menuNode?_run`). What an action chosen in it is about is decided only then: it is the
first object of the snapshot shown by that time whose node has the identifier
(`Session.exists_request_of_planFor`).

So the object stays the same exactly if its node identifier does, and an identifier hangs on which
cluster is current (`Target.nodeId_eq_iff`). If the current cluster is missing from a snapshot
another one takes its place, and a menu that is open on a zone then asks for the zone of that name
there.
-/

namespace ClusterMap

open Snapshot

/-- The node whose menu is open. -/
def Mode.menuNode? {α : Type} : Mode α → Option String
  | .menuOpen id _ => some id
  | _ => none

@[simp] theorem Mode.menuNode?_moveMenu {α : Type} (m : Mode α) (p : Point α) :
    (Session.moveMenu m p).menuNode? = m.menuNode? := by
  cases m <;> rfl

/-- Where a mode remains, an open menu is that of the same node. -/
theorem Mode.Remains.menuNode?_eq {α : Type} {visible : List String} {m m' : Mode α} {id : String}
    (h : Mode.Remains visible m m') (hid : m'.menuNode? = some id) : m.menuNode? = some id := by
  cases h with
  | ended => cases hid
  | moved p _ => rwa [menuNode?_moveMenu] at hid

namespace Session

variable {α : Type}

/-! ### Nodes and objects -/

/-- The node with an identifier stands for an object of the snapshot that is shown; of several
objects with the identifier for the first. -/
def StandsFor (s : Session α) (id : String) (o : Target) : Prop :=
  ∃ clusters, s.Shows clusters ∧ targetOf? clusters s.tree.current id = some o

/-- Any snapshot that is shown tells what a node stands for. -/
theorem Shows.standsFor_iff {s : Session α} {clusters : List Cluster} (hs : s.Shows clusters)
    {id : String} {o : Target} :
    s.StandsFor id o ↔ targetOf? clusters s.tree.current id = some o := by
  refine ⟨?_, fun h => ⟨clusters, hs, h⟩⟩
  rintro ⟨clusters', hs', h⟩
  have hcurrent := congrArg Tree.current hs
  change s.tree.current = (Tree.build s.threshold clusters s.requested).current at hcurrent
  rw [hcurrent] at h ⊢
  rw [targetOf?_congr (hs.symm.trans hs'), h]

theorem StandsFor.nodeId_eq {s : Session α} {id : String} {o : Target} (h : s.StandsFor id o) :
    o.nodeId s.tree.current = id := by
  obtain ⟨clusters, -, h⟩ := h
  simpa using List.find?_some h

/-- What is asked for in the menu of a node is about the object that the node stands for. -/
theorem exists_request_of_planFor {s : Session α} {clusters : List Cluster}
    (hshows : s.Shows clusters) {id : String} {a : Action} (hplan : s.planFor id a ≠ .ignore) :
    ∃ o r, s.StandsFor id o ∧ (s.planFor id a).request? = some r ∧ r.Addresses o := by
  unfold planFor at hplan ⊢
  cases hnode : s.tree.find? id with
  | none => rw [hnode] at hplan; exact absurd rfl hplan
  | some node =>
    rw [hnode] at hplan
    obtain ⟨o, r, ho, hr, haddresses⟩ := Plan.exists_request hshows hnode hplan
    exact ⟨o, r, ⟨clusters, hshows, ho⟩, hr, haddresses⟩

theorem not_dispatch_closeMenu (s : Session α) (plan : Plan) :
    .dispatch plan ∉ s.closeMenu.2 := by
  unfold closeMenu
  split <;> simp

variable [Scalar α]

/-! ### A menu stays on its node -/

/-- An elementary change opens no menu. -/
theorem menuNode?_change {s s' : Session α} (hc : Change s s') {id : String}
    (hid : s'.view.mode.menuNode? = some id) : s.view.mode.menuNode? = some id := by
  cases hc with
  | pointer pointer => exact hid
  | focused id' => exact hid
  | lookUp => exact hid
  | frame => exact hid
  | hover p id' hmenu hid' => cases hid
  | rest => cases hid
  | refit viewport fullscreen p =>
    change (moveMenu s.view.mode p).menuNode? = some id at hid
    rwa [Mode.menuNode?_moveMenu] at hid
  | toggle id' flag view tree mode htoggle hmode => exact hmode.menuNode?_eq hid
  | expand s₁ p hexp =>
    obtain ⟨tree, collapsed, rfl, -⟩ := exists_of_expands hexp
    change (moveMenu s.view.mode p).menuNode? = some id at hid
    rwa [Mode.menuNode?_moveMenu] at hid

/-- A call that opens no menu leaves at most the menu open that was open before. -/
theorem menuNode?_step {s : Session α} {c : Call α} (h : ¬ s.Opens c) {id : String}
    (hid : (s.step c).view.mode.menuNode? = some id) : s.view.mode.menuNode? = some id := by
  by_cases hsnap : s.TakesOver c
  · obtain ⟨clusters, revision, rfl, hnew⟩ := exists_of_takesOver hsnap
    obtain ⟨mode, hmode, heq⟩ := apply_eq s clusters hnew rfl
    rw [step, heq] at hid
    exact hmode.menuNode?_eq hid
  -- back along the elementary changes
  have hchanges := step_changes s hsnap h
  generalize s.step c = s' at hid hchanges
  induction hchanges with
  | refl => exact hid
  | tail _ hc ih => exact ih (menuNode?_change hc hid)

/-- A menu that is open after a run that opens none was open before it. -/
theorem menuNode?_run {s : Session α} {calls : List (Call α)} (h : Avoids Opens s calls)
    {id : String} (hid : (s.run calls).view.mode.menuNode? = some id) :
    s.view.mode.menuNode? = some id := by
  refine h.invariant_run
    (I := fun s' => s'.view.mode.menuNode? = some id → s.view.mode.menuNode? = some id)
    (fun s' c hc ih hid => ih (menuNode?_step hc hid)) (fun hid => hid) hid

/-! ### What is asked for -/

/-- The lines of a menu that can be pointed at are those of the open menu. -/
theorem menuNode?_of_hitTest {s : Session α} (hs : s.Fresh) {q : Point α} {id : String}
    {a : Action} (hit : hitTest s.currentRegions q = some (.menuItem id a)) :
    s.view.mode.menuNode? = some id := by
  rw [hs.currentRegions_eq] at hit
  obtain ⟨r, hr, htarget⟩ := mem_of_hitTest hit
  rcases List.mem_append.mp hr with hr | hr
  · -- the shapes of the nodes have no lines of menus
    obtain ⟨id', -, hshape⟩ := Artist.mem_nodeRegions hr
    rw [htarget] at hshape
    exact absurd hshape (by simp [HitTarget.ofShape])
  · obtain ⟨id', anchor, hopen, hmenu⟩ := Artist.mem_overlay_hitRegions hr
    rw [htarget] at hmenu
    obtain rfl : id = id' := hmenu.nodeId_eq
    have hmode : s.view.mode = .menuOpen id anchor := ViewState.mode_of_openMenu? hopen
    rw [hmode]
    rfl

/-- Of all events only a click on a line of a menu asks for an action, and never for one that is
ignored. -/
theorem exists_hitTest_of_dispatch {s : Session α} {e : Event α} {plan : Plan}
    (h : .dispatch plan ∈ (s.handle e).2) :
    ∃ q id a, e = .clicked q ∧ hitTest s.currentRegions q = some (.menuItem id a) ∧
      plan = s.planFor id a ∧ plan ≠ .ignore := by
  cases e with
  | pointerMoved p =>
    change .dispatch plan ∈ (s.pointerMoved p).2 at h
    unfold pointerMoved at h
    grind
  | pointerLeft =>
    change .dispatch plan ∈ s.pointerLeft.2 at h
    unfold pointerLeft at h
    grind
  | dismiss => exact absurd h (not_dispatch_closeMenu s plan)
  | resized viewport => exact absurd h (by simp [handle])
  | toggleFullscreen => exact absurd h (by simp [handle])
  | clicked q =>
    change .dispatch plan ∈ (s.clicked q).2 at h
    unfold clicked at h
    dsimp only at h
    -- of all targets only the lines of menus come to a plan
    split at h
    next id a hit =>
      split at h
      next => exact absurd h (by simp)
      next plan' hignore =>
        have hplan : plan = s.withRegions.planFor id a := by simpa using h
        exact ⟨q, id, a, rfl, hit, hplan, hplan ▸ hignore⟩
    next => exact absurd h (by simp)
    next => exact absurd h (by simp)
    next =>
      split at h
      · exact absurd h (by simp)
      · exact absurd h (by simp)
    next => exact absurd h (not_dispatch_closeMenu _ plan)
    next => exact absurd h (not_dispatch_closeMenu _ plan)

/-- An action can be asked for only in the menu that is open. -/
theorem exists_of_dispatch {s : Session α} (hs : s.Fresh) {e : Event α} {plan : Plan}
    (h : .dispatch plan ∈ (s.handle e).2) :
    ∃ id a, s.view.mode.menuNode? = some id ∧ plan = s.planFor id a ∧ plan ≠ .ignore := by
  obtain ⟨q, id, a, -, hit, hplan, hignore⟩ := exists_hitTest_of_dispatch h
  exact ⟨id, a, menuNode?_of_hitTest hs hit, hplan, hignore⟩

/-- An action that is chosen in a menu is asked for, unless it is ignored. -/
theorem dispatch_of_hitTest {s : Session α} {q : Point α} {id : String} {a : Action}
    (hit : hitTest s.currentRegions q = some (.menuItem id a)) (hplan : s.planFor id a ≠ .ignore) :
    .dispatch (s.planFor id a) ∈ (s.handle (.clicked q)).2 := by
  have hhit : hitTest s.withRegions.currentRegions q = some (.menuItem id a) := hit
  change .dispatch _ ∈ (s.clicked q).2
  unfold clicked
  dsimp only
  rw [hhit]
  dsimp only
  split
  next h => exact absurd h hplan
  next => exact List.mem_cons_of_mem _ List.mem_cons_self

/-- **What an open menu is about.** Let a menu be opened on the node of an object, let any calls
follow that open no other menu, and let a click then ask for an action. The request is about the
object that the menu was opened on exactly if the node still stands for it. Unless another object
has come before it under the identifier that it has now, this is to say that the object is a
cluster, or that its cluster is current at both times or at neither. -/
theorem menu_addresses_iff {s : Session α} (hs : s.Reachable) {p q : Point α} {id : String}
    {o : Target} {calls : List (Call α)} {plan : Plan}
    (hopen : hitTest s.currentRegions p = some (.moreActions id)) (ho : s.StandsFor id o)
    (hcalls : Avoids Opens (s.step (.handle (.clicked p))) calls)
    (hplan : .dispatch plan ∈ (((s.step (.handle (.clicked p))).run calls).handle (.clicked q)).2) :
    let s' := (s.step (.handle (.clicked p))).run calls
    ∃ r, plan.request? = some r ∧ (r.Addresses o ↔ s'.StandsFor id o) ∧
      ((∀ o', s'.StandsFor (o.nodeId s'.tree.current) o' → o' = o) →
        (r.Addresses o ↔ o.kind = .cluster ∨
          (s.tree.current = some o.clusterId ↔ s'.tree.current = some o.clusterId))) := by
  intro s'
  have hs' : s'.Reachable := hs.run (.handle (.clicked p) :: calls)
  have hfresh : s'.Fresh := fresh_invariant.of_reachable fresh_start hs'
  obtain ⟨clusters, hshows⟩ := hs'.exists_shows
  -- the menu in which the action is chosen is the one that was opened
  obtain ⟨id', a, hmenu, rfl, hignore⟩ := exists_of_dispatch hfresh hplan
  have hopened : (s.step (.handle (.clicked p))).view.mode.menuNode? = some id := by
    rw [step_of_opens s hopen]
    rfl
  obtain rfl : id' = id := Option.some.inj ((menuNode?_run hcalls hmenu).symm.trans hopened)
  -- and the request is about what the node stands for now
  obtain ⟨o', r, ho', hr, haddresses⟩ := exists_request_of_planFor hshows hignore
  have hiff : r.Addresses o ↔ s'.StandsFor id' o := by
    constructor
    · intro h
      rwa [h.unique haddresses]
    · -- a node stands for no more than one object
      intro h
      rw [hshows.standsFor_iff] at h ho'
      rwa [Option.some.inj (h.symm.trans ho')]
  refine ⟨r, hr, hiff, fun hfirst => ?_⟩
  rw [hiff, ← Target.nodeId_eq_iff, ho.nodeId_eq]
  constructor
  · exact fun h => h.nodeId_eq.symm
  · -- with the identifier it had, the object is the first one under it
    intro h
    rw [← h] at hfirst
    rwa [← hfirst o' ho']

/-- A menu is opened on a zone, and more zones and another cluster appear. -/
theorem menu_addresses_same_zone :
    let s : Session Rat := (Session.start 9 .standard .standard (some "c1") .standard).run
      [.apply [Sample.cluster "c1" [1] .primary] (some 1)]
    let s' := (s.step (.handle (.clicked ⟨684, 216⟩))).run
      [.apply [Sample.cluster "c1" [1, 1] .primary, Sample.cluster "c2" [1] .primary] (some 2)]
    hitTest s.currentRegions ⟨684, 216⟩ = some (.moreActions "zone1") ∧
      s.StandsFor "zone1" (.zone "c1" "zone1") ∧
      ∃ plan r, .dispatch plan ∈ (s'.handle (.clicked ⟨500, 310⟩)).2 ∧ plan.request? = some r ∧
        r.Addresses (.zone "c1" "zone1") := by
  intro s s'
  have hs : s.Reachable := ⟨9, .standard, .standard, some "c1", .standard, _, rfl⟩
  have hopen : hitTest s.currentRegions ⟨684, 216⟩ = some (.moreActions "zone1") := by
    decide +kernel
  have hbefore : s.StandsFor "zone1" (.zone "c1" "zone1") :=
    ⟨[Sample.cluster "c1" [1] .primary], shows_apply rfl, by decide +kernel⟩
  have hafter : s'.StandsFor "zone1" (.zone "c1" "zone1") :=
    ⟨[Sample.cluster "c1" [1, 1] .primary, Sample.cluster "c2" [1] .primary],
      shows_apply (by decide +kernel), by decide +kernel⟩
  have hitem : hitTest s'.currentRegions ⟨500, 310⟩ = some (.menuItem "zone1" .restart) := by
    decide +kernel
  have hrequest : (s'.planFor "zone1" .restart).request?.isSome := by decide +kernel
  have hdispatch := dispatch_of_hitTest hitem (Plan.ne_ignore_of_request? hrequest)
  have hcalls : Avoids Opens (s.step (.handle (.clicked ⟨684, 216⟩))) [.apply
      [Sample.cluster "c1" [1, 1] .primary, Sample.cluster "c2" [1] .primary] (some 2)] :=
    ⟨False.elim, trivial⟩
  obtain ⟨r, hr, hiff, -⟩ := menu_addresses_iff hs hopen hbefore hcalls hdispatch
  exact ⟨hopen, hbefore, _, r, hdispatch, hr, hiff.mpr hafter⟩

/-- A menu is opened on a zone of the current cluster, and a snapshot follows that lacks this
cluster. The first cluster of the snapshot is current now, its zone of the same name has the
identifier of the node, and the menu is still open: what is chosen in it is asked for the other
zone. -/
theorem menu_addresses_namesake :
    let s : Session Rat := (Session.start 9 .standard .standard (some "c1") .standard).run
      [.apply [Sample.cluster "c1" [1] .primary] (some 1)]
    let s₁ := s.step (.handle (.clicked ⟨684, 216⟩))
    let s₂ := s₁.run [.apply [Sample.cluster "c2" [1] .primary] (some 2)]
    s.StandsFor "zone1" (.zone "c1" "zone1") ∧
      hitTest s.currentRegions ⟨684, 216⟩ = some (.moreActions "zone1") ∧
      s₁.view.mode = .menuOpen "zone1" ⟨684, 216⟩ ∧ s₂.view.mode = .menuOpen "zone1" ⟨684, 216⟩ ∧
      hitTest s₂.currentRegions ⟨700, 230⟩ = some (.menuItem "zone1" .restart) ∧
      ∃ plan r, .dispatch plan ∈ (s₂.handle (.clicked ⟨700, 230⟩)).2 ∧ plan.request? = some r ∧
        r.Addresses (.zone "c2" "zone1") ∧ ¬ r.Addresses (.zone "c1" "zone1") := by
  intro s s₁ s₂
  have hbefore : s.StandsFor "zone1" (.zone "c1" "zone1") :=
    ⟨[Sample.cluster "c1" [1] .primary], shows_apply rfl, by decide +kernel⟩
  have hafter : s₂.Shows [Sample.cluster "c2" [1] .primary] := shows_apply (by decide +kernel)
  have hitem : hitTest s₂.currentRegions ⟨700, 230⟩ = some (.menuItem "zone1" .restart) := by
    decide +kernel
  have hrequest : (s₂.planFor "zone1" .restart).request?.isSome := by decide +kernel
  have hplan : s₂.planFor "zone1" .restart ≠ .ignore := Plan.ne_ignore_of_request? hrequest
  obtain ⟨o, r, ho, hr, haddresses⟩ := exists_request_of_planFor hafter hplan
  obtain rfl : o = .zone "c2" "zone1" := by
    have hobject : targetOf? [Sample.cluster "c2" [1] .primary] s₂.tree.current "zone1" =
        some (.zone "c2" "zone1") := by decide +kernel
    exact Option.some.inj ((hafter.standsFor_iff.mp ho).symm.trans hobject)
  refine ⟨hbefore, by decide +kernel, by decide +kernel, by decide +kernel, hitem, _, r,
    dispatch_of_hitTest hitem hplan, hr, haddresses, fun h => ?_⟩
  exact absurd (h.unique haddresses) (by decide)

end Session

end ClusterMap
