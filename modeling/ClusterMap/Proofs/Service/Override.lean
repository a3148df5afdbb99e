import ClusterMap.Command.Run
import ClusterMap.Proofs.Session.Freshness
import ClusterMap.Proofs.Tree.Override
import ClusterMap.Service.Handler

/-!
# Collapse flags in a report

A report can be asked for with collapse flags of one's own, of the service in a map and on the
command line in two lists. Both set the flags by toggling the nodes of a session one after another,
each time with a new layout. None of this is seen in the report: it is what the tree would give if
the flags were assigned to it before it is laid out, fitted and drawn for the first time
(`Session.Displays`, `RenderReport.ofSession_of_displays`).

The service ignores what cannot be set, and the command line refuses it (`Command.refusal?`). Where
nothing is refused the two give the same report.
-/

namespace ClusterMap

/-- The report on a tree that is laid out, fitted and drawn once. -/
def RenderReport.ofTree (c : LayoutConfig Float32) (a : Artist Float32) (v : Viewport Float32)
    (t : Tree) : RenderReport :=
  let layout := Layout.ofTree c t
  ⟨t.current, layout, a.draw ⟨t, layout, Transform.fit layout v c, .ofViewport v⟩ 1⟩

/-! ### Sessions before the first frame -/

namespace Session

variable {α : Type} [Scalar α]

/-- A session that displays a tree, has drawn no frame yet, and in which nothing is pointed at. -/
structure Displays (s : Session α) (c : LayoutConfig α) (a : Artist α) (v : Viewport α)
    (t : Tree) : Prop where
  fresh : s.Fresh
  config : s.config = c
  artist : s.artist = a
  viewport : s.view.viewport = v
  tree : s.tree = t
  mode : s.view.mode = .idle
  sequence : s.sequence = 0

/-- A session that was just opened on a snapshot displays the tree built from it. -/
theorem displays_opened (threshold : Nat) (c : LayoutConfig α) (a : Artist α)
    (requested : Option String) (v : Viewport α) (clusters : List Snapshot.Cluster) :
    ((start threshold c a requested v).apply clusters none).1.Displays c a v
      (Tree.build threshold clusters requested) := by
  have hnew : (start threshold c a requested v).isNewer none := rfl
  obtain ⟨mode, hmode, heq⟩ := apply_eq (start threshold c a requested v) clusters hnew rfl
  have hfresh : ((start threshold c a requested v).apply clusters none).1.Fresh :=
    fresh_invariant.step (fresh_start ..) (.apply clusters none)
  rw [heq] at hfresh ⊢
  -- no flags are remembered yet, and a mode that was idle is idle
  refine ⟨hfresh, rfl, rfl, rfl, rfl, ?_, rfl⟩
  change mode = .idle
  cases hmode <;> rfl

variable {c : LayoutConfig α} {a : Artist α} {v : Viewport α}

/-- **Setting a flag is assigning it to the tree.** -/
theorem Displays.setCollapsed {s : Session α} {t : Tree} (h : s.Displays c a v t) (id : String)
    (flag : Bool) : (s.setCollapsed id flag).Displays c a v (t.override id flag) := by
  obtain rfl := h.tree
  by_cases hflag : (s.tree.find? id).bind (·.info.collapsed) = some (!flag)
  · -- the node is there and has the other flag, so it is toggled
    have hset : s.setCollapsed id flag = (s.toggle id).1 := by
      rw [Session.setCollapsed, hflag]
      exact if_neg (by cases flag <;> decide)
    obtain ⟨view, tree, htoggle⟩ := s.view.exists_toggle? hflag
    rw [Bool.not_not] at htoggle
    obtain ⟨mode, hmode, heq⟩ := toggle_eq s htoggle
    obtain ⟨n, root, hn, hown, hroot, rfl, rfl⟩ := ViewState.toggle?_eq_some htoggle
    have hfresh : (s.toggle id).1.Fresh := fresh_invariant.step h.fresh (.toggle id)
    rw [hset, Tree.override_eq_of_modify? _ _ hn (Option.isSome_of_eq_some hown) hroot]
    rw [heq] at hfresh ⊢
    refine ⟨hfresh, h.config, h.artist, h.viewport, rfl, ?_, h.sequence⟩
    -- toggling ends in the idle mode that it started from
    change mode = .idle
    rw [h.mode] at hmode
    cases hmode <;> rfl
  · -- there is nothing to set, or it is set already
    have hset : s.setCollapsed id flag = s := by
      unfold Session.setCollapsed
      cases hown : (s.tree.find? id).bind (·.info.collapsed) with
      | none => rfl
      | some own =>
        rw [hown] at hflag
        exact if_pos (by cases own <;> cases flag <;> simp_all)
    rw [hset, Tree.override_eq_self _ _ hflag]
    exact h

/-- Flags that are set one after another are assigned to the tree one after another. -/
theorem Displays.foldl_setCollapsed {s : Session α} {t : Tree} (h : s.Displays c a v t)
    (flags : List (String × Bool)) :
    (flags.foldl (fun s (id, flag) => s.setCollapsed id flag) s).Displays c a v
      (t.overrideAll flags) := by
  induction flags generalizing s t with
  | nil => exact h
  | cons e rest ih => exact ih (h.setCollapsed e.1 e.2)

end Session

/-- The report on a session that has drawn no frame is that on its tree. -/
theorem RenderReport.ofSession_of_displays {s : Session Float32} {c : LayoutConfig Float32}
    {a : Artist Float32} {v : Viewport Float32} {t : Tree} (h : s.Displays c a v t) :
    ofSession s = ofTree c a v t := by
  obtain ⟨hfresh, rfl, rfl, rfl, rfl, hmode, hsequence⟩ := h
  -- what is remembered of earlier flags is not drawn
  have hhovered : s.view.hovered? = none := by rw [ViewState.hovered?, hmode]
  have hmenu : s.view.openMenu? = none := by rw [ViewState.openMenu?, hmode]
  have htooltip : s.view.tooltipAnchor? = none := by rw [ViewState.tooltipAnchor?, hmode]
  have hdraw : s.artist.draw s.scene = s.artist.draw ⟨s.tree, Layout.ofTree s.config s.tree,
      Transform.fit (Layout.ofTree s.config s.tree) s.view.viewport s.config,
      .ofViewport s.view.viewport⟩ :=
    Artist.draw_congr rfl hfresh.layout (hfresh.transform.trans (by rw [hfresh.layout])) hhovered
      hmenu htooltip rfl
  have hbatch : s.render.2 = s.artist.draw s.scene (Count.next s.sequence) := rfl
  rw [ofSession, hbatch, hsequence, hdraw, hfresh.layout]
  rfl

/-! ### The service -/

namespace Service

/-- The service sets the flags of a map without looking at what they are for. -/
theorem render_eq (config : Config) (r : RenderRequest) {clusters : List Snapshot.Cluster}
    (hr : Snapshot.ofValue "request body" r.clusters = .ok clusters) :
    render config r = .ok (.ofTree (r.layout.getD .standard) ⟨r.theme.getD .standard, Kind.all⟩
      (r.viewport.getD .standard)
      ((Tree.build config.threshold clusters (r.current.or config.defaultCluster)).overrideAll
        r.collapsed)) := by
  have hdisplays := (Session.displays_opened config.threshold (r.layout.getD .standard)
    ⟨r.theme.getD .standard, Kind.all⟩ (r.current.or config.defaultCluster)
    (r.viewport.getD .standard) clusters).foldl_setCollapsed r.collapsed
  rw [← RenderReport.ofSession_of_displays hdisplays, render, hr]
  rfl

end Service

/-! ### The command line -/

namespace Command

/-- Why the flag that an identifier stands for cannot be set. -/
def refusal? (t : Tree) (id : String) : Option Failure :=
  match t.find? id with
  | none => some (.unknownNode id)
  | some n => if n.info.isCollapsible then none else some (.notCollapsible id)

theorem refusal?_eq_none_iff {t : Tree} {id : String} :
    refusal? t id = none ↔ ∃ n, t.find? id = some n ∧ n.info.isCollapsible := by
  unfold refusal?
  cases t.find? id with
  | none => simp
  | some n => simp

/-- What is refused does not hang on the flags. -/
theorem refusal?_congr {t t' : Tree} (h : t.unflagged = t'.unflagged) (id : String) :
    refusal? t id = refusal? t' id := by
  -- a node keeps whether it has a flag, and more is not looked at
  have hkept : ∀ n : Node, n.unflagged.info.isCollapsible = n.info.isCollapsible := by
    intro n
    rw [Node.unflagged, Node.info_mapInfo]
    exact Option.isSome_map
  have hinfo : ∀ t : Tree, (t.unflagged.find? id).map (·.info.isCollapsible) =
      (t.find? id).map (·.info.isCollapsible) := by
    intro t
    rw [Tree.find?, Tree.find?, Tree.unflagged, Node.find?_unflagged, Option.map_map]
    exact congrArg (Option.map · _) (funext hkept)
  have hread : ∀ t : Tree, refusal? t id =
      ((t.find? id).map (·.info.isCollapsible)).elim (some (.unknownNode id)) fun collapsible =>
        if collapsible then none else some (.notCollapsible id) := by
    intro t
    unfold refusal?
    cases t.find? id <;> rfl
  rw [hread, hread, ← hinfo t, h, hinfo t']

theorem setFlag_eq (flag : Bool) (s : Session Float32) (id : String) :
    setFlag flag s id = (refusal? s.tree id).elim (.ok (s.setCollapsed id flag)) .error := by
  rw [setFlag, refusal?]
  cases s.tree.find? id with
  | none => rfl
  | some n => cases h : n.info.isCollapsible <;> simp [h]

section Flags

variable {c : LayoutConfig Float32} {a : Artist Float32} {v : Viewport Float32}

/-- Flags are set up to the first identifier that is refused. -/
theorem foldlM_setFlag {s : Session Float32} {t : Tree} (h : s.Displays c a v t) (flag : Bool)
    (ids : List String) : ids.foldlM (setFlag flag) s =
      (ids.findSome? (refusal? t)).elim
        (.ok ((ids.map (·, flag)).foldl (fun s (id, flag) => s.setCollapsed id flag) s))
        .error := by
  induction ids generalizing s t with
  | nil => rfl
  | cons id rest ih =>
    rw [List.foldlM_cons, List.findSome?_cons, setFlag_eq, h.tree]
    cases refusal? t id with
    | some f => rfl
    | none =>
      -- the others are refused for the same reasons after the flag was set
      have hcongr : refusal? (t.override id flag) = refusal? t :=
        funext fun k => refusal?_congr (t.unflagged_override flag) k
      rw [← hcongr]
      exact ih (h.setCollapsed id flag)

end Flags

/-- The command line makes the same report, unless it refuses an identifier. -/
theorem renderReport_eq (settings : Settings) (clusters : List Snapshot.Cluster)
    (viewport : Viewport Float32) (expand collapse : List String) :
    let tree := Tree.build settings.autoExpandThreshold clusters settings.currentCluster
    renderReport settings clusters viewport expand collapse =
      ((expand ++ collapse).findSome? (refusal? tree)).elim
        (.ok (.ofTree .standard .standard viewport
          (tree.overrideAll (expand.map (·, false) ++ collapse.map (·, true)))))
        .error := by
  intro tree
  have hopened : (openSession settings viewport clusters).Displays .standard .standard viewport
      tree := Session.displays_opened ..
  have hexpanded := hopened.foldl_setCollapsed (expand.map (·, false))
  -- the nodes to collapse are refused as if nothing had been expanded before
  have hcongr : refusal? (tree.overrideAll (expand.map (·, false))) = refusal? tree :=
    funext fun k => refusal?_congr (tree.unflagged_overrideAll _) k
  rw [renderReport, foldlM_setFlag hopened, List.findSome?_append]
  cases expand.findSome? (refusal? tree) with
  | some f => rfl
  | none =>
    rw [Option.none_or, ← hcongr]
    simp only [bind, Except.bind, Option.elim_none]
    rw [foldlM_setFlag hexpanded]
    cases collapse.findSome? _ with
    | some f => rfl
    | none =>
      have hcollapsed := hexpanded.foldl_setCollapsed (collapse.map (·, true))
      rw [Tree.overrideAll_append, ← RenderReport.ofSession_of_displays hcollapsed]
      rfl

end Command

/-! ### Agreement -/

/-- A request asks for what the command line asks for under some settings: the standard look, with
flags that are the last ones for their nodes. -/
structure Service.RenderRequest.AsksFor (r : RenderRequest) (config : Config) (settings : Settings)
    (expand collapse : List String) : Prop where
  threshold : settings.autoExpandThreshold = config.threshold
  current : settings.currentCluster = r.current.or config.defaultCluster
  layout : r.layout.getD .standard = .standard
  theme : r.theme.getD .standard = .standard
  collapsed : r.collapsed = .ofList (expand.map (·, false) ++ collapse.map (·, true))

namespace RenderReport

/-- **Flags that a report is asked for with are assigned to the tree.** The service gives the report
on the tree in which the first node with each identifier of the map has the flag of the map, if it
is one that can be collapsed. The command line gives the same report for the same flags exactly if
it refuses none of the identifiers, that is, if the first node with each of them can be collapsed;
it tells of the first one that it refuses. Where the identifiers of the nodes are different, it
refuses no identifier of a node that can be collapsed. -/
theorem overrides_assigned {clusters : List Snapshot.Cluster} (config : Service.Config)
    (r : Service.RenderRequest) (hr : Snapshot.ofValue "request body" r.clusters = .ok clusters) :
    let tree := Tree.build config.threshold clusters (r.current.or config.defaultCluster)
    Service.render config r = .ok (.ofTree (r.layout.getD .standard)
      ⟨r.theme.getD .standard, Kind.all⟩ (r.viewport.getD .standard)
      (tree.overrideAll r.collapsed)) ∧
    ∀ (settings : Settings) (expand collapse : List String),
      r.AsksFor config settings expand collapse →
      let answer :=
        Command.renderReport settings clusters (r.viewport.getD .standard) expand collapse
      (∀ f, answer = .error f ↔
        (expand ++ collapse).findSome? (Command.refusal? tree) = some f) ∧
      (∀ report, answer = .ok report ↔ Service.render config r = .ok report ∧
        ∀ id ∈ expand ++ collapse, ∃ n, tree.find? id = some n ∧ n.info.isCollapsible) ∧
      (tree.root.DistinctIds →
        (∀ id ∈ expand ++ collapse, ∃ n ∈ tree.root.descendants,
          n.id = id ∧ n.info.isCollapsible) →
        ∃ report, answer = .ok report ∧ Service.render config r = .ok report) := by
  intro tree
  have hrender := Service.render_eq config r hr
  refine ⟨hrender, ?_⟩
  intro settings expand collapse hasks answer
  -- both say what they do about one and the same report
  let shared : RenderReport := .ofTree .standard .standard (r.viewport.getD .standard)
    (tree.overrideAll (expand.map (·, false) ++ collapse.map (·, true)))
  have hservice : Service.render config r = .ok shared := by
    rw [hrender, hasks.layout, hasks.theme, hasks.collapsed, Tree.overrideAll_ofList]
    rfl
  have hanswer : answer = ((expand ++ collapse).findSome? (Command.refusal? tree)).elim
      (.ok shared) .error := by
    have heq := Command.renderReport_eq settings clusters (r.viewport.getD .standard) expand
      collapse
    rw [hasks.threshold, hasks.current] at heq
    exact heq
  have hnone : (expand ++ collapse).findSome? (Command.refusal? tree) = none ↔
      ∀ id ∈ expand ++ collapse, ∃ n, tree.find? id = some n ∧ n.info.isCollapsible := by
    simp only [List.findSome?_eq_none_iff, Command.refusal?_eq_none_iff]
  have hok : ∀ report, answer = .ok report ↔ Service.render config r = .ok report ∧
      ∀ id ∈ expand ++ collapse, ∃ n, tree.find? id = some n ∧ n.info.isCollapsible := by
    intro report
    rw [← hnone, hanswer, hservice]
    cases (expand ++ collapse).findSome? (Command.refusal? tree) with
    | some f => simp
    | none => simp
  refine ⟨fun f => ?_, hok, fun hd hids => ?_⟩
  · rw [hanswer]
    cases (expand ++ collapse).findSome? (Command.refusal? tree) with
    | some f' => simp
    | none => simp
  · -- with different identifiers there is no other node that could be found
    refine ⟨shared, (hok shared).mpr ⟨hservice, fun id hid => ?_⟩, hservice⟩
    obtain ⟨n, hn, rfl, hcollapsible⟩ := hids id hid
    exact ⟨n, hd.find?_eq_some_iff.mpr ⟨hn, rfl⟩, hcollapsible⟩

/-- A zone is expanded twice, and then collapsed together with its cluster. -/
theorem overrides_assigned_zone :
    let body : Value := .ofMembers [("id", .text "c1"), ("name", .text "c1-name"),
      ("status", .text "RUNNING"),
      ("zones", .list [.ofMembers [("name", .text "zone1"), ("status", .text "RUNNING")]])]
    let zone : Snapshot.Zone :=
      ⟨"zone1", none, some "RUNNING", none, none, none, none, none, none, []⟩
    let clusters : List Snapshot.Cluster :=
      [⟨"c1", "c1-name", some "RUNNING", none, .primary, false, [zone], []⟩]
    let settings : Settings := ⟨.file "", some "c1", "", 0, 0, 0, 0, 9⟩
    ∃ report, Command.renderReport settings clusters .standard ["zone1", "zone1"]
        ["c1", "zone1"] = .ok report ∧
      Service.render ⟨9, none⟩
        ⟨body, some "c1", [("c1", true), ("zone1", true)], none, none, none⟩ = .ok report := by
  intro body zone clusters settings
  let r : Service.RenderRequest :=
    ⟨body, some "c1", [("c1", true), ("zone1", true)], none, none, none⟩
  have hbody : Snapshot.ofValue "request body" r.clusters = .ok clusters := rfl
  obtain ⟨hrender, hcommand⟩ := overrides_assigned ⟨9, none⟩ r hbody
  have hasks : r.AsksFor ⟨9, none⟩ settings ["zone1", "zone1"] ["c1", "zone1"] :=
    ⟨rfl, rfl, rfl, rfl, by decide +kernel⟩
  obtain ⟨-, hok, -⟩ := hcommand settings _ _ hasks
  have hfound : ∀ id ∈ ["zone1", "zone1"] ++ ["c1", "zone1"],
      ((Tree.build 9 clusters (some "c1")).find? id).map (·.info.isCollapsible) = some true := by
    decide +kernel
  exact ⟨_, (hok _).mpr ⟨hrender, fun id hid => Option.map_eq_some_iff.mp (hfound id hid)⟩, hrender⟩

/-- A zone of the current cluster that is called as the root is can be collapsed, but the command
line finds the root in its place and refuses the identifier. -/
theorem overrides_assigned_fails_root :
    let body : Value := .ofMembers [("id", .text "c1"), ("name", .text "c1-name"),
      ("status", .text "RUNNING"),
      ("zones", .list [.ofMembers [("name", .text "root"), ("status", .text "RUNNING")]])]
    let zone : Snapshot.Zone :=
      ⟨"root", none, some "RUNNING", none, none, none, none, none, none, []⟩
    let clusters : List Snapshot.Cluster :=
      [⟨"c1", "c1-name", some "RUNNING", none, .primary, false, [zone], []⟩]
    let settings : Settings := ⟨.file "", some "c1", "", 0, 0, 0, 0, 9⟩
    let r : Service.RenderRequest := ⟨body, some "c1", [("root", false)], none, none, none⟩
    let tree := Tree.build 9 clusters (some "c1")
    Snapshot.ofValue "request body" body = .ok clusters ∧
      r.AsksFor ⟨9, none⟩ settings ["root"] [] ∧
      (∃ n ∈ tree.root.descendants, n.id = "root" ∧ n.info.isCollapsible) ∧
      (∃ report, Service.render ⟨9, none⟩ r = .ok report) ∧
      Command.renderReport settings clusters .standard ["root"] [] =
        .error (.notCollapsible "root") := by
  intro body zone clusters settings r tree
  have hbody : Snapshot.ofValue "request body" r.clusters = .ok clusters := rfl
  refine ⟨rfl, ⟨rfl, rfl, rfl, rfl, by decide +kernel⟩, by decide +kernel,
    ⟨_, Service.render_eq ⟨9, none⟩ r hbody⟩, ?_⟩
  have hroot : (tree.find? "root").map (·.info.isCollapsible) = some false := by decide +kernel
  obtain ⟨n, hn, hcollapsible⟩ := Option.map_eq_some_iff.mp hroot
  have hrefused : Command.refusal? tree "root" = some (.notCollapsible "root") := by
    rw [Command.refusal?, hn]
    exact if_neg (by rw [hcollapsible]; exact Bool.false_ne_true)
  rw [Command.renderReport_eq]
  change Option.elim (List.findSome? (Command.refusal? tree) ["root"]) _ _ = _
  rw [List.findSome?_cons, hrefused]
  rfl

end RenderReport

end ClusterMap
