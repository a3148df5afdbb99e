import ClusterMap.Proofs.Menu.Agreement
import ClusterMap.Proofs.Service.Override

/-!
# Whose fault a failed request is

The status of a failed request is told from the wording of its error, in which texts of the request
stand as well. None of them can make a failure that of the service. Only some refusals occur
(`Refusal.Occurs`), and each of them begins with a mark of the client that is looked for, so that it
does not matter what follows (`statusOf_of_mark`).

So a request is answered with a report, or refused as the fault of the client together with all
causes, and which of the two it is hangs on what it asks for (`answered_or_refused`).
-/

namespace ClusterMap.Service

/-! ### Marks -/

theorem occursIn_iff {part text : List Char} : occursIn part text = true ↔ part <:+: text := by
  induction text with
  | nil => simp [occursIn]
  | cons c rest ih =>
    rw [occursIn, Bool.or_eq_true, ih, List.isPrefixOf_iff_prefix, List.infix_cons_iff]

/-- A text that begins with a mark tells of a fault of the client, whatever follows. -/
theorem statusOf_of_mark {mark : String} (h : mark ∈ clientMarks) (rest : String) :
    statusOf (mark ++ rest) = 400 := by
  -- the marks are written in small letters
  have hlower : ∀ mark ∈ clientMarks, mark.toList.map Char.toLower = mark.toList := by decide
  have hoccurs : mark.toList <:+: (Text.lowerAscii (mark ++ rest)).toList := by
    rw [Text.lowerAscii, String.toList_map, String.toList_append, List.map_append, hlower mark h]
    exact (List.prefix_append _ _).isInfix
  exact if_pos (List.any_eq_true.mpr ⟨mark, h, occursIn_iff.mpr hoccurs⟩)

/-! ### Refusals -/

namespace Refusal

/-- A refusal and the causes behind it, outermost first. -/
def chain : Refusal → List String
  | .snapshot route e => s!"invalid {route} request" :: e.message :: e.cause?.toList
  | .unknownNode id => [s!"unknown node `{id}`"]

/-- The refusals that occur: of a value that holds no snapshot, and of an identifier. -/
inductive Occurs : Refusal → Prop
  | snapshot {route : String} (hroute : route ∈ ["render", "menu"]) (origin : String)
      (flaw : Snapshot.Flaw) : Occurs (.snapshot route (.parse origin flaw))
  | unknownNode (id : String) : Occurs (.unknownNode id)

/-- The message of a refusal tells all causes. -/
theorem Occurs.message {f : Refusal} (h : f.Occurs) : f.message = ": ".intercalate f.chain := by
  cases h with
  | @snapshot route hroute origin flaw =>
    have hsplit : " request: " = " request" ++ ": " := rfl
    change "invalid " ++ route ++ " request: " ++ _ = "invalid " ++ route ++ " request" ++ ": " ++ _
    rw [hsplit]
    simp only [String.append_assoc]
  | unknownNode id => rfl

/-- A refusal that occurs is the fault of the client. -/
theorem Occurs.status {f : Refusal} (h : f.Occurs) : statusOf f.message = 400 := by
  cases h with
  | @snapshot route hroute origin flaw =>
    have hmark : s!"invalid {route} request" ∈ clientMarks := by
      rcases List.mem_pair.mp hroute with rfl | rfl <;> decide
    have htext : (Refusal.snapshot route (.parse origin flaw)).message =
        s!"invalid {route} request" ++ (": " ++ (Snapshot.Error.parse origin flaw).message) := by
      rw [(Occurs.snapshot hroute origin flaw).message, ← String.append_assoc]
      rfl
    rw [htext]
    exact statusOf_of_mark hmark _
  | unknownNode id =>
    have hmark : "unknown node `" ∈ clientMarks := by decide
    have htext : (Refusal.unknownNode id).message = "unknown node `" ++ (id ++ "`") :=
      String.append_assoc
    rw [htext]
    exact statusOf_of_mark hmark _

end Refusal

/-- The answer to a request that is refused. -/
def Answer.refused (f : Refusal) : Answer :=
  ⟨400, .ofMembers [("error", .text (": ".intercalate f.chain))]⟩

/-- A result that is either a report, or a refusal that occurs, is answered as such. -/
theorem answerWith_status {α : Type} (toValue : α → Value) {result : Except Refusal α}
    (h : ∀ f, result = .error f → f.Occurs) :
    ((answerWith toValue result).status = 200 ↔ ∃ report, result = .ok report) ∧
      ((answerWith toValue result).status = 200 ∨
        ∃ f, result = .error f ∧ answerWith toValue result = .refused f) := by
  cases result with
  | ok report => exact ⟨iff_of_true rfl ⟨report, rfl⟩, .inl rfl⟩
  | error f =>
    have hrefused : answerWith toValue (.error f) = .refused f := by
      rw [answerWith, (h f rfl).status, (h f rfl).message]
      rfl
    refine ⟨iff_of_false ?_ nofun, .inr ⟨f, rfl, hrefused⟩⟩
    rw [hrefused]
    exact nofun

/-! ### Routes -/

theorem exists_flaw_of_ofValue {origin : String} {v : Value} {e : Snapshot.Error}
    (h : Snapshot.ofValue origin v = .error e) : ∃ flaw, e = .parse origin flaw := by
  unfold Snapshot.ofValue at h
  cases hv : Snapshot.decodeDocument v with
  | ok clusters => rw [hv] at h; cases h
  | error e' => rw [hv] at h; cases h; exact ⟨_, rfl⟩

/-- What a request for a layout comes to hangs on its snapshot alone. -/
theorem render_cases (config : Config) (r : RenderRequest) :
    (∀ f, render config r = .error f → f.Occurs) ∧
      ((∃ report, render config r = .ok report) ↔
        ∃ clusters, Snapshot.ofValue "request body" r.clusters = .ok clusters) := by
  cases hr : Snapshot.ofValue "request body" r.clusters with
  | ok clusters =>
    have hrender := render_eq config r hr
    refine ⟨fun f hf => ?_, iff_of_true ⟨_, hrender⟩ ⟨clusters, rfl⟩⟩
    rw [hrender] at hf
    cases hf
  | error e =>
    obtain ⟨flaw, rfl⟩ := exists_flaw_of_ofValue hr
    have hrender : render config r = .error (.snapshot "render" (.parse "request body" flaw)) := by
      rw [render, hr]
      rfl
    refine ⟨fun f hf => ?_, iff_of_false (by simp [hrender]) (by simp)⟩
    obtain rfl := Except.error.inj (hrender.symm.trans hf)
    exact .snapshot (by decide) _ flaw

theorem isSome_ofSession?_iff (s : Session Float32) (id : String) :
    (MenuReport.ofSession? s id).isSome ↔ id ∈ s.tree.root.descendants.map Node.id := by
  rw [← Node.isSome_find?_iff]
  change _ ↔ (s.tree.find? id).isSome
  unfold MenuReport.ofSession?
  cases hn : s.tree.find? id with
  | none => exact .rfl
  | some n =>
    rw [Session.menu?_of_find? hn]
    exact .rfl

/-- The menu of a node is that of a session opened on the snapshot, if it has the node. -/
theorem menu_eq (config : Config) (r : MenuRequest) {clusters : List Snapshot.Cluster}
    (hr : Snapshot.ofValue "request body" r.clusters = .ok clusters) :
    let s : Session Float32 := ((Session.start defaultThreshold .standard .standard
      (r.current.or config.defaultCluster) .standard).apply clusters none).1
    menu config r =
      (MenuReport.ofSession? s r.nodeId).elim (.error (.unknownNode r.nodeId)) .ok := by
  simp only [menu, hr, Except.mapError, bind, Except.bind]
  cases MenuReport.ofSession? _ r.nodeId <;> rfl

/-- What a request for a menu comes to hangs on its snapshot, and on whether the tree built from it
has the node. -/
theorem menu_cases (config : Config) (r : MenuRequest) :
    (∀ f, menu config r = .error f → f.Occurs) ∧
      ((∃ report, menu config r = .ok report) ↔
        ∃ clusters, Snapshot.ofValue "request body" r.clusters = .ok clusters ∧
          r.nodeId ∈ (Tree.build defaultThreshold clusters
            (r.current.or config.defaultCluster)).root.descendants.map Node.id) := by
  cases hr : Snapshot.ofValue "request body" r.clusters with
  | ok clusters =>
    let s : Session Float32 := ((Session.start defaultThreshold .standard .standard
      (r.current.or config.defaultCluster) .standard).apply clusters none).1
    have htree : s.tree =
        Tree.build defaultThreshold clusters (r.current.or config.defaultCluster) :=
      (Session.displays_opened ..).tree
    have hfound := isSome_ofSession?_iff s r.nodeId
    rw [htree] at hfound
    have hmenu : menu config r =
        (MenuReport.ofSession? s r.nodeId).elim (.error (.unknownNode r.nodeId)) .ok :=
      menu_eq config r hr
    cases hreport : MenuReport.ofSession? s r.nodeId with
    | some report =>
      rw [hreport] at hmenu hfound
      refine ⟨fun f hf => ?_, iff_of_true ⟨report, hmenu⟩ ⟨clusters, rfl, hfound.mp rfl⟩⟩
      rw [hmenu] at hf
      cases hf
    | none =>
      rw [hreport] at hmenu hfound
      refine ⟨fun f hf => ?_, iff_of_false (by simp [hmenu]) ?_⟩
      · obtain rfl := Except.error.inj (hmenu.symm.trans hf)
        exact .unknownNode r.nodeId
      · rintro ⟨clusters', hclusters, hmem⟩
        obtain rfl := Except.ok.inj hclusters
        exact Bool.false_ne_true (hfound.mpr hmem)
  | error e =>
    obtain ⟨flaw, rfl⟩ := exists_flaw_of_ofValue hr
    have hmenu : menu config r = .error (.snapshot "menu" (.parse "request body" flaw)) := by
      rw [menu, hr]
      rfl
    refine ⟨fun f hf => ?_, iff_of_false (by simp [hmenu]) (by simp)⟩
    obtain rfl := Except.error.inj (hmenu.symm.trans hf)
    exact .snapshot (by decide) _ flaw

/-- **A request that is refused is refused as the fault of the client**, whatever its texts are.

* A request for a layout is answered with a report exactly if it holds a snapshot.
* A request for a menu is answered with a report exactly if it holds a snapshot and the tree built
  from it has a node with the identifier.
* Every other answer tells that the client is at fault, and tells all causes. -/
theorem answered_or_refused (config : Config) :
    (∀ r : RenderRequest,
      ((answerRender config r).status = 200 ↔
        ∃ clusters, Snapshot.ofValue "request body" r.clusters = .ok clusters) ∧
      ((answerRender config r).status = 200 ∨
        ∃ f, render config r = .error f ∧ answerRender config r = .refused f)) ∧
    ∀ r : MenuRequest,
      ((answerMenu config r).status = 200 ↔
        ∃ clusters, Snapshot.ofValue "request body" r.clusters = .ok clusters ∧
          r.nodeId ∈ (Tree.build defaultThreshold clusters
            (r.current.or config.defaultCluster)).root.descendants.map Node.id) ∧
      ((answerMenu config r).status = 200 ∨
        ∃ f, menu config r = .error f ∧ answerMenu config r = .refused f) := by
  refine ⟨fun r => ?_, fun r => ?_⟩
  · obtain ⟨hoccurs, hreport⟩ := render_cases config r
    rw [← hreport]
    exact answerWith_status RenderReport.toValue hoccurs
  · obtain ⟨hoccurs, hreport⟩ := menu_cases config r
    rw [← hreport]
    exact answerWith_status MenuReport.toValue hoccurs

end ClusterMap.Service
