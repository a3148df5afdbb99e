import ClusterMap.Proofs.Session.Collapse
import ClusterMap.Snapshot.Sample
import Mathlib.Data.List.Nodup

/-!
# Deliveries in any order

Snapshots come with revisions, and not always in the order of these. A session takes over what is
newer than everything before it and ignores the rest, so after any deliveries it shows the newest of
them (`newest?`), whatever else was asked of it in between (`Session.ShowsNewest`).

The newest delivery is a function of all deliveries and not of a session. That a session shows it
follows from what one more delivery does to it (`newest?_append_singleton`), and that their order
does not matter from its being the only one with its revision (`newest?_eq_of_perm`).
-/

namespace ClusterMap

/-- A snapshot with its revision. -/
structure Delivery where
  clusters : List Snapshot.Cluster
  revision : Nat

/-- No delivery has a higher revision. -/
def Delivery.tops (d : Delivery) (ds : List Delivery) : Bool :=
  ds.all fun e => decide (e.revision ≤ d.revision)

/-- The first of the deliveries with the highest revision. -/
def newest? (ds : List Delivery) : Option Delivery := ds.find? (·.tops ds)

/-! ### The newest delivery -/

theorem Delivery.tops_iff {d : Delivery} {ds : List Delivery} :
    d.tops ds ↔ ∀ e ∈ ds, e.revision ≤ d.revision := by
  simp [tops]

theorem newest?_spec {ds : List Delivery} {d : Delivery} (h : newest? ds = some d) :
    d ∈ ds ∧ ∀ e ∈ ds, e.revision ≤ d.revision := by
  have htops : d.tops ds := List.find?_some (p := fun d => Delivery.tops d ds) h
  exact ⟨List.mem_of_find?_eq_some h, Delivery.tops_iff.mp htops⟩

/-- Of some deliveries one is the newest. -/
theorem exists_newest {ds : List Delivery} (h : ds ≠ []) : ∃ d, newest? ds = some d := by
  -- the highest revision is that of a delivery
  have hne : ds.map Delivery.revision ≠ [] := fun hmap => h (List.map_eq_nil_iff.mp hmap)
  obtain ⟨m, hm⟩ := Option.isSome_iff_exists.mp (List.isSome_max?_of_ne_nil hne)
  obtain ⟨hmem, hle⟩ := List.max?_eq_some_iff.mp hm
  obtain ⟨d, hd, rfl⟩ := List.mem_map.mp hmem
  have htops : d.tops ds := Delivery.tops_iff.mpr fun e he =>
    hle e.revision (List.mem_map_of_mem he)
  exact Option.isSome_iff_exists.mp (List.find?_isSome.mpr ⟨d, hd, htops⟩)

/-- The revision of the newest delivery is the highest. -/
theorem map_revision_newest? (ds : List Delivery) :
    (newest? ds).map Delivery.revision = (ds.map Delivery.revision).max? := by
  by_cases hempty : ds = []
  · subst hempty
    rfl
  · obtain ⟨d, hd⟩ := exists_newest hempty
    obtain ⟨hmem, hle⟩ := newest?_spec hd
    rw [hd, eq_comm]
    refine List.max?_eq_some_iff.mpr ⟨List.mem_map_of_mem hmem, fun r hr => ?_⟩
    obtain ⟨e, he, rfl⟩ := List.mem_map.mp hr
    exact hle e he

/-- **One more delivery** is the newest if it is newer than all before it. -/
theorem newest?_append_singleton (ds : List Delivery) (d : Delivery) :
    newest? (ds ++ [d]) =
      if ∀ e ∈ ds, e.revision < d.revision then some d else newest? ds := by
  have hmem : d ∈ ds ++ [d] := List.mem_append_right ds List.mem_cons_self
  unfold newest?
  rw [List.find?_append]
  split
  next hnewer =>
    -- none of those before reaches its revision
    have hbefore : ds.find? (·.tops (ds ++ [d])) = none := by
      refine List.find?_eq_none.mpr fun e he htops => ?_
      have hle : d.revision ≤ e.revision := Delivery.tops_iff.mp htops d hmem
      exact absurd (hnewer e he) (Nat.not_lt.mpr hle)
    have htops : d.tops (ds ++ [d]) := by
      refine Delivery.tops_iff.mpr fun e he => ?_
      rcases List.mem_append.mp he with he | he
      · exact Nat.le_of_lt (hnewer e he)
      · obtain rfl := List.mem_singleton.mp he
        exact Nat.le_refl _
    rw [hbefore, Option.none_or]
    exact List.find?_cons_of_pos (p := fun e => Delivery.tops e (ds ++ [d])) htops
  next hstale =>
    -- one of those before reaches it, and whoever is as high as all of them is as high as this one
    obtain ⟨e₀, he₀, hle₀⟩ : ∃ e ∈ ds, d.revision ≤ e.revision := by simpa using hstale
    have hsame : ∀ e : Delivery, e.tops (ds ++ [d]) = e.tops ds := by
      intro e
      rw [Bool.eq_iff_iff, Delivery.tops_iff, Delivery.tops_iff]
      refine ⟨fun h e' he' => h e' (List.mem_append_left [d] he'), fun h e' he' => ?_⟩
      rcases List.mem_append.mp he' with he' | he'
      · exact h e' he'
      · obtain rfl := List.mem_singleton.mp he'
        exact Nat.le_trans hle₀ (h e₀ he₀)
    obtain ⟨newest, hnewest⟩ := exists_newest (List.ne_nil_of_mem he₀)
    unfold newest? at hnewest
    rw [funext hsame, hnewest, Option.some_or]

/-- **The order does not matter** where no two deliveries have the same revision. -/
theorem newest?_eq_of_perm {ds ds' : List Delivery} (hperm : ds'.Perm ds)
    (hdistinct : (ds.map Delivery.revision).Nodup) : newest? ds' = newest? ds := by
  by_cases hempty : ds = []
  · subst hempty
    rw [List.perm_nil.mp hperm]
  · obtain ⟨d, hd⟩ := exists_newest hempty
    obtain ⟨d', hd'⟩ := exists_newest fun h => hempty (List.nil_perm.mp (h ▸ hperm))
    obtain ⟨hmem, hmax⟩ := newest?_spec hd
    obtain ⟨hmem', hmax'⟩ := newest?_spec hd'
    -- each is as high as the other, and so they are the same
    have hrevision : d'.revision = d.revision :=
      Nat.le_antisymm (hmax d' (hperm.mem_iff.mp hmem')) (hmax' d (hperm.mem_iff.mpr hmem))
    rw [hd, hd', List.inj_on_of_nodup_map hdistinct (hperm.mem_iff.mp hmem') hmem hrevision]

/-! ### What is delivered in a run -/

/-- What a call delivers, if it delivers a snapshot with a revision. -/
def Call.delivery? {α : Type} : Call α → Option Delivery
  | .apply clusters (some revision) => some ⟨clusters, revision⟩
  | _ => none

/-- What is delivered in a run, first things first. -/
def deliveries {α : Type} (calls : List (Call α)) : List Delivery := calls.filterMap Call.delivery?

/-- Every snapshot that is delivered has a revision. -/
def Numbered {α : Type} (calls : List (Call α)) : Prop := ∀ clusters, .apply clusters none ∉ calls

namespace Session

variable {α : Type} [Scalar α]

theorem revision_of_change {s s' : Session α} (hc : Change s s') : s'.revision = s.revision := by
  cases hc with
  | expand s₁ p hexp =>
    obtain ⟨tree, collapsed, rfl, -⟩ := exists_of_expands hexp
    rfl
  | _ => rfl

/-- Only a snapshot that is taken over changes the revision. -/
theorem revision_step {s : Session α} {c : Call α} (h : ¬ s.TakesOver c) :
    (s.step c).revision = s.revision := by
  by_cases hopen : s.Opens c
  · obtain ⟨p, id, rfl, hid⟩ := exists_of_opens hopen
    rw [step_of_opens s hid]
    rfl
  · have hchanges : Changes s (s.step c) := step_changes s h hopen
    generalize s.step c = s' at hchanges ⊢
    induction hchanges with
    | refl => rfl
    | tail _ hc ih => exact (revision_of_change hc).trans ih

/-- A session shows the newest of some deliveries and knows its revision; without any, it shows the
empty snapshot. -/
structure ShowsNewest (ds : List Delivery) (s : Session α) : Prop where
  revision : s.revision = (newest? ds).map Delivery.revision
  shows : s.Shows ((newest? ds).elim [] Delivery.clusters)

namespace ShowsNewest

variable {s : Session α} {ds : List Delivery}

omit [Scalar α] in
/-- A revision is taken for new if it is above all that were delivered. -/
theorem isNewer_iff (h : s.ShowsNewest ds) (r : Nat) :
    s.isNewer (some r) ↔ ∀ d ∈ ds, d.revision < r := by
  unfold isNewer
  rw [h.revision]
  by_cases hempty : ds = []
  · subst hempty
    exact iff_of_true rfl fun d hd => absurd hd List.not_mem_nil
  · obtain ⟨newest, hnewest⟩ := exists_newest hempty
    obtain ⟨hmem, hle⟩ := newest?_spec hnewest
    rw [hnewest]
    change decide (newest.revision < r) = true ↔ _
    rw [decide_eq_true_eq]
    constructor
    · exact fun hlt d hd => Nat.lt_of_le_of_lt (hle d hd) hlt
    · exact fun hall => hall newest hmem

/-- One more delivery is taken over, or it is stale and there is a newer one already. -/
theorem deliver (h : s.ShowsNewest ds) (clusters : List Snapshot.Cluster) (r : Nat) :
    ShowsNewest (ds ++ [⟨clusters, r⟩]) (s.step (.apply clusters (some r))) := by
  by_cases hnew : s.isNewer (some r)
  · have habove : ∀ d ∈ ds, d.revision < r := (h.isNewer_iff r).mp hnew
    have hrevision : (s.step (.apply clusters (some r))).revision = some r := by
      obtain ⟨mode, -, heq⟩ := apply_eq s clusters hnew rfl
      rw [Session.step, heq]
      rfl
    refine ⟨?_, ?_⟩
    · rw [newest?_append_singleton, if_pos habove]
      exact hrevision
    · rw [newest?_append_singleton, if_pos habove]
      exact shows_apply hnew
  · have hbelow : ¬ ∀ d ∈ ds, d.revision < r := fun habove => hnew ((h.isNewer_iff r).mpr habove)
    have hstale : s.step (.apply clusters (some r)) = s :=
      congrArg Prod.fst (apply_of_stale s hnew)
    rw [hstale]
    refine ⟨?_, ?_⟩
    · rw [newest?_append_singleton, if_neg hbelow]
      exact h.revision
    · rw [newest?_append_singleton, if_neg hbelow]
      exact h.shows

/-- Calls that deliver nothing keep what is shown. -/
theorem stay (h : s.ShowsNewest ds) {c : Call α} (hc : ¬ s.TakesOver c) :
    ShowsNewest ds (s.step c) :=
  ⟨(revision_step hc).trans h.revision, h.shows.flips (sameSettings_step s c) (flips_step s hc)⟩

/-- **A call** adds what it delivers. -/
theorem step (h : s.ShowsNewest ds) {c : Call α} (hc : ∀ clusters, c ≠ .apply clusters none) :
    ShowsNewest (ds ++ c.delivery?.toList) (s.step c) := by
  cases c with
  | apply clusters revision =>
    cases revision with
    | none => exact absurd rfl (hc clusters)
    | some r => exact h.deliver clusters r
  | _ =>
    change ShowsNewest (ds ++ []) _
    rw [List.append_nil]
    exact h.stay nofun

/-- **A run** adds what is delivered in it. -/
theorem run (h : s.ShowsNewest ds) {calls : List (Call α)} (hcalls : Numbered calls) :
    ShowsNewest (ds ++ deliveries calls) (s.run calls) := by
  induction calls generalizing s ds with
  | nil =>
    change ShowsNewest (ds ++ []) s
    rwa [List.append_nil]
  | cons c rest ih =>
    have hstep := h.step fun clusters hc => hcalls clusters (hc ▸ List.mem_cons_self)
    have hrest : Numbered rest := fun clusters hmem =>
      hcalls clusters (List.mem_cons_of_mem c hmem)
    have hsplit : deliveries (c :: rest) = c.delivery?.toList ++ deliveries rest := by
      unfold deliveries
      rw [List.filterMap_cons]
      cases c.delivery? <;> rfl
    rw [hsplit, ← List.append_assoc]
    exact ih hstep hrest

end ShowsNewest

/-- A new session has been delivered nothing. -/
theorem showsNewest_start (threshold : Nat) (config : LayoutConfig α) (artist : Artist α)
    (requested : Option String) (viewport : Viewport α) :
    (Session.start threshold config artist requested viewport).ShowsNewest [] :=
  ⟨rfl, rfl⟩

/-- **The newest revision wins, whatever the order of delivery.** Let snapshots be delivered with
their revisions to a new session, in any order and with anything else asked of it in between. A
further delivery is taken over exactly if its revision is above all that were delivered, and changes
nothing at all otherwise. The revision that the session knows is the highest of all, and up to its
flags the tree is built from the first snapshot that was delivered with it. So deliveries without a
revision in common lead to the same tree, up to its flags, in any order. -/
theorem newest_revision_wins (threshold : Nat) (config : LayoutConfig α) (artist : Artist α)
    (requested : Option String) (viewport : Viewport α) (calls : List (Call α))
    (hcalls : Numbered calls) :
    let new := Session.start threshold config artist requested viewport
    let s := new.run calls
    let ds := deliveries calls
    (∀ clusters r,
      ((s.apply clusters (some r)).2 = true ↔ ∀ d ∈ ds, d.revision < r) ∧
      ((s.apply clusters (some r)).2 = false → (s.apply clusters (some r)).1 = s)) ∧
    s.revision = (ds.map Delivery.revision).max? ∧
    (ds ≠ [] → ∃ d, newest? ds = some d ∧
      s.tree.unflagged = (Tree.build threshold d.clusters requested).unflagged) ∧
    ∀ calls', Numbered calls' → (deliveries calls').Perm ds →
      (ds.map Delivery.revision).Nodup →
      (new.run calls').tree.unflagged = s.tree.unflagged := by
  intro new s ds
  have hnew : new.ShowsNewest [] := showsNewest_start threshold config artist requested viewport
  have hs : s.ShowsNewest ds := hnew.run hcalls
  -- what a run shows, said with the settings of the new session
  have hshown : ∀ calls, Numbered calls → (new.run calls).tree.unflagged =
      (Tree.build threshold ((newest? (deliveries calls)).elim [] Delivery.clusters)
        requested).unflagged := by
    intro calls hcalls
    have hsame : SameSettings new (new.run calls) := sameSettings_run new calls
    have hshows := (hnew.run hcalls).shows
    unfold Shows at hshows
    rw [hsame.threshold, hsame.requested] at hshows
    exact hshows
  refine ⟨fun clusters r => ⟨?_, fun hfalse => ?_⟩,
    hs.revision.trans (map_revision_newest? ds), fun hsome => ?_, ?_⟩
  · rw [← hs.isNewer_iff r]
    unfold apply
    split
    next htaken => exact iff_of_true rfl htaken
    next hstale => exact iff_of_false Bool.false_ne_true hstale
  · have hstale : ¬ s.isNewer (some r) := fun htaken => by
      rw [apply, if_pos htaken] at hfalse
      cases hfalse
    exact congrArg Prod.fst (apply_of_stale _ hstale)
  · obtain ⟨d, hd⟩ := exists_newest hsome
    refine ⟨d, hd, (hshown calls hcalls).trans ?_⟩
    change (Tree.build threshold ((newest? ds).elim [] Delivery.clusters) requested).unflagged = _
    rw [hd]
    rfl
  · intro calls' hcalls' hperm hdistinct
    rw [hshown calls' hcalls', hshown calls hcalls, newest?_eq_of_perm hperm hdistinct]

/-- Three snapshots in one order, with a zone collapsed in between, and in the order from back to
front. -/
theorem newest_revision_wins_reversed :
    let new : Session Rat := Session.start 9 .standard .standard (some "c1") .standard
    let clusters (zones : List Nat) := [Snapshot.Sample.cluster "c1" zones .primary]
    let calls : List (Call Rat) := [.apply (clusters [2]) (some 1), .toggle "zone1",
      .apply (clusters [2, 1]) (some 3), .render, .apply (clusters [2, 3]) (some 2)]
    let calls' : List (Call Rat) := [.apply (clusters [2, 3]) (some 2),
      .apply (clusters [2, 1]) (some 3), .focus "zone2", .apply (clusters [2]) (some 1)]
    Numbered calls ∧ Numbered calls' ∧ ((deliveries calls).map Delivery.revision).Nodup ∧
      (new.run calls).revision = some 3 ∧
      ((new.run calls).apply (clusters [4]) (some 3)).1 = new.run calls ∧
      ((new.run calls).apply (clusters [4]) (some 4)).2 = true ∧
      (new.run calls).tree.unflagged =
        (Tree.build 9 (clusters [2, 1]) (some "c1")).unflagged ∧
      (new.run calls').tree.unflagged = (new.run calls).tree.unflagged := by
  intro new clusters calls calls'
  have hcalls : Numbered calls := fun _ h => by simp [calls] at h
  have hcalls' : Numbered calls' := fun _ h => by simp [calls'] at h
  have hdistinct : ((deliveries calls).map Delivery.revision).Nodup := by decide
  have hperm : (deliveries calls').Perm (deliveries calls) :=
    List.reverse_perm (deliveries calls)
  obtain ⟨htaken, hrevision, hnewest, horder⟩ :=
    newest_revision_wins 9 .standard .standard (some "c1") .standard calls hcalls
  obtain ⟨hfresh, -⟩ := htaken (clusters [4]) 4
  obtain ⟨hstale, hsame⟩ := htaken (clusters [4]) 3
  have hfalse : ((new.run calls).apply (clusters [4]) (some 3)).2 = false :=
    Bool.eq_false_iff.mpr fun h => absurd (hstale.mp h) (by decide)
  obtain ⟨d, hd, htree⟩ := hnewest (List.cons_ne_nil _ _)
  obtain rfl : (⟨clusters [2, 1], 3⟩ : Delivery) = d := Option.some.inj hd
  exact ⟨hcalls, hcalls', hdistinct, hrevision, hsame hfalse, hfresh.mpr (by decide), htree,
    horder calls' hcalls' hperm hdistinct⟩

end Session

end ClusterMap
