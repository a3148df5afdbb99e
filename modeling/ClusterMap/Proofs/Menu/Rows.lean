import ClusterMap.Proofs.Layout.Rectangle
import ClusterMap.Proofs.Menu.Agreement
import ClusterMap.Proofs.Session.Mode
import ClusterMap.Snapshot.Sample
import Mathlib.Data.List.Induction
import Mathlib.Order.Monotone.Basic

/-!
# Rows of a menu

The lines of an open menu are laid down by a cursor that moves on by the height of each, while the
height of the panel is worked out from all of them at once. In exact arithmetic the two agree: the
row of a line begins where those before it end (`Menu.row`, `Menu.mem_hitRegions_lines_iff`), so
all rows lie in the panel, between one padding at the top and one at the bottom
(`Menu.row_within_panel`), and no two of them overlap (`Menu.eq_of_inside_row`).

What is pointed at inside a row is therefore the line of that row or, where that line cannot be
chosen, the panel (`Menu.resolves_draw`); what lies below the menu does not matter.
-/

namespace ClusterMap

/-- A point between the sides of a rectangle, and on none of them. -/
structure Bounds.Inside (b : Bounds Rat) (p : Point Rat) : Prop where
  left : b.minX < p.x
  right : p.x < b.maxX
  above : b.minY < p.y
  below : p.y < b.maxY

theorem Bounds.Inside.contains {b : Bounds Rat} {p : Point Rat} (h : b.Inside p) :
    b.contains p :=
  contains_iff.mpr ⟨⟨h.left.le, h.right.le⟩, h.above.le, h.below.le⟩

namespace Menu

/-! ### Heights -/

section Heights

variable {m : Menu} {i j : Nat} {e e' : MenuEntry}

theorem entryHeight_pos (e : MenuEntry) : 0 < (entryHeight e : Rat) := by
  cases e with
  | divider => change (0 : Rat) < 9; norm_num
  | item i =>
    rw [entryHeight]
    split
    · change (0 : Rat) < 28 + 14; norm_num
    · change (0 : Rat) < 28; norm_num

theorem entriesHeight_append_singleton (m : Menu) (e : MenuEntry) :
    (entriesHeight (m ++ [e]) : Rat) = entriesHeight m + entryHeight e := by
  rw [entriesHeight, List.foldl_append]
  rfl

theorem entriesHeight_cons (e : MenuEntry) (m : Menu) :
    (entriesHeight (e :: m) : Rat) = entryHeight e + entriesHeight m := by
  induction m using List.reverseRecOn with
  | nil => exact (zero_add _).trans (add_zero _).symm
  | append_singleton m x ih =>
    rw [← List.cons_append, entriesHeight_append_singleton, entriesHeight_append_singleton, ih,
      add_assoc]

/-- The lines up to one of them are as high as those before it and itself. -/
theorem entriesHeight_take_succ (h : m[i]? = some e) :
    (entriesHeight (m.take (i + 1)) : Rat) = entriesHeight (m.take i) + entryHeight e := by
  rw [List.take_add_one, h]
  exact entriesHeight_append_singleton ..

/-- More lines are not less high. -/
theorem entriesHeight_take_mono (m : Menu) :
    Monotone fun i => (entriesHeight (m.take i) : Rat) := by
  refine monotone_nat_of_le_succ fun i => ?_
  cases h : m[i]? with
  | some e =>
    rw [entriesHeight_take_succ h]
    exact le_add_of_nonneg_right (entryHeight_pos e).le
  | none =>
    -- there are no more lines
    have hlength : m.length ≤ i := List.getElem?_eq_none_iff.mp h
    rw [List.take_of_length_le hlength, List.take_of_length_le (hlength.trans i.le_succ)]

theorem entriesHeight_take_nonneg (m : Menu) (i : Nat) : 0 ≤ (entriesHeight (m.take i) : Rat) :=
  entriesHeight_take_mono m i.zero_le

theorem entriesHeight_take_le (m : Menu) (i : Nat) :
    (entriesHeight (m.take i) : Rat) ≤ entriesHeight m := by
  rcases le_total i m.length with hi | hi
  · calc (entriesHeight (m.take i) : Rat)
        ≤ entriesHeight (m.take m.length) := entriesHeight_take_mono m hi
      _ = entriesHeight m := by rw [List.take_length]
  · rw [List.take_of_length_le hi]

/-- The lines up to an earlier one end where a later one begins, or above. -/
theorem entriesHeight_take_add_le (h : m[i]? = some e) (hij : i < j) :
    (entriesHeight (m.take i) : Rat) + entryHeight e ≤ entriesHeight (m.take j) := by
  rw [← entriesHeight_take_succ h]
  exact entriesHeight_take_mono m hij

/-- A line with those before it is no higher than all lines. -/
theorem entriesHeight_take_add_le_all (h : m[i]? = some e) :
    (entriesHeight (m.take i) : Rat) + entryHeight e ≤ entriesHeight m := by
  rw [← entriesHeight_take_succ h]
  exact entriesHeight_take_le m (i + 1)

end Heights

/-! ### Rows -/

/-- The panel of a menu with its top left corner at a point. -/
def panel (origin : Point Rat) (m : Menu) : Bounds Rat := .ofSize origin (panelSize m)

/-- The row of the line at an index. -/
def row (origin : Point Rat) (m : Menu) (i : Nat) (e : MenuEntry) : Bounds Rat :=
  .ofSize ⟨origin.x, origin.y + padding + entriesHeight (m.take i)⟩ ⟨panelWidth, entryHeight e⟩

section Rows

variable {origin : Point Rat} {m : Menu} {i j : Nat} {e e' : MenuEntry} {p : Point Rat}

theorem panel_rat : panel origin m =
    ⟨origin.x, origin.y, origin.x + 180, origin.y + (entriesHeight m + 2 * 4)⟩ := rfl

theorem row_rat : row origin m i e = ⟨origin.x, origin.y + 4 + entriesHeight (m.take i),
    origin.x + 180, origin.y + 4 + entriesHeight (m.take i) + entryHeight e⟩ := rfl

/-- **Every row lies in the panel**, between the padding at the top and that at the bottom. -/
theorem row_within_panel (h : m[i]? = some e) : (row origin m i e).Within (panel origin m) := by
  have habove := entriesHeight_take_nonneg m i
  have hbelow := entriesHeight_take_add_le_all h
  rw [row_rat, panel_rat]
  constructor <;> dsimp only <;> linarith

/-- **Inside a row there is no other row.** -/
theorem eq_of_inside_row (hi : m[i]? = some e) (hj : m[j]? = some e')
    (hp : (row origin m i e).Inside p) (hp' : (row origin m j e').contains p) : i = j := by
  obtain ⟨-, -, habove, hbelow⟩ := hp
  obtain ⟨-, habove', hbelow'⟩ := Bounds.contains_iff.mp hp'
  rw [row_rat] at habove hbelow habove' hbelow'
  dsimp only at habove hbelow habove' hbelow'
  -- of two rows, the upper one ends where the lower one begins, or above
  rcases Nat.lt_trichotomy i j with hlt | heq | hlt
  · have horder := entriesHeight_take_add_le hi hlt
    exact absurd hbelow (by linarith)
  · exact heq
  · have horder := entriesHeight_take_add_le hj hlt
    exact absurd habove (by linarith)

/-- In the paddings there is no row. -/
theorem not_contains_row_of_padding (h : m[i]? = some e)
    (hp : p.y < origin.y + padding ∨ origin.y + padding + entriesHeight m < p.y) :
    ¬ (row origin m i e).contains p := by
  rw [Bounds.contains_iff, row_rat]
  rintro ⟨-, habove, hbelow⟩
  dsimp only at habove hbelow
  have htop := entriesHeight_take_nonneg m i
  have hbottom := entriesHeight_take_add_le_all h
  have hp : p.y < origin.y + 4 ∨ origin.y + 4 + entriesHeight m < p.y := hp
  rcases hp with hp | hp <;> linarith

end Rows

/-! ### Lines -/

section Lines

variable {theme : Theme Rat} {nodeId : String} {left : Rat} {m : Menu}

/-- **The cursor stands where the lines before it end.** -/
theorem lines_eq (theme : Theme Rat) (nodeId : String) (left : Rat) (m : Menu) (index : Nat)
    (cursor : Rat) : lines theme nodeId left index cursor m =
      ⟨(m.mapIdx fun i e =>
          entryCommands theme left (cursor + entriesHeight (m.take i)) (index + i) e).flatten,
        (m.mapIdx fun i e =>
          (entryRegion? nodeId left (cursor + entriesHeight (m.take i)) e).toList).flatten⟩ := by
  induction m generalizing index cursor with
  | nil => rfl
  | cons e rest ih =>
    -- for the rest, the cursor has moved on by the height of the first line
    have hfirst : cursor + entriesHeight ((e :: rest).take 0) = cursor := add_zero _
    have hrest : ∀ i, cursor + entriesHeight ((e :: rest).take (i + 1)) =
        cursor + entryHeight e + entriesHeight (rest.take i) := by
      intro i
      rw [List.take_succ_cons, entriesHeight_cons, add_assoc]
    have hindex : ∀ i, index + 1 + i = index + (i + 1) := fun i => by omega
    rw [lines, ih, List.mapIdx_cons, List.mapIdx_cons, List.flatten_cons, List.flatten_cons]
    simp only [hfirst, hrest, hindex, Nat.add_zero]

/-- **What can be pointed at in the lines are the rows of those that can be chosen.** -/
theorem mem_hitRegions_lines_iff {origin : Point Rat} {r : HitRegion Rat} :
    r ∈ (lines theme nodeId origin.x 0 (origin.y + padding) m).hitRegions ↔
      ∃ i item, m[i]? = some (.item item) ∧ item.enabled ∧
        r = ⟨.menuItem nodeId item.action, row origin m i (.item item)⟩ := by
  rw [lines_eq]
  simp only [List.mem_flatten, List.mem_mapIdx]
  constructor
  · rintro ⟨_, ⟨i, hi, rfl⟩, hr⟩
    cases he : m[i] with
    | divider =>
      rw [he] at hr
      exact absurd hr List.not_mem_nil
    | item item =>
      rw [he, entryRegion?] at hr
      split at hr
      next henabled =>
        obtain rfl := List.mem_singleton.mp hr
        exact ⟨i, item, List.getElem?_eq_some_iff.mpr ⟨hi, he⟩, henabled, rfl⟩
      next => exact absurd hr List.not_mem_nil
  · rintro ⟨i, item, he, henabled, rfl⟩
    obtain ⟨hi, he⟩ := List.getElem?_eq_some_iff.mp he
    refine ⟨_, ⟨i, hi, rfl⟩, ?_⟩
    rw [he, entryRegion?, if_pos henabled]
    exact List.mem_singleton.mpr rfl

end Lines

/-! ### Pointing at a menu -/

end Menu

/-- What is pointed at in the row of a line. -/
def MenuEntry.target (nodeId : String) : MenuEntry → HitTarget
  | .item i => if i.enabled then .menuItem nodeId i.action else .menuPanel nodeId
  | .divider => .menuPanel nodeId

theorem MenuEntry.target_of_disabled {e : MenuEntry} (nodeId : String)
    (h : ∀ item, e = .item item → ¬ item.enabled) : e.target nodeId = .menuPanel nodeId := by
  cases e with
  | divider => rfl
  | item item => exact if_neg (h item rfl)

namespace Menu

/-- The points of a menu with its top left corner at a point resolve to what is shown there. -/
structure Resolves (regions : List (HitRegion Rat)) (nodeId : String) (origin : Point Rat)
    (m : Menu) : Prop where
  panel : ∀ p, (panel origin m).contains p → hitTest regions p = some (.menuPanel nodeId) ∨
    ∃ item, .item item ∈ m ∧ item.enabled ∧
      hitTest regions p = some (.menuItem nodeId item.action)
  row : ∀ i e p, m[i]? = some e → (row origin m i e).Inside p →
    hitTest regions p = some (e.target nodeId)
  padding : ∀ p, (Menu.panel origin m).contains p →
    p.y < origin.y + padding ∨ origin.y + padding + entriesHeight m < p.y →
      hitTest regions p = some (.menuPanel nodeId)

/-- **A menu resolves**, whatever lies below it. -/
theorem resolves_draw (below : List (HitRegion Rat)) (theme : Theme Rat) (nodeId : String)
    (m : Menu) (anchor : Point Rat) (v : Viewport Rat) :
    Resolves (below ++ (draw theme nodeId m anchor v).hitRegions) nodeId
      (placePanel anchor (panelSize m) v) m := by
  let origin := placePanel anchor (panelSize m) v
  let rows := (lines theme nodeId origin.x 0 (origin.y + Menu.padding) m).hitRegions
  have hregions : (draw theme nodeId m anchor v).hitRegions =
      [⟨.menuPanel nodeId, Menu.panel origin m⟩] ++ rows := rfl
  -- the panel covers what is below, and is covered by the rows
  have hpanel : ∀ p, (Menu.panel origin m).contains p →
      hitTest (below ++ (draw theme nodeId m anchor v).hitRegions) p =
        some ((hitTest rows p).getD (.menuPanel nodeId)) := by
    intro p hp
    have hself : hitTest [⟨.menuPanel nodeId, Menu.panel origin m⟩] p = some (.menuPanel nodeId) :=
      hitTest_eq_of_forall (fun r hr _ => by rw [List.mem_singleton.mp hr])
        ⟨_, List.mem_singleton_self _, hp⟩
    rw [hregions, hitTest_append, hitTest_append, hself]
    cases hitTest rows p <;> rfl
  have hrow : ∀ i e p, m[i]? = some e → (Menu.row origin m i e).Inside p →
      (Menu.panel origin m).contains p :=
    fun i e p he hp => (row_within_panel he).contains hp.contains
  refine ⟨fun p hp => ?_, fun i e p he hp => ?_, fun p hp hpadding => ?_⟩
  · rw [hpanel p hp]
    cases hit : hitTest rows p with
    | none => exact Or.inl rfl
    | some t =>
      obtain ⟨r, hr, -, rfl⟩ := exists_of_hitTest hit
      obtain ⟨i, item, he, henabled, rfl⟩ := mem_hitRegions_lines_iff.mp hr
      exact Or.inr ⟨item, List.mem_of_getElem? he, henabled, rfl⟩
  · rw [hpanel p (hrow i e p he hp)]
    -- of all rows, only this one can have an area at the point
    have honly : ∀ r ∈ rows, r.bounds.contains p →
        ∃ item, e = .item item ∧ item.enabled ∧ r.target = .menuItem nodeId item.action := by
      intro r hr hcontains
      obtain ⟨j, item, hj, henabled, rfl⟩ := mem_hitRegions_lines_iff.mp hr
      obtain rfl := eq_of_inside_row he hj hp hcontains
      exact ⟨item, Option.some.inj (he.symm.trans hj), henabled, rfl⟩
    by_cases hchosen : ∃ item, e = .item item ∧ item.enabled
    · obtain ⟨item, rfl, henabled⟩ := hchosen
      have hsome : hitTest rows p = some (.menuItem nodeId item.action) := by
        refine hitTest_eq_of_forall (fun r hr hcontains => ?_)
          ⟨_, mem_hitRegions_lines_iff.mpr ⟨i, item, he, henabled, rfl⟩, hp.contains⟩
        obtain ⟨item', heq, -, htarget⟩ := honly r hr hcontains
        obtain rfl := MenuEntry.item.inj heq
        exact htarget
      rw [hsome, MenuEntry.target, if_pos henabled]
      rfl
    · have hnone : hitTest rows p = none := by
        refine hitTest_eq_none_iff.mpr fun r hr hcontains => ?_
        obtain ⟨item, heq, henabled, -⟩ := honly r hr hcontains
        exact hchosen ⟨item, heq, henabled⟩
      rw [hnone, MenuEntry.target_of_disabled _ fun item heq h => hchosen ⟨item, heq, h⟩]
      rfl
  · have hnone : hitTest rows p = none := by
      refine hitTest_eq_none_iff.mpr fun r hr => ?_
      obtain ⟨i, item, he, -, rfl⟩ := mem_hitRegions_lines_iff.mp hr
      exact not_contains_row_of_padding he hpadding
    rw [hpanel p hp, hnone]
    rfl

end Menu

/-! ### Rows on the screen -/

/-- A panel that fits into a viewport is placed inside it. -/
theorem within_screen_placePanel {size : Size Rat} {v : Viewport Rat} (hw : size.width ≤ v.width)
    (hh : size.height ≤ v.height) (anchor : Point Rat) :
    (Bounds.ofSize (placePanel anchor size v) size).Within v.screen := by
  -- on each axis, what is left of the viewport beside the panel is where the panel may begin
  have haxis : ∀ x d extent : Rat, d ≤ extent →
      0 ≤ Scalar.clamp 0 (Scalar.max (extent - d) 0) x ∧
        Scalar.clamp 0 (Scalar.max (extent - d) 0) x + d ≤ extent := by
    intro x d extent hd
    have hroom : Scalar.max (extent - d) 0 = extent - d := by
      rw [Scalar.max_rat]
      exact max_eq_left (sub_nonneg.mpr hd)
    rw [hroom]
    obtain ⟨hlow, hhigh⟩ := Scalar.clamp_rat_mem (sub_nonneg.mpr hd) x
    exact ⟨hlow, by linarith⟩
  obtain ⟨hleft, hright⟩ := haxis _ size.width v.width hw
  obtain ⟨habove, hbelow⟩ := haxis _ size.height v.height hh
  exact ⟨hleft, hright, habove, hbelow⟩

/-! ### Clicking into a menu -/

namespace Session

variable {s : Session Rat} {p : Point Rat} {id : String}

/-- A click on a panel beside what can be chosen does nothing but work the areas out. -/
theorem clicked_of_menuPanel (hfresh : s.Fresh)
    (hit : hitTest s.currentRegions p = some (.menuPanel id)) :
    s.clicked p = ({ s with regions := some s.freshRegions }, []) := by
  have hhit : hitTest s.withRegions.currentRegions p = some (.menuPanel id) := hit
  unfold clicked
  dsimp only
  rw [hhit, withRegions, hfresh.currentRegions_eq]

/-- A click on an action closes the menu and plans the action. -/
theorem clicked_of_menuItem {a : Action}
    (hit : hitTest s.currentRegions p = some (.menuItem id a)) :
    (s.clicked p).1 = s.setMode .idle ∧
      (s.planFor id a = .ignore → (s.clicked p).2 = [.redraw]) ∧
      (s.planFor id a ≠ .ignore → (s.clicked p).2 = [.redraw, .dispatch (s.planFor id a)]) := by
  have hhit : hitTest s.withRegions.currentRegions p = some (.menuItem id a) := hit
  have hplan : s.withRegions.planFor id a = s.planFor id a := rfl
  unfold clicked
  dsimp only
  rw [hhit, ← hplan]
  dsimp only
  refine ⟨rfl, fun hignore => ?_, fun hignore => ?_⟩
  · rw [hignore]
  · split
    next h => exact absurd h hignore
    next => rfl

/-- An open menu of a reachable session resolves. -/
theorem resolves_of_menuOpen (hs : s.Reachable) {anchor : Point Rat}
    (hmode : s.view.mode = .menuOpen id anchor) : ∃ n, s.tree.find? id = some n ∧
      let m := Menu.ofNode n (s.tree.isCurrent id)
      Menu.Resolves s.currentRegions id (placePanel anchor (Menu.panelSize m) s.view.viewport)
        m := by
  have hgrounded : s.Grounded := grounded_invariant.of_reachable grounded_start hs
  -- the menu is about a visible node, so there is a node for it
  have hvisible : id ∈ s.tree.root.visibleIds := hgrounded.visible id (by rw [hmode]; rfl)
  obtain ⟨n, hn⟩ := Node.exists_find?_of_visible hvisible
  refine ⟨n, hn, ?_⟩
  have hoverlay := Artist.overlay_of_menuOpen (a := s.artist) (s := s.scene) hmode hn
  rw [hgrounded.fresh.currentRegions_eq, freshRegions, Artist.hitRegions, hoverlay]
  exact Menu.resolves_draw ..

end Session

namespace Menu

/-- **The rows of a menu resolve to themselves.** Whatever areas lie below a menu, at its points
nothing else is pointed at than its panel and what can be chosen in it: inside the row of a line
that line, if it can be chosen, and otherwise the panel. In a viewport that is large enough all of
it is on the screen.

So in a reachable session with an open menu, a click inside a row that cannot be chosen, or above
the first row or below the last, changes nothing but that the areas have been worked out, and has no
effect; a click inside a row that can be chosen closes the menu and plans the action of that row. -/
theorem rows_resolve :
    (∀ (below : List (HitRegion Rat)) (theme : Theme Rat) (id : String) (m : Menu)
      (anchor : Point Rat) (v : Viewport Rat),
      let origin := placePanel anchor (panelSize m) v
      Resolves (below ++ (draw theme id m anchor v).hitRegions) id origin m ∧
        ((panelSize m).width ≤ v.width → (panelSize m).height ≤ v.height →
          (panel origin m).Within v.screen ∧
            ∀ i e, m[i]? = some e → (row origin m i e).Within v.screen)) ∧
    ∀ (s : Session Rat), s.Reachable → ∀ id anchor, s.view.mode = .menuOpen id anchor →
      ∃ n, s.tree.find? id = some n ∧
        let m := ofNode n (s.tree.isCurrent id)
        let origin := placePanel anchor (panelSize m) s.view.viewport
        (∀ i e p, m[i]? = some e → (∀ item, e = .item item → ¬ item.enabled) →
          (row origin m i e).Inside p →
            s.clicked p = ({ s with regions := some s.freshRegions }, [])) ∧
        (∀ p, (panel origin m).contains p →
          p.y < origin.y + padding ∨ origin.y + padding + entriesHeight m < p.y →
            s.clicked p = ({ s with regions := some s.freshRegions }, [])) ∧
        ∀ i item p, m[i]? = some (.item item) → item.enabled →
          (row origin m i (.item item)).Inside p →
            let plan := Plan.of item.action n s.tree
            (s.clicked p).1 = s.setMode .idle ∧
              (plan = .ignore → (s.clicked p).2 = [.redraw]) ∧
              (plan ≠ .ignore → (s.clicked p).2 = [.redraw, .dispatch plan]) := by
  constructor
  · intro below theme id m anchor v origin
    refine ⟨resolves_draw .., fun hw hh => ?_⟩
    have hpanel : (panel origin m).Within v.screen := within_screen_placePanel hw hh anchor
    exact ⟨hpanel, fun i e he => (row_within_panel he).trans hpanel⟩
  · intro s hs id anchor hmode
    have hfresh : s.Fresh := Session.fresh_invariant.of_reachable Session.fresh_start hs
    obtain ⟨n, hn, hresolves⟩ := Session.resolves_of_menuOpen hs hmode
    refine ⟨n, hn, fun i e p he hdisabled hp => ?_, fun p hp hpadding => ?_,
      fun i item p he henabled hp => ?_⟩
    · have hit := hresolves.row i e p he hp
      rw [e.target_of_disabled id hdisabled] at hit
      exact Session.clicked_of_menuPanel hfresh hit
    · exact Session.clicked_of_menuPanel hfresh (hresolves.padding p hp hpadding)
    · have hit := hresolves.row i (.item item) p he hp
      have htarget : MenuEntry.target id (.item item) = .menuItem id item.action := if_pos henabled
      have hplan : s.planFor id item.action = Plan.of item.action n s.tree := by
        rw [Session.planFor, hn]
      rw [htarget] at hit
      rw [← hplan]
      exact Session.clicked_of_menuItem hit

/-- The menu of a standby cluster is open. Its first line is disabled and says why, the fourth is a
divider, and the second can be chosen. -/
theorem rows_resolve_standby :
    let s : Session Rat := (Session.start 9 .standard .standard (some "c1") .standard).run
      [.apply [Snapshot.Sample.cluster "c1" [1] .standby] (some 1), .handle (.clicked ⟨704, 104⟩)]
    let s' := { s with regions := some s.freshRegions }
    s.view.mode = .menuOpen "c1" ⟨704, 104⟩ ∧ s.clicked ⟨800, 106⟩ = (s', []) ∧
      s.clicked ⟨800, 149⟩ = (s', []) ∧ s.clicked ⟨800, 210⟩ = (s', []) ∧
      (s.clicked ⟨800, 151⟩).1 = s.setMode .idle ∧
      ∃ plan, plan ≠ .ignore ∧ (s.clicked ⟨800, 151⟩).2 = [.redraw, .dispatch plan] := by
  intro s s'
  have hs : s.Reachable := ⟨9, .standard, .standard, some "c1", .standard, _, rfl⟩
  have hmode : s.view.mode = .menuOpen "c1" ⟨704, 104⟩ := by decide +kernel
  obtain ⟨n, hn, hdisabled, hpadding, hchosen⟩ := rows_resolve.2 s hs _ _ hmode
  have hmenu : (s.tree.find? "c1").map (fun n => ofNode n (s.tree.isCurrent "c1")) =
      some (ofRunningCluster false false) := by decide +kernel
  have hviewport : s.view.viewport = .standard := by decide +kernel
  rw [hn] at hmenu
  have hm := Option.some.inj hmenu
  dsimp only at hm
  rw [hm, hviewport] at hdisabled hpadding hchosen
  have hplan : (s.planFor "c1" .addZone).request?.isSome := by decide +kernel
  have hplan := Plan.ne_ignore_of_request? hplan
  rw [Session.planFor, hn] at hplan
  obtain ⟨hidle, -, hdispatch⟩ := hchosen 1 (.offer .addZone) ⟨800, 151⟩ rfl rfl
    (by constructor <;> decide +kernel)
  refine ⟨hmode, hpadding _ (by decide +kernel) (Or.inl (by decide +kernel)),
    hdisabled 0 _ _ rfl ?_ (by constructor <;> decide +kernel),
    hdisabled 3 _ _ rfl (fun _ => nofun) (by constructor <;> decide +kernel), hidle, _, hplan,
    hdispatch hplan⟩
  intro item hitem
  rw [← MenuEntry.item.inj hitem]
  decide

end Menu

end ClusterMap
