import ClusterMap.Proofs.Viewer.Forward
import Mathlib.Data.List.DropRight

/-!
# What is left of the messages

Messages are shown for a while and only so many at a time, and what is not shown any more is
forgotten. Nothing is lost by this that would be wanted later: old messages come before young ones,
so that those which are dropped, for their age or for their number, are never among the newest young
ones at a later time (`Notice.expire_expire`).

The invariant is `Notice.Recalls`: the messages that are left come to the same as all messages there
ever were, at any later time. It is kept by every message that is shown, by every pass that drops
some, and by the clock.
-/

namespace ClusterMap

namespace Viewer

namespace Notice

/-! ### The newest members of a list -/

section Newest

variable {α : Type} {old young : List α} {n : Nat}

theorem rtake_append (old young : List α) (n : Nat) :
    (old ++ young).rtake n = old.rtake (n - young.length) ++ young.rtake n := by
  rw [List.rtake_eq_reverse_take_reverse, List.reverse_append, List.take_append,
    List.reverse_append, List.length_reverse, ← List.rtake_eq_reverse_take_reverse,
    ← List.rtake_eq_reverse_take_reverse]

theorem rtake_rtake (l : List α) {m n : Nat} (h : m ≤ n) : (l.rtake n).rtake m = l.rtake m := by
  simp only [List.rtake_eq_reverse_take_reverse, List.reverse_reverse, List.take_take,
    Nat.min_eq_left h]

/-- Of members in front no more than the newest matter. -/
theorem rtake_append_rtake (old young : List α) (n : Nat) :
    (old.rtake n ++ young).rtake n = (old ++ young).rtake n := by
  rw [rtake_append, rtake_append, rtake_rtake old (Nat.sub_le _ _)]

/-- Where all young members come last, they are the same members among the newest as by
themselves. -/
theorem filter_rtake_append {p : α → Bool} (hold : ∀ a ∈ old, p a = false)
    (hyoung : ∀ a ∈ young, p a = true) (n : Nat) :
    ((old ++ young).rtake n).filter p = young.rtake n := by
  have hold' : (old.rtake (n - young.length)).filter p = [] :=
    List.filter_eq_nil_iff.mpr fun a ha => by simp [hold a (List.mem_of_mem_drop ha)]
  have hyoung' : (young.rtake n).filter p = young.rtake n :=
    List.filter_eq_self.mpr fun a ha => hyoung a (List.mem_of_mem_drop ha)
  rw [rtake_append, List.filter_append, hold', hyoung', List.nil_append]

end Newest

/-! ### Dropping messages -/

/-- Messages that came one after the other. -/
def Chronological (notices : List Notice) : Prop :=
  notices.Pairwise fun n n' => n.shownAt ≤ n'.shownAt

variable {now later : Nat} {notices history : List Notice}

theorem isFresh_iff (now : Nat) (n : Notice) :
    n.isFresh now = true ↔ now < n.shownAt + noticeLifetime := by
  rw [isFresh, decide_eq_true_iff]
  have hpos : 0 < noticeLifetime := by decide
  omega

theorem expire_eq (now : Nat) (notices : List Notice) :
    expire now notices = (notices.filter (isFresh now)).rtake noticeLimit := rfl

theorem expire_sublist (now : Nat) (notices : List Notice) :
    (expire now notices).Sublist notices :=
  (List.drop_sublist _ _).trans List.filter_sublist

/-- A message that is young later on is so before. -/
theorem isFresh_of_le {n : Notice} (h : n.isFresh later = true) (hle : now ≤ later) :
    n.isFresh now = true := by
  rw [isFresh_iff] at h ⊢
  omega

/-- Of messages that came one after the other the young ones are the last. -/
theorem exists_young (h : Chronological notices) (now : Nat) :
    ∃ old young, notices = old ++ young ∧ (∀ n ∈ old, n.isFresh now = false) ∧
      ∀ n ∈ young, n.isFresh now = true := by
  induction notices with
  | nil => exact ⟨[], [], rfl, by simp, by simp⟩
  | cons n rest ih =>
    obtain ⟨hn, hrest⟩ := List.pairwise_cons.mp h
    by_cases hfresh : n.isFresh now = true
    · refine ⟨[], n :: rest, rfl, by simp, fun n' hn' => ?_⟩
      rcases List.mem_cons.mp hn' with rfl | hn'
      · exact hfresh
      · have hle := hn n' hn'
        rw [isFresh_iff] at hfresh ⊢
        omega
    · obtain ⟨old, young, rfl, hold, hyoung⟩ := ih hrest
      refine ⟨n :: old, young, rfl, fun n' hn' => ?_, hyoung⟩
      rcases List.mem_cons.mp hn' with rfl | hn'
      · simpa using hfresh
      · exact hold n' hn'

/-- **Nothing is dropped too early.** What is dropped at one time would not be left at a later
one. -/
theorem expire_expire (h : Chronological notices) (hle : now ≤ later) :
    expire later (expire now notices) = expire later notices := by
  obtain ⟨old, young, rfl, hold, hyoung⟩ := exists_young h later
  have hnow : young.filter (isFresh now) = young :=
    List.filter_eq_self.mpr fun n hn => isFresh_of_le (hyoung n hn) hle
  have hlater : young.filter (isFresh later) = young := List.filter_eq_self.mpr hyoung
  have hnone : old.filter (isFresh later) = [] :=
    List.filter_eq_nil_iff.mpr fun n hn => by simp [hold n hn]
  have hold' : ∀ n ∈ old.filter (isFresh now), n.isFresh later = false := fun n hn =>
    hold n (List.mem_of_mem_filter hn)
  rw [expire_eq later, expire_eq now, List.filter_append, hnow, filter_rtake_append hold' hyoung,
    rtake_rtake young (Nat.le_refl _), expire_eq, List.filter_append, hnone, hlater,
    List.nil_append]

/-- Dropping messages twice at the same time comes to dropping them once, in whatever order they
stand. -/
theorem expire_expire_self (now : Nat) (notices : List Notice) :
    expire now (expire now notices) = expire now notices := by
  have hfresh : (expire now notices).filter (isFresh now) = expire now notices :=
    List.filter_eq_self.mpr fun n hn => (List.mem_filter.mp (List.mem_of_mem_drop hn)).2
  rw [expire_eq now (expire now notices), hfresh, expire_eq, rtake_rtake _ (Nat.le_refl _)]

/-- Messages that come to the same do so as well with others behind them. -/
theorem expire_append_congr (h : expire now notices = expire now history) (new : List Notice) :
    expire now (notices ++ new) = expire now (history ++ new) := by
  rw [expire_eq, expire_eq] at h
  rw [expire_eq, expire_eq, List.filter_append, List.filter_append, ← rtake_append_rtake, h,
    rtake_append_rtake]

/-- Messages that come in together may be cut down after each of them, or once after all. -/
theorem foldl_push (now : Nat) (notices : List Notice) {new : List Notification} (hnew : new ≠ []) :
    new.foldl (push now) notices = expire now (notices ++ new.map (⟨·, now⟩)) := by
  induction new generalizing notices with
  | nil => exact absurd rfl hnew
  | cons n rest ih =>
    rw [List.foldl_cons, push]
    rcases eq_or_ne rest [] with rfl | hrest
    · rfl
    · rw [ih _ hrest, expire_append_congr (expire_expire_self now _), List.append_assoc,
        List.map_cons, List.singleton_append]

/-! ### Messages that are left -/

/-- At a time, some messages are left of all that there ever were: they are among them, and they
come to the same from then on. -/
structure Recalls (now : Nat) (notices history : List Notice) : Prop where
  chronological : Chronological history
  past : ∀ n ∈ history, n.shownAt ≤ now
  sublist : notices.Sublist history
  expire_eq : ∀ later, now ≤ later → expire later notices = expire later history

namespace Recalls

theorem nil (now : Nat) : Recalls now [] [] := ⟨.nil, by simp, .refl _, fun _ _ => rfl⟩

/-- Some time goes by. -/
theorem wait (h : Recalls now notices history) (hle : now ≤ later) :
    Recalls later notices history where
  chronological := h.chronological
  past n hn := (h.past n hn).trans hle
  sublist := h.sublist
  expire_eq later' hle' := h.expire_eq later' (hle.trans hle')

/-- Messages are shown that come at present. -/
theorem append (h : Recalls now notices history) {new : List Notice}
    (hnew : ∀ n ∈ new, n.shownAt = now) : Recalls now (notices ++ new) (history ++ new) where
  chronological := by
    refine List.pairwise_append.mpr ⟨h.chronological, ?_, fun n hn n' hn' => ?_⟩
    · exact List.pairwise_of_forall_mem_list fun n hn n' hn' => by rw [hnew n hn, hnew n' hn']
    · rw [hnew n' hn']
      exact h.past n hn
  past n hn := by
    rcases List.mem_append.mp hn with hn | hn
    · exact h.past n hn
    · exact (hnew n hn).le
  sublist := h.sublist.append (.refl _)
  expire_eq later hle := expire_append_congr (h.expire_eq later hle) new

/-- Some messages are dropped. -/
theorem expire (h : Recalls now notices history) : Recalls now (expire now notices) history where
  chronological := h.chronological
  past := h.past
  sublist := (expire_sublist now notices).trans h.sublist
  expire_eq later hle := by
    rw [expire_expire (h.chronological.sublist h.sublist) hle, h.expire_eq later hle]

end Recalls

/-! ### Runs of the list -/

/-- What is done to the messages, and when. -/
inductive Change where
  /-- One more is shown. -/
  | shown (n : Notice)
  /-- Old ones are dropped. -/
  | trimmed (now : Nat)

/-- When something is done. -/
def Change.time : Change → Nat
  | .shown n => n.shownAt
  | .trimmed now => now

/-- The message that is shown. -/
def Change.notice? : Change → Option Notice
  | .shown n => some n
  | .trimmed _ => none

/-- Meanwhile the clock is not put back. -/
def InOrder (changes : List Change) : Prop := changes.Pairwise fun c c' => c.time ≤ c'.time

/-- The messages after a change. -/
def Change.apply (notices : List Notice) : Change → List Notice
  | .shown n => notices ++ [n]
  | .trimmed now => Notice.expire now notices

/-- The messages that are left after some changes. -/
def after (changes : List Change) : List Notice := changes.foldl Change.apply []

/-- All messages that were ever shown. -/
def everShown (changes : List Change) : List Notice := changes.filterMap Change.notice?

/-- **Run induction.** What is left recalls all that was shown. -/
theorem recalls_after {changes : List Change}
    (h : InOrder changes) (hnow : ∀ c ∈ changes, c.time ≤ now) :
    Recalls now (after changes) (everShown changes) := by
  induction changes using List.reverseRecOn generalizing now with
  | nil => exact .nil now
  | append_singleton changes c ih =>
    obtain ⟨hchanges, -, hlast⟩ := List.pairwise_append.mp h
    have hle : c.time ≤ now := hnow c (by simp)
    have hbefore : Recalls c.time (after changes) (everShown changes) :=
      ih hchanges fun c' hc' => hlast c' hc' c (List.mem_singleton_self c)
    rw [after, List.foldl_append, everShown, List.filterMap_append]
    cases c with
    | shown n =>
      exact (hbefore.append fun n' hn' => by rw [List.mem_singleton.mp hn']; rfl).wait hle
    | trimmed time =>
      have hnone : [Change.trimmed time].filterMap Change.notice? = [] := rfl
      rw [hnone, List.append_nil]
      exact hbefore.expire.wait hle

end Notice

/-! ### Messages of the viewer -/

variable {α : Type}

/-- Neither the messages nor the clock have changed. -/
def SameNotices (v v' : Viewer α) : Prop := v'.notices = v.notices ∧ v'.now = v.now

theorem SameNotices.trans {v v' v'' : Viewer α} (h : SameNotices v v') (h' : SameNotices v' v'') :
    SameNotices v v'' := ⟨h'.1.trans h.1, h'.2.trans h.2⟩

theorem applyEffects_notices (v : Viewer α) (effects : List Effect) :
    SameNotices v (v.applyEffects effects) := by
  induction effects generalizing v with
  | nil => exact ⟨rfl, rfl⟩
  | cons e rest ih =>
    have hfirst : SameNotices v (v.applyEffect e) := by
      cases e with
      | dispatch plan => cases plan <;> exact ⟨rfl, rfl⟩
      | _ => exact ⟨rfl, rfl⟩
    rw [applyEffects_cons]
    exact hfirst.trans (ih (v.applyEffect e))

/-- **Outcomes that come in together.** Being told of one after the other comes to showing all of
them and dropping old messages once. -/
theorem foldl_takeOutcome {v : Viewer α} (h : v.links.outcomes = true)
    {outcomes : List Notification} (hsome : outcomes ≠ []) :
    outcomes.foldl takeOutcome v =
      { v with notices := Notice.expire v.now (v.notices ++ outcomes.map (⟨·, v.now⟩)) } := by
  have hfold : ∀ (told : List Notification) (notices : List Notice),
      told.foldl takeOutcome { v with notices } =
        { v with notices := told.foldl (Notice.push v.now) notices } := by
    intro told
    induction told with
    | nil => exact fun _ => rfl
    | cons n rest ih =>
      intro notices
      have hfirst : takeOutcome { v with notices } n =
          { v with notices := Notice.push v.now notices n } := if_pos h
      rw [List.foldl_cons, hfirst, ih, List.foldl_cons]
  rw [← Notice.foldl_push v.now v.notices hsome]
  exact hfold outcomes v.notices

variable [Scalar α]

theorem passOn_notices (v : Viewer α) (events : List (Event α)) :
    SameNotices v (v.passOn events) := by
  induction events generalizing v with
  | nil => exact ⟨rfl, rfl⟩
  | cons e rest ih =>
    have hfirst : SameNotices v (v.forward e) :=
      applyEffects_notices { v with session := (v.session.handle e).1 } (v.session.handle e).2
    exact hfirst.trans (ih (v.forward e))

/-- What is done on the canvas in a frame is to pass events on, and to draw. -/
theorem canvas_notices (v : Viewer α) (viewport : Viewport α) (pointer : Pointer α) :
    SameNotices v ((v.fitCanvas viewport).follow pointer).drawIfNeeded := by
  have hfit : SameNotices v (v.fitCanvas viewport) := by
    rw [fitCanvas_eq]
    exact passOn_notices v _
  have hfollow : SameNotices (v.fitCanvas viewport) ((v.fitCanvas viewport).follow pointer) := by
    obtain ⟨lastPointer, hfollow⟩ := follow_eq (v.fitCanvas viewport) pointer
    rw [hfollow]
    exact passOn_notices { v.fitCanvas viewport with lastPointer } _
  have hdraw : ∀ v : Viewer α, SameNotices v v.drawIfNeeded := by
    intro v
    unfold drawIfNeeded
    split <;> exact ⟨rfl, rfl⟩
  exact (hfit.trans hfollow).trans (hdraw _)

/-- Showing the window drops old messages, and does nothing else to them. -/
theorem frame_notices (v : Viewer α) (screen : Screen α) (pointer : Pointer α) :
    SameNotices { v with notices := Notice.expire v.now v.notices } (v.frame screen pointer) := by
  have hscroll : ∀ v : Viewer α, SameNotices v v.scroll := by
    intro v
    unfold scroll
    split <;> exact ⟨rfl, rfl⟩
  -- the fields of a dialog, which are filled in at last, are no messages
  exact (hscroll _).trans (canvas_notices _ _ pointer)

/-- What an operation does to the messages of a viewer, whichever they are. The clock is not put
back. -/
inductive Handles (v : Viewer α) (f : Viewer α → Viewer α) : Prop
  /-- They stay. -/
  | keeps (h : ∀ notices, (f { v with notices }).notices = notices ∧
      v.now ≤ (f { v with notices }).now)
  /-- At most one comes at present, and old ones are dropped. -/
  | trims (new : Option Notification) (h : ∀ notices,
      (f { v with notices }).notices =
          Notice.expire v.now (notices ++ new.toList.map (⟨·, v.now⟩)) ∧
        v.now ≤ (f { v with notices }).now)

section Inputs

variable (v : Viewer α)

section

omit [Scalar α]

theorem handles_id : Handles v id := .keeps fun _ => ⟨rfl, le_rfl⟩

theorem handles_tell (n : Notification) : Handles v (·.tell n) :=
  .trims (some n) fun _ => ⟨rfl, le_rfl⟩

theorem Handles.congr {v : Viewer α} {f g : Viewer α → Viewer α} (hg : Handles v g)
    (h : ∀ notices, f { v with notices } = g { v with notices }) : Handles v f := by
  cases hg with
  | keeps hg => exact .keeps fun notices => by rw [h]; exact hg notices
  | trims new hg => exact .trims new fun notices => by rw [h]; exact hg notices

/-- What is done may hang on anything but the messages. -/
theorem Handles.ite {v : Viewer α} {c : Viewer α → Prop} [∀ v, Decidable (c v)]
    {f g : Viewer α → Viewer α} (hc : ∀ notices, c { v with notices } ↔ c v)
    (hf : Handles v f) (hg : Handles v g) : Handles v fun v => if c v then f v else g v := by
  by_cases h : c v
  · exact hf.congr fun notices => if_pos ((hc notices).mpr h)
  · exact hg.congr fun notices => if_neg (mt (hc notices).mp h)

theorem handles_takeOutcome (n : Notification) : Handles v (·.takeOutcome n) :=
  .ite (fun _ => .rfl) (handles_tell v n) (handles_id v)

theorem handles_loseSnapshots : Handles v (·.loseSnapshots) :=
  .ite (fun _ => .rfl) (.keeps fun _ => ⟨rfl, le_rfl⟩) (.trims (some _) fun _ => ⟨rfl, le_rfl⟩)

theorem handles_cancel_handOver (r : Request) : Handles v (·.cancel.handOver r) :=
  .ite (fun _ => .rfl) (.keeps fun _ => ⟨rfl, le_rfl⟩) (.trims (some _) fun _ => ⟨rfl, le_rfl⟩)

theorem handles_loseOutcomes : Handles v (·.loseOutcomes) :=
  .ite (fun _ => .rfl) (.keeps fun _ => ⟨rfl, le_rfl⟩) (.trims (some _) fun _ => ⟨rfl, le_rfl⟩)

theorem handles_agree : Handles v (·.agree) := by
  cases hp : v.pending with
  | none => exact (handles_id v).congr fun notices => by simp only [agree, hp, id]
  | some p =>
    cases p with
    | confirm message r =>
      exact (handles_cancel_handOver v r).congr fun notices => by simp only [agree, hp]
    | dialog d r values error =>
      cases hd : Pending.complete d r values with
      | ok r =>
        exact (handles_cancel_handOver v r).congr fun notices => by simp only [agree, hp, hd]
      | error f =>
        -- the dialog says what is missing, which is no message
        refine .keeps fun notices => ?_
        simp only [agree, hp, hd]
        exact ⟨trivial, le_rfl⟩

theorem handles_fill (field text : String) : Handles v fun v => (v.fill? field text).getD v := by
  refine .keeps fun notices => ?_
  unfold fill?
  cases v.pending.bind (·.fill? field text) <;> exact ⟨rfl, le_rfl⟩

theorem handles_settle (values : Entries String) : Handles v fun v => (v.settle values).1 := by
  simp only [settle_eq]
  -- neither entering texts nor dropping what is pending has to do with messages
  cases handles_agree { v with pending := v.pending.map (Pending.withValues values) } with
  | keeps h => exact .keeps h
  | trims new h => exact .trims new h

end

theorem handles_takeRefresh (event : Refresh.Event) : Handles v (·.takeRefresh event) := by
  refine .ite (fun _ => .rfl) (handles_id v) ?_
  cases event with
  | updated clusters revision trigger =>
    exact .ite (fun _ => .rfl) (.keeps fun _ => ⟨rfl, le_rfl⟩) (handles_id v)
  | failed trigger message => exact .keeps fun _ => ⟨rfl, le_rfl⟩

theorem handles_focus (nodeId : String) : Handles v fun v => (v.focus? nodeId).getD v := by
  refine .keeps fun notices => ?_
  unfold focus?
  cases v.session.focus? nodeId with
  | none => exact ⟨rfl, le_rfl⟩
  | some next =>
    obtain ⟨hnotices, hnow⟩ := applyEffects_notices { v with notices, session := next.1 } [next.2]
    exact ⟨hnotices, hnow.ge⟩

theorem handles_forward (e : Event α) : Handles v (·.forward e) :=
  .keeps fun notices => by
    obtain ⟨hnotices, hnow⟩ := passOn_notices { v with notices } [e]
    exact ⟨hnotices, hnow.ge⟩

theorem handles_key (k : Key) : Handles v (·.key k) := by
  cases k with
  | escape =>
    exact .ite (fun _ => .rfl) (.keeps fun _ => ⟨rfl, le_rfl⟩) (handles_forward v .dismiss)
  | f11 => exact handles_forward v .toggleFullscreen

theorem handles_actuate (control : Control) : Handles v (·.actuate control) := by
  cases control with
  | refresh | cancel => exact .keeps fun _ => ⟨rfl, le_rfl⟩
  | fullscreen => exact handles_forward v .toggleFullscreen
  | row nodeId => exact handles_focus v nodeId
  | agree => exact handles_agree v

/-- **What an input does to the messages.** -/
theorem handles_step (input : Input α) : Handles v (·.step input) := by
  cases input with
  | refreshed event => exact handles_takeRefresh v event
  | outcome n => exact handles_takeOutcome v n
  | snapshotsLost => exact handles_loseSnapshots v
  | outcomesLost => exact handles_loseOutcomes v
  | waited ms => exact .keeps fun _ => ⟨rfl, Nat.le_add_right _ _⟩
  | key k => exact handles_key v k
  | pressed control => exact handles_actuate v control
  | filled field text => exact handles_fill v field text
  | settled values => exact handles_settle v values
  | canvas event => exact handles_forward v event
  | focused nodeId => exact handles_focus v nodeId
  | frame screen pointer =>
    refine .trims none fun notices => ?_
    obtain ⟨hnotices, hnow⟩ := frame_notices { v with notices } screen pointer
    rw [Option.toList_none, List.map_nil, List.append_nil]
    exact ⟨hnotices, hnow.ge⟩
  | requestsLost | fetched | drawn => exact .keeps fun _ => ⟨rfl, le_rfl⟩

end Inputs

/-! ### Runs of the viewer -/

/-- What an input tells the user: the messages that are there afterwards if there were none
before. -/
def told (v : Viewer α) (input : Input α) : List Notice :=
  ({ v with notices := [] }.step input).notices

/-- What the user is told in a run. -/
def toldIn (v : Viewer α) : List (Input α) → List Notice
  | [] => []
  | input :: rest => v.told input ++ (v.step input).toldIn rest

/-- Old messages are dropped whenever the window is shown and whenever there is a new one. -/
def Trims (v : Viewer α) (input : Input α) : Prop :=
  (∃ screen pointer, input = .frame screen pointer) ∨ v.told input ≠ []

theorem toldIn_append (v : Viewer α) (inputs : List (Input α)) (input : Input α) :
    v.toldIn (inputs ++ [input]) = v.toldIn inputs ++ (v.run inputs).told input := by
  induction inputs generalizing v with
  | nil => exact List.append_nil _
  | cons first rest ih =>
    change v.told first ++ (v.step first).toldIn (rest ++ [input]) = _
    rw [ih, ← List.append_assoc]
    rfl

/-- **One input.** What it tells comes at present, and is put behind the messages that are there. -/
theorem notices_step (v : Viewer α) (input : Input α) :
    (v.told input = [] ∧ (v.step input).notices = v.notices ∨
      (v.step input).notices = Notice.expire v.now (v.notices ++ v.told input)) ∧
    (∀ n ∈ v.told input, n.shownAt = v.now) ∧ v.now ≤ (v.step input).now := by
  cases handles_step v input with
  | keeps h =>
    have htold : v.told input = [] := (h []).1
    refine ⟨.inl ⟨htold, (h v.notices).1⟩, ?_, (h v.notices).2⟩
    simp [htold]
  | trims new h =>
    have htold : v.told input = new.toList.map (⟨·, v.now⟩) := by
      refine (h []).1.trans ?_
      -- a message that comes at present is not dropped
      cases new with
      | none => rfl
      | some n =>
        have hfresh : Notice.isFresh v.now ⟨n, v.now⟩ = true :=
          (Notice.isFresh_iff _ _).mpr (Nat.lt_add_of_pos_right (by decide))
        simp [Notice.expire, hfresh, noticeLimit]
    rw [htold]
    refine ⟨.inr (h v.notices).1, ?_, (h v.notices).2⟩
    simp

theorem notices_of_trims {v : Viewer α} {input : Input α} (h : v.Trims input) :
    (v.step input).notices = Notice.expire v.now (v.notices ++ v.told input) := by
  obtain ⟨hstep, -, -⟩ := notices_step v input
  rcases h with ⟨screen, pointer, rfl⟩ | h
  · rcases hstep with ⟨htold, -⟩ | hstep
    · rw [htold, List.append_nil]
      exact (frame_notices v screen pointer).1
    · exact hstep
  · exact hstep.resolve_left fun hnone => h hnone.1

/-- **Run induction.** The messages of a viewer recall all that the user was told. -/
theorem recalls_run {v : Viewer α} {history : List Notice}
    (h : Notice.Recalls v.now v.notices history) (inputs : List (Input α)) :
    Notice.Recalls (v.run inputs).now (v.run inputs).notices (history ++ v.toldIn inputs) := by
  induction inputs generalizing v history with
  | nil =>
    rw [toldIn, List.append_nil]
    exact h
  | cons input rest ih =>
    obtain ⟨hstep, hnow, hle⟩ := notices_step v input
    have hnext : Notice.Recalls (v.step input).now (v.step input).notices
        (history ++ v.told input) := by
      rcases hstep with ⟨htold, hnotices⟩ | hnotices
      · rw [htold, List.append_nil, hnotices]
        exact h.wait hle
      · rw [hnotices]
        exact (h.append hnow).expire.wait hle
    rw [toldIn, ← List.append_assoc]
    exact ih hnext

/-- **Nothing is forgotten too early or too late.** Whenever old messages are dropped, those that
are left are the newest six of all messages there ever were that are younger than six seconds:

* for any messages shown one after the other with any number of passes in between, where it comes to
  the same as one pass over all of them;
* for the messages of a viewer, whatever it has met with since it was opened. -/
theorem Notice.trimmed_eq_newest :
    (∀ (changes : List Notice.Change) (now : Nat),
      Notice.InOrder (changes ++ [.trimmed now]) →
        Notice.after (changes ++ [.trimmed now]) =
            ((Notice.everShown changes).filter fun n => now < n.shownAt + 6000).rtake 6 ∧
          Notice.after (changes ++ [.trimmed now]) =
            Notice.expire now (Notice.everShown changes)) ∧
    ∀ (s : Session α) (inputs : List (Input α)) (input : Input α),
      let v := (Viewer.start s).run inputs
      v.Trims input →
        (v.step input).notices =
          (((Viewer.start s).toldIn (inputs ++ [input])).filter
            fun n => v.now < n.shownAt + 6000).rtake 6 := by
  have hnewest : ∀ now notices, Notice.expire now notices =
      (notices.filter fun n => now < n.shownAt + 6000).rtake 6 := by
    intro now notices
    rw [Notice.expire_eq]
    refine congrArg (List.rtake · 6) (List.filter_congr fun n _ => ?_)
    exact Bool.eq_iff_iff.mpr ((Notice.isFresh_iff now n).trans decide_eq_true_iff.symm)
  constructor
  · intro changes now h
    obtain ⟨hchanges, -, hlast⟩ := List.pairwise_append.mp h
    have hrecalls : Notice.Recalls now (Notice.after changes) (Notice.everShown changes) :=
      Notice.recalls_after hchanges fun c hc => hlast c hc _ (List.mem_singleton_self _)
    have hafter : Notice.after (changes ++ [.trimmed now]) =
        Notice.expire now (Notice.after changes) := by
      rw [Notice.after, List.foldl_append]
      rfl
    rw [← hnewest, hafter]
    exact ⟨hrecalls.expire_eq now le_rfl, hrecalls.expire_eq now le_rfl⟩
  · intro s inputs input v h
    have hrecalls : Notice.Recalls v.now v.notices ([] ++ (Viewer.start s).toldIn inputs) :=
      recalls_run (.nil _) inputs
    rw [List.nil_append] at hrecalls
    rw [notices_of_trims h, toldIn_append, ← hnewest]
    exact Notice.expire_append_congr (hrecalls.expire_eq v.now le_rfl) (v.told input)

/-- Seven messages come less than six seconds after the first, which is six seconds old at the last
pass. A viewer is told of the outcomes of two requests, one seven seconds after the other. -/
theorem Notice.trimmed_eq_newest_seven :
    let said : Notification := ⟨.success, "done"⟩
    let first : Notice := ⟨said, 0⟩
    let second : Notice := ⟨said, 5000⟩
    let changes : List Notice.Change := [.shown first, .trimmed 3000] ++
      List.replicate 4 (.shown second) ++ [.trimmed 5500] ++ List.replicate 3 (.shown ⟨said, 5900⟩)
    let start : Viewer Rat := Viewer.start (Session.start 9 .standard .standard none .standard)
    let inputs : List (Input Rat) := [.outcome said, .waited 7000]
    Notice.InOrder (changes ++ [.trimmed 6000]) ∧ (Notice.everShown changes).length = 8 ∧
      Notice.after (changes ++ [.trimmed 6000]) =
        List.replicate 3 second ++ List.replicate 3 ⟨said, 5900⟩ ∧
      (start.run inputs).Trims (.outcome said) ∧
      ((start.run inputs).step (.outcome said)).notices = [⟨said, 7000⟩] := by
  intro said first second changes start inputs
  have horder : Notice.InOrder (changes ++ [.trimmed 6000]) := by
    unfold Notice.InOrder
    decide
  have htrims : (start.run inputs).Trims (.outcome said) := .inr (by decide)
  obtain ⟨hafter, -⟩ := (Notice.trimmed_eq_newest (α := Rat)).1 changes 6000 horder
  have hnotices := (Notice.trimmed_eq_newest (α := Rat)).2
    (Session.start 9 .standard .standard none .standard) inputs (.outcome said) htrims
  have hnewest : ((Notice.everShown changes).filter fun n => 6000 < n.shownAt + 6000).rtake 6 =
      List.replicate 3 second ++ List.replicate 3 ⟨said, 5900⟩ := by decide
  have hlast : ((start.toldIn (inputs ++ [.outcome said])).filter
      fun n => (start.run inputs).now < n.shownAt + 6000).rtake 6 = [⟨said, 7000⟩] := by
    decide +kernel
  exact ⟨horder, rfl, hafter.trans hnewest, htrims, hnotices.trans hlast⟩

end Viewer

end ClusterMap
