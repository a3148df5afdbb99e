import ClusterMap.Proofs.Refresh.Course
import ClusterMap.Refresh.Worker

/-!
# A worker on a clock follows a course

A worker that is run on a clock does what the loop does in one of its courses
(`Worker.exists_course`): it takes requests one at a time, a fetch takes no time, and an interval
ends when its time has come. So whatever holds of all courses holds of what a worker tells; its
snapshots, for one, are numbered without gaps (`Worker.revisions_told`).
-/

namespace ClusterMap.Refresh

/-- What was told, and when. -/
def Happening.told? : Happening → Option (Nat × Event)
  | .told time event => some (time, event)
  | _ => none

/-- All that was told, the first thing first. -/
def tellings (log : List Happening) : List (Nat × Event) :=
  (log.filterMap Happening.told?).reverse

namespace Worker

/-- What can be done with a worker, with the outcome of a fetch if it comes to one. -/
inductive Act where
  | request (fetched : Snapshot.Result)
  | advance (ms : Nat) (fetched : Snapshot.Result)
  | stop

/-- What a worker does then. -/
def act (w : Worker) : Act → Told
  | .request fetched => w.request fetched
  | .advance ms fetched => advance fetched ms w
  | .stop => (w.stop, [])

/-- A worker that has been started and has told something, after several more acts. -/
def runActs (t : Told) (acts : List Act) : Told := acts.foldl (fun t a => andThen t (act · a)) t

/-- Going on twice. -/
theorem andThen_assoc (t : Told) (f g : Worker → Told) :
    andThen (andThen t f) g = andThen t fun w => andThen (f w) g :=
  Prod.ext rfl (List.append_assoc _ _ _)

/-- A course has come to where a worker is, and the same has been told in both. A worker has no
inbox: what it is asked for it does at once. -/
structure Tracks (t : Told) (c : Course) : Prop where
  reachable : c.Reachable t.1.debounce
  now : c.now = t.1.now
  inbox : c.inbox = []
  told : tellings c.log = t.2
  loop : (t.1.loop = some c.loop ∧ c.stage = .waiting) ∨ (t.1.loop = none ∧ c.stage = .stopped)

/-- A worker that is woken while its course has a reason to wake up goes on as the course does: it
waits again, or it fetches and tells. -/
theorem exists_tracks_wake {w : Worker} {c : Course} (hreach : c.Reachable w.debounce)
    (hnow : c.now = w.now) (hloop : w.loop = some c.loop) (hstage : c.stage = .waiting)
    {reason : Wake} (hready : c.Ready reason []) (fetched : Snapshot.Result) :
    ∃ c', Tracks ((w.wake fetched reason).1, tellings c.log ++ (w.wake fetched reason).2) c' := by
  have hwoken := hreach.step (.wake reason [] hstage hready)
  unfold wake
  rw [hloop, ← hnow]
  dsimp only
  split
  next hdue =>
    exact ⟨_, hwoken.step (.wait rfl hdue), rfl, rfl, (List.append_nil _).symm, Or.inl ⟨rfl, rfl⟩⟩
  next trigger hdue =>
    have hfetching := hwoken.step (.fetch trigger rfl hdue)
    exact ⟨_, hfetching.step (.tell trigger fetched rfl), rfl, rfl, List.reverse_cons,
      Or.inl ⟨rfl, rfl⟩⟩

/-- A worker that has stopped does nothing when it is woken. -/
theorem wake_of_stopped {w : Worker} (h : w.loop = none) (fetched : Snapshot.Result)
    (reason : Wake) : w.wake fetched reason = (w, []) := by
  rw [wake, h]

/-- Before the deadline of a worker nothing happens at a look at it. -/
theorem wake_deadline_of_not_due {w : Worker} {l : Loop} (hloop : w.loop = some l)
    (hdue : l.due? w.now = none) (fetched : Snapshot.Result) :
    w.wake fetched .deadline = (w, []) := by
  have hself : { w with loop := some l } = w := by rw [← hloop]
  unfold wake
  rw [hloop]
  dsimp only [Loop.wake]
  split
  next => rw [hself]
  next trigger hdue' =>
    rw [hdue] at hdue'
    cases hdue'

namespace Tracks

variable {t : Told} {c : Course}

/-- A worker that tells nothing more and stays as it is. -/
theorem stay (h : Tracks t c) : Tracks (t.1, t.2 ++ []) c := by
  rwa [List.append_nil]

/-- Looking at the deadline. -/
theorem deadline (h : Tracks t c) (fetched : Snapshot.Result) :
    ∃ c', Tracks (andThen t (·.wake fetched .deadline)) c' := by
  obtain ⟨w, told⟩ := t
  obtain rfl : tellings c.log = told := h.told
  rcases h.loop with ⟨hloop, hstage⟩ | ⟨hloop, hstage⟩
  · cases hdue : c.loop.due? c.now with
    | none =>
      have hnone : c.loop.due? w.now = none := h.now ▸ hdue
      refine ⟨c, ?_⟩
      rw [andThen, wake_deadline_of_not_due hloop hnone]
      exact h.stay
    | some trigger =>
      -- something is due, so its time has come
      obtain ⟨d, hd, -, hcome⟩ := Loop.due?_eq_some_iff.mp hdue
      have hready : c.Ready .deadline [] := h.inbox ▸ .deadline d hd hcome
      exact exists_tracks_wake h.reachable h.now hloop hstage hready fetched
  · refine ⟨c, ?_⟩
    rw [andThen, wake_of_stopped hloop]
    exact h.stay

/-- The end of an interval, if its time has come. -/
theorem tick (h : Tracks t c) (fetched : Snapshot.Result) :
    ∃ c', Tracks (andThen t (Worker.tick fetched)) c' := by
  obtain ⟨w, told⟩ := t
  obtain rfl : tellings c.log = told := h.told
  -- a course does not know when the next interval ends
  have hmoved : Tracks ({ w with nextTick := w.nextTick + w.poll }, tellings c.log) c :=
    ⟨h.reachable, h.now, h.inbox, rfl, h.loop⟩
  unfold andThen Worker.tick
  dsimp only
  split
  · rcases hmoved.loop with ⟨hloop, hstage⟩ | ⟨hloop, hstage⟩
    · have hready : c.Ready .tick [] := h.inbox ▸ .tick
      exact exists_tracks_wake hmoved.reachable hmoved.now hloop hstage hready fetched
    · refine ⟨c, ?_⟩
      rw [wake_of_stopped hloop]
      exact hmoved.stay
  · exact ⟨c, h.stay⟩

/-- A request goes through the inbox. -/
theorem request (h : Tracks t c) (fetched : Snapshot.Result) :
    ∃ c', Tracks (andThen t (·.request fetched)) c' := by
  obtain ⟨w, told⟩ := t
  obtain rfl : tellings c.log = told := h.told
  rcases h.loop with ⟨hloop, hstage⟩ | ⟨hloop, hstage⟩
  · have hsent := h.reachable.step (.send .refresh (by rw [hstage]; exact nofun))
    have hinbox : c.inbox ++ [.refresh] = [.refresh] := by rw [h.inbox, List.nil_append]
    exact exists_tracks_wake (w := w) hsent h.now hloop hstage (.request [] hinbox) fetched
  · refine ⟨c, ?_⟩
    change Tracks (andThen _ (·.wake fetched .request)) c
    rw [andThen, wake_of_stopped hloop]
    exact h.stay

/-- Being told to stop goes through the inbox too. -/
theorem stop (h : Tracks t c) : ∃ c', Tracks (andThen t fun w => (w.stop, [])) c' := by
  obtain ⟨w, told⟩ := t
  obtain rfl : tellings c.log = told := h.told
  rcases h.loop with ⟨hloop, hstage⟩ | ⟨hloop, hstage⟩
  · have hsent := h.reachable.step (.send .shutdown (by rw [hstage]; exact nofun))
    have hinbox : c.inbox ++ [.shutdown] = [.shutdown] := by rw [h.inbox, List.nil_append]
    exact ⟨_, hsent.step (.stop [] hstage (Or.inl hinbox)), h.now, rfl, (List.append_nil _).symm,
      Or.inr ⟨rfl, rfl⟩⟩
  · exact ⟨c, h.reachable, h.now, h.inbox, (List.append_nil _).symm, Or.inr ⟨rfl, hstage⟩⟩

/-- A millisecond goes by. -/
theorem pass (h : Tracks t c) : ∃ c', Tracks ({ t.1 with now := t.1.now + 1 }, t.2) c' := by
  have hlater : c.now ≤ t.1.now + 1 := h.now ▸ Nat.le_succ _
  exact ⟨_, h.reachable.step (.pass (t.1.now + 1) hlater), rfl, h.inbox, h.told, h.loop⟩

/-- Several milliseconds go by, and whatever has come by then is done each time. -/
theorem advance (h : Tracks t c) (fetched : Snapshot.Result) (ms : Nat) :
    ∃ c', Tracks (andThen t (Worker.advance fetched ms)) c' := by
  induction ms generalizing t c with
  | zero => exact ⟨c, h.reachable, h.now, h.inbox, h.told.trans (List.append_nil _).symm, h.loop⟩
  | succ ms ih =>
    obtain ⟨c₁, h₁⟩ := h.pass
    obtain ⟨c₂, h₂⟩ := h₁.deadline fetched
    obtain ⟨c₃, h₃⟩ := h₂.tick fetched
    obtain ⟨c₄, h₄⟩ := ih h₃
    refine ⟨c₄, ?_⟩
    change Tracks (andThen t fun w =>
      andThen (andThen ({ w with now := w.now + 1 }.wake fetched .deadline) (Worker.tick fetched))
        (Worker.advance fetched ms)) c₄
    simp only [andThen_assoc] at h₄ ⊢
    exact h₄

theorem act (h : Tracks t c) (a : Act) : ∃ c', Tracks (andThen t (Worker.act · a)) c' := by
  cases a with
  | request fetched => exact h.request fetched
  | advance ms fetched => exact h.advance fetched ms
  | stop => exact h.stop

end Tracks

/-- A new worker is where a course starts; without a length of the intervals it has stopped. -/
theorem exists_tracks_start (poll debounce : Nat) (fetched : Snapshot.Result) :
    ∃ c, Tracks (start poll debounce fetched) c := by
  unfold start
  dsimp only
  split
  · have hstopped : Course.Reachable debounce { Course.start 0 with stage := .stopped } :=
      ⟨0, .single (.stop [] rfl (Or.inr ⟨rfl, rfl⟩))⟩
    exact ⟨_, hstopped, rfl, rfl, rfl, Or.inr ⟨rfl, rfl⟩⟩
  · have hstart : Course.Reachable debounce (Course.start 0) := ⟨0, .refl⟩
    exact exists_tracks_wake (w := ⟨poll, debounce, 0, poll, some (Loop.start 0)⟩) hstart rfl rfl
      rfl (.deadline 0 rfl (Nat.le_refl 0)) fetched

/-- **A worker follows a course.** Whatever is done with a worker, there is a course of the loop
that comes to the same state at the same time and in which the same is told. -/
theorem exists_course (poll debounce : Nat) (fetched : Snapshot.Result) (acts : List Act) :
    ∃ c, Tracks (runActs (start poll debounce fetched) acts) c := by
  obtain ⟨c, h⟩ := exists_tracks_start poll debounce fetched
  unfold runActs
  generalize start poll debounce fetched = t at h ⊢
  induction acts generalizing t c with
  | nil => exact ⟨c, h⟩
  | cons a rest ih =>
    obtain ⟨c', h'⟩ := h.act a
    exact ih _ _ h'

/-- **What a worker tells is numbered** one by one from the first snapshot, whatever is done with
it. -/
theorem revisions_told (poll debounce : Nat) (fetched : Snapshot.Result) (acts : List Act) :
    ∃ count, (runActs (start poll debounce fetched) acts).2.filterMap (·.2.revision?) =
      (List.range' 1 count).map (Nat.min · Count.limit) := by
  obtain ⟨c, h⟩ := exists_course poll debounce fetched acts
  obtain ⟨count, -, hcount⟩ := Course.Counted.of_reachable h.reachable
  have hnumber : ∀ x : Happening, x.told?.bind (·.2.revision?) = x.revision? := by
    intro x
    cases x <;> rfl
  refine ⟨count, ?_⟩
  rw [← h.told, ← hcount, tellings, revisions, List.filterMap_reverse, List.filterMap_filterMap]
  exact congrArg (fun f => (c.log.filterMap f).reverse) (funext hnumber)

end Worker

end ClusterMap.Refresh
