import ClusterMap.Refresh.Loop
import Mathlib.Data.List.Basic
import Mathlib.Logic.Relation

/-!
# The courses of the refresh loop

The loop waits for whatever comes first: a command in its inbox, the end of an interval, or its
deadline. Nothing is said of which of several it takes, of how long a fetch lasts and what comes out
of it, or of what arrives in the meantime; the clock only never goes back. `Course.Step` is what can
happen next, and a course is any chain of such steps. The end of an interval may come at any time
here, so that whatever holds of all courses holds for intervals of any length.

What a course has seen is kept in a log with the newest first, so that the requests no fetch has
been started for are read off its beginning (`openRequests`). Of these the last one fixes what is
pending and when it is due (`Course.Held`), of which all the rest follows: a fetch is not started
before that time, and is labelled by it (`Course.Orderly`), and from that time on it is due
(`Course.Held.due?_of_open`).
-/

namespace ClusterMap.Refresh

/-- Why the fetch happened that an event tells of. -/
def Event.trigger : Event → Trigger
  | .updated _ _ trigger | .failed trigger _ => trigger

/-- The number of the fetch that an event tells of, if it was successful. -/
def Event.revision? : Event → Option Nat
  | .updated _ revision _ => some revision
  | .failed .. => none

/-- A fetch is due if it is pending and its time has come. -/
theorem Loop.due?_eq_some_iff {l : Loop} {now : Nat} {trigger : Trigger} :
    l.due? now = some trigger ↔
      ∃ deadline, l.deadline = some deadline ∧ l.pending = some trigger ∧ deadline ≤ now := by
  constructor
  · intro h
    unfold due? at h
    split at h
    next deadline pending hdeadline hpending =>
      split at h
      next hcome =>
        obtain rfl := Option.some.inj h
        exact ⟨deadline, hdeadline, hpending, hcome⟩
      next => cases h
    next => cases h
  · rintro ⟨deadline, hdeadline, hpending, hcome⟩
    rw [due?, hdeadline, hpending]
    exact if_pos hcome

/-- What the worker can be told to do. -/
inductive Command where
  | refresh
  | shutdown
deriving DecidableEq, Repr

/-- What a course has seen, and when. -/
inductive Happening where
  | woken (time : Nat) (reason : Wake)
  /-- A fetch was started. -/
  | fetching (time : Nat) (trigger : Trigger)
  | told (time : Nat) (event : Event)

/-- Where in its round the loop is. -/
inductive Stage where
  /-- At the head of the loop. -/
  | waiting
  /-- Before it is looked up whether a fetch is due. -/
  | woken
  | fetching (trigger : Trigger)
  | stopped
deriving DecidableEq, Repr

/-- The loop together with everything around it. -/
structure Course where
  loop : Loop
  stage : Stage
  now : Nat
  /-- The commands that have not been looked at, oldest first. -/
  inbox : List Command
  /-- How many refreshes have been asked for. -/
  asked : Nat
  /-- What has happened, newest first. -/
  log : List Happening

namespace Course

/-- The loop when it is entered. -/
def start (now : Nat) : Course :=
  { loop := .start now, stage := .waiting, now, inbox := [], asked := 0, log := [] }

/-- There is a reason to wake up; the commands are those that are left in the inbox then. -/
inductive Ready (c : Course) : Wake → List Command → Prop
  | request (rest : List Command) (h : c.inbox = .refresh :: rest) : Ready c .request rest
  | tick : Ready c .tick c.inbox
  | deadline (d : Nat) (hd : c.loop.deadline = some d) (h : d ≤ c.now) : Ready c .deadline c.inbox

/-- What can happen next. -/
inductive Step (debounce : Nat) (c : Course) : Course → Prop
  | pass (time : Nat) (h : c.now ≤ time) : Step debounce c { c with now := time }
  | send (command : Command) (h : c.stage ≠ .stopped) :
      Step debounce c { c with
        inbox := c.inbox ++ [command]
        asked := c.asked + [command].count .refresh }
  | wake (reason : Wake) (rest : List Command) (hstage : c.stage = .waiting)
      (hready : c.Ready reason rest) :
      Step debounce c { c with
        inbox := rest
        loop := c.loop.wake debounce c.now reason
        stage := .woken
        log := .woken c.now reason :: c.log }
  /-- Nothing is due yet. -/
  | wait (hstage : c.stage = .woken) (hdue : c.loop.due? c.now = none) :
      Step debounce c { c with stage := .waiting }
  | fetch (trigger : Trigger) (hstage : c.stage = .woken)
      (hdue : c.loop.due? c.now = some trigger) :
      Step debounce c { c with
        loop := c.loop.begin
        stage := .fetching trigger
        log := .fetching c.now trigger :: c.log }
  | tell (trigger : Trigger) (fetched : Snapshot.Result) (hstage : c.stage = .fetching trigger) :
      Step debounce c { c with
        loop := (c.loop.conclude trigger fetched).1
        stage := .waiting
        log := .told c.now (c.loop.conclude trigger fetched).2 :: c.log }
  /-- Nobody is left to be told. -/
  | unheard (trigger : Trigger) (hstage : c.stage = .fetching trigger) :
      Step debounce c { c with stage := .stopped }
  /-- The worker is told to stop, or nobody is left to tell it anything. -/
  | stop (rest : List Command) (hstage : c.stage = .waiting)
      (h : c.inbox = .shutdown :: rest ∨ c.inbox = [] ∧ rest = []) :
      Step debounce c { c with inbox := rest, stage := .stopped }

/-- What can come of a loop that is entered at some time. -/
def Reachable (debounce : Nat) (c : Course) : Prop :=
  ∃ now, Relation.ReflTransGen (Step debounce) (start now) c

theorem Reachable.step {debounce : Nat} {c c' : Course} (h : c.Reachable debounce)
    (hstep : Step debounce c c') : c'.Reachable debounce := by
  obtain ⟨now, h⟩ := h
  exact ⟨now, h.tail hstep⟩

/-- What holds at the start and is kept by every step holds of all that can be reached. -/
theorem Reachable.induction {debounce : Nat} {I : Course → Prop} (hstart : ∀ now, I (start now))
    (hstep : ∀ c c', I c → Step debounce c c' → I c') {c : Course} (h : c.Reachable debounce) :
    I c := by
  obtain ⟨now, h⟩ := h
  induction h with
  | refl => exact hstart now
  | tail _ hlast ih => exact hstep _ _ ih hlast

end Course

/-! ### Reading the log -/

/-- When the requests were looked at that no fetch has been started for since, the last one
first. -/
def openRequests : List Happening → List Nat
  | [] => []
  | .woken time .request :: earlier => time :: openRequests earlier
  | .woken _ .tick :: earlier | .woken _ .deadline :: earlier => openRequests earlier
  | .fetching .. :: _ => []
  | .told .. :: earlier => openRequests earlier

/-- The trigger of the fetch that was started last, if nothing has happened since. -/
def running? : List Happening → Option Trigger
  | .fetching _ trigger :: _ => some trigger
  | _ => none

/-- Whether a request was looked at. -/
def Happening.isRequest : Happening → Bool
  | .woken _ .request => true
  | _ => false

/-- The number that was told. -/
def Happening.revision? : Happening → Option Nat
  | .told _ event => event.revision?
  | _ => none

/-- The numbers of the snapshots that were told, the first one first. -/
def revisions (log : List Happening) : List Nat := (log.filterMap Happening.revision?).reverse

theorem exists_of_running? {log : List Happening} {trigger : Trigger}
    (h : running? log = some trigger) :
    ∃ time earlier, log = .fetching time trigger :: earlier := by
  unfold running? at h
  split at h
  next time trigger' earlier =>
    obtain rfl := Option.some.inj h
    exact ⟨time, earlier, rfl⟩
  next => cases h

namespace Course

/-! ### What is pending -/

@[simp] theorem merge_requested (pending : Option Trigger) :
    Trigger.merge pending .requested = .requested := by
  cases pending <;> rfl

/-- The end of an interval neither makes a request nor hides one. -/
theorem merge_interval_eq_requested_iff (pending : Option Trigger) :
    Trigger.merge pending .interval = .requested ↔ pending = some .requested := by
  cases pending with
  | none => simp [Trigger.merge]
  | some trigger => simp [Trigger.merge]

/-- **What the loop holds back.** There is something pending exactly if there is a time at which it
is due. If requests are open, a request is pending, and is due when the last of them has been held
back for long enough. -/
structure Held (debounce : Nat) (c : Course) : Prop where
  agree : c.loop.pending.isSome = c.loop.deadline.isSome
  last : ∀ time, (openRequests c.log).head? = some time →
    c.loop.pending = some .requested ∧ c.loop.deadline = some (time + debounce)
  none_open : openRequests c.log = [] → c.loop.pending ≠ some .requested
  /-- The last one is the latest. -/
  sorted : (openRequests c.log).Pairwise fun later earlier => earlier ≤ later
  past : ∀ time ∈ openRequests c.log, time ≤ c.now

namespace Held

variable {debounce : Nat} {c c' : Course}

theorem start (debounce now : Nat) : Held debounce (Course.start now) where
  agree := rfl
  last _ := nofun
  none_open _ := nofun
  sorted := .nil
  past _ := nofun

/-- A loop with the same things pending, and the same requests open, holds back the same. -/
theorem congr (h : Held debounce c) (hpending : c'.loop.pending = c.loop.pending)
    (hdeadline : c'.loop.deadline = c.loop.deadline)
    (hlog : openRequests c'.log = openRequests c.log) (hnow : c.now ≤ c'.now) :
    Held debounce c' where
  agree := by rw [hpending, hdeadline, h.agree]
  last := by rw [hpending, hdeadline, hlog]; exact h.last
  none_open := by rw [hpending, hlog]; exact h.none_open
  sorted := by rw [hlog]; exact h.sorted
  past := by rw [hlog]; exact fun time ht => Nat.le_trans (h.past time ht) hnow

/-- Waking up for a request holds it back anew; the end of an interval leaves an open request as it
is. -/
theorem wake (h : Held debounce c) (reason : Wake) (rest : List Command) :
    Held debounce { c with
      inbox := rest
      loop := c.loop.wake debounce c.now reason
      stage := .woken
      log := .woken c.now reason :: c.log } := by
  cases reason with
  | request =>
    refine ⟨rfl, fun time ht => ?_, nofun, ?_, fun time ht => ?_⟩
    · obtain rfl : c.now = time := Option.some.inj ht
      exact ⟨congrArg some (merge_requested _), rfl⟩
    · exact List.Pairwise.cons h.past h.sorted
    · rcases List.mem_cons.mp ht with rfl | ht
      · exact Nat.le_refl _
      · exact h.past time ht
  | tick =>
    refine ⟨?_, fun time ht => ?_, fun hnone hpending => ?_, h.sorted, h.past⟩
    · change true = (c.loop.deadline.or (some c.now)).isSome
      rw [Option.isSome_or, Option.isSome_some, Bool.or_true]
    · obtain ⟨hpending, hdeadline⟩ := h.last time ht
      refine ⟨congrArg some ((merge_interval_eq_requested_iff _).mpr hpending), ?_⟩
      change c.loop.deadline.or (some c.now) = _
      rw [hdeadline, Option.some_or]
    · have hmerge := (merge_interval_eq_requested_iff _).mp (Option.some.inj hpending)
      exact h.none_open hnone hmerge
  | deadline => exact h.congr rfl rfl rfl (Nat.le_refl _)

theorem conclude (h : Held debounce c) (trigger : Trigger) (fetched : Snapshot.Result) :
    Held debounce { c with
      loop := (c.loop.conclude trigger fetched).1
      stage := .waiting
      log := .told c.now (c.loop.conclude trigger fetched).2 :: c.log } := by
  cases fetched with
  | ok clusters => exact h.congr rfl rfl rfl (Nat.le_refl _)
  | error e => exact h.congr rfl rfl rfl (Nat.le_refl _)

theorem step (h : Held debounce c) (hstep : Step debounce c c') : Held debounce c' := by
  cases hstep with
  | pass time htime => exact h.congr rfl rfl rfl htime
  | send command hstage => exact h.congr rfl rfl rfl (Nat.le_refl _)
  | wake reason rest hstage hready => exact h.wake reason rest
  | wait hstage hdue => exact h.congr rfl rfl rfl (Nat.le_refl _)
  | fetch trigger hstage hdue =>
    -- starting a fetch leaves nothing pending and no request open
    exact ⟨rfl, fun _ => nofun, fun _ => nofun, .nil, fun _ => nofun⟩
  | tell trigger fetched hstage => exact h.conclude trigger fetched
  | unheard trigger hstage => exact h.congr rfl rfl rfl (Nat.le_refl _)
  | stop rest hstage hrest => exact h.congr rfl rfl rfl (Nat.le_refl _)

theorem of_reachable (h : c.Reachable debounce) : Held debounce c :=
  h.induction (Held.start debounce) fun _ _ => step

/-- What is due is a request exactly if there are any, and then every one of them has been held
back for long enough. -/
theorem of_due? (h : Held debounce c) {trigger : Trigger}
    (hdue : c.loop.due? c.now = some trigger) :
    (trigger = .requested ↔ openRequests c.log ≠ []) ∧
      ∀ time ∈ openRequests c.log, time + debounce ≤ c.now := by
  obtain ⟨deadline, hdeadline, hpending, hcome⟩ := Loop.due?_eq_some_iff.mp hdue
  cases hopen : openRequests c.log with
  | nil =>
    refine ⟨iff_of_false (fun htrigger => ?_) (by simp), fun time => nofun⟩
    rw [htrigger] at hpending
    exact h.none_open hopen hpending
  | cons newest earlier =>
    obtain ⟨hrequested, hheld⟩ := h.last newest (by rw [hopen]; rfl)
    have htrigger : trigger = .requested := Option.some.inj (hpending.symm.trans hrequested)
    obtain rfl : deadline = newest + debounce := Option.some.inj (hdeadline.symm.trans hheld)
    refine ⟨iff_of_true htrigger (by simp), fun time ht => ?_⟩
    have hnewest : time ≤ newest := by
      have hsorted := h.sorted
      rw [hopen] at hsorted
      rcases List.mem_cons.mp ht with rfl | ht
      · exact Nat.le_refl _
      · exact List.rel_of_pairwise_cons hsorted ht
    exact Nat.le_trans (Nat.add_le_add_right hnewest debounce) hcome

/-- **A request is served at the first waking after its time.** Once the last open request has been
held back for long enough, a fetch is due. -/
theorem due?_of_open (h : Held debounce c) {time : Nat}
    (hlast : (openRequests c.log).head? = some time) (hcome : time + debounce ≤ c.now) :
    c.loop.due? c.now = some .requested := by
  obtain ⟨hpending, hdeadline⟩ := h.last time hlast
  exact Loop.due?_eq_some_iff.mpr ⟨time + debounce, hdeadline, hpending, hcome⟩

end Held

/-! ### The order of what happens -/

/-- What may happen after a log. A fetch is started for all open requests and for no fetch that is
still running, and what is told next is its outcome. -/
def Fits (debounce : Nat) (log : List Happening) : Happening → Prop
  | .woken _ _ => running? log = none
  | .fetching time trigger => running? log = none ∧
      (trigger = .requested ↔ openRequests log ≠ []) ∧
      ∀ request ∈ openRequests log, request + debounce ≤ time
  | .told _ event => running? log = some event.trigger

/-- Everything that happened fits what had happened before, and the log ends in a fetch as long as
the fetch is running. -/
structure Orderly (debounce : Nat) (c : Course) : Prop where
  fits : ∀ later h earlier, c.log = later ++ h :: earlier → Fits debounce earlier h
  fetching : ∀ trigger, c.stage = .fetching trigger → running? c.log = some trigger
  idle : c.stage = .waiting ∨ c.stage = .woken → running? c.log = none

namespace Orderly

variable {debounce : Nat} {c c' : Course}

theorem start (debounce now : Nat) : Orderly debounce (Course.start now) where
  fits later h earlier hlog := by simp [Course.start] at hlog
  fetching _ := nofun
  idle _ := rfl

/-- One more happening has to fit what happened before. -/
theorem fits_cons {log : List Happening} {new : Happening}
    (hlog : ∀ later h earlier, log = later ++ h :: earlier → Fits debounce earlier h)
    (hnew : Fits debounce log new) (later : List Happening) (h : Happening)
    (earlier : List Happening) (hsplit : new :: log = later ++ h :: earlier) :
    Fits debounce earlier h := by
  cases later with
  | nil =>
    obtain ⟨rfl, rfl⟩ := List.cons.inj hsplit
    exact hnew
  | cons _ later => exact hlog later h earlier (List.cons.inj hsplit).2

theorem trigger_conclude (l : Loop) (trigger : Trigger) (fetched : Snapshot.Result) :
    (l.conclude trigger fetched).2.trigger = trigger := by
  cases fetched <;> rfl

theorem step (h : Orderly debounce c) (hheld : Held debounce c) (hstep : Step debounce c c') :
    Orderly debounce c' := by
  cases hstep with
  | pass time htime => exact ⟨h.fits, h.fetching, h.idle⟩
  | send command hstage => exact ⟨h.fits, h.fetching, h.idle⟩
  | wake reason rest hstage hready =>
    have hidle : running? c.log = none := h.idle (Or.inl hstage)
    exact ⟨fits_cons h.fits hidle, fun _ => nofun, fun _ => rfl⟩
  | wait hstage hdue => exact ⟨h.fits, fun _ => nofun, fun _ => h.idle (Or.inr hstage)⟩
  | fetch trigger hstage hdue =>
    obtain ⟨htrigger, hcome⟩ := hheld.of_due? hdue
    refine ⟨fits_cons h.fits ⟨h.idle (Or.inr hstage), htrigger, hcome⟩, fun trigger' ht => ?_, ?_⟩
    · obtain rfl : trigger = trigger' := Stage.fetching.inj ht
      rfl
    · rintro (ht | ht) <;> cases ht
  | tell trigger fetched hstage =>
    refine ⟨fits_cons h.fits ?_, fun _ => nofun, fun _ => rfl⟩
    change running? c.log = _
    rw [trigger_conclude]
    exact h.fetching trigger hstage
  | unheard trigger hstage =>
    refine ⟨h.fits, fun _ => nofun, ?_⟩
    rintro (ht | ht) <;> cases ht
  | stop rest hstage hrest =>
    refine ⟨h.fits, fun _ => nofun, ?_⟩
    rintro (ht | ht) <;> cases ht

theorem of_reachable (h : c.Reachable debounce) : Orderly debounce c := by
  have hboth := h.induction (I := fun c => Held debounce c ∧ Orderly debounce c)
    (fun now => ⟨Held.start debounce now, Orderly.start debounce now⟩)
    fun _ _ h hstep => ⟨h.1.step hstep, h.2.step h.1 hstep⟩
  exact hboth.2

/-- Right after a fetch its outcome is told, unless it is still running or the worker has
stopped. -/
theorem told_of_fetching (h : Orderly debounce c) {later earlier : List Happening} {time : Nat}
    {trigger : Trigger} (hlog : c.log = later ++ .fetching time trigger :: earlier) :
    (later = [] ∧ (c.stage = .fetching trigger ∨ c.stage = .stopped)) ∨
      ∃ rest time' event, later = rest ++ [.told time' event] ∧ event.trigger = trigger := by
  rcases List.eq_nil_or_concat later with rfl | ⟨rest, next, rfl⟩
  · refine Or.inl ⟨rfl, ?_⟩
    have hrunning : running? c.log = some trigger := by
      rw [hlog]
      rfl
    cases hstage : c.stage with
    | fetching trigger' =>
      rw [h.fetching trigger' hstage] at hrunning
      exact Or.inl (congrArg _ (Option.some.inj hrunning))
    | stopped => exact Or.inr rfl
    | waiting =>
      rw [h.idle (Or.inl hstage)] at hrunning
      cases hrunning
    | woken =>
      rw [h.idle (Or.inr hstage)] at hrunning
      cases hrunning
  · refine Or.inr ?_
    rw [List.concat_eq_append, List.append_assoc, List.singleton_append] at hlog
    have hfits := h.fits rest next (.fetching time trigger :: earlier) hlog
    cases next with
    | told time' event =>
      exact ⟨rest, time', event, List.concat_eq_append, (Option.some.inj hfits).symm⟩
    | woken time' reason => cases hfits
    | fetching time' trigger' => cases hfits.1

end Orderly

/-! ### Numbers and requests -/

/-- Counting on from a count that is held at the limit. -/
theorem next_min (count : Nat) :
    Count.next (Nat.min count Count.limit) = Nat.min (count + 1) Count.limit := by
  change min (min count Count.limit + 1) Count.limit = min (count + 1) Count.limit
  omega

/-- The numbers told are one, two, three and so on up to the limit, and the loop knows the last. -/
def Counted (c : Course) : Prop :=
  ∃ count, c.loop.revision = Nat.min count Count.limit ∧
    revisions c.log = (List.range' 1 count).map (Nat.min · Count.limit)

theorem Counted.step {debounce : Nat} {c c' : Course} (h : c.Counted)
    (hstep : Step debounce c c') : c'.Counted := by
  obtain ⟨count, hlast, hlog⟩ := h
  cases hstep with
  | tell trigger fetched hstage =>
    cases fetched with
    | error e => exact ⟨count, hlast, hlog⟩
    | ok clusters =>
      have hnext : Count.next c.loop.revision = Nat.min (count + 1) Count.limit := by
        rw [hlast, next_min]
      refine ⟨count + 1, hnext, ?_⟩
      change (Count.next c.loop.revision :: c.log.filterMap Happening.revision?).reverse = _
      rw [List.reverse_cons, List.range'_1_concat, List.map_append, ← hlog, hnext, Nat.add_comm 1]
      rfl
  | wake reason rest hstage hready =>
    cases reason with
    | request => exact ⟨count, hlast, hlog⟩
    | tick => exact ⟨count, hlast, hlog⟩
    | deadline => exact ⟨count, hlast, hlog⟩
  | _ => exact ⟨count, hlast, hlog⟩

theorem Counted.of_reachable {debounce : Nat} {c : Course} (h : c.Reachable debounce) : c.Counted :=
  h.induction (fun _ => ⟨0, rfl, rfl⟩) fun _ _ => Counted.step

/-- Every refresh that was asked for has been looked at or is in the inbox. -/
def Accounted (c : Course) : Prop :=
  c.asked = c.log.countP Happening.isRequest + c.inbox.count .refresh

theorem Accounted.step {debounce : Nat} {c c' : Course} (h : c.Accounted)
    (hstep : Step debounce c c') : c'.Accounted := by
  unfold Accounted at h ⊢
  cases hstep with
  | send command hstage =>
    dsimp only
    rw [h, List.count_append, Nat.add_assoc]
  | wake reason rest hstage hready =>
    cases hready with
    | request rest hinbox =>
      dsimp only
      rw [h, hinbox, List.count_cons_self, List.countP_cons_of_pos rfl]
      omega
    | tick => exact h
    | deadline d hd hcome => exact h
  | stop rest hstage hrest =>
    rcases hrest with hinbox | ⟨hinbox, rfl⟩
    · rw [hinbox] at h
      exact h
    · rw [hinbox] at h
      exact h
  | _ => exact h

/-- **No request is lost, relabelled or served early.** Whatever happens to the loop, in whatever
order: something is pending exactly if there is a time at which it is due. While requests are open,
a request is pending and is due when the last of them has been held back for long enough, whatever
else the loop was woken for. A fetch is started only when that time has come for all of them, it is
labelled as requested exactly if there are any, and exactly one event follows, with its label,
unless the fetch is still running or nobody listens any more; no other events are told. The
snapshots told are numbered one by one from the first, failures taking no number. And every refresh
that was asked for has been looked at or is still in the inbox. -/
theorem requests_served {debounce : Nat} {c : Course} (h : c.Reachable debounce) :
    c.loop.pending.isSome = c.loop.deadline.isSome ∧
    (∀ time, (openRequests c.log).head? = some time →
      c.loop.pending = some .requested ∧ c.loop.deadline = some (time + debounce)) ∧
    (∀ later time trigger earlier, c.log = later ++ .fetching time trigger :: earlier →
      (∀ request ∈ openRequests earlier, request + debounce ≤ time) ∧
      (trigger = .requested ↔ openRequests earlier ≠ []) ∧
      ((later = [] ∧ (c.stage = .fetching trigger ∨ c.stage = .stopped)) ∨
        ∃ rest time' event, later = rest ++ [.told time' event] ∧ event.trigger = trigger)) ∧
    (∀ later time event earlier, c.log = later ++ .told time event :: earlier →
      ∃ time' before, earlier = .fetching time' event.trigger :: before) ∧
    (∃ count, revisions c.log = (List.range' 1 count).map (Nat.min · Count.limit)) ∧
    c.asked = c.log.countP Happening.isRequest + c.inbox.count .refresh := by
  have hheld : Held debounce c := .of_reachable h
  have horderly : Orderly debounce c := .of_reachable h
  have hcounted : c.Counted := .of_reachable h
  have haccounted : c.Accounted := h.induction (fun _ => rfl) fun _ _ => Accounted.step
  refine ⟨hheld.agree, hheld.last, fun later time trigger earlier hlog => ?_,
    fun later time event earlier hlog => ?_, ?_, haccounted⟩
  · obtain ⟨-, htrigger, hcome⟩ := horderly.fits later _ earlier hlog
    exact ⟨hcome, htrigger, horderly.told_of_fetching hlog⟩
  · exact exists_of_running? (horderly.fits later _ earlier hlog)
  · obtain ⟨count, -, hlog⟩ := hcounted
    exact ⟨count, hlog⟩

/-- Two requests with the end of an interval in between, the second one made while the loop is
holding the first one back. -/
theorem requests_served_together :
    let earlier : List Happening :=
      [.woken 1300 .deadline, .woken 1100 .request, .woken 1050 .tick, .woken 1000 .request,
        .told 30 (.updated [] 1 .startup), .fetching 0 .startup, .woken 0 .deadline]
    let c : Course :=
      { loop := ⟨none, none, 2⟩, stage := .waiting, now := 1310, inbox := [], asked := 2
        log := .told 1310 (.updated [] 2 .requested) :: .fetching 1300 .requested :: earlier }
    c.Reachable 200 ∧ openRequests earlier = [1100, 1000] ∧
      (∀ request ∈ openRequests earlier, request + 200 ≤ 1300) ∧
      ∃ count, revisions c.log = (List.range' 1 count).map (Nat.min · Count.limit) := by
  intro earlier c
  have hreach : c.Reachable 200 := by
    refine ⟨0, ?_⟩
    -- the first fetch, which takes a while
    refine .head (.wake .deadline [] rfl (.deadline 0 rfl (Nat.le_refl 0))) ?_
    refine .head (.fetch .startup rfl rfl) ?_
    refine .head (.pass 30 (by decide)) ?_
    refine .head (.tell .startup (.ok []) rfl) ?_
    -- a request, and the end of an interval
    refine .head (.send .refresh nofun) ?_
    refine .head (.pass 1000 (by decide)) ?_
    refine .head (.wake .request [] rfl (.request [] rfl)) ?_
    refine .head (.wait rfl rfl) ?_
    refine .head (.pass 1050 (by decide)) ?_
    refine .head (.wake .tick [] rfl .tick) ?_
    refine .head (.wait rfl rfl) ?_
    -- another request, which starts the time anew
    refine .head (.send .refresh nofun) ?_
    refine .head (.pass 1100 (by decide)) ?_
    refine .head (.wake .request [] rfl (.request [] rfl)) ?_
    refine .head (.wait rfl rfl) ?_
    -- one fetch for both
    refine .head (.pass 1300 (by decide)) ?_
    refine .head (.wake .deadline [] rfl (.deadline 1300 rfl (Nat.le_refl 1300))) ?_
    refine .head (.fetch .requested rfl rfl) ?_
    refine .head (.pass 1310 (by decide)) ?_
    exact .single (.tell .requested (.ok []) rfl)
  obtain ⟨-, -, hfetches, -, hrevisions, -⟩ := requests_served hreach
  obtain ⟨hcome, -, -⟩ :=
    hfetches [.told 1310 (.updated [] 2 .requested)] 1300 .requested earlier rfl
  exact ⟨hreach, rfl, hcome, hrevisions⟩

end Course

end ClusterMap.Refresh
