import ClusterMap.Refresh.Loop

/-!
# The refresh worker on a clock

Runs the refresh loop on a clock that is moved by hand, one millisecond after the other. A fetch
takes no time here; its outcome is given by whoever moves the clock.
-/

namespace ClusterMap.Refresh

/-- A worker and its clock. -/
structure Worker where
  /-- The length of an interval. -/
  poll : Nat
  /-- How long a request is held back. -/
  debounce : Nat
  now : Nat
  /-- When the current interval ends. -/
  nextTick : Nat
  /-- Absent once the worker has stopped. -/
  loop : Option Loop
deriving Inhabited

/-- A worker and what it has told, with the time of each event. -/
abbrev Told := Worker × List (Nat × Event)

namespace Worker

/-- Whether the worker has stopped. -/
def hasEnded (w : Worker) : Bool := w.loop.isNone

/-- Wakes the loop, and runs the fetch if it is due then. -/
def wake (fetched : Snapshot.Result) (reason : Wake) (w : Worker) : Told :=
  match w.loop with
  | none => (w, [])
  | some l =>
    let l := l.wake w.debounce w.now reason
    match l.due? w.now with
    | none => ({ w with loop := some l }, [])
    | some trigger =>
      let (l, e) := l.begin.conclude trigger fetched
      ({ w with loop := some l }, [(w.now, e)])

/-- Goes on from what a worker has told. -/
def andThen (t : Told) (f : Worker → Told) : Told :=
  let (w, later) := f t.1
  (w, t.2 ++ later)

/-- Ends the current interval if its time has come. -/
def tick (fetched : Snapshot.Result) (w : Worker) : Told :=
  if w.nextTick ≤ w.now then
    { w with nextTick := w.nextTick + w.poll }.wake fetched .tick
  else (w, [])

/-- Lets the worker do everything whose time has come. -/
def settle (fetched : Snapshot.Result) (w : Worker) : Told :=
  andThen (w.wake fetched .deadline) (tick fetched)

/-- A worker that has just been started. Intervals must have a length. -/
def start (poll debounce : Nat) (fetched : Snapshot.Result) : Told :=
  let loop := if poll = 0 then none else some (Loop.start 0)
  { poll, debounce, now := 0, nextTick := poll, loop : Worker }.wake fetched .deadline

/-- A refresh is requested. -/
def request (fetched : Snapshot.Result) (w : Worker) : Told := w.wake fetched .request

/-- The worker is told to stop. -/
def stop (w : Worker) : Worker := { w with loop := none }

/-- Some milliseconds go by. -/
def advance (fetched : Snapshot.Result) : Nat → Worker → Told
  | 0, w => (w, [])
  | ms + 1, w =>
    andThen ({ w with now := w.now + 1 }.settle fetched) (advance fetched ms)

end Worker

end ClusterMap.Refresh
