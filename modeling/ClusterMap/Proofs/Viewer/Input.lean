import ClusterMap.Viewer.Window

/-!
# Runs of the viewer

Everything that a viewer can meet with is an input (`Viewer.Input`): what comes from the workers,
what the user does in the window and on the canvas, what the host asks for, and time. A run takes
one input after another (`Viewer.run`).
-/

namespace ClusterMap

namespace Viewer

/-- What a viewer can meet with. -/
inductive Input (α : Type) where
  /-- Something comes from the refresh worker. -/
  | refreshed (event : Refresh.Event)
  /-- The outcome of a request comes in. -/
  | outcome (notification : Notification)
  | snapshotsLost
  | outcomesLost
  | requestsLost
  /-- Some time goes by, in milliseconds. -/
  | waited (ms : Nat)
  /-- The host fetches the orders. -/
  | fetched
  | key (key : Key)
  | pressed (control : Control)
  /-- A text is entered into a field of the dialog. -/
  | filled (field text : String)
  /-- The pending action is settled with texts that are given at once, as by a user who enters them,
  agrees, and drops what is left (`settle_eq`). -/
  | settled (values : Entries String)
  /-- Something happens on the canvas. -/
  | canvas (event : Event α)
  | focused (nodeId : String)
  /-- A frame of the canvas is asked for. -/
  | drawn
  /-- The window is shown. -/
  | frame (screen : Screen α) (pointer : Pointer α)

variable {α : Type} [Scalar α]

/-- The viewer after an input. -/
def step (v : Viewer α) : Input α → Viewer α
  | .refreshed event => v.takeRefresh event
  | .outcome notification => v.takeOutcome notification
  | .snapshotsLost => v.loseSnapshots
  | .outcomesLost => v.loseOutcomes
  | .requestsLost => v.loseRequests
  | .waited ms => v.wait ms
  | .fetched => { v with outbox := [] }
  | .key k => v.key k
  | .pressed control => v.actuate control
  | .filled field text => (v.fill? field text).getD v
  | .settled values => (v.settle values).1
  | .canvas event => v.forward event
  | .focused nodeId => (v.focus? nodeId).getD v
  | .drawn => v.draw.1
  | .frame screen pointer => v.frame screen pointer

/-- The viewer after several inputs. -/
def run (v : Viewer α) (inputs : List (Input α)) : Viewer α := inputs.foldl step v

/-- **Run induction.** What every input keeps, a run keeps. -/
theorem run_induction {I : Viewer α → Prop} (hstep : ∀ v input, I v → I (v.step input))
    {v : Viewer α} (hv : I v) (inputs : List (Input α)) : I (v.run inputs) := by
  induction inputs generalizing v with
  | nil => exact hv
  | cons input rest ih => exact ih (hstep v input hv)

end Viewer

end ClusterMap
