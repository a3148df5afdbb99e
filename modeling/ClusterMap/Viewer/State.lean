import ClusterMap.Refresh.Loop
import ClusterMap.View.Session
import ClusterMap.Viewer.Notices
import ClusterMap.Viewer.Pending

/-!
# The state of the viewer

The viewer shows a session in a window. It is linked to a worker that delivers snapshots, and to one
that carries out requests and tells their outcomes. What the viewer wants of its host is put into an
outbox (`Order`).

A frame of the session is kept and painted again until something asks for another one (`dirty`). The
session reports what an event changed by its effects, which `apply` carries out.
-/

namespace ClusterMap

namespace Viewer

/-- What the viewer wants of its host. -/
inductive Order where
  | execute (request : Request)
  | refresh
  | setFullscreen (value : Bool)

/-- Which links to the workers still stand. -/
structure Links where
  /-- Snapshots come in. -/
  snapshots : Bool := true
  /-- Outcomes of requests come in. -/
  outcomes : Bool := true
  /-- Requests go out. -/
  requests : Bool := true
deriving DecidableEq, Repr

end Viewer

/-- A viewer. -/
structure Viewer (α : Type) where
  session : Session α
  /-- The frame on the canvas. -/
  batch : Option (Batch α)
  /-- Whether the frame on the canvas may be out of date. -/
  dirty : Bool
  /-- Where the pointer was last seen over the canvas. -/
  lastPointer : Option (Point α)
  pending : Option Viewer.Pending
  notices : List Viewer.Notice
  statusLine : String
  /-- The node that the companion list is to be scrolled to. -/
  scrollTarget : Option String
  /-- Whether it is known that requests are not carried out any more. -/
  dispatchLost : Bool
  /-- Whether it is known that no snapshots come any more. -/
  watchLost : Bool
  links : Viewer.Links
  /-- What the host has not yet fetched, oldest first. -/
  outbox : List Viewer.Order
  /-- The time, in milliseconds. -/
  now : Nat

namespace Viewer

variable {α : Type} [Scalar α]

/-- A viewer that has just been opened. -/
def start (session : Session α) : Viewer α :=
  { session
    batch := none
    dirty := true
    lastPointer := none
    pending := none
    notices := []
    statusLine := "Waiting for the first snapshot..."
    scrollTarget := none
    dispatchLost := false
    watchLost := false
    links := {}
    outbox := []
    now := 0 }

/-- Tells the user something. -/
def tell (v : Viewer α) (n : Notification) : Viewer α :=
  { v with notices := Notice.push v.now v.notices n }

/-- Tells the user of a failure. -/
def tellError (v : Viewer α) (message : String) : Viewer α := v.tell ⟨.error, message⟩

/-- Puts an order into the outbox. -/
def ask (v : Viewer α) (o : Order) : Viewer α := { v with outbox := v.outbox ++ [o] }

/-! ### What comes in -/

/-- The status line after a snapshot was taken over. -/
def snapshotLine (revision : Nat) (nodes : Nat) (trigger : Refresh.Trigger) : String :=
  s!"Snapshot rev {revision} ({nodes} visible nodes, trigger: {trigger.name})"

/-- The status line after a failed refresh. -/
def failureLine (trigger : Refresh.Trigger) (message : String) : String :=
  s!"Refresh failed (trigger: {trigger.name}): {message}"

/-- Something came from the refresh worker. A snapshot that is not new changes nothing. -/
def takeRefresh (v : Viewer α) (e : Refresh.Event) : Viewer α :=
  if !v.links.snapshots then v
  else match e with
    | .updated clusters revision trigger =>
      let (session, fresh) := v.session.apply clusters (some revision)
      if fresh then
        { v with
          session
          dirty := true
          statusLine := snapshotLine revision session.layout.nodes.length trigger }
      else v
    | .failed trigger message => { v with statusLine := failureLine trigger message }

/-- The outcome of a request came in. Old messages are dropped after each one. Where several come in
together, it comes to the same to drop them once after all (`Viewer.foldl_takeOutcome`). -/
def takeOutcome (v : Viewer α) (n : Notification) : Viewer α :=
  if v.links.outcomes then v.tell n else v

/-- The refresh worker is gone, which the user is told once. -/
def loseSnapshots (v : Viewer α) : Viewer α :=
  let v := { v with links := { v.links with snapshots := false } }
  if v.watchLost then v
  else
    { v.tellError "Snapshot refresh stopped; restart the viewer to resume." with
      watchLost := true }

/-- No outcomes come any more, which the user is told once. -/
def loseOutcomes (v : Viewer α) : Viewer α :=
  let v := { v with links := { v.links with outcomes := false } }
  if v.dispatchLost then v
  else
    { v.tellError "Command worker disconnected; actions are unavailable." with
      dispatchLost := true }

/-- Requests are not taken any more. This is noticed when the next one is made. -/
def loseRequests (v : Viewer α) : Viewer α := { v with links := { v.links with requests := false } }

/-- Some time goes by. -/
def wait (v : Viewer α) (ms : Nat) : Viewer α := { v with now := v.now + ms }

/-! ### What the session reports -/

/-- Lets the user decide about a chosen action. -/
def begin (v : Viewer α) (plan : Plan) : Viewer α :=
  match Pending.ofPlan? plan with
  | some pending => { v with pending := some pending }
  | none => v

/-- Carries out one effect of the session. -/
def applyEffect (v : Viewer α) : Effect → Viewer α
  | .redraw => { v with dirty := true }
  | .dispatch plan => v.begin plan
  | .focusCompanion nodeId => { v with dirty := true, scrollTarget := some nodeId }
  | .fullscreenChanged value => v.ask (.setFullscreen value)

/-- Carries out the effects of the session. -/
def applyEffects (v : Viewer α) (effects : List Effect) : Viewer α := effects.foldl applyEffect v

/-- Passes an event on to the session. -/
def forward (v : Viewer α) (e : Event α) : Viewer α :=
  let (session, effects) := v.session.handle e
  { v with session }.applyEffects effects

/-- Brings a node into view, if there is one with the identifier. -/
def focus? (v : Viewer α) (nodeId : String) : Option (Viewer α) :=
  (v.session.focus? nodeId).map fun (session, effect) => { v with session }.applyEffect effect

/-! ### What the user decides -/

/-- Hands a request over. -/
def handOver (v : Viewer α) (r : Request) : Viewer α :=
  if v.links.requests then v.ask (.execute r)
  else { v.tellError "Failed to hand the action to the command worker: channel closed" with
    dispatchLost := true }

/-- Drops the pending action. -/
def cancel (v : Viewer α) : Viewer α := { v with pending := none }

/-- The user agrees to the pending action. A dialog that lacks a text stays open and says so. -/
def agree (v : Viewer α) : Viewer α :=
  match v.pending with
  | none => v
  | some (.confirm _ r) => v.cancel.handOver r
  | some (.dialog d r values _) =>
    match Pending.complete d r values with
    | .ok r => v.cancel.handOver r
    | .error f =>
      { v with pending := some (.dialog d r values (some (Dialog.requiredMessage f))) }

/-- Settles the pending action at one go, for a host that has all texts and shows no dialog. It
stands for what the user would do in the window: enter the texts, agree, and drop the action if it
is still pending then (`settle_eq`). The second part tells whether a request was made. -/
def settle (v : Viewer α) (values : Entries String) : Viewer α × Bool :=
  match v.pending.bind fun p => (p.withValues values).agreed? with
  | some r => (v.cancel.handOver r, true)
  | none => (v.cancel, false)

omit [Scalar α] in
/-- After the user has agreed, a request that could be made is not pending any more, and another one
is dropped. -/
theorem cancel_agree (v : Viewer α) :
    v.agree.cancel = match v.pending.bind Pending.agreed? with
      | some r => v.cancel.handOver r
      | none => v.cancel := by
  have hdropped : ∀ r, (v.cancel.handOver r).cancel = v.cancel.handOver r := by
    intro r
    unfold handOver
    split
    · rfl
    · rfl
  unfold agree
  cases hp : v.pending with
  | none => rfl
  | some p =>
    cases p with
    | confirm message r => exact hdropped r
    | dialog d r values error =>
      rw [Option.bind_some, Pending.agreed?]
      dsimp only
      cases Pending.complete d r values with
      | ok r' => exact hdropped r'
      | error f => rfl

omit [Scalar α] in
/-- Settling is entering the texts, agreeing and dropping what is left. -/
theorem settle_eq (v : Viewer α) (values : Entries String) :
    (v.settle values).1 =
      { v with pending := v.pending.map (Pending.withValues values) }.agree.cancel := by
  rw [cancel_agree, settle]
  cases v.pending with
  | none => rfl
  | some p =>
    dsimp only [Option.map_some, Option.bind_some]
    cases (p.withValues values).agreed? <;> rfl

/-- Enters a text into the dialog, if one is open. -/
def fill? (v : Viewer α) (field text : String) : Option (Viewer α) :=
  (v.pending.bind (·.fill? field text)).map fun p => { v with pending := some p }

/-- Keys that the viewer knows. -/
inductive Key where
  | escape
  | f11
deriving DecidableEq, Repr

/-- A key was pressed. Escape drops the pending action, or else closes the menu. -/
def key (v : Viewer α) : Key → Viewer α
  | .escape => if v.pending.isSome then v.cancel else v.forward .dismiss
  | .f11 => v.forward .toggleFullscreen

/-! ### The canvas -/

/-- Draws the next frame. -/
def draw (v : Viewer α) : Viewer α × Batch α :=
  let (session, batch) := v.session.render
  ({ v with session, batch := some batch, dirty := false }, batch)

/-- Draws the next frame if the one on the canvas may be out of date. -/
def drawIfNeeded (v : Viewer α) : Viewer α :=
  if v.dirty || v.batch.isNone then v.draw.1 else v

end Viewer

end ClusterMap
