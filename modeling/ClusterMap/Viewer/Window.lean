import ClusterMap.Viewer.Companion
import ClusterMap.Viewer.State

/-!
# The window

What the window shows around the canvas, from first to last painted (`Viewer.items`), which of it
can be pressed, and what a whole frame does (`Viewer.frame`).

Where things stand is left to the host, apart from the size of the canvas, which the session has to
fit into.
-/

namespace ClusterMap.Viewer

variable {α : Type} [Scalar α]

/-- What can be pressed. -/
inductive Control where
  | refresh
  | fullscreen
  | row (nodeId : String)
  /-- Agrees to the pending action. -/
  | agree
  | cancel
deriving DecidableEq, Repr

/-- A text in the window, and what pressing it does. -/
structure Item where
  text : String
  control : Option Control
deriving DecidableEq, Repr

/-- A text that does nothing. -/
def Item.plain (text : String) : Item := ⟨text, none⟩

/-- A text that can be pressed. -/
def Item.button (text : String) (control : Control) : Item := ⟨text, some control⟩

/-! ### What is shown -/

/-- The tool bar. Refreshing is not offered when no snapshots come any more. -/
def toolbar (v : Viewer α) : List Item :=
  [⟨"Refresh", if v.watchLost then none else some .refresh⟩,
    .button (if v.session.view.fullscreen then "Exit fullscreen" else "Fullscreen") .fullscreen,
    .plain v.statusLine]

/-- The messages, the newest first. -/
def noticeItems (v : Viewer α) : List Item :=
  if v.notices.isEmpty then [.plain "No recent actions."]
  else v.notices.reverse.map fun n => .plain n.notification.message

/-- The companion list, which gives way to the canvas on a full screen. -/
def companionItems (v : Viewer α) : List Item :=
  if v.session.view.fullscreen then []
  else
    let rows := companionOf v.session.tree
    .plain "Topology" ::
      if rows.isEmpty then [.plain "No clusters yet."]
      else rows.map fun r => .button r.label (.row r.nodeId)

/-- A secret text as it is shown: a dot for each character. -/
def mask (text : String) : String := String.ofList (List.replicate text.length '•')

/-- A field of a dialog: its label and its text. -/
def fieldItems (values : Entries String) (f : DialogField) : List Item :=
  let text := (values.get? f.key).getD ""
  [.plain f.label, .plain (if f.secret then mask text else text)]

/-- The pending action, in a window of its own with the title painted last. -/
def pendingItems : Option Pending → List Item
  | none => []
  | some (.confirm message _) =>
    [.plain message, .button "Confirm" .agree, .button "Cancel" .cancel, .plain "Confirm action"]
  | some (.dialog d _ values error) =>
    d.fields.flatMap (fieldItems values) ++ (error.map Item.plain).toList ++
      [.button "Submit" .agree, .button "Cancel" .cancel, .plain d.title]

/-- Everything that is shown around the canvas, in the order in which it is painted. -/
def items (v : Viewer α) : List Item :=
  v.toolbar ++ v.noticeItems ++ v.companionItems ++ pendingItems v.pending

/-! ### Pressing -/

/-- What is pressed under a text: of several items with the text the one that is painted last. -/
def item? (v : Viewer α) (text : String) : Option Item := v.items.reverse.find? (·.text == text)

/-- Does what a control is for. -/
def actuate (v : Viewer α) : Control → Viewer α
  | .refresh => v.ask .refresh
  | .fullscreen => v.forward .toggleFullscreen
  | .row nodeId => (v.focus? nodeId).getD v
  | .agree => v.agree
  | .cancel => v.cancel

/-! ### Frames -/

/-- The size of the canvas, beside the companion list and without it. -/
structure Screen (α : Type) where
  beside : Viewport α
  full : Viewport α

/-- What the pointer does in a frame. -/
inductive Pointer (α : Type) where
  | away
  | over (point : Point α)
  | clicking (point : Point α)

/-- The canvas takes on the size that it has been given. -/
def fitCanvas (v : Viewer α) (viewport : Viewport α) : Viewer α :=
  if viewport.same v.session.view.viewport then v else v.forward (.resized viewport)

/-- The pointer is over a point of the canvas. -/
def hover (v : Viewer α) (p : Point α) : Viewer α :=
  if v.lastPointer.any (·.same p) then v
  else { v with lastPointer := some p }.forward (.pointerMoved p)

/-- The pointer is not over the canvas. -/
def leave (v : Viewer α) : Viewer α :=
  if v.lastPointer.isSome then { v with lastPointer := none }.forward .pointerLeft else v

/-- The canvas follows the pointer. -/
def follow (v : Viewer α) : Pointer α → Viewer α
  | .away => v.leave
  | .over p => v.hover p
  | .clicking p => (v.hover p).forward (.clicked p)

/-- The companion list is scrolled to its target, if it is shown. -/
def scroll (v : Viewer α) : Viewer α :=
  if v.session.view.fullscreen then v else { v with scrollTarget := none }

/-- One frame without anything pressed outside the canvas: old messages go, the canvas is fitted,
follows the pointer and is drawn if need be, and a dialog is shown with all its fields. -/
def frame (v : Viewer α) (screen : Screen α) (pointer : Pointer α) : Viewer α :=
  let v := { v with notices := Notice.expire v.now v.notices }.scroll
  let viewport := if v.session.view.fullscreen then screen.full else screen.beside
  let v := ((v.fitCanvas viewport).follow pointer).drawIfNeeded
  { v with pending := v.pending.map Pending.shown }

end ClusterMap.Viewer
