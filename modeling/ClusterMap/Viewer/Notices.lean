import ClusterMap.Task.Receipt

/-!
# Notices

Messages that the viewer shows for a while: each for six seconds, and at most six of them at a time,
of which the newest stay.
-/

namespace ClusterMap.Viewer

/-- A message and the time since when it is shown, in milliseconds. -/
structure Notice where
  notification : Notification
  shownAt : Nat
deriving DecidableEq, Repr

/-- For how long a message is shown, in milliseconds. -/
def noticeLifetime : Nat := 6000

/-- How many messages are shown at a time. -/
def noticeLimit : Nat := 6

namespace Notice

/-- Whether a message is still to be shown. One from the future is. -/
def isFresh (now : Nat) (n : Notice) : Bool := decide (now - n.shownAt < noticeLifetime)

/-- The messages still to be shown. -/
def expire (now : Nat) (notices : List Notice) : List Notice :=
  let fresh := notices.filter (isFresh now)
  fresh.drop (fresh.length - noticeLimit)

/-- Shows one more message. -/
def push (now : Nat) (notices : List Notice) (n : Notification) : List Notice :=
  expire now (notices ++ [⟨n, now⟩])

end Notice

end ClusterMap.Viewer
