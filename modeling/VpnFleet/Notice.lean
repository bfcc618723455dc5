import VpnFleet.Published

/-!
# Notices

Short messages for the user, in the order they were posted. Identifiers grow
and are never used again, whatever is dismissed or cleared.
-/

namespace VpnFleet

/-- How prominently a notice is shown. -/
inductive Severity where
  | info
  | warning
  | error
deriving DecidableEq, Repr

/-- The operation that a notice is about. -/
inductive NoticeKind where
  | regionLoad
  | partialInventory
  | spawn
  | terminate
  | connect
  | disconnect
  | subscription
  | credentials
deriving DecidableEq, Repr

namespace NoticeKind

/-- The word shown for an operation. -/
def label : NoticeKind → String
  | regionLoad => "regions"
  | partialInventory => "inventory"
  | spawn => "spawn"
  | terminate => "terminate"
  | connect => "connect"
  | disconnect => "disconnect"
  | subscription => "metrics"
  | credentials => "credentials"

end NoticeKind

/-- A posted message. -/
structure Notice where
  id : Nat
  severity : Severity
  kind : NoticeKind
  message : String
deriving DecidableEq, Repr

/-- The active notices, their publications, and the identifier used last. -/
structure NoticeBoard where
  published : Published (List Notice)
  lastId : Nat
deriving Repr

namespace NoticeBoard

/-- A board without notices. -/
def empty : NoticeBoard where
  published := Published.new []
  lastId := 0

/-- The active notices in posting order. -/
def active (board : NoticeBoard) : List Notice :=
  board.published.value

/-- Posts a notice; its identifier is the new `lastId`. -/
def post (board : NoticeBoard) (severity : Severity) (kind : NoticeKind) (message : String) :
    NoticeBoard where
  published := board.published.modify fun notices =>
    notices ++ [{ id := board.lastId + 1, severity, kind, message }]
  lastId := board.lastId + 1

/-- Removes the notice with the identifier; the flag tells whether it was active. -/
def dismiss (board : NoticeBoard) (id : Nat) : NoticeBoard × Bool :=
  let kept := board.active.filter fun notice => notice.id ≠ id
  let found := kept.length ≠ board.active.length
  ({ board with published := board.published.update kept found }, found)

/-- Removes every notice. -/
def clear (board : NoticeBoard) : NoticeBoard :=
  { board with published := board.published.update [] (!board.active.isEmpty) }

end NoticeBoard
end VpnFleet
