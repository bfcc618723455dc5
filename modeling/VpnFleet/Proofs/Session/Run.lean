import Mathlib.Logic.Relation
import VpnFleet.Session

/-!
# Runs of a tracker

Any number of queries, openings and closings of one tracker may be under way at
once, interleaved with each other and with looks at the inventory. What an
operation does between two calls to the backend is one step, and the backend
may answer anything at any time or not at all.

* A `TrackerRun` holds the tracker, the calls under way and all that has
  happened.
* `TrackerRun.Step` is one step of one operation. The query that follows a
  successful opening is a query like any other.
* `TrackerRun.Reached` says that a run that began with nothing comes to a
  state.
-/

namespace VpnFleet

/-- A status query under way. -/
structure StatusCall where
  /-- The epoch that it remembers. -/
  epoch : Nat
  /-- The number of events up to its own beginning. -/
  begun : Nat

/-- What can happen to a tracker. -/
inductive TrackerEvent where
  | beginQuery
  | settleQuery (call : StatusCall) (answer : Except String StatusRecord)
  | reconcile (inventory : InventorySnapshot)
  | beginConnect (target : Instance)
  | refuseConnect (target : Instance) (error : SessionError)
  | settleConnect (target : Instance) (answer : Except String Unit)
  | beginDisconnect
  | settleDisconnect (answer : Except String Unit)
  | retire

/-- What happened to a tracker, the oldest first. -/
abbrev TrackerHistory := List TrackerEvent

/-- A tracker with the calls under way. -/
structure TrackerRun where
  tracker : Tracker
  alive : Bool
  queries : List StatusCall
  /-- The targets of the openings that the backend has not answered. -/
  connects : List Instance
  /-- The number of closings that the backend has not answered. -/
  disconnects : Nat
  past : TrackerHistory

namespace TrackerRun

/-- A tracker to which nothing has happened. -/
def new : TrackerRun where
  tracker := Tracker.empty
  alive := true
  queries := []
  connects := []
  disconnects := 0
  past := []

def note (run : TrackerRun) (event : TrackerEvent) : TrackerRun :=
  { run with past := run.past ++ [event] }

/-- One step of one operation. An inventory that is looked at may hold anything. -/
inductive Step : TrackerRun → TrackerRun → Prop
  | beginQuery (run : TrackerRun) :
      Step run { run.note .beginQuery with
        queries := run.queries
          ++ [{ epoch := run.tracker.beginQuery, begun := run.past.length + 1 }] }
  | settleQuery (run : TrackerRun) {i : Nat} {call : StatusCall}
      (inventory : InventorySnapshot) (answer : Except String StatusRecord)
      (found : run.queries[i]? = some call) :
      Step run { run.note (.settleQuery call answer) with
        tracker := (run.tracker.settleQuery run.alive inventory call.epoch answer).1
        queries := run.queries.eraseIdx i }
  | reconcile (run : TrackerRun) (inventory : InventorySnapshot) :
      Step run { run.note (.reconcile inventory) with
        tracker := run.tracker.reconcile inventory }
  | beginConnect (run : TrackerRun) (target : Instance)
      {tracker : Tracker}
      (accepted : run.tracker.beginConnect target = (tracker, .ok ())) :
      Step run { run.note (.beginConnect target) with
        tracker := tracker
        connects := run.connects ++ [target] }
  | refuseConnect (run : TrackerRun) (target : Instance)
      {tracker : Tracker} {error : SessionError}
      (refused : run.tracker.beginConnect target = (tracker, .error error)) :
      Step run { run.note (.refuseConnect target error) with tracker := tracker }
  | settleConnect (run : TrackerRun) {i : Nat} {target : Instance}
      (answer : Except String Unit)
      (found : run.connects[i]? = some target) :
      Step run { run.note (.settleConnect target answer) with
        tracker := (run.tracker.settleConnect run.alive target.id answer).1
        connects := run.connects.eraseIdx i }
  | beginDisconnect (run : TrackerRun) :
      Step run { run.note .beginDisconnect with disconnects := run.disconnects + 1 }
  | settleDisconnect (run : TrackerRun)
      (answer : Except String Unit)
      (pending : 0 < run.disconnects) :
      Step run { run.note (.settleDisconnect answer) with
        tracker := (run.tracker.settleDisconnect run.alive answer).1
        disconnects := run.disconnects - 1 }
  | retire (run : TrackerRun) :
      Step run { run.note .retire with alive := false }

/-- Each step adds one event to what happened. -/
theorem Step.exists_past_eq {run next : TrackerRun} (step : Step run next) :
    ∃ event, next.past = run.past ++ [event] := by
  cases step <;> exact ⟨_, rfl⟩

theorem Step.alive {run next : TrackerRun} (step : Step run next) (halive : next.alive = true) :
    run.alive = true := by
  cases step with
  | retire => cases halive
  | _ => exact halive

def Reached (run : TrackerRun) : Prop :=
  Relation.ReflTransGen Step new run

end TrackerRun
end VpnFleet
