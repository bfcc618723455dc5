import VpnFleet.Schedule.Step

/-!
# Runs

The tasks of a world run one at a time, in the order of the queue, each until
it parks or ends; tasks that have become able to go on enter the queue behind
the others. A world is settled when the queue is empty.

Time moves only when a settled world is told to advance. The alarms on the way
go off at their times, those of one time in order of registration, and the
world settles after each.
-/

namespace VpnFleet
namespace World

/-- Tasks that have become able to go on enter the queue. -/
def wake (world : World) : World :=
  let woken := world.tasks.filter fun task =>
    !world.ready.contains task.id && task.canGoOn world
  { world with ready := world.ready ++ woken.map Task.id }

/-- The first task of the queue takes a step; it keeps its place while it can take another. -/
def runFirst (world : World) : World :=
  match world.ready with
  | [] => world
  | id :: rest =>
    match world.task? id with
    | none => { world with ready := rest }
    | some task =>
      match { world with ready := rest }.stepTask task with
      | (world, .again) => { world with ready := id :: world.ready }.wake
      | (world, _) => world.wake

/-- Runs for a bounded number of steps, or until the queue is empty. -/
def runFor : Nat → World → World
  | 0, world => world
  | fuel + 1, world => if world.ready.isEmpty then world else runFor fuel world.runFirst

/-- More steps than any settling takes. -/
def stepLimit : Nat :=
  1 <<< 24

/-- Runs until every task is parked. -/
def settle (world : World) : World :=
  runFor stepLimit world.wake

/-- The time of the next alarm, if it is not later than `target`. -/
def nextAlarm? (world : World) (target : Nat) : Option Nat :=
  ((world.alarms.map Alarm.deadline).min?).filter (· ≤ target)

/-- The alarms of a time go off. -/
def ring (world : World) (time : Nat) : World :=
  let (due, later) := world.alarms.partition fun alarm => alarm.deadline ≤ time
  let called := due.map Alarm.task
  { world with
    now := max world.now time
    alarms := later
    ready := called.eraseDups.filter fun id => (world.task? id).isSome }

/-- Lets time pass up to `target`, alarm by alarm. -/
def advanceTo (target : Nat) : Nat → World → World
  | 0, world => { world with now := target }.settle
  | fuel + 1, world =>
    match world.nextAlarm? target with
    | none => { world with now := target }.settle
    | some time => advanceTo target fuel (world.ring time).settle

/-- Lets some milliseconds pass. Every alarm that goes off is later than the one before. -/
def advance (world : World) (ms : Nat) : World :=
  advanceTo (world.now + ms) (ms + 1) world

end World
end VpnFleet
