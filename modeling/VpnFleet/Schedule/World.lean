import VpnFleet.Backend.Basic
import VpnFleet.Schedule.Task

/-!
# The world of a client

A client, its backend, the time, and the tasks that run. Tasks that can go on
stand in one queue, first in first out; the others are parked until a call of
theirs is let through, a tick is due, or something they watch was published.

**Ownership.** The client is torn down once its owner has given it up and no
task or open spawn ticket holds it any more.
-/

namespace VpnFleet

/-- Who keeps the client from being torn down. -/
inductive Ownership where
  | owned
  /-- The owner gave it up; tasks and tickets may still hold it. -/
  | givenUp
  | gone
deriving DecidableEq, Repr

/-- A placeholder that waits to be confirmed or dropped. -/
structure SpawnTicket where
  label : String
  placeholder : Placeholder
deriving DecidableEq, Repr

/-- A tick that a parked task waits for. -/
structure Alarm where
  deadline : Nat
  task : Nat
deriving DecidableEq, Repr

/-- A client with everything around it. -/
structure World where
  client : Client
  backend : Backend
  /-- In milliseconds. -/
  now : Nat
  /-- The tasks in order of creation. -/
  tasks : List Task
  /-- The tasks that can go on. -/
  ready : List Nat
  /-- The ticks that are waited for, in order of registration. -/
  alarms : List Alarm
  nextTask : Nat
  /-- The background loops, until a teardown takes them over. -/
  background : List Nat
  /-- The results so far. -/
  finished : List Outcome
  tickets : List SpawnTicket
  ownership : Ownership

namespace World

/-- A world in which nothing has happened. -/
def new (client : Client) (backend : Backend) : World where
  client := client
  backend := backend
  now := 0
  tasks := []
  ready := []
  alarms := []
  nextTask := 0
  background := []
  finished := []
  tickets := []
  ownership := .owned

/-- The task with this number. -/
def task? (world : World) (id : Nat) : Option Task :=
  world.tasks.find? fun task => task.id = id

/-- Replaces a task. -/
def setTask (world : World) (task : Task) : World :=
  { world with tasks := world.tasks.map fun other => if other.id = task.id then task else other }

/-- Adds a task at the end of the queue. -/
def addTask (world : World) (activity : Activity) (holdsClient : Bool) : World :=
  { world with
    tasks := world.tasks ++
      [{ id := world.nextTask, activity, held := [], holdsClient, awaited := [] }]
    ready := world.ready ++ [world.nextTask]
    nextTask := world.nextTask + 1 }

/-- Something holds the client. -/
def isHeld (world : World) : Bool :=
  world.tasks.any Task.holdsClient || !world.tickets.isEmpty

/-- Tears the client down if it was given up and nothing holds it. -/
def tearDown (world : World) : World :=
  if world.ownership = .givenUp && !world.isHeld then
    { world with client := world.client.retire, ownership := .gone }
  else world

/-- Removes a task. -/
def removeTask (world : World) (id : Nat) : World :=
  { world with tasks := world.tasks.filter fun task => task.id ≠ id }.tearDown

/-- An effect of a step. -/
def perform (world : World) : Effect → World
  | .startForwarder feed => world.addTask (.forwarder feed) false
  | .stopForwarder feed =>
    { world with
      tasks := world.tasks.filter fun task => !task.activity.forwards feed
      backend := world.backend.hangUp feed.feed }

/-- The effects of a step, in order. -/
def performAll (world : World) (effects : List Effect) : World :=
  effects.foldl perform world

/-- Answers a call that goes on; a subscription through the helper brings a sampler along. -/
def answer (world : World) (call : Call) : World × call.Answer :=
  let (backend, answer) := world.backend.answer call
  let world := { world with backend }
  match backend.sampled? call answer with
  | some feed => (world.addTask (.sampler feed) false, answer)
  | none => (world, answer)

/-- Makes a call of a task, or looks whether the call that was made can go on. The answer is
missing while the call is held. -/
def call (world : World) (task : Task) (slot : Nat) (call : Call) :
    World × Task × Option call.Answer :=
  match task.held.find? fun hold => hold.slot = slot with
  | some hold =>
    if world.backend.isGranted hold.ticket then
      let (world, answer) :=
        { world with backend := world.backend.leave hold.ticket }.answer call
      (world, { task with held := task.held.erase hold }, some answer)
    else (world, task, none)
  | none =>
    match world.backend.issue call with
    | (backend, some ticket) =>
      ({ world with backend }, { task with held := task.held ++ [{ slot, ticket }] }, none)
    | (backend, none) =>
      let (world, answer) := { world with backend }.answer call
      (world, task, some answer)

end World
end VpnFleet
