import VpnFleet.Schedule.World

/-!
# Steps of tasks

One step of a task takes it from one place where other tasks could run to the
next: it makes a call, goes on with an answer, or takes up something it
watches. A task that finds nothing to do is parked.
-/

namespace VpnFleet
namespace World

/-- The outcome of a step: the world, and how the task goes on. -/
abbrev Stepped := World × Progress

/-- The task goes on with another activity. -/
def goOn (world : World) (task : Task) (activity : Activity) : Stepped :=
  (world.setTask { task with activity }, .again)

/-- The task is parked. -/
def park (world : World) (task : Task) : Stepped :=
  (world.setTask task, .parked)

/-- The task is parked until a tick. -/
def parkUntil (world : World) (task : Task) (deadline : Nat) : Stepped :=
  let alarm := { deadline, task := task.id }
  (if world.alarms.contains alarm then world
    else { world with alarms := world.alarms ++ [alarm] }, .parked)

/-- The task is over. -/
def finish (world : World) (task : Task) : Stepped :=
  (world.removeTask task.id, .ended)

/-- A labelled task goes on as a step of its operation tells. A teardown takes the background
loops over. -/
def follow {yield : Yield} (world : World) (task : Task) (label : String) (turn : Turn yield) :
    Stepped :=
  let world := { world with client := turn.client }.performAll turn.effects
  match turn.next with
  | .finished value =>
    let outcome : Outcome := { label, yield, value }
    { world with finished := world.finished ++ [outcome] }.finish task
  | .waiting operation =>
    if operation.isDraining then
      { world with background := [] }.goOn { task with awaited := world.background }
        (.operation label operation)
    else world.goOn task (.operation label operation)

/-- A listing of a sweep is made or goes on. -/
def sweepCall {yield : Yield} (world : World) (task : Task) (label : String) (sweep : Sweep)
    (goal : RefreshGoal yield) (slot : Nat) (region : String) : Stepped :=
  match world.call task slot (.listInstances region) with
  | (world, task, some listing) =>
    world.goOn task (.operation label (.sweeping (sweep.answer slot listing) goal))
  | (world, task, none) =>
    world.goOn task (.operation label (.sweeping (sweep.ask slot) goal))

/-- A listing of the sweep that was let through. -/
def granted? (world : World) (task : Task) (sweep : Sweep) : Option (Nat × String) := do
  let hold ← task.held.find? fun hold => world.backend.isGranted hold.ticket
  let slot ← sweep.slots[hold.slot]?
  return (hold.slot, slot.region)

/-- A step of an operation. -/
def stepOperation {yield : Yield} (world : World) (task : Task) (label : String) :
    Operation yield → Stepped
  | .awaiting call resumption =>
    match world.call task 0 call with
    | (world, task, some answer) =>
      world.follow task label (resumption.settle world.client answer)
    | (world, task, none) => world.park task
  | .sweeping sweep goal =>
    match (world.granted? task sweep).or sweep.next? with
    | some (slot, region) => world.sweepCall task label sweep goal slot region
    | none =>
      if sweep.isDone then world.follow task label (world.client.settleSweep sweep goal)
      else world.park task
  | .draining =>
    if task.awaited.all fun id => (world.task? id).isNone then
      world.follow task label world.client.drained
    else world.park task

/-- A step of the poller. -/
def stepPoller (world : World) (task : Task) (poller : Poller) (ticker : Ticker) : Stepped :=
  match poller.stage with
  | .fresh =>
    if ticker.period = 0 then world.finish task
    else world.goOn task (.poller (poller.settleIn world.client) ticker)
  | .resting =>
    if poller.stopDue world.client then
      world.goOn task (.poller (poller.onStop world.client) ticker)
    else if ticker.isDue world.now then
      world.goOn task (.poller (poller.query world.client) (ticker.take world.now))
    else if poller.inventoryDue world.client then
      let (client, poller) := poller.onInventory world.client
      { world with client }.goOn task (.poller poller ticker)
    else world.parkUntil task ticker.deadline
  | .querying began =>
    match world.call task 0 .status with
    | (world, task, some answer) =>
      let (client, poller) := poller.onAnswer world.client began answer
      { world with client }.goOn task (.poller poller ticker)
    | (world, task, none) => world.park task
  | .ended => world.finish task

/-- The follower goes on as its step tells. -/
def followTurn (world : World) (task : Task) (turn : FollowerTurn) : Stepped :=
  ({ world with client := turn.client }.performAll turn.effects).goOn task
    (.follower turn.follower)

/-- A step of the follower. -/
def stepFollower (world : World) (task : Task) (follower : Follower) : Stepped :=
  match follower.stage with
  | .fresh => world.followTurn task (follower.look world.client)
  | .resting =>
    if follower.stopDue world.client then
      world.followTurn task (follower.onStop world.client)
    else if follower.sessionDue world.client then
      world.followTurn task (follower.look world.client)
    else world.park task
  | .subscribing generation =>
    match world.call task 0 .subscribe with
    | (world, task, some answer) =>
      world.followTurn task (follower.onSubscribed world.client generation answer)
    | (world, task, none) => world.park task
  | .closing feed leaving =>
    match world.call task 0 (.unsubscribe feed) with
    | (world, task, some _) => world.followTurn task (follower.onClosed world.client leaving)
    | (world, task, none) => world.park task
  | .ended => world.finish task

/-- A step of the herald. -/
def stepHerald (world : World) (task : Task) (herald : Herald) : Stepped :=
  if herald.stopDue world.client then world.finish task
  else if herald.streamDue world.client then
    let (client, herald) := herald.onStream world.client
    { world with client }.goOn task (.herald herald)
  else world.park task

/-- A step of a forwarder; it lets go of its feed when it ends. -/
def stepForwarder (world : World) (task : Task) (feed : ActiveFeed) : Stepped :=
  let client := world.client
  match world.backend.receive feed.feed with
  | (backend, .item record) =>
    let (stream, goesOn) := client.stream.receive client.alive feed.generation record
    let world := { world with client := { client with stream }, backend }
    if goesOn then world.goOn task (.forwarder feed)
    else { world with backend := backend.hangUp feed.feed }.finish task
  | (_, .empty) => world.park task
  | (backend, .closed) =>
    let stream := client.stream.feedEnded client.alive feed.generation
    { world with client := { client with stream }, backend := backend.hangUp feed.feed }.finish
      task

/-- A step of a sampler. -/
def stepSampler (world : World) (task : Task) (feed : String) : Stepped :=
  match world.backend.stepSampler feed world.now with
  | (backend, .again) => ({ world with backend }, .again)
  | (backend, .waits) =>
    match backend.nextSample? feed with
    | some deadline => { world with backend }.parkUntil task deadline
    | none => { world with backend }.park task
  | (backend, .ended) => { world with backend }.finish task

/-- A step of a task. -/
def stepTask (world : World) (task : Task) : Stepped :=
  match task.activity with
  | .command label command => world.follow task label (command.start world.client)
  | .operation label operation => world.stepOperation task label operation
  | .poller poller ticker => world.stepPoller task poller ticker
  | .follower follower => world.stepFollower task follower
  | .herald herald => world.stepHerald task herald
  | .forwarder feed => world.stepForwarder task feed
  | .sampler feed => world.stepSampler task feed

end World

namespace Task

/-- A parked task that makes no call can take a step. -/
def isDue (task : Task) (world : World) : Bool :=
  match task.activity with
  | .command _ _ => true
  | .operation _ operation =>
    !operation.isDraining || task.awaited.all fun id => (world.task? id).isNone
  | .poller poller ticker =>
    poller.stopDue world.client || ticker.isDue world.now || poller.inventoryDue world.client
  | .follower follower => follower.stopDue world.client || follower.sessionDue world.client
  | .herald herald => herald.stopDue world.client || herald.streamDue world.client
  | .forwarder feed => world.backend.isReadable feed.feed
  | .sampler feed => world.backend.samplerDue feed world.now

/-- A parked task can take a step. -/
def canGoOn (task : Task) (world : World) : Bool :=
  if task.held.isEmpty then task.isDue world
  else task.held.any fun hold => world.backend.isGranted hold.ticket

end Task
end VpnFleet
