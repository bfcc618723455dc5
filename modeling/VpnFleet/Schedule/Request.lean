import VpnFleet.Schedule.Run

/-!
# Requests

What the owner of a client and the author of a script can do in a settled
world. A request settles the world again. Requests to the client itself are
refused once its owner has given it up; its parts and its backend live on.
-/

namespace VpnFleet
namespace World

/-- The owner still has the client. -/
def isOwned (world : World) : Bool :=
  world.ownership = .owned

/-- Submits a command under a label. -/
def submit {yield : Yield} (world : World) (label : String) (command : Command yield) :
    Option World :=
  if command.needsClient && !world.isOwned then none
  else some (world.addTask (.command label command) command.needsClient).settle

/-- Starts the background loops, unless they were started. -/
def start (world : World) : Option World :=
  if !world.isOwned then none
  else if !world.background.isEmpty then some world
  else
    let client := world.client
    let ticker := Ticker.start world.now client.pollMs
    let started := (((world.addTask (.poller (Poller.new client) ticker) false).addTask
      (.follower (Follower.new client)) false).addTask (.herald (Herald.new client)) false)
    some { started with
      background := [world.nextTask, world.nextTask + 1, world.nextTask + 2] }.settle

/-- What a dashboard shows. -/
def view (world : World) : Option Dashboard :=
  if world.isOwned then some world.client.view else none

/-- Begins a spawn and keeps its ticket under a label. -/
def beginSpawn (world : World) (label region : String) :
    Option (World × Except ClientError Placeholder) :=
  if !world.isOwned then none
  else
    match world.client.beginSpawn region with
    | .ok (client, placeholder) =>
      let tickets := world.tickets ++ [{ label, placeholder }]
      some ({ world with client, tickets }.settle, .ok placeholder)
    | .error error => some (world, .error error)

/-- The open ticket with this label. -/
def ticket? (world : World) (label : String) : Option SpawnTicket :=
  world.tickets.find? fun ticket => ticket.label = label

/-- The tickets without this one. -/
def withoutTicket (world : World) (ticket : SpawnTicket) : World :=
  { world with tickets := world.tickets.erase ticket }

/-- Confirms an open ticket. -/
def confirmTicket (world : World) (label : String) : Option World :=
  (world.ticket? label).map fun ticket =>
    let resumption := Resumption.spawn ticket.placeholder .silent
    ((world.withoutTicket ticket).addTask
      (.operation label (.awaiting _ resumption)) true).settle

/-- Drops an open ticket unconfirmed. -/
def dropTicket (world : World) (label : String) : Option World :=
  (world.ticket? label).map fun ticket =>
    let client := world.client.discard ticket.placeholder
    ({ world with client }.withoutTicket ticket).tearDown.settle

/-- The client after an activity is given up. -/
def abandoned (client : Client) : Activity → Client
  | .operation _ operation => operation.abandon client
  | _ => client

/-- Gives up a task. -/
def abandonTask (world : World) (task : Task) : World :=
  let backend := task.held.foldl (fun backend hold => backend.forfeit hold.ticket) world.backend
  { world with client := abandoned world.client task.activity, backend }.removeTask task.id

/-- Gives up the task or the open ticket with this label, if there is one. -/
def abort (world : World) (label : String) : World :=
  match world.tasks.find? fun task => task.activity.label? = some label with
  | some task => (world.abandonTask task).settle
  | none => (world.dropTicket label).getD world

/-- The owner gives up the client. -/
def giveUp (world : World) : World :=
  if world.isOwned then { world with ownership := .givenUp }.tearDown.settle else world

/-- Changes the client by hand. -/
def edit (world : World) (client : Client) : World :=
  { world with client }.settle

/-- Changes the backend by hand. -/
def arrange (world : World) (backend : Backend) : World :=
  { world with backend }.settle

/-- The tasks whose calls carry these tickets, in the order of the tickets. -/
def holders (world : World) (tickets : List Nat) : List Nat :=
  (tickets.flatMap fun ticket =>
    (world.tasks.filter fun task => task.held.any fun hold => hold.ticket = ticket).map
      Task.id).eraseDups

/-- Gives permits to a service of a script; the calls that wait longest go on first. -/
def release (world : World) (service : Service) (permits : Nat) : World :=
  match world.backend with
  | .scripted script =>
    let (script, through) := script.release service permits
    { world with backend := .scripted script, ready := world.holders through }.settle
  | .helper _ => world

/-- Makes a call to the helper by hand, with the cause of a failure. -/
def ask (world : World) (transport : Transport) (call : Call) :
    World × Except HelperError call.Reply :=
  let (transport, outcome) := transport.call call
  let backend := Backend.helper transport
  let world := { world with backend }
  match backend.sampled? call (outcome.mapError HelperError.message) with
  | some feed => ((world.addTask (.sampler feed) false).settle, outcome)
  | none => (world.settle, outcome)

end World
end VpnFleet
