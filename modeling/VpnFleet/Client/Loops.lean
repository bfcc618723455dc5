import VpnFleet.Client.Operation

/-!
# Background loops

Three loops keep a started client current. Each is a small machine: it rests
until something it watches has changed, takes one step, and rests again.

* The **poller** queries the status at every tick and after every change of the
  inventory's revision; such a change first looks the session up again.
* The **follower** activates the traffic stream while a tunnel is open and
  deactivates it otherwise; it deactivates it once more when it leaves.
* The **herald** posts a notice when the traffic stream becomes unavailable,
  once until it shows another status.

All three leave when the client is stopping.
-/

namespace VpnFleet

namespace Client

/-- The loops have to leave. -/
def isStopping (client : Client) : Bool :=
  client.stopping.value || !client.alive

end Client

/-- Where the poller is. -/
inductive PollerStage where
  | fresh
  | resting
  | querying (began : Nat)
  | ended
deriving DecidableEq, Repr

/-- The poller, with the versions and the revision it saw last. -/
structure Poller where
  stage : PollerStage
  stopSeen : Nat
  inventorySeen : Nat
  revisionSeen : Nat
deriving Repr

namespace Poller

/-- A poller that is about to run. -/
def new (client : Client) : Poller where
  stage := .fresh
  stopSeen := client.stopping.version
  inventorySeen := client.inventory.version
  revisionSeen := client.inventory.value.revision

/-- Rests, or leaves when the client is stopping. -/
def rest (poller : Poller) (client : Client) : Poller :=
  { poller with stage := if client.isStopping then .ended else .resting }

/-- Takes its first look at the inventory. -/
def settleIn (poller : Poller) (client : Client) : Poller :=
  { poller with
    inventorySeen := client.inventory.version
    revisionSeen := client.inventory.value.revision }.rest client

/-- The client published that it is stopping. -/
def stopDue (poller : Poller) (client : Client) : Bool :=
  poller.stopSeen ≠ client.stopping.version

/-- The inventory published a change. -/
def inventoryDue (poller : Poller) (client : Client) : Bool :=
  poller.inventorySeen ≠ client.inventory.version

/-- Begins a query. -/
def query (poller : Poller) (client : Client) : Poller :=
  { poller with stage := .querying client.tracker.beginQuery }

/-- Sees that the client is stopping. -/
def onStop (poller : Poller) (client : Client) : Poller :=
  { poller with stopSeen := client.stopping.version }.rest client

/-- Sees a publication of the inventory; only a new revision counts. -/
def onInventory (poller : Poller) (client : Client) : Client × Poller :=
  let revision := client.inventory.value.revision
  let seen := { poller with inventorySeen := client.inventory.version }
  if revision = poller.revisionSeen then (client, seen.rest client)
  else
    let client := client.reconcile
    (client, { seen with revisionSeen := revision }.query client)

/-- Its query was answered. -/
def onAnswer (poller : Poller) (client : Client) (began : Nat)
    (answer : Except String StatusRecord) : Client × Poller :=
  let (tracker, _) :=
    client.tracker.settleQuery client.alive client.inventory.value began answer
  let client := { client with tracker }
  (client, poller.rest client)

end Poller

/-- Where the follower is. -/
inductive FollowerStage where
  | fresh
  | resting
  | subscribing (generation : Nat)
  /-- Closes a feed, on its way out or not. -/
  | closing (feed : String) (leaving : Bool)
  | ended
deriving DecidableEq, Repr

/-- The follower, with the versions it saw last. -/
structure Follower where
  stage : FollowerStage
  stopSeen : Nat
  sessionSeen : Nat
deriving Repr

/-- The outcome of a step of the follower. -/
structure FollowerTurn where
  client : Client
  follower : Follower
  effects : List Effect

namespace Follower

/-- A follower that is about to run. -/
def new (client : Client) : Follower where
  stage := .fresh
  stopSeen := client.stopping.version
  sessionSeen := client.tracker.version

/-- The client published that it is stopping. -/
def stopDue (follower : Follower) (client : Client) : Bool :=
  follower.stopSeen ≠ client.stopping.version

/-- The tracker published a change. -/
def sessionDue (follower : Follower) (client : Client) : Bool :=
  follower.sessionSeen ≠ client.tracker.version

/-- Goes to a stage without an effect. -/
def goto (follower : Follower) (client : Client) (stage : FollowerStage) : FollowerTurn :=
  { client, follower := { follower with stage }, effects := [] }

/-- Deactivates the stream, and leaves afterwards if it is told to. -/
def deactivate (follower : Follower) (client : Client) (leaving : Bool) : FollowerTurn :=
  match client.stream.deactivate with
  | (stream, some active) =>
    { client := { client with stream }
      follower := { follower with stage := .closing active.feed leaving }
      effects := [.stopForwarder active] }
  | (stream, none) =>
    follower.goto { client with stream } (if leaving then .ended else .resting)

/-- Activates the stream. -/
def activate (follower : Follower) (client : Client) : FollowerTurn :=
  match client.stream.beginActivate with
  | (stream, some generation) => follower.goto { client with stream } (.subscribing generation)
  | (stream, none) => follower.goto { client with stream } .resting

/-- Looks at the session and does what it asks for, or leaves. -/
def look (follower : Follower) (client : Client) : FollowerTurn :=
  if client.isStopping then follower.deactivate client true
  else
    let seen := { follower with sessionSeen := client.tracker.version }
    if client.tracker.session.isConnected then seen.activate client
    else seen.deactivate client false

/-- Sees that the client is stopping, and leaves. -/
def onStop (follower : Follower) (client : Client) : FollowerTurn :=
  { follower with stopSeen := client.stopping.version }.deactivate client true

/-- Its subscription was answered; a feed that came late is closed again. -/
def onSubscribed (follower : Follower) (client : Client) (generation : Nat)
    (answer : Except String String) : FollowerTurn :=
  let (stream, outcome) := client.stream.settleActivate client.alive generation answer
  let client := { client with stream }
  match outcome with
  | .installed active =>
    { client
      follower := { follower with stage := .resting }
      effects := [.startForwarder active] }
  | .late feed => follower.goto client (.closing feed false)
  | .refused _ => follower.goto client .resting

/-- A feed was closed. -/
def onClosed (follower : Follower) (client : Client) (leaving : Bool) : FollowerTurn :=
  follower.goto client (if leaving then .ended else .resting)

end Follower

/-- The herald, with the versions it saw last. -/
structure Herald where
  stopSeen : Nat
  streamSeen : Nat
  /-- The present unavailability was posted already. -/
  reported : Bool
deriving Repr

namespace Herald

/-- A herald that watches from now on. -/
def new (client : Client) : Herald where
  stopSeen := client.stopping.version
  streamSeen := client.stream.published.version
  reported := false

/-- The client published that it is stopping. -/
def stopDue (herald : Herald) (client : Client) : Bool :=
  herald.stopSeen ≠ client.stopping.version

/-- The stream published a change. -/
def streamDue (herald : Herald) (client : Client) : Bool :=
  herald.streamSeen ≠ client.stream.published.version

/-- Sees a publication of the stream. -/
def onStream (herald : Herald) (client : Client) : Client × Herald :=
  let seen := { herald with streamSeen := client.stream.published.version }
  match client.stream.snapshot.status with
  | .unavailable message =>
    if herald.reported then (client, seen)
    else (client.post .error .subscription message, { seen with reported := true })
  | _ => (client, { seen with reported := false })

end Herald
end VpnFleet
