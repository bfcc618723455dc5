import VpnFleet.Backend.Call
import VpnFleet.Channel
import VpnFleet.Script.Turnstile

/-!
# A scripted backend

A backend in memory whose answers are set beforehand. Listings that were not
set are empty, a spawn needs an answer in store, and the other calls succeed
unless a failure was set. The status follows the tunnel: a successful opening
makes later reports name its target, a closing clears them.

A call is recorded when it comes in. It may then be held at the turnstile of
its service, and it reads its answer when it goes on.
-/

namespace VpnFleet

/-- The answers in store, the feeds given out, and the record of the calls. -/
structure Script where
  regions : Except String (List RegionRecord)
  /-- The listing of a region; a later setting stands in front. -/
  listings : List (String × Except String (List InstanceRecord))
  spawns : List (Except String SpawnedRecord)
  /-- The failure for an instance; a later setting stands in front. -/
  terminateFailures : List (String × String)
  connectFailure : Option String
  disconnectFailure : Option String
  /-- Reports that are given once each, before the standing one. -/
  statuses : List (Except String StatusRecord)
  status : StatusRecord
  subscribeFailure : Option String
  unsubscribeFailure : Option String
  credentialsFailure : Option String
  saved : List Credentials
  /-- The feeds that the backend holds open, the newest last. -/
  feeds : List String
  channels : List (String × Channel TrafficRecord)
  feedCount : Nat
  calls : List Call
  /-- The turnstile of a service; a later one stands in front. -/
  turnstiles : List (Service × Turnstile)
  nextTicket : Nat

namespace Script

/-- Nothing in store. -/
def empty : Script where
  regions := .ok []
  listings := []
  spawns := []
  terminateFailures := []
  connectFailure := none
  disconnectFailure := none
  statuses := []
  status := StatusRecord.idle
  subscribeFailure := none
  unsubscribeFailure := none
  credentialsFailure := none
  saved := []
  feeds := []
  channels := []
  feedCount := 0
  calls := []
  turnstiles := []
  nextTicket := 0

/-- How many samples a feed holds. -/
def feedCapacity : Nat :=
  16

/-- What "every later call" means in permits. -/
def openPermits : Nat :=
  1 <<< 20

/-- The identifier of the feed with a given number. -/
def feedId (n : Nat) : String :=
  "feed-" ++ toString n

/-- Sets the listing of a region. -/
def setListing (script : Script) (region : String)
    (listing : Except String (List InstanceRecord)) : Script :=
  { script with listings := (region, listing) :: script.listings }

/-- Puts the answer to a later spawn in store. -/
def pushSpawn (script : Script) (answer : Except String SpawnedRecord) : Script :=
  { script with spawns := script.spawns ++ [answer] }

/-- Lets terminations of an instance fail. -/
def failTerminate (script : Script) (id message : String) : Script :=
  { script with terminateFailures := (id, message) :: script.terminateFailures }

/-- Puts the answer to one later status query in store. -/
def pushStatus (script : Script) (answer : Except String StatusRecord) : Script :=
  { script with statuses := script.statuses ++ [answer] }

/-- A call succeeds unless a failure was set. -/
def orFailure (failure : Option String) : Except String Unit :=
  match failure with
  | none => .ok ()
  | some message => .error message

/-- Changes the channel of a feed. -/
def onChannel (script : Script) (feed : String)
    (f : Channel TrafficRecord → Channel TrafficRecord) : Script :=
  { script with
    channels := script.channels.map fun entry =>
      if entry.1 = feed then (entry.1, f entry.2) else entry }

/-- Gives out a new feed. -/
def openFeed (script : Script) : Script × String :=
  let id := feedId (script.feedCount + 1)
  ({ script with
      feedCount := script.feedCount + 1
      feeds := script.feeds ++ [id]
      channels := script.channels ++ [(id, Channel.new feedCapacity)] },
    id)

/-- Lets go of a feed. -/
def closeFeed (script : Script) (feed : String) : Script :=
  { script.onChannel feed Channel.finish with feeds := script.feeds.filter (· ≠ feed) }

/-- The answer to a call that goes on. -/
def answer (script : Script) : (call : Call) → Script × call.Answer
  | .listRegions => (script, script.regions)
  | .listInstances region => (script, (script.listings.lookup region).getD (.ok []))
  | .spawn _ =>
    match script.spawns with
    | [] => (script, .error "no scripted spawn")
    | answer :: rest => ({ script with spawns := rest }, answer)
  | .terminate id _ => (script, orFailure (script.terminateFailures.lookup id))
  | .connect id _ =>
    match script.connectFailure with
    | some message => (script, .error message)
    | none => ({ script with status := StatusRecord.tunnelTo id }, .ok ())
  | .disconnect =>
    match script.disconnectFailure with
    | some message => (script, .error message)
    | none => ({ script with status := StatusRecord.idle }, .ok ())
  | .status =>
    match script.statuses with
    | [] => (script, .ok script.status)
    | answer :: rest => ({ script with statuses := rest }, answer)
  | .subscribe =>
    match script.subscribeFailure with
    | some message => (script, .error message)
    | none =>
      let (script, id) := script.openFeed
      (script, .ok id)
  | .unsubscribe feed =>
    match script.unsubscribeFailure with
    | some message => (script, .error message)
    | none => (script.closeFeed feed, .ok ())
  | .saveCredentials credentials =>
    match script.credentialsFailure with
    | some message => (script, .error message)
    | none => ({ script with saved := script.saved ++ [credentials] }, .ok ())

/-- Changes the turnstile in front of a service. -/
def setTurnstile (script : Script) (service : Service) (turnstile : Turnstile) : Script :=
  { script with
    turnstiles :=
      match script.turnstiles.findIdx? fun entry => entry.1 = service with
      | some i => script.turnstiles.set i (service, turnstile)
      | none => script.turnstiles }

/-- A call comes in; if it is held at a turnstile, its ticket is returned. -/
def issue (script : Script) (call : Call) : Script × Option Nat :=
  let script := { script with calls := script.calls ++ [call] }
  match script.turnstiles.lookup call.service with
  | none => (script, none)
  | some turnstile =>
    let ticket := script.nextTicket
    match turnstile.arrive ticket with
    | (turnstile, true) => (script.setTurnstile call.service turnstile, none)
    | (turnstile, false) =>
      ({ script.setTurnstile call.service turnstile with nextTicket := ticket + 1 }, some ticket)

/-- Holds later calls of a service. -/
def hold (script : Script) (service : Service) : Script :=
  { script with turnstiles := (service, Turnstile.closed) :: script.turnstiles }

/-- Gives permits to a service; the calls that they let through are returned. -/
def release (script : Script) (service : Service) (permits : Nat) : Script × List Nat :=
  match script.turnstiles.lookup service with
  | none => (script, [])
  | some turnstile =>
    let (turnstile, through) := turnstile.release permits
    (script.setTurnstile service turnstile, through)

/-- A call was let through. -/
def isGranted (script : Script) (ticket : Nat) : Bool :=
  script.turnstiles.any fun entry => entry.2.isGranted ticket

/-- A call that was let through goes on. -/
def leave (script : Script) (ticket : Nat) : Script :=
  { script with
    turnstiles := script.turnstiles.map fun entry => (entry.1, entry.2.leave ticket) }

/-- A held call is given up. -/
def forfeit (script : Script) (ticket : Nat) : Script :=
  { script with
    turnstiles := script.turnstiles.map fun entry => (entry.1, entry.2.forfeit ticket) }

/-- Sends a sample to one feed; the flag tells whether it was taken. -/
def offer (script : Script) (feed : String) (record : TrafficRecord) : Script × Bool :=
  match script.channels.lookup feed with
  | none => (script, false)
  | some channel => (script.onChannel feed fun _ => (channel.offer record).1, channel.accepts)

/-- Sends a sample to the newest open feed; the flag tells whether it was taken. -/
def push (script : Script) (record : TrafficRecord) : Script × Bool :=
  match script.feeds.getLast? with
  | none => (script, false)
  | some feed => script.offer feed record

/-- Sends a sample to every open feed; the number of feeds that took it is returned. -/
def pushAll (script : Script) (record : TrafficRecord) : Script × Nat :=
  script.feeds.foldl (fun (script, taken) feed =>
    let (script, wasTaken) := script.offer feed record
    (script, if wasTaken then taken + 1 else taken)) (script, 0)

/-- Ends the newest open feed; the flag tells whether there was one. -/
def endNewest (script : Script) : Script × Bool :=
  match script.feeds.getLast? with
  | none => (script, false)
  | some feed => (script.closeFeed feed, true)

/-- Receives from a feed. -/
def receive (script : Script) (feed : String) : Script × Received TrafficRecord :=
  match script.channels.lookup feed with
  | none => (script, .closed)
  | some channel =>
    let (channel, received) := channel.receive
    (script.onChannel feed fun _ => channel, received)

/-- The receiver of a feed goes. -/
def hangUp (script : Script) (feed : String) : Script :=
  script.onChannel feed Channel.hangUp

/-- A receiver of the feed would find a sample or the end. -/
def isReadable (script : Script) (feed : String) : Bool :=
  match script.channels.lookup feed with
  | none => true
  | some channel => channel.isReadable

end Script
end VpnFleet
