import VpnFleet.Published
import VpnFleet.Wire

/-!
# Live traffic counters

While a tunnel is open the client holds one subscription to the traffic
counters. Every activation takes the next generation; a forwarder that serves
an older generation changes nothing any more.

An activation asks the backend for a feed. When the feed comes it is installed
if the activation is still the current one, and otherwise it came late and has
to be closed again. A deactivation clears the counters and gives up the
installed feed.
-/

namespace VpnFleet

/-- The counters of an open tunnel; rates are finite and not negative. -/
structure Traffic where
  bytesSent : Nat
  bytesReceived : Nat
  packetsSent : Nat
  packetsReceived : Nat
  uploadRate : Float
  downloadRate : Float
deriving Repr

namespace Traffic

/-- A rate that is not a positive finite number counts as zero. -/
def clampRate (rate : Float) : Float :=
  if rate.isFinite && rate > 0.0 then rate else 0.0

/-- The counters of a sample. -/
def ofRecord (record : TrafficRecord) : Traffic where
  bytesSent := record.bytesSent
  bytesReceived := record.bytesReceived
  packetsSent := record.packetsSent
  packetsReceived := record.packetsReceived
  uploadRate := clampRate record.uploadRate
  downloadRate := clampRate record.downloadRate

end Traffic

/-- The state of the subscription. -/
inductive StreamStatus where
  | inactive
  /-- A feed was asked for. -/
  | opening
  | active
  /-- No feed could be had, or the backend ended it. -/
  | unavailable (message : String)
deriving DecidableEq, Repr

namespace StreamStatus

/-- A subscription is there or on its way. -/
def isEngaged : StreamStatus → Bool
  | opening => true
  | active => true
  | _ => false

/-- What is shown when the backend ends an open feed. -/
def feedClosed : StreamStatus :=
  unavailable "metrics feed closed"

end StreamStatus

/-- What the stream publishes. -/
structure StreamSnapshot where
  /-- The last counters of the open feed. -/
  traffic : Option Traffic
  status : StreamStatus
  /-- The number of activations and deactivations so far. -/
  generation : Nat
deriving Repr

/-- The feed that is installed, with the generation it serves. -/
structure ActiveFeed where
  feed : String
  generation : Nat
deriving DecidableEq, Repr

/-- The subscription, its publications, and the installed feed. -/
structure Stream where
  published : Published StreamSnapshot
  active : Option ActiveFeed
deriving Repr

/-- The subscription could not be opened. -/
inductive StreamError where
  | subscribe (message : String)
deriving DecidableEq, Repr

namespace StreamError

/-- The text of the error. -/
def message : StreamError → String
  | subscribe message => "failed to subscribe to metrics: " ++ message

end StreamError

/-- What becomes of the answer to a subscription. -/
inductive Subscribed where
  | installed (feed : ActiveFeed)
  /-- The feed came after its activation had passed and has to be closed. -/
  | late (feed : String)
  | refused (error : StreamError)
deriving DecidableEq, Repr

namespace Stream

/-- A stream without a subscription. -/
def inactive : Stream where
  published := Published.new { traffic := none, status := .inactive, generation := 0 }
  active := none

/-- What the stream shows. -/
def snapshot (stream : Stream) : StreamSnapshot :=
  stream.published.value

/-- The stream with another snapshot, published. -/
def publish (stream : Stream) (snapshot : StreamSnapshot) : Stream :=
  { stream with published := stream.published.replace snapshot }

/-- An activation begins, with its generation, unless one is there or on its way. -/
def beginActivate (stream : Stream) : Stream × Option Nat :=
  if stream.snapshot.status.isEngaged then (stream, none)
  else
    let generation := stream.snapshot.generation + 1
    (stream.publish { stream.snapshot with generation, status := .opening }, some generation)

/-- The activation with this generation waits for its feed. -/
def awaits (stream : Stream) (generation : Nat) : Bool :=
  stream.snapshot.generation = generation && stream.snapshot.status = .opening

/-- The stream shows the feed with this generation. -/
def shows (stream : Stream) (generation : Nat) : Bool :=
  stream.snapshot.generation = generation && stream.snapshot.status = .active

/-- An activation ends with the answer of the backend. -/
def settleActivate
    (stream : Stream)
    (alive : Bool)
    (generation : Nat)
    (answer : Except String String) :
    Stream × Subscribed :=
  match answer with
  | .ok feed =>
    if alive && stream.awaits generation then
      let installed := { feed, generation }
      ({ stream.publish { stream.snapshot with status := .active } with active := some installed },
        .installed installed)
    else (stream, .late feed)
  | .error message =>
    let refused := Subscribed.refused (.subscribe message)
    if stream.snapshot.generation = generation then
      (stream.publish { stream.snapshot with status := .unavailable message, traffic := none },
        refused)
    else (stream, refused)

/-- The counters are cleared and the installed feed is given up. The generation always moves
on; only a visible change is published. -/
def deactivate (stream : Stream) : Stream × Option ActiveFeed :=
  let changed := stream.snapshot.status ≠ .inactive || stream.snapshot.traffic.isSome
  ({ published := stream.published.update
        { traffic := none, status := .inactive, generation := stream.snapshot.generation + 1 }
        changed
     active := none },
    stream.active)

/-- The forwarder of a generation receives a sample; the flag tells whether it goes on. -/
def receive (stream : Stream) (alive : Bool) (generation : Nat) (record : TrafficRecord) :
    Stream × Bool :=
  if alive && stream.shows generation then
    (stream.publish { stream.snapshot with traffic := some (Traffic.ofRecord record) }, true)
  else (stream, false)

/-- The forwarder of a generation finds its feed ended by the backend. -/
def feedEnded (stream : Stream) (alive : Bool) (generation : Nat) : Stream :=
  if alive && stream.shows generation then
    stream.publish { stream.snapshot with traffic := none, status := .feedClosed }
  else stream

end Stream
end VpnFleet
