import VpnFleet.Channel
import VpnFleet.Helper.Calls
import VpnFleet.Schedule.Ticker
import VpnFleet.Settings

/-!
# The helper as a backend

Calls become runs of the helper. A subscription takes a first sample, which
must succeed, and opens a feed: a bounded channel that holds this sample, and a
sampler that takes one more per interval.

**Samplers.** A sample that fails is skipped. A sample that finds the channel
full is held until there is room, and no further one is taken meanwhile. The
sampler ends when the receiver is gone or the feed is closed.

Feed numbers grow with each successful subscription and are never used again.
-/

namespace VpnFleet

/-- Where a sampler is. -/
inductive SamplerStage where
  | fresh
  | resting (ticker : Ticker)
  /-- Waits for room for a sample. -/
  | holding (record : TrafficRecord) (ticker : Ticker)
  | ended
deriving Repr

/-- A subscription: its channel and its sampler. -/
structure Feed where
  id : String
  channel : Channel TrafficRecord
  sampler : SamplerStage
deriving Repr

namespace Feed

/-- The sampler ends and its end of the channel goes. -/
def stop (feed : Feed) : Feed :=
  { feed with channel := feed.channel.finish, sampler := .ended }

end Feed

/-- The helper with the feeds taken from it. -/
structure Transport where
  program : String
  /-- The interval between samples, in milliseconds. -/
  interval : Nat
  /-- How many samples a channel holds. -/
  buffer : Nat
  helper : Helper
  /-- Every feed opened so far. -/
  feeds : List Feed
  /-- The identifiers of the feeds that are open. -/
  registered : List String
  nextFeed : Nat

/-- How a sampler goes on after a step. -/
inductive SamplerTurn where
  /-- It can take another step. -/
  | again
  /-- It waits for its next tick or for room. -/
  | waits
  | ended
deriving DecidableEq, Repr

namespace Transport

/-- A transport without feeds. -/
def new (settings : Settings) (source : HelperSource) : Transport where
  program := settings.backendBin
  interval := settings.metricsPollMs
  buffer := max settings.metricsBuffer 1
  helper := { source, log := [] }
  feeds := []
  registered := []
  nextFeed := 1

/-- The identifier of the feed with a given number. -/
def feedId (n : Nat) : String :=
  "metrics-" ++ toString n

/-- The number of open feeds. -/
def openFeeds (transport : Transport) : Nat :=
  transport.registered.length

/-- The feed with this identifier. -/
def feed? (transport : Transport) (id : String) : Option Feed :=
  transport.feeds.find? fun feed => feed.id = id

/-- Changes the feed with this identifier. -/
def onFeed (transport : Transport) (id : String) (f : Feed → Feed) : Transport :=
  { transport with feeds := transport.feeds.map fun feed => if feed.id = id then f feed else feed }

/-- The transport with the outcome of a run. -/
def withHelper {α : Type} (transport : Transport) (outcome : Helper × Except HelperError α) :
    Transport × Except HelperError α :=
  ({ transport with helper := outcome.1 }, outcome.2)

/-- Opens a feed and offers it a first sample. -/
def openFeed (transport : Transport) (first : TrafficRecord) : Transport × String :=
  let id := feedId transport.nextFeed
  let feed : Feed := {
    id
    channel := ((Channel.new transport.buffer).offer first).1
    sampler := .fresh }
  ({ transport with
      feeds := transport.feeds ++ [feed]
      registered := transport.registered ++ [id]
      nextFeed := transport.nextFeed + 1 },
    id)

/-- Subscribes to the traffic counters. -/
def subscribe (transport : Transport) : Transport × Except HelperError String :=
  match transport.withHelper (transport.helper.sample transport.program) with
  | (transport, .ok first) =>
    let (transport, id) := transport.openFeed first
    (transport, .ok id)
  | (transport, .error error) => (transport, .error error)

/-- Closes a feed; an identifier that is not open is passed over. -/
def unsubscribe (transport : Transport) (id : String) : Transport :=
  if transport.registered.contains id then
    { transport.onFeed id Feed.stop with
      registered := transport.registered.filter (· ≠ id) }
  else transport

/-- Answers a call, with the cause of a failure. -/
def call (transport : Transport) : (call : Call) → Transport × Except HelperError call.Reply
  | .listRegions =>
    transport.withHelper
      (transport.helper.query transport.program .listRegions (.list RegionRecord.form)
        (Json.list? RegionRecord.ofJson?))
  | .listInstances region =>
    transport.withHelper
      (transport.helper.query transport.program (.listInstances region)
        (.list InstanceRecord.form) (Json.list? InstanceRecord.ofJson?))
  | .spawn region =>
    transport.withHelper
      (transport.helper.query transport.program (.spawn region) (.record SpawnedRecord.form)
        SpawnedRecord.ofJson?)
  | .terminate id region =>
    transport.withHelper (transport.helper.execute transport.program (.terminate id region))
  | .connect id region =>
    transport.withHelper (transport.helper.execute transport.program (.connect id region))
  | .disconnect => transport.withHelper (transport.helper.execute transport.program .disconnect)
  | .status =>
    transport.withHelper
      (transport.helper.query transport.program .status (.record StatusRecord.form)
        StatusRecord.ofJson?)
  | .subscribe => transport.subscribe
  | .unsubscribe feed => (transport.unsubscribe feed, .ok ())
  | .saveCredentials credentials =>
    transport.withHelper
      (transport.helper.execute transport.program (.saveCredentials credentials))

/-- Answers a call, with the text of a failure. -/
def answer (transport : Transport) (call : Call) : Transport × call.Answer :=
  let (transport, outcome) := transport.call call
  (transport, outcome.mapError HelperError.message)

/-- Receives from a feed. -/
def receive (transport : Transport) (id : String) : Transport × Received TrafficRecord :=
  match transport.feed? id with
  | some feed =>
    let (channel, received) := feed.channel.receive
    (transport.onFeed id fun feed => { feed with channel }, received)
  | none => (transport, .closed)

/-- The feed with this identifier, while its receiver is there. -/
def openReceiver? (transport : Transport) (id : String) : Option Feed :=
  (transport.feed? id).filter fun feed => feed.channel.receiving

/-- A receiver of the feed would find a sample or the end. -/
def isReadable (transport : Transport) (id : String) : Bool :=
  match transport.feed? id with
  | some feed => feed.channel.isReadable
  | none => true

/-- The receiver of a feed goes. -/
def hangUp (transport : Transport) (id : String) : Transport :=
  transport.onFeed id fun feed => { feed with channel := feed.channel.hangUp }

/-- Puts a sampler at another stage. -/
def setSampler (transport : Transport) (id : String) (sampler : SamplerStage) : Transport :=
  transport.onFeed id fun feed => { feed with sampler }

/-- The sampler begins: its first tick is the sample that opened the feed. An interval of zero
ends it at once. -/
def beginSampler (transport : Transport) (id : String) (now : Nat) : Transport × SamplerTurn :=
  if transport.interval = 0 then (transport.onFeed id Feed.stop, .ended)
  else
    (transport.setSampler id (.resting ((Ticker.start now transport.interval).take now)), .again)

/-- A tick of the sampler: a sample is taken and held, unless it fails. -/
def tickSampler (transport : Transport) (id : String) (ticker : Ticker) (now : Nat) : Transport :=
  match transport.withHelper (transport.helper.sample transport.program) with
  | (transport, .ok record) => transport.setSampler id (.holding record (ticker.take now))
  | (transport, .error _) => transport.setSampler id (.resting (ticker.take now))

/-- A step of the sampler of a feed. -/
def stepSampler (transport : Transport) (id : String) (now : Nat) : Transport × SamplerTurn :=
  match transport.feed? id with
  | none => (transport, .ended)
  | some feed =>
    match feed.sampler with
    | .ended => (transport, .ended)
    | .fresh => transport.beginSampler id now
    | .resting ticker =>
      if ticker.isDue now then (transport.tickSampler id ticker now, .again)
      else (transport, .waits)
    | .holding record ticker =>
      if !feed.channel.receiving then (transport.onFeed id Feed.stop, .ended)
      else if feed.channel.hasRoom then
        (transport.onFeed id fun feed =>
          { feed with channel := feed.channel.push record, sampler := .resting ticker }, .again)
      else (transport, .waits)

/-- The sampler of a feed can take a step that does something. -/
def samplerDue (transport : Transport) (id : String) (now : Nat) : Bool :=
  match transport.feed? id with
  | none => true
  | some feed =>
    match feed.sampler with
    | .fresh => true
    | .ended => true
    | .resting ticker => ticker.isDue now
    | .holding _ _ => !feed.channel.receiving || feed.channel.hasRoom

/-- The time of the next tick of a sampler that rests. -/
def nextSample? (transport : Transport) (id : String) : Option Nat :=
  match (transport.feed? id).map Feed.sampler with
  | some (.resting ticker) => some ticker.deadline
  | _ => none

end Transport
end VpnFleet
