import Mathlib.Logic.Relation
import VpnFleet.Proofs.Helper.Conversation
import VpnFleet.Proofs.Keyed

/-!
# Runs of a transport

Feeds are opened and closed, their receivers take samples or go, their samplers
take steps, other calls are made and time passes, in any order.

* A `TransportEvent` is what one step does, with what the party behind it
  learns. A step of a sampler tells the outcome of the sample that it takes, if
  it takes one.
* `TransportRun.Step` is one step of one party. A sampler that could take a
  step may let any time pass before it does, so a sample that arrives late is
  one whose sampler goes on late.
* `TransportRun.Reached` says that a run that began without feeds comes to a
  state.
-/

namespace VpnFleet

namespace Transport

variable (transport : Transport)

/-- The outcome of a sample that is taken now. -/
def sampled : Except HelperError TrafficRecord :=
  (transport.helper.sample transport.program).2

/-- The outcome of the sample that the sampler of a feed takes in its next step, if it takes
one. -/
def sampling? (id : String) (now : Nat) : Option (Except HelperError TrafficRecord) :=
  match (transport.feed? id).map Feed.sampler with
  | some (.resting ticker) => if ticker.isDue now then some transport.sampled else none
  | _ => none

end Transport

/-- What can happen to a transport; a feed is named by its identifier. -/
inductive TransportEvent where
  /-- A call that belongs to no feed. -/
  | call (call : Call)
  /-- A feed is opened with a first sample. -/
  | opened (id : String) (first : TrafficRecord)
  /-- A subscription fails with its first sample. -/
  | refused (error : HelperError)
  | unsubscribe (id : String)
  /-- A sampler takes a step. -/
  | sampler (id : String) (outcome : Option (Except HelperError TrafficRecord))
  | receive (id : String) (received : Received TrafficRecord)
  /-- The receiver of a feed goes. -/
  | hangUp (id : String)
  /-- One more answer of the helper is prepared. -/
  | prepare (output : HelperOutput)
  | advance (millis : Nat)

namespace TransportEvent

/-- The feed that the event is about. -/
def feed? : TransportEvent → Option String
  | opened id _ => some id
  | unsubscribe id => some id
  | sampler id _ => some id
  | receive id _ => some id
  | hangUp id => some id
  | _ => none

/-- The feed that is opened. -/
def opened? : TransportEvent → Option String
  | opened id _ => some id
  | _ => none

/-- The sample that the sampler of a feed takes with success. -/
def sample? (id : String) : TransportEvent → Option TrafficRecord
  | sampler source (some (.ok record)) => if source = id then some record else none
  | _ => none

/-- The sample that the receiver of a feed obtains. -/
def received? (id : String) : TransportEvent → Option TrafficRecord
  | receive source (.item record) => if source = id then some record else none
  | _ => none

/-- The runs of the helper in the step of an event. -/
def runs (program : String) : TransportEvent → List Invocation
  | .call request => [Helper.invocation program request]
  | opened _ _ => [Helper.invocation program .subscribe]
  | refused _ => [Helper.invocation program .subscribe]
  | sampler _ (some _) => [Helper.invocation program .subscribe]
  | _ => []

/-- The event neither opens a feed nor moves a sample of it. -/
structure Spares (event : TransportEvent) (id : String) : Prop where
  opened : event.opened? ≠ some id
  sample : event.sample? id = none
  received : event.received? id = none

/-- What is about another feed, or about none, spares a feed. -/
theorem spares_of_feed?_ne
    {event : TransportEvent} {id : String} (h : event.feed? ≠ some id) : event.Spares id := by
  cases event with
  | opened other first => exact ⟨h, rfl, rfl⟩
  | sampler other outcome =>
    have hne : other ≠ id := fun hid => h (congrArg some hid)
    refine ⟨nofun, ?_, rfl⟩
    rcases outcome with _ | _ | record
    · rfl
    · rfl
    · exact if_neg hne
  | receive other received =>
    have hne : other ≠ id := fun hid => h (congrArg some hid)
    refine ⟨nofun, rfl, ?_⟩
    cases received with
    | item record => exact if_neg hne
    | empty => rfl
    | closed => rfl
  | _ => exact ⟨nofun, rfl, rfl⟩

end TransportEvent

/-- What happened to a transport, the oldest first. -/
abbrev TransportHistory := List TransportEvent

namespace TransportHistory

/-- The samples that the sampler of a feed took with success. -/
def samples (past : TransportHistory) (id : String) : List TrafficRecord :=
  past.filterMap (TransportEvent.sample? id)

/-- The samples that the receiver of a feed obtained. -/
def received (past : TransportHistory) (id : String) : List TrafficRecord :=
  past.filterMap (TransportEvent.received? id)

/-- The runs of the helper. -/
def runs (past : TransportHistory) (program : String) : List Invocation :=
  past.flatMap (TransportEvent.runs program)

variable (past : TransportHistory) (event : TransportEvent) (id : String)

theorem samples_concat :
    samples (past ++ [event]) id = past.samples id ++ (event.sample? id).toList :=
  Keyed.filterMap_concat _ past event

theorem received_concat :
    received (past ++ [event]) id = past.received id ++ (event.received? id).toList :=
  Keyed.filterMap_concat _ past event

theorem runs_concat (program : String) :
    runs (past ++ [event]) program = past.runs program ++ event.runs program := by
  simp [runs]

end TransportHistory

/-- A transport with the time and what happened to it. -/
structure TransportRun where
  transport : Transport
  now : Nat
  past : TransportHistory

namespace TransportRun

/-- A transport that nothing has happened to. -/
def new (settings : Settings) (source : HelperSource) : TransportRun where
  transport := Transport.new settings source
  now := 0
  past := []

/-- The run after an event that leaves a transport. -/
def note (run : TransportRun) (transport : Transport) (event : TransportEvent) : TransportRun :=
  { run with transport, past := run.past ++ [event] }

/-- The sampler of a feed takes a step. -/
def stepSampler (run : TransportRun) (id : String) : TransportRun :=
  run.note (run.transport.stepSampler id run.now).1
    (.sampler id (run.transport.sampling? id run.now))

/-- The receiver of a feed looks for a sample. -/
def receive (run : TransportRun) (id : String) : TransportRun :=
  run.note (run.transport.receive id).1 (.receive id (run.transport.receive id).2)

/-- Time passes. -/
def advance (run : TransportRun) (millis : Nat) : TransportRun :=
  { run.note run.transport (.advance millis) with now := run.now + millis }

/-- One step of one party: of a caller, a receiver, a sampler, the helper or the clock. -/
inductive Step : TransportRun → TransportRun → Prop
  | call (run : TransportRun) (call : Call) (plain : call.isForFeed = false) :
      Step run (run.note (run.transport.call call).1 (.call call))
  | subscribe (run : TransportRun) {transport : Transport} {id : String} {first : TrafficRecord}
      (answered : run.transport.subscribe = (transport, .ok id))
      (sampled : run.transport.sampled = .ok first) :
      Step run (run.note transport (.opened id first))
  | refuse (run : TransportRun) {transport : Transport} {error : HelperError}
      (answered : run.transport.subscribe = (transport, .error error)) :
      Step run (run.note transport (.refused error))
  | unsubscribe (run : TransportRun) (id : String) :
      Step run (run.note (run.transport.unsubscribe id) (.unsubscribe id))
  | stepSampler (run : TransportRun) (id : String) : Step run (run.stepSampler id)
  | receive (run : TransportRun) (id : String) : Step run (run.receive id)
  | hangUp (run : TransportRun) (id : String) :
      Step run (run.note (run.transport.hangUp id) (.hangUp id))
  | prepare (run : TransportRun) (output : HelperOutput) :
      Step run (run.note
        { run.transport with helper := run.transport.helper.prepare output } (.prepare output))
  | advance (run : TransportRun) (millis : Nat) : Step run (run.advance millis)

def Reached (settings : Settings) (source : HelperSource) (run : TransportRun) : Prop :=
  Relation.ReflTransGen Step (new settings source) run

end TransportRun
end VpnFleet
