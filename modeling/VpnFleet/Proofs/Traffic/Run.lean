import Mathlib.Logic.Relation
import VpnFleet.Backend.Call
import VpnFleet.Channel
import VpnFleet.Proofs.Keyed
import VpnFleet.Proofs.Traffic.Moves

/-!
# Runs of a traffic stream

Any number of activations and deactivations of one stream may be under way at
once, and every feed that was ever opened may go on delivering. What an
operation or a forwarder does between two waits is one step, and the backend
may answer, push and end feeds whenever it likes.

* A `Subscription` is what one activation asked for: the channel that the
  backend pushes into, and whether a forwarder reads it. The backend may push
  into it, or end it, before its feed is handed over.
* A `StreamRun` holds the stream, all subscriptions and all that has happened.
* `StreamRun.Step` is one step of one party. A forwarder that was told to stop
  may still take steps until it does.
* `StreamRun.Reached` says that a run that began with nothing comes to a
  state.
-/

namespace VpnFleet

inductive SubscriptionStage where
  /-- The backend has not answered. -/
  | asked
  /-- A forwarder reads the feed. -/
  | forwarded (feed : String)
  | over
deriving DecidableEq

/-- What one activation asked for. -/
structure Subscription where
  generation : Nat
  channel : Channel TrafficRecord
  stage : SubscriptionStage

namespace Subscription

/-- Nobody reads the channel any more. -/
def close (s : Subscription) : Subscription :=
  { s with channel := s.channel.hangUp, stage := .over }

def settle (s : Subscription) : Subscribed → Subscription
  | .installed active => { s with stage := .forwarded active.feed }
  | .late _ => s.close
  | .refused _ => s.close

theorem settle_generation (s : Subscription) (outcome : Subscribed) :
    (s.settle outcome).generation = s.generation := by
  cases outcome <;> rfl

theorem settle_stage_ne_asked (s : Subscription) (outcome : Subscribed) :
    (s.settle outcome).stage ≠ .asked := by
  cases outcome <;> exact nofun

theorem stage_ne_asked_of_forwarded
    {s : Subscription} {feed : String} (h : s.stage = .forwarded feed) :
    s.stage ≠ .asked := by
  rw [h]
  exact nofun

end Subscription

/-- What can happen to a traffic stream; a subscription is named by its generation. -/
inductive StreamEvent where
  /-- An activation begins, or finds that a subscription is there or on its way. -/
  | activate (generation : Option Nat)
  | settleActivate (generation : Nat) (outcome : Subscribed)
  | abandonActivate (generation : Nat)
  | deactivate (given : Option ActiveFeed)
  | answerUnsubscribe (feed : String) (answer : Except String Unit)
  /-- The backend offers a sample, which the channel takes or not. -/
  | push (generation : Nat) (record : TrafficRecord) (taken : Bool)
  /-- The backend ends the feed. -/
  | finish (generation : Nat)
  | receive (generation : Nat) (record : TrafficRecord)
  /-- The forwarder finds its feed ended. -/
  | feedEnded (generation : Nat)
  | stopForwarder (generation : Nat)
  | retire

namespace StreamEvent

/-- The calls that are made in the step of an event. -/
def calls : StreamEvent → List Call
  | activate (some _) => [.subscribe]
  | settleActivate _ (.late feed) => [.unsubscribe feed]
  | deactivate (some active) => [.unsubscribe active.feed]
  | _ => []

/-- The feed that the backend hands over. -/
def opened? : StreamEvent → Option String
  | settleActivate _ (.installed active) => some active.feed
  | settleActivate _ (.late feed) => some feed
  | _ => none

/-- The sample that the subscription takes in. -/
def pushed? (generation : Nat) : StreamEvent → Option TrafficRecord
  | push target record true => if target = generation then some record else none
  | _ => none

/-- The sample that the forwarder of the subscription receives. -/
def received? (generation : Nat) : StreamEvent → Option TrafficRecord
  | receive target record => if target = generation then some record else none
  | _ => none

end StreamEvent

/-- What happened to a traffic stream, the oldest first. -/
abbrev StreamHistory := List StreamEvent

namespace StreamHistory

variable {past : StreamHistory} {event : StreamEvent} {generation : Nat}

def calls (past : StreamHistory) : List Call :=
  past.flatMap StreamEvent.calls

/-- The feeds that the backend handed over. -/
def opened (past : StreamHistory) : List String :=
  past.filterMap StreamEvent.opened?

/-- The samples that a subscription took in. -/
def pushed (past : StreamHistory) (generation : Nat) : List TrafficRecord :=
  past.filterMap (StreamEvent.pushed? generation)

/-- The samples that the forwarder of a subscription received. -/
def received (past : StreamHistory) (generation : Nat) : List TrafficRecord :=
  past.filterMap (StreamEvent.received? generation)

theorem calls_concat (past : StreamHistory) (event : StreamEvent) :
    calls (past ++ [event]) = past.calls ++ event.calls := by
  simp [calls]

theorem opened_concat (past : StreamHistory) (event : StreamEvent) :
    opened (past ++ [event]) = past.opened ++ event.opened?.toList :=
  Keyed.filterMap_concat _ _ _

theorem pushed_concat (past : StreamHistory) (event : StreamEvent) (generation : Nat) :
    pushed (past ++ [event]) generation
      = past.pushed generation ++ (event.pushed? generation).toList :=
  Keyed.filterMap_concat _ _ _

theorem received_concat (past : StreamHistory) (event : StreamEvent) (generation : Nat) :
    received (past ++ [event]) generation
      = past.received generation ++ (event.received? generation).toList :=
  Keyed.filterMap_concat _ _ _

end StreamHistory

/-- A traffic stream with the subscriptions that were ever asked for. -/
structure StreamRun where
  stream : Stream
  alive : Bool
  subscriptions : List Subscription
  past : StreamHistory

namespace StreamRun

/-- A stream to which nothing has happened. -/
def new : StreamRun where
  stream := Stream.inactive
  alive := true
  subscriptions := []
  past := []

def note (run : StreamRun) (event : StreamEvent) : StreamRun :=
  { run with past := run.past ++ [event] }

/-- The generation that the stream is in. -/
def generation (run : StreamRun) : Nat :=
  run.stream.snapshot.generation

def status (run : StreamRun) : StreamStatus :=
  run.stream.snapshot.status

/-- One step of one party. -/
inductive Step : StreamRun → StreamRun → Prop
  | activate (run : StreamRun) (capacity : Nat)
      {stream : Stream} {generation : Nat}
      (began : run.stream.beginActivate = (stream, some generation)) :
      Step run { run.note (.activate (some generation)) with
        stream := stream
        subscriptions := run.subscriptions
          ++ [{ generation, channel := Channel.new capacity, stage := .asked }] }
  | passActivate (run : StreamRun)
      {stream : Stream}
      (passed : run.stream.beginActivate = (stream, none)) :
      Step run { run.note (.activate none) with stream := stream }
  | settleActivate (run : StreamRun) (answer : Except String String)
      {i : Nat} {s : Subscription} {stream : Stream} {outcome : Subscribed}
      (found : run.subscriptions[i]? = some s)
      (asked : s.stage = .asked)
      (settled : run.stream.settleActivate run.alive s.generation answer = (stream, outcome)) :
      Step run { run.note (.settleActivate s.generation outcome) with
        stream := stream
        subscriptions := run.subscriptions.set i (s.settle outcome) }
  | abandonActivate (run : StreamRun)
      {i : Nat} {s : Subscription}
      (found : run.subscriptions[i]? = some s)
      (asked : s.stage = .asked) :
      Step run { run.note (.abandonActivate s.generation) with
        subscriptions := run.subscriptions.set i s.close }
  | deactivate (run : StreamRun)
      {stream : Stream} {given : Option ActiveFeed}
      (cleared : run.stream.deactivate = (stream, given)) :
      Step run { run.note (.deactivate given) with stream := stream }
  | answerUnsubscribe (run : StreamRun) (feed : String) (answer : Except String Unit)
      (issued : .unsubscribe feed ∈ run.past.calls) :
      Step run (run.note (.answerUnsubscribe feed answer))
  | push (run : StreamRun) (record : TrafficRecord)
      {i : Nat} {s : Subscription} {channel : Channel TrafficRecord} {taken : Bool}
      (found : run.subscriptions[i]? = some s)
      (offered : s.channel.offer record = (channel, taken)) :
      Step run { run.note (.push s.generation record taken) with
        subscriptions := run.subscriptions.set i { s with channel } }
  | finish (run : StreamRun)
      {i : Nat} {s : Subscription}
      (found : run.subscriptions[i]? = some s) :
      Step run { run.note (.finish s.generation) with
        subscriptions := run.subscriptions.set i { s with channel := s.channel.finish } }
  | receive (run : StreamRun)
      {i : Nat} {s : Subscription} {feed : String} {channel : Channel TrafficRecord}
      {record : TrafficRecord} {stream : Stream} {goesOn : Bool}
      (found : run.subscriptions[i]? = some s)
      (forwarded : s.stage = .forwarded feed)
      (taken : s.channel.receive = (channel, .item record))
      (received : run.stream.receive run.alive s.generation record = (stream, goesOn)) :
      Step run { run.note (.receive s.generation record) with
        stream := stream
        subscriptions := run.subscriptions.set i
          (if goesOn then { s with channel } else { s with channel }.close) }
  | feedEnded (run : StreamRun)
      {i : Nat} {s : Subscription} {feed : String} {channel : Channel TrafficRecord}
      (found : run.subscriptions[i]? = some s)
      (forwarded : s.stage = .forwarded feed)
      (ended : s.channel.receive = (channel, .closed)) :
      Step run { run.note (.feedEnded s.generation) with
        stream := run.stream.feedEnded run.alive s.generation
        subscriptions := run.subscriptions.set i s.close }
  | stopForwarder (run : StreamRun)
      {i : Nat} {s : Subscription} {feed : String}
      (found : run.subscriptions[i]? = some s)
      (forwarded : s.stage = .forwarded feed)
      (givenUp : run.stream.active ≠ some { feed, generation := s.generation }) :
      Step run { run.note (.stopForwarder s.generation) with
        subscriptions := run.subscriptions.set i s.close }
  | retire (run : StreamRun) :
      Step run { run.note .retire with alive := false }

/-- Each step adds one event to what happened. -/
theorem Step.exists_past_eq {run next : StreamRun} (step : Step run next) :
    ∃ event, next.past = run.past ++ [event] := by
  cases step <;> exact ⟨_, rfl⟩

theorem Step.alive {run next : StreamRun} (step : Step run next) (halive : next.alive = true) :
    run.alive = true := by
  cases step with
  | retire => cases halive
  | _ => exact halive

theorem Step.move {run next : StreamRun} (step : Step run next) :
    Stream.Move run.alive run.stream next.stream := by
  have hbegun : Stream.Move run.alive run.stream run.stream.beginActivate.1 := .beginActivate
  have hcleared : Stream.Move run.alive run.stream run.stream.deactivate.1 := .deactivate
  cases step with
  | activate capacity began => rwa [began] at hbegun
  | passActivate passed => rwa [passed] at hbegun
  | @settleActivate answer i s stream outcome found asked settled =>
    have hsettled : Stream.Move run.alive run.stream
        (run.stream.settleActivate run.alive s.generation answer).1 := .settleActivate _ answer
    rwa [settled] at hsettled
  | deactivate cleared => rwa [cleared] at hcleared
  | @receive i s feed channel record stream goesOn found forwarded taken received =>
    have hreceived : Stream.Move run.alive run.stream
        (run.stream.receive run.alive s.generation record).1 := .receive _ record
    rwa [received] at hreceived
  | feedEnded found forwarded ended => exact .feedEnded _
  | _ => exact .stay

/-- The generation never goes back. -/
theorem Step.generation_le {run next : StreamRun} (step : Step run next) :
    run.generation ≤ next.generation :=
  step.move.generation_le

theorem generation_le_of_path
    {run later : StreamRun} (path : Relation.ReflTransGen Step run later) :
    run.generation ≤ later.generation := by
  induction path with
  | refl => exact Nat.le_refl _
  | tail _ step ih => exact Nat.le_trans ih step.generation_le

theorem exists_stretch {run later : StreamRun} (path : Relation.ReflTransGen Step run later) :
    ∃ stretch, later.past = run.past ++ stretch := by
  induction path with
  | refl => exact ⟨[], (List.append_nil _).symm⟩
  | tail _ step ih =>
    obtain ⟨stretch, hstretch⟩ := ih
    obtain ⟨event, hpast⟩ := step.exists_past_eq
    refine ⟨stretch ++ [event], ?_⟩
    rw [hpast, hstretch, List.append_assoc]

def Reached (run : StreamRun) : Prop :=
  Relation.ReflTransGen Step new run

end StreamRun
end VpnFleet
