import Mathlib.Logic.Relation
import VpnFleet.Proofs.Client.Moves

/-!
# Runs of a client

Any number of commands may be under way at once beside the background loops
and the forwarders of feeds. What any of them does between two waits is one
step, any may take the next one, ticks come when they like, and the backend
answers, pushes and fails as it likes.

* A `ClientRun` holds the client, the operations and tickets under way, and the
  loops. The loops of a start stay together; one that has ended is missing.
* `Poller.Step`, `Follower.Step` and `Herald.Step` say when a loop takes which
  of its steps.
* `ClientRun.Step` is one step of one party. It makes one move of the client.
* `ClientRun.Reached` says that a run that began with a new client comes to a
  state.
-/

namespace VpnFleet

namespace Poller

/-- The poller takes a step; a tick may come at any time. -/
inductive Step (client : Client) (poller : Poller) : Client → Poller → Prop
  | settleIn (fresh : poller.stage = .fresh) (period : 0 < client.pollMs) :
      Step client poller client (poller.settleIn client)
  | stop (resting : poller.stage = .resting) (due : poller.stopDue client = true) :
      Step client poller client (poller.onStop client)
  | tick (resting : poller.stage = .resting) : Step client poller client (poller.query client)
  | see (resting : poller.stage = .resting) (due : poller.inventoryDue client = true) :
      Step client poller (poller.onInventory client).1 (poller.onInventory client).2
  | answer {began : Nat} (querying : poller.stage = .querying began)
      (answer : Except String StatusRecord) :
      Step client poller (poller.onAnswer client began answer).1
        (poller.onAnswer client began answer).2

theorem Step.move {client next : Client} {poller after : Poller}
    (step : Step client poller next after) : client.Move next := by
  cases step with
  | see resting due => exact onInventory_move poller client
  | answer querying answer => exact onAnswer_move poller client _ answer
  | _ => exact (Client.Keeps.refl client).move

/-- A poller without a period does not begin. -/
def HasEnded (client : Client) (poller : Poller) : Prop :=
  poller.stage = .ended ∨ (poller.stage = .fresh ∧ client.pollMs = 0)

end Poller

/-- The follower takes a step. -/
inductive Follower.Step (client : Client) (follower : Follower) : FollowerTurn → Prop
  | begin (fresh : follower.stage = .fresh) : Step client follower (follower.look client)
  | stop (resting : follower.stage = .resting) (due : follower.stopDue client = true) :
      Step client follower (follower.onStop client)
  | see (resting : follower.stage = .resting) (due : follower.sessionDue client = true) :
      Step client follower (follower.look client)
  | subscribed {generation : Nat} (subscribing : follower.stage = .subscribing generation)
      (answer : Except String String) :
      Step client follower (follower.onSubscribed client generation answer)
  | closed {feed : String} {leaving : Bool} (closing : follower.stage = .closing feed leaving) :
      Step client follower (follower.onClosed client leaving)

theorem Follower.Step.keeps {client : Client} {follower : Follower} {turn : FollowerTurn}
    (step : follower.Step client turn) : client.Keeps turn.client := by
  cases step with
  | begin fresh => exact look_keeps follower client
  | stop resting due => exact deactivate_keeps _ client true
  | see resting due => exact look_keeps follower client
  | subscribed subscribing answer => exact onSubscribed_keeps follower client _ answer
  | closed closing => exact ⟨rfl, rfl⟩

/-- The background loops of one start. -/
structure Loops where
  poller : Option Poller
  follower : Option Follower
  herald : Option Herald

namespace Loops

/-- The loops as they are started. -/
def new (client : Client) : Loops where
  poller := some (Poller.new client)
  follower := some (Follower.new client)
  herald := some (Herald.new client)

def ended : Loops where
  poller := none
  follower := none
  herald := none

variable {loops : Loops}

theorem ne_ended_of_poller {poller : Poller} (present : loops.poller = some poller) :
    loops ≠ ended := by
  rintro rfl
  cases present

theorem ne_ended_of_follower {follower : Follower} (present : loops.follower = some follower) :
    loops ≠ ended := by
  rintro rfl
  cases present

theorem ne_ended_of_herald {herald : Herald} (present : loops.herald = some herald) :
    loops ≠ ended := by
  rintro rfl
  cases present

end Loops

/-- An operation under way; a teardown waits for the loops that it took over. -/
structure Job where
  yield : Yield
  operation : Operation yield
  awaited : Option Nat

/-- A client with everything that runs on it. -/
structure ClientRun where
  client : Client
  jobs : List Job
  /-- The placeholders of spawns that are neither confirmed nor dropped. -/
  tickets : List Placeholder
  /-- The loops of each start. -/
  loops : List Loops
  /-- The start whose loops no teardown has taken over. -/
  background : Option Nat
  /-- The feeds that forwarders read. -/
  forwarders : List ActiveFeed

namespace ClientRun

def new (settings : Settings) (salt : Nat) : ClientRun where
  client := Client.new settings salt
  jobs := []
  tickets := []
  loops := []
  background := none
  forwarders := []

def poller? (run : ClientRun) (start : Nat) : Option Poller :=
  run.loops[start]?.bind Loops.poller

def perform (run : ClientRun) : Effect → ClientRun
  | .startForwarder feed => { run with forwarders := run.forwarders ++ [feed] }
  | .stopForwarder feed => { run with forwarders := run.forwarders.filter (· ≠ feed) }

/-- The client and the forwarders after a step. -/
def take (run : ClientRun) (client : Client) (effects : List Effect) : ClientRun :=
  effects.foldl perform { run with client }

/-- An operation is under way; a teardown takes the background loops over. -/
def enqueue {yield : Yield} (run : ClientRun) : Operation yield → ClientRun
  | .draining =>
    { run with
      jobs := run.jobs ++ [{ yield := .unit, operation := .draining, awaited := run.background }]
      background := none }
  | operation => { run with jobs := run.jobs ++ [{ yield, operation, awaited := none }] }

/-- What a step of an operation leads to. -/
def follow {yield : Yield} (run : ClientRun) (turn : Turn yield) : ClientRun :=
  match turn.next with
  | .finished _ => run.take turn.client turn.effects
  | .waiting operation => (run.take turn.client turn.effects).enqueue operation

/-- An operation is not under way any more. -/
def drop (run : ClientRun) (i : Nat) : ClientRun :=
  { run with jobs := run.jobs.eraseIdx i }

def setLoops (run : ClientRun) (start : Nat) (loops : Loops) : ClientRun :=
  { run with loops := run.loops.set start loops }

/-- One step of one party. -/
inductive Step : ClientRun → ClientRun → Prop
  | start (run : ClientRun) {yield : Yield} (command : Command yield) :
      Step run (run.follow (command.start run.client))
  | settle (run : ClientRun) {i : Nat} {yield : Yield} {call : Call}
      {resumption : Resumption call yield} {awaited : Option Nat}
      (answer : call.Answer)
      (found : run.jobs[i]? = some ⟨yield, .awaiting call resumption, awaited⟩) :
      Step run ((run.drop i).follow (resumption.settle run.client answer))
  | askListing (run : ClientRun) {i slot : Nat} {yield : Yield}
      {sweep : Sweep} {goal : RefreshGoal yield} {awaited : Option Nat} {region : String}
      (found : run.jobs[i]? = some ⟨yield, .sweeping sweep goal, awaited⟩)
      (next : sweep.next? = some (slot, region)) :
      Step run { run with
        jobs := run.jobs.set i ⟨yield, .sweeping (sweep.ask slot) goal, awaited⟩ }
  | answerListing (run : ClientRun) {i slot : Nat} {yield : Yield}
      {sweep : Sweep} {goal : RefreshGoal yield} {awaited : Option Nat} {place : Slot}
      (listing : Listing)
      (found : run.jobs[i]? = some ⟨yield, .sweeping sweep goal, awaited⟩)
      (slotFound : sweep.slots[slot]? = some place)
      (asked : place.isAsked = true) :
      Step run { run with
        jobs := run.jobs.set i ⟨yield, .sweeping (sweep.answer slot listing) goal, awaited⟩ }
  | settleSweep (run : ClientRun) {i : Nat} {yield : Yield}
      {sweep : Sweep} {goal : RefreshGoal yield} {awaited : Option Nat}
      (found : run.jobs[i]? = some ⟨yield, .sweeping sweep goal, awaited⟩)
      (done : sweep.isDone = true) :
      Step run ((run.drop i).follow (run.client.settleSweep sweep goal))
  | drain (run : ClientRun) {i : Nat} {awaited : Option Nat}
      (found : run.jobs[i]? = some ⟨.unit, .draining, awaited⟩)
      (ended : ∀ start, awaited = some start → run.loops[start]? = some Loops.ended) :
      Step run ((run.drop i).follow run.client.drained)
  | abandon (run : ClientRun) {i : Nat} {job : Job}
      (found : run.jobs[i]? = some job) :
      Step run { run.drop i with client := job.operation.abandon run.client }
  | beginSpawn (run : ClientRun) {region : String} {client : Client} {placeholder : Placeholder}
      (accepted : run.client.beginSpawn region = .ok (client, placeholder)) :
      Step run { run with client, tickets := run.tickets ++ [placeholder] }
  | confirm (run : ClientRun) {i : Nat} {placeholder : Placeholder}
      (found : run.tickets[i]? = some placeholder) :
      Step run ({ run with tickets := run.tickets.eraseIdx i }.follow
        (run.client.confirm placeholder .silent))
  | dropTicket (run : ClientRun) {i : Nat} {placeholder : Placeholder}
      (found : run.tickets[i]? = some placeholder) :
      Step run { run with
        client := run.client.discard placeholder
        tickets := run.tickets.eraseIdx i }
  | insert (run : ClientRun) (server : Instance) :
      Step run { run with
        client := { run.client with inventory := run.client.inventory.insert server } }
  | remove (run : ClientRun) (id : String) :
      Step run { run with
        client := { run.client with inventory := (run.client.inventory.remove id).1 } }
  | reconcile (run : ClientRun) : Step run { run with client := run.client.reconcile }
  | post (run : ClientRun) (severity : Severity) (kind : NoticeKind) (message : String) :
      Step run { run with client := run.client.post severity kind message }
  | dismiss (run : ClientRun) (id : Nat) :
      Step run { run with
        client := { run.client with notices := (run.client.notices.dismiss id).1 } }
  | clear (run : ClientRun) :
      Step run { run with client := { run.client with notices := run.client.notices.clear } }
  | startLoops (run : ClientRun) (unstarted : run.background = none) :
      Step run { run with
        loops := run.loops ++ [Loops.new run.client]
        background := some run.loops.length }
  | poll (run : ClientRun) {start : Nat} {loops : Loops} {poller next : Poller} {client : Client}
      (found : run.loops[start]? = some loops)
      (present : loops.poller = some poller)
      (step : Poller.Step run.client poller client next) :
      Step run ({ run with client }.setLoops start { loops with poller := some next })
  | leavePoller (run : ClientRun) {start : Nat} {loops : Loops} {poller : Poller}
      (found : run.loops[start]? = some loops)
      (present : loops.poller = some poller)
      (ended : poller.HasEnded run.client) :
      Step run (run.setLoops start { loops with poller := none })
  | pursue (run : ClientRun) {start : Nat} {loops : Loops} {follower : Follower}
      {turn : FollowerTurn}
      (found : run.loops[start]? = some loops)
      (present : loops.follower = some follower)
      (step : follower.Step run.client turn) :
      Step run ((run.take turn.client turn.effects).setLoops start
        { loops with follower := some turn.follower })
  | leaveFollower (run : ClientRun) {start : Nat} {loops : Loops} {follower : Follower}
      (found : run.loops[start]? = some loops)
      (present : loops.follower = some follower)
      (ended : follower.stage = .ended) :
      Step run (run.setLoops start { loops with follower := none })
  | announce (run : ClientRun) {start : Nat} {loops : Loops} {herald : Herald}
      (found : run.loops[start]? = some loops)
      (present : loops.herald = some herald)
      (due : herald.streamDue run.client = true) :
      Step run ({ run with client := (herald.onStream run.client).1 }.setLoops start
        { loops with herald := some (herald.onStream run.client).2 })
  | leaveHerald (run : ClientRun) {start : Nat} {loops : Loops} {herald : Herald}
      (found : run.loops[start]? = some loops)
      (present : loops.herald = some herald)
      (due : herald.stopDue run.client = true) :
      Step run (run.setLoops start { loops with herald := none })
  | receive (run : ClientRun) {feed : ActiveFeed} {stream : Stream} {goesOn : Bool}
      (record : TrafficRecord)
      (forwarded : feed ∈ run.forwarders)
      (received : run.client.stream.receive run.client.alive feed.generation record
        = (stream, goesOn)) :
      Step run { run with
        client := { run.client with stream }
        forwarders := if goesOn then run.forwarders else run.forwarders.erase feed }
  | feedEnded (run : ClientRun) {feed : ActiveFeed}
      (forwarded : feed ∈ run.forwarders) :
      Step run { run with
        client := { run.client with
          stream := run.client.stream.feedEnded run.client.alive feed.generation }
        forwarders := run.forwarders.erase feed }
  | retire (run : ClientRun) : Step run { run with client := run.client.retire }

def Reached (settings : Settings) (salt : Nat) (run : ClientRun) : Prop :=
  Relation.ReflTransGen Step (new settings salt) run

section Parts

variable (run : ClientRun)

@[simp]
theorem perform_client (effect : Effect) : (run.perform effect).client = run.client := by
  cases effect <;> rfl

@[simp]
theorem perform_loops (effect : Effect) : (run.perform effect).loops = run.loops := by
  cases effect <;> rfl

/-- What no single effect touches, several do not touch. -/
theorem foldl_perform_eq
    {α : Type} (f : ClientRun → α) (h : ∀ run effect, f (perform run effect) = f run)
    (effects : List Effect) :
    f (effects.foldl perform run) = f run := by
  induction effects generalizing run with
  | nil => rfl
  | cons effect effects ih => rw [List.foldl_cons, ih, h]

@[simp]
theorem take_client (client : Client) (effects : List Effect) :
    (run.take client effects).client = client :=
  foldl_perform_eq _ ClientRun.client perform_client effects

@[simp]
theorem take_loops (client : Client) (effects : List Effect) :
    (run.take client effects).loops = run.loops :=
  foldl_perform_eq _ ClientRun.loops perform_loops effects

@[simp]
theorem enqueue_client {yield : Yield} (operation : Operation yield) :
    (run.enqueue operation).client = run.client := by
  cases operation <;> rfl

@[simp]
theorem enqueue_loops {yield : Yield} (operation : Operation yield) :
    (run.enqueue operation).loops = run.loops := by
  cases operation <;> rfl

@[simp]
theorem follow_client {yield : Yield} (turn : Turn yield) :
    (run.follow turn).client = turn.client := by
  unfold follow
  split <;> simp

@[simp]
theorem follow_loops {yield : Yield} (turn : Turn yield) :
    (run.follow turn).loops = run.loops := by
  unfold follow
  split <;> simp

end Parts

variable {run next : ClientRun}

theorem Step.move (step : Step run next) : run.client.Move next.client := by
  cases step with
  | start command =>
    rw [follow_client]
    exact command.start_move run.client
  | @settle i yield call resumption awaited answer found =>
    rw [follow_client]
    exact resumption.settle_move run.client answer
  | settleSweep found done =>
    rw [follow_client]
    exact Client.settleSweep_move run.client _ _
  | drain found ended =>
    rw [follow_client]
    exact (Client.deactivate_keeps run.client .silent).move
  | @abandon i job found => exact job.operation.abandon_move run.client
  | beginSpawn accepted => exact Client.beginSpawn_move run.client accepted
  | confirm found =>
    rw [follow_client]
    exact Client.Keeps.move ⟨rfl, rfl⟩
  | dropTicket found => exact Client.discard_move run.client _
  | insert server => exact ⟨.insert server, .stay⟩
  | remove id => exact ⟨.remove id, .stay⟩
  | reconcile => exact ⟨.stay, .reconcile⟩
  | poll found present step => exact step.move
  | pursue found present step =>
    show run.client.Move (run.take _ _).client
    rw [take_client]
    exact step.keeps.move
  | announce found present due => exact (Herald.onStream_keeps _ run.client).move
  | _ => exact Client.Keeps.move ⟨rfl, rfl⟩

/-- A poller stays, leaves or takes a step of its own. -/
def PollerPasses (client next : Client) (poller after : Option Poller) : Prop :=
  after = poller
    ∨ after = none
    ∨ ∃ before later,
      poller = some before ∧ Poller.Step client before next later ∧ after = some later

/-- A step leaves the loops, starts some, or is a step of the loops of one start that have not
ended. -/
theorem Step.loops_cases (step : Step run next) :
    next.loops = run.loops
      ∨ next.loops = run.loops ++ [Loops.new run.client]
      ∨ ∃ start loops later,
        run.loops[start]? = some loops
          ∧ loops ≠ Loops.ended
          ∧ next.loops = run.loops.set start later
          ∧ PollerPasses run.client next.client loops.poller later.poller := by
  cases step with
  | start command => exact Or.inl (follow_loops _ _)
  | settle answer found => exact Or.inl (follow_loops _ _)
  | settleSweep found done => exact Or.inl (follow_loops _ _)
  | drain found ended => exact Or.inl (follow_loops _ _)
  | confirm found => exact Or.inl (follow_loops _ _)
  | startLoops unstarted => exact Or.inr (Or.inl rfl)
  | @poll start loops poller after client found present step =>
    have hrunning := Loops.ne_ended_of_poller present
    exact Or.inr (Or.inr ⟨start, loops, _, found, hrunning, rfl,
      Or.inr (Or.inr ⟨poller, after, present, step, rfl⟩)⟩)
  | @leavePoller start loops poller found present ended =>
    have hrunning := Loops.ne_ended_of_poller present
    exact Or.inr (Or.inr ⟨start, loops, _, found, hrunning, rfl, Or.inr (Or.inl rfl)⟩)
  | @pursue start loops follower turn found present step =>
    have hrunning := Loops.ne_ended_of_follower present
    exact Or.inr (Or.inr ⟨start, loops, { loops with follower := some turn.follower }, found,
      hrunning, by simp [setLoops], Or.inl rfl⟩)
  | @leaveFollower start loops follower found present ended =>
    have hrunning := Loops.ne_ended_of_follower present
    exact Or.inr (Or.inr ⟨start, loops, _, found, hrunning, rfl, Or.inl rfl⟩)
  | @announce start loops herald found present due =>
    have hrunning := Loops.ne_ended_of_herald present
    exact Or.inr (Or.inr ⟨start, loops, _, found, hrunning, rfl, Or.inl rfl⟩)
  | @leaveHerald start loops herald found present due =>
    have hrunning := Loops.ne_ended_of_herald present
    exact Or.inr (Or.inr ⟨start, loops, _, found, hrunning, rfl, Or.inl rfl⟩)
  | _ => exact Or.inl rfl

theorem Step.loops_length_le (step : Step run next) :
    run.loops.length ≤ next.loops.length := by
  rcases step.loops_cases with hsame | hstarted | ⟨_, _, _, -, -, hset, -⟩
  · exact Nat.le_of_eq (congrArg List.length hsame).symm
  · rw [hstarted, List.length_append]
    exact Nat.le_add_right _ _
  · have hlength : next.loops.length = run.loops.length := by
      rw [hset, List.length_set]
    exact Nat.le_of_eq hlength.symm

/-- Loops that have ended take no step any more. -/
theorem Step.loops_ended
    (step : Step run next) {start : Nat} (h : run.loops[start]? = some Loops.ended) :
    next.loops[start]? = some Loops.ended := by
  rcases step.loops_cases with hsame | hstarted | ⟨moved, loops, later, hfound, hrunning, hset, -⟩
  · rw [hsame]
    exact h
  · have hstart := (List.getElem?_eq_some_iff.1 h).1
    rw [hstarted, List.getElem?_append_left hstart]
    exact h
  · have hmoved : moved ≠ start := by
      rintro rfl
      rw [h] at hfound
      exact hrunning (Option.some.inj hfound).symm
    rw [hset, List.getElem?_set_ne hmoved]
    exact h

theorem Step.poller_passes
    (step : Step run next) {start : Nat} (started : start < run.loops.length) :
    PollerPasses run.client next.client (run.poller? start) (next.poller? start) := by
  unfold poller?
  rcases step.loops_cases with
    hsame | hstarted | ⟨moved, loops, later, hfound, -, hset, hpasses⟩
  · rw [hsame]
    exact Or.inl rfl
  · rw [hstarted, List.getElem?_append_left started]
    exact Or.inl rfl
  · rw [hset]
    by_cases hmoved : moved = start
    · subst hmoved
      rw [hfound, List.getElem?_set_self started]
      exact hpasses
    · rw [List.getElem?_set_ne hmoved]
      exact Or.inl rfl

end ClientRun
end VpnFleet
