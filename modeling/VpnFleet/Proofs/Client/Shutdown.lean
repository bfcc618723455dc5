import VpnFleet.Proofs.Client.Following
import VpnFleet.Proofs.Client.Subscriptions

/-!
# After a shutdown

A shutdown tears the client down, waits for the loops that it took over, and
then turns the stream off. Calls may be under way at any of these points, and
they are answered whenever the backend likes.

* Loops that have ended stay so. While a client is alive its loops were started
  at most once, so the shutdown that tears it down takes over all there are.
* Turning the stream off moves the generation past every activation that
  someone still waits for. The client is then `AtRest`, and no step takes it
  out of this, unless it begins another activation.
* `Shutdown` is the stretch from the call to the step that turns the stream
  off. A shutdown that finds an earlier one at work takes over no loops.
-/

namespace VpnFleet

namespace Stream

variable {stream : Stream} {generation : Nat}

/-- Neither a feed nor a refusal reaches a stream that was turned off meanwhile. -/
theorem settleActivate_of_passed
    (hpassed : generation < stream.snapshot.generation) (answer : Except String String) :
    (stream.settleActivate false generation answer).1 = stream := by
  have hlater : stream.snapshot.generation ≠ generation := by omega
  cases answer with
  | ok feed => simp [settleActivate]
  | error message => simp [settleActivate, hlater]

theorem receive_of_retired (stream : Stream) (generation : Nat) (record : TrafficRecord) :
    (stream.receive false generation record).1 = stream := by
  simp [receive]

theorem feedEnded_of_retired (stream : Stream) (generation : Nat) :
    stream.feedEnded false generation = stream := by
  simp [feedEnded]

end Stream

/-- A late feed is closed again. -/
theorem Resumption.settleActivate_of_retired
    {client : Client} (hretired : client.alive = false) (generation : Nat) (feed : String) :
    settleActivate client generation (.ok feed)
      = Turn.awaiting client (.unsubscribe feed) (.close feed .silent) := by
  obtain ⟨base, rfl⟩ := Client.exists_of_retired hretired
  rfl

namespace ClientRun

variable {run next called drained later : ClientRun} {settings : Settings} {salt : Nat}

/-- While a client lives, loops come only with a start, and only a start takes them. -/
theorem Step.background_cases (step : Step run next) (halive : next.client.alive = true) :
    (next.background = run.background ∧ next.loops.length = run.loops.length)
      ∨ (run.background = none
        ∧ next.background = some run.loops.length
        ∧ next.loops.length = run.loops.length + 1) := by
  cases step with
  | start command =>
    rw [follow_client] at halive
    have hdrains := command.start_drains run.client (Command.tearsDown_of_alive halive)
    exact Or.inl ⟨run.follow_background hdrains, by simp⟩
  | @settle i yield call resumption awaited answer found =>
    have hdrains := Next.drains_eq_false (resumption.settle_interferes run.client answer)
    exact Or.inl ⟨(run.drop i).follow_background hdrains, by simp [drop]⟩
  | @settleSweep i yield sweep goal awaited found done =>
    have hdrains := Next.drains_eq_false (run.client.settleSweep_interferes sweep goal)
    exact Or.inl ⟨(run.drop i).follow_background hdrains, by simp [drop]⟩
  | @drain i awaited found ended =>
    have hdrains := Next.drains_eq_false (run.client.deactivate_interferes .silent)
    exact Or.inl ⟨(run.drop i).follow_background hdrains, by simp [drop]⟩
  | confirm found => exact Or.inl ⟨follow_background _ rfl, by simp⟩
  | startLoops unstarted => exact Or.inr ⟨unstarted, rfl, by simp⟩
  | poll found present step => exact Or.inl ⟨rfl, by simp [setLoops]⟩
  | leavePoller found present ended => exact Or.inl ⟨rfl, by simp [setLoops]⟩
  | pursue found present step => exact Or.inl ⟨by simp [setLoops], by simp [setLoops]⟩
  | leaveFollower found present ended => exact Or.inl ⟨rfl, by simp [setLoops]⟩
  | announce found present due => exact Or.inl ⟨rfl, by simp [setLoops]⟩
  | leaveHerald found present due => exact Or.inl ⟨rfl, by simp [setLoops]⟩
  | _ => exact Or.inl ⟨rfl, rfl⟩

/-- The loops of a live client were started once, and no shutdown has taken them over. -/
theorem Reached.loops_of_alive
    (reached : Reached settings salt run) (halive : run.client.alive = true) :
    (run.background = none ∧ run.loops.length = 0)
      ∨ (run.background = some 0 ∧ run.loops.length = 1) := by
  induction reached with
  | refl => exact Or.inl ⟨rfl, rfl⟩
  | tail _ step ih =>
    have hbefore := ih ((step.sameFlags halive).alive ▸ halive)
    rcases step.background_cases halive with ⟨hbackground, hlength⟩ | ⟨hnone, hstarted, hlength⟩
    · rw [hbackground, hlength]
      exact hbefore
    · rcases hbefore with ⟨-, hempty⟩ | ⟨hsome, -⟩
      · exact Or.inr ⟨by rw [hstarted, hempty], by omega⟩
      · rw [hnone] at hsome
        cases hsome

/-- Neither a start of the loops nor the start of an activation by hand. -/
structure Calm (run next : ClientRun) : Prop where
  step : Step run next
  notStarted : next.loops.length = run.loops.length
  notActivated : next ≠ run.follow (Command.activateStream.start run.client)

theorem steps_of_calm (path : Relation.ReflTransGen Calm run later) :
    Relation.ReflTransGen Step run later :=
  path.lift id fun _ _ calm => calm.step

theorem loops_length_of_calm (path : Relation.ReflTransGen Calm run later) :
    later.loops.length = run.loops.length := by
  induction path with
  | refl => rfl
  | tail _ calm ih => exact calm.notStarted.trans ih

theorem loops_ended_of_path
    {start : Nat} (path : Relation.ReflTransGen Step run later)
    (h : run.loops[start]? = some Loops.ended) :
    later.loops[start]? = some Loops.ended := by
  induction path with
  | refl => exact h
  | tail _ step ih => exact step.loops_ended ih

theorem all_ended_of_calm
    (path : Relation.ReflTransGen Calm run later)
    (h : ∀ loops ∈ run.loops, loops = Loops.ended) :
    ∀ loops ∈ later.loops, loops = Loops.ended := by
  intro loops hloops
  obtain ⟨start, hstart, rfl⟩ := List.getElem_of_mem hloops
  have hearlier : start < run.loops.length := by
    rw [← loops_length_of_calm path]
    exact hstart
  have hended : run.loops[start]? = some Loops.ended := by
    rw [List.getElem?_eq_getElem hearlier, h _ (List.getElem_mem hearlier)]
  have hlater := loops_ended_of_path (steps_of_calm path) hended
  rw [List.getElem?_eq_getElem hstart] at hlater
  exact Option.some.inj hlater

/-- The client was torn down, its stream is off, and whoever waits for a feed waits for an
activation that has passed. -/
structure AtRest (run : ClientRun) : Prop where
  retired : run.client.alive = false
  idle : run.client.stream.IsIdle
  passed : ∀ generation, run.Subscribing generation →
    generation < run.client.stream.snapshot.generation

theorem AtRest.aside
    (h : run.AtRest) (hretired : next.client.alive = false)
    (hstream : next.client.stream = run.client.stream)
    (hwaits : ∀ generation, next.Subscribing generation → run.Subscribing generation) :
    next.AtRest := by
  refine ⟨hretired, ?_, ?_⟩
  · rw [hstream]
    exact h.idle
  · intro generation hwaiting
    rw [hstream]
    exact h.passed generation (hwaits generation hwaiting)

theorem AtRest.step (h : run.AtRest) (calm : Calm run next) : next.AtRest := by
  have hretired : next.client.alive = false :=
    alive_eq_false_of_path h.retired (Relation.ReflTransGen.single calm.step)
  cases calm.step.streamStep with
  | aside stream waits => exact h.aside hretired stream waits
  | begun entitled stream waits =>
    rcases entitled with hactivated | hrunning
    · exact absurd hactivated calm.notActivated
    · simp [Client.isStopping, h.retired] at hrunning
  | answered entitled answer stream waits =>
    have hunmoved := Stream.settleActivate_of_passed (h.passed _ entitled) answer
    rw [h.retired, hunmoved] at stream
    exact h.aside hretired stream waits
  | cleared stream waits =>
    refine ⟨hretired, ?_, ?_⟩
    · rw [stream]
      exact run.client.stream.deactivate_isIdle
    · intro generation hwaiting
      have hpassed := h.passed generation (waits generation hwaiting)
      obtain ⟨hcleared, -, -⟩ := Stream.deactivate_eq (Prod.eta run.client.stream.deactivate).symm
      rw [stream, hcleared]
      exact Nat.lt_succ_of_lt hpassed
  | received generation record stream waits =>
    rw [h.retired, Stream.receive_of_retired] at stream
    exact h.aside hretired stream waits
  | ended generation stream waits =>
    rw [h.retired, Stream.feedEnded_of_retired] at stream
    exact h.aside hretired stream waits

theorem AtRest.path (h : run.AtRest) (path : Relation.ReflTransGen Calm run later) :
    later.AtRest := by
  induction path with
  | refl => exact h
  | tail _ calm ih => exact ih.step calm

/-- Turning the stream off leaves every activation under way behind. -/
theorem InOrder.drained_atRest
    (h : run.InOrder) (hretired : run.client.alive = false) (i : Nat) :
    ((run.drop i).follow run.client.drained).AtRest := by
  have hcleared : ((run.drop i).follow run.client.drained).client.stream
      = run.client.stream.deactivate.1 := by
    rw [follow_client]
    exact run.client.deactivate_stream .silent
  refine ⟨?_, ?_, ?_⟩
  · rw [follow_client]
    exact (run.client.deactivate_sameFlags .silent).alive.trans hretired
  · rw [hcleared]
    exact run.client.stream.deactivate_isIdle
  · intro generation hwaiting
    have hleft := Next.subscription?_eq_none (run.client.deactivate_interferes .silent)
    have hle := h generation (hwaiting.of_follow_none hleft).of_drop
    obtain ⟨hsnapshot, -, -⟩ := Stream.deactivate_eq (Prod.eta run.client.stream.deactivate).symm
    rw [hcleared, hsnapshot]
    exact Nat.lt_succ_of_le hle

/-- A shutdown, from its call to the step that turns the stream off. -/
inductive Shutdown (called : ClientRun) : ClientRun → Prop
  | intro {run : ClientRun} {i : Nat}
      (path : Relation.ReflTransGen Step
        (called.follow (Command.shutdown.start called.client)) run)
      (found : run.jobs[i]? = some ⟨.unit, .draining, called.background⟩)
      (ended : ∀ start, called.background = some start → run.loops[start]? = some Loops.ended) :
      Shutdown called ((run.drop i).follow run.client.drained)

namespace Shutdown

theorem atRest
    (shutdown : Shutdown called drained) (reached : Reached settings salt called) :
    drained.AtRest := by
  cases shutdown with
  | @intro run i path found ended =>
    have hcalled := reached.tail (Step.start called .shutdown)
    have hretired : (called.follow (Command.shutdown.start called.client)).client.alive = false :=
      by rw [follow_client]; rfl
    exact (Reached.inOrder (hcalled.trans path)).drained_atRest
      (alive_eq_false_of_path hretired path) i

theorem loops_ended
    (shutdown : Shutdown called drained) {start : Nat} (h : called.background = some start) :
    drained.loops[start]? = some Loops.ended := by
  cases shutdown with
  | intro path found ended => simpa [drop] using ended start h

/-- The shutdown that tears a client down waits for all loops there are. -/
theorem all_ended
    (shutdown : Shutdown called drained) (reached : Reached settings salt called)
    (halive : called.client.alive = true) (hlength : drained.loops.length = called.loops.length) :
    ∀ loops ∈ drained.loops, loops = Loops.ended := by
  rcases reached.loops_of_alive halive with ⟨-, hnone⟩ | ⟨hbackground, hone⟩
  · intro loops hloops
    have hpositive := List.length_pos_of_mem hloops
    omega
  · have hended := shutdown.loops_ended hbackground
    intro loops hloops
    obtain ⟨start, hstart, rfl⟩ := List.getElem_of_mem hloops
    obtain rfl : start = 0 := by omega
    rw [List.getElem?_eq_getElem hstart] at hended
    exact Option.some.inj hended

end Shutdown

/-- **Shutdown.** Once a shutdown has turned the stream off, and until the loops are started or the
stream is activated again, the stream is off and holds no feed, the loops that the shutdown waited
for are gone for good, and a feed that comes late is closed again. If the shutdown tore the client
down and none were started meanwhile, these are all loops there are. -/
theorem shutdown_is_final
    (reached : Reached settings salt called)
    (shutdown : Shutdown called drained)
    (path : Relation.ReflTransGen Calm drained later) :
    later.client.stream.snapshot.status = .inactive
      ∧ later.client.stream.snapshot.traffic = none
      ∧ later.client.stream.active = none
      ∧ (∀ start, called.background = some start → later.loops[start]? = some Loops.ended)
      ∧ (called.client.alive = true → drained.loops.length = called.loops.length →
        ∀ loops ∈ later.loops, loops = Loops.ended)
      ∧ ∀ generation feed,
        Resumption.settle later.client (.activate generation) (.ok feed)
          = Turn.awaiting later.client (.unsubscribe feed) (.close feed .silent) := by
  have hrest := (shutdown.atRest reached).path path
  refine ⟨hrest.idle.status, hrest.idle.traffic, hrest.idle.active, ?_, ?_, ?_⟩
  · intro start hstart
    exact loops_ended_of_path (steps_of_calm path) (shutdown.loops_ended hstart)
  · intro halive hlength
    exact all_ended_of_calm path (shutdown.all_ended reached halive hlength)
  · exact Resumption.settleActivate_of_retired hrest.retired

/-- A feed that was asked for by hand before the loops ran comes after the shutdown. -/
theorem feed_after_shutdown_is_closed :
    ∃ called drained later : ClientRun,
      Reached Settings.default 0 called
        ∧ called.client.alive = true
        ∧ called.background = some 0
        ∧ called.client.stream.snapshot.status = .opening
        ∧ called.jobs.length = 1
        ∧ Shutdown called drained
        ∧ Relation.ReflTransGen Calm drained later
        ∧ later.jobs.map (fun job => job.operation.subscription?) = [none]
        ∧ later.client.stream.snapshot.status = .inactive
        ∧ later.client.stream.active = none
        ∧ later.loops = [Loops.ended] := by
  let tunnel : StatusRecord :=
    { connected := true, instanceId := none, publicV4 := none, publicV6 := none }
  let client : Client :=
    { Client.new Settings.default 0 with
      tracker := Tracker.empty.applyStatus (.reported VpnSession.unknownId tunnel)
      stream := {
        published := {
          value := { traffic := none, status := .opening, generation := 3 }
          version := 3 }
        active := none } }
  let called : ClientRun :=
    { client := client
      jobs := [⟨.unit, .awaiting .subscribe (.activate 1), none⟩]
      tickets := []
      loops := [{
        poller := some { stage := .querying 0, stopSeen := 0, inventorySeen := 0, revisionSeen := 0 }
        follower := some { stage := .subscribing 3, stopSeen := 0, sessionSeen := 1 }
        herald := some { stopSeen := 0, streamSeen := 1, reported := false } }]
      background := some 0
      forwarders := [] }
  let drained : ClientRun :=
    { client := { client.retire with
        stream := {
          published := {
            value := { traffic := none, status := .inactive, generation := 5 }
            version := 4 }
          active := none } }
      jobs := [⟨.unit, .awaiting .subscribe (.activate 1), none⟩]
      tickets := []
      loops := [Loops.ended]
      background := none
      forwarders := [] }
  -- an activation by hand is under way when the loops are started
  have started := (((Relation.ReflTransGen.refl.tail
    (Step.start (new Settings.default 0) .activateStream)).tail (Step.startLoops _ rfl)).tail
    (@Step.pursue _ 0 _ _ _ rfl rfl (Follower.Step.begin rfl))).tail
    (@Step.poll _ 0 _ _ _ _ rfl rfl (Poller.Step.settleIn rfl (by decide)))
  -- the poller finds a tunnel, the follower asks for a feed, and the poller asks again
  have busy := (((started.tail
    (@Step.poll _ 0 _ _ _ _ rfl rfl (Poller.Step.tick rfl))).tail
    (@Step.poll _ 0 _ _ _ _ rfl rfl (@Poller.Step.answer _ _ 0 rfl (.ok tunnel)))).tail
    (@Step.pursue _ 0 _ _ _ rfl rfl (Follower.Step.see rfl rfl))).tail
    (@Step.poll _ 0 _ _ _ _ rfl rfl (Poller.Step.tick rfl))
  have reached : Reached Settings.default 0 called := busy
  -- the shutdown waits until both are answered and all three have left
  have answered : Relation.ReflTransGen Step
      (called.follow (Command.shutdown.start called.client)) _ :=
    ((Relation.ReflTransGen.refl.tail
      (@Step.poll _ 0 _ _ _ _ rfl rfl (@Poller.Step.answer _ _ 0 rfl (.error "no answer")))).tail
      (@Step.leavePoller _ 0 _ _ rfl rfl (Or.inl rfl))).tail
      (@Step.pursue _ 0 _ _ _ rfl rfl (@Follower.Step.subscribed _ _ 3 rfl (.ok "feed-2")))
  have left := (((answered.tail
    (@Step.pursue _ 0 _ _ _ rfl rfl (@Follower.Step.closed _ _ "feed-2" false rfl))).tail
    (@Step.pursue _ 0 _ _ _ rfl rfl (Follower.Step.stop rfl rfl))).tail
    (@Step.leaveFollower _ 0 _ _ rfl rfl rfl)).tail
    (@Step.leaveHerald _ 0 _ _ rfl rfl rfl)
  have shutdown : Shutdown called drained :=
    @Shutdown.intro called _ 1 left rfl (by rintro start hstart; cases hstart; rfl)
  have path := Relation.ReflTransGen.single
    (Calm.mk (@Step.settle drained 0 .unit .subscribe (.activate 1) none (.ok "feed-1") rfl) rfl
      nofun)
  obtain ⟨hinactive, -, hnone, -, -, -⟩ := shutdown_is_final reached shutdown path
  exact ⟨called, drained, _, reached, rfl, rfl, rfl, rfl, shutdown, path, rfl, hinactive, hnone,
    rfl⟩

end ClientRun
end VpnFleet
