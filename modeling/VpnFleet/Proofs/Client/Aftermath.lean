import VpnFleet.Proofs.Client.Teardown
import VpnFleet.Proofs.Traffic.Operations

/-!
# What shows after a teardown

After a teardown the session should stay as it was, and the traffic stream as
well until it is turned off. Two answers come through all the same: a
termination that succeeds looks the session up again, and a refused
subscription is shown as long as no later activation or deactivation passed it.

* `Late` lists what may be answered late, and a `Settlement` is the step in
  which it is.
* `Late.Intrudes` says which answers come through. All others leave the session
  and the stream, or turn the stream off.
-/

namespace VpnFleet

namespace Stream

/-- The stream shows the same, or was turned off. -/
def StaysOrClears (stream next : Stream) : Prop :=
  next.snapshot = stream.snapshot
    ∨ next.snapshot
      = { traffic := none, status := .inactive, generation := stream.snapshot.generation + 1 }

/-- The refusal of the present activation, unless the stream shows it already. -/
def ShowsRefusal (stream : Stream) (generation : Nat) : Except String String → Prop
  | .ok _ => False
  | .error message =>
    stream.snapshot.generation = generation
      ∧ ¬ (stream.snapshot.status = .unavailable message ∧ stream.snapshot.traffic = none)

theorem settleActivate_staysOrClears_iff
    (stream : Stream) (generation : Nat) (answer : Except String String) :
    stream.StaysOrClears (stream.settleActivate false generation answer).1
      ↔ ¬ stream.ShowsRefusal generation answer := by
  generalize hsettled : stream.settleActivate false generation answer = settled
  obtain ⟨next, outcome⟩ := settled
  rcases settleActivate_cases hsettled with
    ⟨feed, -, -, halive, -⟩
    | ⟨feed, -, rfl, -, rfl⟩
    | ⟨message, -, rfl, hgeneration, hshown, -⟩
    | ⟨message, -, rfl, hpassed, rfl⟩
  · cases halive
  · exact iff_of_true (Or.inl rfl) not_false
  · constructor
    · rintro hkept ⟨-, hnew⟩
      rcases hkept with hsame | hcleared
      · rw [hshown] at hsame
        exact hnew ⟨(congrArg StreamSnapshot.status hsame).symm,
          (congrArg StreamSnapshot.traffic hsame).symm⟩
      · rw [hshown] at hcleared
        exact absurd (congrArg StreamSnapshot.status hcleared) nofun
    · intro hhidden
      have hshows : stream.snapshot.status = .unavailable message
          ∧ stream.snapshot.traffic = none := by
        by_contra hnew
        exact hhidden ⟨hgeneration, hnew⟩
      obtain ⟨hstatus, htraffic⟩ := hshows
      left
      rw [hshown, ← hstatus, ← htraffic]
  · exact iff_of_true (Or.inl rfl) fun hshows => hpassed hshows.1

end Stream

namespace Client

/-- The session stays, and the stream stays or is turned off. -/
structure Untouched (client next : Client) : Prop where
  session : next.tracker.value = client.tracker.value
  stream : client.stream.StaysOrClears next.stream

variable {client next : Client}

theorem Untouched.of_same
    (htracker : next.tracker = client.tracker) (hstream : next.stream = client.stream) :
    client.Untouched next where
  session := by rw [htracker]
  stream := Or.inl (by rw [hstream])

theorem Untouched.of_deactivate
    (htracker : next.tracker = client.tracker)
    (hstream : next.stream = client.stream.deactivate.1) :
    client.Untouched next where
  session := by rw [htracker]
  stream := Or.inr (by rw [hstream]; rfl)

theorem untouched_iff_of_lookup
    (htracker : next.tracker = client.reconcile.tracker) (hstream : next.stream = client.stream) :
    client.Untouched next
      ↔ client.tracker.session.reconciled client.inventory.value = client.tracker.session := by
  constructor
  · intro hkept
    have hsession := congrArg SessionSnapshot.session hkept.session
    rw [htracker] at hsession
    exact hsession
  · intro hsame
    refine ⟨?_, Or.inl (by rw [hstream])⟩
    rw [htracker]
    show (client.tracker.reconcile client.inventory.value).value = _
    rw [Tracker.reconcile_value, hsame]
    rfl

theorem untouched_iff_of_settleActivate
    (hretired : client.alive = false) {generation : Nat} {answer : Except String String}
    (htracker : next.tracker = client.tracker)
    (hstream : next.stream
      = (client.stream.settleActivate client.alive generation answer).1) :
    client.Untouched next ↔ ¬ client.stream.ShowsRefusal generation answer := by
  rw [hretired] at hstream
  have hshown := client.stream.settleActivate_staysOrClears_iff generation answer
  rw [← hstream] at hshown
  exact Iff.trans ⟨Untouched.stream, fun hkept => ⟨by rw [htracker], hkept⟩⟩ hshown

end Client

namespace Resumption

variable {call : Call} {yield : Yield} {client : Client}

/-- Its answer comes through after a teardown. -/
def Intrudes (client : Client) : Resumption call yield → call.Answer → Prop
  | .terminate _ .noticed, .ok () =>
    client.tracker.session.reconciled client.inventory.value ≠ client.tracker.session
  | .activate generation, answer => client.stream.ShowsRefusal generation answer
  | _, _ => False

theorem settleActivate_stream (generation : Nat) (answer : Except String String) :
    (settleActivate client generation answer).client.stream
      = (client.stream.settleActivate client.alive generation answer).1 := by
  unfold settleActivate
  dsimp only
  split <;> rfl

theorem settleTerminate_untouched_iff
    (hretired : client.alive = false) (termination : Termination) (answer : Except String Unit) :
    client.Untouched (settleTerminate client termination .noticed answer).client
      ↔ ¬ (Resumption.terminate termination .noticed).Intrudes client answer := by
  obtain ⟨base, rfl⟩ := Client.exists_of_retired hretired
  cases answer with
  | ok done =>
    refine Iff.trans (Client.untouched_iff_of_lookup ?_ ?_) not_not.symm
    · rfl
    · rfl
  | error message => exact iff_of_true (Client.Untouched.of_same rfl rfl) not_false

theorem settle_untouched_iff
    (hretired : client.alive = false) (resumption : Resumption call yield)
    (answer : call.Answer) :
    client.Untouched (resumption.settle client answer).client
      ↔ ¬ resumption.Intrudes client answer := by
  have hquiet (hdrives : resumption.drivesStream = false)
      (hfurther : resumption.goesFurther = false) :
      client.Untouched (resumption.settle client answer).client :=
    Client.Untouched.of_same (settle_keepsFindings hretired hfurther answer).tracker
      (resumption.settle_sameStream client answer hdrives).stream
  cases resumption with
  | terminate termination reporting =>
    cases reporting with
    | silent => exact iff_of_true (hquiet rfl rfl) not_false
    | noticed => exact settleTerminate_untouched_iff hretired termination answer
  | disconnect reporting =>
    cases reporting with
    | silent => exact iff_of_true (hquiet rfl rfl) not_false
    | noticed =>
      refine iff_of_true (Client.Untouched.of_deactivate ?_ ?_) not_false
      · exact (settle_keepsFindings hretired rfl answer).tracker
      · exact settleDisconnect_noticed_stream client answer
  | activate generation =>
    refine Client.untouched_iff_of_settleActivate hretired ?_ (settleActivate_stream _ _)
    exact (settle_keepsFindings hretired rfl answer).tracker
  | save credentials =>
    cases answer <;> exact iff_of_true (Client.Untouched.of_same rfl rfl) not_false
  | _ => exact iff_of_true (hquiet rfl rfl) not_false

end Resumption

namespace ClientRun

/-- What was under way and is answered now. -/
inductive Late where
  | command {call : Call} {yield : Yield} (resumption : Resumption call yield)
      (answer : call.Answer)
  | listings {yield : Yield} (sweep : Sweep) (goal : RefreshGoal yield)
  | drained
  | poll (answer : Except String StatusRecord)
  | subscription (generation : Nat) (answer : Except String String)
  | closing

/-- The step in which something that was under way is answered. -/
inductive Settlement (run : ClientRun) : Late → ClientRun → Prop
  | command {i : Nat} {yield : Yield} {call : Call} {resumption : Resumption call yield}
      {awaited : Option Nat} (answer : call.Answer)
      (found : run.jobs[i]? = some ⟨yield, .awaiting call resumption, awaited⟩) :
      Settlement run (.command resumption answer)
        ((run.drop i).follow (resumption.settle run.client answer))
  | listings {i : Nat} {yield : Yield} {sweep : Sweep} {goal : RefreshGoal yield}
      {awaited : Option Nat}
      (found : run.jobs[i]? = some ⟨yield, .sweeping sweep goal, awaited⟩)
      (done : sweep.isDone = true) :
      Settlement run (.listings sweep goal)
        ((run.drop i).follow (run.client.settleSweep sweep goal))
  | drained {i : Nat} {awaited : Option Nat}
      (found : run.jobs[i]? = some ⟨.unit, .draining, awaited⟩)
      (ended : ∀ start, awaited = some start → run.loops[start]? = some Loops.ended) :
      Settlement run .drained ((run.drop i).follow run.client.drained)
  | poll {start began : Nat} {loops : Loops} {poller : Poller}
      (found : run.loops[start]? = some loops)
      (present : loops.poller = some poller)
      (querying : poller.stage = .querying began)
      (answer : Except String StatusRecord) :
      Settlement run (.poll answer)
        ({ run with client := (poller.onAnswer run.client began answer).1 }.setLoops start
          { loops with poller := some (poller.onAnswer run.client began answer).2 })
  | subscription {start generation : Nat} {loops : Loops} {follower : Follower}
      {turn : FollowerTurn}
      (found : run.loops[start]? = some loops)
      (present : loops.follower = some follower)
      (subscribing : follower.stage = .subscribing generation)
      (answer : Except String String)
      (taken : follower.onSubscribed run.client generation answer = turn) :
      Settlement run (.subscription generation answer)
        ((run.take turn.client turn.effects).setLoops start
          { loops with follower := some turn.follower })
  | closing {start : Nat} {feed : String} {leaving : Bool} {loops : Loops} {follower : Follower}
      {turn : FollowerTurn}
      (found : run.loops[start]? = some loops)
      (present : loops.follower = some follower)
      (closing : follower.stage = .closing feed leaving)
      (taken : follower.onClosed run.client leaving = turn) :
      Settlement run .closing
        ((run.take turn.client turn.effects).setLoops start
          { loops with follower := some turn.follower })

variable {retired run next : ClientRun} {late : Late}

theorem Settlement.step (settlement : Settlement run late next) : Step run next := by
  cases settlement with
  | command answer found => exact .settle run answer found
  | listings found done => exact .settleSweep run found done
  | drained found ended => exact .drain run found ended
  | poll found present querying answer =>
    exact .poll run found present (.answer querying answer)
  | subscription found present subscribing answer taken =>
    exact .pursue run found present (taken ▸ .subscribed subscribing answer)
  | closing found present closing taken =>
    exact .pursue run found present (taken ▸ .closed closing)

/-- It comes through after a teardown. -/
def Late.Intrudes (client : Client) : Late → Prop
  | command resumption answer => resumption.Intrudes client answer
  | subscription generation answer => client.stream.ShowsRefusal generation answer
  | _ => False

/-- **Aftermath.** What is answered after a teardown leaves the session, and leaves the stream or
turns it off, exactly if it is neither a termination that finds the session changed nor the
refusal of the present activation. -/
theorem untouched_iff_not_intrudes
    (hretired : retired.client.alive = false)
    (path : Relation.ReflTransGen Step retired run)
    (settlement : Settlement run late next) :
    run.client.Untouched next.client ↔ ¬ late.Intrudes run.client := by
  have hdead := alive_eq_false_of_path hretired path
  cases settlement with
  | @command i yield call resumption awaited answer found =>
    rw [follow_client]
    exact resumption.settle_untouched_iff hdead answer
  | @listings i yield sweep goal awaited found done =>
    rw [follow_client]
    refine iff_of_true (Client.Untouched.of_same ?_ ?_) not_false
    · exact (Client.settleSweep_keepsFindings hdead sweep goal).tracker
    · exact (run.client.settleSweep_sameStream sweep goal).stream
  | drained found ended =>
    rw [follow_client]
    refine iff_of_true (Client.Untouched.of_deactivate ?_ ?_) not_false
    · exact (run.client.deactivate_keeps .silent).tracker
    · exact run.client.deactivate_stream .silent
  | @poll start began loops poller found present querying answer =>
    have hsame := poller.onAnswer_of_retired hdead began answer
    exact iff_of_true
      (Client.Untouched.of_same (congrArg Client.tracker hsame) (congrArg Client.stream hsame))
      not_false
  | @subscription start generation loops follower turn found present subscribing answer taken =>
    show run.client.Untouched (run.take _ _).client ↔ _
    rw [take_client, ← taken]
    refine Client.untouched_iff_of_settleActivate hdead ?_ ?_
    · exact (follower.onSubscribed_keeps run.client generation answer).tracker
    · unfold Follower.onSubscribed
      dsimp only
      split <;> rfl
  | closing found present closing taken =>
    show run.client.Untouched (run.take _ _).client ↔ _
    rw [take_client, ← taken]
    exact iff_of_true (Client.Untouched.of_same rfl rfl) not_false

/-- A termination that was overtaken by a teardown still changes the session. -/
theorem termination_overtaken_by_teardown :
    ∃ (retired next : ClientRun) (late : Late),
      Reached Settings.default 0 retired
        ∧ retired.client.alive = false
        ∧ Settlement retired late next
        ∧ Reached Settings.default 0 next
        ∧ retired.client.tracker.session
          = .connected
            { id := "i-1", name := "vpn", lifecycle := .running, publicV4 := "198.51.100.1",
              publicV6 := none, region := "eu-1" } true
        ∧ next.client.tracker.session
          = .connected
            { id := "i-1", name := "vpn", lifecycle := .terminating, publicV4 := "198.51.100.1",
              publicV6 := none, region := "eu-1" } true
        ∧ ¬ retired.client.Untouched next.client := by
  let listed : ClientRun := { new Settings.default 0 with
    client := { Client.new Settings.default 0 with
      inventory := Inventory.empty.insert
        { id := "i-1", name := "vpn", lifecycle := .running, publicV4 := "198.51.100.1",
          publicV6 := none, region := "eu-1" } } }
  let querying := listed.follow (Command.queryStatus.start listed.client)
  let connected := (querying.drop 0).follow (Resumption.settle querying.client (.query 0 .silent)
    (.ok { connected := true, instanceId := some "i-1", publicV4 := none, publicV6 := none }))
  let terminating := connected.follow ((Command.terminate "i-1").start connected.client)
  let retired := terminating.follow (Command.shutdown.start terminating.client)
  have opened : Reached Settings.default 0 connected :=
    ((Relation.ReflTransGen.refl.tail (Step.insert _ _)).tail
      (Step.start listed .queryStatus)).tail
      (@Step.settle querying 0 .session .status (.query 0 .silent) none _ rfl)
  have reached : Reached Settings.default 0 retired :=
    (opened.tail (Step.start connected (.terminate "i-1"))).tail (Step.start terminating .shutdown)
  have settlement := @Settlement.command retired 0 .unit (.terminate "i-1" "eu-1")
    (.terminate { id := "i-1", region := "eu-1", previous := .running } .noticed) none (.ok ()) rfl
  have hiff := untouched_iff_not_intrudes rfl .refl settlement
  refine ⟨retired, _, _, reached, rfl, settlement, reached.tail settlement.step, rfl, rfl, ?_⟩
  rw [hiff]
  refine not_not_intro ?_
  show VpnSession.reconciled _ _ ≠ _
  exact nofun

end ClientRun
end VpnFleet
