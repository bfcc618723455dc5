import VpnFleet.Proofs.Client.Run

/-!
# Steps beside the traffic stream

Most steps of a client leave its traffic stream as it is, and only a teardown
touches the flags.

* `Client.SameFlags` says that a step leaves the flags, `Client.SameStream`
  that it leaves the stream as well. As for the moves, each function of the
  client that is a step has one lemma here.
* A client that was torn down stays so.
-/

namespace VpnFleet

namespace Client

/-- The flags stay. -/
structure SameFlags (client next : Client) : Prop where
  alive : next.alive = client.alive
  stopping : next.stopping = client.stopping

/-- The flags and the traffic stream stay. -/
structure SameStream (client next : Client) : Prop extends SameFlags client next where
  stream : next.stream = client.stream

variable {client mid next : Client} {yield : Yield}

theorem SameFlags.trans (h₁ : client.SameFlags mid) (h₂ : mid.SameFlags next) :
    client.SameFlags next where
  alive := h₂.alive.trans h₁.alive
  stopping := h₂.stopping.trans h₁.stopping

theorem SameStream.refl (client : Client) : client.SameStream client :=
  ⟨⟨rfl, rfl⟩, rfl⟩

theorem SameStream.trans (h₁ : client.SameStream mid) (h₂ : mid.SameStream next) :
    client.SameStream next :=
  ⟨h₁.toSameFlags.trans h₂.toSameFlags, h₂.stream.trans h₁.stream⟩

section Steps

variable (client : Client)

theorem postFailures_sameStream (report : RefreshReport) :
    client.SameStream (client.postFailures report) := by
  unfold postFailures
  split
  · exact SameStream.refl client
  · exact ⟨⟨rfl, rfl⟩, rfl⟩

theorem finishDisconnect_sameStream (outcome : Except SessionError Unit) :
    client.SameStream (client.finishDisconnect outcome).client := by
  cases outcome <;> exact ⟨⟨rfl, rfl⟩, rfl⟩

theorem finishClose_sameStream (closing : Closing) :
    client.SameStream (client.finishClose closing).client := by
  cases closing with
  | silent => exact SameStream.refl client
  | disconnection outcome => exact finishDisconnect_sameStream client outcome

theorem deactivate_stream (closing : Closing) :
    (client.deactivate closing).client.stream = client.stream.deactivate.1 := by
  unfold deactivate
  split
  · next h => rw [h]
  · next stream h =>
      rw [(finishClose_sameStream { client with stream } closing).stream, h]

theorem deactivate_sameFlags (closing : Closing) :
    client.SameFlags (client.deactivate closing).client := by
  unfold deactivate
  split
  · exact ⟨rfl, rfl⟩
  · next stream _ =>
      have hcleared : client.SameFlags { client with stream } := ⟨rfl, rfl⟩
      exact hcleared.trans (finishClose_sameStream _ closing).toSameFlags

theorem activate_sameFlags : client.SameFlags client.activate.client := by
  unfold activate
  split <;> exact ⟨rfl, rfl⟩

theorem beginSpawn_sameStream
    {region : String} {placeholder : Placeholder}
    (h : client.beginSpawn region = .ok (next, placeholder)) :
    client.SameStream next := by
  unfold beginSpawn at h
  split at h
  · cases h
    exact ⟨⟨rfl, rfl⟩, rfl⟩
  · cases h

theorem spawn_sameStream (region : String) (reporting : Reporting) :
    client.SameStream (client.spawn region reporting).client := by
  unfold spawn
  split
  · next hbegun => exact beginSpawn_sameStream client hbegun
  · exact SameStream.refl client
  · exact ⟨⟨rfl, rfl⟩, rfl⟩

theorem terminate_sameStream (id : String) (reporting : Reporting) :
    client.SameStream (client.terminate id reporting).client := by
  unfold terminate
  split <;> exact ⟨⟨rfl, rfl⟩, rfl⟩

theorem openTunnel_sameStream (target : Instance) (reporting : Reporting) :
    client.SameStream (client.openTunnel target reporting).client := by
  unfold openTunnel
  split <;> exact ⟨⟨rfl, rfl⟩, rfl⟩

theorem connect_sameStream (id : String) : client.SameStream (client.connect id).client := by
  unfold connect
  split
  · exact openTunnel_sameStream client _ _
  · exact ⟨⟨rfl, rfl⟩, rfl⟩

theorem settleSweep_sameStream (sweep : Sweep) (goal : RefreshGoal yield) :
    client.SameStream (client.settleSweep sweep goal).client := by
  let report := sweep.report client.options.defaultName
  have hsettled : client.SameStream
      { client with inventory := client.inventory.settleRefresh client.alive report } :=
    ⟨⟨rfl, rfl⟩, rfl⟩
  refine hsettled.trans ?_
  cases goal with
  | silent => exact SameStream.refl _
  | noticed => exact postFailures_sameStream _ report
  | bootstrap regions => exact postFailures_sameStream _ report

end Steps
end Client

/-- A command that turns the stream on or off by hand. -/
def Command.drivesStream {yield : Yield} : Command yield → Bool
  | .activateStream => true
  | .deactivateStream => true
  | _ => false

/-- The command that tears the client down. -/
def Command.tearsDown {yield : Yield} : Command yield → Bool
  | .shutdown => true
  | _ => false

theorem Command.tearsDown_of_alive
    {yield : Yield} {client : Client} {command : Command yield}
    (halive : (command.start client).client.alive = true) :
    command.tearsDown = false := by
  cases command with
  | shutdown => cases halive
  | _ => rfl

/-- The first step of a command that is neither for the stream nor a teardown. -/
theorem Command.start_sameStream
    {yield : Yield} (client : Client) (command : Command yield)
    (hdrives : command.drivesStream = false) (htears : command.tearsDown = false) :
    client.SameStream (command.start client).client := by
  cases command with
  | activateStream => cases hdrives
  | deactivateStream => cases hdrives
  | shutdown => cases htears
  | spawn region => exact client.spawn_sameStream region .noticed
  | spawnServer region => exact client.spawn_sameStream region .silent
  | terminate id => exact client.terminate_sameStream id .noticed
  | terminateServer id => exact client.terminate_sameStream id .silent
  | connect id => exact client.connect_sameStream id
  | openTunnel target => exact client.openTunnel_sameStream target .silent
  | _ => exact ⟨⟨rfl, rfl⟩, rfl⟩

/-- A teardown begins with the flags alone. -/
theorem Command.start_stream
    {yield : Yield} (client : Client) (command : Command yield)
    (hdrives : command.drivesStream = false) :
    (command.start client).client.stream = client.stream := by
  by_cases htears : command.tearsDown = false
  · exact (command.start_sameStream client hdrives htears).stream
  · cases command with
    | shutdown => rfl
    | _ => exact absurd rfl htears

theorem Command.start_sameFlags
    {yield : Yield} (client : Client) (command : Command yield)
    (halive : (command.start client).client.alive = true) :
    client.SameFlags (command.start client).client := by
  by_cases hdrives : command.drivesStream = false
  · exact (command.start_sameStream client hdrives (tearsDown_of_alive halive)).toSameFlags
  · cases command with
    | activateStream => exact client.activate_sameFlags
    | deactivateStream => exact client.deactivate_sameFlags .silent
    | _ => exact absurd rfl hdrives

theorem LoadGoal.settle_sameStream
    {yield : Yield} (client : Client) (outcome : Except CatalogError (List Region))
    (goal : LoadGoal yield) :
    client.SameStream (goal.settle client outcome).client := by
  cases goal <;> cases outcome <;> exact ⟨⟨rfl, rfl⟩, rfl⟩

theorem QueryGoal.settle_sameStream
    {yield : Yield} (client : Client) (outcome : Except SessionError VpnSession)
    (goal : QueryGoal yield) :
    client.SameStream (goal.settle client outcome).client := by
  cases goal <;> cases outcome <;> exact ⟨⟨rfl, rfl⟩, rfl⟩

namespace Resumption

/-- Its answer is for the traffic stream. -/
def drivesStream {call : Call} {yield : Yield} : Resumption call yield → Bool
  | .activate _ => true
  | .disconnect .noticed => true
  | _ => false

variable (client : Client)

theorem settleSpawn_sameStream
    (placeholder : Placeholder) (reporting : Reporting) (answer : Except String SpawnedRecord) :
    client.SameStream (settleSpawn client placeholder reporting answer).client := by
  cases answer <;> cases reporting <;> exact ⟨⟨rfl, rfl⟩, rfl⟩

theorem settleTerminate_sameStream
    (termination : Termination) (reporting : Reporting) (answer : Except String Unit) :
    client.SameStream (settleTerminate client termination reporting answer).client := by
  cases answer <;> cases reporting <;> exact ⟨⟨rfl, rfl⟩, rfl⟩

theorem settleConnect_sameStream
    (target : Instance) (reporting : Reporting) (answer : Except String Unit) :
    client.SameStream (settleConnect client target reporting answer).client := by
  cases answer <;> cases reporting <;> exact ⟨⟨rfl, rfl⟩, rfl⟩

/-- The step after an answer that is not for the stream. -/
theorem settle_sameStream
    {call : Call} {yield : Yield} (resumption : Resumption call yield) (answer : call.Answer)
    (hdrives : resumption.drivesStream = false) :
    client.SameStream (resumption.settle client answer).client := by
  cases resumption with
  | load goal =>
    have hsettled : client.SameStream
        { client with catalog := (client.catalog.settleLoad client.alive answer).1 } :=
      ⟨⟨rfl, rfl⟩, rfl⟩
    exact hsettled.trans (goal.settle_sameStream _ _)
  | spawn placeholder reporting =>
    exact settleSpawn_sameStream client placeholder reporting answer
  | terminate termination reporting =>
    exact settleTerminate_sameStream client termination reporting answer
  | connect target reporting => exact settleConnect_sameStream client target reporting answer
  | query began goal =>
    have hsettled : client.SameStream
        { client with
          tracker :=
            (client.tracker.settleQuery client.alive client.inventory.value began answer).1 } :=
      ⟨⟨rfl, rfl⟩, rfl⟩
    exact hsettled.trans (goal.settle_sameStream _ _)
  | disconnect reporting =>
    cases reporting with
    | silent => exact ⟨⟨rfl, rfl⟩, rfl⟩
    | noticed => cases hdrives
  | activate generation => cases hdrives
  | close feed closing => exact client.finishClose_sameStream closing
  | save credentials => cases answer <;> exact ⟨⟨rfl, rfl⟩, rfl⟩

/-- The end of a disconnection deactivates the stream. -/
theorem settleDisconnect_noticed_stream (answer : Except String Unit) :
    (settleDisconnect client .noticed answer).client.stream = client.stream.deactivate.1 :=
  Client.deactivate_stream _ _

theorem settleDisconnect_sameFlags (reporting : Reporting) (answer : Except String Unit) :
    client.SameFlags (settleDisconnect client reporting answer).client := by
  have hsettled : client.SameFlags
      { client with tracker := (client.tracker.settleDisconnect client.alive answer).1 } :=
    ⟨rfl, rfl⟩
  cases reporting with
  | silent => exact hsettled
  | noticed => exact hsettled.trans (Client.deactivate_sameFlags _ _)

theorem settleActivate_sameFlags (generation : Nat) (answer : Except String String) :
    client.SameFlags (settleActivate client generation answer).client := by
  unfold settleActivate
  dsimp only
  split <;> exact ⟨rfl, rfl⟩

theorem settle_sameFlags
    {call : Call} {yield : Yield} (resumption : Resumption call yield) (answer : call.Answer) :
    client.SameFlags (resumption.settle client answer).client := by
  by_cases hdrives : resumption.drivesStream = false
  · exact (resumption.settle_sameStream client answer hdrives).toSameFlags
  · cases resumption with
    | activate generation => exact settleActivate_sameFlags client generation answer
    | disconnect reporting => exact settleDisconnect_sameFlags client reporting answer
    | _ => exact absurd rfl hdrives

end Resumption

theorem Operation.abandon_sameStream
    {yield : Yield} (client : Client) (operation : Operation yield) :
    client.SameStream (operation.abandon client) := by
  cases operation with
  | awaiting call resumption => cases resumption <;> exact ⟨⟨rfl, rfl⟩, rfl⟩
  | sweeping sweep goal => exact ⟨⟨rfl, rfl⟩, rfl⟩
  | draining => exact ⟨⟨rfl, rfl⟩, rfl⟩

theorem Poller.Step.sameStream
    {client next : Client} {poller after : Poller} (step : Poller.Step client poller next after) :
    client.SameStream next := by
  cases step with
  | see resting due =>
    unfold onInventory
    dsimp only
    split <;> exact ⟨⟨rfl, rfl⟩, rfl⟩
  | answer querying answer => exact ⟨⟨rfl, rfl⟩, rfl⟩
  | _ => exact Client.SameStream.refl client

theorem Herald.onStream_sameStream (herald : Herald) (client : Client) :
    client.SameStream (herald.onStream client).1 := by
  unfold onStream
  dsimp only
  split
  · split <;> exact ⟨⟨rfl, rfl⟩, rfl⟩
  · exact Client.SameStream.refl client

namespace Follower

variable (follower : Follower) (client : Client)

theorem deactivate_sameFlags (leaving : Bool) :
    client.SameFlags (follower.deactivate client leaving).client := by
  unfold deactivate
  split <;> exact ⟨rfl, rfl⟩

theorem look_sameFlags : client.SameFlags (follower.look client).client := by
  unfold look
  split
  · exact deactivate_sameFlags follower client true
  · dsimp only
    split
    · unfold activate
      split <;> exact ⟨rfl, rfl⟩
    · exact deactivate_sameFlags _ client false

theorem Step.sameFlags
    {turn : FollowerTurn} {follower : Follower} {client : Client}
    (step : follower.Step client turn) :
    client.SameFlags turn.client := by
  cases step with
  | begin fresh => exact look_sameFlags follower client
  | stop resting due => exact deactivate_sameFlags _ client true
  | see resting due => exact look_sameFlags follower client
  | subscribed subscribing answer =>
    unfold onSubscribed
    dsimp only
    split <;> exact ⟨rfl, rfl⟩
  | closed closing => exact ⟨rfl, rfl⟩

end Follower

namespace ClientRun

variable {run next : ClientRun}

/-- Only a teardown touches the flags. -/
theorem Step.sameFlags (step : Step run next) (halive : next.client.alive = true) :
    run.client.SameFlags next.client := by
  cases step with
  | start command =>
    rw [follow_client] at halive ⊢
    exact command.start_sameFlags run.client halive
  | @settle i yield call resumption awaited answer found =>
    rw [follow_client]
    exact resumption.settle_sameFlags run.client answer
  | settleSweep found done =>
    rw [follow_client]
    exact (Client.settleSweep_sameStream run.client _ _).toSameFlags
  | drain found ended =>
    rw [follow_client]
    exact Client.deactivate_sameFlags run.client .silent
  | @abandon i job found => exact (job.operation.abandon_sameStream run.client).toSameFlags
  | beginSpawn accepted => exact (Client.beginSpawn_sameStream run.client accepted).toSameFlags
  | confirm found =>
    rw [follow_client]
    exact ⟨rfl, rfl⟩
  | poll found present step => exact step.sameStream.toSameFlags
  | pursue found present step =>
    show run.client.SameFlags (run.take _ _).client
    rw [take_client]
    exact step.sameFlags
  | announce found present due => exact (Herald.onStream_sameStream _ run.client).toSameFlags
  | retire => cases halive
  | _ => exact ⟨rfl, rfl⟩

/-- A client that is alive was never torn down. -/
theorem alive_of_path
    {later : ClientRun} (path : Relation.ReflTransGen Step run later)
    (halive : later.client.alive = true) :
    run.client.alive = true := by
  induction path with
  | refl => exact halive
  | tail _ step ih =>
    have hsame := (step.sameFlags halive).alive
    exact ih (hsame ▸ halive)

end ClientRun
end VpnFleet
