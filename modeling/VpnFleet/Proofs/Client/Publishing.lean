import VpnFleet.Proofs.Client.Subscriptions
import VpnFleet.Proofs.Parts

/-!
# No silent change

Every part of the client is published on its own, and those who watch a part
read it again only after a publication. So each step has to publish every part
that it changes, however it decides whether there is something to publish.

* A step makes at most one move of each part. For the catalog and the notices
  `Client.Writes` says so, with one lemma for each function that is a step; most
  of them post a notice at most (`Client.Posts`).
* A move of a part publishes what it changes, and so does a step.
-/

namespace VpnFleet

namespace Client

/-- At most one notice comes or goes, and the catalog stays. -/
structure Posts (client next : Client) : Prop where
  catalog : next.catalog = client.catalog
  notices : NoticeBoard.Move client.notices next.notices

/-- At most one move of the catalog and one of the notices. -/
structure Writes (client next : Client) : Prop where
  catalog : Catalog.Move client.alive client.catalog next.catalog
  notices : NoticeBoard.Move client.notices next.notices

variable {client next : Client} {yield : Yield}

theorem Posts.refl (client : Client) : client.Posts client where
  catalog := rfl
  notices := .stay

theorem Posts.writes (h : client.Posts next) : client.Writes next where
  catalog := by
    rw [h.catalog]
    exact .stay
  notices := h.notices

/-- A move of the catalog comes before a notice. -/
theorem Posts.writes_of_catalog
    {catalog : Catalog} (move : Catalog.Move client.alive client.catalog catalog)
    (h : { client with catalog }.Posts next) :
    client.Writes next where
  catalog := by
    rw [h.catalog]
    exact move
  notices := h.notices

section Steps

variable (client : Client)

theorem post_posts (severity : Severity) (kind : NoticeKind) (message : String) :
    client.Posts (client.post severity kind message) where
  catalog := rfl
  notices := .post severity kind message

theorem postFailures_posts (report : RefreshReport) :
    client.Posts (client.postFailures report) := by
  by_cases hcomplete : report.isComplete = true
  · simpa [postFailures, hcomplete] using Posts.refl client
  · simpa [postFailures, hcomplete] using post_posts client _ _ _

theorem finishClose_posts (closing : Closing) :
    client.Posts (client.finishClose closing).client := by
  cases closing with
  | silent => exact Posts.refl client
  | disconnection outcome => cases outcome <;> exact post_posts client _ _ _

theorem deactivate_posts (closing : Closing) :
    client.Posts (client.deactivate closing).client := by
  unfold deactivate
  split
  · exact ⟨rfl, .stay⟩
  · next stream _ =>
      have hclosed := finishClose_posts { client with stream } closing
      exact ⟨hclosed.catalog, hclosed.notices⟩

theorem activate_posts : client.Posts client.activate.client := by
  unfold activate
  split <;> exact ⟨rfl, .stay⟩

theorem beginSpawn_posts
    {region : String} {placeholder : Placeholder}
    (h : client.beginSpawn region = .ok (next, placeholder)) :
    client.Posts next := by
  unfold beginSpawn at h
  split at h
  · cases h
    exact ⟨rfl, .stay⟩
  · cases h

theorem spawn_posts (region : String) (reporting : Reporting) :
    client.Posts (client.spawn region reporting).client := by
  unfold spawn
  split
  · next hbegun => exact beginSpawn_posts client hbegun
  · exact Posts.refl client
  · exact post_posts client _ _ _

theorem terminate_posts (id : String) (reporting : Reporting) :
    client.Posts (client.terminate id reporting).client := by
  unfold terminate
  split
  · exact ⟨rfl, .stay⟩
  · exact ⟨rfl, .stay⟩
  · exact ⟨rfl, .post _ _ _⟩

theorem openTunnel_posts (target : Instance) (reporting : Reporting) :
    client.Posts (client.openTunnel target reporting).client := by
  unfold openTunnel
  split
  · exact ⟨rfl, .stay⟩
  · exact ⟨rfl, .stay⟩
  · exact ⟨rfl, .post _ _ _⟩

theorem connect_posts (id : String) : client.Posts (client.connect id).client := by
  unfold connect
  split
  · exact openTunnel_posts client _ _
  · exact post_posts client _ _ _

theorem settleSweep_posts (sweep : Sweep) (goal : RefreshGoal yield) :
    client.Posts (client.settleSweep sweep goal).client := by
  let report := sweep.report client.options.defaultName
  let settled : Client :=
    { client with inventory := client.inventory.settleRefresh client.alive report }
  have hposted := settled.postFailures_posts report
  cases goal with
  | silent => exact ⟨rfl, .stay⟩
  | noticed => exact ⟨hposted.catalog, hposted.notices⟩
  | bootstrap regions => exact ⟨hposted.catalog, hposted.notices⟩

end Steps
end Client

/-- The first step of a command. -/
theorem Command.start_writes {yield : Yield} (client : Client) (command : Command yield) :
    client.Writes (command.start client).client := by
  cases command with
  | bootstrap => exact ⟨.beginLoad, .stay⟩
  | reloadRegions => exact ⟨.beginLoad, .stay⟩
  | loadCatalog => exact ⟨.beginLoad, .stay⟩
  | spawn region => exact (client.spawn_posts region .noticed).writes
  | spawnServer region => exact (client.spawn_posts region .silent).writes
  | terminate id => exact (client.terminate_posts id .noticed).writes
  | terminateServer id => exact (client.terminate_posts id .silent).writes
  | connect id => exact (client.connect_posts id).writes
  | openTunnel target => exact (client.openTunnel_posts target .silent).writes
  | activateStream => exact client.activate_posts.writes
  | deactivateStream => exact (client.deactivate_posts .silent).writes
  | _ => exact ⟨.stay, .stay⟩

theorem LoadGoal.settle_posts
    {yield : Yield} (client : Client) (outcome : Except CatalogError (List Region))
    (goal : LoadGoal yield) :
    client.Posts (goal.settle client outcome).client := by
  cases goal with
  | silent => exact Client.Posts.refl client
  | _ =>
    cases outcome with
    | ok regions => exact ⟨rfl, .stay⟩
    | error error => exact client.post_posts _ _ _

theorem QueryGoal.settle_posts
    {yield : Yield} (client : Client) (outcome : Except SessionError VpnSession)
    (goal : QueryGoal yield) :
    client.Posts (goal.settle client outcome).client := by
  cases goal with
  | opened id => cases outcome <;> exact client.post_posts _ _ _
  | _ => exact Client.Posts.refl client

namespace Resumption

variable (client : Client)

theorem settleSpawn_posts
    (placeholder : Placeholder) (reporting : Reporting) (answer : Except String SpawnedRecord) :
    client.Posts (settleSpawn client placeholder reporting answer).client := by
  cases reporting with
  | silent => cases answer <;> exact ⟨rfl, .stay⟩
  | noticed => cases answer <;> exact ⟨rfl, .post _ _ _⟩

theorem settleTerminate_posts
    (termination : Termination) (reporting : Reporting) (answer : Except String Unit) :
    client.Posts (settleTerminate client termination reporting answer).client := by
  cases reporting with
  | silent => cases answer <;> exact ⟨rfl, .stay⟩
  | noticed => cases answer <;> exact ⟨rfl, .post _ _ _⟩

theorem settleConnect_posts
    (target : Instance) (reporting : Reporting) (answer : Except String Unit) :
    client.Posts (settleConnect client target reporting answer).client := by
  cases answer with
  | ok reply => cases reporting <;> exact ⟨rfl, .stay⟩
  | error message =>
    cases reporting with
    | silent => exact ⟨rfl, .stay⟩
    | noticed => exact ⟨rfl, .post _ _ _⟩

theorem settleDisconnect_posts (reporting : Reporting) (answer : Except String Unit) :
    client.Posts (settleDisconnect client reporting answer).client := by
  let settled : Client :=
    { client with tracker := (client.tracker.settleDisconnect client.alive answer).1 }
  have hclosed := settled.deactivate_posts
    (.disconnection (client.tracker.settleDisconnect client.alive answer).2)
  cases reporting with
  | silent => exact ⟨rfl, .stay⟩
  | noticed => exact ⟨hclosed.catalog, hclosed.notices⟩

theorem settleActivate_posts (generation : Nat) (answer : Except String String) :
    client.Posts (settleActivate client generation answer).client := by
  unfold settleActivate
  dsimp only
  split <;> exact ⟨rfl, .stay⟩

/-- The step after an answer. Saved credentials have the catalog loaded again. -/
theorem settle_writes
    {call : Call} {yield : Yield} (resumption : Resumption call yield) (answer : call.Answer) :
    client.Writes (resumption.settle client answer).client := by
  cases resumption with
  | load goal =>
    exact Client.Posts.writes_of_catalog (.settleLoad answer) (goal.settle_posts _ _)
  | spawn placeholder reporting =>
    exact (settleSpawn_posts client placeholder reporting answer).writes
  | terminate termination reporting =>
    exact (settleTerminate_posts client termination reporting answer).writes
  | connect target reporting => exact (settleConnect_posts client target reporting answer).writes
  | query began goal =>
    have hposted := goal.settle_posts
      { client with
        tracker :=
          (client.tracker.settleQuery client.alive client.inventory.value began answer).1 }
      (client.tracker.settleQuery client.alive client.inventory.value began answer).2
    exact Client.Posts.writes ⟨hposted.catalog, hposted.notices⟩
  | disconnect reporting => exact (settleDisconnect_posts client reporting answer).writes
  | activate generation => exact (settleActivate_posts client generation answer).writes
  | close feed closing => exact (client.finishClose_posts closing).writes
  | save credentials =>
    cases answer with
    | ok reply => exact ⟨.beginLoad, .post _ _ _⟩
    | error message => exact (client.post_posts _ _ _).writes

end Resumption

theorem Operation.abandon_posts {yield : Yield} (client : Client) (operation : Operation yield) :
    client.Posts (operation.abandon client) := by
  cases operation with
  | awaiting call resumption => cases resumption <;> exact ⟨rfl, .stay⟩
  | _ => exact ⟨rfl, .stay⟩

theorem Poller.Step.posts
    {client next : Client} {poller after : Poller} (step : Poller.Step client poller next after) :
    client.Posts next := by
  cases step with
  | see resting due =>
    unfold onInventory
    dsimp only
    split <;> exact ⟨rfl, .stay⟩
  | _ => exact ⟨rfl, .stay⟩

theorem Follower.deactivate_posts (follower : Follower) (client : Client) (leaving : Bool) :
    client.Posts (follower.deactivate client leaving).client := by
  unfold deactivate
  split <;> exact ⟨rfl, .stay⟩

theorem Follower.look_posts (follower : Follower) (client : Client) :
    client.Posts (follower.look client).client := by
  unfold look
  split
  · exact deactivate_posts follower client true
  · dsimp only
    split
    · unfold activate
      split <;> exact ⟨rfl, .stay⟩
    · exact deactivate_posts _ client false

theorem Follower.Step.posts
    {client : Client} {follower : Follower} {turn : FollowerTurn}
    (step : follower.Step client turn) :
    client.Posts turn.client := by
  cases step with
  | begin fresh => exact look_posts follower client
  | stop resting due => exact deactivate_posts _ client true
  | see resting due => exact look_posts follower client
  | subscribed subscribing answer =>
    unfold onSubscribed
    dsimp only
    split <;> exact ⟨rfl, .stay⟩
  | closed closing => exact ⟨rfl, .stay⟩

theorem Herald.onStream_posts (herald : Herald) (client : Client) :
    client.Posts (herald.onStream client).1 := by
  unfold onStream
  dsimp only
  split
  · split
    · exact Client.Posts.refl client
    · exact client.post_posts _ _ _
  · exact Client.Posts.refl client

/-- What changes between the two is published in between; of the stream, the generation is
exempt. -/
structure Client.Publishes (client next : Client) : Prop where
  catalog : next.catalog.value ≠ client.catalog.value →
    client.catalog.version < next.catalog.version
  inventory : next.inventory.value ≠ client.inventory.value →
    client.inventory.version < next.inventory.version
  tracker : next.tracker.value ≠ client.tracker.value →
    client.tracker.version < next.tracker.version
  stream : next.stream.snapshot.status ≠ client.stream.snapshot.status
      ∨ next.stream.snapshot.traffic ≠ client.stream.snapshot.traffic →
    client.stream.published.version < next.stream.published.version
  notices : next.notices.active ≠ client.notices.active →
    client.notices.published.version < next.notices.published.version

namespace ClientRun

variable {run next : ClientRun}

theorem Step.writes (step : Step run next) : run.client.Writes next.client := by
  cases step with
  | start command =>
    rw [follow_client]
    exact command.start_writes run.client
  | @settle i yield call resumption awaited answer found =>
    rw [follow_client]
    exact resumption.settle_writes run.client answer
  | settleSweep found done =>
    rw [follow_client]
    exact (run.client.settleSweep_posts _ _).writes
  | drain found ended =>
    rw [follow_client]
    exact (run.client.deactivate_posts .silent).writes
  | @abandon i job found => exact (job.operation.abandon_posts run.client).writes
  | beginSpawn accepted => exact (Client.beginSpawn_posts run.client accepted).writes
  | confirm found =>
    rw [follow_client]
    exact (Client.Posts.refl run.client).writes
  | post severity kind message => exact (run.client.post_posts severity kind message).writes
  | dismiss id => exact ⟨.stay, .dismiss id⟩
  | clear => exact ⟨.stay, .clear⟩
  | poll found present step => exact step.posts.writes
  | pursue found present step =>
    show run.client.Writes (run.take _ _).client
    rw [take_client]
    exact step.posts.writes
  | @announce start loops herald found present due =>
    exact (herald.onStream_posts run.client).writes
  | _ => exact ⟨.stay, .stay⟩

/-- **No silent change.** Whatever a step of any operation changes of what the catalog, the
inventory, the tracker, the stream and the notice board show, it publishes. -/
theorem no_step_changes_silently (step : Step run next) : run.client.Publishes next.client := by
  have hcatalog := step.writes.catalog.notifies
  have hinventory := step.move.inventory.notifies
  have htracker := step.move.tracker.notifies
  have hstream := step.streamStep.move.notifies
  have hnotices := step.writes.notices.notifies
  refine ⟨hcatalog.version_lt, hinventory.version_lt, htracker.version_lt, ?_,
    hnotices.version_lt⟩
  intro hchanged
  refine hstream.version_lt ?_
  intro hsame
  obtain ⟨hstatus, htraffic⟩ := Prod.mk.inj hsame
  rcases hchanged with hstatusNe | htrafficNe
  · exact hstatusNe hstatus
  · exact htrafficNe htraffic

/-- A report that only clears an error is published. -/
theorem cleared_error_is_published :
    ∃ run next : ClientRun,
      Reached Settings.default 0 run
        ∧ Step run next
        ∧ next.client.tracker.session = run.client.tracker.session
        ∧ next.client.tracker.value ≠ run.client.tracker.value
        ∧ run.client.tracker.version < next.client.tracker.version := by
  let first := (new Settings.default 0).follow
    (Command.queryStatus.start (Client.new Settings.default 0))
  let failed := (first.drop 0).follow
    (Resumption.settle first.client (.query 0 .silent) (.error "no answer"))
  let run := failed.follow (Command.queryStatus.start failed.client)
  have reached : Reached Settings.default 0 run :=
    ((Relation.ReflTransGen.refl.tail (Step.start _ .queryStatus)).tail
      (@Step.settle first 0 .session .status (.query 0 .silent) none (.error "no answer") rfl)).tail
      (Step.start failed .queryStatus)
  have step := @Step.settle run 0 .session .status (.query 0 .silent) none
    (.ok { connected := false, instanceId := none, publicV4 := none, publicV6 := none }) rfl
  have hchanged : (Resumption.settle run.client (.query 0 .silent)
      (.ok { connected := false, instanceId := none, publicV4 := none, publicV6 := none }) :
        Turn .session).client.tracker.value ≠ run.client.tracker.value := by
    decide
  exact ⟨run, _, reached, step, rfl, hchanged, (no_step_changes_silently step).tracker hchanged⟩

end ClientRun
end VpnFleet
