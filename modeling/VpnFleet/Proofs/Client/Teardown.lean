import VpnFleet.Proofs.Client.Bystanders

/-!
# Answers after a teardown

A client that was torn down applies no answer any more. The calls that are
still under way return all the same, with what the backend answers.

* `Client.KeepsFindings` says that a step leaves the catalog, the session, and
  all of the inventory but the counting of refreshes.
* `Resumption.Verdict` says what a call of one part of the client returns. Such
  a call leaves the whole client as it is, and a refresh counts itself out.
* A command of the whole client keeps the findings as well, unless it goes
  further than its answer.
-/

namespace VpnFleet

/-- The two differ in the counting of refreshes at most. -/
structure InventorySnapshot.SameFindings (before after : InventorySnapshot) : Prop where
  entries : after.entries = before.entries
  revision : after.revision = before.revision
  failedRegions : after.failedRegions = before.failedRegions
  lastError : after.lastError = before.lastError

namespace Client

/-- Nothing that the backend was asked for changes. -/
structure KeepsFindings (client next : Client) : Prop where
  catalog : next.catalog = client.catalog
  inventory : client.inventory.value.SameFindings next.inventory.value
  tracker : next.tracker = client.tracker

variable {client mid next : Client} {yield : Yield}

theorem KeepsFindings.refl (client : Client) : client.KeepsFindings client :=
  ⟨rfl, ⟨rfl, rfl, rfl, rfl⟩, rfl⟩

theorem KeepsFindings.trans
    (h₁ : client.KeepsFindings mid) (h₂ : mid.KeepsFindings next) :
    client.KeepsFindings next where
  catalog := h₂.catalog.trans h₁.catalog
  inventory := {
    entries := h₂.inventory.entries.trans h₁.inventory.entries
    revision := h₂.inventory.revision.trans h₁.inventory.revision
    failedRegions := h₂.inventory.failedRegions.trans h₁.inventory.failedRegions
    lastError := h₂.inventory.lastError.trans h₁.inventory.lastError }
  tracker := h₂.tracker.trans h₁.tracker

variable (client)

theorem post_keepsFindings (severity : Severity) (kind : NoticeKind) (message : String) :
    client.KeepsFindings (client.post severity kind message) :=
  ⟨rfl, ⟨rfl, rfl, rfl, rfl⟩, rfl⟩

theorem postFailures_keepsFindings (report : RefreshReport) :
    client.KeepsFindings (client.postFailures report) := by
  unfold postFailures
  split
  · exact KeepsFindings.refl client
  · exact post_keepsFindings client _ _ _

theorem endRefresh_keepsFindings :
    client.KeepsFindings { client with inventory := client.inventory.endRefresh } :=
  ⟨rfl, ⟨rfl, rfl, rfl, rfl⟩, rfl⟩

theorem finishClose_keepsFindings (closing : Closing) :
    client.KeepsFindings (client.finishClose closing).client := by
  cases closing with
  | silent => exact KeepsFindings.refl client
  | disconnection outcome => cases outcome <;> exact post_keepsFindings client _ _ _

theorem deactivate_keepsFindings (closing : Closing) :
    client.KeepsFindings (client.deactivate closing).client := by
  unfold deactivate
  split
  · exact ⟨rfl, ⟨rfl, rfl, rfl, rfl⟩, rfl⟩
  · next stream _ =>
      have hcleared : client.KeepsFindings { client with stream } :=
        ⟨rfl, ⟨rfl, rfl, rfl, rfl⟩, rfl⟩
      exact hcleared.trans (finishClose_keepsFindings _ closing)

end Client

/-- A bootstrap goes on with a refresh, which counts itself in. -/
theorem LoadGoal.settle_keepsFindings
    {yield : Yield} (client : Client) (outcome : Except CatalogError (List Region))
    (goal : LoadGoal yield) :
    client.KeepsFindings (goal.settle client outcome).client := by
  cases goal <;> cases outcome <;> exact ⟨rfl, ⟨rfl, rfl, rfl, rfl⟩, rfl⟩

theorem QueryGoal.settle_keepsFindings
    {yield : Yield} (client : Client) (outcome : Except SessionError VpnSession)
    (goal : QueryGoal yield) :
    client.KeepsFindings (goal.settle client outcome).client := by
  cases goal <;> cases outcome <;> exact ⟨rfl, ⟨rfl, rfl, rfl, rfl⟩, rfl⟩

theorem RefreshGoal.settle_keepsFindings
    {yield : Yield} (client : Client) (report : RefreshReport) (goal : RefreshGoal yield) :
    client.KeepsFindings (goal.settle client report).client := by
  cases goal with
  | silent => exact Client.KeepsFindings.refl client
  | noticed => exact client.postFailures_keepsFindings report
  | bootstrap regions => exact client.postFailures_keepsFindings report

namespace Client

variable {yield : Yield} {client : Client}

theorem exists_of_retired (hretired : client.alive = false) :
    ∃ base : Client, client = { base with alive := false } :=
  ⟨client, by rw [← hretired]⟩

/-- A refresh that was overtaken by a teardown counts itself out. -/
theorem settleSweep_of_retired
    (hretired : client.alive = false) (sweep : Sweep) (goal : RefreshGoal yield) :
    client.settleSweep sweep goal
      = goal.settle { client with inventory := client.inventory.endRefresh }
          (sweep.report client.options.defaultName) := by
  obtain ⟨base, rfl⟩ := exists_of_retired hretired
  rfl

theorem settleSweep_keepsFindings
    (hretired : client.alive = false) (sweep : Sweep) (goal : RefreshGoal yield) :
    client.KeepsFindings (client.settleSweep sweep goal).client := by
  rw [settleSweep_of_retired hretired]
  exact client.endRefresh_keepsFindings.trans (goal.settle_keepsFindings _ _)

theorem discard_of_retired (hretired : client.alive = false) (placeholder : Placeholder) :
    client.discard placeholder = client := by
  obtain ⟨base, rfl⟩ := exists_of_retired hretired
  rfl

end Client

namespace Resumption

/-- The call of one part of the client, asked for on its own. -/
def isBare {call : Call} {yield : Yield} : Resumption call yield → Bool
  | .load .silent => true
  | .spawn _ .silent => true
  | .terminate _ .silent => true
  | .connect _ .silent => true
  | .query _ .silent => true
  | .disconnect .silent => true
  | _ => false

/-- It does more with its answer than to apply it: saved credentials have everything loaded again,
and after a termination the session is looked up again. -/
def goesFurther {call : Call} {yield : Yield} : Resumption call yield → Bool
  | .terminate _ .noticed => true
  | .save _ => true
  | _ => false

/-- What a call of one part of the client leads to by the answer alone. -/
inductive Verdict (client : Client) :
    {call : Call} → {yield : Yield} → Resumption call yield → call.Answer → Next yield → Prop
  | loaded (records : List RegionRecord) :
      Verdict client (.load .silent) (.ok records) (.finished (.ok (Catalog.regionsOf records)))
  | notLoaded (message : String) :
      Verdict client (.load .silent) (.error message)
        (.finished (.error (.catalog (.load message))))
  | spawned (placeholder : Placeholder) (record : SpawnedRecord) :
      Verdict client (.spawn placeholder .silent) (.ok record)
        (.finished (.ok (Instance.ofSpawned record placeholder.name)))
  | notSpawned (placeholder : Placeholder) (message : String) :
      Verdict client (.spawn placeholder .silent) (.error message)
        (.finished (.error (.inventory (.spawn placeholder.region message))))
  | terminated (termination : Termination) :
      Verdict client (.terminate termination .silent) (.ok ()) (.finished (.ok ()))
  | notTerminated (termination : Termination) (message : String) :
      Verdict client (.terminate termination .silent) (.error message)
        (.finished (.error (.inventory (.terminate termination.id message))))
  /-- An open tunnel is still followed by a status query. -/
  | connected (target : Instance) :
      Verdict client (.connect target .silent) (.ok ())
        (.waiting (.awaiting .status (.query client.tracker.beginQuery .silent)))
  | notConnected (target : Instance) (message : String) :
      Verdict client (.connect target .silent) (.error message)
        (.finished (.error (.session (.connect target.id message))))
  | queried (began : Nat) (record : StatusRecord) :
      Verdict client (.query began .silent) (.ok record) (.finished (.ok client.tracker.session))
  | notQueried (began : Nat) (message : String) :
      Verdict client (.query began .silent) (.error message)
        (.finished (.error (.session (.status message))))
  | disconnected : Verdict client (.disconnect .silent) (.ok ()) (.finished (.ok ()))
  | notDisconnected (message : String) :
      Verdict client (.disconnect .silent) (.error message)
        (.finished (.error (.session (.disconnect message))))

variable {call : Call} {yield : Yield} {client : Client}

theorem settle_of_retired
    (hretired : client.alive = false) {resumption : Resumption call yield}
    (hbare : resumption.isBare = true) (answer : call.Answer) :
    ∃ next, resumption.Verdict client answer next
      ∧ resumption.settle client answer = { client, next, effects := [] } := by
  obtain ⟨base, rfl⟩ := Client.exists_of_retired hretired
  cases resumption with
  | load goal =>
    cases goal with
    | silent =>
      cases answer with
      | ok records => exact ⟨_, .loaded records, rfl⟩
      | error message => exact ⟨_, .notLoaded message, rfl⟩
    | _ => cases hbare
  | spawn placeholder reporting =>
    cases reporting with
    | silent =>
      cases answer with
      | ok record => exact ⟨_, .spawned placeholder record, rfl⟩
      | error message => exact ⟨_, .notSpawned placeholder message, rfl⟩
    | noticed => cases hbare
  | terminate termination reporting =>
    cases reporting with
    | silent =>
      cases answer with
      | ok done => exact ⟨_, .terminated termination, rfl⟩
      | error message => exact ⟨_, .notTerminated termination message, rfl⟩
    | noticed => cases hbare
  | connect target reporting =>
    cases reporting with
    | silent =>
      cases answer with
      | ok done => exact ⟨_, .connected target, rfl⟩
      | error message => exact ⟨_, .notConnected target message, rfl⟩
    | noticed => cases hbare
  | query began goal =>
    cases goal with
    | silent =>
      cases answer with
      | ok record => exact ⟨_, .queried began record, rfl⟩
      | error message => exact ⟨_, .notQueried began message, rfl⟩
    | _ => cases hbare
  | disconnect reporting =>
    cases reporting with
    | silent =>
      cases answer with
      | ok done => exact ⟨_, .disconnected, rfl⟩
      | error message => exact ⟨_, .notDisconnected message, rfl⟩
    | noticed => cases hbare
  | _ => cases hbare

theorem settle_keepsFindings
    (hretired : client.alive = false) {resumption : Resumption call yield}
    (hfurther : resumption.goesFurther = false) (answer : call.Answer) :
    client.KeepsFindings (resumption.settle client answer).client := by
  obtain ⟨base, rfl⟩ := Client.exists_of_retired hretired
  cases resumption with
  | load goal => cases answer <;> exact goal.settle_keepsFindings _ _
  | spawn placeholder reporting =>
    cases answer <;> cases reporting <;> exact ⟨rfl, ⟨rfl, rfl, rfl, rfl⟩, rfl⟩
  | terminate termination reporting =>
    cases reporting with
    | silent => cases answer <;> exact ⟨rfl, ⟨rfl, rfl, rfl, rfl⟩, rfl⟩
    | noticed => cases hfurther
  | connect target reporting =>
    cases answer <;> cases reporting <;> exact ⟨rfl, ⟨rfl, rfl, rfl, rfl⟩, rfl⟩
  | query began goal => cases answer <;> exact goal.settle_keepsFindings _ _
  | disconnect reporting =>
    cases reporting with
    | silent => exact ⟨rfl, ⟨rfl, rfl, rfl, rfl⟩, rfl⟩
    | noticed => exact Client.deactivate_keepsFindings _ _
  | activate generation =>
    show Client.KeepsFindings _ (settleActivate _ generation answer).client
    unfold settleActivate
    dsimp only
    split <;> exact ⟨rfl, ⟨rfl, rfl, rfl, rfl⟩, rfl⟩
  | close feed closing => exact Client.finishClose_keepsFindings _ closing
  | save credentials => cases hfurther

end Resumption

/-- A termination keeps the catalog and the inventory, however far it goes. -/
theorem Resumption.settleTerminate_of_retired
    {client : Client} (hretired : client.alive = false) (termination : Termination)
    (reporting : Reporting) (answer : Except String Unit) :
    (settleTerminate client termination reporting answer).client.catalog = client.catalog
      ∧ (settleTerminate client termination reporting answer).client.inventory
        = client.inventory := by
  obtain ⟨base, rfl⟩ := Client.exists_of_retired hretired
  cases answer <;> cases reporting <;> exact ⟨rfl, rfl⟩

theorem Operation.abandon_keepsFindings
    {yield : Yield} {client : Client} (hretired : client.alive = false)
    (operation : Operation yield) :
    client.KeepsFindings (operation.abandon client) := by
  cases operation with
  | awaiting call resumption =>
    cases resumption with
    | spawn placeholder reporting =>
      show client.KeepsFindings (client.discard placeholder)
      rw [Client.discard_of_retired hretired]
      exact Client.KeepsFindings.refl client
    | _ => exact Client.KeepsFindings.refl client
  | sweeping sweep goal => exact client.endRefresh_keepsFindings
  | draining => exact Client.KeepsFindings.refl client

theorem Poller.onAnswer_of_retired
    {client : Client} (hretired : client.alive = false) (poller : Poller) (began : Nat)
    (answer : Except String StatusRecord) :
    (poller.onAnswer client began answer).1 = client := by
  obtain ⟨base, rfl⟩ := Client.exists_of_retired hretired
  cases answer <;> rfl

namespace ClientRun

variable {retired run : ClientRun}

theorem alive_eq_false_of_path
    (hretired : retired.client.alive = false) (path : Relation.ReflTransGen Step retired run) :
    run.client.alive = false := by
  cases halive : run.client.alive with
  | false => rfl
  | true =>
    have hlived := alive_of_path path halive
    exact absurd (hlived.symm.trans hretired) nofun

/-- How a client takes the answers to what is under way when it applies none of them. -/
structure DiscardsAnswers (run : ClientRun) : Prop where
  /-- A call of one part leaves the client and returns by its answer alone. -/
  call : ∀ {i : Nat} {yield : Yield} {call : Call} {resumption : Resumption call yield}
      {awaited : Option Nat} (answer : call.Answer),
    run.jobs[i]? = some ⟨yield, .awaiting call resumption, awaited⟩ →
      resumption.isBare = true →
        ∃ next, resumption.Verdict run.client answer next
          ∧ resumption.settle run.client answer = { client := run.client, next, effects := [] }
  /-- So does a refresh, which counts itself out. -/
  refresh : ∀ {i : Nat} {sweep : Sweep} {awaited : Option Nat},
    run.jobs[i]? = some ⟨.report, .sweeping sweep .silent, awaited⟩ →
      run.client.settleSweep sweep .silent
        = (Turn.finished { run.client with inventory := run.client.inventory.endRefresh }
            (sweep.report run.client.options.defaultName) : Turn .report)
  /-- A command of the whole client keeps what was found out. -/
  command : ∀ {i : Nat} {yield : Yield} {call : Call} {resumption : Resumption call yield}
      {awaited : Option Nat} (answer : call.Answer),
    run.jobs[i]? = some ⟨yield, .awaiting call resumption, awaited⟩ →
      resumption.goesFurther = false →
        run.client.KeepsFindings (resumption.settle run.client answer).client
  termination : ∀ {i : Nat} {target : Termination} {reporting : Reporting}
      {awaited : Option Nat} (answer : Except String Unit),
    run.jobs[i]? = some ⟨.unit, .awaiting _ (.terminate target reporting), awaited⟩ →
      (Resumption.settleTerminate run.client target reporting answer).client.catalog
          = run.client.catalog
        ∧ (Resumption.settleTerminate run.client target reporting answer).client.inventory
          = run.client.inventory
  sweep : ∀ {i : Nat} {yield : Yield} {sweep : Sweep} {goal : RefreshGoal yield}
      {awaited : Option Nat},
    run.jobs[i]? = some ⟨yield, .sweeping sweep goal, awaited⟩ →
      run.client.KeepsFindings (run.client.settleSweep sweep goal).client
  /-- What is given up takes nothing along. -/
  abandon : ∀ job ∈ run.jobs, run.client.KeepsFindings (job.operation.abandon run.client)
  ticket : ∀ placeholder ∈ run.tickets, run.client.discard placeholder = run.client
  poll : ∀ {start began : Nat} {poller : Poller} (answer : Except String StatusRecord),
    run.poller? start = some poller → poller.stage = .querying began →
      (poller.onAnswer run.client began answer).1 = run.client

/-- Whatever runs after a teardown, answers are not applied, and calls return what they say. -/
theorem teardown_discards_answers
    (hretired : retired.client.alive = false) (path : Relation.ReflTransGen Step retired run) :
    run.DiscardsAnswers := by
  have hdead := alive_eq_false_of_path hretired path
  exact {
    call := fun answer _ hbare => Resumption.settle_of_retired hdead hbare answer
    refresh := fun _ => Client.settleSweep_of_retired hdead _ .silent
    command := fun answer _ hfurther => Resumption.settle_keepsFindings hdead hfurther answer
    termination := fun answer _ => Resumption.settleTerminate_of_retired hdead _ _ answer
    sweep := fun _ => Client.settleSweep_keepsFindings hdead _ _
    abandon := fun job _ => job.operation.abandon_keepsFindings hdead
    ticket := fun placeholder _ => Client.discard_of_retired hdead placeholder
    poll := fun answer _ _ => Poller.onAnswer_of_retired hdead _ _ answer }

theorem closing_and_query_overtaken_by_teardown :
    ∃ retired run : ClientRun,
      Reached Settings.default 0 retired
        ∧ retired.client.alive = false
        ∧ Relation.ReflTransGen Step retired run
        ∧ run.jobs.length = 1
        ∧ run.client.tracker.value.epoch = 0
        ∧ ∀ record, ∃ next,
          Resumption.Verdict run.client (.query 0 .silent) (.ok record) next
            ∧ Resumption.settle run.client (.query 0 .silent) (.ok record)
              = { client := run.client, next, effects := [] } := by
  let closing := (new Settings.default 0).follow
    (Command.closeTunnel.start (Client.new Settings.default 0))
  let querying := closing.follow (Command.queryStatus.start closing.client)
  let retired := { querying with client := querying.client.retire }
  have reached : Reached Settings.default 0 retired :=
    ((Relation.ReflTransGen.refl.tail (Step.start _ .closeTunnel)).tail
      (Step.start closing .queryStatus)).tail (Step.retire querying)
  have path : Relation.ReflTransGen Step retired _ := Relation.ReflTransGen.refl.tail
    (@Step.settle _ 0 .unit .disconnect (.disconnect .silent) none (.ok ()) rfl)
  have discards := teardown_discards_answers rfl path
  refine ⟨retired, _, reached, rfl, path, rfl, rfl, ?_⟩
  intro record
  exact @DiscardsAnswers.call _ discards 0 .session .status (.query 0 .silent) none (.ok record)
    rfl rfl

end ClientRun
end VpnFleet
