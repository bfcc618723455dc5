import VpnFleet.Proofs.Client.Execution
import VpnFleet.Proofs.Inventory.Operations
import VpnFleet.Proofs.Session.Operations

/-!
# What a bootstrap leaves

A bootstrap and an update of the credentials on a client that nobody else uses.
Refused credentials and a failed loading of the regions end the command at once;
what fails later goes into the read models, and the command succeeds.

* `Bootstrapped` and `Updated` say what the two come to, with every call that
  they made.
* The report of a bootstrap is put together from what its parts returned.
  `Client.found` reads the same off the client: the two agree, since nobody
  comes between an answer and the report (`Phase`).
-/

namespace VpnFleet

/-- What the read models of a client say. -/
def Client.found (client : Client) : BootstrapReport where
  regions := client.catalog.value.regions.length
  instances := client.inventory.value.entries.countP fun entry => !entry.isPending
  failedRegions := client.inventory.value.failedRegions
  session := client.tracker.session

theorem Client.postFailures_eq (client : Client) (report : RefreshReport) :
    client.postFailures report
      = { client with notices := (client.postFailures report).notices } := by
  unfold postFailures
  split <;> rfl

/-- The codes of the listed regions, each once. -/
structure Catalog.NamesOnce (records : List RegionRecord) (codes : List String) : Prop where
  distinct : codes.Nodup
  covers : ∀ code, code ∈ codes ↔ ∃ record ∈ records, record.name = code

theorem Catalog.namesOnce_regionsOf (records : List RegionRecord) :
    NamesOnce records ((regionsOf records).map Region.code) where
  distinct := nodup_map_firstOf Region.code _
  covers := by
    intro code
    unfold regionsOf
    rw [mem_map_firstOf_iff]
    simp

/-- What a bootstrap comes to. -/
inductive Bootstrapped (before after : Client) (account : Account) :
    Yield.bootstrap.Value → Prop
  /-- The regions could not be loaded. -/
  | stopped (message : String)
      (asked : account.asked = [.listRegions])
      (heard : account.heard = [⟨.listRegions, .error message⟩])
      (inventory : after.inventory = before.inventory)
      (tracker : after.tracker = before.tracker)
      (stream : after.stream = before.stream) :
      Bootstrapped before after account (.error (.catalog (.load message)))
  /-- The regions were loaded, and each of them was listed once. -/
  | completed (records : List RegionRecord) (codes : List String)
      (heard : account.heard.head? = some ⟨.listRegions, .ok records⟩)
      (once : Catalog.NamesOnce records codes)
      (asked : account.asked = .listRegions :: codes.map .listInstances ++ [.status]) :
      Bootstrapped before after account (.ok after.found)

/-- What an update of the credentials comes to. -/
inductive Updated (credentials : Credentials) (before after : Client) :
    Account → Yield.bootstrap.Value → Prop
  | refused (message : String)
      (client : after = before.postError .credentials (.credentials message)) :
      Updated credentials before after (.refused credentials message)
        (.error (.credentials message))
  /-- The credentials are announced, and a bootstrap follows. -/
  | accepted {account : Account} {value : Yield.bootstrap.Value}
      (booted : Bootstrapped (before.announced credentials) after account value) :
      Updated credentials before after ((Account.accepted credentials).behind account) value

namespace Bootstrap

open Execution

/-- The regions are loaded, and the account of the bootstrap holds their codes. -/
structure Loaded (records : List RegionRecord) (execution : Execution .bootstrap) : Prop where
  heard : execution.account.heard.head? = some ⟨.listRegions, .ok records⟩
  once : Catalog.NamesOnce records execution.account.codes

/-- The regions are being listed. -/
structure Sweeping (records : List RegionRecord) (sweep : Sweep) (begun : List Slot)
    (rest : List String) (execution : Execution .bootstrap) : Prop
    extends Loaded records execution where
  alive : execution.client.alive = true
  waits : execution.next = .waiting (.sweeping sweep
    (.bootstrap execution.client.catalog.value.regions.length))
  listed : execution.account.Lists sweep begun rest
  asked : execution.account.asked
    = .listRegions :: begun.map fun slot => .listInstances slot.region

/-- The status is being queried, and the inventory holds what the listings came to. -/
structure Querying (records : List RegionRecord) (began : Nat) (report : RefreshReport)
    (execution : Execution .bootstrap) : Prop extends Loaded records execution where
  waits : execution.next = .waiting (.awaiting .status
    (.query began (.bootstrap execution.client.catalog.value.regions.length report)))
  asked : execution.account.asked
    = .listRegions :: execution.account.codes.map .listInstances ++ [.status]
  instances : report.instances.length
    = execution.client.inventory.value.entries.countP fun entry => !entry.isPending
  failed : report.failedRegions = execution.client.inventory.value.failedRegions

/-- How far a bootstrap is that has the client for itself. -/
inductive Phase (before : Client) (execution : Execution .bootstrap) : Prop
  | loads (alive : before.alive = true) (begun : execution = .begin before .bootstrap)
  | lists {records : List RegionRecord} {sweep : Sweep} {begun : List Slot} {rest : List String}
      (sweeping : Sweeping records sweep begun rest execution)
  | queries {records : List RegionRecord} {began : Nat} {report : RefreshReport}
      (querying : Querying records began report execution)
  | ended {value : Yield.bootstrap.Value}
      (ended : execution.next = .finished value)
      (booted : Bootstrapped before execution.client execution.account value)

section Steps

variable {before : Client} {execution next : Execution .bootstrap} {records : List RegionRecord}
  {sweep : Sweep} {begun : List Slot} {rest : List String} {report : RefreshReport}

/-- The regions are loaded, or could not be. -/
theorem phase_of_loaded (alive : before.alive = true)
    (answer : Except String (List RegionRecord)) :
    Phase before (after
      ((Execution.begin before .bootstrap).account.hear ⟨.listRegions, answer⟩)
      (Execution.begin before .bootstrap).client
      ((Resumption.load .bootstrap).settle (Execution.begin before .bootstrap).client answer)) := by
  rw [begin_bootstrap]
  cases answer with
  | error message => exact .ended rfl (.stopped message rfl rfl rfl rfl rfl)
  | ok records =>
    let loading : Client := { before with catalog := before.catalog.beginLoad }
    let loaded : Client :=
      { before with
        catalog := loading.catalog.replace (Catalog.loaded (Catalog.regionsOf records)) }
    let account : Account :=
      { Account.empty with
        asked := [.listRegions]
        heard := [⟨.listRegions, .ok records⟩] }
    have hsettled : (loading.catalog.settleLoad before.alive (.ok records)).1 = loaded.catalog := by
      rw [alive]
      rfl
    have hturn : (Resumption.load .bootstrap).settle loading (.ok records)
        = loaded.refresh (.bootstrap (Catalog.regionsOf records).length) := by
      show Client.refresh
        { before with catalog := (loading.catalog.settleLoad before.alive (.ok records)).1 } _ = _
      rw [hsettled]
    have hlists : Phase before (after account loading
        (loaded.refresh (.bootstrap (Catalog.regionsOf records).length))) := by
      rw [after_refresh]
      exact .lists {
        heard := rfl
        alive := alive
        once := Catalog.namesOnce_regionsOf records
        waits := rfl
        listed := Account.lists_ofRegions rfl _
        asked := rfl }
    rw [← hturn] at hlists
    exact hlists

/-- One more region is asked for. -/
theorem Sweeping.ask (h : Sweeping records sweep begun rest execution) {slot : Nat}
    {region : String} (found : sweep.next? = some (slot, region)) :
    ∃ begun rest, Sweeping records (sweep.ask slot) begun rest
      (execution.ask region (sweep.ask slot)
        (.bootstrap execution.client.catalog.value.regions.length)) := by
  obtain ⟨later, rfl, hlater⟩ :=
    h.listed.ask found (execution.account.asked ++ [.listInstances region])
  refine ⟨_, later, {
    heard := h.heard
    once := h.once
    alive := h.alive
    waits := rfl
    listed := hlater
    asked := ?_ }⟩
  simp [Execution.ask, h.asked]

/-- The listing of one region came back. -/
theorem Sweeping.answer (h : Sweeping records sweep begun rest execution) {i : Nat} {slot : Slot}
    (found : sweep.slots[i]? = some slot) (asked : slot.isAsked = true) (listing : Listing) :
    ∃ begun rest, Sweeping records (sweep.answer i listing) begun rest
      (execution.answer slot.region listing (sweep.answer i listing)
        (.bootstrap execution.client.catalog.value.regions.length)) := by
  have hlisted := h.listed.answer found asked listing
  have hregions := Keyed.map_modify_eq (f := fun slot => Call.listInstances slot.region)
    (g := fun old => { old with state := .answered listing }) (fun _ => rfl) begun i
  refine ⟨_, rest, {
    heard := ?_
    once := h.once
    alive := h.alive
    waits := rfl
    listed := hlisted
    asked := ?_ }⟩
  · simp [Execution.answer, Account.hear, List.head?_append, h.heard]
  · rw [hregions]
    exact h.asked

/-- The listings are in, and the status is queried whatever they came to. -/
theorem Sweeping.querying (h : Sweeping records sweep begun rest execution)
    (done : sweep.isDone = true) :
    ∃ began report, Querying records began report (after execution.account execution.client
      (execution.client.settleSweep sweep
        (.bootstrap execution.client.catalog.value.regions.length))) := by
  let report := sweep.report execution.client.options.defaultName
  let settled : Client :=
    { execution.client with
      inventory := execution.client.inventory.settleRefresh execution.client.alive report }
  let posted := settled.postFailures report
  have hsettled : settled.inventory
      = (execution.client.inventory.applyRefresh report).endRefresh := by
    show Inventory.settleRefresh _ _ _ = _
    rw [Inventory.settleRefresh, if_pos h.alive]
  have hposted : posted = { settled with notices := posted.notices } :=
    settled.postFailures_eq report
  have hinventory : posted.inventory
      = (execution.client.inventory.applyRefresh report).endRefresh := by
    rw [hposted, ← hsettled]
  have hcatalog : posted.catalog = execution.client.catalog := by
    rw [hposted]
  obtain ⟨hrest, -⟩ := h.listed.split.isDone_iff.1 done
  have hcodes : execution.account.codes = begun.map Slot.region := by
    rw [← h.listed.codes, hrest, List.append_nil]
  have hturn : execution.client.settleSweep sweep
        (.bootstrap execution.client.catalog.value.regions.length)
      = Turn.awaiting posted .status (.query posted.tracker.beginQuery
          (.bootstrap execution.client.catalog.value.regions.length report)) := rfl
  refine ⟨posted.tracker.beginQuery, report, ?_⟩
  rw [hturn, after_awaiting]
  exact {
    heard := h.heard
    once := h.once
    waits := by rw [hcatalog]
    asked := by
      rw [h.asked, hcodes, List.map_map]
      rfl
    instances := by
      rw [hinventory]
      exact (Inventory.countP_refreshed report _).symm
    failed := by
      rw [hinventory]
      rfl }

/-- The session of the report is the one queried, or the last one known. -/
theorem settle_bootstrap (client : Client) (outcome : Except SessionError VpnSession)
    (regions : Nat) (report : RefreshReport) :
    (QueryGoal.bootstrap regions report).settle client outcome
      = (Turn.finished client (Except.ok {
          regions
          instances := report.instances.length
          failedRegions := report.failedRegions
          session := outcome.toOption.getD client.tracker.session }) : Turn .bootstrap) := by
  cases outcome <;> rfl

/-- The status is known, or could not be queried: the report is what the client shows. -/
theorem Querying.bootstrapped {began : Nat} (h : Querying records began report execution)
    (answer : Except String StatusRecord) :
    Phase before (after (execution.account.hear ⟨.status, answer⟩) execution.client
      ((Resumption.query began
        (.bootstrap execution.client.catalog.value.regions.length report)).settle
          execution.client answer)) := by
  let settled := execution.client.tracker.settleQuery execution.client.alive
    execution.client.inventory.value began answer
  let later : Client := { execution.client with tracker := settled.1 }
  have hsession : settled.2.toOption.getD later.tracker.session = later.tracker.session := by
    cases hfound : settled.2 with
    | ok session => exact (Tracker.session_of_settleQuery hfound).symm
    | error error => rfl
  have hturn : (Resumption.query began
        (.bootstrap execution.client.catalog.value.regions.length report)).settle
          execution.client answer
      = (Turn.finished later (Except.ok later.found) : Turn .bootstrap) := by
    show (QueryGoal.bootstrap execution.client.catalog.value.regions.length report).settle later
      settled.2 = _
    rw [settle_bootstrap, hsession, h.instances, h.failed]
    rfl
  rw [hturn]
  refine .ended rfl (.completed records execution.account.codes ?_ h.once ?_)
  · simp [after, Account.take, Account.hear, List.head?_append, h.heard]
  · simp [after, Account.take, Account.hear, Turn.finished, Next.call?, h.asked]

theorem Phase.step (h : Phase before execution) (step : Step nobody execution next) :
    Phase before next := by
  cases h with
  | loads alive begun =>
    subst begun
    have hwaits : (Execution.begin before .bootstrap).next
        = .waiting (.awaiting .listRegions (.load .bootstrap)) := by
      rw [begin_bootstrap]
    obtain ⟨answer, rfl⟩ := step.exists_answer hwaits
    exact phase_of_loaded alive answer
  | lists sweeping =>
    rcases step.listing_cases sweeping.waits with ⟨slot, region, hnext, rfl⟩
      | ⟨i, slot, listing, hslot, hasked, rfl⟩ | ⟨hdone, rfl⟩
    · obtain ⟨_, _, hlater⟩ := sweeping.ask hnext
      exact .lists hlater
    · obtain ⟨_, _, hlater⟩ := sweeping.answer hslot hasked listing
      exact .lists hlater
    · obtain ⟨_, _, hlater⟩ := sweeping.querying hdone
      exact .queries hlater
  | queries querying =>
    obtain ⟨answer, rfl⟩ := step.exists_answer querying.waits
    exact querying.bootstrapped answer
  | ended ended booted => exact absurd step (not_step_of_finished ended)

theorem phase_of_path (alive : before.alive = true)
    (path : Relation.ReflTransGen (Step nobody) (.begin before .bootstrap) execution) :
    Phase before execution := by
  induction path with
  | refl => exact .loads alive rfl
  | tail _ step ih => exact ih.step step

/-- A bootstrap is over or can go on. -/
theorem Phase.goesOn (h : Phase before execution) :
    (∃ value, execution.next = .finished value
        ∧ Bootstrapped before execution.client execution.account value)
      ∨ ∃ next, Step nobody execution next := by
  cases h with
  | loads alive begun =>
    have hwaits : execution.next = .waiting (.awaiting .listRegions (.load .bootstrap)) := by
      rw [begun, begin_bootstrap]
    exact Or.inr ⟨_, .settle _ (.error "no answer") hwaits⟩
  | lists sweeping =>
    right
    rcases sweeping.listed.goesOn with hdone | ⟨slot, region, hnext⟩ | ⟨i, slot, hslot, hasked⟩
    · exact ⟨_, .settleSweep _ sweeping.waits hdone⟩
    · exact ⟨_, .askListing _ sweeping.waits hnext⟩
    · exact ⟨_, .answerListing _ (.ok []) sweeping.waits hslot hasked⟩
  | queries querying => exact Or.inr ⟨_, .settle _ (.error "no answer") querying.waits⟩
  | ended ended booted => exact Or.inl ⟨_, ended, booted⟩

/-- An update of the credentials is over or can go on. -/
theorem goesOn_of_updates {client : Client} {credentials : Credentials}
    (alive : client.alive = true) (updates : Updates nobody client credentials execution) :
    (∃ value, execution.next = .finished value
        ∧ Updated credentials client execution.client execution.account value)
      ∨ ∃ next, Step nobody execution next := by
  cases updates with
  | waits moved => exact Or.inr ⟨_, .settle _ (.error "no answer") rfl⟩
  | refused message moved movedOn =>
    cases eq_of_nobody moved
    cases eq_of_nobody movedOn
    exact Or.inl ⟨_, rfl, .refused message rfl⟩
  | @accepted present boot moved path =>
    cases eq_of_nobody moved
    have hannounced : (client.announced credentials).alive = true := alive
    rcases (phase_of_path hannounced path).goesOn with ⟨value, hended, hbooted⟩ | ⟨later, hstep⟩
    · exact Or.inl ⟨value, hended, .accepted hbooted⟩
    · exact Or.inr ⟨_, hstep.behind (.accepted credentials)⟩

end Steps

/-- **A bootstrap reports what it leaves.** On a client that is alive and that nobody else uses a
bootstrap comes to its value, whatever the backend answers. If the regions cannot be loaded, nothing
else is asked for, and the inventory, the session and the traffic stay. Otherwise every region is
listed once and the status is queried once; it succeeds, and its report is what the read models say.
Credentials that are refused leave one notice and nothing else; a bootstrap follows those that are
accepted. -/
theorem bootstrap_reports_what_it_leaves {client : Client} (alive : client.alive = true) :
    (begin client .bootstrap).Concludes
        (fun execution value => Bootstrapped client execution.client execution.account value)
      ∧ ∀ credentials, (begin client (.saveCredentials credentials)).Concludes
          fun execution value =>
            Updated credentials client execution.client execution.account value := by
  constructor
  · refine concludes_of_invariant (I := Phase client) ?_ ?_ _ (.loads alive rfl)
    · intro execution next h step
      exact h.step step
    · intro execution h
      exact h.goesOn
  · intro credentials
    refine concludes_of_invariant (I := Updates nobody client credentials) ?_ ?_ _
      (updates_of_path .refl)
    · intro execution next h step
      exact h.step step
    · intro execution h
      exact goesOn_of_updates alive h

/-- A client that shows a tunnel: a region is listed twice, another one cannot be listed, and the
status cannot be queried. -/
theorem bootstrap_behind_a_tunnel_shown :
    ∃ (before : Client) (execution : Execution .bootstrap) (report : BootstrapReport),
      before.alive = true
        ∧ Relation.ReflTransGen (Step nobody) (.begin before .bootstrap) execution
        ∧ execution.next = .finished (.ok report)
        ∧ Bootstrapped before execution.client execution.account (.ok report)
        ∧ (report.regions, report.instances, report.failedRegions) = (2, 1, ["us-1"])
        ∧ report.session = before.tracker.session
        ∧ report.session.isConnected = true := by
  let server : Instance := ⟨"i-1", "gate", .running, "10.0.0.1", none, "eu-1"⟩
  let before : Client :=
    { Client.new Settings.default 0 with
      tracker := .new
        { session := .connected server true, connecting := none, lastError := none, epoch := 1 } }
  have loaded := Relation.ReflTransGen.refl.tail
    (@Step.settle nobody _ (.begin before .bootstrap) .listRegions (.load .bootstrap)
      (.ok [⟨"eu-1", "Germany"⟩, ⟨"us-1", "USA"⟩, ⟨"eu-1", "Finland"⟩]) rfl)
  have asked := (loaded.tail (@Step.askListing nobody _ _ _ _ 0 "eu-1" rfl rfl)).tail
    (@Step.askListing nobody _ _ _ _ 1 "us-1" rfl rfl)
  have answered := (asked.tail
    (@Step.answerListing nobody _ _ _ _ 1 _ (.error "down") rfl rfl rfl)).tail
    (@Step.answerListing nobody _ _ _ _ 0 _
      (.ok [⟨"i-1", some "gate", "running", "10.0.0.1", "", none⟩]) rfl rfl rfl)
  have path := (answered.tail (@Step.settleSweep nobody _ _ _ _ rfl rfl)).tail
    (@Step.settle nobody _ _ .status (.query 1 (.bootstrap 2 _)) (.error "no answer") rfl)
  obtain ⟨execution, report, hpath, ended, hreport, hsession⟩ :
      ∃ (execution : Execution .bootstrap) (report : BootstrapReport),
        Relation.ReflTransGen (Step nobody) (.begin before .bootstrap) execution
          ∧ execution.next = .finished (.ok report)
          ∧ (report.regions, report.instances, report.failedRegions) = (2, 1, ["us-1"])
          ∧ report.session = before.tracker.session :=
    ⟨_, _, path, rfl, rfl, rfl⟩
  have hbooted := (@bootstrap_reports_what_it_leaves before rfl).1.of_path hpath ended
  refine ⟨before, execution, report, rfl, hpath, ended, hbooted, hreport, hsession, ?_⟩
  rw [hsession]
  rfl

end Bootstrap
end VpnFleet
