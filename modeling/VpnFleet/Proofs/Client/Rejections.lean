import VpnFleet.Proofs.Client.Underway

/-!
# Refused commands

A spawn, a termination and the opening of a tunnel may be refused before the
backend is asked. Such a refusal leaves nothing behind: neither a change of what
the client shows nor a publication of it, except for one notice.

* `Client.Refuses` lists the reasons for which a request is refused. A command
  is refused for these and for no others.
* `ClientError.isLocal` marks the errors of refusals. An operation that was
  under way never ends with one, so whoever sees such an error knows that no call
  was made. Only the end of a disconnection needs an argument: its error was
  found earlier and carried along, through the closing of a feed
  (`Operation.Genuine`).
-/

namespace VpnFleet

/-- What can be refused before the backend is asked. -/
inductive Request where
  | spawn (region : String)
  | terminate (id : String)
  | connect (id : String)
  | openTunnel (target : Instance)

/-- What a command asks for, if that can be refused. -/
def Command.request? {yield : Yield} : Command yield → Option Request
  | .spawn region => some (.spawn region)
  | .spawnServer region => some (.spawn region)
  | .terminate id => some (.terminate id)
  | .terminateServer id => some (.terminate id)
  | .connect id => some (.connect id)
  | .openTunnel target => some (.openTunnel target)
  | _ => none

/-- An error of a refusal. -/
def ClientError.isLocal : ClientError → Bool
  | inventory .emptyRegion => true
  | inventory (.unknownRegion _) => true
  | inventory (.unknownInstance _) => true
  | inventory (.pendingInstance _) => true
  | session (.notConnectable _ _) => true
  | session (.connectInProgress _) => true
  | _ => false

namespace Client

/-- Why a request is refused. A tunnel by identifier is opened to the entry that carries it. -/
inductive Refuses (client : Client) : Request → ClientError → Prop
  | emptyRegion {region : String} (blank : Text.trim region = "") :
      Refuses client (.spawn region) (.inventory .emptyRegion)
  | unknownRegion {region : String}
      (named : Text.trim region ≠ "")
      (loaded : client.catalog.value.status = .ready)
      (unlisted : Text.trim region ∉ client.catalog.codes) :
      Refuses client (.spawn region) (.inventory (.unknownRegion (Text.trim region)))
  | unknownTarget {id : String} (absent : client.inventory.lookup? id = none) :
      Refuses client (.terminate id) (.inventory (.unknownInstance id))
  | pendingTarget {id : String} {placeholder : Placeholder}
      (pending : client.inventory.lookup? id = some (.pending placeholder)) :
      Refuses client (.terminate id) (.inventory (.pendingInstance id))
  | notConnectable {target : Instance} {reason : NotConnectable}
      (unfit : target.ensureConnectable = .error reason) :
      Refuses client (.openTunnel target) (.session (.notConnectable target.id
        (InventoryError.ofNotConnectable target reason).message))
  | connectInProgress {target : Instance} {id : String}
      (fit : target.ensureConnectable = .ok ())
      (underway : client.tracker.value.connecting = some id) :
      Refuses client (.openTunnel target) (.session (.connectInProgress id))
  | unknownEnd {id : String} (absent : client.inventory.lookup? id = none) :
      Refuses client (.connect id) (.inventory (.unknownInstance id))
  | ofEntry {id : String} {entry : Entry} {error : ClientError}
      (found : client.inventory.lookup? id = some entry)
      (refused : Refuses client (.openTunnel entry.toInstance) error) :
      Refuses client (.connect id) error

theorem Refuses.isLocal {client : Client} {request : Request} {error : ClientError}
    (h : client.Refuses request error) : error.isLocal = true := by
  induction h with
  | ofEntry found refused ih => exact ih
  | _ => rfl

end Client

/-- The error of an outcome. -/
def ClientError.of? {α : Type} : Except ClientError α → Option ClientError
  | .ok _ => none
  | .error error => some error

/-- The error that a result stands for; a report of a refresh is none. -/
def Yield.error? : (yield : Yield) → yield.Value → Option ClientError
  | .regions, value => ClientError.of? value
  | .report, _ => none
  | .bootstrap, value => ClientError.of? value
  | .server, value => ClientError.of? value
  | .session, value => ClientError.of? value
  | .unit, value => ClientError.of? value

namespace Turn

variable {yield : Yield}

/-- The error that an operation ends with. -/
def error? (turn : Turn yield) : Option ClientError :=
  match turn.next with
  | .finished value => yield.error? value
  | .waiting _ => none

/-- The operation ends with an error, and leaves the client alone but for a notice of it. -/
structure Refused (client : Client) (error : ClientError) (turn : Turn yield) : Prop where
  ends : turn.error? = some error
  effects : turn.effects = []
  leaves : turn.client = client ∨ ∃ kind, turn.client = client.postError kind error

end Turn

section Reasons

variable {client : Client} {error : ClientError}

theorem Catalog.knows_iff {catalog : Catalog} {code : String} :
    catalog.knows code = true ↔ code ∈ catalog.codes := by
  simp [Catalog.knows, Catalog.codes]

/-- A spawn may use the trimmed region, unless it is empty, or a loaded catalog does not list it. -/
theorem Inventory.spawnRegion_cases (catalog : Catalog) (region : String) :
    (Text.trim region = "" ∧ spawnRegion catalog region = .error .emptyRegion)
      ∨ (Text.trim region ≠ ""
        ∧ catalog.value.status = .ready
        ∧ Text.trim region ∉ catalog.codes
        ∧ spawnRegion catalog region = .error (.unknownRegion (Text.trim region)))
      ∨ (Text.trim region ≠ ""
        ∧ (catalog.value.status = .ready → Text.trim region ∈ catalog.codes)
        ∧ spawnRegion catalog region = .ok (Text.trim region)) := by
  unfold spawnRegion
  dsimp only
  by_cases hblank : Text.isBlank region = true
  · exact Or.inl ⟨(Text.isBlank_iff_trim_eq_empty region).1 hblank, if_pos hblank⟩
  · have hnamed : Text.trim region ≠ "" :=
      fun hempty => hblank ((Text.isBlank_iff_trim_eq_empty region).2 hempty)
    rw [if_neg hblank]
    by_cases hready : catalog.value.status = .ready
    · cases hknown : catalog.knows (Text.trim region) with
      | true => exact Or.inr (Or.inr ⟨hnamed, fun _ => Catalog.knows_iff.1 hknown, by simp⟩)
      | false =>
        have hunlisted : Text.trim region ∉ catalog.codes := by
          rw [← Catalog.knows_iff, hknown]
          exact Bool.false_ne_true
        exact Or.inr (Or.inl ⟨hnamed, hready, hunlisted, by simp [hready]⟩)
    · exact Or.inr (Or.inr ⟨hnamed, fun h => absurd h hready, by simp [hready]⟩)

namespace Client

theorem beginSpawn_eq_error_iff {region : String} :
    client.beginSpawn region = .error error ↔ client.Refuses (.spawn region) error := by
  unfold beginSpawn Inventory.beginSpawn
  rcases Inventory.spawnRegion_cases client.catalog region with
    ⟨hblank, hregion⟩ | ⟨hnamed, hready, hunlisted, hregion⟩ | ⟨hnamed, hlisted, hregion⟩
  · rw [hregion]
    constructor
    · intro h
      cases h
      exact .emptyRegion hblank
    · intro h
      cases h with
      | emptyRegion => rfl
      | unknownRegion hnamed => exact absurd hblank hnamed
  · rw [hregion]
    constructor
    · intro h
      cases h
      exact .unknownRegion hnamed hready hunlisted
    · intro h
      cases h with
      | emptyRegion hblank => exact absurd hblank hnamed
      | unknownRegion => rfl
  · rw [hregion]
    constructor
    · intro h
      cases h
    · intro h
      cases h with
      | emptyRegion hblank => exact absurd hblank hnamed
      | unknownRegion _ hready hunlisted => exact absurd (hlisted hready) hunlisted

theorem spawn_error?_iff {region : String} {reporting : Reporting} :
    (client.spawn region reporting).error? = some error
      ↔ client.Refuses (.spawn region) error := by
  rw [← beginSpawn_eq_error_iff]
  unfold spawn
  cases client.beginSpawn region with
  | ok begun => simp [Turn.error?, confirm, Turn.awaiting]
  | error refusal =>
    cases reporting <;> simp [Turn.error?, Turn.finished, Yield.error?, ClientError.of?]

theorem terminate_error?_iff {id : String} {reporting : Reporting} :
    (client.terminate id reporting).error? = some error
      ↔ client.Refuses (.terminate id) error := by
  unfold terminate
  cases hentry : client.inventory.lookup? id with
  | none =>
    rw [Inventory.beginTerminate_of_absent hentry]
    constructor
    · intro h
      cases reporting <;> cases h <;> exact .unknownTarget hentry
    · intro h
      cases h with
      | unknownTarget => cases reporting <;> rfl
      | pendingTarget hpending => rw [hentry] at hpending; cases hpending
  | some entry =>
    cases entry with
    | pending placeholder =>
      rw [Inventory.beginTerminate_of_pending hentry]
      constructor
      · intro h
        cases reporting <;> cases h <;> exact .pendingTarget hentry
      · intro h
        cases h with
        | unknownTarget habsent => rw [hentry] at habsent; cases habsent
        | pendingTarget => cases reporting <;> rfl
    | confirmed server =>
      obtain ⟨marked, hbegun, -⟩ := Inventory.beginTerminate_of_confirmed hentry
      rw [hbegun]
      constructor
      · intro h
        cases h
      · intro h
        cases h with
        | unknownTarget habsent => rw [hentry] at habsent; cases habsent
        | pendingTarget hpending => rw [hentry] at hpending; cases hpending

theorem openTunnel_error?_iff {target : Instance} {reporting : Reporting} :
    (client.openTunnel target reporting).error? = some error
      ↔ client.Refuses (.openTunnel target) error := by
  unfold openTunnel Tracker.beginConnect
  cases hfit : target.ensureConnectable with
  | error reason =>
    constructor
    · intro h
      cases reporting <;> cases h <;> exact .notConnectable hfit
    · intro h
      cases h with
      | notConnectable hunfit =>
        obtain rfl : reason = _ := Except.error.inj (hfit.symm.trans hunfit)
        cases reporting <;> rfl
      | connectInProgress hready => rw [hfit] at hready; cases hready
  | ok ready =>
    cases hmark : client.tracker.value.connecting with
    | some id =>
      constructor
      · intro h
        cases reporting <;> cases h <;> exact .connectInProgress hfit hmark
      · intro h
        cases h with
        | notConnectable hunfit => rw [hfit] at hunfit; cases hunfit
        | connectInProgress _ hunderway =>
          obtain rfl : id = _ := Option.some.inj (hmark.symm.trans hunderway)
          cases reporting <;> rfl
    | none =>
      constructor
      · intro h
        cases h
      · intro h
        cases h with
        | notConnectable hunfit => rw [hfit] at hunfit; cases hunfit
        | connectInProgress _ hunderway => rw [hmark] at hunderway; cases hunderway

theorem connect_error?_iff {id : String} :
    (client.connect id).error? = some error ↔ client.Refuses (.connect id) error := by
  unfold connect instance?
  rw [Inventory.find?_instances]
  cases hentry : client.inventory.lookup? id with
  | none =>
    constructor
    · intro h
      cases h
      exact .unknownEnd hentry
    · intro h
      cases h with
      | unknownEnd => rfl
      | ofEntry hfound => rw [hentry] at hfound; cases hfound
  | some entry =>
    show (client.openTunnel entry.toInstance .noticed).error? = some error ↔ _
    rw [openTunnel_error?_iff]
    constructor
    · exact .ofEntry hentry
    · intro h
      cases h with
      | unknownEnd habsent => rw [hentry] at habsent; cases habsent
      | ofEntry hfound hrefused =>
        obtain rfl : entry = _ := Option.some.inj (hentry.symm.trans hfound)
        exact hrefused

theorem spawn_refused {region : String} {reporting : Reporting}
    (h : (client.spawn region reporting).error? = some error) :
    (client.spawn region reporting).Refused client error := by
  have hrefused := beginSpawn_eq_error_iff.2 (spawn_error?_iff.1 h)
  unfold spawn
  rw [hrefused]
  cases reporting with
  | silent => exact ⟨rfl, rfl, Or.inl rfl⟩
  | noticed => exact ⟨rfl, rfl, Or.inr ⟨.spawn, rfl⟩⟩

theorem terminate_refused {id : String} {reporting : Reporting}
    (h : (client.terminate id reporting).error? = some error) :
    (client.terminate id reporting).Refused client error := by
  unfold terminate at h ⊢
  rcases hbegun : client.inventory.beginTerminate id with ⟨inventory, termination | refusal⟩
  · obtain rfl := Inventory.beginTerminate_eq_error hbegun
    rw [hbegun] at h
    cases reporting with
    | silent => exact ⟨h, rfl, Or.inl rfl⟩
    | noticed => cases h; exact ⟨rfl, rfl, Or.inr ⟨.terminate, rfl⟩⟩
  · rw [hbegun] at h
    cases h

theorem openTunnel_refused {target : Instance} {reporting : Reporting}
    (h : (client.openTunnel target reporting).error? = some error) :
    (client.openTunnel target reporting).Refused client error := by
  unfold openTunnel at h ⊢
  rcases hbegun : client.tracker.beginConnect target with ⟨tracker, refusal | ready⟩
  · obtain rfl := Tracker.beginConnect_eq_error hbegun
    rw [hbegun] at h
    cases reporting with
    | silent => exact ⟨h, rfl, Or.inl rfl⟩
    | noticed => cases h; exact ⟨rfl, rfl, Or.inr ⟨.connect, rfl⟩⟩
  · rw [hbegun] at h
    cases h

theorem connect_refused {id : String} (h : (client.connect id).error? = some error) :
    (client.connect id).Refused client error := by
  unfold connect at h ⊢
  cases hfound : client.instance? id with
  | some target =>
    rw [hfound] at h
    exact openTunnel_refused h
  | none =>
    rw [hfound] at h
    cases h
    exact ⟨rfl, rfl, Or.inr ⟨.connect, rfl⟩⟩

theorem finishClose_error? {closing : Closing} :
    (client.finishClose closing).error? = some error
      ↔ ∃ cause, closing = .disconnection (.error cause) ∧ error = .session cause := by
  cases closing with
  | silent => simp [finishClose, Turn.error?, Turn.finished, Yield.error?, ClientError.of?]
  | disconnection outcome =>
    cases outcome with
    | ok done =>
      simp [finishClose, finishDisconnect, Turn.error?, Turn.finished, Yield.error?,
        ClientError.of?]
    | error cause =>
      simp [finishClose, finishDisconnect, Turn.error?, Turn.finished, Yield.error?,
        ClientError.of?, eq_comm]

/-- A deactivation ends with an error only where a disconnection does. -/
theorem exists_of_deactivate_error? {closing : Closing}
    (h : (client.deactivate closing).error? = some error) :
    ∃ cause, closing = .disconnection (.error cause) ∧ error = .session cause := by
  unfold deactivate at h
  split at h
  · cases h
  · exact finishClose_error?.1 h

end Client

/-- A command is refused for the reasons of its request, and ends with an error for no other. -/
theorem Command.start_error?_iff {yield : Yield} (command : Command yield) :
    (command.start client).error? = some error
      ↔ ∃ request, command.request? = some request ∧ client.Refuses request error := by
  have hasked {request : Request} (hrequest : command.request? = some request)
      (hiff : (command.start client).error? = some error ↔ client.Refuses request error) :
      (command.start client).error? = some error
        ↔ ∃ request, command.request? = some request ∧ client.Refuses request error := by
    rw [hiff]
    simp [hrequest]
  have hnever (hrequest : command.request? = none)
      (hruns : (command.start client).error? = none) :
      (command.start client).error? = some error
        ↔ ∃ request, command.request? = some request ∧ client.Refuses request error := by
    simp [hrequest, hruns]
  cases command with
  | spawn region => exact hasked rfl Client.spawn_error?_iff
  | spawnServer region => exact hasked rfl Client.spawn_error?_iff
  | terminate id => exact hasked rfl Client.terminate_error?_iff
  | terminateServer id => exact hasked rfl Client.terminate_error?_iff
  | connect id => exact hasked rfl Client.connect_error?_iff
  | openTunnel target => exact hasked rfl Client.openTunnel_error?_iff
  | activateStream =>
    refine hnever rfl ?_
    show client.activate.error? = none
    unfold Client.activate
    split <;> rfl
  | deactivateStream =>
    refine hnever rfl (Option.eq_none_iff_forall_ne_some.2 ?_)
    intro error h
    obtain ⟨cause, hclosing, -⟩ := Client.exists_of_deactivate_error? h
    cases hclosing
  | _ => exact hnever rfl rfl

theorem Command.start_refused {yield : Yield} {command : Command yield}
    (h : (command.start client).error? = some error) :
    (command.start client).Refused client error := by
  obtain ⟨request, hrequest, -⟩ := command.start_error?_iff.1 h
  cases command with
  | spawn region => exact Client.spawn_refused h
  | spawnServer region => exact Client.spawn_refused h
  | terminate id => exact Client.terminate_refused h
  | terminateServer id => exact Client.terminate_refused h
  | connect id => exact Client.connect_refused h
  | openTunnel target => exact Client.openTunnel_refused h
  | _ => cases hrequest

end Reasons

/-- The error that a disconnection carries along is that of its call. -/
def Closing.Genuine : Closing → Prop
  | .disconnection (.error error) => ∃ message, error = .disconnect message
  | _ => True

theorem Closing.genuine_silent : Closing.silent.Genuine := trivial

/-- If the operation is the rest of a disconnection, its error is that of the call. -/
def Operation.Genuine {yield : Yield} : Operation yield → Prop
  | .awaiting _ (.close _ closing) => closing.Genuine
  | _ => True

/-- What a step leaves under way is genuine. -/
def Next.Genuine {yield : Yield} : Next yield → Prop
  | .finished _ => True
  | .waiting operation => operation.Genuine

section Answers

variable {client : Client} {error : ClientError} {yield : Yield}

namespace Client

theorem finishClose_genuine (closing : Closing) : (client.finishClose closing).next.Genuine := by
  cases closing with
  | silent => trivial
  | disconnection outcome => cases outcome <;> trivial

theorem deactivate_genuine {closing : Closing} (h : closing.Genuine) :
    (client.deactivate closing).next.Genuine := by
  unfold deactivate
  split
  · exact h
  · exact finishClose_genuine closing

theorem activate_genuine : client.activate.next.Genuine := by
  unfold activate
  split <;> trivial

theorem spawn_genuine (region : String) (reporting : Reporting) :
    (client.spawn region reporting).next.Genuine := by
  unfold spawn
  split <;> trivial

theorem terminate_genuine (id : String) (reporting : Reporting) :
    (client.terminate id reporting).next.Genuine := by
  unfold terminate
  split <;> trivial

theorem openTunnel_genuine (target : Instance) (reporting : Reporting) :
    (client.openTunnel target reporting).next.Genuine := by
  unfold openTunnel
  split <;> trivial

theorem connect_genuine (id : String) : (client.connect id).next.Genuine := by
  unfold connect
  split
  · exact openTunnel_genuine _ _
  · trivial

theorem settleSweep_genuine (sweep : Sweep) (goal : RefreshGoal yield) :
    (client.settleSweep sweep goal).next.Genuine := by
  cases goal <;> trivial

end Client

theorem Command.start_genuine (command : Command yield) :
    (command.start client).next.Genuine := by
  cases command with
  | spawn region => exact Client.spawn_genuine region .noticed
  | spawnServer region => exact Client.spawn_genuine region .silent
  | terminate id => exact Client.terminate_genuine id .noticed
  | terminateServer id => exact Client.terminate_genuine id .silent
  | connect id => exact Client.connect_genuine id
  | openTunnel target => exact Client.openTunnel_genuine target .silent
  | activateStream => exact Client.activate_genuine
  | deactivateStream => exact Client.deactivate_genuine Closing.genuine_silent
  | _ => trivial

/-- The outcome of a closing is that of its call. -/
theorem Tracker.genuine_settleDisconnect
    (tracker : Tracker) (alive : Bool) (answer : Except String Unit) :
    (Closing.disconnection (tracker.settleDisconnect alive answer).2).Genuine := by
  cases answer with
  | ok done => trivial
  | error message => exact ⟨message, rfl⟩

theorem LoadGoal.settle_genuine
    (outcome : Except CatalogError (List Region)) (goal : LoadGoal yield) :
    (goal.settle client outcome).next.Genuine := by
  cases goal <;> cases outcome <;> trivial

theorem QueryGoal.settle_genuine
    (outcome : Except SessionError VpnSession) (goal : QueryGoal yield) :
    (goal.settle client outcome).next.Genuine := by
  cases goal <;> cases outcome <;> trivial

theorem Resumption.settle_genuine {call : Call} (resumption : Resumption call yield)
    (answer : call.Answer) :
    (resumption.settle client answer).next.Genuine := by
  cases resumption with
  | load goal => exact goal.settle_genuine _
  | spawn placeholder reporting => cases answer <;> cases reporting <;> trivial
  | terminate termination reporting => cases answer <;> cases reporting <;> trivial
  | connect target reporting => cases answer <;> cases reporting <;> trivial
  | query began goal => exact goal.settle_genuine _
  | disconnect reporting =>
    cases reporting with
    | silent => trivial
    | noticed =>
      exact Client.deactivate_genuine
        (client.tracker.genuine_settleDisconnect client.alive answer)
  | activate generation =>
    show (settleActivate client generation answer).next.Genuine
    unfold settleActivate
    dsimp only
    split <;> trivial
  | close feed closing => exact Client.finishClose_genuine closing
  | save credentials => cases answer <;> trivial

/-- A genuine closing carries no error of a refusal. -/
theorem Closing.Genuine.not_isLocal {closing : Closing} (genuine : closing.Genuine)
    (h : ∃ cause, closing = .disconnection (.error cause) ∧ error = .session cause) :
    error.isLocal = false := by
  obtain ⟨cause, rfl, rfl⟩ := h
  obtain ⟨message, rfl⟩ := genuine
  rfl

theorem LoadGoal.not_isLocal_of_settle {outcome : Except CatalogError (List Region)}
    {goal : LoadGoal yield} (h : (goal.settle client outcome).error? = some error) :
    error.isLocal = false := by
  cases goal <;> cases outcome <;> cases h <;> rfl

/-- The error of a status query is that of its call. -/
theorem Tracker.exists_of_settleQuery_error
    {tracker : Tracker} {alive : Bool} {inventory : InventorySnapshot} {began : Nat}
    {answer : Except String StatusRecord} {cause : SessionError}
    (h : (tracker.settleQuery alive inventory began answer).2 = .error cause) :
    ∃ message, cause = .status message := by
  unfold settleQuery at h
  cases answer with
  | ok record =>
    dsimp only at h
    split at h <;> cases h
  | error message =>
    dsimp only at h
    split at h <;> cases h <;> exact ⟨message, rfl⟩

theorem QueryGoal.not_isLocal_of_settle
    {outcome : Except SessionError VpnSession} {goal : QueryGoal yield}
    (failed : ∀ cause, outcome = .error cause → ∃ message, cause = .status message)
    (h : (goal.settle client outcome).error? = some error) :
    error.isLocal = false := by
  cases outcome with
  | ok session => cases goal <;> cases h
  | error cause =>
    obtain ⟨message, rfl⟩ := failed cause rfl
    cases goal <;> cases h <;> rfl

/-- No answer is an error of a refusal. -/
theorem Resumption.not_isLocal_of_settle {call : Call} {resumption : Resumption call yield}
    (genuine : (Operation.awaiting call resumption).Genuine) {answer : call.Answer}
    (h : (resumption.settle client answer).error? = some error) :
    error.isLocal = false := by
  cases resumption with
  | load goal => exact goal.not_isLocal_of_settle h
  | spawn placeholder reporting => cases answer <;> cases reporting <;> cases h <;> rfl
  | terminate termination reporting => cases answer <;> cases reporting <;> cases h <;> rfl
  | connect target reporting => cases answer <;> cases reporting <;> cases h <;> rfl
  | query began goal =>
    exact goal.not_isLocal_of_settle (fun _ => Tracker.exists_of_settleQuery_error) h
  | disconnect reporting =>
    cases reporting with
    | silent => cases answer <;> cases h; rfl
    | noticed =>
      exact (client.tracker.genuine_settleDisconnect client.alive answer).not_isLocal
        (Client.exists_of_deactivate_error? h)
  | activate generation =>
    change (settleActivate client generation answer).error? = _ at h
    unfold settleActivate at h
    dsimp only at h
    split at h <;> cases h; rfl
  | close feed closing => exact Closing.Genuine.not_isLocal genuine (Client.finishClose_error?.1 h)
  | save credentials => cases answer <;> cases h; rfl

end Answers

namespace ClientRun

variable {settings : Settings} {salt : Nat} {run next : ClientRun} {error : ClientError}

/-- A command or an operation under way ends with an error, or a ticket is refused. -/
inductive Fails (run : ClientRun) (error : ClientError) : ClientRun → Prop
  | start {yield : Yield} (command : Command yield)
      (failed : (command.start run.client).error? = some error) :
      Fails run error (run.follow (command.start run.client))
  | beginSpawn {region : String} (refused : run.client.beginSpawn region = .error error) :
      Fails run error run
  | settle {i : Nat} {yield : Yield} {call : Call} {resumption : Resumption call yield}
      {awaited : Option Nat}
      (answer : call.Answer)
      (found : run.jobs[i]? = some ⟨yield, .awaiting call resumption, awaited⟩)
      (failed : (resumption.settle run.client answer).error? = some error) :
      Fails run error ((run.drop i).follow (resumption.settle run.client answer))
  | settleSweep {i : Nat} {yield : Yield} {sweep : Sweep} {goal : RefreshGoal yield}
      {awaited : Option Nat}
      (found : run.jobs[i]? = some ⟨yield, .sweeping sweep goal, awaited⟩)
      (done : sweep.isDone = true)
      (failed : (run.client.settleSweep sweep goal).error? = some error) :
      Fails run error ((run.drop i).follow (run.client.settleSweep sweep goal))
  | drain {i : Nat} {awaited : Option Nat}
      (found : run.jobs[i]? = some ⟨.unit, .draining, awaited⟩)
      (ended : ∀ start, awaited = some start → run.loops[start]? = some Loops.ended)
      (failed : run.client.drained.error? = some error) :
      Fails run error ((run.drop i).follow run.client.drained)

/-- Every operation under way is genuine. -/
def Genuine (run : ClientRun) : Prop :=
  ∀ job ∈ run.jobs, job.operation.Genuine

theorem Genuine.drop (h : run.Genuine) (i : Nat) : (run.drop i).Genuine :=
  fun job hjob => h job (List.mem_of_mem_eraseIdx hjob)

theorem Genuine.follow (h : run.Genuine) {yield : Yield} {turn : Turn yield}
    (hturn : turn.next.Genuine) :
    (run.follow turn).Genuine := by
  intro job hjob
  rcases run.mem_follow_jobs hjob with hearlier | ⟨operation, awaited, hnext, rfl⟩
  · exact h job hearlier
  · rw [hnext] at hturn
    exact hturn

theorem Genuine.set_sweeping (h : run.Genuine) {i : Nat} {yield : Yield} {sweep : Sweep}
    {goal : RefreshGoal yield} {awaited : Option Nat} :
    Genuine { run with jobs := run.jobs.set i ⟨yield, .sweeping sweep goal, awaited⟩ } := by
  intro job hjob
  rcases List.mem_or_eq_of_mem_set hjob with hearlier | rfl
  · exact h job hearlier
  · trivial

theorem Genuine.step (h : run.Genuine) (step : Step run next) : next.Genuine := by
  cases step with
  | start command => exact h.follow command.start_genuine
  | settle answer found => exact (h.drop _).follow (Resumption.settle_genuine _ answer)
  | settleSweep found done => exact (h.drop _).follow (Client.settleSweep_genuine _ _)
  | drain found ended =>
    exact (h.drop _).follow (Client.deactivate_genuine Closing.genuine_silent)
  | @confirm i placeholder found =>
    have hless : Genuine { run with tickets := run.tickets.eraseIdx i } := h
    refine hless.follow ?_
    trivial
  | askListing found next => exact h.set_sweeping
  | answerListing listing found slotFound asked => exact h.set_sweeping
  | abandon found => exact h.drop _
  | pursue found present step =>
    intro job hjob
    rw [setLoops, take_jobs] at hjob
    exact h job hjob
  | _ => exact h

theorem Reached.genuine (reached : Reached settings salt run) : run.Genuine := by
  induction reached with
  | refl => exact fun job hjob => by cases hjob
  | tail _ step ih => exact ih.step step

/-- A refused command is over at once. -/
theorem follow_of_refused {yield : Yield} {turn : Turn yield}
    (h : turn.Refused run.client error) :
    run.follow turn = run
      ∨ ∃ kind, run.follow turn = { run with client := run.client.postError kind error } := by
  have hover : run.follow turn = { run with client := turn.client } := by
    have hends := h.ends
    unfold follow
    unfold Turn.error? at hends
    split
    · rw [h.effects]
      rfl
    · next operation hnext =>
        rw [hnext] at hends
        cases hends
  rw [hover]
  rcases h.leaves with hsame | ⟨kind, hposted⟩
  · exact Or.inl (by rw [hsame])
  · exact Or.inr ⟨kind, by rw [hposted]⟩

/-- **Refusals.** In every run a command ends at once with an error exactly if its request is
refused, and so does a ticket. Whatever ends with an error of a refusal was refused in that step:
nothing is under way after it that was not before, and the catalog, the inventory, the tracker and
the stream are what they were and were not published again; at most the error was posted. -/
theorem refusals_change_nothing (reached : Reached settings salt run) :
    (∀ (yield : Yield) (command : Command yield) (error : ClientError),
        (command.start run.client).error? = some error
          ↔ ∃ request, command.request? = some request ∧ run.client.Refuses request error)
      ∧ (∀ region error,
        run.client.beginSpawn region = .error error ↔ run.client.Refuses (.spawn region) error)
      ∧ ∀ error next, error.isLocal = true → Fails run error next →
        (∃ request, run.client.Refuses request error)
          ∧ (next = run
            ∨ ∃ kind, next = { run with client := run.client.postError kind error }) := by
  refine ⟨fun _ command _ => command.start_error?_iff,
    fun _ _ => Client.beginSpawn_eq_error_iff, ?_⟩
  intro error next hlocal fails
  -- an operation that was under way does not end with such an error
  have hnever (h : error.isLocal = false) {goal : Prop} : goal := by
    rw [hlocal] at h
    cases h
  cases fails with
  | start command failed =>
    obtain ⟨request, -, hrefused⟩ := command.start_error?_iff.1 failed
    exact ⟨⟨request, hrefused⟩, follow_of_refused (Command.start_refused failed)⟩
  | beginSpawn refused => exact ⟨⟨_, Client.beginSpawn_eq_error_iff.1 refused⟩, Or.inl rfl⟩
  | settle answer found failed =>
    exact hnever (Resumption.not_isLocal_of_settle
      (reached.genuine _ (List.mem_of_getElem? found)) failed)
  | @settleSweep i yield sweep goal awaited found done failed => cases goal <;> cases failed
  | drain found ended failed =>
    obtain ⟨cause, hclosing, -⟩ := Client.exists_of_deactivate_error? failed
    cases hclosing

/-- While one tunnel is being opened and one server created, a client with a loaded catalog refuses
for all six reasons. -/
theorem one_client_refuses_for_six_reasons :
    ∃ run reason,
      Reached Settings.default 0 run
        ∧ run.client.alive = true
        ∧ ∀ error ∈ [
            ClientError.inventory .emptyRegion,
            .inventory (.unknownRegion "mars-1"),
            .inventory (.unknownInstance "i-9"),
            .inventory (.pendingInstance (Placeholder.tempIdOf 0 0)),
            .session (.notConnectable (Placeholder.tempIdOf 0 0) reason),
            .session (.connectInProgress "i-1")],
          ∃ next, Fails run error next
            ∧ (next = run
              ∨ ∃ kind, next = { run with client := run.client.postError kind error }) := by
  have begun : Reached Settings.default 0 _ :=
    (Relation.ReflTransGen.refl.tail (Step.start _ (.openTunnel
      { id := "i-1", name := "vpn", lifecycle := .running, publicV4 := "198.51.100.1",
        publicV6 := none, region := "eu-1" }))).tail
      (Step.start _ .loadCatalog)
  have loaded := begun.tail (@Step.settle _ 1 .regions .listRegions (.load .silent) none
    (.ok [{ name := "eu-1", country := "Germany" }]) rfl)
  have spawning := loaded.tail (@Step.beginSpawn _ "eu-1" _ _ rfl)
  obtain ⟨run, placeholder, target, reached, halive, hready, hcodes, habsent, hpending, hunfit,
      hfit, hunderway⟩ :
      ∃ (run : ClientRun) (placeholder : Placeholder) (target : Instance),
        Reached Settings.default 0 run
        ∧ run.client.alive = true
        ∧ run.client.catalog.value.status = .ready
        ∧ run.client.catalog.codes = ["eu-1"]
        ∧ run.client.inventory.lookup? "i-9" = none
        ∧ run.client.inventory.lookup? (Placeholder.tempIdOf 0 0) = some (.pending placeholder)
        ∧ placeholder.toInstance.ensureConnectable = .error .pending
        ∧ target.ensureConnectable = .ok ()
        ∧ run.client.tracker.value.connecting = some "i-1" :=
    ⟨_,
      { tempId := Placeholder.tempIdOf 0 0, region := "eu-1", name := "VPN Server" },
      { id := "i-1", name := "vpn", lifecycle := .running, publicV4 := "198.51.100.1",
        publicV6 := none, region := "eu-1" },
      spawning, rfl, rfl, rfl, rfl, rfl, rfl, rfl, rfl⟩
  have hmars : Text.trim "mars-1" ∉ run.client.catalog.codes := by
    rw [hcodes]
    decide
  have hrefused {yield : Yield} {error : ClientError} (command : Command yield)
      {request : Request} (hrequest : command.request? = some request)
      (refused : run.client.Refuses request error) :
      ∃ next, Fails run error next
        ∧ (next = run
          ∨ ∃ kind, next = { run with client := run.client.postError kind error }) := by
    have fails := Fails.start command (command.start_error?_iff.2 ⟨request, hrequest, refused⟩)
    exact ⟨_, fails, ((refusals_change_nothing reached).2.2 error _ refused.isLocal fails).2⟩
  have hid : placeholder.tempId = Placeholder.tempIdOf 0 0 := Inventory.id_of_lookup? hpending
  refine ⟨run, (InventoryError.ofNotConnectable placeholder.toInstance .pending).message, reached,
    halive, ?_⟩
  simp only [List.forall_mem_cons]
  rw [← hid] at hpending ⊢
  refine ⟨?_, ?_, ?_, ?_, ?_, ?_, List.forall_mem_nil _⟩
  · exact hrefused (.spawn " ") rfl (.emptyRegion (by decide))
  · exact hrefused (.spawn "mars-1") rfl (.unknownRegion (by decide) hready hmars)
  · exact hrefused (.terminate "i-9") rfl (.unknownTarget habsent)
  · exact hrefused (.terminateServer placeholder.tempId) rfl (.pendingTarget hpending)
  · exact hrefused (.connect placeholder.tempId) rfl (.ofEntry hpending (.notConnectable hunfit))
  · exact hrefused (.openTunnel target) rfl (.connectInProgress hfit hunderway)

end ClientRun
end VpnFleet
