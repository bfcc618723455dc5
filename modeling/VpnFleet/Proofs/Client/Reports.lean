import VpnFleet.Proofs.Client.Meddling
import VpnFleet.Proofs.Client.Rejections

/-!
# Every outcome is reported once

The commands of the whole client tell the user what they come to. Some are made
of others, errors of four parts pass through them, and the parts may fail one
by one, so what is posted is compared with what is returned.

* `ReportedOnce` compares the posts in the account of a command with its value:
  errors with the error of the value, infos with what has succeeded, and the
  warning with the regions that the report names as failed.
* `Fits` says where a command may stand, and what its account holds there.
  Each turn of the command leads from one such place to another, or to a value
  that is reported once (`Stands`). What the others do does not matter, as the
  account is not theirs.
-/

namespace VpnFleet

namespace Post

/-- A failure, by the text of its error. -/
def failure (kind : NoticeKind) (error : ClientError) : Post where
  severity := .error
  kind := kind
  message := error.message

def success (kind : NoticeKind) (message : String) : Post where
  severity := .info
  kind := kind
  message := message

/-- The warning of regions that could not be listed, if there are any. -/
def warnings (regions : List String) : List Post :=
  if regions.isEmpty then []
  else [{
    severity := .warning
    kind := .partialInventory
    message := "Could not list instances in " ++ InventoryError.listed regions }]

end Post

/-- The regions that a report names as failed. -/
def Yield.failedRegions : (yield : Yield) → yield.Value → List String
  | .report, found => found.failedRegions
  | .bootstrap, .ok found => found.failedRegions
  | _, _ => []

/-- The credentials were accepted. -/
def Exchange.accepts : Exchange → Bool
  | ⟨.saveCredentials _, .ok _⟩ => true
  | _ => false

namespace Command

variable {yield : Yield}

/-- The operation that a command is about; an update of the credentials ends with a bootstrap. -/
def kind : Command yield → NoticeKind
  | .bootstrap => .regionLoad
  | .reloadRegions => .regionLoad
  | .loadCatalog => .regionLoad
  | .refresh => .partialInventory
  | .refreshInventory => .partialInventory
  | .spawn _ => .spawn
  | .spawnServer _ => .spawn
  | .terminate _ => .terminate
  | .terminateServer _ => .terminate
  | .connect _ => .connect
  | .openTunnel _ => .connect
  | .queryStatus => .connect
  | .disconnect => .disconnect
  | .closeTunnel => .disconnect
  | .shutdown => .disconnect
  | .saveCredentials _ => .regionLoad
  | .activateStream => .subscription
  | .deactivateStream => .subscription

/-- The operation that has failed. -/
def failedKind (command : Command yield) : ClientError → NoticeKind
  | .catalog _ => .regionLoad
  | .stream _ => .subscription
  | .credentials _ => .credentials
  | .inventory _ => command.kind
  | .session _ => command.kind

/-- What a command announces that has come to its value. -/
def successes : {yield : Yield} → Command yield → yield.Value → List Exchange → List Post
  | _, .spawn _, .ok server, _ =>
    [.success .spawn ("Spawned " ++ server.id ++ " in " ++ server.region)]
  | _, .terminate id, .ok (), _ => [.success .terminate ("Terminated " ++ id)]
  | _, .connect id, .ok _, _ => [.success .connect ("Connected to " ++ id)]
  | _, .disconnect, .ok (), _ => [.success .disconnect "Disconnected"]
  | _, .saveCredentials credentials, _, heard =>
    if heard.any Exchange.accepts then
      [.success .credentials ("Saved " ++ credentials.provider ++ " credentials")]
    else []
  | _, _, _, _ => []

end Command

namespace Account

/-- The posts of one severity. -/
def posts (account : Account) (severity : Severity) : List Post :=
  account.posted.filter fun post => post.severity = severity

/-- Nothing was posted, and no refresh has begun. -/
structure Quiet (account : Account) : Prop where
  posted : account.posted = []
  codes : account.codes = []
  failing : account.failing = []

end Account

/-- What a command has posted is what its value says. -/
structure ReportedOnce {yield : Yield} (command : Command yield) (value : yield.Value)
    (account : Account) : Prop where
  /-- An error is posted once, by its text. -/
  failed : ∀ error, yield.error? value = some error →
    account.posts .error = [.failure (command.failedKind error) error]
  succeeded : yield.error? value = none → account.posts .error = []
  infos : account.posts .info = command.successes value account.heard
  /-- Failed regions are posted once, all of them. -/
  warnings : account.posts .warning = Post.warnings (yield.failedRegions value)
  /-- They are named in the order of the catalog. -/
  ordered : yield.failedRegions value
    = account.codes.filter fun region => region ∈ account.failing

/-- Where a command may stand while it waits, with what its account holds there. -/
inductive Fits : {yield : Yield} → Command yield → Operation yield → Account → Prop
  | loads {account : Account} (quiet : account.Quiet) :
      Fits .bootstrap (.awaiting .listRegions (.load .bootstrap)) account
  | lists {account : Account} {sweep : Sweep} {begun : List Slot} {rest : List String}
      {regions : Nat}
      (posted : account.posted = [])
      (distinct : account.codes.Nodup)
      (listed : account.Lists sweep begun rest) :
      Fits .bootstrap (.sweeping sweep (.bootstrap regions)) account
  | queries {account : Account} {report : RefreshReport} {regions began : Nat}
      (posted : account.posted = Post.warnings report.failedRegions)
      (ordered : report.failedRegions
        = account.codes.filter fun region => region ∈ account.failing) :
      Fits .bootstrap (.awaiting .status (.query began (.bootstrap regions report))) account
  | reloads {account : Account} (quiet : account.Quiet) :
      Fits .reloadRegions (.awaiting .listRegions (.load .noticed)) account
  | refreshes {account : Account} {sweep : Sweep} {begun : List Slot} {rest : List String}
      (posted : account.posted = [])
      (distinct : account.codes.Nodup)
      (listed : account.Lists sweep begun rest) :
      Fits .refresh (.sweeping sweep .noticed) account
  | spawns {account : Account} {region : String} {placeholder : Placeholder}
      (quiet : account.Quiet) :
      Fits (.spawn region) (.awaiting _ (.spawn placeholder .noticed)) account
  | terminates {account : Account} {termination : Termination} (quiet : account.Quiet) :
      Fits (.terminate termination.id) (.awaiting _ (.terminate termination .noticed)) account
  | connects {account : Account} {target : Instance} (quiet : account.Quiet) :
      Fits (.connect target.id) (.awaiting _ (.connect target .noticed)) account
  | looks {account : Account} {id : String} {began : Nat} (quiet : account.Quiet) :
      Fits (.connect id) (.awaiting .status (.query began (.opened id))) account
  | disconnects {account : Account} (quiet : account.Quiet) :
      Fits .disconnect (.awaiting .disconnect (.disconnect .noticed)) account
  | closes {account : Account} {feed : String} {outcome : Except SessionError Unit}
      (quiet : account.Quiet) :
      Fits .disconnect (.awaiting (.unsubscribe feed) (.close feed (.disconnection outcome)))
        account

/-- The command waits where it may, or it has come to a value that is reported once. -/
def Stands {yield : Yield} (command : Command yield) (execution : Execution yield) : Prop :=
  match execution.next with
  | .finished value => ReportedOnce command value execution.account
  | .waiting operation => Fits command operation execution.account

section Values

variable {yield : Yield} {command : Command yield} {value : yield.Value} {account : Account}
  {error : ClientError} {client later : Client}

theorem stands_finished
    (h : ReportedOnce command value
      { account with
        posted := account.posted ++ client.notices.postedSince later.notices }) :
    Stands command (.after account client (Turn.finished later value)) := by
  rw [Execution.after_finished]
  exact h

theorem stands_awaiting {call : Call} {resumption : Resumption call yield}
    (h : Fits command (.awaiting call resumption)
      { account with
        asked := account.asked ++ [call]
        posted := account.posted ++ client.notices.postedSince later.notices }) :
    Stands command (.after account client (Turn.awaiting later call resumption)) := by
  rw [Execution.after_awaiting]
  exact h

/-- A failure that is posted. -/
theorem Account.Quiet.stands_failed (quiet : account.Quiet)
    (posted : later.notices
      = client.notices.post .error (command.failedKind error) error.message)
    (fails : yield.error? value = some error)
    (unlisted : yield.failedRegions value = [])
    (unannounced : command.successes value account.heard = []) :
    Stands command (.after account client (Turn.finished later value)) := by
  refine stands_finished ?_
  have hposted : client.notices.postedSince later.notices
      = [.failure (command.failedKind error) error] := by
    rw [posted, NoticeBoard.postedSince_post]
    rfl
  rw [hposted, quiet.posted]
  constructor
  case failed =>
    intro other hother
    obtain rfl := Option.some.inj (fails.symm.trans hother)
    simp [Account.posts, Post.failure]
  case succeeded => simp [fails]
  case infos =>
    rw [unannounced]
    simp [Account.posts, Post.failure]
  case warnings =>
    rw [unlisted]
    simp [Account.posts, Post.failure, Post.warnings]
  case ordered =>
    rw [unlisted]
    simp [quiet.codes]

/-- A success that is announced, or need not be. -/
theorem Account.Quiet.stands_succeeded (quiet : account.Quiet)
    (posted : client.notices.postedSince later.notices = command.successes value account.heard)
    (announced : ∀ post ∈ command.successes value account.heard, post.severity = .info)
    (succeeds : yield.error? value = none)
    (unlisted : yield.failedRegions value = []) :
    Stands command (.after account client (Turn.finished later value)) := by
  refine stands_finished ?_
  have hposts (severity : Severity) :
      ((account.posted ++ client.notices.postedSince later.notices).filter
          fun post => post.severity = severity)
        = (command.successes value account.heard).filter
          fun post => Severity.info = severity := by
    rw [quiet.posted, posted, List.nil_append]
    refine List.filter_congr fun post hpost => ?_
    rw [announced post hpost]
  constructor
  case failed => simp [succeeds]
  case succeeded =>
    intro _
    exact (hposts .error).trans (by simp)
  case infos => exact (hposts .info).trans (by simp)
  case warnings =>
    rw [unlisted]
    exact (hposts .warning).trans (by simp [Post.warnings])
  case ordered =>
    rw [unlisted]
    simp [quiet.codes]

/-- A success that is announced by one notice. -/
theorem Account.Quiet.stands_announced (quiet : account.Quiet) {kind : NoticeKind}
    {message : String} (posted : later.notices = client.notices.post .info kind message)
    (announces : command.successes value account.heard = [.success kind message])
    (succeeds : yield.error? value = none) (unlisted : yield.failedRegions value = []) :
    Stands command (.after account client (Turn.finished later value)) := by
  refine quiet.stands_succeeded ?_ ?_ succeeds unlisted
  · rw [posted, announces, NoticeBoard.postedSince_post]
    rfl
  · rw [announces]
    simp [Post.success]

theorem Post.filter_warnings (regions : List String) (severity : Severity) :
    (warnings regions).filter (fun post => post.severity = severity)
      = if severity = .warning then warnings regions else [] := by
  unfold warnings
  cases severity <;> cases regions.isEmpty <;> simp

/-- A refresh that has warned of the regions that failed. -/
theorem stands_warned
    (posted : account.posted ++ client.notices.postedSince later.notices
      = Post.warnings (yield.failedRegions value))
    (ordered : yield.failedRegions value
      = account.codes.filter fun region => region ∈ account.failing)
    (succeeds : yield.error? value = none)
    (unannounced : command.successes value account.heard = []) :
    Stands command (.after account client (Turn.finished later value)) := by
  refine stands_finished ?_
  rw [posted]
  constructor
  case failed => simp [succeeds]
  case succeeded =>
    intro _
    exact Post.filter_warnings _ .error
  case infos =>
    rw [unannounced]
    exact Post.filter_warnings _ .info
  case warnings => exact Post.filter_warnings _ .warning
  case ordered => exact ordered

end Values

section Quiet

variable {account : Account} {client later : Client}

theorem Account.quiet_empty : Account.empty.Quiet where
  posted := rfl
  codes := rfl
  failing := rfl

theorem Account.Quiet.hear (quiet : account.Quiet) {exchange : Exchange}
    (unfailed : exchange.failedRegion? = none) : (account.hear exchange).Quiet where
  posted := quiet.posted
  codes := quiet.codes
  failing := by simp [failing_hear, quiet.failing, unfailed]

theorem Account.Quiet.ask (quiet : account.Quiet) (asked : List Call)
    (same : later.notices = client.notices) :
    Quiet { account with
      asked
      posted := account.posted ++ client.notices.postedSince later.notices } where
  posted := by simp [same, quiet.posted]
  codes := quiet.codes
  failing := quiet.failing

end Quiet

/-- The command that stores credentials. -/
def Command.savesCredentials {yield : Yield} : Command yield → Bool
  | .saveCredentials _ => true
  | _ => false

section Begin

variable (client : Client)

theorem beginSpawn_notices {region : String} {later : Client} {placeholder : Placeholder}
    (h : client.beginSpawn region = .ok (later, placeholder)) :
    later.notices = client.notices := by
  unfold Client.beginSpawn at h
  split at h
  · cases h
    rfl
  · cases h

theorem exists_inventory_of_beginSpawn {region : String} {error : ClientError}
    (h : client.beginSpawn region = .error error) : ∃ reason, error = .inventory reason := by
  unfold Client.beginSpawn at h
  split at h
  · cases h
  · next reason _ =>
    cases h
    exact ⟨reason, rfl⟩

theorem stands_spawn (region : String) :
    Stands (.spawn region) (.begin client (.spawn region)) := by
  show Stands _ (.after .empty client (client.spawn region .noticed))
  unfold Client.spawn
  split
  · next later placeholder _ hbegun =>
    exact stands_awaiting (.spawns (Account.quiet_empty.ask _ (beginSpawn_notices client hbegun)))
  · next h => cases h
  · next error hrefused _ =>
    obtain ⟨reason, rfl⟩ := exists_inventory_of_beginSpawn client hrefused
    exact Account.quiet_empty.stands_failed rfl rfl rfl rfl

theorem stands_terminate (id : String) :
    Stands (.terminate id) (.begin client (.terminate id)) := by
  show Stands _ (.after .empty client (client.terminate id .noticed))
  unfold Client.terminate
  split
  · next termination hbegun =>
    obtain ⟨_, _, -, -, hcall, -⟩ := Inventory.beginTerminate_eq_ok hbegun
    have hid : termination.id = id := congrArg Termination.id hcall
    subst hid
    exact stands_awaiting (.terminates (Account.quiet_empty.ask _ rfl))
  · next h => cases h
  · exact Account.quiet_empty.stands_failed rfl rfl rfl rfl

theorem stands_openTunnel (target : Instance) :
    Stands (.connect target.id) (.after .empty client (client.openTunnel target .noticed)) := by
  unfold Client.openTunnel
  split
  · exact stands_awaiting (.connects (Account.quiet_empty.ask _ rfl))
  · next h => cases h
  · exact Account.quiet_empty.stands_failed rfl rfl rfl rfl

theorem stands_connect (id : String) : Stands (.connect id) (.begin client (.connect id)) := by
  show Stands _ (.after .empty client (client.connect id))
  unfold Client.connect
  split
  · next target htarget =>
    have hid : target.id = id := by
      simpa using List.find?_some htarget
    subst hid
    exact stands_openTunnel client target
  · exact Account.quiet_empty.stands_failed rfl rfl rfl rfl

/-- The command has begun. -/
theorem stands_begin {yield : Yield} (consistent : client.catalog.Consistent)
    {command : Command yield} (needs : command.needsClient = true)
    (lives : command.tearsDown = false) (saves : command.savesCredentials = false) :
    Stands command (.begin client command) := by
  cases command with
  | bootstrap =>
    exact stands_awaiting (.loads (Account.quiet_empty.ask _ rfl))
  | reloadRegions => exact stands_awaiting (.reloads (Account.quiet_empty.ask _ rfl))
  | refresh =>
    show Stands _ (.after .empty client (client.refresh .noticed))
    rw [Execution.after_refresh]
    exact .refreshes (by simp [Account.empty]) consistent.distinct (Account.lists_ofRegions rfl _)
  | spawn region => exact stands_spawn client region
  | terminate id => exact stands_terminate client id
  | connect id => exact stands_connect client id
  | disconnect => exact stands_awaiting (.disconnects (Account.quiet_empty.ask _ rfl))
  | saveCredentials credentials => cases saves
  | shutdown => cases lives
  | _ => cases needs

end Begin

section Turns

variable {yield : Yield} {command : Command yield} {account : Account} {client later : Client}

/-- The tunnel is open, and its status is known or could not be queried. -/
theorem stands_opened (quiet : account.Quiet) (same : later.notices = client.notices)
    (id : String) (outcome : Except SessionError VpnSession) :
    Stands (.connect id) (.after account client ((QueryGoal.opened id).settle later outcome)) := by
  cases outcome with
  | ok session =>
    exact quiet.stands_announced
      (congrArg (·.post .info .connect ("Connected to " ++ id)) same) rfl rfl rfl
  | error error =>
    exact quiet.stands_failed (congrArg (·.post .error .connect error.message) same) rfl rfl rfl

/-- A disconnection is over, with the outcome of its call. -/
theorem stands_finishDisconnect (quiet : account.Quiet) (same : later.notices = client.notices)
    (outcome : Except SessionError Unit) :
    Stands .disconnect (.after account client (later.finishDisconnect outcome)) := by
  cases outcome with
  | ok reply =>
    exact quiet.stands_announced
      (congrArg (·.post .info .disconnect "Disconnected") same) rfl rfl rfl
  | error error =>
    exact quiet.stands_failed (congrArg (·.post .error .disconnect error.message) same) rfl rfl rfl

/-- The tunnel is closed, and the traffic stream ends. -/
theorem stands_deactivate (quiet : account.Quiet) (same : later.notices = client.notices)
    (outcome : Except SessionError Unit) :
    Stands .disconnect (.after account client (later.deactivate (.disconnection outcome))) := by
  unfold Client.deactivate
  split
  · next stream active hactive =>
    exact stands_awaiting (.closes (quiet.ask _ same))
  · next stream hinactive =>
    let inactive : Client := { later with stream }
    have hsame : inactive.notices = client.notices := same
    exact stands_finishDisconnect quiet hsame outcome

theorem Fits.settle {call : Call} {resumption : Resumption call yield}
    (consistent : client.catalog.Consistent)
    (h : Fits command (.awaiting call resumption) account) (answer : call.Answer) :
    Stands command (.after (account.hear ⟨call, answer⟩) client
      (resumption.settle client answer)) := by
  cases h with
  | loads quiet =>
    have hquiet : (account.hear ⟨.listRegions, answer⟩).Quiet := quiet.hear rfl
    cases answer with
    | ok records =>
      let loaded : Client :=
        { client with catalog := (client.catalog.settleLoad client.alive (.ok records)).1 }
      have hloaded : loaded.catalog.Consistent := consistent.settleLoad client.alive (.ok records)
      show Stands _ (.after _ client
        (loaded.refresh (.bootstrap (Catalog.regionsOf records).length)))
      rw [Execution.after_refresh]
      refine .lists ?_ hloaded.distinct (Account.lists_ofRegions ?_ _)
      · simp [hquiet.posted, loaded]
      · exact hquiet.failing
    | error message => exact hquiet.stands_failed rfl rfl rfl rfl
  | reloads quiet =>
    have hquiet : (account.hear ⟨.listRegions, answer⟩).Quiet := quiet.hear rfl
    cases answer with
    | ok records =>
      exact hquiet.stands_succeeded (NoticeBoard.postedSince_self _) nofun rfl rfl
    | error message => exact hquiet.stands_failed rfl rfl rfl rfl
  | @queries _ report regions began posted ordered =>
    have hposted : account.posted ++ client.notices.postedSince client.notices
        = Post.warnings report.failedRegions := by
      simp [posted]
    have hfailing : (account.hear ⟨.status, answer⟩).failing = account.failing := by
      simp [Account.failing_hear, Exchange.failedRegion?]
    rw [← hfailing] at ordered
    exact stands_warned hposted ordered rfl rfl
  | @spawns _ region placeholder quiet =>
    have hquiet : (account.hear ⟨.spawn placeholder.region, answer⟩).Quiet := quiet.hear rfl
    cases answer with
    | ok record => exact hquiet.stands_announced rfl rfl rfl rfl
    | error message => exact hquiet.stands_failed rfl rfl rfl rfl
  | @terminates _ termination quiet =>
    have hquiet : (account.hear ⟨.terminate termination.id termination.region, answer⟩).Quiet :=
      quiet.hear rfl
    cases answer with
    | ok reply => exact hquiet.stands_announced rfl rfl rfl rfl
    | error message => exact hquiet.stands_failed rfl rfl rfl rfl
  | @connects _ target quiet =>
    have hquiet : (account.hear ⟨.connect target.id target.region, answer⟩).Quiet :=
      quiet.hear rfl
    cases answer with
    | ok reply => exact stands_awaiting (.looks (hquiet.ask _ rfl))
    | error message => exact hquiet.stands_failed rfl rfl rfl rfl
  | @looks _ id began quiet =>
    have hquiet : (account.hear ⟨.status, answer⟩).Quiet := quiet.hear rfl
    exact stands_opened hquiet rfl id _
  | disconnects quiet =>
    have hquiet : (account.hear ⟨.disconnect, answer⟩).Quiet := quiet.hear rfl
    exact stands_deactivate hquiet rfl _
  | @closes _ feed outcome quiet =>
    have hquiet : (account.hear ⟨.unsubscribe feed, answer⟩).Quiet := quiet.hear rfl
    exact stands_finishDisconnect hquiet rfl outcome

theorem postedSince_postFailures (client : Client) (report : RefreshReport) :
    client.notices.postedSince (client.postFailures report).notices
      = Post.warnings report.failedRegions := by
  unfold Client.postFailures Post.warnings RefreshReport.isComplete RefreshReport.failedRegions
  rw [List.isEmpty_map]
  cases report.failures.isEmpty <;> simp

/-- The listings are in: what failed is posted before anything else. -/
theorem Fits.settleSweep {sweep : Sweep} {goal : RefreshGoal yield}
    (h : Fits command (.sweeping sweep goal) account) (done : sweep.isDone = true) :
    Stands command (.after account client (client.settleSweep sweep goal)) := by
  let report := sweep.report client.options.defaultName
  have hwarned (posted : account.posted = []) (settled : Client)
      (same : settled.notices = client.notices) :
      account.posted ++ client.notices.postedSince (settled.postFailures report).notices
        = Post.warnings report.failedRegions := by
    rw [posted, List.nil_append, ← same]
    exact postedSince_postFailures settled report
  cases h with
  | lists posted distinct listed =>
    have hordered := listed.failedRegions_eq done distinct client.options.defaultName
    exact stands_awaiting (.queries (hwarned posted _ rfl) hordered)
  | refreshes posted distinct listed =>
    have hordered := listed.failedRegions_eq done distinct client.options.defaultName
    exact stands_warned (hwarned posted _ rfl) hordered rfl rfl

theorem Fits.ask {sweep : Sweep} {goal : RefreshGoal yield} {slot : Nat} {region : String}
    (h : Fits command (.sweeping sweep goal) account) (next : sweep.next? = some (slot, region))
    (asked : List Call) :
    Fits command (.sweeping (sweep.ask slot) goal) { account with asked } := by
  cases h with
  | lists posted distinct listed =>
    obtain ⟨later, -, hlater⟩ := listed.ask next asked
    exact .lists posted distinct hlater
  | refreshes posted distinct listed =>
    obtain ⟨later, -, hlater⟩ := listed.ask next asked
    exact .refreshes posted distinct hlater

theorem Fits.answer {sweep : Sweep} {goal : RefreshGoal yield} {i : Nat} {slot : Slot}
    (h : Fits command (.sweeping sweep goal) account)
    (found : sweep.slots[i]? = some slot) (asked : slot.isAsked = true) (listing : Listing) :
    Fits command (.sweeping (sweep.answer i listing) goal)
      (account.hear ⟨.listInstances slot.region, listing⟩) := by
  cases h with
  | lists posted distinct listed => exact .lists posted distinct (listed.answer found asked listing)
  | refreshes posted distinct listed =>
    exact .refreshes posted distinct (listed.answer found asked listing)

theorem Fits.not_draining {command : Command .unit} : ¬ Fits command .draining account :=
  nofun

end Turns

section Paths

variable {yield : Yield} {command : Command yield} {execution next : Execution yield}

theorem Stands.reportedOnce {value : yield.Value} (h : Stands command execution)
    (ended : execution.next = .finished value) : ReportedOnce command value execution.account := by
  unfold Stands at h
  rwa [ended] at h

theorem Stands.fits {operation : Operation yield} (h : Stands command execution)
    (waits : execution.next = .waiting operation) : Fits command operation execution.account := by
  unfold Stands at h
  rwa [waits] at h

/-- A turn of the command, or a step of somebody else. -/
theorem Stands.step {others : Client → Client → Prop} (h : Stands command execution)
    (consistent : execution.client.catalog.Consistent)
    (step : Execution.Step others execution next) : Stands command next := by
  cases step with
  | settle _ answer waits => exact (h.fits waits).settle consistent answer
  | askListing _ waits next => exact (h.fits waits).ask next _
  | answerListing _ listing waits slotFound asked =>
    exact (h.fits waits).answer slotFound asked listing
  | settleSweep _ waits done => exact (h.fits waits).settleSweep done
  | drain _ waits => exact absurd (h.fits waits) Fits.not_draining
  | elsewhere _ meddles => exact h

theorem stands_of_path {client : Client} (consistent : client.catalog.Consistent)
    (needs : command.needsClient = true) (lives : command.tearsDown = false)
    (saves : command.savesCredentials = false)
    (path : Relation.ReflTransGen (Execution.Step ClientRun.Meddles) (.begin client command)
      execution) :
    execution.client.catalog.Consistent ∧ Stands command execution := by
  induction path with
  | refl =>
    exact ⟨Execution.begin_consistent consistent command,
      stands_begin client consistent needs lives saves⟩
  | tail _ step ih => exact ⟨step.consistent ih.1, ih.2.step ih.1 step⟩

end Paths

section Credentials

variable {credentials : Credentials} {account : Account}

theorem reportedOnce_refused (credentials : Credentials) (message : String) :
    ReportedOnce (.saveCredentials credentials) (.error (.credentials message))
      (.refused credentials message) where
  failed := by
    rintro error ⟨⟩
    rfl
  succeeded := nofun
  infos := rfl
  warnings := rfl
  ordered := rfl

/-- What a bootstrap has posted stands behind the announcement of the credentials. -/
theorem ReportedOnce.behind_accepted {value : Yield.bootstrap.Value}
    (h : ReportedOnce .bootstrap value account) (credentials : Credentials) :
    ReportedOnce (.saveCredentials credentials) value
      ((Account.accepted credentials).behind account) where
  failed := h.failed
  succeeded := h.succeeded
  infos := by
    have hnone : account.posts .info = [] := h.infos
    show _ :: account.posts .info = _
    rw [hnone]
    rfl
  warnings := h.warnings
  ordered := h.ordered

theorem reportedOnce_of_updates {client : Client} {execution : Execution .bootstrap}
    {value : Yield.bootstrap.Value} (consistent : client.catalog.Consistent)
    (updates : Execution.Updates ClientRun.Meddles client credentials execution)
    (ended : execution.next = .finished value) :
    ReportedOnce (.saveCredentials credentials) value execution.account := by
  cases updates with
  | waits moved => cases ended
  | refused message moved movedOn =>
    cases ended
    exact reportedOnce_refused credentials message
  | @accepted present boot moved path =>
    have hpresent : present.catalog.Consistent := ClientRun.consistent_of_meddling moved consistent
    -- a notice leaves the catalog alone
    have hannounced : (present.announced credentials).catalog.Consistent := hpresent
    have hstands := (stands_of_path hannounced rfl rfl rfl path).2
    exact (hstands.reportedOnce ended).behind_accepted credentials

end Credentials

namespace ClientRun

variable {settings : Settings} {salt : Nat} {before : ClientRun} {yield : Yield}
  {command : Command yield} {execution : Execution yield} {value : yield.Value}

/-- **Every outcome is reported once.** From any state that a run comes to, whatever the others do
to the client in between, and whatever the backend answers: a command of the whole client that has
come to its value has posted what its value says. A failure is one error, by its text, and a success
is none; what was spawned, terminated, connected, disconnected or saved is announced once; and the
regions that a refresh could not list are named by one warning, in the order of the catalog, if
there are any. -/
theorem outcome_is_reported_once (reached : Reached settings salt before)
    (needs : command.needsClient = true) (lives : command.tearsDown = false)
    (path : Relation.ReflTransGen (Execution.Step Meddles) (.begin before.client command) execution)
    (ended : execution.next = .finished value) :
    ReportedOnce command value execution.account := by
  have hconsistent := reached.consistent
  by_cases saves : command.savesCredentials = false
  · have hstands := (stands_of_path hconsistent needs lives saves path).2
    exact hstands.reportedOnce ended
  · cases command with
    | saveCredentials credentials =>
      exact reportedOnce_of_updates hconsistent (Execution.updates_of_path path) ended
    | _ => exact absurd rfl saves

/-- Credentials are saved, one of two regions cannot be listed, the status cannot be queried, and
somebody else posts an error in between. -/
theorem saved_credentials_with_an_unlisted_region :
    ∃ (execution : Execution .bootstrap) (report : BootstrapReport),
      execution.next = .finished (.ok report)
        ∧ report.failedRegions = ["us-1"]
        ∧ ReportedOnce (.saveCredentials ⟨"aws", "key", "secret"⟩) (.ok report)
          execution.account
        ∧ execution.account.posted = [
          .success .credentials "Saved aws credentials",
          ⟨.warning, .partialInventory, "Could not list instances in us-1"⟩]
        ∧ execution.client.notices.active.map Notice.toPost = [
          .success .credentials "Saved aws credentials",
          ⟨.error, .spawn, "not ours"⟩,
          ⟨.warning, .partialInventory, "Could not list instances in us-1"⟩] := by
  let credentials : Credentials := ⟨"aws", "key", "secret"⟩
  let before := new Settings.default 0
  have meddles (client : Client) : Meddles client (client.post .error .spawn "not ours") :=
    ⟨{ before with client }, _, .post _ .error .spawn "not ours", rfl, rfl⟩
  have saved := Relation.ReflTransGen.refl.tail
    (@Execution.Step.settle Meddles _ (.begin before.client (.saveCredentials credentials))
      (.saveCredentials credentials) (.save credentials) (.ok ()) rfl)
  have loaded := (saved.tail (.elsewhere _ (meddles _))).tail
    (@Execution.Step.settle Meddles _ _ .listRegions (.load .bootstrap)
      (.ok [⟨"eu-1", "Germany"⟩, ⟨"us-1", "USA"⟩]) rfl)
  have asked := (loaded.tail (@Execution.Step.askListing Meddles _ _ _ _ 0 "eu-1" rfl rfl)).tail
    (@Execution.Step.askListing Meddles _ _ _ _ 1 "us-1" rfl rfl)
  have answered := (asked.tail
    (@Execution.Step.answerListing Meddles _ _ _ _ 1 _ (.error "down") rfl rfl rfl)).tail
    (@Execution.Step.answerListing Meddles _ _ _ _ 0 _ (.ok []) rfl rfl rfl)
  have path := (answered.tail (@Execution.Step.settleSweep Meddles _ _ _ _ rfl rfl)).tail
    (@Execution.Step.settle Meddles _ _ .status (.query 0 (.bootstrap 2 _))
      (.error "no answer") rfl)
  obtain ⟨execution, report, hpath, ended, hfailed, hposted, hboard⟩ :
      ∃ (execution : Execution .bootstrap) (report : BootstrapReport),
        Relation.ReflTransGen (Execution.Step Meddles)
            (.begin before.client (.saveCredentials credentials)) execution
          ∧ execution.next = .finished (.ok report)
          ∧ report.failedRegions = ["us-1"]
          ∧ execution.account.posted = [
            .success .credentials "Saved aws credentials",
            ⟨.warning, .partialInventory, "Could not list instances in us-1"⟩]
          ∧ execution.client.notices.active.map Notice.toPost = [
            .success .credentials "Saved aws credentials",
            ⟨.error, .spawn, "not ours"⟩,
            ⟨.warning, .partialInventory, "Could not list instances in us-1"⟩] :=
    ⟨_, _, path, rfl, rfl, rfl, rfl⟩
  have reached : Reached Settings.default 0 before := .refl
  have hreported := outcome_is_reported_once reached rfl rfl hpath ended
  exact ⟨execution, report, ended, hfailed, hreported, hposted, hboard⟩

end ClientRun
end VpnFleet
