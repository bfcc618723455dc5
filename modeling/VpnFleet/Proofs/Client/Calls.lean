import VpnFleet.Proofs.Client.Placeholders
import VpnFleet.Proofs.Client.Underway

/-!
# Calls that change something

Three calls change what runs at the backend: a spawn, a termination, and the
opening of a tunnel. Each belongs to the beginning of its command. What is left
of an operation after an answer goes on with other calls only, and so do the
sweeps and the background loops.

* `Command.mutates` and `Next.mutates` mark the commands and the calls that
  change something.
* `ClientRun.Issues` says that a step asks the backend. A tunnel can be opened
  by hand to a server that is not in the inventory, so this one way is left out;
  `Step.mem_jobs` says that no other is.
* `ClientRun.Names` says what such a call names: a termination or an opening
  the confirmed entry with its identifier, a spawn its placeholder.
-/

namespace VpnFleet

/-- The call changes what runs at the backend. -/
def Call.mutates : Call → Bool
  | .spawn _ => true
  | .terminate _ _ => true
  | .connect _ _ => true
  | _ => false

/-- What is left goes on with a call that changes something. -/
def Next.mutates {yield : Yield} : Next yield → Bool
  | .waiting (.awaiting call _) => call.mutates
  | _ => false

/-- The command may begin with a call that changes something. -/
def Command.mutates {yield : Yield} : Command yield → Bool
  | .spawn _ => true
  | .spawnServer _ => true
  | .terminate _ => true
  | .terminateServer _ => true
  | .connect _ => true
  | .openTunnel _ => true
  | _ => false

/-- The command opens a tunnel to a server that it is given whole. -/
def Command.opensByHand {yield : Yield} : Command yield → Bool
  | .openTunnel _ => true
  | _ => false

namespace Client

variable {yield : Yield} (client : Client)

theorem finishClose_mutates (closing : Closing) :
    (client.finishClose closing).next.mutates = false := by
  cases closing with
  | silent => rfl
  | disconnection outcome => cases outcome <;> rfl

theorem deactivate_mutates (closing : Closing) :
    (client.deactivate closing).next.mutates = false := by
  unfold deactivate
  split
  · rfl
  · exact finishClose_mutates _ closing

theorem activate_mutates : client.activate.next.mutates = false := by
  unfold activate
  split <;> rfl

theorem settleSweep_mutates (sweep : Sweep) (goal : RefreshGoal yield) :
    (client.settleSweep sweep goal).next.mutates = false := by
  cases goal <;> rfl

end Client

theorem Command.start_mutates
    {yield : Yield} (client : Client) (command : Command yield)
    (hmutates : command.mutates = false) :
    (command.start client).next.mutates = false := by
  cases command with
  | activateStream => exact client.activate_mutates
  | deactivateStream => exact client.deactivate_mutates .silent
  | spawn region => cases hmutates
  | spawnServer region => cases hmutates
  | terminate id => cases hmutates
  | terminateServer id => cases hmutates
  | connect id => cases hmutates
  | openTunnel target => cases hmutates
  | _ => rfl

theorem LoadGoal.settle_mutates
    {yield : Yield} (client : Client) (outcome : Except CatalogError (List Region))
    (goal : LoadGoal yield) :
    (goal.settle client outcome).next.mutates = false := by
  cases goal <;> cases outcome <;> rfl

theorem QueryGoal.settle_mutates
    {yield : Yield} (client : Client) (outcome : Except SessionError VpnSession)
    (goal : QueryGoal yield) :
    (goal.settle client outcome).next.mutates = false := by
  cases goal <;> cases outcome <;> rfl

/-- No answer leads to a call that changes something. -/
theorem Resumption.settle_mutates
    {call : Call} {yield : Yield} (client : Client) (resumption : Resumption call yield)
    (answer : call.Answer) :
    (resumption.settle client answer).next.mutates = false := by
  cases resumption with
  | load goal => exact goal.settle_mutates _ _
  | spawn placeholder reporting => cases answer <;> cases reporting <;> rfl
  | terminate termination reporting => cases answer <;> cases reporting <;> rfl
  | connect target reporting => cases answer <;> cases reporting <;> rfl
  | query began goal => exact goal.settle_mutates _ _
  | disconnect reporting =>
    cases reporting with
    | silent => rfl
    | noticed => exact Client.deactivate_mutates _ _
  | activate generation =>
    show (settleActivate client generation answer).next.mutates = false
    unfold settleActivate
    dsimp only
    split <;> rfl
  | close feed closing => exact client.finishClose_mutates closing
  | save credentials => cases answer <;> rfl

/-- A follower asks for a feed or gives one back. -/
def Follower.call? (follower : Follower) : Option Call :=
  match follower.stage with
  | .subscribing _ => some .subscribe
  | .closing feed _ => some (.unsubscribe feed)
  | _ => none

namespace ClientRun

/-- The step asks the backend, not to open a tunnel by hand. -/
inductive Issues (run : ClientRun) : Call → ClientRun → Prop
  | start {yield : Yield} {call : Call} {resumption : Resumption call yield}
      (command : Command yield)
      (byName : command.opensByHand = false)
      (asked : (command.start run.client).next = .waiting (.awaiting call resumption)) :
      Issues run call (run.follow (command.start run.client))
  | settle {i : Nat} {yield : Yield} {answered call : Call}
      {resumption : Resumption answered yield} {further : Resumption call yield}
      {awaited : Option Nat}
      (answer : answered.Answer)
      (found : run.jobs[i]? = some ⟨yield, .awaiting answered resumption, awaited⟩)
      (asked : (resumption.settle run.client answer).next = .waiting (.awaiting call further)) :
      Issues run call ((run.drop i).follow (resumption.settle run.client answer))
  | settleSweep {i : Nat} {yield : Yield} {sweep : Sweep} {goal : RefreshGoal yield} {call : Call}
      {further : Resumption call yield} {awaited : Option Nat}
      (found : run.jobs[i]? = some ⟨yield, .sweeping sweep goal, awaited⟩)
      (done : sweep.isDone = true)
      (asked : (run.client.settleSweep sweep goal).next = .waiting (.awaiting call further)) :
      Issues run call ((run.drop i).follow (run.client.settleSweep sweep goal))
  | drain {i : Nat} {call : Call} {further : Resumption call .unit} {awaited : Option Nat}
      (found : run.jobs[i]? = some ⟨.unit, .draining, awaited⟩)
      (ended : ∀ start, awaited = some start → run.loops[start]? = some Loops.ended)
      (asked : run.client.drained.next = .waiting (.awaiting call further)) :
      Issues run call ((run.drop i).follow run.client.drained)
  | confirm {i : Nat} {placeholder : Placeholder}
      (found : run.tickets[i]? = some placeholder) :
      Issues run (.spawn placeholder.region)
        ({ run with tickets := run.tickets.eraseIdx i }.follow
          (run.client.confirm placeholder .silent))
  | askListing {i slot : Nat} {yield : Yield} {sweep : Sweep} {goal : RefreshGoal yield}
      {awaited : Option Nat} {region : String}
      (found : run.jobs[i]? = some ⟨yield, .sweeping sweep goal, awaited⟩)
      (next : sweep.next? = some (slot, region)) :
      Issues run (.listInstances region)
        { run with jobs := run.jobs.set i ⟨yield, .sweeping (sweep.ask slot) goal, awaited⟩ }
  | poll {start began : Nat} {loops : Loops} {poller next : Poller} {client : Client}
      (found : run.loops[start]? = some loops)
      (present : loops.poller = some poller)
      (step : Poller.Step run.client poller client next)
      (asked : next.stage = .querying began) :
      Issues run .status ({ run with client }.setLoops start { loops with poller := some next })
  | pursue {start : Nat} {loops : Loops} {follower : Follower} {turn : FollowerTurn} {call : Call}
      (found : run.loops[start]? = some loops)
      (present : loops.follower = some follower)
      (step : follower.Step run.client turn)
      (asked : turn.follower.call? = some call) :
      Issues run call ((run.take turn.client turn.effects).setLoops start
        { loops with follower := some turn.follower })

variable {run next : ClientRun} {call : Call}

theorem Issues.step (issues : Issues run call next) : Step run next := by
  cases issues with
  | start command byName asked => exact .start run command
  | settle answer found asked => exact .settle run answer found
  | settleSweep found done asked => exact .settleSweep run found done
  | drain found ended asked => exact .drain run found ended
  | confirm found => exact .confirm run found
  | askListing found next => exact .askListing run found next
  | poll found present step asked => exact .poll run found present step
  | pursue found present step asked => exact .pursue run found present step

/-- An operation that waits for an answer after a step did so before, or the step asked, or it
opened a tunnel by hand. -/
theorem Step.mem_jobs
    (step : Step run next) {yield : Yield} {resumption : Resumption call yield}
    {awaited : Option Nat} (hjob : ⟨yield, .awaiting call resumption, awaited⟩ ∈ next.jobs) :
    ⟨yield, .awaiting call resumption, awaited⟩ ∈ run.jobs
      ∨ Issues run call next
      ∨ ∃ target, next = run.follow ((Command.openTunnel target).start run.client) := by
  cases step with
  | start command =>
    rcases run.mem_follow_jobs hjob with hearlier | ⟨operation, _, hnext, hsame⟩
    · exact Or.inl hearlier
    · cases hsame
      by_cases hopens : command.opensByHand = false
      · exact Or.inr (Or.inl (.start command hopens hnext))
      · cases command with
        | openTunnel target => exact Or.inr (Or.inr ⟨target, rfl⟩)
        | _ => exact absurd rfl hopens
  | @settle i other answered earlier _ answer found =>
    rcases (run.drop i).mem_follow_jobs hjob with hearlier | ⟨operation, _, hnext, hsame⟩
    · exact Or.inl (List.mem_of_mem_eraseIdx hearlier)
    · cases hsame
      exact Or.inr (Or.inl (.settle answer found hnext))
  | @settleSweep i other sweep goal _ found done =>
    rcases (run.drop i).mem_follow_jobs hjob with hearlier | ⟨operation, _, hnext, hsame⟩
    · exact Or.inl (List.mem_of_mem_eraseIdx hearlier)
    · cases hsame
      exact Or.inr (Or.inl (.settleSweep found done hnext))
  | @drain i _ found ended =>
    rcases (run.drop i).mem_follow_jobs hjob with hearlier | ⟨operation, _, hnext, hsame⟩
    · exact Or.inl (List.mem_of_mem_eraseIdx hearlier)
    · cases hsame
      exact Or.inr (Or.inl (.drain found ended hnext))
  | @confirm i placeholder found =>
    rcases mem_follow_jobs _ hjob with hearlier | ⟨operation, _, hnext, hsame⟩
    · exact Or.inl hearlier
    · cases hsame
      cases hnext
      exact Or.inr (Or.inl (.confirm found))
  | askListing found next =>
    rcases List.mem_or_eq_of_mem_set hjob with hearlier | hsame
    · exact Or.inl hearlier
    · cases hsame
  | answerListing listing found slotFound asked =>
    rcases List.mem_or_eq_of_mem_set hjob with hearlier | hsame
    · exact Or.inl hearlier
    · cases hsame
  | abandon found => exact Or.inl (List.mem_of_mem_eraseIdx hjob)
  | pursue found present step =>
    rw [setLoops, take_jobs] at hjob
    exact Or.inl hjob
  | _ => exact Or.inl hjob

end ClientRun

/-- A placeholder that a spawn put up is no end of a tunnel. -/
theorem Placeholder.Issued.not_connectable {placeholder : Placeholder} (h : placeholder.Issued) :
    placeholder.toInstance.ensureConnectable ≠ .ok () := by
  have hplaceholder : placeholder.toInstance.isPlaceholder = true := h.pendingId
  unfold Instance.ensureConnectable
  rw [if_pos hplaceholder]
  nofun

/-- Nothing is left to take off the region of a placeholder. -/
theorem Placeholder.Issued.trimsTo {placeholder : Placeholder} (h : placeholder.Issued) :
    Text.TrimsTo placeholder.region placeholder.region := by
  have htrims := Text.trimsTo_trim placeholder.region
  rwa [h.trimmed] at htrims

theorem Instance.region_of_ensureConnectable
    {server : Instance} (h : server.ensureConnectable = .ok ()) :
    Text.isBlank server.region = false := by
  unfold ensureConnectable at h
  split at h
  · cases h
  · split at h
    · cases h
    · next hnamed => exact Bool.eq_false_iff.2 hnamed

namespace Client

variable {yield : Yield} {client : Client} {call : Call}

theorem openTunnel_asked
    {target : Instance} {reporting : Reporting} {resumption : Resumption call .session}
    (asked : (client.openTunnel target reporting).next = .waiting (.awaiting call resumption)) :
    call = .connect target.id target.region ∧ target.ensureConnectable = .ok () := by
  unfold openTunnel at asked
  split at asked
  · next tracker hbegun =>
      cases asked
      unfold Tracker.beginConnect at hbegun
      cases hready : target.ensureConnectable with
      | ok ready => exact ⟨rfl, rfl⟩
      | error reason =>
        rw [hready] at hbegun
        cases hbegun
  · cases asked
  · cases asked

theorem terminate_asked
    {id : String} {reporting : Reporting} {resumption : Resumption call .unit}
    (asked : (client.terminate id reporting).next = .waiting (.awaiting call resumption)) :
    ∃ termination,
      client.inventory.beginTerminate id
          = ((client.terminate id reporting).client.inventory, .ok termination)
        ∧ call = .terminate termination.id termination.region := by
  unfold terminate at asked ⊢
  split at asked
  · next inventory termination hbegun =>
      cases asked
      exact ⟨termination, hbegun, rfl⟩
  · cases asked
  · cases asked

end Client

namespace ClientRun

/-- The entry that carries the identifier. -/
def lookup? (run : ClientRun) (id : String) : Option Entry :=
  run.client.inventory.lookup? id

/-- The placeholder stands in the inventory or belongs to a ticket. -/
def Holds (run : ClientRun) (placeholder : Placeholder) : Prop :=
  .pending placeholder ∈ run.client.inventory.value.entries ∨ placeholder ∈ run.tickets

/-- The operation that came last waits for the server that the placeholder stands in for. -/
def AwaitsServer (run : ClientRun) (placeholder : Placeholder) : Prop :=
  ∃ reporting awaited,
    run.jobs.getLast? = some
      ⟨.server, .awaiting (.spawn placeholder.region) (.spawn placeholder reporting), awaited⟩

/-- What a call that changes something names in the step that issues it. -/
def Names (run next : ClientRun) : Call → Prop
  | .spawn region => ∃ placeholder,
    next.AwaitsServer placeholder
      ∧ (next.Holds placeholder ∨ run.Holds placeholder)
      ∧ region = placeholder.region
      ∧ Text.TrimsTo placeholder.region region
      ∧ Text.isBlank region = false
  | .terminate id region => ∃ server,
    run.lookup? id = some (.confirmed server)
      ∧ region = server.region
      ∧ next.lookup? id = some (.confirmed { server with lifecycle := .terminating })
  | .connect id region => ∃ server,
    run.lookup? id = some (.confirmed server)
      ∧ next.lookup? id = some (.confirmed server)
      ∧ region = server.region
      ∧ Text.isBlank region = false
  | _ => True

variable {run next : ClientRun} {call : Call}

/-- A call that changes nothing has nothing to name. -/
theorem names_of_not_mutates (h : call.mutates = false) : Names run next call := by
  cases call with
  | spawn region => cases h
  | terminate id region => cases h
  | connect id region => cases h
  | _ => trivial

/-- The placeholder that a spawn asks for comes last among the operations. -/
theorem follow_confirm_awaitsServer
    (run : ClientRun) (client : Client) (placeholder : Placeholder) (reporting : Reporting) :
    (run.follow (client.confirm placeholder reporting)).AwaitsServer placeholder := by
  refine ⟨reporting, none, ?_⟩
  exact List.getLast?_concat

theorem names_spawn
    {region : String} {reporting : Reporting} {resumption : Resumption call .server}
    (asked : (run.client.spawn region reporting).next = .waiting (.awaiting call resumption)) :
    Names run (run.follow (run.client.spawn region reporting)) call := by
  rcases run.client.spawn_cases region reporting with
    ⟨spawning, placeholder, hbegun, hturn⟩ | ⟨-, value, hfinished⟩
  · obtain ⟨hissued, hentries⟩ := Client.beginSpawn_eq_ok hbegun
    rw [hturn] at asked ⊢
    cases asked
    have hheld : Entry.pending placeholder ∈ spawning.inventory.value.entries := by
      rw [hentries]
      exact List.mem_append_right _ (List.mem_singleton_self _)
    exact ⟨placeholder, follow_confirm_awaitsServer run spawning placeholder reporting,
      Or.inl (Or.inl hheld), rfl, hissued.trimsTo, hissued.named⟩
  · rw [hfinished] at asked
    cases asked

theorem names_terminate
    {id : String} {reporting : Reporting} {resumption : Resumption call .unit}
    (asked : (run.client.terminate id reporting).next = .waiting (.awaiting call resumption)) :
    Names run (run.follow (run.client.terminate id reporting)) call := by
  obtain ⟨termination, hbegun, rfl⟩ := Client.terminate_asked asked
  obtain ⟨server, hfound, rfl, hmarked⟩ := Inventory.exists_confirmed_of_beginTerminate hbegun
  refine ⟨server, hfound, rfl, ?_⟩
  rw [lookup?, follow_client]
  exact hmarked

/-- The entry that a tunnel is opened to is confirmed, because a placeholder would have been
refused. -/
theorem Issued.names_connect
    (h : run.Issued) {id : String} {resumption : Resumption call .session}
    (asked : (run.client.connect id).next = .waiting (.awaiting call resumption)) :
    Names run (run.follow (run.client.connect id)) call := by
  cases hentry : run.client.inventory.lookup? id with
  | none =>
    unfold Client.connect Client.instance? at asked
    rw [Inventory.find?_instances, hentry] at asked
    cases asked
  | some entry =>
    have hconnect : run.client.connect id = run.client.openTunnel entry.toInstance .noticed := by
      unfold Client.connect Client.instance?
      rw [Inventory.find?_instances, hentry]
      rfl
    have hinventory : (run.client.connect id).client.inventory = run.client.inventory := by
      rw [hconnect]
      unfold Client.openTunnel
      split <;> rfl
    rw [hconnect] at asked
    obtain ⟨rfl, hready⟩ := Client.openTunnel_asked asked
    cases entry with
    | pending placeholder =>
      have hissued := h.entries placeholder (Inventory.mem_of_lookup? hentry)
      exact absurd hready hissued.not_connectable
    | confirmed server =>
      obtain rfl : server.id = id := Inventory.id_of_lookup? hentry
      refine ⟨server, hentry, ?_, rfl, Instance.region_of_ensureConnectable hready⟩
      rw [lookup?, follow_client, hinventory]
      exact hentry

/-- **Mutations.** Every call that changes something names an entry: a termination or an opening
the confirmed server with its identifier, a spawn the trimmed region of its placeholder. -/
theorem mutations_name_entries
    {settings : Settings} {salt : Nat}
    (reached : Reached settings salt run) (issues : Issues run call next) :
    Names run next call := by
  have hissued := reached.issued
  cases issues with
  | @start yield _ resumption command byName asked =>
    by_cases hmutates : command.mutates = false
    · have hquiet := command.start_mutates run.client hmutates
      rw [asked] at hquiet
      exact names_of_not_mutates hquiet
    · cases command with
      | spawn region => exact names_spawn asked
      | spawnServer region => exact names_spawn asked
      | terminate id => exact names_terminate asked
      | terminateServer id => exact names_terminate asked
      | connect id => exact hissued.names_connect asked
      | openTunnel target => cases byName
      | _ => exact absurd rfl hmutates
  | @settle i yield answered _ resumption further awaited answer found asked =>
    have hquiet := resumption.settle_mutates run.client answer
    rw [asked] at hquiet
    exact names_of_not_mutates hquiet
  | @settleSweep i yield sweep goal _ further awaited found done asked =>
    have hquiet := run.client.settleSweep_mutates sweep goal
    rw [asked] at hquiet
    exact names_of_not_mutates hquiet
  | @drain i _ further awaited found ended asked =>
    have hquiet := run.client.deactivate_mutates .silent
    rw [Client.drained] at asked
    rw [asked] at hquiet
    exact names_of_not_mutates hquiet
  | @confirm i placeholder found =>
    have hheld := List.mem_of_getElem? found
    have hticket := hissued.tickets placeholder hheld
    exact ⟨placeholder, follow_confirm_awaitsServer _ run.client placeholder .silent,
      Or.inr (Or.inr hheld), rfl, hticket.trimsTo, hticket.named⟩
  | askListing found next => trivial
  | poll found present step asked => trivial
  | @pursue start loops follower turn _ found present step asked =>
    unfold Follower.call? at asked
    split at asked
    · cases asked
      trivial
    · cases asked
      trivial
    · cases asked

/-- With one server and no catalog, a spawn, a termination and an opening. -/
theorem three_calls_of_one_state :
    ∃ run spawned terminated opened : ClientRun,
      Reached Settings.default 0 run
        ∧ (Issues run (.spawn "eu-2") spawned ∧ Names run spawned (.spawn "eu-2"))
        ∧ (Issues run (.terminate "i-1" "eu-1") terminated
          ∧ Names run terminated (.terminate "i-1" "eu-1"))
        ∧ (Issues run (.connect "i-1" "eu-1") opened
          ∧ Names run opened (.connect "i-1" "eu-1")) := by
  have reached : Reached Settings.default 0 _ :=
    Relation.ReflTransGen.refl.tail (Step.insert (new Settings.default 0)
      { id := "i-1", name := "vpn", lifecycle := .running, publicV4 := "198.51.100.1",
        publicV6 := none, region := "eu-1" })
  have named {call : Call} {next : ClientRun} (issues : Issues _ call next) :=
    And.intro issues (mutations_name_entries reached issues)
  exact ⟨_, _, _, _, reached, named (.start (.spawn " eu-2 ") rfl rfl),
    named (.start (.terminate "i-1") rfl rfl), named (.start (.connect "i-1") rfl rfl)⟩

end ClientRun
end VpnFleet
