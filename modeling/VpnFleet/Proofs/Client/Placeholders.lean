import VpnFleet.Proofs.Client.Run

/-!
# Where placeholders come from

The only step that puts a placeholder into the inventory is the beginning of a
spawn by the client, which gives it a temporary identifier and a region without
blanks around it.

* `Client.AddsNone` says that every placeholder after a step was there before.
  As for the moves, each function of the client that is a step has one lemma.
* `Placeholder.Issued` is what a spawn makes sure of. It holds of all the
  placeholders and tickets of a run.
-/

namespace VpnFleet

/-- Temporary identifiers begin like temporary identifiers. -/
theorem Placeholder.hasPendingId_tempIdOf (salt serial : Nat) :
    Instance.hasPendingId (tempIdOf salt serial) = true := by
  unfold Instance.hasPendingId tempIdOf
  rw [List.isPrefixOf_iff_prefix]
  simp only [String.toList_append, List.append_assoc]
  exact List.prefix_append _ _

/-- The placeholder is as the spawns of a client put them up. -/
structure Placeholder.Issued (placeholder : Placeholder) : Prop where
  pendingId : Instance.hasPendingId placeholder.tempId = true
  trimmed : Text.trim placeholder.region = placeholder.region
  named : Text.isBlank placeholder.region = false

/-- A region that a spawn may use is the trimmed one, and it is not blank. -/
theorem Inventory.spawnRegion_eq_ok
    {catalog : Catalog} {region accepted : String}
    (h : spawnRegion catalog region = .ok accepted) :
    accepted = Text.trim region ∧ Text.isBlank region = false := by
  unfold spawnRegion at h
  dsimp only at h
  split at h
  · cases h
  · next hnamed =>
      split at h
      · cases h
      · cases h
        exact ⟨rfl, Bool.eq_false_iff.2 hnamed⟩

namespace Client

variable {client mid next : Client} {yield : Yield}

/-- A spawn that begins puts up one placeholder, at the end. -/
theorem beginSpawn_eq_ok
    {region : String} {placeholder : Placeholder}
    (h : client.beginSpawn region = .ok (next, placeholder)) :
    placeholder.Issued
      ∧ next.inventory.value.entries
        = client.inventory.value.entries ++ [.pending placeholder] := by
  unfold beginSpawn Inventory.beginSpawn at h
  cases hregion : Inventory.spawnRegion client.catalog region with
  | error error =>
    rw [hregion] at h
    cases h
  | ok accepted =>
    rw [hregion] at h
    cases h
    obtain ⟨rfl, hnamed⟩ := Inventory.spawnRegion_eq_ok hregion
    refine ⟨⟨Placeholder.hasPendingId_tempIdOf _ _, Text.trim_trim region, ?_⟩, rfl⟩
    exact (Text.isBlank_trim region).trans hnamed

/-- Every placeholder was there before. -/
def AddsNone (client next : Client) : Prop :=
  ∀ placeholder, Entry.pending placeholder ∈ next.inventory.value.entries →
    Entry.pending placeholder ∈ client.inventory.value.entries

theorem AddsNone.of_entries_eq
    (h : next.inventory.value.entries = client.inventory.value.entries) : client.AddsNone next := by
  intro placeholder hplaceholder
  rw [← h]
  exact hplaceholder

theorem AddsNone.of_inventory_eq (h : next.inventory = client.inventory) : client.AddsNone next :=
  .of_entries_eq (by rw [h])

theorem Keeps.addsNone (h : client.Keeps next) : client.AddsNone next :=
  .of_inventory_eq h.inventory

section Steps

variable (client : Client)

theorem terminate_addsNone (id : String) (reporting : Reporting) :
    client.AddsNone (client.terminate id reporting).client := by
  unfold terminate
  split
  · next inventory termination hbegun =>
      obtain ⟨i, server, -, -, -, hentries⟩ := Inventory.beginTerminate_eq_ok hbegun
      intro placeholder hplaceholder
      change _ ∈ inventory.value.entries at hplaceholder
      rw [hentries, ← Inventory.mem_placeholders_iff, Inventory.placeholders_markTerminating,
        Inventory.mem_placeholders_iff] at hplaceholder
      exact hplaceholder
  · next hbegun =>
      obtain rfl := Inventory.beginTerminate_eq_error hbegun
      exact .of_entries_eq rfl
  · next hbegun =>
      obtain rfl := Inventory.beginTerminate_eq_error hbegun
      exact .of_entries_eq rfl

theorem openTunnel_addsNone (target : Instance) (reporting : Reporting) :
    client.AddsNone (client.openTunnel target reporting).client := by
  unfold openTunnel
  split <;> exact .of_entries_eq rfl

theorem connect_addsNone (id : String) : client.AddsNone (client.connect id).client := by
  unfold connect
  split
  · exact client.openTunnel_addsNone _ _
  · exact .of_entries_eq rfl

theorem settleSweep_addsNone (sweep : Sweep) (goal : RefreshGoal yield) :
    client.AddsNone (client.settleSweep sweep goal).client := by
  let report := sweep.report client.options.defaultName
  let settled : Client :=
    { client with inventory := client.inventory.settleRefresh client.alive report }
  have hkeeps : settled.Keeps (client.settleSweep sweep goal).client := by
    cases goal with
    | silent => exact Keeps.refl settled
    | noticed => exact postFailures_keeps settled report
    | bootstrap regions => exact (postFailures_keeps settled report).trans ⟨rfl, rfl⟩
  intro placeholder hplaceholder
  rcases Inventory.mem_settleRefresh (hkeeps.addsNone placeholder hplaceholder) with
    hold | ⟨server, -, hserver⟩
  · exact hold
  · cases hserver

theorem discard_addsNone (placeholder : Placeholder) :
    client.AddsNone (client.discard placeholder) :=
  fun _ hplaceholder => Inventory.mem_of_mem_discard hplaceholder

end Steps
end Client

/-- A command that begins a spawn. -/
def Command.spawns {yield : Yield} : Command yield → Bool
  | .spawn _ => true
  | .spawnServer _ => true
  | _ => false

theorem Command.start_addsNone
    {yield : Yield} (client : Client) (command : Command yield) (hspawns : command.spawns = false) :
    client.AddsNone (command.start client).client := by
  cases command with
  | spawn region => cases hspawns
  | spawnServer region => cases hspawns
  | terminate id => exact client.terminate_addsNone id .noticed
  | terminateServer id => exact client.terminate_addsNone id .silent
  | connect id => exact client.connect_addsNone id
  | openTunnel target => exact client.openTunnel_addsNone target .silent
  | activateStream => exact client.activate_keeps.addsNone
  | deactivateStream => exact (client.deactivate_keeps .silent).addsNone
  | _ => exact .of_entries_eq rfl

theorem LoadGoal.settle_addsNone
    {yield : Yield} (client : Client) (outcome : Except CatalogError (List Region))
    (goal : LoadGoal yield) :
    client.AddsNone (goal.settle client outcome).client := by
  cases goal <;> cases outcome <;> exact .of_entries_eq rfl

namespace Resumption

variable (client : Client)

theorem settleSpawn_addsNone
    (placeholder : Placeholder) (reporting : Reporting) (answer : Except String SpawnedRecord) :
    client.AddsNone (settleSpawn client placeholder reporting answer).client := by
  have hentries : (settleSpawn client placeholder reporting answer).client.inventory
      = (client.inventory.settleSpawn client.alive placeholder answer).1 := by
    unfold settleSpawn
    dsimp only
    split <;> rfl
  intro other hother
  rw [hentries] at hother
  rcases Inventory.mem_settleSpawn hother with hold | ⟨record, -, hserver⟩
  · exact hold
  · cases hserver

theorem settleTerminate_addsNone
    (termination : Termination) (reporting : Reporting) (answer : Except String Unit) :
    client.AddsNone (settleTerminate client termination reporting answer).client := by
  have hentries : (settleTerminate client termination reporting answer).client.inventory
      = (client.inventory.settleTerminate client.alive termination answer).1 := by
    unfold settleTerminate
    dsimp only
    split <;> rfl
  intro placeholder hplaceholder
  rw [hentries] at hplaceholder
  rcases Inventory.mem_settleTerminate hplaceholder with hold | ⟨old, hold, hrestored⟩
  · exact hold
  · cases old with
    | pending other =>
      rw [hrestored]
      exact hold
    | confirmed server => cases hrestored

theorem settleConnect_addsNone
    (target : Instance) (reporting : Reporting) (answer : Except String Unit) :
    client.AddsNone (settleConnect client target reporting answer).client := by
  unfold settleConnect
  dsimp only
  split <;> exact .of_entries_eq rfl

theorem settleDisconnect_addsNone (reporting : Reporting) (answer : Except String Unit) :
    client.AddsNone (settleDisconnect client reporting answer).client := by
  cases reporting with
  | silent => exact .of_entries_eq rfl
  | noticed => exact .of_inventory_eq (Client.deactivate_keeps _ _).inventory

/-- The step after an answer. -/
theorem settle_addsNone
    {call : Call} {yield : Yield} (resumption : Resumption call yield) (answer : call.Answer) :
    client.AddsNone (resumption.settle client answer).client := by
  cases resumption with
  | load goal => exact goal.settle_addsNone _ _
  | spawn placeholder reporting => exact settleSpawn_addsNone client placeholder reporting answer
  | terminate termination reporting =>
    exact settleTerminate_addsNone client termination reporting answer
  | connect target reporting => exact settleConnect_addsNone client target reporting answer
  | query began goal => exact .of_inventory_eq (goal.settle_keeps _ _).inventory
  | disconnect reporting => exact settleDisconnect_addsNone client reporting answer
  | activate generation => exact (settleActivate_keeps client generation answer).addsNone
  | close feed closing => exact (client.finishClose_keeps closing).addsNone
  | save credentials => cases answer <;> exact .of_entries_eq rfl

end Resumption

/-- The step that gives an operation up. -/
theorem Operation.abandon_addsNone
    {yield : Yield} (client : Client) (operation : Operation yield) :
    client.AddsNone (operation.abandon client) := by
  cases operation with
  | awaiting call resumption =>
    cases resumption with
    | spawn placeholder reporting => exact client.discard_addsNone placeholder
    | _ => exact .of_entries_eq rfl
  | _ => exact .of_entries_eq rfl

theorem Poller.Step.addsNone
    {client next : Client} {poller after : Poller} (step : Poller.Step client poller next after) :
    client.AddsNone next := by
  cases step with
  | see resting due =>
    unfold onInventory
    dsimp only
    split <;> exact .of_entries_eq rfl
  | _ => exact .of_entries_eq rfl

/-- A spawn begins with the placeholder that its call is for. -/
theorem Client.spawn_cases (client : Client) (region : String) (reporting : Reporting) :
    (∃ spawning placeholder,
        client.beginSpawn region = .ok (spawning, placeholder)
          ∧ client.spawn region reporting = spawning.confirm placeholder reporting)
      ∨ (client.Keeps (client.spawn region reporting).client
          ∧ ∃ value, (client.spawn region reporting).next = .finished value) := by
  unfold spawn
  split
  · next spawning placeholder hbegun =>
      exact Or.inl ⟨spawning, placeholder, hbegun, rfl⟩
  · exact Or.inr ⟨Keeps.refl client, _, rfl⟩
  · exact Or.inr ⟨⟨rfl, rfl⟩, _, rfl⟩

namespace ClientRun

variable {run next : ClientRun}

/-- The placeholders and the tickets of a run are as spawns put them up. -/
structure Issued (run : ClientRun) : Prop where
  entries : ∀ placeholder,
    Entry.pending placeholder ∈ run.client.inventory.value.entries → placeholder.Issued
  tickets : ∀ placeholder ∈ run.tickets, placeholder.Issued

theorem perform_tickets (run : ClientRun) (effect : Effect) :
    (run.perform effect).tickets = run.tickets := by
  cases effect <;> rfl

theorem take_tickets (run : ClientRun) (client : Client) (effects : List Effect) :
    (run.take client effects).tickets = run.tickets :=
  foldl_perform_eq _ ClientRun.tickets perform_tickets effects

theorem follow_tickets {yield : Yield} (run : ClientRun) (turn : Turn yield) :
    (run.follow turn).tickets = run.tickets := by
  unfold follow
  split
  · exact run.take_tickets _ _
  · next operation _ =>
      cases operation <;> exact run.take_tickets _ _

theorem Issued.new (settings : Settings) (salt : Nat) : (new settings salt).Issued where
  entries := nofun
  tickets := nofun

/-- A step that puts up no placeholder and writes out no ticket. -/
theorem Issued.keep
    (h : run.Issued) (hadds : run.client.AddsNone next.client)
    (htickets : ∀ placeholder ∈ next.tickets, placeholder ∈ run.tickets) :
    next.Issued where
  entries := fun placeholder hplaceholder => h.entries placeholder (hadds placeholder hplaceholder)
  tickets := fun placeholder hplaceholder => h.tickets placeholder (htickets _ hplaceholder)

theorem Issued.follow
    {yield : Yield} {turn : Turn yield}
    (h : run.Issued) (hadds : run.client.AddsNone turn.client) :
    (run.follow turn).Issued := by
  refine h.keep ?_ ?_
  · rw [follow_client]
    exact hadds
  · rw [follow_tickets]
    exact fun _ hplaceholder => hplaceholder

theorem Issued.beginSpawn
    {region : String} {spawning : Client} {placeholder : Placeholder}
    (h : run.Issued) (accepted : run.client.beginSpawn region = .ok (spawning, placeholder)) :
    placeholder.Issued ∧ ({ run with client := spawning } : ClientRun).Issued := by
  obtain ⟨hissued, hentries⟩ := Client.beginSpawn_eq_ok accepted
  refine ⟨hissued, ?_, h.tickets⟩
  intro other hother
  change _ ∈ spawning.inventory.value.entries at hother
  rw [hentries] at hother
  rcases List.mem_append.1 hother with hold | hnew
  · exact h.entries other hold
  · obtain rfl : other = placeholder := by
      simpa using hnew
    exact hissued

theorem Issued.spawn
    (h : run.Issued) (region : String) (reporting : Reporting) :
    (run.follow (run.client.spawn region reporting)).Issued := by
  rcases run.client.spawn_cases region reporting with
    ⟨spawning, placeholder, hbegun, hturn⟩ | ⟨hkeeps, -⟩
  · rw [hturn]
    exact { entries := (h.beginSpawn hbegun).2.entries, tickets := h.tickets }
  · exact h.follow hkeeps.addsNone

theorem Issued.step (h : run.Issued) (step : Step run next) : next.Issued := by
  cases step with
  | start command =>
    by_cases hspawns : command.spawns = false
    · exact h.follow (command.start_addsNone run.client hspawns)
    · cases command with
      | spawn region => exact h.spawn region .noticed
      | spawnServer region => exact h.spawn region .silent
      | _ => exact absurd rfl hspawns
  | @settle i yield call resumption awaited answer found =>
    have hdropped : (run.drop i).Issued := ⟨h.entries, h.tickets⟩
    exact hdropped.follow (resumption.settle_addsNone run.client answer)
  | @settleSweep i yield sweep goal awaited found done =>
    have hdropped : (run.drop i).Issued := ⟨h.entries, h.tickets⟩
    exact hdropped.follow (run.client.settleSweep_addsNone sweep goal)
  | @drain i awaited found ended =>
    have hdropped : (run.drop i).Issued := ⟨h.entries, h.tickets⟩
    exact hdropped.follow (run.client.deactivate_keeps .silent).addsNone
  | @abandon i job found =>
    exact h.keep (job.operation.abandon_addsNone run.client) fun _ hticket => hticket
  | @beginSpawn region spawning placeholder accepted =>
    obtain ⟨hissued, hspawning⟩ := h.beginSpawn accepted
    refine ⟨hspawning.entries, ?_⟩
    intro other hother
    rcases List.mem_append.1 hother with hold | hnew
    · exact h.tickets other hold
    · obtain rfl := List.mem_singleton.1 hnew
      exact hissued
  | @confirm i placeholder found =>
    have herased : ({ run with tickets := run.tickets.eraseIdx i } : ClientRun).Issued :=
      h.keep (.of_entries_eq rfl) fun _ => List.mem_of_mem_eraseIdx
    exact herased.follow (.of_entries_eq rfl)
  | @dropTicket i placeholder found =>
    exact h.keep (run.client.discard_addsNone placeholder) fun _ => List.mem_of_mem_eraseIdx
  | insert server =>
    refine h.keep ?_ fun _ hticket => hticket
    intro placeholder hplaceholder
    rcases Inventory.mem_or_eq_of_mem_place hplaceholder with hold | hserver
    · exact hold
    · cases hserver
  | remove id =>
    exact h.keep (fun _ hplaceholder => Inventory.mem_of_mem_remove hplaceholder)
      fun _ hticket => hticket
  | poll found present polled => exact h.keep polled.addsNone fun _ hticket => hticket
  | @pursue start loops follower turn found present pursued =>
    refine h.keep ?_ ?_
    · show run.client.AddsNone (run.take turn.client turn.effects).client
      rw [take_client]
      exact pursued.keeps.addsNone
    · show ∀ placeholder ∈ (run.take turn.client turn.effects).tickets, _
      rw [take_tickets]
      exact fun _ hticket => hticket
  | @announce start loops herald found present due =>
    exact h.keep (herald.onStream_keeps run.client).addsNone fun _ hticket => hticket
  | _ => exact h.keep (.of_entries_eq rfl) fun _ hticket => hticket

theorem Reached.issued
    {settings : Settings} {salt : Nat} (reached : Reached settings salt run) : run.Issued := by
  induction reached with
  | refl => exact Issued.new settings salt
  | tail _ step ih => exact ih.step step

end ClientRun
end VpnFleet
