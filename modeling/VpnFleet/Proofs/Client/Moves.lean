import VpnFleet.Client.Command
import VpnFleet.Client.Loops
import VpnFleet.Proofs.Inventory.Moves
import VpnFleet.Proofs.Session.Moves

/-!
# Moves of a client

Every step of a command, of what is left of it, and of a background loop makes
at most one move of the inventory and then at most one of the tracker, and the
tracker looks at the inventory as it is after the step.

* `Client.Keeps` says that a step leaves both, `Client.Move` that it makes such
  moves.
* Each function of the client that is a step has one lemma here. Later modules
  know the steps through these lemmas alone.
-/

namespace VpnFleet

namespace Client

/-- The inventory and the tracker stay. -/
structure Keeps (client next : Client) : Prop where
  inventory : next.inventory = client.inventory
  tracker : next.tracker = client.tracker

/-- One step of the inventory and one of the tracker. -/
structure Move (client next : Client) : Prop where
  inventory : Inventory.Move client.alive client.inventory next.inventory
  tracker : Tracker.Move client.alive next.inventory.value client.tracker next.tracker

variable {client mid next : Client} {yield : Yield}

theorem Keeps.refl (client : Client) : client.Keeps client where
  inventory := rfl
  tracker := rfl

theorem Keeps.trans (h₁ : client.Keeps mid) (h₂ : mid.Keeps next) : client.Keeps next where
  inventory := h₂.inventory.trans h₁.inventory
  tracker := h₂.tracker.trans h₁.tracker

theorem Move.keep (h : client.Move mid) (hkeeps : mid.Keeps next) : client.Move next := by
  constructor
  · rw [hkeeps.inventory]
    exact h.inventory
  · rw [hkeeps.inventory, hkeeps.tracker]
    exact h.tracker

theorem Keeps.move (h : client.Keeps next) : client.Move next :=
  Move.keep ⟨.stay, .stay⟩ h

section Steps

variable (client : Client)

theorem postFailures_keeps (report : RefreshReport) :
    client.Keeps (client.postFailures report) := by
  unfold postFailures
  split <;> exact ⟨rfl, rfl⟩

theorem finishDisconnect_keeps (outcome : Except SessionError Unit) :
    client.Keeps (client.finishDisconnect outcome).client := by
  cases outcome <;> exact ⟨rfl, rfl⟩

theorem finishClose_keeps (closing : Closing) :
    client.Keeps (client.finishClose closing).client := by
  cases closing with
  | silent => exact Keeps.refl client
  | disconnection outcome => exact finishDisconnect_keeps client outcome

theorem deactivate_keeps (closing : Closing) :
    client.Keeps (client.deactivate closing).client := by
  unfold deactivate
  split
  · exact ⟨rfl, rfl⟩
  · next stream _ =>
      have hcleared : client.Keeps { client with stream } := ⟨rfl, rfl⟩
      exact hcleared.trans (finishClose_keeps _ closing)

theorem activate_keeps : client.Keeps client.activate.client := by
  unfold activate
  split <;> exact ⟨rfl, rfl⟩

theorem beginSpawn_move
    {region : String} {placeholder : Placeholder}
    (h : client.beginSpawn region = .ok (next, placeholder)) :
    client.Move next := by
  unfold beginSpawn at h
  split at h
  · next inventory accepted hbegun =>
      cases h
      exact ⟨.beginSpawn hbegun, .stay⟩
  · cases h

theorem spawn_move (region : String) (reporting : Reporting) :
    client.Move (client.spawn region reporting).client := by
  unfold spawn
  split
  · next hbegun => exact (beginSpawn_move client hbegun).keep ⟨rfl, rfl⟩
  · exact (Keeps.refl client).move
  · exact Keeps.move ⟨rfl, rfl⟩

theorem terminate_move (id : String) (reporting : Reporting) :
    client.Move (client.terminate id reporting).client := by
  have hmoved : client.Move { client with inventory := (client.inventory.beginTerminate id).1 } :=
    ⟨.beginTerminate id, .stay⟩
  unfold terminate
  split
  · next hbegun => exact hmoved.keep ⟨by rw [hbegun]; rfl, rfl⟩
  · next hbegun => exact hmoved.keep ⟨by rw [hbegun]; rfl, rfl⟩
  · next hbegun => exact hmoved.keep ⟨by rw [hbegun]; rfl, rfl⟩

theorem openTunnel_move (target : Instance) (reporting : Reporting) :
    client.Move (client.openTunnel target reporting).client := by
  have hmoved : client.Move { client with tracker := (client.tracker.beginConnect target).1 } :=
    ⟨.stay, .beginConnect target⟩
  unfold openTunnel
  split
  · next hbegun => exact hmoved.keep ⟨rfl, by rw [hbegun]; rfl⟩
  · next hbegun => exact hmoved.keep ⟨rfl, by rw [hbegun]; rfl⟩
  · next hbegun => exact hmoved.keep ⟨rfl, by rw [hbegun]; rfl⟩

theorem connect_move (id : String) : client.Move (client.connect id).client := by
  unfold connect
  split
  · exact openTunnel_move client _ _
  · exact Keeps.move ⟨rfl, rfl⟩

theorem settleSweep_move (sweep : Sweep) (goal : RefreshGoal yield) :
    client.Move (client.settleSweep sweep goal).client := by
  let report := sweep.report client.options.defaultName
  have hsettled : client.Move
      { client with inventory := client.inventory.settleRefresh client.alive report } :=
    ⟨.settleRefresh report, .stay⟩
  refine hsettled.keep ?_
  cases goal with
  | silent => exact Keeps.refl _
  | noticed => exact postFailures_keeps _ report
  | bootstrap regions => exact (postFailures_keeps _ report).trans ⟨rfl, rfl⟩

theorem discard_move (placeholder : Placeholder) : client.Move (client.discard placeholder) :=
  ⟨.discard placeholder.tempId, .stay⟩

end Steps
end Client

/-- The first step of a command. -/
theorem Command.start_move {yield : Yield} (client : Client) (command : Command yield) :
    client.Move (command.start client).client := by
  cases command with
  | refresh => exact ⟨.beginRefresh, .stay⟩
  | refreshInventory => exact ⟨.beginRefresh, .stay⟩
  | spawn region => exact Client.spawn_move client region .noticed
  | spawnServer region => exact Client.spawn_move client region .silent
  | terminate id => exact Client.terminate_move client id .noticed
  | terminateServer id => exact Client.terminate_move client id .silent
  | connect id => exact Client.connect_move client id
  | openTunnel target => exact Client.openTunnel_move client target .silent
  | activateStream => exact (Client.activate_keeps client).move
  | deactivateStream => exact (Client.deactivate_keeps client .silent).move
  | _ => exact Client.Keeps.move ⟨rfl, rfl⟩

theorem LoadGoal.settle_move
    {yield : Yield} (client : Client) (outcome : Except CatalogError (List Region))
    (goal : LoadGoal yield) :
    client.Move (goal.settle client outcome).client := by
  cases goal with
  | silent => exact Client.Keeps.move ⟨rfl, rfl⟩
  | noticed => cases outcome <;> exact Client.Keeps.move ⟨rfl, rfl⟩
  | bootstrap =>
    cases outcome with
    | ok regions => exact ⟨.beginRefresh, .stay⟩
    | error error => exact Client.Keeps.move ⟨rfl, rfl⟩

theorem QueryGoal.settle_keeps
    {yield : Yield} (client : Client) (outcome : Except SessionError VpnSession)
    (goal : QueryGoal yield) :
    client.Keeps (goal.settle client outcome).client := by
  cases goal with
  | silent => exact Client.Keeps.refl client
  | opened id => cases outcome <;> exact ⟨rfl, rfl⟩
  | bootstrap regions report => exact Client.Keeps.refl client

namespace Resumption

variable (client : Client)

theorem settleSpawn_move
    (placeholder : Placeholder) (reporting : Reporting) (answer : Except String SpawnedRecord) :
    client.Move (settleSpawn client placeholder reporting answer).client := by
  unfold settleSpawn
  dsimp only
  split <;> exact ⟨.settleSpawn placeholder answer, .stay⟩

/-- A termination that a command asked for looks the session up in what it left. -/
theorem settleTerminate_move
    (termination : Termination) (reporting : Reporting) (answer : Except String Unit) :
    client.Move (settleTerminate client termination reporting answer).client := by
  unfold settleTerminate
  dsimp only
  split
  · exact ⟨.settleTerminate termination answer, .stay⟩
  · exact ⟨.settleTerminate termination answer, .reconcile⟩
  · exact ⟨.settleTerminate termination answer, .stay⟩
  · exact ⟨.settleTerminate termination answer, .stay⟩

theorem settleConnect_move
    (target : Instance) (reporting : Reporting) (answer : Except String Unit) :
    client.Move (settleConnect client target reporting answer).client := by
  unfold settleConnect
  dsimp only
  split <;> exact ⟨.stay, .settleConnect target.id answer⟩

theorem settleDisconnect_move (reporting : Reporting) (answer : Except String Unit) :
    client.Move (settleDisconnect client reporting answer).client := by
  have hsettled : client.Move
      { client with tracker := (client.tracker.settleDisconnect client.alive answer).1 } :=
    ⟨.stay, .settleDisconnect answer⟩
  cases reporting with
  | silent => exact hsettled
  | noticed => exact hsettled.keep (Client.deactivate_keeps _ _)

theorem settleActivate_keeps (generation : Nat) (answer : Except String String) :
    client.Keeps (settleActivate client generation answer).client := by
  unfold settleActivate
  dsimp only
  split <;> exact ⟨rfl, rfl⟩

theorem settleQuery_move
    {yield : Yield} (began : Nat) (goal : QueryGoal yield) (answer : Except String StatusRecord) :
    client.Move ((Resumption.query began goal).settle client answer).client := by
  have hsettled : client.Move
      { client with
        tracker :=
          (client.tracker.settleQuery client.alive client.inventory.value began answer).1 } :=
    ⟨.stay, .settleQuery began answer⟩
  exact hsettled.keep (goal.settle_keeps _ _)

/-- The step after an answer. -/
theorem settle_move
    {call : Call} {yield : Yield} (resumption : Resumption call yield) (answer : call.Answer) :
    client.Move (resumption.settle client answer).client := by
  cases resumption with
  | load goal =>
    have hsettled := goal.settle_move
      { client with catalog := (client.catalog.settleLoad client.alive answer).1 }
      (client.catalog.settleLoad client.alive answer).2
    exact ⟨hsettled.inventory, hsettled.tracker⟩
  | spawn placeholder reporting => exact settleSpawn_move client placeholder reporting answer
  | terminate termination reporting =>
    exact settleTerminate_move client termination reporting answer
  | connect target reporting => exact settleConnect_move client target reporting answer
  | query began goal => exact settleQuery_move client began goal answer
  | disconnect reporting => exact settleDisconnect_move client reporting answer
  | activate generation => exact (settleActivate_keeps client generation answer).move
  | close feed closing => exact (Client.finishClose_keeps client closing).move
  | save credentials => cases answer <;> exact Client.Keeps.move ⟨rfl, rfl⟩

end Resumption

/-- The step that gives an operation up. -/
theorem Operation.abandon_move {yield : Yield} (client : Client) (operation : Operation yield) :
    client.Move (operation.abandon client) := by
  cases operation with
  | awaiting call resumption =>
    cases resumption with
    | spawn placeholder reporting => exact Client.discard_move client placeholder
    | _ => exact (Client.Keeps.refl client).move
  | sweeping sweep goal => exact ⟨.endRefresh, .stay⟩
  | draining => exact (Client.Keeps.refl client).move

namespace Poller

theorem onInventory_move (poller : Poller) (client : Client) :
    client.Move (poller.onInventory client).1 := by
  unfold onInventory
  dsimp only
  split
  · exact (Client.Keeps.refl client).move
  · exact ⟨.stay, .reconcile⟩

theorem onAnswer_move
    (poller : Poller) (client : Client) (began : Nat) (answer : Except String StatusRecord) :
    client.Move (poller.onAnswer client began answer).1 :=
  ⟨.stay, .settleQuery began answer⟩

end Poller

namespace Follower

variable (follower : Follower) (client : Client)

theorem deactivate_keeps (leaving : Bool) :
    client.Keeps (follower.deactivate client leaving).client := by
  unfold deactivate
  split <;> exact ⟨rfl, rfl⟩

theorem look_keeps : client.Keeps (follower.look client).client := by
  unfold look
  split
  · exact deactivate_keeps follower client true
  · dsimp only
    split
    · unfold activate
      split <;> exact ⟨rfl, rfl⟩
    · exact deactivate_keeps _ client false

theorem onSubscribed_keeps (generation : Nat) (answer : Except String String) :
    client.Keeps (follower.onSubscribed client generation answer).client := by
  unfold onSubscribed
  dsimp only
  split <;> exact ⟨rfl, rfl⟩

end Follower

theorem Herald.onStream_keeps (herald : Herald) (client : Client) :
    client.Keeps (herald.onStream client).1 := by
  unfold onStream
  dsimp only
  split
  · split <;> exact ⟨rfl, rfl⟩
  · exact Client.Keeps.refl client

end VpnFleet
