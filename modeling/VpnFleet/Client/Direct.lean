import VpnFleet.Client.Command

/-!
# Direct runs

A command run by itself against a backend that answers every call at once. The
run ends: each answer brings the operation to a later stage, and a sweep is
answered slot by slot in the order of the catalog.

Direct runs have no background loops, so a teardown does not wait and no
forwarder runs.
-/

namespace VpnFleet

/-- A backend that answers every call at once and remembers what it likes. -/
abbrev Responder (σ : Type) : Type :=
  (call : Call) → σ → σ × call.Answer

namespace Resumption

/-- How many stages may follow after the answer. -/
def stage {call : Call} {yield : Yield} : Resumption call yield → Nat
  | .save _ => 4
  | .load _ => 3
  | .connect _ _ => 2
  | .disconnect _ => 2
  | .activate _ => 2
  | .query _ _ => 1
  | .spawn _ _ => 1
  | .terminate _ _ => 1
  | .close _ _ => 1

end Resumption

namespace Operation

/-- How many stages may follow. -/
def stage {yield : Yield} : Operation yield → Nat
  | .awaiting _ resumption => resumption.stage
  | .sweeping _ _ => 2
  | .draining => 2

end Operation

namespace Next

/-- How many stages are left; none when the operation is over. -/
def stage {yield : Yield} : Next yield → Nat
  | .finished _ => 0
  | .waiting operation => operation.stage

end Next

@[simp]
theorem Turn.finished_stage {yield : Yield} (client : Client) (value : yield.Value) :
    (Turn.finished client value).next.stage = 0 := rfl

@[simp]
theorem Turn.awaiting_stage {yield : Yield} (client : Client) (call : Call)
    (resumption : Resumption call yield) :
    (Turn.awaiting client call resumption).next.stage = resumption.stage := rfl

theorem QueryGoal.settle_stage {yield : Yield} (client : Client)
    (outcome : Except SessionError VpnSession) (goal : QueryGoal yield) :
    (goal.settle client outcome).next.stage = 0 := by
  cases goal <;> cases outcome <;> rfl

theorem RefreshGoal.settle_stage_le {yield : Yield} (client : Client) (report : RefreshReport)
    (goal : RefreshGoal yield) :
    (goal.settle client report).next.stage ≤ 1 := by
  cases goal with
  | silent => exact Nat.zero_le _
  | noticed => exact Nat.zero_le _
  | bootstrap regions => exact Nat.le_refl _

theorem LoadGoal.settle_stage_le {yield : Yield} (client : Client)
    (outcome : Except CatalogError (List Region)) (goal : LoadGoal yield) :
    (goal.settle client outcome).next.stage ≤ 2 := by
  cases goal with
  | silent => exact Nat.zero_le _
  | noticed => cases outcome <;> exact Nat.zero_le _
  | bootstrap =>
    cases outcome with
    | error error => exact Nat.zero_le _
    | ok regions => exact Nat.le_refl _

theorem Client.finishClose_stage (client : Client) (closing : Closing) :
    (client.finishClose closing).next.stage = 0 := by
  cases closing with
  | silent => rfl
  | disconnection outcome => cases outcome <;> rfl

theorem Client.deactivate_stage_le (client : Client) (closing : Closing) :
    (client.deactivate closing).next.stage ≤ 1 := by
  unfold Client.deactivate
  split
  · exact Nat.le_refl _
  · rw [Client.finishClose_stage]
    exact Nat.zero_le _

/-- An answer leads to a later stage. -/
theorem Resumption.settle_stage_lt {call : Call} {yield : Yield} (client : Client)
    (resumption : Resumption call yield) (answer : call.Answer) :
    (resumption.settle client answer).next.stage < resumption.stage := by
  cases resumption with
  | load goal => exact Nat.lt_succ_of_le (LoadGoal.settle_stage_le _ _ goal)
  | query began goal =>
    show (goal.settle _ _).next.stage < 1
    rw [QueryGoal.settle_stage]
    exact Nat.one_pos
  | close feed closing =>
    show (client.finishClose closing).next.stage < 1
    rw [Client.finishClose_stage]
    exact Nat.one_pos
  | spawn placeholder reporting =>
    cases reporting <;> cases answer <;> exact Nat.one_pos
  | terminate termination reporting =>
    cases reporting <;> cases answer <;> exact Nat.one_pos
  | connect target reporting =>
    cases answer with
    | error message => cases reporting <;> exact Nat.two_pos
    | ok reply => cases reporting <;> exact Nat.one_lt_two
  | disconnect reporting =>
    cases reporting with
    | silent => exact Nat.two_pos
    | noticed => exact Nat.lt_succ_of_le (Client.deactivate_stage_le _ _)
  | activate generation =>
    show (Resumption.settleActivate client generation answer).next.stage < 2
    unfold Resumption.settleActivate
    simp only
    split
    · exact Nat.two_pos
    · exact Nat.one_lt_two
    · exact Nat.two_pos
  | save credentials =>
    cases answer with
    | error message => exact Nat.succ_pos _
    | ok reply => exact Nat.lt_succ_self _

namespace Sweep

/-- Answers the slots from number `i` on. -/
def answerFrom {σ : Type} (respond : Responder σ) (state : σ) (sweep : Sweep) :
    Nat → List Slot → σ × Sweep
  | _, [] => (state, sweep)
  | i, slot :: slots =>
    let (state, listing) := respond (.listInstances slot.region) state
    answerFrom respond state (sweep.answer i listing) (i + 1) slots

/-- Answers every slot in order. -/
def answerAll {σ : Type} (respond : Responder σ) (state : σ) (sweep : Sweep) : σ × Sweep :=
  answerFrom respond state sweep 0 sweep.slots

end Sweep

namespace Next

/-- Runs to the result. -/
def complete {σ : Type} (respond : Responder σ) :
    {yield : Yield} → Next yield → Client → σ → Client × σ × yield.Value
  | _, .finished value, client, state => (client, state, value)
  | _, .waiting (.awaiting call resumption), client, state =>
    let (state, answer) := respond call state
    let turn := resumption.settle client answer
    complete respond turn.next turn.client state
  | _, .waiting (.sweeping sweep goal), client, state =>
    let (state, sweep) := sweep.answerAll respond state
    let turn := client.settleSweep sweep goal
    complete respond turn.next turn.client state
  | _, .waiting .draining, client, state =>
    let turn := client.drained
    complete respond turn.next turn.client state
termination_by _ next => next.stage
decreasing_by
  · exact Resumption.settle_stage_lt _ _ _
  · exact Nat.lt_succ_of_le (RefreshGoal.settle_stage_le _ _ _)
  · exact Nat.lt_succ_of_le (Client.deactivate_stage_le _ _)

end Next

namespace Command

/-- Runs a command by itself. -/
def run {σ : Type} {yield : Yield} (respond : Responder σ) (client : Client) (state : σ)
    (command : Command yield) : Client × σ × yield.Value :=
  let turn := command.start client
  turn.next.complete respond turn.client state

end Command
end VpnFleet
