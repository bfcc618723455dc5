import VpnFleet.Proofs.Catalog.Loading
import VpnFleet.Proofs.Client.Execution
import VpnFleet.Proofs.Client.Publishing
import VpnFleet.Proofs.Client.Underway

/-!
# What the others do

A command of a run shares the client with whatever else is under way, with the
background loops, and with those who write to the parts by hand.

* `ClientRun.Meddles` is all that any party of any run may do to the client in
  one step. Where the others meddle, an execution leaves nothing out: every step
  of a run that carries the command is a step of its execution, unless it gives
  the command up (`ClientRun.Step.sees`).
* Neither a command nor the others make a catalog inconsistent.
-/

namespace VpnFleet

namespace ClientRun

variable {yield : Yield} {run next : ClientRun} {place : Nat} {execution : Execution yield}

/-- What any party of any run may do to the client. -/
def Meddles (client later : Client) : Prop :=
  ∃ run next, Step run next ∧ run.client = client ∧ next.client = later

/-- The command stands at a place among the operations under way. -/
structure Carries (run : ClientRun) (place : Nat) (execution : Execution yield) : Prop where
  client : execution.client = run.client
  found : ∃ operation awaited,
    execution.next = .waiting operation ∧ run.jobs[place]? = some ⟨yield, operation, awaited⟩

/-- What a step of the run is to the command: the command goes on, has come to its result, or is
given up. -/
inductive Sees (next : ClientRun) (execution : Execution yield) : Prop
  | goesOn {later : Execution yield} {place : Nat}
      (step : execution.Step Meddles later)
      (carries : next.Carries place later)
  | finishes {later : Execution yield} {value : yield.Value}
      (step : execution.Step Meddles later)
      (client : later.client = next.client)
      (ended : later.next = .finished value)
  | givesUp {operation : Operation yield}
      (waits : execution.next = .waiting operation)
      (client : next.client = operation.abandon execution.client)

/-- A turn leaves the command at the end of the operations under way, unless it is over. -/
theorem carries_follow (run : ClientRun) (account : Account) (client : Client)
    (turn : Turn yield) :
    (∃ place, (run.follow turn).Carries place (.after account client turn))
      ∨ ∃ value, turn.next = .finished value := by
  cases hnext : turn.next with
  | finished value => exact Or.inr ⟨value, rfl⟩
  | waiting operation =>
    obtain ⟨awaited, hjobs⟩ := (run.take turn.client turn.effects).enqueue_jobs operation
    have hplaced : (run.follow turn).jobs[run.jobs.length]? = some ⟨yield, operation, awaited⟩ := by
      unfold follow
      rw [hnext]
      dsimp only
      rw [hjobs, take_jobs, List.getElem?_concat_length]
    exact Or.inl ⟨_, (run.follow_client turn).symm, operation, awaited, hnext, hplaced⟩

/-- A command that is started in a run is carried by it from then on. -/
theorem carries_start (run : ClientRun) (command : Command yield) :
    (∃ place, (run.follow (command.start run.client)).Carries place (.begin run.client command))
      ∨ ∃ value, (Execution.begin run.client command).next = .finished value :=
  carries_follow run .empty run.client (command.start run.client)

theorem follow_sees {account : Account} {client : Client} {turn : Turn yield} (run : ClientRun)
    (step : execution.Step Meddles (.after account client turn)) :
    Sees (run.follow turn) execution := by
  rcases run.carries_follow account client turn with ⟨place, hcarries⟩ | ⟨value, hended⟩
  · exact .goesOn step hcarries
  · exact .finishes step (run.follow_client turn).symm hended

/-- Whoever takes a step beside the command leaves it among the operations under way. -/
theorem Carries.elsewhere (carries : run.Carries place execution) (step : Step run next)
    {later : Nat} (kept : next.jobs[later]? = run.jobs[place]?) :
    Sees next execution := by
  obtain ⟨operation, awaited, hnext, hfound⟩ := carries.found
  have meddles : Meddles execution.client next.client :=
    ⟨run, next, step, carries.client.symm, rfl⟩
  exact .goesOn (.elsewhere execution meddles) ⟨rfl, operation, awaited, hnext, kept.trans hfound⟩

theorem Carries.getElem?_follow (carries : run.Carries place execution) {other : Yield}
    (turn : Turn other) :
    (run.follow turn).jobs[place]? = run.jobs[place]? := by
  obtain ⟨operation, awaited, -, hfound⟩ := carries.found
  have hplace : place < run.jobs.length := (List.getElem?_eq_some_iff.1 hfound).1
  unfold follow
  split
  · rw [take_jobs]
  · next later hnext =>
      obtain ⟨_, hjobs⟩ := (run.take turn.client turn.effects).enqueue_jobs later
      rw [hjobs, take_jobs, List.getElem?_append_left hplace]

theorem Carries.drop (carries : run.Carries place execution) {i : Nat} (hi : i ≠ place) :
    ∃ later, (run.drop i).Carries later execution ∧
      (run.drop i).jobs[later]? = run.jobs[place]? := by
  obtain ⟨operation, awaited, hnext, hfound⟩ := carries.found
  obtain ⟨later, hlater⟩ : ∃ later, (run.jobs.eraseIdx i)[later]? = run.jobs[place]? := by
    rcases Nat.lt_or_gt_of_ne hi with hbefore | hbehind
    · refine ⟨place - 1, ?_⟩
      rw [List.getElem?_eraseIdx_of_ge (by omega), Nat.sub_add_cancel (by omega)]
    · exact ⟨place, List.getElem?_eraseIdx_of_lt hbehind⟩
  exact ⟨later, ⟨carries.client, operation, awaited, hnext, hlater.trans hfound⟩, hlater⟩

theorem Carries.drop_follow (carries : run.Carries place execution) {i : Nat} (hi : i ≠ place)
    {other : Yield} {turn : Turn other} (step : Step run ((run.drop i).follow turn)) :
    Sees ((run.drop i).follow turn) execution := by
  obtain ⟨later, hlater, hkept⟩ := carries.drop hi
  exact carries.elsewhere step ((hlater.getElem?_follow turn).trans hkept)

/-- Nothing that a run does to a command is left out: every step of the run is one of its
execution, unless it gives the command up. -/
theorem Step.sees (carries : run.Carries place execution) (step : Step run next) :
    Sees next execution := by
  have whole := step
  obtain ⟨operation, awaited, hnext, hfound⟩ := carries.found
  have hplace : place < run.jobs.length := (List.getElem?_eq_some_iff.1 hfound).1
  have hclient := carries.client
  cases step with
  | start command => exact carries.elsewhere whole (carries.getElem?_follow _)
  | @settle i other call resumption awaited' answer found =>
    by_cases hi : i = place
    · subst hi
      cases hfound.symm.trans found
      rw [← hclient]
      exact follow_sees _ (.settle execution answer hnext)
    · exact carries.drop_follow hi whole
  | @askListing i slot other sweep goal awaited' region found next =>
    by_cases hi : i = place
    · subst hi
      cases hfound.symm.trans found
      exact .goesOn (.askListing execution hnext next)
        ⟨hclient, _, _, rfl, List.getElem?_set_self hplace⟩
    · exact carries.elsewhere whole (List.getElem?_set_ne hi)
  | @answerListing i slot other sweep goal awaited' spot listing found slotFound asked =>
    by_cases hi : i = place
    · subst hi
      cases hfound.symm.trans found
      exact .goesOn (.answerListing execution listing hnext slotFound asked)
        ⟨hclient, _, _, rfl, List.getElem?_set_self hplace⟩
    · exact carries.elsewhere whole (List.getElem?_set_ne hi)
  | @settleSweep i other sweep goal awaited' found done =>
    by_cases hi : i = place
    · subst hi
      cases hfound.symm.trans found
      rw [← hclient]
      exact follow_sees _ (.settleSweep execution hnext done)
    · exact carries.drop_follow hi whole
  | @drain i awaited' found ended =>
    by_cases hi : i = place
    · subst hi
      cases hfound.symm.trans found
      rw [← hclient]
      exact follow_sees _ (.drain execution hnext)
    · exact carries.drop_follow hi whole
  | @abandon i job found =>
    by_cases hi : i = place
    · subst hi
      cases hfound.symm.trans found
      exact .givesUp hnext (by rw [hclient])
    · obtain ⟨later, -, hkept⟩ := carries.drop hi
      exact carries.elsewhere whole hkept
  | @confirm i placeholder found =>
    have hcarries : Carries { run with tickets := run.tickets.eraseIdx i } place execution :=
      ⟨carries.client, carries.found⟩
    exact carries.elsewhere whole (hcarries.getElem?_follow _)
  | @pursue start loops follower turn found present step =>
    have hkept := congrArg (·[place]?) (run.take_jobs turn.client turn.effects)
    exact carries.elsewhere whole hkept
  | _ => exact carries.elsewhere whole rfl

/-- What has become of a command that was started in a run. -/
inductive Fate (before : ClientRun) (command : Command yield) (run : ClientRun) : Prop
  | carried {execution : Execution yield} {place : Nat}
      (path : Relation.ReflTransGen (Execution.Step Meddles) (.begin before.client command)
        execution)
      (carries : run.Carries place execution)
  | ended {execution : Execution yield} {value : yield.Value}
      (path : Relation.ReflTransGen (Execution.Step Meddles) (.begin before.client command)
        execution)
      (ended : execution.next = .finished value)
  | givenUp {execution : Execution yield} {operation : Operation yield}
      (path : Relation.ReflTransGen (Execution.Step Meddles) (.begin before.client command)
        execution)
      (waits : execution.next = .waiting operation)

/-- Whatever a run does after it has started a command, the command follows its execution. -/
theorem fate_of_path {before : ClientRun} {command : Command yield}
    (path : Relation.ReflTransGen Step (before.follow (command.start before.client)) run) :
    Fate before command run := by
  induction path with
  | refl =>
    rcases before.carries_start command with ⟨place, hcarries⟩ | ⟨value, hended⟩
    · exact .carried .refl hcarries
    · exact .ended .refl hended
  | tail _ step ih =>
    cases ih with
    | carried path carries =>
      cases step.sees carries with
      | goesOn own hcarries => exact .carried (path.tail own) hcarries
      | finishes own _ hended => exact .ended (path.tail own) hended
      | givesUp waits _ => exact .givenUp path waits
    | ended path hended => exact .ended path hended
    | givenUp path waits => exact .givenUp path waits

theorem Meddles.consistent {client later : Client} (meddles : Meddles client later)
    (h : client.catalog.Consistent) : later.catalog.Consistent := by
  obtain ⟨run, next, step, rfl, rfl⟩ := meddles
  exact step.writes.catalog.consistent h

theorem consistent_of_meddling {client later : Client}
    (moved : Relation.ReflTransGen Meddles client later) (h : client.catalog.Consistent) :
    later.catalog.Consistent := by
  induction moved with
  | refl => exact h
  | tail _ meddles ih => exact meddles.consistent ih

theorem Reached.consistent {settings : Settings} {salt : Nat}
    (reached : Reached settings salt run) : run.client.catalog.Consistent := by
  induction reached with
  | refl => exact Catalog.consistent_empty
  | tail _ step ih => exact step.writes.catalog.consistent ih

end ClientRun

namespace Execution

variable {yield : Yield}

theorem begin_consistent {client : Client} (h : client.catalog.Consistent)
    (command : Command yield) : (begin client command).client.catalog.Consistent :=
  (command.start_writes client).catalog.consistent h

theorem Step.consistent {execution next : Execution yield}
    (step : Step ClientRun.Meddles execution next) (h : execution.client.catalog.Consistent) :
    next.client.catalog.Consistent := by
  cases step with
  | settle _ answer waits => exact (Resumption.settle_writes _ _ answer).catalog.consistent h
  | askListing _ waits next => exact h
  | answerListing _ listing waits slotFound asked => exact h
  | settleSweep _ waits done => exact (Client.settleSweep_posts _ _ _).writes.catalog.consistent h
  | drain _ waits => exact (Client.deactivate_posts _ .silent).writes.catalog.consistent h
  | elsewhere _ meddles => exact meddles.consistent h

end Execution
end VpnFleet
