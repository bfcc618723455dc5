import Mathlib.Algebra.GroupWithZero.Nat
import Mathlib.Order.WellFounded
import VpnFleet.Client.Direct
import VpnFleet.Proofs.Client.Account

/-!
# One command among others

A command is followed from its start to its result, while others use the same
client. What it asks for, what it is told and what it posts is written down on
the way, so that a notice of somebody else is never taken for one of its own.

* An `Execution` is the client, what is left of the command, and the `Account`
  of the command. `Execution.Step others` is a step of the command, or of
  somebody else, who changes the client as `others` says.
* `nobody` leaves the client to the command. Each of its steps brings it nearer
  to its end (`Execution.wellFounded_nobody`), so that it comes to a value
  whatever the backend answers (`Execution.concludes_of_invariant`).
* An update of the credentials is one call, and behind it a bootstrap
  (`Execution.Updates`).
-/

namespace VpnFleet

namespace Slot

/-- How many steps the listing of the region still takes. -/
def work (slot : Slot) : Nat :=
  match slot.state with
  | .waiting => 2
  | .asked => 1
  | .answered _ => 0

theorem work_of_isWaiting {slot : Slot} (waiting : slot.isWaiting = true) : slot.work = 2 := by
  rcases slot with ⟨region, state⟩
  cases state with
  | waiting => rfl
  | _ => cases waiting

theorem work_of_isAsked {slot : Slot} (asked : slot.isAsked = true) : slot.work = 1 := by
  rcases slot with ⟨region, state⟩
  cases state with
  | asked => rfl
  | _ => cases asked

end Slot

namespace Sweep

variable {sweep : Sweep} {i : Nat}

def work (sweep : Sweep) : Nat :=
  (sweep.slots.map Slot.work).sum

/-- Less is left where one slot needs less. -/
theorem work_mark_lt {slot : Slot} {state : SlotState} (found : sweep.slots[i]? = some slot)
    (less : Slot.work { slot with state } < slot.work) :
    (sweep.mark i state).work < sweep.work := by
  obtain ⟨hi, rfl⟩ := List.getElem?_eq_some_iff.1 found
  unfold work mark
  rw [List.modify_eq_take_cons_drop hi]
  calc ((sweep.slots.take i ++ { sweep.slots[i] with state } ::
          sweep.slots.drop (i + 1)).map Slot.work).sum
      < ((sweep.slots.take i ++ sweep.slots[i] :: sweep.slots.drop (i + 1)).map
          Slot.work).sum := by
        simp only [List.map_append, List.map_cons, List.sum_append, List.sum_cons]
        omega
    _ = (sweep.slots.map Slot.work).sum := by simp

theorem exists_of_next? {region : String} (next : sweep.next? = some (i, region)) :
    ∃ slot, sweep.slots[i]? = some slot ∧ slot.isWaiting = true := by
  unfold next? at next
  split at next
  · cases next
  · simp only [Option.pure_def, Option.bind_eq_bind, Option.bind_eq_some_iff] at next
    obtain ⟨j, hj, slot, hslot, hnext⟩ := next
    obtain ⟨rfl, -⟩ := Prod.mk.inj (Option.some.inj hnext)
    exact Keyed.exists_getElem?_of_findIdx? hj

end Sweep

/-- How many steps of listings are left. -/
def Next.work {yield : Yield} : Next yield → Nat
  | .waiting (.sweeping sweep _) => sweep.work
  | _ => 0

/-- The client once new credentials were accepted and this was announced. -/
def Client.announced (client : Client) (credentials : Credentials) : Client :=
  client.post .info .credentials ("Saved " ++ credentials.provider ++ " credentials")

/-- A command from its start on. -/
structure Execution (yield : Yield) where
  client : Client
  next : Next yield
  account : Account

namespace Execution

variable {yield : Yield}

/-- The command has taken a turn. -/
def after (account : Account) (client : Client) (turn : Turn yield) : Execution yield where
  client := turn.client
  next := turn.next
  account := account.take client turn

theorem after_finished (account : Account) (client later : Client) (value : yield.Value) :
    after account client (Turn.finished later value)
      = { client := later
          next := .finished value
          account := { account with
            posted := account.posted ++ client.notices.postedSince later.notices } } := by
  simp [after, Account.take, Turn.finished, Next.call?, Next.sweeps]

theorem after_awaiting (account : Account) (client later : Client) (call : Call)
    (resumption : Resumption call yield) :
    after account client (Turn.awaiting later call resumption)
      = { client := later
          next := .waiting (.awaiting call resumption)
          account := { account with
            asked := account.asked ++ [call]
            posted := account.posted ++ client.notices.postedSince later.notices } } := by
  simp [after, Account.take, Turn.awaiting, Next.call?, Next.sweeps]

theorem after_refresh (account : Account) (client present : Client)
    (goal : RefreshGoal yield) :
    after account client (present.refresh goal)
      = { client := { present with inventory := present.inventory.beginRefresh }
          next := .waiting (.sweeping
            (Sweep.ofRegions present.options.maxListings present.catalog.codes) goal)
          account := { account with
            posted := account.posted ++ client.notices.postedSince present.notices
            codes := present.catalog.codes } } := by
  simp [after, Account.take, Client.refresh, Next.call?, Next.sweeps]

def begin (client : Client) (command : Command yield) : Execution yield :=
  after .empty client (command.start client)

/-- The listing of a region was asked for. -/
def ask (execution : Execution yield) (region : String) (sweep : Sweep)
    (goal : RefreshGoal yield) : Execution yield :=
  { execution with
    next := .waiting (.sweeping sweep goal)
    account := { execution.account with
      asked := execution.account.asked ++ [.listInstances region] } }

/-- The listing of a region came back. -/
def answer (execution : Execution yield) (region : String) (listing : Listing) (sweep : Sweep)
    (goal : RefreshGoal yield) : Execution yield :=
  { execution with
    next := .waiting (.sweeping sweep goal)
    account := execution.account.hear ⟨.listInstances region, listing⟩ }

/-- One step of the command, or of somebody else. -/
inductive Step (others : Client → Client → Prop) :
    {yield : Yield} → Execution yield → Execution yield → Prop
  | settle {yield : Yield} (execution : Execution yield) {call : Call}
      {resumption : Resumption call yield} (answer : call.Answer)
      (waits : execution.next = .waiting (.awaiting call resumption)) :
      Step others execution (after (execution.account.hear ⟨call, answer⟩) execution.client
        (resumption.settle execution.client answer))
  | askListing {yield : Yield} (execution : Execution yield) {sweep : Sweep}
      {goal : RefreshGoal yield} {slot : Nat} {region : String}
      (waits : execution.next = .waiting (.sweeping sweep goal))
      (next : sweep.next? = some (slot, region)) :
      Step others execution (execution.ask region (sweep.ask slot) goal)
  | answerListing {yield : Yield} (execution : Execution yield) {sweep : Sweep}
      {goal : RefreshGoal yield} {slot : Nat} {place : Slot} (listing : Listing)
      (waits : execution.next = .waiting (.sweeping sweep goal))
      (slotFound : sweep.slots[slot]? = some place)
      (asked : place.isAsked = true) :
      Step others execution
        (execution.answer place.region listing (sweep.answer slot listing) goal)
  | settleSweep {yield : Yield} (execution : Execution yield) {sweep : Sweep}
      {goal : RefreshGoal yield}
      (waits : execution.next = .waiting (.sweeping sweep goal))
      (done : sweep.isDone = true) :
      Step others execution (after execution.account execution.client
        (execution.client.settleSweep sweep goal))
  | drain (execution : Execution .unit) (waits : execution.next = .waiting .draining) :
      Step others execution (after execution.account execution.client execution.client.drained)
  | elsewhere {yield : Yield} (execution : Execution yield) {client : Client}
      (meddles : others execution.client client) :
      Step others execution { execution with client }

/-- Nobody else uses the client. -/
def nobody : Client → Client → Prop :=
  fun _ _ => False

variable {others : Client → Client → Prop} {execution next : Execution yield}

theorem eq_of_nobody {client present : Client}
    (moved : Relation.ReflTransGen nobody client present) : present = client := by
  rcases moved.cases_tail with heq | ⟨_, _, hmeddles⟩
  · exact heq
  · exact hmeddles.elim

section Ending

/-- The stages of the command that are left, and what is left of the listings of its refresh. -/
def rank (execution : Execution yield) : Nat × Nat :=
  (execution.next.stage, execution.next.work)

theorem Step.rank_lt (step : Step nobody execution next) :
    Prod.Lex (· < ·) (· < ·) next.rank execution.rank := by
  unfold rank
  cases step with
  | settle _ answer waits =>
    rw [waits]
    exact .left _ _ (Resumption.settle_stage_lt _ _ answer)
  | askListing _ waits next =>
    rw [waits]
    obtain ⟨slot, hslot, hwaiting⟩ := Sweep.exists_of_next? next
    have hless : Slot.work { slot with state := .asked } < slot.work := by
      rw [Slot.work_of_isWaiting hwaiting]
      exact Nat.one_lt_two
    exact .right _ (Sweep.work_mark_lt hslot hless)
  | @answerListing _ _ _ _ _ place listing waits slotFound asked =>
    rw [waits]
    have hless : Slot.work { place with state := .answered listing } < place.work := by
      rw [Slot.work_of_isAsked asked]
      exact Nat.one_pos
    exact .right _ (Sweep.work_mark_lt slotFound hless)
  | settleSweep _ waits done =>
    rw [waits]
    exact .left _ _ (Nat.lt_succ_of_le (RefreshGoal.settle_stage_le _ _ _))
  | drain _ waits =>
    rw [waits]
    exact .left _ _ (Nat.lt_succ_of_le (Client.deactivate_stage_le _ _))
  | elsewhere _ meddles => exact meddles.elim

theorem not_step_of_finished {value : yield.Value} (ended : execution.next = .finished value) :
    ¬ Step nobody execution next := by
  intro step
  cases step with
  | settle _ answer waits => cases ended.symm.trans waits
  | askListing _ waits next => cases ended.symm.trans waits
  | answerListing _ listing waits slotFound asked => cases ended.symm.trans waits
  | settleSweep _ waits done => cases ended.symm.trans waits
  | drain _ waits => cases ended.symm.trans waits
  | elsewhere _ meddles => exact meddles

/-- A command that waits for an answer goes on with it. -/
theorem Step.exists_answer {call : Call} {resumption : Resumption call yield}
    (step : Step nobody execution next)
    (waits : execution.next = .waiting (.awaiting call resumption)) :
    ∃ answer : call.Answer,
      next = after (execution.account.hear ⟨call, answer⟩) execution.client
        (resumption.settle execution.client answer) := by
  cases step with
  | settle _ answer found =>
    cases waits.symm.trans found
    exact ⟨answer, rfl⟩
  | askListing _ found next => cases waits.symm.trans found
  | answerListing _ listing found slotFound asked => cases waits.symm.trans found
  | settleSweep _ found done => cases waits.symm.trans found
  | drain _ found => cases waits.symm.trans found
  | elsewhere _ meddles => exact meddles.elim

/-- A command that lists the regions asks for a listing, gets one, or has them all. -/
theorem Step.listing_cases {sweep : Sweep} {goal : RefreshGoal yield}
    (step : Step nobody execution next)
    (waits : execution.next = .waiting (.sweeping sweep goal)) :
    (∃ slot region, sweep.next? = some (slot, region)
        ∧ next = execution.ask region (sweep.ask slot) goal)
      ∨ (∃ (i : Nat) (slot : Slot) (listing : Listing),
        sweep.slots[i]? = some slot ∧ slot.isAsked = true
          ∧ next = execution.answer slot.region listing (sweep.answer i listing) goal)
      ∨ sweep.isDone = true
        ∧ next = after execution.account execution.client
          (execution.client.settleSweep sweep goal) := by
  cases step with
  | askListing _ found next =>
    cases waits.symm.trans found
    exact Or.inl ⟨_, _, next, rfl⟩
  | answerListing _ listing found slotFound asked =>
    cases waits.symm.trans found
    exact Or.inr (Or.inl ⟨_, _, listing, slotFound, asked, rfl⟩)
  | settleSweep _ found done =>
    cases waits.symm.trans found
    exact Or.inr (Or.inr ⟨done, rfl⟩)
  | settle _ answer found => cases waits.symm.trans found
  | drain _ found => cases waits.symm.trans found
  | elsewhere _ meddles => exact meddles.elim

/-- No command goes on for ever. -/
theorem wellFounded_nobody :
    WellFounded fun later earlier : Execution yield => Step nobody earlier later :=
  Subrelation.wf Step.rank_lt
    (InvImage.wf rank (Prod.lex ⟨_, wellFounded_lt⟩ ⟨_, wellFounded_lt⟩).wf)

/-- Whatever the backend answers, a command that has the client for itself comes to a result, and
the property holds of it. -/
inductive Concludes (P : Execution yield → yield.Value → Prop) : Execution yield → Prop
  | finished {execution : Execution yield} {value : yield.Value}
      (ended : execution.next = .finished value)
      (holds : P execution value) :
      Concludes P execution
  | goesOn {execution : Execution yield}
      (can : ∃ next, Step nobody execution next)
      (every : ∀ next, Step nobody execution next → Concludes P next) :
      Concludes P execution

/-- The property holds wherever the command comes to its value. -/
theorem Concludes.of_path {P : Execution yield → yield.Value → Prop} (h : execution.Concludes P)
    (path : Relation.ReflTransGen (Step nobody) execution next) {value : yield.Value}
    (ended : next.next = .finished value) :
    P next value := by
  induction h with
  | @finished execution known hended holds =>
    rcases path.cases_head with rfl | ⟨_, step, -⟩
    · cases hended.symm.trans ended
      exact holds
    · exact absurd step (not_step_of_finished hended)
  | @goesOn execution can _ ih =>
    rcases path.cases_head with rfl | ⟨later, step, rest⟩
    · obtain ⟨later, step⟩ := can
      exact absurd step (not_step_of_finished ended)
    · exact ih later step rest

/-- What every step keeps, and what lets an unfinished command go on, brings it to its result. -/
theorem concludes_of_invariant {P : Execution yield → yield.Value → Prop}
    {I : Execution yield → Prop}
    (preserved : ∀ execution next, I execution → Step nobody execution next → I next)
    (stands : ∀ execution, I execution →
      (∃ value, execution.next = .finished value ∧ P execution value)
        ∨ ∃ next, Step nobody execution next)
    (execution : Execution yield) :
    I execution → execution.Concludes P := by
  induction execution using wellFounded_nobody.induction with
  | _ execution ih =>
    intro h
    rcases stands execution h with ⟨value, hended, hholds⟩ | hcan
    · exact .finished hended hholds
    · exact .goesOn hcan fun next step => ih next step (preserved _ _ h step)

end Ending

section Behind

/-- The execution of a command that goes on where another one has come to. -/
def behind (first : Account) (execution : Execution yield) : Execution yield :=
  { execution with account := first.behind execution.account }

theorem after_behind (first account : Account) (client : Client) (turn : Turn yield) :
    after (first.behind account) client turn = (after account client turn).behind first := by
  simp [after, behind, Account.take_behind]

theorem ask_behind (first : Account) (execution : Execution yield) (region : String)
    (sweep : Sweep) (goal : RefreshGoal yield) :
    (execution.behind first).ask region sweep goal
      = (execution.ask region sweep goal).behind first := by
  simp [ask, behind, Account.behind]

theorem answer_behind (first : Account) (execution : Execution yield) (region : String)
    (listing : Listing) (sweep : Sweep) (goal : RefreshGoal yield) :
    (execution.behind first).answer region listing sweep goal
      = (execution.answer region listing sweep goal).behind first := by
  simp [answer, behind, Account.hear_behind]

theorem settle_behind (first : Account) (execution : Execution yield) {call : Call}
    (resumption : Resumption call yield) (answer : call.Answer) :
    after ((execution.behind first).account.hear ⟨call, answer⟩) (execution.behind first).client
        (resumption.settle (execution.behind first).client answer)
      = (after (execution.account.hear ⟨call, answer⟩) execution.client
          (resumption.settle execution.client answer)).behind first := by
  rw [← after_behind, ← Account.hear_behind]
  rfl

/-- A command goes on in the same way behind another one. -/
theorem Step.behind (first : Account) (step : Step others execution next) :
    Step others (execution.behind first) (next.behind first) := by
  cases step with
  | settle _ answer waits =>
    rw [← settle_behind]
    exact .settle (execution.behind first) answer waits
  | askListing _ waits next =>
    rw [← ask_behind]
    exact .askListing (execution.behind first) waits next
  | answerListing _ listing waits slotFound asked =>
    rw [← answer_behind]
    exact .answerListing (execution.behind first) listing waits slotFound asked
  | settleSweep _ waits done =>
    rw [← after_behind]
    exact .settleSweep (execution.behind first) waits done
  | drain _ waits =>
    rw [← after_behind]
    exact .drain _ waits
  | elsewhere _ meddles => exact .elsewhere _ meddles

/-- What came before does not matter for what comes next. -/
theorem Step.of_behind {first : Account} (step : Step others (execution.behind first) next) :
    ∃ later, Step others execution later ∧ next = later.behind first := by
  cases step with
  | settle _ answer waits => exact ⟨_, .settle execution answer waits, settle_behind _ _ _ _⟩
  | askListing _ waits next => exact ⟨_, .askListing execution waits next, ask_behind _ _ _ _ _⟩
  | answerListing _ listing waits slotFound asked =>
    exact ⟨_, .answerListing execution listing waits slotFound asked, answer_behind _ _ _ _ _ _⟩
  | settleSweep _ waits done => exact ⟨_, .settleSweep execution waits done, after_behind _ _ _ _⟩
  | drain _ waits => exact ⟨_, .drain execution waits, after_behind _ _ _ _⟩
  | elsewhere _ meddles => exact ⟨_, .elsewhere execution meddles, rfl⟩

end Behind

section Credentials

variable {client : Client} {credentials : Credentials}

/-- Where an update of the credentials stands: it waits for its answer, it was refused, or it was
accepted and goes on as a bootstrap. -/
inductive Updates (others : Client → Client → Prop) (client : Client)
    (credentials : Credentials) : Execution .bootstrap → Prop
  | waits {present : Client} (moved : Relation.ReflTransGen others client present) :
      Updates others client credentials {
        client := present
        next := .waiting (.awaiting (.saveCredentials credentials) (.save credentials))
        account := .asking credentials }
  | refused {present later : Client} (message : String)
      (moved : Relation.ReflTransGen others client present)
      (movedOn : Relation.ReflTransGen others
        (present.postError .credentials (.credentials message)) later) :
      Updates others client credentials {
        client := later
        next := .finished (.error (.credentials message))
        account := .refused credentials message }
  | accepted {present : Client} {boot : Execution .bootstrap}
      (moved : Relation.ReflTransGen others client present)
      (path : Relation.ReflTransGen (Step others)
        (begin (present.announced credentials) .bootstrap) boot) :
      Updates others client credentials (boot.behind (.accepted credentials))

theorem begin_bootstrap (client : Client) :
    begin client .bootstrap
      = { client := { client with catalog := client.catalog.beginLoad }
          next := .waiting (.awaiting .listRegions (.load .bootstrap))
          account := { Account.empty with asked := [.listRegions] } } := by
  unfold begin
  show after _ _ (Turn.awaiting _ _ _) = _
  rw [after_awaiting]
  simp [Account.empty]

theorem begin_saveCredentials (client : Client) (credentials : Credentials) :
    begin client (.saveCredentials credentials)
      = { client := client
          next := .waiting (.awaiting (.saveCredentials credentials) (.save credentials))
          account := .asking credentials } := by
  unfold begin
  show after _ _ (Turn.awaiting _ _ _) = _
  rw [after_awaiting]
  simp [Account.asking, Account.empty]

/-- Accepted credentials are announced, and a bootstrap begins. -/
theorem after_accepted (client : Client) (credentials : Credentials) :
    after ((Account.asking credentials).hear ⟨.saveCredentials credentials, .ok ()⟩) client
        ((Resumption.save credentials).settle client (.ok ()))
      = (begin (client.announced credentials) .bootstrap).behind (.accepted credentials) := by
  show after _ _ (Turn.awaiting _ _ _) = _
  rw [after_awaiting, begin_bootstrap]
  simp [behind, Client.announced, Account.behind, Account.hear, Account.asking, Account.empty,
    Account.accepted]

theorem after_refused (client : Client) (credentials : Credentials) (message : String) :
    after ((Account.asking credentials).hear ⟨.saveCredentials credentials, .error message⟩) client
        ((Resumption.save credentials).settle client (.error message))
      = { client := client.postError .credentials (.credentials message)
          next := .finished (.error (.credentials message))
          account := .refused credentials message } := by
  refine (after_finished _ _ _ _).trans ?_
  simp [Account.hear, Account.asking, Account.empty, Account.refused]

theorem Updates.step {execution next : Execution .bootstrap}
    (h : Updates others client credentials execution) (step : Step others execution next) :
    Updates others client credentials next := by
  cases h with
  | @waits present moved =>
    cases step with
    | settle _ answer waits =>
      cases waits
      cases answer with
      | ok reply =>
        have haccepted : Updates others client credentials _ := .accepted moved .refl
        rw [← after_accepted] at haccepted
        exact haccepted
      | error message =>
        have hrefused : Updates others client credentials _ := .refused message moved .refl
        rw [← after_refused] at hrefused
        exact hrefused
    | elsewhere _ meddles => exact .waits (moved.tail meddles)
    | askListing _ waits next => cases waits
    | answerListing _ listing waits slotFound asked => cases waits
    | settleSweep _ waits done => cases waits
  | refused message moved movedOn =>
    cases step with
    | elsewhere _ meddles => exact .refused message moved (movedOn.tail meddles)
    | settle _ answer waits => cases waits
    | askListing _ waits next => cases waits
    | answerListing _ listing waits slotFound asked => cases waits
    | settleSweep _ waits done => cases waits
  | accepted moved path =>
    obtain ⟨later, hstep, rfl⟩ := step.of_behind
    exact .accepted moved (path.tail hstep)

theorem updates_of_path {execution : Execution .bootstrap}
    (path : Relation.ReflTransGen (Step others) (begin client (.saveCredentials credentials))
      execution) :
    Updates others client credentials execution := by
  induction path with
  | refl =>
    rw [begin_saveCredentials]
    exact .waits .refl
  | tail _ step ih => exact ih.step step

end Credentials

end Execution

end VpnFleet
