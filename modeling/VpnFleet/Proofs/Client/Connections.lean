import VpnFleet.Proofs.Client.Underway

/-!
# What the notice of an open tunnel says

A tunnel that was opened by command is followed by a status query. When that is
answered with a report, the command returns a session and posts that the client
is connected to the server it was asked for. The notice does not depend on the
session, so it is true only under conditions.

* A query that was not overtaken returns what was reported. The tunnel ends at
  the server if the report says so (`StatusRecord.tunnel?`).
* A query that was overtaken returns the session of the moment, whatever that is.
* A query is overtaken where the tunnel changes hands (`Tracker.Shifts`): an
  opening begins or succeeds, or a closing ends. These moves raise the epoch and
  no others do, so the epochs tell whether one lies between.
-/

namespace VpnFleet

/-- The identifier of the reported tunnel. -/
def StatusRecord.tunnel? (record : StatusRecord) : Option String :=
  if record.connected then
    some ((record.instanceId.bind Text.nonBlank).getD VpnSession.unknownId)
  else none

namespace VpnSession

/-- A tunnel is open, and its end carries the identifier. -/
def EndsAt (session : VpnSession) (id : String) : Prop :=
  ∃ server resolved, session = .connected server resolved ∧ server.id = id

theorem endsAt_connected {server : Instance} {resolved : Bool} {id : String} :
    (connected server resolved).EndsAt id ↔ server.id = id := by
  simp [EndsAt]

/-- The resolved session ends where the report says, resolved or not. -/
theorem resolve_endsAt_iff {inventory : InventorySnapshot} {record : StatusRecord} {id : String} :
    (resolve inventory record).EndsAt id ↔ record.tunnel? = some id := by
  unfold resolve StatusRecord.tunnel?
  cases hconnected : record.connected with
  | false => simp [EndsAt]
  | true =>
    rw [if_pos rfl, if_pos rfl]
    cases hnamed : record.instanceId.bind Text.nonBlank with
    | none => simp [reported, endsAt_connected]
    | some named =>
      dsimp only
      cases hfound : inventory.find? named with
      | none => simp [reported, endsAt_connected]
      | some server =>
        obtain ⟨-, rfl⟩ := InventorySnapshot.find?_eq_some hfound
        simp [endsAt_connected]

end VpnSession

namespace Tracker

/-- The tunnel changes hands: an opening begins or succeeds, or a closing ends. -/
inductive Shifts (tracker : Tracker) : Tracker → Prop
  | opening {target : Instance} {next : Tracker}
      (accepted : tracker.beginConnect target = (next, .ok ())) :
      Shifts tracker next
  | opened (id : String) : Shifts tracker (tracker.settleConnect true id (.ok ())).1
  | closed (answer : Except String Unit) : Shifts tracker (tracker.settleDisconnect true answer).1

variable {tracker next : Tracker} {inventory : InventorySnapshot}

theorem Shifts.epoch (shifts : tracker.Shifts next) :
    next.value.epoch = tracker.value.epoch + 1 := by
  cases shifts with
  | opening accepted => rw [(beginConnect_eq_ok accepted).2]
  | opened id => rfl
  | closed answer => rfl

/-- A move of a live client leaves the epoch, unless the tunnel changes hands. -/
theorem Move.epoch_eq_or_shifts (move : Move true inventory tracker next) :
    next.value.epoch = tracker.value.epoch ∨ tracker.Shifts next := by
  cases move with
  | stay => exact Or.inl rfl
  | settleQuery began answer => exact Or.inl (settleQuery_keeps _ _ _ _ _).2
  | reconcile => exact Or.inl rfl
  | beginConnect target =>
    rcases hbegun : tracker.beginConnect target with ⟨after, error | ready⟩
    · rw [beginConnect_eq_error hbegun]
      exact Or.inl rfl
    · exact Or.inr (.opening hbegun)
  | settleConnect id answer =>
    cases answer with
    | ok ready => exact Or.inr (.opened id)
    | error message => exact Or.inl rfl
  | settleDisconnect answer => exact Or.inr (.closed answer)

end Tracker

/-- The opening of a tunnel succeeds for a command that posts, which goes on with a query. -/
inductive Resumption.Opens :
    {call : Call} → {yield : Yield} → Resumption call yield → call.Answer → String → Prop
  | mk (target : Instance) : Opens (.connect target .noticed) (.ok ()) target.id

/-- The opening of a tunnel by command, as it waits for its answer. -/
def Operation.opening (target : Instance) : Operation .session :=
  .awaiting (.connect target.id target.region) (.connect target .noticed)

/-- The query after an opening, as it waits for its answer. -/
def Operation.opened (began : Nat) (id : String) : Operation .session :=
  .awaiting .status (.query began (.opened id))

section Leftovers

variable {client : Client} {began : Nat} {id : String}

/-- No command begins with the query after an opening. -/
theorem Command.start_next_ne_opened (command : Command .session) :
    (command.start client).next ≠ .waiting (.opened began id) := by
  have hopening (target : Instance) (reporting : Reporting) :
      (client.openTunnel target reporting).next ≠ .waiting (.opened began id) := by
    unfold Client.openTunnel
    split <;> nofun
  cases command with
  | connect target =>
    show (client.connect target).next ≠ _
    unfold Client.connect
    split
    · exact hopening _ _
    · nofun
  | openTunnel target => exact hopening target .silent
  | queryStatus => nofun

/-- A query is the last call of a command. -/
theorem QueryGoal.settle_next_ne_opened
    (goal : QueryGoal .session) (outcome : Except SessionError VpnSession) :
    (goal.settle client outcome).next ≠ .waiting (.opened began id) := by
  cases goal <;> cases outcome <;> nofun

/-- Only the success of an opening leads to the query after it, in the epoch that it leaves. -/
theorem Resumption.opens_of_settle
    {call : Call} {resumption : Resumption call .session} {answer : call.Answer}
    (h : (resumption.settle client answer).next = .waiting (.opened began id)) :
    resumption.Opens answer id
      ∧ began = (resumption.settle client answer).client.tracker.value.epoch := by
  cases resumption with
  | connect target reporting =>
    cases answer with
    | error message => cases reporting <;> cases h
    | ok ready =>
      cases reporting with
      | silent => cases h
      | noticed =>
        cases h
        exact ⟨.mk target, rfl⟩
  | query earlier goal =>
    exact absurd h (goal.settle_next_ne_opened _)
  | load goal => cases goal

theorem QueryGoal.eq_ok_of_settle_opened
    {outcome : Except SessionError VpnSession} {session : VpnSession}
    (h : (QueryGoal.settle client outcome (.opened id)).next = .finished (.ok session)) :
    outcome = .ok session
      ∧ (QueryGoal.settle client outcome (.opened id)).client.notices
        = client.notices.post .info .connect ("Connected to " ++ id) := by
  cases outcome with
  | error error => cases h
  | ok returned =>
    cases h
    exact ⟨rfl, rfl⟩

/-- The query after an opening that returns a session was answered with a report. Its notice does
not depend on the session. -/
theorem Resumption.settle_opened_eq_ok
    {answer : Except String StatusRecord} {session : VpnSession}
    (h : (Resumption.settle client (.query began (.opened id)) answer).next
      = .finished (.ok session)) :
    ∃ record,
      answer = .ok record
        ∧ (client.tracker.settleQuery client.alive client.inventory.value began answer).2
          = .ok session
        ∧ (Resumption.settle client (.query began (.opened id)) answer).client.notices
          = client.notices.post .info .connect ("Connected to " ++ id) := by
  let settled := client.tracker.settleQuery client.alive client.inventory.value began answer
  obtain ⟨houtcome, hnotices⟩ : settled.2 = .ok session ∧ _ := QueryGoal.eq_ok_of_settle_opened h
  have hisOk : settled.2.isOk = answer.isOk := client.tracker.settleQuery_isOk _ _ _ answer
  rw [houtcome] at hisOk
  cases answer with
  | error message => cases hisOk
  | ok record => exact ⟨record, rfl, houtcome, hnotices⟩

end Leftovers

namespace ClientRun

variable {settings : Settings} {salt : Nat} {run next : ClientRun}
variable {began : Nat} {id : String} {awaited : Option Nat}

/-- The call that opens a tunnel by command succeeds. -/
inductive Opens (run : ClientRun) (id : String) : ClientRun → Prop
  | mk {i : Nat} {target : Instance} {awaited : Option Nat}
      (found : run.jobs[i]? = some ⟨.session, .opening target, awaited⟩)
      (named : target.id = id) :
      Opens run id ((run.drop i).follow
        (Resumption.settle run.client (.connect target .noticed) (.ok ())))

/-- A query after an opening that is under way after a step was under way before, or the step is
the success of the opening. -/
theorem Step.mem_opened
    (step : Step run next) (hjob : ⟨.session, .opened began id, awaited⟩ ∈ next.jobs) :
    ⟨.session, .opened began id, awaited⟩ ∈ run.jobs
      ∨ Opens run id next ∧ began = next.client.tracker.value.epoch := by
  cases step with
  | start command =>
    rcases run.mem_follow_jobs hjob with hearlier | ⟨operation, _, hnext, hsame⟩
    · exact Or.inl hearlier
    · cases hsame
      exact absurd hnext (command.start_next_ne_opened)
  | @settle i yield call resumption _ answer found =>
    rcases (run.drop i).mem_follow_jobs hjob with hearlier | ⟨operation, _, hnext, hsame⟩
    · exact Or.inl (List.mem_of_mem_eraseIdx hearlier)
    · cases hsame
      obtain ⟨hopens, hepoch⟩ := Resumption.opens_of_settle hnext
      cases hopens with
      | mk target => exact Or.inr ⟨.mk found rfl, by rw [follow_client]; exact hepoch⟩
  | @settleSweep i yield sweep goal _ found done =>
    rcases (run.drop i).mem_follow_jobs hjob with hearlier | ⟨operation, _, hnext, hsame⟩
    · exact Or.inl (List.mem_of_mem_eraseIdx hearlier)
    · cases hsame
      cases goal
  | @drain i _ found ended =>
    rcases (run.drop i).mem_follow_jobs hjob with hearlier | ⟨operation, _, hnext, hsame⟩
    · exact Or.inl (List.mem_of_mem_eraseIdx hearlier)
    · cases hsame
  | @confirm i placeholder found =>
    rcases mem_follow_jobs _ hjob with hearlier | ⟨operation, _, hnext, hsame⟩
    · exact Or.inl hearlier
    · cases hsame
  | askListing found next =>
    rcases List.mem_or_eq_of_mem_set hjob with hearlier | hsame
    · exact Or.inl hearlier
    · cases hsame
  | answerListing listing found slotFound asked =>
    rcases List.mem_or_eq_of_mem_set hjob with hearlier | hsame
    · exact Or.inl hearlier
    · cases hsame
  | abandon found => exact Or.inl (List.mem_of_mem_eraseIdx hjob)
  | pursue found present step =>
    rw [setLoops, take_jobs] at hjob
    exact Or.inl hjob
  | _ => exact Or.inl hjob

/-- A query after an opening began where the opening succeeded. -/
theorem Reached.exists_opened
    (reached : Reached settings salt run)
    (hjob : ⟨.session, .opened began id, awaited⟩ ∈ run.jobs) :
    ∃ before opened,
      Reached settings salt before
        ∧ Opens before id opened
        ∧ began = opened.client.tracker.value.epoch
        ∧ Relation.ReflTransGen Step opened run := by
  induction reached with
  | refl => cases hjob
  | @tail mid last reached step ih =>
    rcases step.mem_opened hjob with hearlier | ⟨hopens, hepoch⟩
    · obtain ⟨before, opened, hbefore, hopens, hepoch, path⟩ := ih hearlier
      exact ⟨before, opened, hbefore, hopens, hepoch, path.tail step⟩
    · exact ⟨mid, last, reached, hopens, hepoch, .refl⟩

/-- Between the two the tunnel changed hands. -/
def Overtaken (opened run : ClientRun) : Prop :=
  ∃ before after,
    Relation.ReflTransGen Step opened before
      ∧ Step before after
      ∧ before.client.tracker.Shifts after.client.tracker
      ∧ Relation.ReflTransGen Step after run

theorem Step.epoch_eq_or_shifts (step : Step run next) (halive : run.client.alive = true) :
    next.client.tracker.value.epoch = run.client.tracker.value.epoch
      ∨ run.client.tracker.Shifts next.client.tracker := by
  have hmove := step.move.tracker
  rw [halive] at hmove
  exact hmove.epoch_eq_or_shifts

theorem epoch_le_of_path
    {opened : ClientRun} (path : Relation.ReflTransGen Step opened run)
    (halive : run.client.alive = true) :
    opened.client.tracker.value.epoch ≤ run.client.tracker.value.epoch := by
  induction path with
  | refl => exact Nat.le_refl _
  | @tail mid last path step ih =>
    have hmid : mid.client.alive = true := alive_of_path (.single step) halive
    have hle := ih hmid
    rcases step.epoch_eq_or_shifts hmid with hsame | hshifts
    · omega
    · have hraised := hshifts.epoch
      omega

/-- The epoch differs exactly if the tunnel changed hands in between. -/
theorem overtaken_iff
    {opened : ClientRun} (path : Relation.ReflTransGen Step opened run)
    (halive : run.client.alive = true) :
    Overtaken opened run
      ↔ run.client.tracker.value.epoch ≠ opened.client.tracker.value.epoch := by
  constructor
  · rintro ⟨before, after, hbefore, step, hshifts, hafter⟩
    have halive' : before.client.alive = true := alive_of_path (hafter.head step) halive
    have hle := epoch_le_of_path hbefore halive'
    have hle' := epoch_le_of_path hafter halive
    have hraised := hshifts.epoch
    omega
  · intro hepoch
    induction path with
    | refl => exact absurd rfl hepoch
    | @tail mid last path step ih =>
      have hmid : mid.client.alive = true := alive_of_path (.single step) halive
      rcases step.epoch_eq_or_shifts hmid with hsame | hshifts
      · obtain ⟨before, after, hbefore, hstep, hshifts, hafter⟩ := ih hmid (hsame ▸ hepoch)
        exact ⟨before, after, hbefore, hstep, hshifts, hafter.tail step⟩
      · exact ⟨mid, last, path, step, hshifts, .refl⟩

/-- **Connected.** Let the opening of a tunnel by command return a session. It posts that the client
is connected, and the session is a tunnel to the server it was asked for exactly in two cases: the
tunnel did not change hands since the call succeeded, and the report names that server; or it did,
and the tunnel of the moment ends there. -/
theorem connected_is_true_iff
    (reached : Reached settings salt run)
    (halive : run.client.alive = true)
    {i : Nat} (found : run.jobs[i]? = some ⟨.session, .opened began id, awaited⟩)
    {answer : Except String StatusRecord} {session : VpnSession}
    (returned : (Resumption.settle run.client (.query began (.opened id)) answer).next
      = .finished (.ok session)) :
    (Resumption.settle run.client (.query began (.opened id)) answer).client.notices
        = run.client.notices.post .info .connect ("Connected to " ++ id)
      ∧ ∃ record before opened,
        answer = .ok record
          ∧ Reached settings salt before
          ∧ Opens before id opened
          ∧ began = opened.client.tracker.value.epoch
          ∧ Relation.ReflTransGen Step opened run
          ∧ (session.EndsAt id
            ↔ (¬ Overtaken opened run ∧ record.tunnel? = some id)
              ∨ (Overtaken opened run ∧ run.client.tracker.session.EndsAt id)) := by
  obtain ⟨before, opened, hbefore, hopens, rfl, path⟩ :=
    reached.exists_opened (List.mem_of_getElem? found)
  obtain ⟨record, rfl, hsession, hnotices⟩ := Resumption.settle_opened_eq_ok returned
  refine ⟨hnotices, record, before, opened, rfl, hbefore, hopens, rfl, path, ?_⟩
  have hovertaken := overtaken_iff path halive
  by_cases hepoch : run.client.tracker.value.epoch = opened.client.tracker.value.epoch
  · have hcurrent : ¬ Overtaken opened run := fun hover => hovertaken.1 hover hepoch
    rw [← hepoch, halive, (Tracker.settleQuery_current_ok _ _ _).2] at hsession
    cases hsession
    simp [hcurrent, VpnSession.resolve_endsAt_iff]
  · have hover : Overtaken opened run := hovertaken.2 hepoch
    rw [Tracker.settleQuery_of_stale hepoch] at hsession
    cases hsession
    simp [hover]

/-- A tunnel is opened by command and the report that follows knows of none. The command returns no
tunnel and posts that the client is connected. -/
theorem missing_tunnel_is_posted_as_connected :
    ∃ run began record,
      Reached Settings.default 0 run
        ∧ run.client.alive = true
        ∧ run.jobs = [⟨.session, .opened began "i-1", none⟩]
        ∧ record.tunnel? = none
        ∧ (Resumption.settle run.client (.query began (.opened "i-1")) (.ok record)).next
          = .finished (.ok .disconnected)
        ∧ (Resumption.settle run.client (.query began (.opened "i-1")) (.ok record)).client.notices
          = run.client.notices.post .info .connect ("Connected to " ++ "i-1")
        ∧ ¬ VpnSession.disconnected.EndsAt "i-1" := by
  let record : StatusRecord :=
    { connected := false, instanceId := none, publicV4 := none, publicV6 := none }
  have begun : Reached Settings.default 0 _ :=
    (Relation.ReflTransGen.refl.tail (Step.insert _
      { id := "i-1", name := "vpn", lifecycle := .running, publicV4 := "198.51.100.1",
        publicV6 := none, region := "eu-1" })).tail
      (Step.start _ (.connect "i-1"))
  have opened := begun.tail (@Step.settle _ 0 .session (.connect "i-1" "eu-1")
    (.connect
      { id := "i-1", name := "vpn", lifecycle := .running, publicV4 := "198.51.100.1",
        publicV6 := none, region := "eu-1" } .noticed)
    none (.ok ()) rfl)
  obtain ⟨run, reached, halive, hjobs, returned⟩ :
      ∃ run, Reached Settings.default 0 run
        ∧ run.client.alive = true
        ∧ run.jobs = [⟨.session, .opened 2 "i-1", none⟩]
        ∧ (Resumption.settle run.client (.query 2 (.opened "i-1")) (.ok record)).next
          = .finished (.ok .disconnected) :=
    ⟨_, opened, rfl, rfl, rfl⟩
  have found : run.jobs[0]? = some ⟨.session, .opened 2 "i-1", none⟩ := by
    rw [hjobs]
    rfl
  obtain ⟨hnotices, -⟩ := connected_is_true_iff reached halive found returned
  exact ⟨run, 2, record, reached, halive, hjobs, rfl, returned, hnotices, nofun⟩

end ClientRun
end VpnFleet
