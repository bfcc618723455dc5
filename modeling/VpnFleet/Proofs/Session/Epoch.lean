import VpnFleet.Proofs.History
import VpnFleet.Proofs.Session.Operations
import VpnFleet.Proofs.Session.Run

/-!
# The epoch guard

A status query is overtaken when, after it began, an opening begins or succeeds
or a closing ends. While the client is alive, the answer to a query is applied
exactly if the query was not overtaken.

The epoch counts the overtaking events of the whole history, and a query
remembers the count of the history that it began with. The two differ exactly
if an overtaking event lies between.
-/

namespace VpnFleet

/-- The event makes the queries under way stale: an opening begins or succeeds, or a closing
ends. -/
def TrackerEvent.overtakes : TrackerEvent → Bool
  | .beginConnect _ => true
  | .settleConnect _ (.ok ()) => true
  | .settleDisconnect _ => true
  | _ => false

/-- Some event since the query began makes it stale. -/
def StatusCall.Overtaken (call : StatusCall) (past : TrackerHistory) : Prop :=
  ∃ event ∈ past.drop call.begun, event.overtakes = true

instance (call : StatusCall) (past : TrackerHistory) : Decidable (call.Overtaken past) :=
  inferInstanceAs (Decidable (∃ event ∈ past.drop call.begun, event.overtakes = true))

namespace TrackerRun

variable {run next : TrackerRun} {event : TrackerEvent}

/-- The epochs count the overtaking events. -/
structure Counted (run : TrackerRun) : Prop where
  epoch : run.alive = true →
    run.tracker.value.epoch = run.past.countP TrackerEvent.overtakes
  queries : run.alive = true → ∀ call ∈ run.queries,
    call.begun ≤ run.past.length
      ∧ call.epoch = (run.past.take call.begun).countP TrackerEvent.overtakes

theorem counted_new : new.Counted where
  epoch := fun _ => rfl
  queries := fun _ call hcall => by cases hcall

theorem countP_overtakes_concat (past : TrackerHistory) (event : TrackerEvent) :
    (past ++ [event]).countP TrackerEvent.overtakes
      = past.countP TrackerEvent.overtakes + if event.overtakes then 1 else 0 := by
  rw [List.countP_append, List.countP_singleton]

/-- What a query remembers does not change with later events. -/
theorem Counted.queries_concat
    (h : run.Counted) (halive : run.alive = true) (event : TrackerEvent)
    {call : StatusCall} (hcall : call ∈ run.queries) :
    call.begun ≤ (run.past ++ [event]).length
      ∧ call.epoch
        = ((run.past ++ [event]).take call.begun).countP TrackerEvent.overtakes := by
  obtain ⟨hbegun, hepoch⟩ := h.queries halive call hcall
  constructor
  · rw [List.length_append]
    omega
  · rw [List.take_append_of_le_length hbegun]
    exact hepoch

/-- A step keeps count if it raises the epoch for an overtaking event alone. -/
theorem Counted.keep
    (h : run.Counted)
    (hpast : next.past = run.past ++ [event])
    (halive : next.alive = true → run.alive = true)
    (hepoch : next.alive = true →
      next.tracker.value.epoch = run.tracker.value.epoch + if event.overtakes then 1 else 0)
    (hqueries : ∀ call ∈ next.queries, call ∈ run.queries) :
    next.Counted := by
  constructor
  · intro hnext
    rw [hepoch hnext, hpast, countP_overtakes_concat, h.epoch (halive hnext)]
  · intro hnext call hcall
    rw [hpast]
    exact h.queries_concat (halive hnext) event (hqueries call hcall)

theorem Counted.step (h : run.Counted) (step : Step run next) : next.Counted := by
  cases step with
  | beginQuery =>
    constructor
    · intro halive
      show run.tracker.value.epoch = (run.past ++ [_]).countP _
      rw [countP_overtakes_concat]
      exact h.epoch halive
    · intro halive call hcall
      rcases List.mem_append.1 hcall with hold | hnew
      · exact h.queries_concat halive _ hold
      · obtain rfl := List.mem_singleton.1 hnew
        have hwhole : (run.past ++ [TrackerEvent.beginQuery]).length = run.past.length + 1 := by
          simp
        constructor
        · exact Nat.le_of_eq hwhole.symm
        · show run.tracker.value.epoch = ((run.past ++ [_]).take (run.past.length + 1)).countP _
          rw [← hwhole, List.take_length, countP_overtakes_concat]
          exact h.epoch halive
  | settleQuery inventory answer found =>
    refine h.keep rfl (fun halive => halive) (fun _ => ?_) fun call => List.mem_of_mem_eraseIdx
    exact (Tracker.settleQuery_keeps _ _ _ _ _).2
  | reconcile inventory =>
    refine h.keep rfl (fun halive => halive) (fun _ => ?_) fun call hcall => hcall
    show (run.tracker.reconcile inventory).value.epoch = _
    rw [Tracker.reconcile_value]
    rfl
  | @beginConnect target tracker accepted =>
    obtain ⟨_, hvalue⟩ := Tracker.beginConnect_eq_ok accepted
    refine h.keep rfl (fun halive => halive) (fun _ => ?_) fun call hcall => hcall
    show tracker.value.epoch = _
    rw [hvalue]
    rfl
  | refuseConnect target refused =>
    obtain rfl := Tracker.beginConnect_eq_error refused
    exact h.keep rfl (fun halive => halive) (fun _ => rfl) fun call hcall => hcall
  | @settleConnect i target answer found =>
    refine h.keep rfl (fun halive => halive) (fun (halive : run.alive = true) => ?_)
      fun call hcall => hcall
    cases answer with
    | ok reply =>
      show (run.tracker.settleConnect run.alive target.id (.ok ())).1.value.epoch = _
      rw [halive, Tracker.settleConnect_ok_value]
      rfl
    | error message =>
      show (run.tracker.settleConnect run.alive target.id _).1.value.epoch = _
      rw [halive, Tracker.settleConnect_error_value]
      rfl
  | beginDisconnect =>
    exact h.keep rfl (fun halive => halive) (fun _ => rfl) fun call hcall => hcall
  | settleDisconnect answer pending =>
    refine h.keep rfl (fun halive => halive) (fun (halive : run.alive = true) => ?_)
      fun call hcall => hcall
    show (run.tracker.settleDisconnect run.alive answer).1.value.epoch = _
    rw [halive, Tracker.settleDisconnect_value]
    rfl
  | retire =>
    exact h.keep rfl (fun halive => by cases halive) (fun halive => by cases halive)
      fun call hcall => hcall

theorem Reached.counted (reached : Reached run) : run.Counted := by
  induction reached with
  | refl => exact counted_new
  | tail _ step ih => exact ih.step step

/-- A query remembers another epoch exactly if it was overtaken. -/
theorem Counted.overtaken_iff
    (h : run.Counted) (halive : run.alive = true)
    {call : StatusCall} (hcall : call ∈ run.queries) :
    call.Overtaken run.past ↔ run.tracker.value.epoch ≠ call.epoch := by
  obtain ⟨_, hremembered⟩ := h.queries halive call hcall
  have hsplit : run.past.countP TrackerEvent.overtakes
      = (run.past.take call.begun).countP TrackerEvent.overtakes
        + (run.past.drop call.begun).countP TrackerEvent.overtakes := by
    rw [← List.countP_append, List.take_append_drop]
  have hsince : call.Overtaken run.past
      ↔ 0 < (run.past.drop call.begun).countP TrackerEvent.overtakes :=
    List.countP_pos_iff.symm
  rw [hsince, h.epoch halive, hremembered, hsplit]
  omega

/-- After a closing, a query that began later reported a tunnel and was not overtaken by then. -/
def Reopened (before : TrackerHistory) (closing : TrackerEvent) (after : TrackerHistory) : Prop :=
  ∃ between call record rest,
    after = between ++ .settleQuery call (.ok record) :: rest
      ∧ before.length < call.begun
      ∧ ¬ call.Overtaken (before ++ closing :: between)
      ∧ record.connected = true

/-- After a closing has settled there is no tunnel until a query that began later reports one. -/
def StaysClosed (run : TrackerRun) : Prop :=
  run.alive = true → ∀ before answer after,
    run.past = before ++ .settleDisconnect answer :: after →
      run.tracker.session = .disconnected
        ∨ Reopened before (.settleDisconnect answer) after

theorem Reopened.concat
    {before after : TrackerHistory} {closing : TrackerEvent}
    (h : Reopened before closing after) (event : TrackerEvent) :
    Reopened before closing (after ++ [event]) := by
  obtain ⟨between, call, record, rest, hafter, hreport⟩ := h
  refine ⟨between, call, record, rest ++ [event], ?_, hreport⟩
  rw [hafter, List.append_assoc, List.cons_append]

/-- A step keeps the tunnel closed if its event is no end of a closing and it opens no tunnel
but by the report of a later query. -/
theorem StaysClosed.keep
    (h : run.StaysClosed)
    (hpast : next.past = run.past ++ [event])
    (halive : next.alive = true → run.alive = true)
    (hevent : ∀ answer, event ≠ .settleDisconnect answer)
    (hsession : next.alive = true → run.tracker.session = .disconnected →
      ∀ before answer after, run.past = before ++ .settleDisconnect answer :: after →
        next.tracker.session = .disconnected
          ∨ Reopened before (.settleDisconnect answer) (after ++ [event])) :
    next.StaysClosed := by
  -- the closing in question lies before the step, or it is the event of the step
  intro hnext before answer after hsplit
  rw [hpast] at hsplit
  rcases History.split_concat hsplit with ⟨_, hlast, _⟩ | ⟨rest, hrest, rfl⟩
  · exact absurd hlast (hevent answer)
  · rcases h (halive hnext) before answer rest hrest with hclosed | hreopened
    · exact hsession hnext hclosed before answer rest hrest
    · exact Or.inr (hreopened.concat event)

/-- A query that was not overtaken began after every closing that has settled. -/
theorem begun_after_of_not_overtaken
    {past before after : TrackerHistory} {answer : Except String Unit} {call : StatusCall}
    (hsplit : past = before ++ .settleDisconnect answer :: after)
    (hcurrent : ¬ call.Overtaken past) :
    before.length < call.begun := by
  rcases Nat.lt_or_ge before.length call.begun with hlater | hbegun
  · exact hlater
  · have hsince : TrackerEvent.settleDisconnect answer ∈ past.drop call.begun := by
      rw [hsplit, List.drop_append_of_le_length hbegun]
      exact List.mem_append_right _ (List.mem_cons_self ..)
    exact absurd ⟨.settleDisconnect answer, hsince, rfl⟩ hcurrent

theorem StaysClosed.step
    (h : run.StaysClosed) (counted : run.Counted) (step : Step run next) :
    next.StaysClosed := by
  cases step with
  | beginQuery =>
    exact h.keep rfl (fun halive => halive) (fun _ => nofun) fun _ hclosed _ _ _ _ => Or.inl hclosed
  | @settleQuery i call inventory answer found =>
    refine h.keep rfl (fun halive => halive) (fun _ => nofun) ?_
    intro (halive : run.alive = true) hclosed before disconnected after hsplit
    show (run.tracker.settleQuery run.alive inventory call.epoch answer).1.session = _ ∨ _
    have hcall : call ∈ run.queries := List.mem_of_getElem? found
    by_cases hepoch : run.tracker.value.epoch = call.epoch
    · -- the answer is applied, so no closing has settled since the query began
      have hcurrent : ¬ call.Overtaken run.past := fun hovertaken =>
        (counted.overtaken_iff halive hcall).1 hovertaken hepoch
      rw [halive, ← hepoch]
      unfold Tracker.session
      cases answer with
      | error message =>
        rw [(Tracker.settleQuery_current_error _ _ _).1]
        exact Or.inl hclosed
      | ok record =>
        rw [(Tracker.settleQuery_current_ok _ _ _).1]
        cases hconnected : record.connected with
        | false => exact Or.inl (VpnSession.resolve_eq_disconnected_iff.2 hconnected)
        | true =>
          right
          have hbegun := begun_after_of_not_overtaken hsplit hcurrent
          exact ⟨after, call, record, [], rfl, hbegun, hsplit ▸ hcurrent, hconnected⟩
    · rw [Tracker.settleQuery_of_stale hepoch]
      exact Or.inl hclosed
  | reconcile inventory =>
    refine h.keep rfl (fun halive => halive) (fun _ => nofun) fun _ hclosed _ _ _ _ => Or.inl ?_
    show (run.tracker.reconcile inventory).value.session = _
    rw [Tracker.reconcile_value, hclosed]
    rfl
  | @beginConnect target tracker accepted =>
    obtain ⟨_, hvalue⟩ := Tracker.beginConnect_eq_ok accepted
    refine h.keep rfl (fun halive => halive) (fun _ => nofun) fun _ hclosed _ _ _ _ => Or.inl ?_
    show tracker.value.session = _
    rw [hvalue]
    exact hclosed
  | refuseConnect target refused =>
    obtain rfl := Tracker.beginConnect_eq_error refused
    exact h.keep rfl (fun halive => halive) (fun _ => nofun) fun _ hclosed _ _ _ _ => Or.inl hclosed
  | @settleConnect i target answer found =>
    refine h.keep rfl (fun halive => halive) (fun _ => nofun)
      fun (halive : run.alive = true) hclosed _ _ _ _ => Or.inl ?_
    show (run.tracker.settleConnect run.alive target.id answer).1.value.session = _
    rw [halive]
    cases answer with
    | ok reply =>
      show (run.tracker.settleConnect true target.id (.ok ())).1.value.session = _
      rw [Tracker.settleConnect_ok_value]
      exact hclosed
    | error message =>
      rw [Tracker.settleConnect_error_value]
      exact hclosed
  | beginDisconnect =>
    exact h.keep rfl (fun halive => halive) (fun _ => nofun) fun _ hclosed _ _ _ _ => Or.inl hclosed
  | settleDisconnect answer pending =>
    intro (halive : run.alive = true) _ _ _ _
    left
    show (run.tracker.settleDisconnect run.alive answer).1.value.session = _
    rw [halive, Tracker.settleDisconnect_value]
  | retire =>
    intro halive
    cases halive

theorem Reached.staysClosed (reached : Reached run) : run.StaysClosed := by
  induction reached with
  | refl =>
    intro _ _ _ _ _
    exact Or.inl rfl
  | tail reached step ih => exact ih.step (Reached.counted reached) step

/-- **Epoch guard.** While the client is alive, the answer to an overtaken query changes nothing
and a report then gives the current session; the report of any other query is resolved against the
inventory of that moment and clears the error, and its failure leaves its error alone. So after a
closing has settled there is no tunnel until a query that began later reports one. -/
theorem answers_respect_the_epoch
    (reached : Reached run)
    (halive : run.alive = true) :
    (∀ call ∈ run.queries, ∀ inventory answer,
        (call.Overtaken run.past →
          run.tracker.settleQuery run.alive inventory call.epoch answer
            = (run.tracker,
                (answer.map fun _ => run.tracker.session).mapError SessionError.status))
        ∧ (¬ call.Overtaken run.past → ∀ record, answer = .ok record →
          (run.tracker.settleQuery run.alive inventory call.epoch answer).1.value
              = { run.tracker.value with
                  session := VpnSession.resolve inventory record
                  lastError := none }
            ∧ (run.tracker.settleQuery run.alive inventory call.epoch answer).2
              = .ok (VpnSession.resolve inventory record))
        ∧ (¬ call.Overtaken run.past → ∀ message, answer = .error message →
          (run.tracker.settleQuery run.alive inventory call.epoch answer).1.value
              = { run.tracker.value with lastError := some (.status message) }
            ∧ (run.tracker.settleQuery run.alive inventory call.epoch answer).2
              = .error (.status message)))
      ∧ ∀ before answer after,
          run.past = before ++ .settleDisconnect answer :: after →
            run.tracker.session = .disconnected
              ∨ Reopened before (.settleDisconnect answer) after := by
  have counted : run.Counted := Reached.counted reached
  refine ⟨?_, Reached.staysClosed reached halive⟩
  intro call hcall inventory answer
  have hovertaken := counted.overtaken_iff halive hcall
  have hcurrent : ¬ call.Overtaken run.past → call.epoch = run.tracker.value.epoch := by
    intro hnot
    by_cases hsame : run.tracker.value.epoch = call.epoch
    · exact hsame.symm
    · exact absurd (hovertaken.2 hsame) hnot
  refine ⟨?_, ?_, ?_⟩
  · intro h
    exact Tracker.settleQuery_of_stale (hovertaken.1 h) _ _ _
  · rintro h record rfl
    rw [halive, hcurrent h]
    exact Tracker.settleQuery_current_ok _ _ _
  · rintro h message rfl
    rw [halive, hcurrent h]
    exact Tracker.settleQuery_current_error _ _ _

/-- Of two queries that are answered after a closing has settled, the report of the one that began
before is dropped and that of the one that began after is applied: it shows a tunnel to a server of
the inventory. -/
theorem closing_between_two_queries :
    ∃ run, Reached run ∧ run.alive = true
      ∧ run.queries = [{ epoch := 0, begun := 1 }, { epoch := 1, begun := 4 }]
      ∧ (∀ inventory record,
          run.tracker.settleQuery run.alive inventory 0 (.ok record)
              = (run.tracker, .ok .disconnected)
            ∧ (run.tracker.settleQuery run.alive inventory 1 (.ok record)).2
              = .ok (VpnSession.resolve inventory record))
      ∧ ∃ inventory server, inventory.entries = [.confirmed server] ∧ server.id = "i-1"
        ∧ (run.tracker.settleQuery run.alive inventory 0
            (.ok (StatusRecord.tunnelTo "i-1"))).1.session = .disconnected
        ∧ (run.tracker.settleQuery run.alive inventory 1
            (.ok (StatusRecord.tunnelTo "i-1"))).1.session = .connected server true := by
  have asked : Reached _ :=
    (Relation.ReflTransGen.refl.tail (Step.beginQuery _)).tail (Step.beginDisconnect _)
  have closed := asked.tail (Step.settleDisconnect _ (.ok ()) (by decide))
  have reached : Reached _ := closed.tail (Step.beginQuery _)
  obtain ⟨hguard, -⟩ := answers_respect_the_epoch reached rfl
  have hearlier := hguard { epoch := 0, begun := 1 } (List.mem_cons_self ..)
  have hlater := hguard { epoch := 1, begun := 4 } (List.mem_cons_of_mem _ (List.mem_cons_self ..))
  refine ⟨_, reached, rfl, rfl, ?_, ?_⟩
  · intro inventory record
    have happlied := (hlater inventory (.ok record)).2.1 (by decide) record rfl
    exact ⟨(hearlier inventory (.ok record)).1 (by decide), happlied.2⟩
  · let server : Instance :=
      { id := "i-1", name := "vpn", lifecycle := .running, publicV4 := "198.51.100.1",
        publicV6 := none, region := "eu-1" }
    let inventory : InventorySnapshot :=
      { Inventory.empty.value with entries := [.confirmed server] }
    let report := StatusRecord.tunnelTo "i-1"
    have hdropped := (hearlier inventory (.ok report)).1 (by decide)
    have happlied := (hlater inventory (.ok report)).2.1 (by decide) report rfl
    have htunnel : VpnSession.resolve inventory report = .connected server true := by decide
    refine ⟨inventory, server, rfl, rfl, ?_, ?_⟩
    · exact congrArg (fun settled => settled.1.session) hdropped
    · exact (congrArg SessionSnapshot.session happlied.1).trans htunnel

end TrackerRun
end VpnFleet
