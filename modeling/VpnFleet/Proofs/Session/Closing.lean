import VpnFleet.Proofs.Session.Epoch

/-!
# Queries while a closing is under way

A closing raises the epoch where it ends and not where it begins. A query that
began before a closing is therefore overtaken by its end alone: as long as the
backend has not answered the closing, and no opening came between, the answer to
the query is applied, and a report may show the very tunnel that is being
closed.

* `TrackerRun.ClosingsCounted` says that the closings under way are those that
  began and have not ended.
* An answer to a query from before a closing leaves the snapshot exactly if the
  query was overtaken; if it was not, a closing is still under way.
-/

namespace VpnFleet

namespace TrackerEvent

def beginsClosing : TrackerEvent → Bool
  | beginDisconnect => true
  | _ => false

def endsClosing : TrackerEvent → Bool
  | settleDisconnect _ => true
  | _ => false

theorem overtakes_of_endsClosing {event : TrackerEvent} (h : event.endsClosing = true) :
    event.overtakes = true := by
  cases event with
  | settleDisconnect answer => rfl
  | _ => cases h

end TrackerEvent

namespace TrackerHistory

variable {past : TrackerHistory} {event : TrackerEvent}

/-- No more closings have ended than have begun, at any moment. -/
def ClosingsInOrder (past : TrackerHistory) : Prop :=
  ∀ before, before <+: past →
    before.countP TrackerEvent.endsClosing ≤ before.countP TrackerEvent.beginsClosing

theorem ClosingsInOrder.concat
    (h : past.ClosingsInOrder)
    (hlast : (past ++ [event]).countP TrackerEvent.endsClosing
      ≤ (past ++ [event]).countP TrackerEvent.beginsClosing) :
    ClosingsInOrder (past ++ [event]) := by
  intro before hbefore
  rcases List.prefix_concat_iff.1 hbefore with rfl | hearlier
  · exact hlast
  · exact h before hearlier

end TrackerHistory

namespace TrackerRun

variable {run next : TrackerRun}

/-- The closings under way are those that began and have not ended. -/
structure ClosingsCounted (run : TrackerRun) : Prop where
  open_add_ended : run.disconnects + run.past.countP TrackerEvent.endsClosing
    = run.past.countP TrackerEvent.beginsClosing
  inOrder : run.past.ClosingsInOrder

theorem closingsCounted_new : new.ClosingsCounted where
  open_add_ended := rfl
  inOrder := by
    intro before hbefore
    obtain rfl := List.prefix_nil.1 hbefore
    exact Nat.le_refl 0

theorem ClosingsCounted.step (h : run.ClosingsCounted) (step : Step run next) :
    next.ClosingsCounted := by
  have hopen := h.open_add_ended
  have hnext : next.disconnects + next.past.countP TrackerEvent.endsClosing
      = next.past.countP TrackerEvent.beginsClosing := by
    cases step <;>
      simp [note, List.countP_append, TrackerEvent.beginsClosing, TrackerEvent.endsClosing] <;>
      omega
  obtain ⟨event, hpast⟩ := step.exists_past_eq
  refine ⟨hnext, ?_⟩
  rw [hpast] at hnext ⊢
  exact h.inOrder.concat (by omega)

theorem Reached.closingsCounted (reached : Reached run) : run.ClosingsCounted := by
  induction reached with
  | refl => exact closingsCounted_new
  | tail _ step ih => exact ih.step step

/-- If a closing began after a query and none is under way, one has ended since the query began. -/
theorem ClosingsCounted.overtaken
    (h : run.ClosingsCounted)
    {call : StatusCall} {before after : TrackerHistory}
    (hsplit : run.past = before ++ .beginDisconnect :: after)
    (hbegun : call.begun ≤ before.length)
    (hnone : run.disconnects = 0) :
    call.Overtaken run.past := by
  -- at the query no more closings had ended than begun, and one has begun since
  have hearlier := h.inOrder (run.past.take call.begun) (List.take_prefix _ _)
  have hopen := h.open_add_ended
  have hsince : TrackerEvent.beginDisconnect ∈ run.past.drop call.begun := by
    rw [hsplit, List.drop_append_of_le_length hbegun]
    exact List.mem_append_right _ List.mem_cons_self
  have hbegan : 0 < (run.past.drop call.begun).countP TrackerEvent.beginsClosing :=
    List.countP_pos_iff.2 ⟨_, hsince, rfl⟩
  rw [← List.take_append_drop call.begun run.past, List.countP_append, List.countP_append] at hopen
  have hended : 0 < (run.past.drop call.begun).countP TrackerEvent.endsClosing := by
    omega
  obtain ⟨event, hevent, hends⟩ := List.countP_pos_iff.1 hended
  exact ⟨event, hevent, TrackerEvent.overtakes_of_endsClosing hends⟩

/-- Answers that are never applied come to a query of another epoch. -/
theorem epoch_ne_of_spared
    {tracker : Tracker} {began : Nat}
    (hspared : ∀ inventory answer,
      (tracker.settleQuery true inventory began answer).1.value = tracker.value) :
    tracker.value.epoch ≠ began := by
  rintro rfl
  have hlast (message : String) : tracker.value.lastError = some (.status message) := by
    have hfailed := hspared Inventory.empty.value (.error message)
    rw [(Tracker.settleQuery_current_error _ _ _).1] at hfailed
    exact (congrArg SessionSnapshot.lastError hfailed).symm
  have hsame := (hlast "").symm.trans (hlast "-")
  simp at hsame

/-- **Closing.** Let a closing begin after a query on a live client. The answers to the query leave
the snapshot exactly if it was overtaken, and then a report gives the current session and a failure
its own error. If it was not overtaken, a closing is still under way, and every report is shown. -/
theorem closing_overtakes_where_it_ends
    (reached : Reached run)
    (halive : run.alive = true)
    {call : StatusCall} (hcall : call ∈ run.queries)
    {before after : TrackerHistory}
    (hsplit : run.past = before ++ .beginDisconnect :: after)
    (hbegun : call.begun ≤ before.length) :
    ((∀ inventory answer,
        (run.tracker.settleQuery run.alive inventory call.epoch answer).1.value
          = run.tracker.value)
      ↔ call.Overtaken run.past)
    ∧ (call.Overtaken run.past → ∀ inventory answer,
        (run.tracker.settleQuery run.alive inventory call.epoch answer).2
          = (answer.map fun _ => run.tracker.session).mapError SessionError.status)
    ∧ (¬ call.Overtaken run.past →
        0 < run.disconnects
          ∧ ∀ inventory record,
            (run.tracker.settleQuery run.alive inventory call.epoch (.ok record)).1.session
              = VpnSession.resolve inventory record) := by
  have hovertaken := (Reached.counted reached).overtaken_iff halive hcall
  rw [halive]
  refine ⟨⟨?_, ?_⟩, ?_, ?_⟩
  · intro hspared
    exact hovertaken.2 (epoch_ne_of_spared hspared)
  · intro h inventory answer
    rw [Tracker.settleQuery_of_stale (hovertaken.1 h)]
  · intro h inventory answer
    rw [Tracker.settleQuery_of_stale (hovertaken.1 h)]
  · intro h
    have hepoch : run.tracker.value.epoch = call.epoch := by
      by_cases hsame : run.tracker.value.epoch = call.epoch
      · exact hsame
      · exact absurd (hovertaken.2 hsame) h
    constructor
    · rcases Nat.eq_zero_or_pos run.disconnects with hnone | hsome
      · exact absurd ((Reached.closingsCounted reached).overtaken hsplit hbegun hnone) h
      · exact hsome
    · intro inventory record
      rw [← hepoch]
      exact congrArg SessionSnapshot.session (Tracker.settleQuery_current_ok _ _ _).1

/-- A report that is answered before a closing is shows the tunnel that is being closed, and drops
out of sight only where the closing ends. -/
theorem report_during_closing_is_shown :
    ∃ run closed, Reached run ∧ run.alive = true
      ∧ run.past = [.beginQuery, .beginDisconnect]
      ∧ run.queries = [{ epoch := 0, begun := 1 }]
      ∧ run.disconnects = 1
      ∧ (¬ ∀ inventory answer,
          (run.tracker.settleQuery run.alive inventory 0 answer).1.value = run.tracker.value)
      ∧ (∀ inventory record, record.connected = true →
          (run.tracker.settleQuery run.alive inventory 0 (.ok record)).1.session
            ≠ .disconnected)
      ∧ Step run closed
      ∧ ∀ inventory answer,
          (closed.tracker.settleQuery closed.alive inventory 0 answer).1.value
            = closed.tracker.value := by
  let run : TrackerRun :=
    { new with
      queries := [{ epoch := 0, begun := 1 }]
      disconnects := 1
      past := [.beginQuery, .beginDisconnect] }
  have closing : Reached run :=
    (Relation.ReflTransGen.refl.tail (Step.beginQuery _)).tail (Step.beginDisconnect _)
  have ended := Step.settleDisconnect run (.ok ()) Nat.one_pos
  have hduring := @closing_overtakes_where_it_ends run closing rfl
    { epoch := 0, begun := 1 } List.mem_cons_self [.beginQuery] [] rfl (Nat.le_refl 1)
  have hafter := @closing_overtakes_where_it_ends _ (closing.tail ended) rfl
    { epoch := 0, begun := 1 } List.mem_cons_self [.beginQuery] [.settleDisconnect (.ok ())]
    rfl (Nat.le_refl 1)
  refine ⟨run, _, closing, rfl, rfl, rfl, rfl, ?_, ?_, ended, hafter.1.2 (by decide)⟩
  · intro hspared
    exact absurd (hduring.1.1 hspared) (by decide)
  · intro inventory record hconnected hclosed
    have hshown := (hduring.2.2 (by decide)).2 inventory record
    rw [hclosed] at hshown
    have hdisconnected := VpnSession.resolve_eq_disconnected_iff.1 hshown.symm
    rw [hconnected] at hdisconnected
    cases hdisconnected

end TrackerRun
end VpnFleet
