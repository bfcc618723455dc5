import VpnFleet.Session

/-!
# Operations and the session

One statement for each operation of the tracker: what it makes of the session,
the mark of an opening under way and the epoch. Later modules know the
operations through these statements alone.

* A query whose epoch is not the current one changes nothing.
* Only the beginning and the success of an opening and the end of a closing
  raise the epoch.
* The mark is set where an opening begins, and cleared where an opening or a
  closing ends.
-/

namespace VpnFleet

/-- Only a reported tunnel is resolved to a tunnel. -/
theorem VpnSession.resolve_eq_disconnected_iff
    {inventory : InventorySnapshot} {record : StatusRecord} :
    VpnSession.resolve inventory record = .disconnected ↔ record.connected = false := by
  unfold VpnSession.resolve VpnSession.reported
  cases record.connected with
  | false => simp
  | true =>
    simp only [if_true, Bool.true_eq_false, iff_false]
    split
    · simp
    · split <;> simp

namespace Tracker

variable {tracker next : Tracker}

/-- An answer of an older epoch changes nothing; a report gives the current session. -/
theorem settleQuery_of_stale
    {began : Nat} (hstale : tracker.value.epoch ≠ began)
    (alive : Bool) (inventory : InventorySnapshot) (answer : Except String StatusRecord) :
    tracker.settleQuery alive inventory began answer
      = (tracker, (answer.map fun _ => tracker.session).mapError SessionError.status) := by
  have hdropped : (!alive || decide (tracker.value.epoch ≠ began)) = true := by
    simp [hstale]
  cases answer with
  | ok record => exact if_pos hdropped
  | error message => exact if_pos hdropped

theorem settleQuery_current_ok
    (tracker : Tracker) (inventory : InventorySnapshot) (record : StatusRecord) :
    (tracker.settleQuery true inventory tracker.value.epoch (.ok record)).1.value
        = { tracker.value with
            session := VpnSession.resolve inventory record
            lastError := none }
      ∧ (tracker.settleQuery true inventory tracker.value.epoch (.ok record)).2
        = .ok (VpnSession.resolve inventory record) := by
  simp [settleQuery, applyStatus]

theorem settleQuery_current_error
    (tracker : Tracker) (inventory : InventorySnapshot) (message : String) :
    (tracker.settleQuery true inventory tracker.value.epoch (.error message)).1.value
        = { tracker.value with lastError := some (.status message) }
      ∧ (tracker.settleQuery true inventory tracker.value.epoch (.error message)).2
        = .error (.status message) := by
  simp [settleQuery]

/-- The answer to a query leaves the mark and the epoch. -/
theorem settleQuery_keeps
    (tracker : Tracker) (alive : Bool) (inventory : InventorySnapshot) (began : Nat)
    (answer : Except String StatusRecord) :
    (tracker.settleQuery alive inventory began answer).1.value.connecting
        = tracker.value.connecting
      ∧ (tracker.settleQuery alive inventory began answer).1.value.epoch
        = tracker.value.epoch := by
  unfold settleQuery applyStatus
  cases answer with
  | ok record =>
    dsimp only
    split <;> exact ⟨rfl, rfl⟩
  | error message =>
    dsimp only
    split <;> exact ⟨rfl, rfl⟩

/-- A query that gives a session leaves this session behind. -/
theorem session_of_settleQuery {tracker : Tracker} {alive : Bool}
    {inventory : InventorySnapshot} {began : Nat} {answer : Except String StatusRecord}
    {session : VpnSession}
    (h : (tracker.settleQuery alive inventory began answer).2 = .ok session) :
    (tracker.settleQuery alive inventory began answer).1.session = session := by
  unfold settleQuery at h ⊢
  cases answer with
  | ok record =>
    dsimp only at h ⊢
    split at h
    · next hstale =>
        rw [if_pos hstale]
        exact Except.ok.inj h
    · next hcurrent =>
        rw [if_neg hcurrent]
        exact Except.ok.inj h
  | error message =>
    dsimp only at h
    split at h <;> cases h

/-- A query succeeds exactly if its call does, whether or not the report is applied. -/
theorem settleQuery_isOk
    (tracker : Tracker) (alive : Bool) (inventory : InventorySnapshot) (began : Nat)
    (answer : Except String StatusRecord) :
    (tracker.settleQuery alive inventory began answer).2.isOk = answer.isOk := by
  unfold settleQuery
  cases answer with
  | ok record =>
    dsimp only
    split <;> rfl
  | error message =>
    dsimp only
    split <;> rfl

/-- An opening that is accepted found no other one under way; it sets the mark and raises the
epoch. -/
theorem beginConnect_eq_ok
    {target : Instance} (h : tracker.beginConnect target = (next, .ok ())) :
    tracker.value.connecting = none
      ∧ next.value
        = { tracker.value with
            connecting := some target.id
            epoch := tracker.value.epoch + 1 } := by
  unfold beginConnect at h
  cases hready : target.ensureConnectable with
  | error reason =>
    rw [hready] at h
    cases h
  | ok ready =>
    rw [hready] at h
    cases hmark : tracker.value.connecting with
    | some id =>
      rw [hmark] at h
      cases h
    | none =>
      rw [hmark] at h
      cases h
      exact ⟨rfl, rfl⟩

theorem beginConnect_eq_error
    {target : Instance} {error : SessionError}
    (h : tracker.beginConnect target = (next, .error error)) :
    next = tracker := by
  unfold beginConnect at h
  split at h
  · cases h
    rfl
  · split at h
    · cases h
      rfl
    · cases h

/-- An opening is refused while the mark is set. -/
theorem beginConnect_of_marked
    {target : Instance} {id : String}
    (hready : target.ensureConnectable = .ok ())
    (hmark : tracker.value.connecting = some id) :
    tracker.beginConnect target = (tracker, .error (.connectInProgress id)) := by
  unfold beginConnect
  rw [hready, hmark]

theorem settleConnect_ok_value (tracker : Tracker) (id : String) :
    (tracker.settleConnect true id (.ok ())).1.value
      = { tracker.value with
          connecting := none
          lastError := none
          epoch := tracker.value.epoch + 1 } := rfl

theorem settleConnect_error_value (tracker : Tracker) (id message : String) :
    (tracker.settleConnect true id (.error message)).1.value
      = { tracker.value with
          connecting := none
          lastError := some (.connect id message) } := rfl

theorem settleDisconnect_value (tracker : Tracker) (answer : Except String Unit) :
    (tracker.settleDisconnect true answer).1.value
      = { tracker.value with
          session := .disconnected
          connecting := none
          lastError := failure? (answer.mapError SessionError.disconnect)
          epoch := tracker.value.epoch + 1 } := rfl

theorem reconcile_value (tracker : Tracker) (inventory : InventorySnapshot) :
    (tracker.reconcile inventory).value
      = { tracker.value with session := tracker.session.reconciled inventory } := rfl

end Tracker
end VpnFleet
