import VpnFleet.Proofs.Published
import VpnFleet.Proofs.Session.Operations

/-!
# Moves of a tracker

Whatever runs, the tracker changes only through its own operations, and where
it looks at an inventory it is the one of the same step. `Move` lists what one
step can make of it.

* A session agrees with an inventory if what it says about its server is so
  there. A move keeps the session or makes one that agrees with the inventory
  that the move looked at.
* A move publishes what it changes.
-/

namespace VpnFleet

namespace InventorySnapshot

variable {inventory : InventorySnapshot} {id : String}

theorem find?_eq_some
    {server : Instance} (h : inventory.find? id = some server) :
    .confirmed server ∈ inventory.entries ∧ server.id = id := by
  obtain ⟨entry, hentry, hread⟩ := List.exists_of_findSome?_eq_some h
  cases entry with
  | pending placeholder => cases hread
  | confirmed other =>
    by_cases hid : other.id = id
    · have hsame : other = server := by
        simpa [Entry.confirmed?, hid] using hread
      subst hsame
      exact ⟨hentry, hid⟩
    · simp [Entry.confirmed?, hid] at hread

theorem find?_eq_none
    (h : inventory.find? id = none) :
    ∀ server, .confirmed server ∈ inventory.entries → server.id ≠ id := by
  intro server hserver hid
  have hread := List.findSome?_eq_none_iff.1 h _ hserver
  simp [Entry.confirmed?, hid] at hread

end InventorySnapshot

namespace VpnSession

/-- A resolved tunnel ends at a confirmed server of the inventory as it stands there; a tunnel
that is not resolved ends at none of them, unless its end is not known. -/
def AgreesWith (inventory : InventorySnapshot) : VpnSession → Prop
  | disconnected => True
  | connected server true => .confirmed server ∈ inventory.entries
  | connected server false =>
    server.id ≠ unknownId →
      ∀ other, .confirmed other ∈ inventory.entries → other.id ≠ server.id

theorem AgreesWith.of_entries_eq
    {session : VpnSession} {inventory next : InventorySnapshot}
    (h : session.AgreesWith inventory) (hentries : next.entries = inventory.entries) :
    session.AgreesWith next := by
  cases session with
  | disconnected => trivial
  | connected server resolved =>
    cases resolved <;> (unfold AgreesWith; rw [hentries]; exact h)

theorem resolve_agrees (inventory : InventorySnapshot) (record : StatusRecord) :
    (resolve inventory record).AgreesWith inventory := by
  unfold resolve
  split
  · split
    · intro hnamed
      exact absurd rfl hnamed
    · next id _ =>
        split
        · next server hfound => exact (InventorySnapshot.find?_eq_some hfound).1
        · next hmissing => exact fun _ => InventorySnapshot.find?_eq_none hmissing
  · trivial

theorem reconciled_agrees (inventory : InventorySnapshot) (session : VpnSession) :
    (session.reconciled inventory).AgreesWith inventory := by
  cases session with
  | disconnected => trivial
  | connected server resolved =>
    unfold reconciled
    dsimp only
    split
    · next found hfound => exact (InventorySnapshot.find?_eq_some hfound).1
    · next hmissing => exact fun _ => InventorySnapshot.find?_eq_none hmissing

end VpnSession

namespace Tracker

/-- One step of some operation on the tracker, with the inventory of that step. -/
inductive Move (alive : Bool) (inventory : InventorySnapshot) (tracker : Tracker) :
    Tracker → Prop
  | stay : Move alive inventory tracker tracker
  | settleQuery (began : Nat) (answer : Except String StatusRecord) :
      Move alive inventory tracker (tracker.settleQuery alive inventory began answer).1
  | reconcile : Move alive inventory tracker (tracker.reconcile inventory)
  | beginConnect (target : Instance) : Move alive inventory tracker (tracker.beginConnect target).1
  | settleConnect (id : String) (answer : Except String Unit) :
      Move alive inventory tracker (tracker.settleConnect alive id answer).1
  | settleDisconnect (answer : Except String Unit) :
      Move alive inventory tracker (tracker.settleDisconnect alive answer).1

variable {tracker next : Tracker} {alive : Bool} {inventory : InventorySnapshot}

theorem settleQuery_session_cases
    (tracker : Tracker) (alive : Bool) (inventory : InventorySnapshot) (began : Nat)
    (answer : Except String StatusRecord) :
    (tracker.settleQuery alive inventory began answer).1.session = tracker.session
      ∨ ∃ record,
        (tracker.settleQuery alive inventory began answer).1.session
          = VpnSession.resolve inventory record := by
  unfold settleQuery
  cases answer with
  | ok record =>
    dsimp only
    split
    · exact Or.inl rfl
    · exact Or.inr ⟨record, rfl⟩
  | error message =>
    dsimp only
    split <;> exact Or.inl rfl

theorem beginConnect_session (tracker : Tracker) (target : Instance) :
    (tracker.beginConnect target).1.session = tracker.session := by
  unfold beginConnect
  split
  · rfl
  · split <;> rfl

theorem settleConnect_session
    (tracker : Tracker) (alive : Bool) (id : String) (answer : Except String Unit) :
    (tracker.settleConnect alive id answer).1.session = tracker.session := by
  cases answer <;> cases alive <;> rfl

/-- A move leaves the session or makes one that agrees with the inventory. -/
theorem Move.session_cases (move : Move alive inventory tracker next) :
    next.session = tracker.session ∨ next.session.AgreesWith inventory := by
  cases move with
  | stay => exact Or.inl rfl
  | settleQuery began answer =>
    rcases settleQuery_session_cases tracker alive inventory began answer with
      hsame | ⟨record, hresolved⟩
    · exact Or.inl hsame
    · right
      rw [hresolved]
      exact VpnSession.resolve_agrees inventory record
  | reconcile => exact Or.inr (VpnSession.reconciled_agrees inventory tracker.session)
  | beginConnect target => exact Or.inl (beginConnect_session tracker target)
  | settleConnect id answer => exact Or.inl (settleConnect_session tracker alive id answer)
  | settleDisconnect answer =>
    cases alive with
    | false => exact Or.inl rfl
    | true => exact Or.inr trivial

/-- A report that was applied without a publication said what was known. -/
theorem applyStatus_notifies (tracker : Tracker) (session : VpnSession) :
    tracker.Notifies id (tracker.applyStatus session) := by
  refine Published.update_notifies ?_
  intro hunpublished
  obtain ⟨hsession, herror⟩ :
      tracker.value.session = session ∧ tracker.value.lastError = none := by
    simpa using hunpublished
  show { tracker.value with session, lastError := none } = tracker.value
  rw [← hsession, ← herror]

theorem settleQuery_notifies
    (tracker : Tracker) (alive : Bool) (inventory : InventorySnapshot) (began : Nat)
    (answer : Except String StatusRecord) :
    tracker.Notifies id (tracker.settleQuery alive inventory began answer).1 := by
  unfold settleQuery
  cases answer with
  | ok record =>
    dsimp only
    split
    · exact Published.Notifies.refl id tracker
    · exact applyStatus_notifies tracker _
  | error message =>
    dsimp only
    split
    · exact Published.Notifies.refl id tracker
    · exact Published.modify_notifies id tracker _

theorem reconcile_notifies (tracker : Tracker) (inventory : InventorySnapshot) :
    tracker.Notifies id (tracker.reconcile inventory) := by
  refine Published.update_notifies ?_
  intro hunpublished
  have hsame : tracker.session = tracker.session.reconciled inventory := by
    simpa using hunpublished
  show { tracker.value with session := tracker.session.reconciled inventory } = tracker.value
  rw [← hsame]
  rfl

theorem beginConnect_notifies (tracker : Tracker) (target : Instance) :
    tracker.Notifies id (tracker.beginConnect target).1 := by
  unfold beginConnect
  split
  · exact Published.Notifies.refl id tracker
  · split
    · exact Published.Notifies.refl id tracker
    · exact Published.modify_notifies id tracker _

theorem settleConnect_notifies
    (tracker : Tracker) (alive : Bool) (target : String) (answer : Except String Unit) :
    tracker.Notifies id (tracker.settleConnect alive target answer).1 := by
  cases alive with
  | false => cases answer <;> exact Published.Notifies.refl id tracker
  | true => cases answer <;> exact Or.inr (Nat.lt_succ_self _)

theorem settleDisconnect_notifies
    (tracker : Tracker) (alive : Bool) (answer : Except String Unit) :
    tracker.Notifies id (tracker.settleDisconnect alive answer).1 := by
  cases alive with
  | false => exact Published.Notifies.refl id tracker
  | true => exact Or.inr (Nat.lt_succ_self _)

/-- A change of the snapshot is published. -/
theorem Move.notifies (move : Move alive inventory tracker next) : tracker.Notifies id next := by
  cases move with
  | stay => exact Published.Notifies.refl id tracker
  | settleQuery began answer => exact settleQuery_notifies tracker alive inventory began answer
  | reconcile => exact reconcile_notifies tracker inventory
  | beginConnect target => exact beginConnect_notifies tracker target
  | settleConnect target answer => exact settleConnect_notifies tracker alive target answer
  | settleDisconnect answer => exact settleDisconnect_notifies tracker alive answer

/-- The session stays with its publication, or something is published. -/
def Announces (tracker next : Tracker) : Prop :=
  (next.version = tracker.version ∧ next.session = tracker.session)
    ∨ tracker.version < next.version

theorem Announces.version_le (h : tracker.Announces next) : tracker.version ≤ next.version := by
  rcases h with ⟨hversion, -⟩ | hgrown
  · omega
  · omega

/-- A change of the session is published. -/
theorem Move.announces (move : Move alive inventory tracker next) : tracker.Announces next :=
  move.notifies.comp SessionSnapshot.session

end Tracker
end VpnFleet
