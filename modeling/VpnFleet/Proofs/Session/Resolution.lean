import VpnFleet.Proofs.Session.Moves

/-!
# Two ways to look up the end of a tunnel

The end of a tunnel is looked up in the inventory twice: where a report is
applied, and again whenever the inventory has changed. The first look-up starts
from what the backend reported, the second one from the session.

* `VpnSession.SettledIn` says that a session is what its inventory has under the
  identifier of its end. A look-up leaves exactly these sessions, and makes one
  of them out of any other.
* A report that names an end gives such a session. A report that names none is
  shown under an identifier that stands for an unknown end, and is not looked
  up; the second look-up does not know that, and takes a server which happens to
  have this identifier for the end.
-/

namespace VpnFleet

namespace StatusRecord

/-- There is a tunnel, and its end is not named or only by blanks. -/
def IsNameless (record : StatusRecord) : Prop :=
  record.connected = true ∧ ∀ id, record.instanceId = some id → Text.isBlank id = true

end StatusRecord

namespace VpnSession

variable {inventory : InventorySnapshot} {session : VpnSession} {record : StatusRecord}

/-- What the session says about its end is what the inventory has under its identifier. -/
def SettledIn (inventory : InventorySnapshot) : VpnSession → Prop
  | disconnected => True
  | connected server true => inventory.find? server.id = some server
  | connected server false => inventory.find? server.id = none

theorem reconciled_of_found {server found : Instance} {resolved : Bool}
    (hfound : inventory.find? server.id = some found) :
    (connected server resolved).reconciled inventory = connected found true := by
  simp [reconciled, hfound]

theorem reconciled_of_missing {server : Instance} {resolved : Bool}
    (hmissing : inventory.find? server.id = none) :
    (connected server resolved).reconciled inventory = connected server false := by
  simp [reconciled, hmissing]

theorem reconciled_eq_self_iff :
    session.reconciled inventory = session ↔ session.SettledIn inventory := by
  cases session with
  | disconnected => simp [reconciled, SettledIn]
  | connected server resolved =>
    cases hfound : inventory.find? server.id with
    | none =>
      rw [reconciled_of_missing hfound]
      cases resolved <;> simp [SettledIn, hfound]
    | some found =>
      rw [reconciled_of_found hfound]
      cases resolved <;> simp [SettledIn, hfound]

theorem settledIn_reconciled (inventory : InventorySnapshot) (session : VpnSession) :
    (session.reconciled inventory).SettledIn inventory := by
  cases session with
  | disconnected => trivial
  | connected server resolved =>
    cases hfound : inventory.find? server.id with
    | none =>
      rw [reconciled_of_missing hfound]
      exact hfound
    | some found =>
      have hid : found.id = server.id := (InventorySnapshot.find?_eq_some hfound).2
      rw [reconciled_of_found hfound]
      show inventory.find? found.id = some found
      rw [hid, hfound]

/-- A look-up keeps the identifier of the end, and with it whether there is a tunnel. -/
theorem map_id_server?_reconciled (inventory : InventorySnapshot) (session : VpnSession) :
    (session.reconciled inventory).server?.map Instance.id
      = session.server?.map Instance.id := by
  cases session with
  | disconnected => rfl
  | connected server resolved =>
    cases hfound : inventory.find? server.id with
    | none => rw [reconciled_of_missing hfound, server?, server?]
    | some found =>
      rw [reconciled_of_found hfound, server?, server?, Option.map_some, Option.map_some,
        (InventorySnapshot.find?_eq_some hfound).2]

theorem isConnected_eq_isSome_server? (session : VpnSession) :
    session.isConnected = session.server?.isSome := by
  cases session <;> rfl

theorem isConnected_reconciled (inventory : InventorySnapshot) (session : VpnSession) :
    (session.reconciled inventory).isConnected = session.isConnected := by
  have hend := congrArg Option.isSome (map_id_server?_reconciled inventory session)
  rwa [Option.isSome_map, Option.isSome_map, ← isConnected_eq_isSome_server?,
    ← isConnected_eq_isSome_server?] at hend

theorem resolve_of_nameless (inventory : InventorySnapshot) (hnameless : record.IsNameless) :
    resolve inventory record = reported unknownId record := by
  obtain ⟨hconnected, hunnamed⟩ := hnameless
  simp [resolve, hconnected, Text.bind_nonBlank_eq_none_iff.2 hunnamed]

/-- A report gives a settled session, unless it names no end. -/
theorem settledIn_resolve_of_not_nameless
    (inventory : InventorySnapshot) (hnamed : ¬ record.IsNameless) :
    (resolve inventory record).SettledIn inventory := by
  unfold resolve
  split
  · next hconnected =>
      split
      · next hunnamed =>
          have hblank := Text.bind_nonBlank_eq_none_iff.1 hunnamed
          exact absurd ⟨hconnected, hblank⟩ hnamed
      · next id _ =>
          split
          · next server hfound =>
              have hid : server.id = id := (InventorySnapshot.find?_eq_some hfound).2
              show inventory.find? server.id = some server
              rw [hid, hfound]
          · next hmissing => exact hmissing
  · trivial

/-- A report is taken for another one exactly if it names no end and a server has the identifier
that stands for an unknown one. -/
theorem settledIn_resolve_iff :
    (resolve inventory record).SettledIn inventory
      ↔ ¬ (record.IsNameless ∧ inventory.find? unknownId ≠ none) := by
  by_cases hnameless : record.IsNameless
  · rw [resolve_of_nameless inventory hnameless]
    show inventory.find? unknownId = none ↔ _
    simp [hnameless]
  · simp [hnameless, settledIn_resolve_of_not_nameless inventory hnameless]

end VpnSession

namespace Tracker

variable {tracker : Tracker} {inventory : InventorySnapshot}

/-- A look-up that finds what the session says changes and publishes nothing. -/
theorem reconcile_eq_self_iff :
    tracker.reconcile inventory = tracker ↔ tracker.session.SettledIn inventory := by
  rw [← VpnSession.reconciled_eq_self_iff]
  constructor
  · intro h
    exact congrArg session h
  · intro h
    unfold reconcile
    rw [h]
    simp [Published.update, session]

/-- The two look-ups agree with one exception: the session that a report has left stays as it is
when it is looked up again in the same inventory, unless the report names no end and the inventory
has a server with the identifier that stands for an unknown one. There the tunnel was shown as not
resolved, and is then shown to end at that server. A second look-up in the same inventory never
changes what the first one left, and no look-up changes the identifier of the end, opens a tunnel
or closes one. -/
theorem lookups_agree_iff (tracker : Tracker) (inventory : InventorySnapshot) :
    (∀ record : StatusRecord,
      let answered :=
        (tracker.settleQuery true inventory tracker.value.epoch (.ok record)).1
      (answered.reconcile inventory = answered
          ↔ ¬ (record.IsNameless ∧ inventory.find? VpnSession.unknownId ≠ none))
        ∧ (record.IsNameless → ∀ server,
          inventory.find? VpnSession.unknownId = some server →
            answered.session = VpnSession.reported VpnSession.unknownId record
              ∧ (answered.reconcile inventory).session = .connected server true))
      ∧ (tracker.reconcile inventory).reconcile inventory = tracker.reconcile inventory
      ∧ (tracker.reconcile inventory).session.server?.map Instance.id
        = tracker.session.server?.map Instance.id
      ∧ (tracker.reconcile inventory).session.isConnected = tracker.session.isConnected := by
  refine ⟨?_, ?_, ?_, ?_⟩
  · intro record answered
    have hanswered : answered.session = VpnSession.resolve inventory record :=
      congrArg SessionSnapshot.session (settleQuery_current_ok tracker inventory record).1
    refine ⟨?_, ?_⟩
    · rw [reconcile_eq_self_iff, hanswered, VpnSession.settledIn_resolve_iff]
    · intro hnameless server hfound
      rw [VpnSession.resolve_of_nameless inventory hnameless] at hanswered
      refine ⟨hanswered, ?_⟩
      show answered.session.reconciled inventory = .connected server true
      rw [hanswered]
      exact VpnSession.reconciled_of_found hfound
  · rw [reconcile_eq_self_iff]
    exact VpnSession.settledIn_reconciled inventory tracker.session
  · exact VpnSession.map_id_server?_reconciled inventory tracker.session
  · exact VpnSession.isConnected_reconciled inventory tracker.session

/-- A tunnel whose end nobody named is shown to end at the server that is called `unknown`. -/
theorem server_called_unknown_is_taken_for_the_end :
    let server : Instance := {
      id := "unknown"
      name := "vpn"
      lifecycle := .running
      publicV4 := ""
      publicV6 := none
      region := "eu-1" }
    let inventory := (Inventory.empty.insert server).value
    let nameless : StatusRecord := { StatusRecord.idle with connected := true }
    let answered := (empty.settleQuery true inventory 0 (.ok nameless)).1
    answered.session.isResolved = false
      ∧ answered.reconcile inventory ≠ answered
      ∧ (answered.reconcile inventory).session = .connected server true := by
  intro server inventory nameless answered
  have hnameless : nameless.IsNameless := ⟨rfl, nofun⟩
  have hfound : inventory.find? VpnSession.unknownId = some server := by decide
  obtain ⟨hagree, hmistaken⟩ := (lookups_agree_iff empty inventory).1 nameless
  obtain ⟨hshown, hchanged⟩ := hmistaken hnameless server hfound
  have hnot : ¬ answered.reconcile inventory = answered := by
    intro hsame
    refine hagree.1 hsame ⟨hnameless, ?_⟩
    rw [hfound]
    exact nofun
  exact ⟨congrArg VpnSession.isResolved hshown, hnot, hchanged⟩

end Tracker
end VpnFleet
