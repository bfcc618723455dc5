import VpnFleet.Proofs.Inventory.Entries

/-!
# Operations and entries

One statement for each operation of the inventory: which edit it makes on the
list of entries. Later modules know the operations through these statements
alone.

* Answers edit the entries while the client is alive, and not afterwards.
* A spawn that is accepted appends its placeholder; a termination that is
  accepted marks one confirmed entry. Refused operations change nothing.
* Under an identifier the first entry that carries it is found. Which entry this
  is decides whether a termination is accepted.
-/

namespace VpnFleet
namespace Inventory

variable {inventory next : Inventory}

@[simp]
theorem beginRefresh_entries (inventory : Inventory) :
    inventory.beginRefresh.value.entries = inventory.value.entries := rfl

@[simp]
theorem endRefresh_entries (inventory : Inventory) :
    inventory.endRefresh.value.entries = inventory.value.entries := rfl

/-- An edit that filters the entries is made whether or not it is counted. -/
theorem shrink_filter_entries (inventory : Inventory) (keep : Entry → Bool) :
    (inventory.shrink fun entries => entries.filter keep).value.entries
      = inventory.value.entries.filter keep := by
  unfold shrink
  split
  · next hlength =>
      exact (List.filter_sublist.eq_of_length hlength).symm
  · rfl

theorem settleRefresh_entries (inventory : Inventory) (alive : Bool) (report : RefreshReport) :
    (inventory.settleRefresh alive report).value.entries
      = if alive then refreshed report inventory.value.entries else inventory.value.entries := by
  cases alive <;> rfl

/-- An accepted spawn appends a placeholder with the identifier it was given. -/
theorem beginSpawn_eq_edit
    {catalog : Catalog} {options : InventoryOptions}
    {tempId region : String} {placeholder : Placeholder}
    (h : inventory.beginSpawn catalog options tempId region = .ok (next, placeholder)) :
    placeholder.tempId = tempId
      ∧ next = inventory.edit fun entries => entries ++ [.pending placeholder] := by
  unfold beginSpawn at h
  cases hregion : spawnRegion catalog region with
  | error error =>
    rw [hregion] at h
    cases h
  | ok trimmed =>
    rw [hregion] at h
    cases h
    exact ⟨rfl, rfl⟩

theorem beginSpawn_eq_ok
    {catalog : Catalog} {options : InventoryOptions}
    {tempId region : String} {placeholder : Placeholder}
    (h : inventory.beginSpawn catalog options tempId region = .ok (next, placeholder)) :
    placeholder.tempId = tempId
      ∧ next.value.entries = inventory.value.entries ++ [.pending placeholder] := by
  obtain ⟨htemp, rfl⟩ := beginSpawn_eq_edit h
  exact ⟨htemp, by simp [edit]⟩

theorem settleSpawn_ok_entries
    (inventory : Inventory) (alive : Bool) (placeholder : Placeholder) (record : SpawnedRecord) :
    (inventory.settleSpawn alive placeholder (.ok record)).1.value.entries
      = if alive then
          reconcile placeholder.tempId (Instance.ofSpawned record placeholder.name)
            inventory.value.entries
        else inventory.value.entries := by
  cases alive <;> rfl

theorem settleSpawn_error_entries
    (inventory : Inventory) (alive : Bool) (placeholder : Placeholder) (message : String) :
    (inventory.settleSpawn alive placeholder (.error message)).1.value.entries
      = if alive then
          inventory.value.entries.filter fun entry => entry.id ≠ placeholder.tempId
        else inventory.value.entries := by
  cases alive <;> rfl

theorem discard_entries (inventory : Inventory) (alive : Bool) (tempId : String) :
    (inventory.discard alive tempId).value.entries
      = if alive then
          inventory.value.entries.filter fun entry => !entry.isPlaceholder tempId
        else inventory.value.entries := by
  cases alive with
  | false => rfl
  | true => exact shrink_filter_entries inventory _

/-- An accepted termination marks a confirmed entry with the identifier. -/
theorem beginTerminate_eq_ok
    {id : String} {call : Termination}
    (h : inventory.beginTerminate id = (next, .ok call)) :
    ∃ i server,
      inventory.value.entries[i]? = some (.confirmed server)
        ∧ server.id = id
        ∧ call = { id, region := server.region, previous := server.lifecycle }
        ∧ next.value.entries = inventory.value.entries.modify i markTerminating := by
  unfold beginTerminate at h
  cases hplace : inventory.value.entries.findIdx? fun entry => entry.id = id with
  | none =>
    rw [hplace] at h
    cases h
  | some i =>
    obtain ⟨entry, hi, hid⟩ := Keyed.exists_getElem?_of_findIdx? hplace
    rw [hplace] at h
    simp only [hi] at h
    cases entry with
    | pending placeholder => cases h
    | confirmed server =>
      cases h
      exact ⟨i, server, hi, of_decide_eq_true hid, rfl, rfl⟩

theorem beginTerminate_eq_error
    {id : String} {error : InventoryError}
    (h : inventory.beginTerminate id = (next, .error error)) :
    next = inventory := by
  unfold beginTerminate at h
  split at h
  · cases h
    rfl
  · split at h
    · cases h
      rfl
    · cases h
      rfl
    · cases h

theorem settleTerminate_ok_entries
    (inventory : Inventory) (alive : Bool) (call : Termination) :
    (inventory.settleTerminate alive call (.ok ())).1.value.entries
      = if alive then inventory.value.entries.filter fun entry => entry.id ≠ call.id
        else inventory.value.entries := by
  cases alive with
  | false => rfl
  | true => exact shrink_filter_entries inventory _

/-- A failed termination restores one entry or none. -/
theorem settleTerminate_error_entries
    (inventory : Inventory) (alive : Bool) (call : Termination) (message : String) :
    (inventory.settleTerminate alive call (.error message)).1.value.entries
        = inventory.value.entries
      ∨ ∃ i,
        (inventory.settleTerminate alive call (.error message)).1.value.entries
          = inventory.value.entries.modify i (restore call.previous) := by
  cases alive with
  | false => exact Or.inl rfl
  | true =>
    show (inventory.unmark call _).value.entries = _
      ∨ ∃ i, (inventory.unmark call _).value.entries = _
    unfold unmark
    rw [Published.modify_value]
    split
    · next i _ => exact Or.inr ⟨i, rfl⟩
    · exact Or.inl rfl

@[simp]
theorem insert_entries (inventory : Inventory) (server : Instance) :
    (inventory.insert server).value.entries = place server inventory.value.entries := rfl

/-- A removal takes out an entry with the identifier, or finds none. -/
theorem remove_entries (inventory : Inventory) (id : String) :
    (inventory.remove id).1.value.entries = inventory.value.entries
      ∨ ∃ i entry,
        inventory.value.entries[i]? = some entry
          ∧ entry.id = id
          ∧ (inventory.remove id).1.value.entries = inventory.value.entries.eraseIdx i := by
  unfold remove
  cases hplace : inventory.value.entries.findIdx? fun entry => entry.id = id with
  | none => exact Or.inl rfl
  | some i =>
    obtain ⟨entry, hi, hid⟩ := Keyed.exists_getElem?_of_findIdx? hplace
    exact Or.inr ⟨i, entry, hi, of_decide_eq_true hid, rfl⟩

section Members

variable {entry : Entry} {alive : Bool}

/-- A settled refresh brings in the servers of its report and nothing else. -/
theorem mem_settleRefresh
    {report : RefreshReport}
    (h : entry ∈ (inventory.settleRefresh alive report).value.entries) :
    entry ∈ inventory.value.entries
      ∨ ∃ server ∈ report.instances, entry = .confirmed server := by
  rw [settleRefresh_entries] at h
  split at h
  · rcases List.mem_append.1 h with hserver | hpending
    · obtain ⟨server, hmem, rfl⟩ := List.mem_map.1 hserver
      exact Or.inr ⟨server, hmem, rfl⟩
    · exact Or.inl (List.mem_filter.1 hpending).1
  · exact Or.inl h

theorem mem_settleSpawn
    {placeholder : Placeholder} {answer : Except String SpawnedRecord}
    (h : entry ∈ (inventory.settleSpawn alive placeholder answer).1.value.entries) :
    entry ∈ inventory.value.entries
      ∨ ∃ record, answer = .ok record
          ∧ entry = .confirmed (Instance.ofSpawned record placeholder.name) := by
  cases answer with
  | ok record =>
    rw [settleSpawn_ok_entries] at h
    split at h
    · rcases mem_or_eq_of_mem_reconcile h with hold | rfl
      · exact Or.inl hold
      · exact Or.inr ⟨record, rfl, rfl⟩
    · exact Or.inl h
  | error message =>
    rw [settleSpawn_error_entries] at h
    split at h
    · exact Or.inl (List.mem_filter.1 h).1
    · exact Or.inl h

theorem mem_of_mem_discard
    {tempId : String}
    (h : entry ∈ (inventory.discard alive tempId).value.entries) :
    entry ∈ inventory.value.entries := by
  rw [discard_entries] at h
  split at h
  · exact (List.mem_filter.1 h).1
  · exact h

/-- A settled termination brings in nothing but a server with another lifecycle. -/
theorem mem_settleTerminate
    {call : Termination} {answer : Except String Unit}
    (h : entry ∈ (inventory.settleTerminate alive call answer).1.value.entries) :
    entry ∈ inventory.value.entries
      ∨ ∃ old ∈ inventory.value.entries, entry = restore call.previous old := by
  cases answer with
  | ok reply =>
    rw [settleTerminate_ok_entries] at h
    split at h
    · exact Or.inl (List.mem_filter.1 h).1
    · exact Or.inl h
  | error message =>
    rcases settleTerminate_error_entries inventory alive call message
      with hsame | ⟨i, hrestored⟩
    · rw [hsame] at h
      exact Or.inl h
    · rw [hrestored] at h
      exact Keyed.mem_or_exists_of_mem_modify h

theorem mem_of_mem_remove
    {id : String}
    (h : entry ∈ (inventory.remove id).1.value.entries) :
    entry ∈ inventory.value.entries := by
  rcases remove_entries inventory id with hsame | ⟨i, _, _, _, herased⟩
  · rw [hsame] at h
    exact h
  · rw [herased] at h
    exact List.mem_of_mem_eraseIdx h

end Members

section Lookup

variable {id : String}

/-- The entry that carries the identifier, the first one if there are several. -/
def lookup? (inventory : Inventory) (id : String) : Option Entry :=
  inventory.value.entries.find? fun entry => entry.id = id

theorem id_of_lookup? {entry : Entry} (h : inventory.lookup? id = some entry) : entry.id = id := by
  unfold lookup? at h
  simpa using List.find?_some h

theorem mem_of_lookup? {entry : Entry} (h : inventory.lookup? id = some entry) :
    entry ∈ inventory.value.entries :=
  List.mem_of_find?_eq_some h

/-- The server that readers find under an identifier is that of the entry. -/
theorem find?_instances (inventory : Inventory) (id : String) :
    (inventory.value.instances.find? fun server => server.id = id)
      = (inventory.lookup? id).map Entry.toInstance := by
  have hid (entry : Entry) : entry.toInstance.id = entry.id := by
    cases entry <;> rfl
  unfold InventorySnapshot.instances lookup?
  rw [List.find?_map]
  simp only [Function.comp_def, hid]

/-- The place of the entry that carries an identifier. -/
theorem exists_findIdx?_of_lookup? {entry : Entry} (h : inventory.lookup? id = some entry) :
    ∃ i, inventory.value.entries.findIdx? (fun entry => entry.id = id) = some i
      ∧ inventory.value.entries[i]? = some entry := by
  cases hplace : inventory.value.entries.findIdx? fun entry => entry.id = id with
  | none =>
    have hnone := List.findIdx?_eq_none_iff.1 hplace entry (mem_of_lookup? h)
    rw [id_of_lookup? h, decide_eq_true rfl] at hnone
    cases hnone
  | some i => exact ⟨i, rfl, (Keyed.find?_eq_getElem?_of_findIdx? hplace).symm.trans h⟩

theorem beginTerminate_of_absent (h : inventory.lookup? id = none) :
    inventory.beginTerminate id = (inventory, .error (.unknownInstance id)) := by
  have hplace : inventory.value.entries.findIdx? (fun entry => entry.id = id) = none := by
    rw [List.findIdx?_eq_none_iff]
    intro entry hentry
    simpa using List.find?_eq_none.1 h entry hentry
  unfold beginTerminate
  rw [hplace]

theorem beginTerminate_of_pending
    {placeholder : Placeholder} (h : inventory.lookup? id = some (.pending placeholder)) :
    inventory.beginTerminate id = (inventory, .error (.pendingInstance id)) := by
  obtain ⟨i, hplace, hi⟩ := exists_findIdx?_of_lookup? h
  unfold beginTerminate
  rw [hplace]
  simp only [hi]

/-- A confirmed entry is marked and still carries its identifier. -/
theorem beginTerminate_of_confirmed
    {server : Instance} (h : inventory.lookup? id = some (.confirmed server)) :
    ∃ next,
      inventory.beginTerminate id
          = (next, .ok { id, region := server.region, previous := server.lifecycle })
        ∧ next.lookup? id = some (.confirmed { server with lifecycle := .terminating }) := by
  obtain ⟨i, hplace, hi⟩ := exists_findIdx?_of_lookup? h
  refine ⟨inventory.edit fun entries => entries.modify i markTerminating, ?_, ?_⟩
  · unfold beginTerminate
    rw [hplace]
    simp only [hi]
  · have hmarked : (inventory.value.entries.modify i markTerminating).findIdx?
        (fun entry => entry.id = id) = some i := by
      rw [← hplace]
      exact Keyed.findIdx?_congr
        (Keyed.map_modify_eq (fun entry => by cases entry <;> rfl) _ i)
    refine (Keyed.find?_eq_getElem?_of_findIdx? hmarked).trans ?_
    rw [List.getElem?_modify_eq, hi]
    rfl

/-- A termination that is accepted found the entry confirmed. -/
theorem exists_confirmed_of_beginTerminate
    {termination : Termination} (h : inventory.beginTerminate id = (next, .ok termination)) :
    ∃ server,
      inventory.lookup? id = some (.confirmed server)
        ∧ termination = { id, region := server.region, previous := server.lifecycle }
        ∧ next.lookup? id = some (.confirmed { server with lifecycle := .terminating }) := by
  cases hentry : inventory.lookup? id with
  | none =>
    rw [beginTerminate_of_absent hentry] at h
    cases h
  | some entry =>
    cases entry with
    | pending placeholder =>
      rw [beginTerminate_of_pending hentry] at h
      cases h
    | confirmed server =>
      obtain ⟨marked, hbegun, hmarked⟩ := beginTerminate_of_confirmed hentry
      rw [hbegun] at h
      cases h
      exact ⟨server, rfl, rfl, hmarked⟩

end Lookup

end Inventory
end VpnFleet
