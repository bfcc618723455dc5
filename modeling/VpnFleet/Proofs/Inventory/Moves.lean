import VpnFleet.Proofs.Inventory.Operations
import VpnFleet.Proofs.Published

/-!
# Moves of an inventory

Whatever runs, the inventory changes only through its own operations. `Move`
lists what one step can make of it.

* The revision counts the changes of the entries: a move leaves both as they
  are, or leaves the entries and raises the revision, or changes both.
* A move publishes what it changes.
-/

namespace VpnFleet
namespace Inventory

/-- One step of some operation on the inventory. -/
inductive Move (alive : Bool) (inventory : Inventory) : Inventory → Prop
  | stay : Move alive inventory inventory
  | beginRefresh : Move alive inventory inventory.beginRefresh
  | settleRefresh (report : RefreshReport) :
      Move alive inventory (inventory.settleRefresh alive report)
  | endRefresh : Move alive inventory inventory.endRefresh
  | beginSpawn {catalog : Catalog} {options : InventoryOptions} {tempId region : String}
      {next : Inventory} {placeholder : Placeholder}
      (accepted : inventory.beginSpawn catalog options tempId region = .ok (next, placeholder)) :
      Move alive inventory next
  | settleSpawn (placeholder : Placeholder) (answer : Except String SpawnedRecord) :
      Move alive inventory (inventory.settleSpawn alive placeholder answer).1
  | discard (tempId : String) : Move alive inventory (inventory.discard alive tempId)
  | beginTerminate (id : String) : Move alive inventory (inventory.beginTerminate id).1
  | settleTerminate (call : Termination) (answer : Except String Unit) :
      Move alive inventory (inventory.settleTerminate alive call answer).1
  | insert (server : Instance) : Move alive inventory (inventory.insert server)
  | remove (id : String) : Move alive inventory (inventory.remove id).1

/-- The entries stay with their revision, or the revision grows. -/
def Advances (inventory next : Inventory) : Prop :=
  (next.value.entries = inventory.value.entries
      ∧ next.value.revision = inventory.value.revision)
    ∨ inventory.value.revision < next.value.revision

variable {inventory mid next : Inventory} {alive : Bool}

theorem Advances.refl (inventory : Inventory) : Advances inventory inventory :=
  Or.inl ⟨rfl, rfl⟩

theorem Advances.revision_le (h : Advances inventory next) :
    inventory.value.revision ≤ next.value.revision := by
  rcases h with ⟨-, hrevision⟩ | hgrown
  · omega
  · omega

theorem Advances.trans (h₁ : Advances inventory mid) (h₂ : Advances mid next) :
    Advances inventory next := by
  rcases h₁ with ⟨hentries, hrevision⟩ | hgrown
  · rcases h₂ with ⟨hlater, hsame⟩ | hgrown
    · exact Or.inl ⟨hlater.trans hentries, hsame.trans hrevision⟩
    · exact Or.inr (by omega)
  · have hle := h₂.revision_le
    exact Or.inr (by omega)

theorem Advances.entries_eq
    (h : Advances inventory next) (hrevision : next.value.revision = inventory.value.revision) :
    next.value.entries = inventory.value.entries := by
  rcases h with ⟨hentries, -⟩ | hgrown
  · exact hentries
  · omega

theorem edit_advances (inventory : Inventory) (f : List Entry → List Entry) :
    Advances inventory (inventory.edit f) :=
  Or.inr (Nat.lt_succ_self _)

theorem shrink_advances (inventory : Inventory) (f : List Entry → List Entry) :
    Advances inventory (inventory.shrink f) := by
  unfold shrink
  split
  · exact Advances.refl inventory
  · exact edit_advances inventory f

theorem settleRefresh_advances (inventory : Inventory) (alive : Bool) (report : RefreshReport) :
    Advances inventory (inventory.settleRefresh alive report) := by
  cases alive with
  | false => exact Or.inl ⟨rfl, rfl⟩
  | true => exact Or.inr (Nat.lt_succ_self _)

theorem beginSpawn_advances
    {catalog : Catalog} {options : InventoryOptions} {tempId region : String}
    {placeholder : Placeholder}
    (h : inventory.beginSpawn catalog options tempId region = .ok (next, placeholder)) :
    Advances inventory next := by
  obtain ⟨-, rfl⟩ := beginSpawn_eq_edit h
  exact edit_advances inventory _

theorem settleSpawn_advances
    (inventory : Inventory) (alive : Bool) (placeholder : Placeholder)
    (answer : Except String SpawnedRecord) :
    Advances inventory (inventory.settleSpawn alive placeholder answer).1 := by
  cases alive with
  | false => cases answer <;> exact Advances.refl inventory
  | true => cases answer <;> exact Or.inr (Nat.lt_succ_self _)

theorem discard_advances (inventory : Inventory) (alive : Bool) (tempId : String) :
    Advances inventory (inventory.discard alive tempId) := by
  cases alive with
  | false => exact Advances.refl inventory
  | true => exact shrink_advances inventory _

theorem beginTerminate_advances (inventory : Inventory) (id : String) :
    Advances inventory (inventory.beginTerminate id).1 := by
  unfold beginTerminate
  split
  · exact Advances.refl inventory
  · split
    · exact Advances.refl inventory
    · exact Advances.refl inventory
    · exact edit_advances inventory _

theorem unmark_advances (inventory : Inventory) (call : Termination) (error : InventoryError) :
    Advances inventory (inventory.unmark call error) := by
  unfold unmark Advances
  rw [Published.modify_value]
  split
  · exact Or.inr (Nat.lt_succ_self _)
  · exact Or.inl ⟨rfl, rfl⟩

theorem settleTerminate_advances
    (inventory : Inventory) (alive : Bool) (call : Termination) (answer : Except String Unit) :
    Advances inventory (inventory.settleTerminate alive call answer).1 := by
  cases alive with
  | false => cases answer <;> exact Advances.refl inventory
  | true =>
    cases answer with
    | ok reply => exact shrink_advances inventory _
    | error message => exact unmark_advances inventory call _

theorem remove_advances (inventory : Inventory) (id : String) :
    Advances inventory (inventory.remove id).1 := by
  unfold remove
  split
  · exact edit_advances inventory _
  · exact Advances.refl inventory

/-- Every move that changes the entries raises the revision. -/
theorem Move.advances (move : Move alive inventory next) : Advances inventory next := by
  cases move with
  | stay => exact Advances.refl inventory
  | beginRefresh => exact Or.inl ⟨rfl, rfl⟩
  | settleRefresh report => exact settleRefresh_advances inventory alive report
  | endRefresh => exact Or.inl ⟨rfl, rfl⟩
  | beginSpawn accepted => exact beginSpawn_advances accepted
  | settleSpawn placeholder answer => exact settleSpawn_advances inventory alive placeholder answer
  | discard tempId => exact discard_advances inventory alive tempId
  | beginTerminate id => exact beginTerminate_advances inventory id
  | settleTerminate call answer => exact settleTerminate_advances inventory alive call answer
  | insert server => exact edit_advances inventory _
  | remove id => exact remove_advances inventory id

theorem shrink_notifies (inventory : Inventory) (f : List Entry → List Entry) :
    inventory.Notifies id (inventory.shrink f) := by
  by_cases hlength : (f inventory.value.entries).length = inventory.value.entries.length
  · simp [shrink, hlength, Published.Notifies]
  · simp [shrink, hlength, edit, Published.Notifies]

theorem settleRefresh_notifies (inventory : Inventory) (alive : Bool) (report : RefreshReport) :
    inventory.Notifies id (inventory.settleRefresh alive report) := by
  cases alive with
  | false => simp [settleRefresh, endRefresh, Published.Notifies]
  | true =>
    have happlied : inventory.Notifies id (inventory.applyRefresh report) :=
      Published.modify_notifies id inventory _
    have hended : (inventory.applyRefresh report).Notifies id
        (inventory.applyRefresh report).endRefresh :=
      Published.modify_notifies id _ _
    simpa [settleRefresh] using happlied.trans hended

theorem beginSpawn_notifies
    {catalog : Catalog} {options : InventoryOptions} {tempId region : String}
    {placeholder : Placeholder}
    (h : inventory.beginSpawn catalog options tempId region = .ok (next, placeholder)) :
    inventory.Notifies id next := by
  obtain ⟨-, rfl⟩ := beginSpawn_eq_edit h
  simp [edit, Published.Notifies]

theorem settleSpawn_notifies
    (inventory : Inventory) (alive : Bool) (placeholder : Placeholder)
    (answer : Except String SpawnedRecord) :
    inventory.Notifies id (inventory.settleSpawn alive placeholder answer).1 := by
  cases answer <;> cases alive <;> simp [settleSpawn, edit, withdraw, Published.Notifies]

theorem discard_notifies (inventory : Inventory) (alive : Bool) (tempId : String) :
    inventory.Notifies id (inventory.discard alive tempId) := by
  cases alive with
  | false => simp [discard, Published.Notifies]
  | true => simpa [discard] using shrink_notifies inventory _

theorem beginTerminate_notifies (inventory : Inventory) (target : String) :
    inventory.Notifies id (inventory.beginTerminate target).1 := by
  unfold beginTerminate
  split
  · exact Published.Notifies.refl id inventory
  · split <;> simp [edit, Published.Notifies]

theorem settleTerminate_notifies
    (inventory : Inventory) (alive : Bool) (call : Termination) (answer : Except String Unit) :
    inventory.Notifies id (inventory.settleTerminate alive call answer).1 := by
  cases alive with
  | false => cases answer <;> simp [settleTerminate, Published.Notifies]
  | true =>
    cases answer with
    | ok reply => simpa [settleTerminate] using shrink_notifies inventory _
    | error message => simp [settleTerminate, unmark, Published.Notifies]

theorem remove_notifies (inventory : Inventory) (target : String) :
    inventory.Notifies id (inventory.remove target).1 := by
  unfold remove
  split <;> simp [edit, Published.Notifies]

/-- Every move that changes the snapshot publishes it. -/
theorem Move.notifies (move : Move alive inventory next) : inventory.Notifies id next := by
  cases move with
  | stay => exact Published.Notifies.refl id inventory
  | beginRefresh => exact Published.modify_notifies id inventory _
  | settleRefresh report => exact settleRefresh_notifies inventory alive report
  | endRefresh => exact Published.modify_notifies id inventory _
  | beginSpawn accepted => exact beginSpawn_notifies accepted
  | settleSpawn placeholder answer => exact settleSpawn_notifies inventory alive placeholder answer
  | discard tempId => exact discard_notifies inventory alive tempId
  | beginTerminate target => exact beginTerminate_notifies inventory target
  | settleTerminate call answer => exact settleTerminate_notifies inventory alive call answer
  | insert server => exact Published.modify_notifies id inventory _
  | remove target => exact remove_notifies inventory target

end Inventory
end VpnFleet
