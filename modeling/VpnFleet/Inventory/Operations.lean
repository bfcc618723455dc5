import VpnFleet.Catalog
import VpnFleet.Inventory.Sweep

/-!
# Operations on the inventory

Each operation that asks the backend has a step before the call and a step
after its answer; between the two any other operation may run.

* A refresh counts itself in, merges its listings, and counts itself out on
  every way it ends. Placeholders survive it and follow the refreshed entries.
* A spawn puts a placeholder at the end. Its answer replaces the placeholder,
  or removes it; a spawn that is given up removes it as well.
* A termination marks the entry before the call. Its answer removes the entry,
  or restores the state that the call found.

The steps after an answer change nothing once the client was torn down.
-/

namespace VpnFleet

/-- A termination under way: what it targets and the state it found there. -/
structure Termination where
  id : String
  region : String
  previous : Lifecycle
deriving DecidableEq, Repr

namespace Inventory

/-- A refresh begins. -/
def beginRefresh (inventory : Inventory) : Inventory :=
  inventory.modify fun snapshot =>
    { snapshot with inFlight := snapshot.inFlight + 1, refreshing := true }

/-- A refresh ends, whether it was applied, discarded or given up. -/
def endRefresh (inventory : Inventory) : Inventory :=
  inventory.modify fun snapshot =>
    { snapshot with
      inFlight := snapshot.inFlight - 1
      refreshing := decide (0 < snapshot.inFlight - 1) }

/-- The entries after a refresh: what was found, then the placeholders. -/
def refreshed (report : RefreshReport) (entries : List Entry) : List Entry :=
  report.instances.map Entry.confirmed ++ entries.filter Entry.isPending

/-- The error that a report leaves behind. -/
def refreshError (report : RefreshReport) : Option InventoryError :=
  if report.isComplete then none else some (.partialRefresh report.failedRegions)

/-- The report of a refresh replaces the confirmed entries. -/
def applyRefresh (inventory : Inventory) (report : RefreshReport) : Inventory :=
  inventory.modify fun snapshot =>
    { snapshot with
      entries := refreshed report snapshot.entries
      revision := snapshot.revision + 1
      failedRegions := report.failedRegions
      lastError := refreshError report }

/-- A refresh comes to its report: it is applied while the client is alive. -/
def settleRefresh (inventory : Inventory) (alive : Bool) (report : RefreshReport) : Inventory :=
  (if alive then inventory.applyRefresh report else inventory).endRefresh

/-- The region that a spawn may use: not blank, and known once regions are loaded. -/
def spawnRegion (catalog : Catalog) (region : String) : Except InventoryError String :=
  let trimmed := Text.trim region
  if Text.isBlank region then .error .emptyRegion
  else if catalog.value.status = .ready && !catalog.knows trimmed then
    .error (.unknownRegion trimmed)
  else .ok trimmed

/-- A spawn begins with a placeholder at the end. -/
def beginSpawn
    (inventory : Inventory)
    (catalog : Catalog)
    (options : InventoryOptions)
    (tempId region : String) :
    Except InventoryError (Inventory × Placeholder) := do
  let region ← spawnRegion catalog region
  let placeholder := { tempId, region, name := options.defaultName }
  return (inventory.edit fun entries => entries ++ [.pending placeholder], placeholder)

/-- The entries after a spawn was confirmed: the server stands where it stood already,
else in the place of its placeholder, else at the end; the placeholder is gone. -/
def reconcile (tempId : String) (server : Instance) (entries : List Entry) : List Entry :=
  match entries.findIdx? (Entry.isConfirmed server.id),
    entries.findIdx? (Entry.isPlaceholder tempId) with
  | some i, some slot => (entries.set i (.confirmed server)).eraseIdx slot
  | some i, none => entries.set i (.confirmed server)
  | none, some slot => entries.set slot (.confirmed server)
  | none, none => entries ++ [.confirmed server]

/-- A spawn failed: nothing carries the temporary identifier any more. -/
def withdraw (inventory : Inventory) (tempId : String) (error : InventoryError) : Inventory :=
  inventory.modify fun snapshot =>
    { snapshot with
      entries := snapshot.entries.filter fun entry => entry.id ≠ tempId
      revision := snapshot.revision + 1
      lastError := some error }

/-- A spawn ends with the answer of the backend. -/
def settleSpawn
    (inventory : Inventory)
    (alive : Bool)
    (placeholder : Placeholder)
    (answer : Except String SpawnedRecord) :
    Inventory × Except InventoryError Instance :=
  match answer with
  | .ok record =>
    let server := Instance.ofSpawned record placeholder.name
    (if alive then inventory.edit (reconcile placeholder.tempId server) else inventory,
      .ok server)
  | .error message =>
    let error := InventoryError.spawn placeholder.region message
    (if alive then inventory.withdraw placeholder.tempId error else inventory, .error error)

/-- A spawn is given up before its answer: its placeholder goes. -/
def discard (inventory : Inventory) (alive : Bool) (tempId : String) : Inventory :=
  if alive then
    inventory.shrink fun entries => entries.filter fun entry => !entry.isPlaceholder tempId
  else inventory

/-- Marks a server as terminating. -/
def markTerminating : Entry → Entry
  | .pending placeholder => .pending placeholder
  | .confirmed server => .confirmed { server with lifecycle := .terminating }

/-- A termination begins: a confirmed entry is marked, anything else is refused. -/
def beginTerminate (inventory : Inventory) (id : String) :
    Inventory × Except InventoryError Termination :=
  match inventory.value.entries.findIdx? fun entry => entry.id = id with
  | none => (inventory, .error (.unknownInstance id))
  | some i =>
    match inventory.value.entries[i]? with
    | none => (inventory, .error (.unknownInstance id))
    | some (.pending _) => (inventory, .error (.pendingInstance id))
    | some (.confirmed server) =>
      (inventory.edit fun entries => entries.modify i markTerminating,
        .ok { id, region := server.region, previous := server.lifecycle })

/-- The entry is the target and still marked. -/
def isMarked (id : String) : Entry → Bool
  | .pending _ => false
  | .confirmed server => server.id = id && server.lifecycle = .terminating

/-- Gives a server the state back that a termination found. -/
def restore (previous : Lifecycle) : Entry → Entry
  | .pending placeholder => .pending placeholder
  | .confirmed server => .confirmed { server with lifecycle := previous }

/-- A termination failed: the first marked entry with the identifier is restored. -/
def unmark (inventory : Inventory) (call : Termination) (error : InventoryError) : Inventory :=
  inventory.modify fun snapshot =>
    match snapshot.entries.findIdx? (isMarked call.id) with
    | some i =>
      { snapshot with
        entries := snapshot.entries.modify i (restore call.previous)
        revision := snapshot.revision + 1
        lastError := some error }
    | none => { snapshot with lastError := some error }

/-- A termination ends with the answer of the backend. -/
def settleTerminate
    (inventory : Inventory)
    (alive : Bool)
    (call : Termination)
    (answer : Except String Unit) :
    Inventory × Except InventoryError Unit :=
  match answer with
  | .ok () =>
    (if alive then
        inventory.shrink fun entries => entries.filter fun entry => entry.id ≠ call.id
      else inventory,
      .ok ())
  | .error message =>
    let error := InventoryError.terminate call.id message
    (if alive then inventory.unmark call error else inventory, .error error)

end Inventory
end VpnFleet
