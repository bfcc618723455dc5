import VpnFleet.Instance
import VpnFleet.Published

/-!
# The inventory

The collection of servers across all regions: entries for servers that the
backend confirmed, and placeholders for spawns under way. The revision grows
with every change of the entries.
-/

namespace VpnFleet

/-- A member of the collection. -/
inductive Entry where
  | pending (placeholder : Placeholder)
  | confirmed (server : Instance)
deriving DecidableEq, Repr

namespace Entry

/-- The identifier of an entry, temporary for a placeholder. -/
def id : Entry → String
  | pending placeholder => placeholder.tempId
  | confirmed server => server.id

/-- The entry as its readers see it. -/
def toInstance : Entry → Instance
  | pending placeholder => placeholder.toInstance
  | confirmed server => server

/-- The entry is a placeholder. -/
def isPending : Entry → Bool
  | pending _ => true
  | confirmed _ => false

/-- The entry is the placeholder with this temporary identifier. -/
def isPlaceholder (tempId : String) : Entry → Bool
  | pending placeholder => placeholder.tempId = tempId
  | confirmed _ => false

/-- The entry is the confirmed server with this identifier. -/
def isConfirmed (id : String) : Entry → Bool
  | pending _ => false
  | confirmed server => server.id = id

/-- The server of a confirmed entry with this identifier. -/
def confirmed? (id : String) : Entry → Option Instance
  | pending _ => none
  | confirmed server => if server.id = id then some server else none

end Entry

/-- Why an inventory operation was refused or failed. -/
inductive InventoryError where
  | partialRefresh (regions : List String)
  | spawn (region message : String)
  | terminate (id message : String)
  | unknownRegion (region : String)
  | unknownInstance (id : String)
  | pendingInstance (id : String)
  | emptyRegion
deriving DecidableEq, Repr

namespace InventoryError

/-- Texts one after the other, with a comma between two. -/
def listed (items : List String) : String :=
  ", ".intercalate items

/-- The text of the error. -/
def message : InventoryError → String
  | partialRefresh regions => "instance listing failed in " ++ listed regions
  | spawn region message => "failed to spawn instance in " ++ region ++ ": " ++ message
  | terminate id message => "failed to terminate instance " ++ id ++ ": " ++ message
  | unknownRegion region => "unknown region " ++ region
  | unknownInstance id => "unknown instance " ++ id
  | pendingInstance id => "instance " ++ id ++ " is still being created"
  | emptyRegion => "region must not be empty"

/-- Why a server cannot be the end of a tunnel, as an error of the inventory. -/
def ofNotConnectable (server : Instance) : NotConnectable → InventoryError
  | .pending => pendingInstance server.id
  | .emptyRegion => emptyRegion

end InventoryError

/-- What the inventory publishes. -/
structure InventorySnapshot where
  /-- Confirmed entries, then placeholders. -/
  entries : List Entry
  /-- Grows with every change of the entries. -/
  revision : Nat
  /-- The regions that could not be listed by the last refresh. -/
  failedRegions : List String
  /-- Some refresh is under way. -/
  refreshing : Bool
  /-- The number of refreshes under way. -/
  inFlight : Nat
  lastError : Option InventoryError
deriving DecidableEq, Repr

namespace InventorySnapshot

/-- The entries as their readers see them. -/
def instances (snapshot : InventorySnapshot) : List Instance :=
  snapshot.entries.map Entry.toInstance

/-- The confirmed server with this identifier. -/
def find? (snapshot : InventorySnapshot) (id : String) : Option Instance :=
  snapshot.entries.findSome? (Entry.confirmed? id)

/-- Some entry carries the identifier. -/
def contains (snapshot : InventorySnapshot) (id : String) : Bool :=
  snapshot.entries.any fun entry => entry.id = id

end InventorySnapshot

/-- How the inventory is run. -/
structure InventoryOptions where
  /-- How many listings may be under way at once; zero for no bound. -/
  maxListings : Nat
  /-- The name of servers that the backend does not name. -/
  defaultName : String
deriving DecidableEq, Repr

/-- The inventory and its publications. -/
abbrev Inventory := Published InventorySnapshot

namespace Inventory

/-- An inventory without entries. -/
def empty : Inventory :=
  Published.new {
    entries := []
    revision := 0
    failedRegions := []
    refreshing := false
    inFlight := 0
    lastError := none }

/-- Changes the entries and counts the change. -/
def edit (inventory : Inventory) (f : List Entry → List Entry) : Inventory :=
  inventory.modify fun snapshot =>
    { snapshot with entries := f snapshot.entries, revision := snapshot.revision + 1 }

/-- Changes the entries and counts the change, unless the list keeps its length. -/
def shrink (inventory : Inventory) (f : List Entry → List Entry) : Inventory :=
  if (f inventory.value.entries).length = inventory.value.entries.length then inventory
  else inventory.edit f

/-- Puts a confirmed server where its identifier stands, or at the end. -/
def place (server : Instance) (entries : List Entry) : List Entry :=
  match entries.findIdx? fun entry => entry.id = server.id with
  | some i => entries.set i (.confirmed server)
  | none => entries ++ [.confirmed server]

/-- Inserts a confirmed server, or replaces the entry with its identifier. -/
def insert (inventory : Inventory) (server : Instance) : Inventory :=
  inventory.edit (place server)

/-- Removes the first entry with the identifier and returns it. -/
def remove (inventory : Inventory) (id : String) : Inventory × Option Entry :=
  match inventory.value.entries.findIdx? fun entry => entry.id = id with
  | some i => (inventory.edit fun entries => entries.eraseIdx i, inventory.value.entries[i]?)
  | none => (inventory, none)

end Inventory
end VpnFleet
