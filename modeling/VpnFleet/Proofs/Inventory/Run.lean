import Mathlib.Logic.Relation
import VpnFleet.Proofs.Inventory.Operations

/-!
# Runs of an inventory

Any number of refreshes, spawns and terminations of one inventory may be under
way at once. A run interleaves their steps with each other and with insertions
and removals: what an operation does between two calls to the backend is one
step, any operation may take the next one, and the backend may answer anything.

* An `InventoryRun` holds the inventory, the operations under way and all that
  has happened.
* `InventoryRun.Step` is one step of one operation.
* `InventoryRun.Reached` says that a run that began with nothing comes to a
  state.
-/

namespace VpnFleet

/-- A spawn that is neither settled nor given up. -/
structure Ticket where
  placeholder : Placeholder
  /-- The backend was asked for the server. -/
  asked : Bool

/-- What can happen to an inventory. -/
inductive InventoryEvent where
  | beginRefresh (regions : List String)
  | askListing (region : String)
  | answerListing (region : String) (listing : Listing)
  | settleRefresh (report : RefreshReport)
  | abandonRefresh
  | beginSpawn (placeholder : Placeholder)
  | refuseSpawn (error : InventoryError)
  | confirm (placeholder : Placeholder)
  | settleSpawn (placeholder : Placeholder) (answer : Except String SpawnedRecord)
  | discard (placeholder : Placeholder)
  | beginTerminate (call : Termination)
  | refuseTerminate (error : InventoryError)
  | settleTerminate (call : Termination) (answer : Except String Unit)
  | insert (server : Instance)
  | remove (id : String)
  | retire

/-- What happened to an inventory, the oldest first. -/
abbrev InventoryHistory := List InventoryEvent

/-- An inventory with the operations under way. -/
structure InventoryRun where
  options : InventoryOptions
  inventory : Inventory
  alive : Bool
  sweeps : List Sweep
  /-- The open tickets, in the order of issue. -/
  tickets : List Ticket
  terminations : List Termination
  past : InventoryHistory

namespace InventoryRun

/-- An inventory to which nothing has happened. -/
def new (options : InventoryOptions) : InventoryRun where
  options := options
  inventory := Inventory.empty
  alive := true
  sweeps := []
  tickets := []
  terminations := []
  past := []

def entries (run : InventoryRun) : List Entry :=
  run.inventory.value.entries

def note (run : InventoryRun) (event : InventoryEvent) : InventoryRun :=
  { run with past := run.past ++ [event] }

/-- One step of one operation. A catalog that is asked may hold anything. -/
inductive Step : InventoryRun → InventoryRun → Prop
  | beginRefresh (run : InventoryRun) (catalog : Catalog) :
      Step run { run.note (.beginRefresh catalog.codes) with
        inventory := run.inventory.beginRefresh
        sweeps := run.sweeps ++ [Sweep.ofRegions run.options.maxListings catalog.codes] }
  | askListing (run : InventoryRun) {i slot : Nat} {sweep : Sweep} {region : String}
      (found : run.sweeps[i]? = some sweep)
      (next : sweep.next? = some (slot, region)) :
      Step run { run.note (.askListing region) with
        sweeps := run.sweeps.set i (sweep.ask slot) }
  | answerListing (run : InventoryRun) {i slot : Nat} {sweep : Sweep} {place : Slot}
      (listing : Listing)
      (found : run.sweeps[i]? = some sweep)
      (slotFound : sweep.slots[slot]? = some place)
      (asked : place.isAsked = true) :
      Step run { run.note (.answerListing place.region listing) with
        sweeps := run.sweeps.set i (sweep.answer slot listing) }
  | settleRefresh (run : InventoryRun) {i : Nat} {sweep : Sweep}
      (found : run.sweeps[i]? = some sweep)
      (done : sweep.isDone = true) :
      Step run { run.note (.settleRefresh (sweep.report run.options.defaultName)) with
        inventory :=
          run.inventory.settleRefresh run.alive (sweep.report run.options.defaultName)
        sweeps := run.sweeps.eraseIdx i }
  | abandonRefresh (run : InventoryRun) {i : Nat} {sweep : Sweep}
      (found : run.sweeps[i]? = some sweep) :
      Step run { run.note .abandonRefresh with
        inventory := run.inventory.endRefresh
        sweeps := run.sweeps.eraseIdx i }
  | beginSpawn (run : InventoryRun) (catalog : Catalog) (tempId region : String)
      {inventory : Inventory} {placeholder : Placeholder}
      (accepted : run.inventory.beginSpawn catalog run.options tempId region
        = .ok (inventory, placeholder)) :
      Step run { run.note (.beginSpawn placeholder) with
        inventory := inventory
        tickets := run.tickets ++ [{ placeholder, asked := false }] }
  | refuseSpawn (run : InventoryRun) (catalog : Catalog) (tempId region : String)
      {error : InventoryError}
      (refused : run.inventory.beginSpawn catalog run.options tempId region = .error error) :
      Step run (run.note (.refuseSpawn error))
  | confirm (run : InventoryRun) {i : Nat} {ticket : Ticket}
      (found : run.tickets[i]? = some ticket)
      (unasked : ticket.asked = false) :
      Step run { run.note (.confirm ticket.placeholder) with
        tickets := run.tickets.set i { ticket with asked := true } }
  | settleSpawn (run : InventoryRun) {i : Nat} {ticket : Ticket}
      (answer : Except String SpawnedRecord)
      (found : run.tickets[i]? = some ticket)
      (asked : ticket.asked = true) :
      Step run { run.note (.settleSpawn ticket.placeholder answer) with
        inventory := (run.inventory.settleSpawn run.alive ticket.placeholder answer).1
        tickets := run.tickets.eraseIdx i }
  | discard (run : InventoryRun) {i : Nat} {ticket : Ticket}
      (found : run.tickets[i]? = some ticket) :
      Step run { run.note (.discard ticket.placeholder) with
        inventory := run.inventory.discard run.alive ticket.placeholder.tempId
        tickets := run.tickets.eraseIdx i }
  | beginTerminate (run : InventoryRun) (id : String)
      {inventory : Inventory} {call : Termination}
      (accepted : run.inventory.beginTerminate id = (inventory, .ok call)) :
      Step run { run.note (.beginTerminate call) with
        inventory := inventory
        terminations := run.terminations ++ [call] }
  | refuseTerminate (run : InventoryRun) (id : String)
      {inventory : Inventory} {error : InventoryError}
      (refused : run.inventory.beginTerminate id = (inventory, .error error)) :
      Step run { run.note (.refuseTerminate error) with inventory := inventory }
  | settleTerminate (run : InventoryRun) {i : Nat} {call : Termination}
      (answer : Except String Unit)
      (found : run.terminations[i]? = some call) :
      Step run { run.note (.settleTerminate call answer) with
        inventory := (run.inventory.settleTerminate run.alive call answer).1
        terminations := run.terminations.eraseIdx i }
  | insert (run : InventoryRun) (server : Instance) :
      Step run { run.note (.insert server) with inventory := run.inventory.insert server }
  | remove (run : InventoryRun) (id : String) :
      Step run { run.note (.remove id) with inventory := (run.inventory.remove id).1 }
  | retire (run : InventoryRun) :
      Step run { run.note .retire with alive := false }

/-- Each step adds one event to what happened. -/
theorem Step.exists_past_eq {run next : InventoryRun} (step : Step run next) :
    ∃ event, next.past = run.past ++ [event] := by
  cases step <;> exact ⟨_, rfl⟩

def Reached (options : InventoryOptions) (run : InventoryRun) : Prop :=
  Relation.ReflTransGen Step (new options) run

end InventoryRun
end VpnFleet
