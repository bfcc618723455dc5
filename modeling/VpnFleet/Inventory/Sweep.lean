import VpnFleet.FirstOf
import VpnFleet.Inventory.Basic

/-!
# Listing sweeps

A refresh lists every region once. A sweep keeps one slot per region in the
order of the catalog. Listings are asked for in that order, and the window of
slots that were asked for but are not yet consumed is bounded: the consumed
slots are the longest answered prefix, so an early answer behind a slow one
still takes room.

**Report.** The answers are merged in the order of the slots, whatever their
order in time: servers of the regions that answered, each identifier once, and
the regions that failed with their messages.
-/

namespace VpnFleet

/-- A listing of one region. -/
abbrev Listing := Except String (List InstanceRecord)

/-- How far the listing of one region is. -/
inductive SlotState where
  | waiting
  | asked
  | answered (listing : Listing)

/-- The place of one region in a sweep. -/
structure Slot where
  region : String
  state : SlotState

namespace Slot

/-- A listing that was not asked for. -/
def isWaiting (slot : Slot) : Bool :=
  match slot.state with
  | .waiting => true
  | _ => false

/-- A listing that is under way. -/
def isAsked (slot : Slot) : Bool :=
  match slot.state with
  | .asked => true
  | _ => false

/-- A listing that came back. -/
def isAnswered (slot : Slot) : Bool :=
  match slot.state with
  | .answered _ => true
  | _ => false

/-- The listing, once it is there. -/
def answer? (slot : Slot) : Option (String × Listing) :=
  match slot.state with
  | .answered listing => some (slot.region, listing)
  | _ => none

end Slot

/-- The listings of one refresh. -/
structure Sweep where
  /-- How many slots the window may hold; positive. -/
  window : Nat
  slots : List Slot

/-- A region that could not be listed. -/
structure RegionFailure where
  region : String
  message : String
deriving DecidableEq, Repr

/-- What a refresh found. -/
structure RefreshReport where
  instances : List Instance
  failures : List RegionFailure
deriving DecidableEq, Repr

namespace RefreshReport

/-- Every region answered. -/
def isComplete (report : RefreshReport) : Bool :=
  report.failures.isEmpty

/-- The codes of the regions that failed. -/
def failedRegions (report : RefreshReport) : List String :=
  report.failures.map RegionFailure.region

/-- The servers of one region, none if it failed. -/
def instancesOf (defaultName : String) : String × Listing → List Instance
  | (region, .ok records) => records.map fun record => Instance.ofRecord record region defaultName
  | (_, .error _) => []

/-- The failure of one region, if it failed. -/
def failureOf : String × Listing → Option RegionFailure
  | (_, .ok _) => none
  | (region, .error message) => some { region, message }

/-- The report on listings in the order given. -/
def ofListings (defaultName : String) (listings : List (String × Listing)) : RefreshReport where
  instances := firstOf Instance.id (listings.flatMap (instancesOf defaultName))
  failures := listings.filterMap failureOf

end RefreshReport

namespace Sweep

/-- A sweep of some regions; a bound of zero admits all of them at once. -/
def ofRegions (maxListings : Nat) (regions : List String) : Sweep where
  window := if maxListings = 0 then max regions.length 1 else maxListings
  slots := regions.map fun region => { region, state := .waiting }

/-- The slots behind the answered prefix. -/
def unconsumed (sweep : Sweep) : List Slot :=
  sweep.slots.dropWhile Slot.isAnswered

/-- The number of slots in the window. -/
def inWindow (sweep : Sweep) : Nat :=
  (sweep.unconsumed.filter fun slot => !slot.isWaiting).length

/-- The next listing to ask for, if the window has room. -/
def next? (sweep : Sweep) : Option (Nat × String) := do
  if sweep.window ≤ sweep.inWindow then none
  let i ← sweep.slots.findIdx? Slot.isWaiting
  let slot ← sweep.slots[i]?
  return (i, slot.region)

/-- Marks a slot. -/
def mark (sweep : Sweep) (i : Nat) (state : SlotState) : Sweep :=
  { sweep with slots := sweep.slots.modify i fun slot => { slot with state } }

/-- A listing is asked for. -/
def ask (sweep : Sweep) (i : Nat) : Sweep :=
  sweep.mark i .asked

/-- A listing comes back. -/
def answer (sweep : Sweep) (i : Nat) (listing : Listing) : Sweep :=
  sweep.mark i (.answered listing)

/-- Every region was listed. -/
def isDone (sweep : Sweep) : Bool :=
  sweep.slots.all Slot.isAnswered

/-- The answers in the order of the slots. -/
def listings (sweep : Sweep) : List (String × Listing) :=
  sweep.slots.filterMap Slot.answer?

/-- What the sweep found so far. -/
def report (sweep : Sweep) (defaultName : String) : RefreshReport :=
  RefreshReport.ofListings defaultName sweep.listings

end Sweep
end VpnFleet
