import VpnFleet.Proofs.Inventory.Run

/-!
# Where identifiers come from

Every identifier in a run of an inventory was given out by the client with a
placeholder or came in from outside: with a listing, with the answer to a spawn
or with an insertion.

* `InventoryHistory.FreshIds` is what the client relies on: no temporary identifier
  is given out twice, and none comes in from outside.
* `InventoryRun.Traced` says of a state that placeholders carry identifiers that
  were given out, and that servers, listings and terminations carry identifiers
  that came in. It holds in every run, whatever the identifiers are.
-/

namespace VpnFleet

/-- The identifiers in a listing. -/
def Listing.ids : Listing → List String
  | .ok records => records.map InstanceRecord.id
  | .error _ => []

namespace Sweep

/-- The identifiers in the listings that came back. -/
def listedIds (sweep : Sweep) : List String :=
  sweep.listings.flatMap fun answer => Listing.ids answer.2

theorem mem_listedIds_iff {id : String} {sweep : Sweep} :
    id ∈ sweep.listedIds
      ↔ ∃ slot ∈ sweep.slots, ∃ listing : Listing,
          slot.state = .answered listing ∧ id ∈ listing.ids := by
  unfold listedIds listings
  simp only [List.mem_flatMap, List.mem_filterMap]
  constructor
  · rintro ⟨answer, ⟨slot, hslot, hanswer⟩, hid⟩
    unfold Slot.answer? at hanswer
    split at hanswer
    · next listing hstate =>
        obtain rfl := Option.some.inj hanswer
        exact ⟨slot, hslot, listing, hstate, hid⟩
    · cases hanswer
  · rintro ⟨slot, hslot, listing, hstate, hid⟩
    refine ⟨(slot.region, listing), ⟨slot, hslot, ?_⟩, hid⟩
    simp [Slot.answer?, hstate]

@[simp]
theorem listedIds_ofRegions (maxListings : Nat) (regions : List String) :
    (ofRegions maxListings regions).listedIds = [] := by
  rw [List.eq_nil_iff_forall_not_mem]
  intro id hid
  obtain ⟨slot, hslot, listing, hstate, _⟩ := mem_listedIds_iff.1 hid
  obtain ⟨region, _, rfl⟩ := List.mem_map.1 hslot
  cases hstate

/-- Marking a slot brings in the identifiers of its listing alone. -/
theorem mem_listedIds_mark
    {sweep : Sweep} {i : Nat} {state : SlotState} {id : String}
    (hid : id ∈ (sweep.mark i state).listedIds) :
    id ∈ sweep.listedIds
      ∨ ∃ listing : Listing, state = .answered listing ∧ id ∈ listing.ids := by
  obtain ⟨slot, hslot, listing, hstate, hmem⟩ := mem_listedIds_iff.1 hid
  rcases Keyed.mem_or_exists_of_mem_modify hslot with hold | ⟨old, _, rfl⟩
  · exact Or.inl (mem_listedIds_iff.2 ⟨slot, hold, listing, hstate, hmem⟩)
  · exact Or.inr ⟨listing, hstate, hmem⟩

theorem id_mem_listedIds_of_mem_report
    {sweep : Sweep} {defaultName : String} {server : Instance}
    (h : server ∈ (sweep.report defaultName).instances) :
    server.id ∈ sweep.listedIds := by
  have hlisted := mem_of_mem_firstOf Instance.id h
  obtain ⟨⟨region, listing⟩, hanswer, hserver⟩ := List.mem_flatMap.1 hlisted
  refine List.mem_flatMap.2 ⟨(region, listing), hanswer, ?_⟩
  cases listing with
  | error message => simp [RefreshReport.instancesOf] at hserver
  | ok records =>
    obtain ⟨record, hrecord, rfl⟩ := List.mem_map.1 hserver
    exact List.mem_map.2 ⟨record, hrecord, rfl⟩

theorem nodup_ids_report (sweep : Sweep) (defaultName : String) :
    ((sweep.report defaultName).instances.map Instance.id).Nodup :=
  nodup_map_firstOf Instance.id _

end Sweep

namespace InventoryEvent

/-- The placeholder that an event puts up. -/
def issued? : InventoryEvent → Option Placeholder
  | beginSpawn placeholder => some placeholder
  | _ => none

/-- The identifiers that come in with an event. -/
def supplied : InventoryEvent → List String
  | answerListing _ listing => listing.ids
  | settleSpawn _ (.ok record) => [record.id]
  | insert server => [server.id]
  | _ => []

end InventoryEvent

namespace InventoryHistory

variable {past : InventoryHistory} {event : InventoryEvent}

/-- The placeholders that were put up so far, in the order of issue. -/
def issued (past : InventoryHistory) : List Placeholder :=
  past.filterMap InventoryEvent.issued?

/-- The temporary identifiers that were given out so far. -/
def tempIds (past : InventoryHistory) : List String :=
  past.issued.map Placeholder.tempId

/-- The identifiers that came in so far. -/
def suppliedIds (past : InventoryHistory) : List String :=
  past.flatMap InventoryEvent.supplied

/-- Temporary identifiers are fresh, and none comes in from outside. -/
structure FreshIds (past : InventoryHistory) : Prop where
  distinct : past.tempIds.Nodup
  apart : ∀ id ∈ past.suppliedIds, id ∉ past.tempIds

instance (past : InventoryHistory) : Decidable past.FreshIds :=
  decidable_of_iff (past.tempIds.Nodup ∧ ∀ id ∈ past.suppliedIds, id ∉ past.tempIds)
    ⟨fun h => ⟨h.1, h.2⟩, fun h => ⟨h.distinct, h.apart⟩⟩

theorem issued_concat (past : InventoryHistory) (event : InventoryEvent) :
    issued (past ++ [event]) = past.issued ++ event.issued?.toList :=
  Keyed.filterMap_concat _ _ _

theorem tempIds_concat (past : InventoryHistory) (event : InventoryEvent) :
    tempIds (past ++ [event])
      = past.tempIds ++ event.issued?.toList.map Placeholder.tempId := by
  unfold tempIds
  rw [issued_concat, List.map_append]

theorem suppliedIds_concat (past : InventoryHistory) (event : InventoryEvent) :
    suppliedIds (past ++ [event]) = past.suppliedIds ++ event.supplied := by
  simp [suppliedIds]

theorem mem_issued_concat {placeholder : Placeholder}
    (h : placeholder ∈ past.issued) : placeholder ∈ issued (past ++ [event]) := by
  rw [issued_concat]
  exact List.mem_append_left _ h

theorem mem_tempIds_concat {id : String}
    (h : id ∈ past.tempIds) : id ∈ tempIds (past ++ [event]) := by
  rw [tempIds_concat]
  exact List.mem_append_left _ h

theorem mem_suppliedIds_concat {id : String}
    (h : id ∈ past.suppliedIds) : id ∈ suppliedIds (past ++ [event]) := by
  rw [suppliedIds_concat]
  exact List.mem_append_left _ h

theorem supplied_subset_concat {id : String}
    (h : id ∈ event.supplied) : id ∈ suppliedIds (past ++ [event]) := by
  rw [suppliedIds_concat]
  exact List.mem_append_right _ h

theorem FreshIds.before (h : FreshIds (past ++ [event])) : past.FreshIds := by
  constructor
  · have hdistinct := h.distinct
    rw [tempIds_concat] at hdistinct
    exact hdistinct.sublist (List.sublist_append_left _ _)
  · intro id hid htemp
    exact h.apart id (mem_suppliedIds_concat hid) (mem_tempIds_concat htemp)

theorem mem_tempIds_append {later : InventoryHistory} {id : String}
    (h : id ∈ past.tempIds) : id ∈ tempIds (past ++ later) := by
  unfold tempIds issued
  rw [List.filterMap_append, List.map_append]
  exact List.mem_append_left _ h

theorem FreshIds.of_append {later : InventoryHistory} (h : FreshIds (past ++ later)) :
    past.FreshIds where
  distinct := by
    have hdistinct := h.distinct
    unfold tempIds issued at hdistinct
    rw [List.filterMap_append, List.map_append] at hdistinct
    exact hdistinct.sublist (List.sublist_append_left _ _)
  apart := by
    intro id hid htemp
    refine h.apart id ?_ (mem_tempIds_append htemp)
    unfold suppliedIds
    rw [List.flatMap_append]
    exact List.mem_append_left _ hid

/-- A new placeholder carries an identifier that was not given out before. -/
theorem FreshIds.tempId_notMem {placeholder : Placeholder}
    (h : FreshIds (past ++ [.beginSpawn placeholder])) :
    placeholder.tempId ∉ past.tempIds := by
  have hdistinct : (past.tempIds ++ [placeholder.tempId]).Nodup :=
    tempIds_concat past (.beginSpawn placeholder) ▸ h.distinct
  intro hold
  exact (List.nodup_append.1 hdistinct).2.2 _ hold _ (List.mem_singleton_self _) rfl

/-- The identifier of an entry was given out or came in, as its kind has it. -/
def knows (past : InventoryHistory) : Entry → Prop
  | .pending placeholder => placeholder ∈ past.issued
  | .confirmed server => server.id ∈ past.suppliedIds

theorem knows_concat {entry : Entry}
    (h : past.knows entry) : knows (past ++ [event]) entry := by
  cases entry with
  | pending placeholder => exact mem_issued_concat h
  | confirmed server => exact mem_suppliedIds_concat h

theorem knows_markTerminating {entry : Entry} (h : past.knows entry) :
    past.knows (Inventory.markTerminating entry) := by
  cases entry <;> exact h

theorem knows_restore {entry : Entry} (previous : Lifecycle) (h : past.knows entry) :
    past.knows (Inventory.restore previous entry) := by
  cases entry <;> exact h

end InventoryHistory

namespace InventoryRun

open Inventory (placeholders)
open InventoryHistory

variable {options : InventoryOptions} {run next : InventoryRun}

theorem Step.freshIds (step : Step run next) (h : next.past.FreshIds) : run.past.FreshIds := by
  obtain ⟨event, hpast⟩ := step.exists_past_eq
  rw [hpast] at h
  exact h.before

/-- Where the identifiers of a state come from. -/
structure Traced (run : InventoryRun) : Prop where
  entries : ∀ entry ∈ run.entries, run.past.knows entry
  tickets : ∀ ticket ∈ run.tickets, ticket.placeholder ∈ run.past.issued
  terminations : ∀ call ∈ run.terminations, call.id ∈ run.past.suppliedIds
  sweeps : ∀ sweep ∈ run.sweeps, ∀ id ∈ sweep.listedIds, id ∈ run.past.suppliedIds

theorem traced_new (options : InventoryOptions) : (new options).Traced := by
  constructor <;> intro x hx <;> cases hx

theorem Traced.note (h : run.Traced) (event : InventoryEvent) : (run.note event).Traced where
  entries := fun entry hentry => knows_concat (h.entries entry hentry)
  tickets := fun ticket hticket => mem_issued_concat (h.tickets ticket hticket)
  terminations := fun call hcall => mem_suppliedIds_concat (h.terminations call hcall)
  sweeps := fun sweep hsweep id hid => mem_suppliedIds_concat (h.sweeps sweep hsweep id hid)

/-- A step keeps track of the identifiers. -/
theorem Traced.step (h : run.Traced) (step : Step run next) : next.Traced := by
  cases step with
  | beginRefresh catalog =>
    refine { h.note _ with sweeps := ?_ }
    intro sweep hsweep id hid
    rcases List.mem_append.1 hsweep with hold | hnew
    · exact (h.note _).sweeps sweep hold id hid
    · obtain rfl := List.mem_singleton.1 hnew
      simp at hid
  | @askListing i slot sweep region found hnext =>
    refine { h.note _ with sweeps := ?_ }
    intro other hother id hid
    rcases List.mem_or_eq_of_mem_set hother with hold | rfl
    · exact (h.note _).sweeps other hold id hid
    · rcases Sweep.mem_listedIds_mark hid with hlisted | ⟨listing, hstate, _⟩
      · exact (h.note _).sweeps sweep (List.mem_of_getElem? found) id hlisted
      · cases hstate
  | @answerListing i slot sweep place listing found hslot hasked =>
    refine { h.note _ with sweeps := ?_ }
    intro other hother id hid
    rcases List.mem_or_eq_of_mem_set hother with hold | rfl
    · exact (h.note _).sweeps other hold id hid
    · rcases Sweep.mem_listedIds_mark hid with hlisted | ⟨answered, hstate, hmem⟩
      · exact (h.note _).sweeps sweep (List.mem_of_getElem? found) id hlisted
      · obtain rfl : listing = answered := by
          simpa using hstate
        exact supplied_subset_concat hmem
  | @settleRefresh i sweep found hdone =>
    refine { h.note _ with entries := ?_, sweeps := ?_ }
    · intro entry hentry
      rcases Inventory.mem_settleRefresh hentry with hold | ⟨server, hserver, rfl⟩
      · exact (h.note _).entries entry hold
      · exact (h.note _).sweeps sweep (List.mem_of_getElem? found) _
          (Sweep.id_mem_listedIds_of_mem_report hserver)
    · intro other hother
      exact (h.note _).sweeps other (List.mem_of_mem_eraseIdx hother)
  | abandonRefresh found =>
    refine { h.note _ with sweeps := ?_ }
    intro other hother
    exact (h.note _).sweeps other (List.mem_of_mem_eraseIdx hother)
  | @beginSpawn catalog tempId region inventory placeholder accepted =>
    obtain ⟨_, hentries⟩ := Inventory.beginSpawn_eq_ok accepted
    have hissued : placeholder ∈ issued (run.past ++ [.beginSpawn placeholder]) := by
      rw [issued_concat]
      exact List.mem_append_right _ (List.mem_singleton_self _)
    refine { h.note _ with entries := ?_, tickets := ?_ }
    · intro entry hentry
      change entry ∈ inventory.value.entries at hentry
      rw [hentries] at hentry
      rcases List.mem_append.1 hentry with hold | hnew
      · exact (h.note _).entries entry hold
      · obtain rfl := List.mem_singleton.1 hnew
        exact hissued
    · intro ticket hticket
      rcases List.mem_append.1 hticket with hold | hnew
      · exact (h.note _).tickets ticket hold
      · obtain rfl := List.mem_singleton.1 hnew
        exact hissued
  | refuseSpawn => exact h.note _
  | @confirm i ticket found hunasked =>
    refine { h.note _ with tickets := ?_ }
    intro other hother
    rcases List.mem_or_eq_of_mem_set hother with hold | rfl
    · exact (h.note _).tickets other hold
    · exact (h.note _).tickets ticket (List.mem_of_getElem? found)
  | settleSpawn answer found hasked =>
    refine { h.note _ with entries := ?_, tickets := ?_ }
    · intro entry hentry
      rcases Inventory.mem_settleSpawn hentry with hold | ⟨record, rfl, rfl⟩
      · exact (h.note _).entries entry hold
      · exact supplied_subset_concat (List.mem_singleton_self _)
    · intro other hother
      exact (h.note _).tickets other (List.mem_of_mem_eraseIdx hother)
  | discard found =>
    refine { h.note _ with entries := ?_, tickets := ?_ }
    · intro entry hentry
      exact (h.note _).entries entry (Inventory.mem_of_mem_discard hentry)
    · intro other hother
      exact (h.note _).tickets other (List.mem_of_mem_eraseIdx hother)
  | @beginTerminate id inventory call accepted =>
    obtain ⟨i, server, hi, hid, rfl, hentries⟩ := Inventory.beginTerminate_eq_ok accepted
    have hserver : server.id ∈ run.past.suppliedIds := h.entries _ (List.mem_of_getElem? hi)
    refine { h.note _ with entries := ?_, terminations := ?_ }
    · intro entry hentry
      change entry ∈ inventory.value.entries at hentry
      rw [hentries] at hentry
      rcases Keyed.mem_or_exists_of_mem_modify hentry with hold | ⟨old, hold, rfl⟩
      · exact (h.note _).entries entry hold
      · exact knows_markTerminating ((h.note _).entries old hold)
    · intro call hcall
      rcases List.mem_append.1 hcall with hold | hnew
      · exact (h.note _).terminations call hold
      · obtain rfl := List.mem_singleton.1 hnew
        exact mem_suppliedIds_concat (hid ▸ hserver)
  | refuseTerminate id refused =>
    obtain rfl := Inventory.beginTerminate_eq_error refused
    exact h.note _
  | settleTerminate answer found =>
    refine { h.note _ with entries := ?_, terminations := ?_ }
    · intro entry hentry
      rcases Inventory.mem_settleTerminate hentry with hold | ⟨old, hold, rfl⟩
      · exact (h.note _).entries entry hold
      · exact knows_restore _ ((h.note _).entries old hold)
    · intro other hother
      exact (h.note _).terminations other (List.mem_of_mem_eraseIdx hother)
  | insert server =>
    refine { h.note _ with entries := ?_ }
    intro entry hentry
    rcases Inventory.mem_or_eq_of_mem_place hentry with hold | rfl
    · exact (h.note _).entries entry hold
    · exact supplied_subset_concat (List.mem_singleton_self _)
  | remove id =>
    refine { h.note _ with entries := ?_ }
    intro entry hentry
    exact (h.note _).entries entry (Inventory.mem_of_mem_remove hentry)
  | retire => exact { h.note _ with }

/-- Every run keeps track of the identifiers. -/
theorem Reached.traced (reached : Reached options run) : run.Traced := by
  induction reached with
  | refl => exact traced_new options
  | tail _ step ih => exact ih.step step

theorem Traced.tempId_mem_tempIds
    (traced : run.Traced)
    {placeholder : Placeholder} (h : placeholder ∈ placeholders run.entries) :
    placeholder.tempId ∈ run.past.tempIds :=
  List.mem_map.2 ⟨placeholder, traced.entries _ (Inventory.mem_placeholders_iff.1 h), rfl⟩

/-- No placeholder carries an identifier that came in, not even with the next event. -/
theorem Traced.tempId_ne_of_supplied
    (traced : run.Traced)
    {event : InventoryEvent} (fresh : FreshIds (run.past ++ [event]))
    {id : String} (hid : id ∈ suppliedIds (run.past ++ [event])) :
    ∀ placeholder ∈ placeholders run.entries, placeholder.tempId ≠ id := by
  intro placeholder hplaceholder hsame
  have htemp : placeholder.tempId ∈ tempIds (run.past ++ [event]) :=
    mem_tempIds_concat (traced.tempId_mem_tempIds hplaceholder)
  exact fresh.apart id hid (hsame ▸ htemp)

end InventoryRun
end VpnFleet
