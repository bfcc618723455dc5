import Mathlib.Data.List.InsertIdx
import VpnFleet.Proofs.Inventory.Provenance

/-!
# Placeholders and their tickets

A ticket is issued with a placeholder, and it is closed when its spawn is
settled or given up. While the client is alive, the placeholders among the
entries are exactly those of the tickets that were issued and not closed, each
once and in the order of issue.

The history alone says which tickets are open. An event that neither issues nor
closes a ticket has to leave the placeholders; one that closes a ticket has to
take the placeholder of that ticket out and no other.
-/

namespace VpnFleet

namespace InventoryEvent

/-- The temporary identifier of the ticket that an event closes. -/
def closed? : InventoryEvent → Option String
  | settleSpawn placeholder _ => some placeholder.tempId
  | discard placeholder => some placeholder.tempId
  | _ => none

/-- The identifier that the inventory was told to remove. -/
def removed? : InventoryEvent → Option String
  | remove id => some id
  | _ => none

end InventoryEvent

namespace InventoryHistory

variable {past : InventoryHistory} {event : InventoryEvent}

/-- The temporary identifiers of the tickets that were closed so far. -/
def closedIds (past : InventoryHistory) : List String :=
  past.filterMap InventoryEvent.closed?

/-- The identifiers that the inventory was told to remove so far. -/
def removedIds (past : InventoryHistory) : List String :=
  past.filterMap InventoryEvent.removed?

/-- The placeholders of the tickets that were issued and not closed, in the order of issue. -/
def outstanding (past : InventoryHistory) : List Placeholder :=
  past.issued.filter fun placeholder => placeholder.tempId ∉ past.closedIds

theorem closedIds_concat (past : InventoryHistory) (event : InventoryEvent) :
    closedIds (past ++ [event]) = past.closedIds ++ event.closed?.toList :=
  Keyed.filterMap_concat _ _ _

theorem removedIds_concat (past : InventoryHistory) (event : InventoryEvent) :
    removedIds (past ++ [event]) = past.removedIds ++ event.removed?.toList :=
  Keyed.filterMap_concat _ _ _

theorem outstanding_concat_of_neither
    (hissued : event.issued? = none) (hclosed : event.closed? = none) :
    outstanding (past ++ [event]) = past.outstanding := by
  unfold outstanding
  rw [issued_concat, closedIds_concat, hissued, hclosed]
  simp

/-- A new ticket comes last among the open ones. -/
theorem outstanding_concat_beginSpawn
    {placeholder : Placeholder} (hnew : placeholder.tempId ∉ past.closedIds) :
    outstanding (past ++ [.beginSpawn placeholder]) = past.outstanding ++ [placeholder] := by
  unfold outstanding
  rw [issued_concat, closedIds_concat]
  simp [InventoryEvent.issued?, InventoryEvent.closed?, hnew]

/-- A ticket that is closed goes from the open ones. -/
theorem outstanding_concat_of_closed
    {tempId : String}
    (hissued : event.issued? = none) (hclosed : event.closed? = some tempId) :
    outstanding (past ++ [event])
      = past.outstanding.filter fun placeholder => placeholder.tempId ≠ tempId := by
  unfold outstanding
  rw [issued_concat, closedIds_concat, hissued, hclosed, List.filter_filter]
  simp [and_comm]

theorem FreshIds.nodup_outstanding (fresh : past.FreshIds) :
    (past.outstanding.map Placeholder.tempId).Nodup :=
  fresh.distinct.sublist (List.Sublist.map _ List.filter_sublist)

/-- No removal named a temporary identifier. -/
def SparesPlaceholders (past : InventoryHistory) : Prop :=
  ∀ id ∈ past.removedIds, id ∉ past.tempIds

instance (past : InventoryHistory) : Decidable past.SparesPlaceholders :=
  inferInstanceAs (Decidable (∀ id ∈ past.removedIds, id ∉ past.tempIds))

theorem SparesPlaceholders.before (h : SparesPlaceholders (past ++ [event])) :
    past.SparesPlaceholders := by
  intro id hid htemp
  refine h id ?_ (mem_tempIds_concat htemp)
  rw [removedIds_concat]
  exact List.mem_append_left _ hid

end InventoryHistory

namespace InventoryRun

open Inventory (placeholders)
open InventoryHistory

variable {options : InventoryOptions} {run next : InventoryRun} {event : InventoryEvent}

/-- The placeholders belong to the open tickets. -/
structure Owned (run : InventoryRun) : Prop where
  closed : ∀ id ∈ run.past.closedIds, id ∈ run.past.tempIds
  tickets : run.tickets.map Ticket.placeholder = run.past.outstanding
  entries : run.alive = true → placeholders run.entries = run.past.outstanding

theorem owned_new (options : InventoryOptions) : (new options).Owned where
  closed := fun id hid => by cases hid
  tickets := rfl
  entries := fun _ => rfl

/-- An event that neither issues nor closes a ticket keeps the placeholders with their tickets if
it leaves both. -/
theorem Owned.keep
    (h : run.Owned)
    (hpast : next.past = run.past ++ [event])
    (hissued : event.issued? = none)
    (hclosed : event.closed? = none)
    (htickets : next.tickets.map Ticket.placeholder = run.tickets.map Ticket.placeholder)
    (hentries : next.alive = true →
      run.alive = true ∧ placeholders next.entries = placeholders run.entries) :
    next.Owned := by
  have hsame : next.past.outstanding = run.past.outstanding := by
    rw [hpast]
    exact outstanding_concat_of_neither hissued hclosed
  constructor
  · intro id hid
    rw [hpast, closedIds_concat, hclosed] at hid
    have hold : id ∈ run.past.closedIds := by
      simpa using hid
    rw [hpast]
    exact mem_tempIds_concat (h.closed id hold)
  · rw [htickets, hsame]
    exact h.tickets
  · intro hnext
    obtain ⟨halive, hplaceholders⟩ := hentries hnext
    rw [hplaceholders, hsame]
    exact h.entries halive

/-- An event that closes a ticket keeps the placeholders with their tickets if it takes out the
placeholder of that ticket alone. -/
theorem Owned.close
    (h : run.Owned)
    (fresh : run.past.FreshIds)
    {i : Nat} {ticket : Ticket}
    (found : run.tickets[i]? = some ticket)
    (hpast : next.past = run.past ++ [event])
    (hissued : event.issued? = none)
    (hclosed : event.closed? = some ticket.placeholder.tempId)
    (htickets : next.tickets = run.tickets.eraseIdx i)
    (hentries : next.alive = true →
      run.alive = true
        ∧ placeholders next.entries
          = (placeholders run.entries).filter fun placeholder =>
              placeholder.tempId ≠ ticket.placeholder.tempId) :
    next.Owned := by
  have hless : next.past.outstanding
      = run.past.outstanding.filter fun placeholder =>
          placeholder.tempId ≠ ticket.placeholder.tempId := by
    rw [hpast]
    exact outstanding_concat_of_closed hissued hclosed
  have hplace : run.past.outstanding[i]? = some ticket.placeholder := by
    rw [← h.tickets, List.getElem?_map, found]
    rfl
  have hopen : ticket.placeholder ∈ run.past.outstanding := List.mem_of_getElem? hplace
  constructor
  · intro id hid
    rw [hpast, closedIds_concat, hclosed] at hid
    rw [hpast]
    apply mem_tempIds_concat
    rcases List.mem_append.1 hid with hold | hnew
    · exact h.closed id hold
    · obtain rfl := List.mem_singleton.1 hnew
      exact List.mem_map.2 ⟨ticket.placeholder, (List.mem_filter.1 hopen).1, rfl⟩
  · rw [htickets, ← List.eraseIdx_map, h.tickets, hless]
    exact Keyed.eraseIdx_eq_filter fresh.nodup_outstanding hplace
  · intro hnext
    obtain ⟨halive, hplaceholders⟩ := hentries hnext
    rw [hplaceholders, hless, h.entries halive]

theorem Owned.nodup_placeholders
    (h : run.Owned) (fresh : run.past.FreshIds) (halive : run.alive = true) :
    ((placeholders run.entries).map Placeholder.tempId).Nodup := by
  rw [h.entries halive]
  exact fresh.nodup_outstanding

/-- The answer to a spawn takes out the placeholder of its ticket alone. -/
theorem Owned.placeholders_settleSpawn
    (h : run.Owned) (fresh : run.past.FreshIds) (halive : run.alive = true)
    (placeholder : Placeholder) (answer : Except String SpawnedRecord) :
    placeholders
        (run.inventory.settleSpawn run.alive placeholder answer).1.value.entries
      = (placeholders run.entries).filter fun other => other.tempId ≠ placeholder.tempId := by
  cases answer with
  | ok record =>
    rw [Inventory.settleSpawn_ok_entries, if_pos halive, Inventory.placeholders_reconcile]
    exact Keyed.eraseP_eq_filter (h.nodup_placeholders fresh halive) _
  | error message =>
    rw [Inventory.settleSpawn_error_entries, if_pos halive]
    exact Inventory.placeholders_filter_id_ne _ _

/-- The answer to a termination leaves the placeholders: its target came in from outside. -/
theorem Traced.placeholders_settleTerminate
    (traced : run.Traced) (fresh : FreshIds (run.past ++ [event]))
    {call : Termination} (hcall : call ∈ run.terminations)
    (answer : Except String Unit) :
    placeholders (run.inventory.settleTerminate run.alive call answer).1.value.entries
      = placeholders run.entries := by
  cases answer with
  | ok reply =>
    rw [Inventory.settleTerminate_ok_entries]
    split
    · rw [Inventory.placeholders_filter_id_ne]
      refine List.filter_eq_self.2 ?_
      intro placeholder hplaceholder
      have hsupplied : call.id ∈ suppliedIds (run.past ++ [event]) :=
        mem_suppliedIds_concat (traced.terminations call hcall)
      have hne : placeholder.tempId ≠ call.id :=
        traced.tempId_ne_of_supplied fresh hsupplied placeholder hplaceholder
      simpa using hne
    · rfl
  | error message =>
    rcases Inventory.settleTerminate_error_entries run.inventory run.alive call message
      with hsame | ⟨j, hrestored⟩
    · rw [hsame]
      rfl
    · rw [hrestored]
      exact Inventory.placeholders_restore _ _ _

/-- A removal leaves the placeholders if it does not name one. -/
theorem Traced.placeholders_remove
    (traced : run.Traced) {id : String} (hspared : id ∉ run.past.tempIds) :
    placeholders (run.inventory.remove id).1.value.entries = placeholders run.entries := by
  rcases Inventory.remove_entries run.inventory id with hsame | ⟨i, entry, hi, hid, herased⟩
  · rw [hsame]
    rfl
  · rw [herased]
    cases entry with
    | pending placeholder =>
      have hmem : placeholder ∈ placeholders run.entries :=
        Inventory.mem_placeholders_iff.2 (List.mem_of_getElem? hi)
      have hid' : placeholder.tempId = id := hid
      exact absurd (hid' ▸ traced.tempId_mem_tempIds hmem) hspared
    | confirmed server => exact Inventory.placeholders_eraseIdx_confirmed hi

/-- A step keeps the placeholders with their tickets. -/
theorem Owned.step
    (h : run.Owned)
    (traced : run.Traced)
    (fresh : next.past.FreshIds)
    (spared : next.past.SparesPlaceholders)
    (step : Step run next) :
    next.Owned := by
  have before : run.past.FreshIds := step.freshIds fresh
  cases step with
  | beginRefresh catalog =>
    exact h.keep rfl rfl rfl rfl fun halive =>
      ⟨halive, congrArg placeholders (Inventory.beginRefresh_entries _)⟩
  | askListing found hnext =>
    exact h.keep rfl rfl rfl rfl fun halive => ⟨halive, rfl⟩
  | answerListing listing found hslot hasked =>
    exact h.keep rfl rfl rfl rfl fun halive => ⟨halive, rfl⟩
  | settleRefresh found hdone =>
    refine h.keep rfl rfl rfl rfl fun (halive : run.alive = true) => ⟨halive, ?_⟩
    show placeholders (run.inventory.settleRefresh _ _).value.entries = _
    rw [Inventory.settleRefresh_entries, if_pos halive]
    exact Inventory.placeholders_refreshed _ _
  | abandonRefresh found =>
    exact h.keep rfl rfl rfl rfl fun halive =>
      ⟨halive, congrArg placeholders (Inventory.endRefresh_entries _)⟩
  | @beginSpawn catalog tempId region inventory placeholder accepted =>
    obtain ⟨_, hentries⟩ := Inventory.beginSpawn_eq_ok accepted
    have hnew : placeholder.tempId ∉ run.past.tempIds := FreshIds.tempId_notMem fresh
    have hmore : outstanding (run.past ++ [.beginSpawn placeholder])
        = run.past.outstanding ++ [placeholder] :=
      outstanding_concat_beginSpawn fun hclosed => hnew (h.closed _ hclosed)
    constructor
    · intro id hid
      have hold : id ∈ run.past.closedIds := by
        simpa [InventoryRun.note, closedIds_concat, InventoryEvent.closed?] using hid
      exact mem_tempIds_concat (h.closed id hold)
    · show (run.tickets ++ [_]).map Ticket.placeholder = outstanding (run.past ++ [_])
      rw [hmore, List.map_append, h.tickets]
      rfl
    · intro halive
      show placeholders inventory.value.entries = outstanding (run.past ++ [_])
      have howned : placeholders run.inventory.value.entries = run.past.outstanding :=
        h.entries halive
      rw [hmore, hentries, Inventory.placeholders_append, howned]
      rfl
  | refuseSpawn catalog tempId region refused =>
    exact h.keep rfl rfl rfl rfl fun halive => ⟨halive, rfl⟩
  | @confirm i ticket found hunasked =>
    have htickets : (run.tickets.set i { ticket with asked := true }).map Ticket.placeholder
        = run.tickets.map Ticket.placeholder :=
      Keyed.map_set_eq found rfl
    exact h.keep rfl rfl rfl htickets fun halive => ⟨halive, rfl⟩
  | settleSpawn answer found hasked =>
    refine h.close before found rfl rfl rfl rfl fun halive => ⟨halive, ?_⟩
    exact h.placeholders_settleSpawn before halive _ answer
  | discard found =>
    refine h.close before found rfl rfl rfl rfl fun (halive : run.alive = true) => ⟨halive, ?_⟩
    show placeholders (run.inventory.discard _ _).value.entries = _
    rw [Inventory.discard_entries, if_pos halive]
    exact Inventory.placeholders_filter_not_isPlaceholder _ _
  | @beginTerminate id inventory call accepted =>
    obtain ⟨i, server, _, _, _, hentries⟩ := Inventory.beginTerminate_eq_ok accepted
    refine h.keep rfl rfl rfl rfl fun halive => ⟨halive, ?_⟩
    show placeholders inventory.value.entries = _
    rw [hentries]
    exact Inventory.placeholders_markTerminating _ _
  | refuseTerminate id refused =>
    obtain rfl := Inventory.beginTerminate_eq_error refused
    exact h.keep rfl rfl rfl rfl fun halive => ⟨halive, rfl⟩
  | settleTerminate answer found =>
    refine h.keep rfl rfl rfl rfl fun halive => ⟨halive, ?_⟩
    exact traced.placeholders_settleTerminate fresh (List.mem_of_getElem? found) answer
  | insert server =>
    refine h.keep rfl rfl rfl rfl fun halive => ⟨halive, ?_⟩
    show placeholders (run.inventory.insert server).value.entries = _
    rw [Inventory.insert_entries]
    refine Inventory.placeholders_place ?_
    exact traced.tempId_ne_of_supplied fresh
      (supplied_subset_concat (List.mem_singleton_self server.id))
  | remove id =>
    refine h.keep rfl rfl rfl rfl fun halive => ⟨halive, ?_⟩
    refine traced.placeholders_remove fun htemp => ?_
    refine spared id ?_ (mem_tempIds_concat htemp)
    show id ∈ removedIds (run.past ++ [.remove id])
    rw [removedIds_concat]
    exact List.mem_append_right _ (List.mem_singleton_self _)
  | retire =>
    exact h.keep rfl rfl rfl rfl fun halive => by cases halive

theorem Reached.owned
    (reached : Reached options run)
    (fresh : run.past.FreshIds)
    (spared : run.past.SparesPlaceholders) :
    run.Owned := by
  induction reached with
  | refl => exact owned_new options
  | @tail mid last reached step ih =>
    obtain ⟨event, hpast⟩ := step.exists_past_eq
    have hspared : mid.past.SparesPlaceholders := by
      rw [hpast] at spared
      exact spared.before
    exact (ih (step.freshIds fresh) hspared).step (Reached.traced reached) fresh spared step

/-- **Ownership.** While the client is alive, the placeholders among the entries are those of the
tickets that were issued and neither settled nor given up, in the order of issue, and none stands
twice; these tickets are the ones that can still be settled or given up. -/
theorem placeholders_are_outstanding
    (reached : Reached options run)
    (halive : run.alive = true)
    (fresh : run.past.FreshIds)
    (spared : run.past.SparesPlaceholders) :
    run.inventory.value.entries.filterMap Entry.placeholder? = run.past.outstanding
      ∧ run.tickets.map Ticket.placeholder = run.past.outstanding
      ∧ run.past.outstanding.Nodup := by
  have howned : run.Owned := Reached.owned reached fresh spared
  refine ⟨howned.entries halive, howned.tickets, ?_⟩
  exact List.Nodup.of_map _ fresh.nodup_outstanding

/-- Of three tickets, the second is settled by a server that stands there already and the first is
given up; the placeholder of the third is left. -/
theorem one_of_three_outstanding :
    ∃ run, Reached { maxListings := 0, defaultName := "vpn" } run ∧ run.alive = true
      ∧ run.past.FreshIds ∧ run.past.SparesPlaceholders
      ∧ run.past.outstanding.map Placeholder.tempId = ["pending-3"]
      ∧ run.inventory.value.entries.filterMap Entry.placeholder? = run.past.outstanding
      ∧ run.tickets.map Ticket.placeholder = run.past.outstanding
      ∧ run.past.outstanding.Nodup := by
  have issued : Reached { maxListings := 0, defaultName := "vpn" } _ :=
    ((Relation.ReflTransGen.refl.tail
      (@Step.beginSpawn _ Catalog.empty "pending-1" "eu-1" _ _ rfl)).tail
      (@Step.beginSpawn _ Catalog.empty "pending-2" "eu-1" _ _ rfl)).tail
      (@Step.beginSpawn _ Catalog.empty "pending-3" "eu-2" _ _ rfl)
  have inserted := issued.tail (Step.insert _
    { id := "i-1", name := "vpn", lifecycle := .running, publicV4 := "198.51.100.1",
      publicV6 := none, region := "eu-1" })
  have asked := inserted.tail (@Step.confirm _ 1 _ rfl rfl)
  have settled := asked.tail (@Step.settleSpawn _ 1 _
    (.ok { id := "i-1", publicV4 := "198.51.100.1", publicV6 := none, region := "eu-1" })
    rfl rfl)
  have givenUp := settled.tail (@Step.discard _ 0 _ rfl)
  refine ⟨_, givenUp, rfl, by decide, by decide, by decide, ?_⟩
  exact placeholders_are_outstanding givenUp rfl (by decide) (by decide)

end InventoryRun
end VpnFleet
