import VpnFleet.Proofs.Inventory.Provenance

/-!
# Identity in the inventory

No two entries of an inventory ever carry the same identifier. Listings may
hold a server twice or one that a spawn under way is still to bring in, two
spawns may be answered with the same server, and all of this may happen in any
order.

The argument needs to know where identifiers come from: a server that comes in
never carries the identifier of a placeholder, so it meets at most the one
confirmed entry that it replaces.
-/

namespace VpnFleet
namespace InventoryRun

open Inventory (ids placeholders)
open InventoryHistory

variable {options : InventoryOptions} {run next : InventoryRun} {event : InventoryEvent}

/-- The identifier of a new placeholder is not among those of the entries. -/
theorem Traced.tempId_notMem_ids
    (traced : run.Traced)
    {placeholder : Placeholder}
    (fresh : FreshIds (run.past ++ [.beginSpawn placeholder])) :
    placeholder.tempId ∉ ids run.entries := by
  intro hmem
  obtain ⟨entry, hentry, hid⟩ := List.mem_map.1 hmem
  have hknown := traced.entries entry hentry
  cases entry with
  | pending other =>
    have hbefore : other.tempId ∈ run.past.tempIds := List.mem_map.2 ⟨other, hknown, rfl⟩
    have hid' : other.tempId = placeholder.tempId := hid
    exact fresh.tempId_notMem (hid' ▸ hbefore)
  | confirmed server =>
    have hid' : server.id = placeholder.tempId := hid
    have hgiven : server.id ∈ tempIds (run.past ++ [.beginSpawn placeholder]) := by
      rw [tempIds_concat, hid']
      exact List.mem_append_right _ (List.mem_singleton_self _)
    exact fresh.apart _ (mem_suppliedIds_concat hknown) hgiven

/-- A step keeps the identifiers of the entries distinct. -/
theorem nodup_ids_step
    (traced : run.Traced)
    (fresh : next.past.FreshIds)
    (hids : (ids run.entries).Nodup)
    (step : Step run next) :
    (ids next.entries).Nodup := by
  cases step with
  | beginRefresh catalog =>
    show (ids run.inventory.beginRefresh.value.entries).Nodup
    rw [Inventory.beginRefresh_entries]
    exact hids
  | askListing found hnext => exact hids
  | answerListing listing found hslot hasked => exact hids
  | @settleRefresh i sweep found hdone =>
    show (ids (run.inventory.settleRefresh _ _).value.entries).Nodup
    rw [Inventory.settleRefresh_entries]
    split
    · -- what was listed came in, so it differs from the placeholders that stay
      refine Inventory.nodup_ids_refreshed hids (sweep.nodup_ids_report _) ?_
      intro server hserver
      refine traced.tempId_ne_of_supplied fresh (mem_suppliedIds_concat ?_)
      exact traced.sweeps sweep (List.mem_of_getElem? found) _
        (Sweep.id_mem_listedIds_of_mem_report hserver)
    · exact hids
  | abandonRefresh found =>
    show (ids run.inventory.endRefresh.value.entries).Nodup
    rw [Inventory.endRefresh_entries]
    exact hids
  | @beginSpawn catalog tempId region inventory placeholder accepted =>
    obtain ⟨_, hentries⟩ := Inventory.beginSpawn_eq_ok accepted
    show (ids inventory.value.entries).Nodup
    rw [hentries]
    exact Inventory.nodup_ids_append hids (traced.tempId_notMem_ids fresh)
  | refuseSpawn catalog tempId region refused => exact hids
  | confirm found hunasked => exact hids
  | @settleSpawn i ticket answer found hasked =>
    show (ids (run.inventory.settleSpawn _ _ _).1.value.entries).Nodup
    cases answer with
    | ok record =>
      rw [Inventory.settleSpawn_ok_entries]
      split
      · refine Inventory.nodup_ids_reconcile hids ?_
        exact traced.tempId_ne_of_supplied fresh
          (supplied_subset_concat (List.mem_singleton_self record.id))
      · exact hids
    | error message =>
      rw [Inventory.settleSpawn_error_entries]
      split
      · exact Inventory.nodup_ids_filter hids _
      · exact hids
  | discard found =>
    show (ids (run.inventory.discard _ _).value.entries).Nodup
    rw [Inventory.discard_entries]
    split
    · exact Inventory.nodup_ids_filter hids _
    · exact hids
  | @beginTerminate id inventory call accepted =>
    obtain ⟨i, server, _, _, _, hentries⟩ := Inventory.beginTerminate_eq_ok accepted
    show (ids inventory.value.entries).Nodup
    rw [hentries, Inventory.ids_markTerminating]
    exact hids
  | refuseTerminate id refused =>
    obtain rfl := Inventory.beginTerminate_eq_error refused
    exact hids
  | @settleTerminate i call answer found =>
    show (ids (run.inventory.settleTerminate _ _ _).1.value.entries).Nodup
    cases answer with
    | ok reply =>
      rw [Inventory.settleTerminate_ok_entries]
      split
      · exact Inventory.nodup_ids_filter hids _
      · exact hids
    | error message =>
      rcases Inventory.settleTerminate_error_entries run.inventory run.alive call message
        with hsame | ⟨j, hrestored⟩
      · rw [hsame]
        exact hids
      · rw [hrestored, Inventory.ids_restore]
        exact hids
  | insert server =>
    show (ids (run.inventory.insert server).value.entries).Nodup
    rw [Inventory.insert_entries]
    exact Inventory.nodup_ids_place hids server
  | remove id =>
    show (ids (run.inventory.remove id).1.value.entries).Nodup
    rcases Inventory.remove_entries run.inventory id with hsame | ⟨i, _, _, _, herased⟩
    · rw [hsame]
      exact hids
    · rw [herased]
      exact Inventory.nodup_ids_eraseIdx hids i
  | retire => exact hids

/-- **Identity.** In every run with fresh temporary identifiers, whether the client is alive or
torn down, no two entries carry the same identifier. -/
theorem entries_have_distinct_ids
    (reached : Reached options run)
    (fresh : run.past.FreshIds) :
    (run.inventory.value.entries.map Entry.id).Nodup := by
  induction reached with
  | refl => exact List.nodup_nil
  | @tail mid last reached step ih =>
    have hfresh : mid.past.FreshIds := step.freshIds fresh
    exact nodup_ids_step (Reached.traced reached) fresh (ih hfresh) step

/-- A server that a refresh lists twice before the spawn that creates it is answered stands in
the inventory once. -/
theorem listed_before_confirmed_stands_once :
    ∃ run, Reached { maxListings := 0, defaultName := "vpn" } run ∧ run.past.FreshIds
      ∧ run.tickets = [] ∧ run.entries.map Entry.id = ["i-1"]
      ∧ (run.inventory.value.entries.map Entry.id).Nodup := by
  let catalog : Catalog :=
    Published.new (Catalog.loaded [{ code := "eu-1", country := "Germany" }])
  let listed : InstanceRecord :=
    { id := "i-1", name := none, publicV4 := "198.51.100.1", publicV6 := "",
      region := "eu-1", state := "running" }
  have spawned : Reached { maxListings := 0, defaultName := "vpn" } _ :=
    .tail .refl (@Step.beginSpawn _ catalog "pending-1" "eu-1" _ _ rfl)
  have asked := spawned.tail (@Step.confirm _ 0 _ rfl rfl)
  have listing := (asked.tail (Step.beginRefresh _ catalog)).tail
    (@Step.askListing _ 0 0 _ _ rfl rfl)
  have answered := listing.tail
    (@Step.answerListing _ 0 0 _ _ (.ok [listed, listed]) rfl rfl rfl)
  have refreshed := answered.tail (@Step.settleRefresh _ 0 _ rfl rfl)
  have settled := refreshed.tail (@Step.settleSpawn _ 0 _
    (.ok { id := "i-1", publicV4 := "198.51.100.1", publicV6 := none, region := "eu-1" })
    rfl rfl)
  refine ⟨_, settled, by decide, rfl, by decide, ?_⟩
  exact entries_have_distinct_ids settled (by decide)

end InventoryRun
end VpnFleet
