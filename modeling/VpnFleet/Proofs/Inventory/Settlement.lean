import VpnFleet.Proofs.Inventory.Identity

/-!
# How a spawn ends

By the time a spawn is answered, its placeholder may have moved or may have been
removed, and its server may have been listed or inserted already. Where no two
entries carry one identifier, the answer still does the same in every case.

* A server comes in once, and the placeholder goes: `Inventory.BringsIn`. Its
  place is the one where it stood already, else that of the placeholder, else
  the last one.
* A failure takes the placeholder out, if it is still there, and nothing else.

Two places matter, that of the server and that of the placeholder. Both are
described by the parts of the list before and behind them, so that no index has
to be moved when one entry is replaced and another one erased.
-/

namespace VpnFleet
namespace Inventory

/-- What becomes of the entries when a spawn brings in its server. -/
structure BringsIn
    (placeholder : Placeholder) (server : Instance) (entries next : List Entry) : Prop where
  /-- One entry carries the identifier of the server, and it is the server. -/
  once : next.filter (fun entry => entry.id = server.id) = [.confirmed server]
  /-- No placeholder with the temporary identifier is left. -/
  gone : ∀ other, Entry.pending other ∈ next → other.tempId ≠ placeholder.tempId
  /-- All other entries are what they were, in the same order. -/
  others : next.filter (fun entry => entry.id ≠ server.id)
    = (entries.erase (.pending placeholder)).filter fun entry => entry.id ≠ server.id
  /-- A server that was there keeps its place. -/
  known : ∀ front old back, entries = front ++ .confirmed old :: back → old.id = server.id →
    next = front.erase (.pending placeholder)
      ++ .confirmed server :: back.erase (.pending placeholder)
  /-- A server that was not there takes the place of the placeholder. -/
  placed : (∀ old, Entry.confirmed old ∈ entries → old.id ≠ server.id) →
    ∀ front back, entries = front ++ .pending placeholder :: back →
      next = front ++ .confirmed server :: back
  /-- Without either it comes last. -/
  last : (∀ old, Entry.confirmed old ∈ entries → old.id ≠ server.id) →
    Entry.pending placeholder ∉ entries → next = entries ++ [.confirmed server]

/-- The placeholder is the only one among the entries with its temporary identifier. -/
def Owns (placeholder : Placeholder) (entries : List Entry) : Prop :=
  ∀ other, Entry.pending other ∈ entries → other.tempId = placeholder.tempId → other = placeholder

section Reconcile

variable {entries front back : List Entry} {placeholder : Placeholder} {server old : Instance}

theorem Owns.isPlaceholder_iff
    (h : Owns placeholder entries) {entry : Entry} (hentry : entry ∈ entries) :
    entry.isPlaceholder placeholder.tempId = true ↔ entry = .pending placeholder := by
  constructor
  · intro hplaceholder
    cases entry with
    | pending other =>
      have htemp : other.tempId = placeholder.tempId := by
        simpa [Entry.isPlaceholder] using hplaceholder
      rw [h other hentry htemp]
    | confirmed known => simp [Entry.isPlaceholder] at hplaceholder
  · rintro rfl
    simp [Entry.isPlaceholder]

theorem Owns.tail {entry : Entry} (h : Owns placeholder (entry :: entries)) :
    Owns placeholder entries :=
  fun other hother => h other (List.mem_cons_of_mem _ hother)

/-- To erase by the temporary identifier is to erase the placeholder. -/
theorem Owns.eraseP_eq_erase (h : Owns placeholder entries) :
    entries.eraseP (Entry.isPlaceholder placeholder.tempId)
      = entries.erase (.pending placeholder) := by
  induction entries with
  | nil => rfl
  | cons entry entries ih =>
    have hiff := h.isPlaceholder_iff List.mem_cons_self
    by_cases hentry : entry = .pending placeholder
    · rw [List.eraseP_cons_of_pos (hiff.2 hentry), hentry, List.erase_cons_head]
    · rw [List.eraseP_cons_of_neg (fun hp => hentry (hiff.1 hp)), ih h.tail,
        List.erase_cons_tail (by simpa using hentry)]

/-- Distinct identifiers leave no second entry with that of a member. -/
theorem id_ne_of_split {entry : Entry}
    (hids : (ids (front ++ entry :: back)).Nodup) :
    ∀ other ∈ front ++ back, other.id ≠ entry.id := by
  have hperm : (front ++ entry :: back).Perm (entry :: (front ++ back)) := List.perm_middle
  have hcons : (entry.id :: (front ++ back).map Entry.id).Nodup :=
    (hperm.map Entry.id).nodup_iff.1 hids
  intro other hother hid
  exact (List.nodup_cons.1 hcons).1 (List.mem_map.2 ⟨other, hother, hid⟩)

/-- A placeholder stands on one side of a server at most, so it may be erased on both. -/
theorem erase_pending_between
    (hids : (ids (front ++ .confirmed old :: back)).Nodup) :
    (front ++ .confirmed server :: back).erase (.pending placeholder)
      = front.erase (.pending placeholder)
        ++ .confirmed server :: back.erase (.pending placeholder) := by
  have hentries : (front ++ .confirmed old :: back).Nodup := List.Nodup.of_map _ hids
  rw [List.erase_append]
  split
  · next hfront =>
      have hback : Entry.pending placeholder ∉ back := by
        intro hmem
        exact (List.nodup_append.1 hentries).2.2 _ hfront _ (List.mem_cons_of_mem _ hmem) rfl
      rw [List.erase_of_not_mem hback]
  · next hfront =>
      rw [List.erase_of_not_mem hfront, List.erase_cons_tail (by simp)]

/-- A server that is known is replaced, and the placeholder erased from what is left. -/
theorem reconcile_of_known
    (hids : (ids (front ++ .confirmed old :: back)).Nodup)
    (hown : Owns placeholder (front ++ .confirmed old :: back))
    (hid : old.id = server.id) :
    reconcile placeholder.tempId server (front ++ .confirmed old :: back)
      = front.erase (.pending placeholder)
        ++ .confirmed server :: back.erase (.pending placeholder) := by
  have hfront : ∀ entry ∈ front, entry.isConfirmed server.id = false := by
    intro entry hentry
    have hne : entry.id ≠ old.id := id_ne_of_split hids entry (List.mem_append_left _ hentry)
    cases entry with
    | pending other => rfl
    | confirmed known => exact decide_eq_false fun hsame => hne (hsame.trans hid.symm)
  have hknown : (front ++ .confirmed old :: back).findIdx? (Entry.isConfirmed server.id)
      = some front.length :=
    Keyed.findIdx?_append_cons hfront (by simp [Entry.isConfirmed, hid])
  have hslot : (front ++ .confirmed old :: back).findIdx? (Entry.isPlaceholder placeholder.tempId)
      = (front ++ .confirmed server :: back).findIdx?
          (Entry.isPlaceholder placeholder.tempId) :=
    Keyed.findIdx?_congr (by simp [Entry.isPlaceholder])
  have hset : (front ++ .confirmed old :: back).set front.length (.confirmed server)
      = front ++ .confirmed server :: back := by
    simp
  have hown' : Owns placeholder (front ++ .confirmed server :: back) := by
    intro other hother
    exact hown other (by simpa using hother)
  rw [← erase_pending_between hids, ← hown'.eraseP_eq_erase, List.eraseP_eq_eraseIdx, ← hslot]
  unfold reconcile
  rw [hknown]
  cases (front ++ .confirmed old :: back).findIdx? (Entry.isPlaceholder placeholder.tempId) with
  | none => exact hset
  | some slot => exact congrArg (fun entries => entries.eraseIdx slot) hset

theorem findIdx?_isConfirmed_eq_none
    (habsent : ∀ old, Entry.confirmed old ∈ entries → old.id ≠ server.id) :
    entries.findIdx? (Entry.isConfirmed server.id) = none := by
  rw [List.findIdx?_eq_none_iff]
  intro entry hentry
  cases entry with
  | pending other => rfl
  | confirmed known => simpa [Entry.isConfirmed] using habsent known hentry

/-- A server that is not known takes the place of the placeholder. -/
theorem reconcile_of_placeholder
    (hids : (ids (front ++ .pending placeholder :: back)).Nodup)
    (habsent : ∀ old, Entry.confirmed old ∈ front ++ .pending placeholder :: back →
      old.id ≠ server.id) :
    reconcile placeholder.tempId server (front ++ .pending placeholder :: back)
      = front ++ .confirmed server :: back := by
  have hfront : ∀ entry ∈ front, entry.isPlaceholder placeholder.tempId = false := by
    intro entry hentry
    have hne := id_ne_of_split hids entry (List.mem_append_left _ hentry)
    cases entry with
    | pending other => simpa [Entry.isPlaceholder, Entry.id] using hne
    | confirmed known => rfl
  have hslot : (front ++ .pending placeholder :: back).findIdx?
      (Entry.isPlaceholder placeholder.tempId) = some front.length :=
    Keyed.findIdx?_append_cons hfront (by simp [Entry.isPlaceholder])
  unfold reconcile
  rw [findIdx?_isConfirmed_eq_none habsent, hslot]
  simp

/-- A server that is not known comes last when its placeholder is gone. -/
theorem reconcile_of_neither
    (hown : Owns placeholder entries)
    (habsent : ∀ old, Entry.confirmed old ∈ entries → old.id ≠ server.id)
    (hgone : Entry.pending placeholder ∉ entries) :
    reconcile placeholder.tempId server entries = entries ++ [.confirmed server] := by
  have hslot : entries.findIdx? (Entry.isPlaceholder placeholder.tempId) = none := by
    rw [List.findIdx?_eq_none_iff]
    intro entry hentry
    rw [Bool.eq_false_iff]
    intro hplaceholder
    exact hgone ((hown.isPlaceholder_iff hentry).1 hplaceholder ▸ hentry)
  unfold reconcile
  rw [findIdx?_isConfirmed_eq_none habsent, hslot]

/-- In every case the server stands between two parts, and these are the entries without the
placeholder and without what carried the identifier of the server. -/
theorem exists_reconcile_eq_between
    (hids : (ids entries).Nodup)
    (hown : Owns placeholder entries)
    (hnew : ∀ other, Entry.pending other ∈ entries → other.tempId ≠ server.id) :
    ∃ front back,
      reconcile placeholder.tempId server entries = front ++ .confirmed server :: back
        ∧ (entries.erase (.pending placeholder)).filter (fun entry => entry.id ≠ server.id)
          = front ++ back := by
  by_cases hknown : ∃ old, Entry.confirmed old ∈ entries ∧ old.id = server.id
  · obtain ⟨old, hold, hid⟩ := hknown
    obtain ⟨front, back, rfl⟩ := List.append_of_mem hold
    refine ⟨_, _, reconcile_of_known hids hown hid, ?_⟩
    have hothers := id_ne_of_split hids
    have hfront : ∀ entry ∈ front.erase (.pending placeholder), entry.id ≠ server.id := by
      intro entry hentry
      exact hid ▸ hothers entry (List.mem_append_left _ (List.mem_of_mem_erase hentry))
    have hback : ∀ entry ∈ back.erase (.pending placeholder), entry.id ≠ server.id := by
      intro entry hentry
      exact hid ▸ hothers entry (List.mem_append_right _ (List.mem_of_mem_erase hentry))
    rw [erase_pending_between hids, List.filter_append,
      List.filter_cons_of_neg (by simp [Entry.id, hid]),
      List.filter_eq_self.2 (by simpa using hfront), List.filter_eq_self.2 (by simpa using hback)]
  · -- no entry carries the identifier of the server
    have habsent : ∀ old, Entry.confirmed old ∈ entries → old.id ≠ server.id :=
      fun old hold hid => hknown ⟨old, hold, hid⟩
    have hkept : (entries.erase (.pending placeholder)).filter (fun entry => entry.id ≠ server.id)
        = entries.erase (.pending placeholder) := by
      refine List.filter_eq_self.2 ?_
      intro entry hentry
      have hmem : entry ∈ entries := List.mem_of_mem_erase hentry
      cases entry with
      | pending other => exact decide_eq_true (hnew other hmem)
      | confirmed known => exact decide_eq_true (habsent known hmem)
    rw [hkept]
    by_cases hplaceholder : Entry.pending placeholder ∈ entries
    · obtain ⟨front, back, rfl⟩ := List.append_of_mem hplaceholder
      refine ⟨front, back, reconcile_of_placeholder hids habsent, ?_⟩
      have hfront : Entry.pending placeholder ∉ front := by
        intro hmem
        exact id_ne_of_split hids _ (List.mem_append_left _ hmem) rfl
      rw [List.erase_append_right _ hfront, List.erase_cons_head]
    · refine ⟨entries, [], reconcile_of_neither hown habsent hplaceholder, ?_⟩
      rw [List.erase_of_not_mem hplaceholder, List.append_nil]

theorem bringsIn_reconcile
    (hids : (ids entries).Nodup)
    (hown : Owns placeholder entries)
    (hnew : ∀ other, Entry.pending other ∈ entries → other.tempId ≠ server.id) :
    BringsIn placeholder server entries (reconcile placeholder.tempId server entries) := by
  obtain ⟨front, back, hbetween, hothers⟩ := exists_reconcile_eq_between hids hown hnew
  have hkept : ∀ entry ∈ front ++ back,
      entry ∈ entries.erase (.pending placeholder) ∧ entry.id ≠ server.id := by
    intro entry hentry
    rw [← hothers] at hentry
    simpa using List.mem_filter.1 hentry
  have hfront : ∀ entry ∈ front, entry.id ≠ server.id :=
    fun entry hentry => (hkept entry (List.mem_append_left _ hentry)).2
  have hback : ∀ entry ∈ back, entry.id ≠ server.id :=
    fun entry hentry => (hkept entry (List.mem_append_right _ hentry)).2
  constructor
  · rw [hbetween, List.filter_append, List.filter_cons_of_pos (by simp [Entry.id]),
      List.filter_eq_nil_iff.2 (by simpa using hfront),
      List.filter_eq_nil_iff.2 (by simpa using hback), List.nil_append]
  · intro other hother htemp
    have hmem : Entry.pending other ∈ front ++ back := by
      rw [hbetween] at hother
      simpa using hother
    have herased := (hkept _ hmem).1
    obtain rfl := hown other (List.mem_of_mem_erase herased) htemp
    exact (List.Nodup.of_map _ hids).not_mem_erase herased
  · rw [hothers, hbetween, List.filter_append, List.filter_cons_of_neg (by simp [Entry.id]),
      List.filter_eq_self.2 (by simpa using hfront), List.filter_eq_self.2 (by simpa using hback)]
  · rintro front old back rfl hid
    exact reconcile_of_known hids hown hid
  · rintro habsent front back rfl
    exact reconcile_of_placeholder hids habsent
  · intro habsent hgone
    exact reconcile_of_neither hown habsent hgone

/-- To take out what carries the temporary identifier is to erase the placeholder, where no server
carries it. -/
theorem filter_id_ne_tempId
    (hids : (ids entries).Nodup)
    (hown : Owns placeholder entries)
    (hapart : ∀ known, Entry.confirmed known ∈ entries → known.id ≠ placeholder.tempId) :
    entries.filter (fun entry => entry.id ≠ placeholder.tempId)
      = entries.erase (.pending placeholder) := by
  rw [(List.Nodup.of_map _ hids).erase_eq_filter]
  refine List.filter_congr ?_
  intro entry hentry
  cases entry with
  | pending other =>
    by_cases htemp : other.tempId = placeholder.tempId
    · simp [Entry.id, hown other hentry htemp]
    · have hne : other ≠ placeholder := fun hsame => htemp (hsame ▸ rfl)
      simp [Entry.id, htemp, hne]
  | confirmed known => simp [Entry.id, hapart known hentry]

end Reconcile
end Inventory

namespace InventoryRun

open Inventory (ids Owns BringsIn)
open InventoryHistory

variable {options : InventoryOptions} {run : InventoryRun}

theorem Reached.nodup_ids (reached : Reached options run) (fresh : run.past.FreshIds) :
    (ids run.entries).Nodup := by
  induction reached with
  | refl => exact List.nodup_nil
  | tail reached step ih =>
    exact nodup_ids_step (Reached.traced reached) fresh (ih (step.freshIds fresh)) step

/-- The placeholder of a ticket is the only one with its temporary identifier. -/
theorem Traced.owns
    (traced : run.Traced) (fresh : run.past.FreshIds)
    {ticket : Ticket} (hticket : ticket ∈ run.tickets) :
    Owns ticket.placeholder run.entries := by
  intro other hother htemp
  have hissued : other ∈ run.past.issued := traced.entries _ hother
  exact List.inj_on_of_nodup_map fresh.distinct hissued (traced.tickets ticket hticket) htemp

/-- No server carries the temporary identifier of a ticket. -/
theorem Traced.id_ne_tempId
    (traced : run.Traced) (fresh : run.past.FreshIds)
    {ticket : Ticket} (hticket : ticket ∈ run.tickets) :
    ∀ known, Entry.confirmed known ∈ run.entries → known.id ≠ ticket.placeholder.tempId := by
  intro known hknown hid
  have hsupplied : known.id ∈ run.past.suppliedIds := traced.entries _ hknown
  have hgiven : ticket.placeholder.tempId ∈ run.past.tempIds :=
    List.mem_map.2 ⟨_, traced.tickets ticket hticket, rfl⟩
  exact fresh.apart _ hsupplied (hid ▸ hgiven)

/-- **Settlement.** An answer with a server brings it in, running, with the addresses and the region
of the answer and the name of the placeholder. A failure erases the placeholder of the ticket, if it
is still there, and leaves its error. -/
theorem spawn_settles_in_its_place
    (reached : Reached options run)
    (halive : run.alive = true)
    {ticket : Ticket} (hticket : ticket ∈ run.tickets)
    {answer : Except String SpawnedRecord}
    (fresh : FreshIds (run.past ++ [.settleSpawn ticket.placeholder answer])) :
    (∀ record, answer = .ok record →
      let server : Instance :=
        { id := record.id, name := ticket.placeholder.name, lifecycle := .running,
          publicV4 := record.publicV4, publicV6 := record.publicV6.bind Text.nonBlank,
          region := record.region }
      let settled := run.inventory.settleSpawn run.alive ticket.placeholder answer
      settled.2 = .ok server
        ∧ BringsIn ticket.placeholder server run.entries settled.1.value.entries
        ∧ settled.1.value.revision = run.inventory.value.revision + 1)
    ∧ (∀ message, answer = .error message →
      let error := InventoryError.spawn ticket.placeholder.region message
      let settled := run.inventory.settleSpawn run.alive ticket.placeholder answer
      settled.2 = .error error
        ∧ settled.1.value.entries = run.entries.erase (.pending ticket.placeholder)
        ∧ settled.1.value.lastError = some error) := by
  have traced : run.Traced := Reached.traced reached
  have before : run.past.FreshIds := fresh.before
  have hids : (ids run.entries).Nodup := Reached.nodup_ids reached before
  have hown : Owns ticket.placeholder run.entries := traced.owns before hticket
  rw [halive]
  constructor
  · rintro record rfl
    refine ⟨rfl, ?_, rfl⟩
    rw [Inventory.settleSpawn_ok_entries]
    refine Inventory.bringsIn_reconcile hids hown ?_
    intro other hother
    exact traced.tempId_ne_of_supplied fresh
      (supplied_subset_concat (List.mem_singleton_self record.id)) other
      (Inventory.mem_placeholders_iff.2 hother)
  · rintro message rfl
    refine ⟨rfl, ?_, rfl⟩
    rw [Inventory.settleSpawn_error_entries]
    exact Inventory.filter_id_ne_tempId hids hown (traced.id_ne_tempId before hticket)

/-- Of two spawns the younger one is answered with a server that was inserted behind both
placeholders: the server keeps its place, and the placeholder before it goes. A failure takes the
same placeholder out. -/
theorem known_server_keeps_its_place :
    ∃ run ticket record message,
      Reached { maxListings := 0, defaultName := "vpn" } run
        ∧ run.alive = true
        ∧ ticket ∈ run.tickets
        ∧ FreshIds (run.past ++ [.settleSpawn ticket.placeholder (.ok record)])
        ∧ FreshIds (run.past ++ [.settleSpawn ticket.placeholder (.error message)])
        ∧ run.entries.map Entry.id = ["pending-1", "pending-2", "i-1", "i-2"]
        ∧ (run.inventory.settleSpawn run.alive ticket.placeholder
            (.ok record)).1.value.entries.map Entry.id = ["pending-1", "i-1", "i-2"]
        ∧ BringsIn ticket.placeholder (Instance.ofSpawned record "vpn") run.entries
          (run.inventory.settleSpawn run.alive ticket.placeholder (.ok record)).1.value.entries
        ∧ (run.inventory.settleSpawn run.alive ticket.placeholder
            (.error message)).1.value.entries = run.entries.erase (.pending ticket.placeholder) := by
  let server : Instance :=
    { id := "i-1", name := "old", lifecycle := .error, publicV4 := "", publicV6 := none,
      region := "eu-1" }
  let ticket : Ticket :=
    { placeholder := { tempId := "pending-2", region := "eu-1", name := "vpn" }, asked := true }
  let record : SpawnedRecord :=
    { id := "i-1", publicV4 := "198.51.100.1", publicV6 := some " ", region := "eu-1" }
  have issued : Reached { maxListings := 0, defaultName := "vpn" } _ :=
    (Relation.ReflTransGen.refl.tail
      (@Step.beginSpawn _ Catalog.empty "pending-1" "eu-1" _ _ rfl)).tail
      (@Step.beginSpawn _ Catalog.empty "pending-2" "eu-1" _ _ rfl)
  have inserted := (issued.tail (Step.insert _ server)).tail
    (Step.insert _ { server with id := "i-2" })
  have asked := inserted.tail (@Step.confirm _ 1 _ rfl rfl)
  obtain ⟨run, reached, halive, hticket, freshRecord, freshMessage, hids, hafter⟩ :
      ∃ run, Reached { maxListings := 0, defaultName := "vpn" } run
        ∧ run.alive = true
        ∧ ticket ∈ run.tickets
        ∧ FreshIds (run.past ++ [.settleSpawn ticket.placeholder (.ok record)])
        ∧ FreshIds (run.past ++ [.settleSpawn ticket.placeholder (.error "busy")])
        ∧ run.entries.map Entry.id = ["pending-1", "pending-2", "i-1", "i-2"]
        ∧ (run.inventory.settleSpawn run.alive ticket.placeholder
            (.ok record)).1.value.entries.map Entry.id = ["pending-1", "i-1", "i-2"] :=
    ⟨_, asked, rfl, List.mem_cons_of_mem _ List.mem_cons_self, by decide, by decide, by decide,
      by decide⟩
  have brought := (spawn_settles_in_its_place reached halive hticket freshRecord).1 record rfl
  have failed := (spawn_settles_in_its_place reached halive hticket freshMessage).2 "busy" rfl
  exact ⟨run, ticket, record, "busy", reached, halive, hticket, freshRecord, freshMessage, hids,
    hafter, brought.2.1, failed.2.1⟩

end InventoryRun
end VpnFleet
