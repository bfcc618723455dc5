import VpnFleet.Inventory.Operations
import VpnFleet.Proofs.Keyed

/-!
# The entries of an inventory

What each operation of the inventory does to the list of entries. Two readings
of the list matter: the identifiers of all entries, and the placeholders among
them, both in the order of the list.

* Marking and restoring a lifecycle keep both readings.
* The settlement of a spawn takes one placeholder out of the list, whichever
  way it goes, and keeps the order of the others.
-/

namespace VpnFleet

namespace Entry

/-- The placeholder of an entry, if it is one. -/
def placeholder? : Entry → Option Placeholder
  | pending placeholder => some placeholder
  | confirmed _ => none

theorem exists_confirmed_of_isConfirmed
    {id : String} {entry : Entry} (h : entry.isConfirmed id = true) :
    ∃ server, entry = .confirmed server ∧ server.id = id := by
  cases entry with
  | pending placeholder => simp [isConfirmed] at h
  | confirmed server => exact ⟨server, rfl, by simpa [isConfirmed] using h⟩

end Entry

namespace Inventory

/-- The identifiers of the entries, in order. -/
def ids (entries : List Entry) : List String :=
  entries.map Entry.id

/-- The placeholders among the entries, in order. -/
def placeholders (entries : List Entry) : List Placeholder :=
  entries.filterMap Entry.placeholder?

@[simp]
theorem placeholders_append (as bs : List Entry) :
    placeholders (as ++ bs) = placeholders as ++ placeholders bs :=
  List.filterMap_append

@[simp]
theorem placeholders_map_confirmed (servers : List Instance) :
    placeholders (servers.map Entry.confirmed) = [] := by
  simp [placeholders, Entry.placeholder?]

theorem mem_placeholders_iff {placeholder : Placeholder} {entries : List Entry} :
    placeholder ∈ placeholders entries ↔ Entry.pending placeholder ∈ entries := by
  unfold placeholders
  rw [List.mem_filterMap]
  constructor
  · rintro ⟨entry, hentry, hp⟩
    cases entry with
    | pending p =>
      obtain rfl : p = placeholder := by
        simpa [Entry.placeholder?] using hp
      exact hentry
    | confirmed server => simp [Entry.placeholder?] at hp
  · intro h
    exact ⟨.pending placeholder, h, rfl⟩

theorem placeholders_congr {as bs : List Entry}
    (h : as.map Entry.placeholder? = bs.map Entry.placeholder?) :
    placeholders as = placeholders bs := by
  have hread (xs : List Entry) :
      placeholders xs = (xs.map Entry.placeholder?).filterMap id := by
    rw [List.filterMap_map]
    rfl
  rw [hread, hread, h]

section Edits

variable {entries : List Entry} {server : Instance} {tempId : String}

@[simp]
theorem ids_markTerminating (entries : List Entry) (i : Nat) :
    ids (entries.modify i markTerminating) = ids entries :=
  Keyed.map_modify_eq (fun entry => by cases entry <;> rfl) entries i

@[simp]
theorem ids_restore (previous : Lifecycle) (entries : List Entry) (i : Nat) :
    ids (entries.modify i (restore previous)) = ids entries :=
  Keyed.map_modify_eq (fun entry => by cases entry <;> rfl) entries i

@[simp]
theorem placeholders_markTerminating (entries : List Entry) (i : Nat) :
    placeholders (entries.modify i markTerminating) = placeholders entries :=
  placeholders_congr
    (Keyed.map_modify_eq (fun entry => by cases entry <;> rfl) entries i)

@[simp]
theorem placeholders_restore (previous : Lifecycle) (entries : List Entry) (i : Nat) :
    placeholders (entries.modify i (restore previous)) = placeholders entries :=
  placeholders_congr
    (Keyed.map_modify_eq (fun entry => by cases entry <;> rfl) entries i)

theorem ids_set_confirmed
    {i : Nat} {old : Entry}
    (hi : entries[i]? = some old) (hid : old.id = server.id) :
    ids (entries.set i (.confirmed server)) = ids entries :=
  Keyed.map_set_eq hi hid.symm

theorem placeholders_set_confirmed
    {i : Nat} {known : Instance}
    (hi : entries[i]? = some (.confirmed known)) :
    placeholders (entries.set i (.confirmed server)) = placeholders entries :=
  placeholders_congr (Keyed.map_set_eq hi rfl)

theorem placeholders_eraseIdx_confirmed
    {i : Nat} (hi : entries[i]? = some (.confirmed server)) :
    placeholders (entries.eraseIdx i) = placeholders entries := by
  have hset : placeholders (entries.set i (.confirmed server)) = placeholders entries :=
    placeholders_set_confirmed hi
  rw [← hset]
  exact (Keyed.filterMap_set_eq_eraseIdx rfl entries i).symm

/-- Filtering the entries filters the placeholders by what is asked of them. -/
theorem placeholders_filter
    {keep : Entry → Bool} {keepPending : Placeholder → Bool}
    (hkeep : ∀ placeholder, keep (.pending placeholder) = keepPending placeholder)
    (entries : List Entry) :
    placeholders (entries.filter keep) = (placeholders entries).filter keepPending := by
  unfold placeholders
  rw [List.filterMap_filter, List.filter_filterMap]
  congr 1
  funext entry
  cases entry with
  | pending placeholder =>
    rw [hkeep]
    cases h : keepPending placeholder <;> simp [Entry.placeholder?, Option.filter, h]
  | confirmed server => simp [Entry.placeholder?]

theorem placeholders_filter_id_ne (id : String) (entries : List Entry) :
    placeholders (entries.filter fun entry => entry.id ≠ id)
      = (placeholders entries).filter fun placeholder => placeholder.tempId ≠ id :=
  placeholders_filter (fun _ => rfl) entries

theorem placeholders_filter_not_isPlaceholder (tempId : String) (entries : List Entry) :
    placeholders (entries.filter fun entry => !entry.isPlaceholder tempId)
      = (placeholders entries).filter fun placeholder => placeholder.tempId ≠ tempId :=
  placeholders_filter (fun placeholder => by simp [Entry.isPlaceholder]) entries

/-- A refresh keeps the placeholders and their order. -/
@[simp]
theorem placeholders_refreshed (report : RefreshReport) (entries : List Entry) :
    placeholders (refreshed report entries) = placeholders entries := by
  have hpending :
      ∀ placeholder, (Entry.pending placeholder).isPending = (fun _ => true) placeholder :=
    fun _ => rfl
  have hkept : placeholders (entries.filter Entry.isPending) = placeholders entries := by
    rw [placeholders_filter hpending, List.filter_true]
  unfold refreshed
  rw [placeholders_append, placeholders_map_confirmed, List.nil_append, hkept]

/-- The confirmed entries after a refresh are the servers that it found. -/
theorem countP_refreshed (report : RefreshReport) (entries : List Entry) :
    ((refreshed report entries).countP fun entry => !entry.isPending)
      = report.instances.length := by
  have hfound : (report.instances.map Entry.confirmed).countP (fun entry => !entry.isPending)
      = report.instances.length := by
    rw [List.countP_map, List.countP_eq_length]
    simp [Entry.isPending]
  have hkept : (entries.filter Entry.isPending).countP (fun entry => !entry.isPending) = 0 := by
    simp [List.countP_eq_zero]
  unfold refreshed
  rw [List.countP_append, hfound, hkept, Nat.add_zero]

theorem placeholders_eraseP_isPlaceholder (tempId : String) (entries : List Entry) :
    placeholders (entries.eraseP (Entry.isPlaceholder tempId))
      = (placeholders entries).eraseP fun placeholder => placeholder.tempId = tempId := by
  unfold placeholders
  rw [List.eraseP_filterMap]
  congr 2
  funext entry
  cases entry <;> rfl

theorem placeholders_eraseIdx_isPlaceholder
    {slot : Nat} (hslot : entries.findIdx? (Entry.isPlaceholder tempId) = some slot) :
    placeholders (entries.eraseIdx slot)
      = (placeholders entries).eraseP fun placeholder => placeholder.tempId = tempId := by
  rw [← placeholders_eraseP_isPlaceholder, List.eraseP_eq_eraseIdx, hslot]

theorem placeholders_eq_eraseP_of_findIdx?_none
    (hslot : entries.findIdx? (Entry.isPlaceholder tempId) = none) :
    placeholders entries
      = (placeholders entries).eraseP fun placeholder => placeholder.tempId = tempId := by
  rw [← placeholders_eraseP_isPlaceholder, List.eraseP_eq_eraseIdx, hslot]

/-- The settlement of a spawn takes its placeholder out and leaves the others. -/
theorem placeholders_reconcile (tempId : String) (server : Instance) (entries : List Entry) :
    placeholders (reconcile tempId server entries)
      = (placeholders entries).eraseP fun placeholder => placeholder.tempId = tempId := by
  unfold reconcile
  cases hknown : entries.findIdx? (Entry.isConfirmed server.id) with
  | none =>
    cases hslot : entries.findIdx? (Entry.isPlaceholder tempId) with
    | none =>
      rw [← placeholders_eq_eraseP_of_findIdx?_none hslot, placeholders_append]
      exact List.append_nil _
    | some slot =>
      rw [← placeholders_eraseIdx_isPlaceholder hslot]
      exact Keyed.filterMap_set_eq_eraseIdx rfl entries slot
  | some i =>
    obtain ⟨entry, hi, hconfirmed⟩ := Keyed.exists_getElem?_of_findIdx? hknown
    obtain ⟨known, rfl, _⟩ := Entry.exists_confirmed_of_isConfirmed hconfirmed
    cases hslot : entries.findIdx? (Entry.isPlaceholder tempId) with
    | none =>
      rw [← placeholders_eq_eraseP_of_findIdx?_none hslot]
      exact placeholders_set_confirmed hi
    | some slot =>
      -- the known server is replaced first; the placeholder is still found at its slot
      have hslot' :
          (entries.set i (.confirmed server)).findIdx? (Entry.isPlaceholder tempId)
            = some slot := by
        rw [← hslot]
        exact Keyed.findIdx?_congr (Keyed.map_set_eq hi rfl)
      rw [← placeholders_set_confirmed hi]
      exact placeholders_eraseIdx_isPlaceholder hslot'

/-- A server that is put in its place leaves the placeholders, unless one carries its
identifier. -/
theorem placeholders_place
    (hfree : ∀ placeholder ∈ placeholders entries, placeholder.tempId ≠ server.id) :
    placeholders (place server entries) = placeholders entries := by
  unfold place
  cases hplace : entries.findIdx? fun entry => entry.id = server.id with
  | none =>
    simp [placeholders, Entry.placeholder?]
  | some i =>
    obtain ⟨entry, hi, hid⟩ := Keyed.exists_getElem?_of_findIdx? hplace
    have hmem : entry ∈ entries := List.mem_of_getElem? hi
    cases entry with
    | pending placeholder =>
      have hcarried : placeholder.tempId = server.id := of_decide_eq_true hid
      exact absurd hcarried (hfree placeholder (mem_placeholders_iff.2 hmem))
    | confirmed known => exact placeholders_set_confirmed hi

theorem nodup_ids_filter (hids : (ids entries).Nodup) (keep : Entry → Bool) :
    (ids (entries.filter keep)).Nodup :=
  hids.sublist (List.Sublist.map _ List.filter_sublist)

theorem nodup_ids_eraseIdx (hids : (ids entries).Nodup) (i : Nat) :
    (ids (entries.eraseIdx i)).Nodup :=
  hids.sublist (List.Sublist.map _ (List.eraseIdx_sublist _ _))

/-- Identifiers stay distinct when the confirmed entries are replaced by servers with
distinct identifiers that no placeholder carries. -/
theorem nodup_ids_refreshed
    {report : RefreshReport}
    (hids : (ids entries).Nodup)
    (hreport : (report.instances.map Instance.id).Nodup)
    (hfree : ∀ server ∈ report.instances, ∀ placeholder ∈ placeholders entries,
      placeholder.tempId ≠ server.id) :
    (ids (refreshed report entries)).Nodup := by
  have hservers :
      ids (report.instances.map Entry.confirmed) = report.instances.map Instance.id := by
    unfold ids
    rw [List.map_map]
    rfl
  have hpending : (ids (entries.filter Entry.isPending)).Nodup := nodup_ids_filter hids _
  unfold refreshed
  unfold ids at hservers hpending ⊢
  rw [List.map_append, hservers, List.nodup_append]
  refine ⟨hreport, hpending, ?_⟩
  intro a ha b hb hab
  obtain ⟨server, hserver, rfl⟩ := List.mem_map.1 ha
  obtain ⟨entry, hentry, rfl⟩ := List.mem_map.1 hb
  obtain ⟨hmem, hispending⟩ := List.mem_filter.1 hentry
  cases entry with
  | pending placeholder =>
    exact hfree server hserver placeholder (mem_placeholders_iff.2 hmem) hab.symm
  | confirmed known => simp [Entry.isPending] at hispending

theorem nodup_ids_append
    {entry : Entry}
    (hids : (ids entries).Nodup) (hnew : entry.id ∉ ids entries) :
    (ids (entries ++ [entry])).Nodup := by
  unfold ids at hids hnew ⊢
  rw [List.map_append, List.nodup_append]
  refine ⟨hids, List.nodup_singleton _, ?_⟩
  intro a ha b hb hab
  obtain rfl : b = entry.id := by
    simpa using hb
  exact hnew (hab ▸ ha)

theorem nodup_ids_set
    {entry : Entry}
    (hids : (ids entries).Nodup) (hnew : entry.id ∉ ids entries) (i : Nat) :
    (ids (entries.set i entry)).Nodup := by
  unfold ids at hids hnew ⊢
  rw [List.map_set]
  exact hids.set hnew

theorem nodup_ids_place
    (hids : (ids entries).Nodup) (server : Instance) :
    (ids (place server entries)).Nodup := by
  unfold place
  cases hplace : entries.findIdx? fun entry => entry.id = server.id with
  | none =>
    have hnew : (Entry.confirmed server).id ∉ ids entries := by
      intro hmem
      obtain ⟨entry, hentry, hid⟩ := List.mem_map.1 hmem
      have hnot := List.findIdx?_eq_none_iff.1 hplace entry hentry
      exact of_decide_eq_false hnot hid
    exact nodup_ids_append hids hnew
  | some i =>
    obtain ⟨entry, hi, hid⟩ := Keyed.exists_getElem?_of_findIdx? hplace
    show (ids (entries.set i (.confirmed server))).Nodup
    rw [ids_set_confirmed hi (of_decide_eq_true hid)]
    exact hids

/-- Identifiers stay distinct when a spawn is settled by a server whose identifier no
placeholder carries. -/
theorem nodup_ids_reconcile
    (hids : (ids entries).Nodup)
    (hfree : ∀ placeholder ∈ placeholders entries, placeholder.tempId ≠ server.id) :
    (ids (reconcile tempId server entries)).Nodup := by
  unfold reconcile
  cases hknown : entries.findIdx? (Entry.isConfirmed server.id) with
  | none =>
    have hnew : (Entry.confirmed server).id ∉ ids entries := by
      intro hmem
      obtain ⟨entry, hentry, hid⟩ := List.mem_map.1 hmem
      cases entry with
      | pending placeholder => exact hfree placeholder (mem_placeholders_iff.2 hentry) hid
      | confirmed known =>
        have hnot := List.findIdx?_eq_none_iff.1 hknown _ hentry
        exact of_decide_eq_false hnot hid
    cases entries.findIdx? (Entry.isPlaceholder tempId) with
    | none => exact nodup_ids_append hids hnew
    | some slot => exact nodup_ids_set hids hnew slot
  | some i =>
    obtain ⟨entry, hi, hconfirmed⟩ := Keyed.exists_getElem?_of_findIdx? hknown
    obtain ⟨known, rfl, hid⟩ := Entry.exists_confirmed_of_isConfirmed hconfirmed
    have hset : (ids (entries.set i (.confirmed server))).Nodup := by
      rw [ids_set_confirmed hi hid]
      exact hids
    cases entries.findIdx? (Entry.isPlaceholder tempId) with
    | none => exact hset
    | some slot => exact nodup_ids_eraseIdx hset slot

theorem mem_or_eq_of_mem_reconcile
    {entry : Entry} (h : entry ∈ reconcile tempId server entries) :
    entry ∈ entries ∨ entry = .confirmed server := by
  unfold reconcile at h
  split at h
  · exact List.mem_or_eq_of_mem_set (List.mem_of_mem_eraseIdx h)
  · exact List.mem_or_eq_of_mem_set h
  · exact List.mem_or_eq_of_mem_set h
  · simpa using h

theorem mem_or_eq_of_mem_place
    {entry : Entry} (h : entry ∈ place server entries) :
    entry ∈ entries ∨ entry = .confirmed server := by
  unfold place at h
  split at h
  · exact List.mem_or_eq_of_mem_set h
  · simpa using h

end Edits

end Inventory
end VpnFleet
