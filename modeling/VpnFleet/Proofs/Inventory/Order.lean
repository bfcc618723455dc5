import VpnFleet.Proofs.Inventory.Run

/-!
# The order of the entries

Readers expect the servers first and the placeholders behind them. A refresh
puts the entries into this order, and most operations keep it, because they
take entries out, change them in place, or put a placeholder at the end. Two
operations give a server a place: an insertion, and the success of a spawn.

* `PlaceholdersLast` is the order.
* `InventoryRun.PutsBehind` says that an event gives a server a place behind a
  placeholder: a server with a new identifier is inserted while a spawn is under
  way, or a spawn succeeds while an older one is still under way.
* The states on the way to one are all in order exactly if no event on the way
  put a server behind a placeholder.
-/

namespace VpnFleet
namespace Inventory

/-- No server stands behind a placeholder. -/
def PlaceholdersLast (entries : List Entry) : Prop :=
  entries.Pairwise fun before behind => before.isPending = true → behind.isPending = true

/-- A placeholder stands before the place with this number. -/
def BehindPlaceholder (entries : List Entry) (place : Nat) : Prop :=
  ∃ entry ∈ entries.take place, entry.isPending = true

/-- Where an inserted server comes to stand: in the place of its identifier, else at the end. -/
def insertedAt (server : Instance) (entries : List Entry) : Nat :=
  entries.findIdx fun entry => entry.id = server.id

/-- Where the server of a successful spawn comes to stand: in its own place, else in that of the
placeholder, else at the end. -/
def settledAt (tempId : String) (server : Instance) (entries : List Entry) : Nat :=
  if entries.any (Entry.isConfirmed server.id) then
    entries.findIdx (Entry.isConfirmed server.id)
  else entries.findIdx (Entry.isPlaceholder tempId)

section Edits

variable {entries : List Entry} {server : Instance}

theorem PlaceholdersLast.sublist {kept : List Entry}
    (h : PlaceholdersLast entries) (hkept : kept.Sublist entries) : PlaceholdersLast kept :=
  List.Pairwise.sublist hkept h

/-- The order depends on the kinds of the entries alone. -/
theorem placeholdersLast_congr {as bs : List Entry}
    (h : as.map Entry.isPending = bs.map Entry.isPending) :
    PlaceholdersLast as ↔ PlaceholdersLast bs := by
  have hread (xs : List Entry) :
      (xs.map Entry.isPending).Pairwise (fun a b => a = true → b = true) ↔ PlaceholdersLast xs :=
    List.pairwise_map
  rw [← hread, ← hread, h]

theorem placeholdersLast_markTerminating_iff (entries : List Entry) (i : Nat) :
    PlaceholdersLast (entries.modify i markTerminating) ↔ PlaceholdersLast entries :=
  placeholdersLast_congr (Keyed.map_modify_eq (fun entry => by cases entry <;> rfl) entries i)

theorem placeholdersLast_restore_iff (previous : Lifecycle) (entries : List Entry) (i : Nat) :
    PlaceholdersLast (entries.modify i (restore previous)) ↔ PlaceholdersLast entries :=
  placeholdersLast_congr (Keyed.map_modify_eq (fun entry => by cases entry <;> rfl) entries i)

theorem PlaceholdersLast.concat_pending (h : PlaceholdersLast entries) (placeholder : Placeholder) :
    PlaceholdersLast (entries ++ [.pending placeholder]) := by
  refine List.pairwise_append.2 ⟨h, List.pairwise_singleton _ _, ?_⟩
  intro before _ behind hbehind _
  obtain rfl := List.mem_singleton.1 hbehind
  rfl

/-- A refresh puts the entries in order, whatever order they were in. -/
theorem placeholdersLast_refreshed (report : RefreshReport) (entries : List Entry) :
    PlaceholdersLast (refreshed report entries) := by
  refine List.pairwise_append.2 ⟨?_, ?_, ?_⟩
  · refine List.pairwise_map.2 (List.pairwise_of_forall fun before behind hpending => ?_)
    cases hpending
  · refine List.Pairwise.imp_of_mem ?_ (List.pairwise_of_forall fun _ _ => trivial)
    intro before behind _ hbehind _ _
    exact (List.mem_filter.1 hbehind).2
  · intro before hbefore behind _ hpending
    obtain ⟨server, _, rfl⟩ := List.mem_map.1 hbefore
    cases hpending

/-- A server between two parts of an ordered list leaves it in order exactly if it stands before
every placeholder. -/
theorem placeholdersLast_between_iff {front back : List Entry}
    (h : PlaceholdersLast (front ++ back)) :
    PlaceholdersLast (front ++ .confirmed server :: back)
      ↔ ¬ ∃ entry ∈ front, entry.isPending = true := by
  obtain ⟨hfront, hback, hacross⟩ := List.pairwise_append.1 h
  constructor
  · rintro hordered ⟨entry, hentry, hpending⟩
    have hserver := (List.pairwise_append.1 hordered).2.2 entry hentry _ List.mem_cons_self hpending
    cases hserver
  · intro hnone
    refine List.pairwise_append.2 ⟨hfront, List.pairwise_cons.2 ⟨?_, hback⟩, ?_⟩
    · intro behind _ hpending
      cases hpending
    · intro before hbefore behind _ hpending
      exact absurd ⟨before, hbefore, hpending⟩ hnone

theorem placeholdersLast_set_iff
    (h : PlaceholdersLast entries) {i : Nat} (hi : i < entries.length) :
    PlaceholdersLast (entries.set i (.confirmed server)) ↔ ¬ BehindPlaceholder entries i := by
  have herased : PlaceholdersLast (entries.take i ++ entries.drop (i + 1)) := by
    rw [← List.eraseIdx_eq_take_drop_succ]
    exact h.sublist (List.eraseIdx_sublist entries i)
  rw [List.set_eq_take_append_cons_drop, if_pos hi]
  exact placeholdersLast_between_iff herased

theorem placeholdersLast_concat_iff (h : PlaceholdersLast entries) :
    PlaceholdersLast (entries ++ [.confirmed server])
      ↔ ¬ BehindPlaceholder entries entries.length := by
  unfold BehindPlaceholder
  rw [List.take_length]
  exact placeholdersLast_between_iff (by simpa using h)

theorem placeholdersLast_place_iff (h : PlaceholdersLast entries) (server : Instance) :
    PlaceholdersLast (place server entries)
      ↔ ¬ BehindPlaceholder entries (insertedAt server entries) := by
  unfold place insertedAt
  cases hplace : entries.findIdx? fun entry => entry.id = server.id with
  | none =>
    rw [List.findIdx?_eq_none_iff_findIdx_eq.1 hplace]
    exact placeholdersLast_concat_iff h
  | some i =>
    obtain ⟨hi, hfound⟩ := List.findIdx?_eq_some_iff_findIdx_eq.1 hplace
    rw [hfound]
    exact placeholdersLast_set_iff h hi

/-- In an ordered list no placeholder stands before a server. -/
theorem PlaceholdersLast.not_behind_confirmed
    (h : PlaceholdersLast entries) {i : Nat} (hi : entries[i]? = some (.confirmed server)) :
    ¬ BehindPlaceholder entries i := by
  rintro ⟨entry, hentry, hpending⟩
  have hserver : Entry.confirmed server ∈ entries.drop i := by
    refine List.mem_of_getElem? (i := 0) ?_
    rw [List.getElem?_drop]
    exact hi
  have hsplit : PlaceholdersLast (entries.take i ++ entries.drop i) := by
    rw [List.take_append_drop]
    exact h
  cases (List.pairwise_append.1 hsplit).2.2 entry hentry _ hserver hpending

theorem placeholdersLast_reconcile_iff
    (h : PlaceholdersLast entries) (tempId : String) (server : Instance) :
    PlaceholdersLast (reconcile tempId server entries)
      ↔ ¬ BehindPlaceholder entries (settledAt tempId server entries) := by
  unfold reconcile settledAt
  cases hknown : entries.findIdx? (Entry.isConfirmed server.id) with
  | some i =>
    -- a server that is there stands before the placeholders already
    obtain ⟨entry, hi, hconfirmed⟩ := Keyed.exists_getElem?_of_findIdx? hknown
    obtain ⟨known, rfl, -⟩ := Entry.exists_confirmed_of_isConfirmed hconfirmed
    obtain ⟨hlt, hfound⟩ := List.findIdx?_eq_some_iff_findIdx_eq.1 hknown
    have hany : entries.any (Entry.isConfirmed server.id) = true :=
      List.any_eq_true.2 ⟨_, List.mem_of_getElem? hi, hconfirmed⟩
    have hfree : ¬ BehindPlaceholder entries i := h.not_behind_confirmed hi
    have hset : PlaceholdersLast (entries.set i (.confirmed server)) :=
      (placeholdersLast_set_iff h hlt).2 hfree
    rw [if_pos hany, hfound]
    refine iff_of_true ?_ hfree
    cases entries.findIdx? (Entry.isPlaceholder tempId) with
    | some slot => exact hset.sublist (List.eraseIdx_sublist _ _)
    | none => exact hset
  | none =>
    have hnone : ¬ entries.any (Entry.isConfirmed server.id) = true := by
      rw [List.findIdx?_eq_none_iff] at hknown
      simpa using hknown
    rw [if_neg hnone]
    cases hslot : entries.findIdx? (Entry.isPlaceholder tempId) with
    | none =>
      rw [List.findIdx?_eq_none_iff_findIdx_eq.1 hslot]
      exact placeholdersLast_concat_iff h
    | some slot =>
      obtain ⟨hlt, hfound⟩ := List.findIdx?_eq_some_iff_findIdx_eq.1 hslot
      rw [hfound]
      exact placeholdersLast_set_iff h hlt

end Edits
end Inventory

namespace InventoryRun

open Inventory (PlaceholdersLast BehindPlaceholder insertedAt settledAt)

variable {run next : InventoryRun}

/-- The event gives a server a place behind a placeholder. -/
def PutsBehind (run : InventoryRun) : InventoryEvent → Prop
  | .insert server => BehindPlaceholder run.entries (insertedAt server run.entries)
  | .settleSpawn placeholder (.ok record) =>
    run.alive = true ∧ BehindPlaceholder run.entries
      (settledAt placeholder.tempId (Instance.ofSpawned record placeholder.name) run.entries)
  | _ => False

/-- A step from an ordered state leads to an ordered one exactly if it puts no server behind a
placeholder. -/
theorem Step.placeholdersLast_iff (step : Step run next) (h : PlaceholdersLast run.entries) :
    ∃ event, next.past = run.past ++ [event]
      ∧ (PlaceholdersLast next.entries ↔ ¬ run.PutsBehind event) := by
  cases step with
  | settleRefresh found hdone =>
    refine ⟨_, rfl, iff_of_true ?_ id⟩
    show PlaceholdersLast (run.inventory.settleRefresh _ _).value.entries
    rw [Inventory.settleRefresh_entries]
    split
    · exact Inventory.placeholdersLast_refreshed _ _
    · exact h
  | @beginSpawn catalog tempId region inventory placeholder accepted =>
    obtain ⟨-, hentries⟩ := Inventory.beginSpawn_eq_ok accepted
    refine ⟨_, rfl, iff_of_true ?_ id⟩
    show PlaceholdersLast inventory.value.entries
    rw [hentries]
    exact h.concat_pending placeholder
  | @settleSpawn i ticket answer found hasked =>
    refine ⟨_, rfl, ?_⟩
    show PlaceholdersLast (run.inventory.settleSpawn _ _ _).1.value.entries ↔ _
    cases answer with
    | ok record =>
      rw [Inventory.settleSpawn_ok_entries]
      split
      · next halive =>
          exact (Inventory.placeholdersLast_reconcile_iff h _ _).trans
            (not_congr ⟨fun hbehind => ⟨halive, hbehind⟩, And.right⟩)
      · next hretired => exact iff_of_true h fun hbehind => hretired hbehind.1
    | error message =>
      rw [Inventory.settleSpawn_error_entries]
      refine iff_of_true ?_ id
      split
      · exact h.sublist List.filter_sublist
      · exact h
  | discard found =>
    refine ⟨_, rfl, iff_of_true ?_ id⟩
    show PlaceholdersLast (run.inventory.discard _ _).value.entries
    rw [Inventory.discard_entries]
    split
    · exact h.sublist List.filter_sublist
    · exact h
  | @beginTerminate id inventory call accepted =>
    obtain ⟨i, server, -, -, -, hentries⟩ := Inventory.beginTerminate_eq_ok accepted
    refine ⟨_, rfl, iff_of_true ?_ not_false⟩
    show PlaceholdersLast inventory.value.entries
    rw [hentries, Inventory.placeholdersLast_markTerminating_iff]
    exact h
  | refuseTerminate id refused =>
    obtain rfl := Inventory.beginTerminate_eq_error refused
    exact ⟨_, rfl, iff_of_true h not_false⟩
  | @settleTerminate i call answer found =>
    refine ⟨_, rfl, iff_of_true ?_ id⟩
    show PlaceholdersLast (run.inventory.settleTerminate _ _ _).1.value.entries
    cases answer with
    | ok reply =>
      rw [Inventory.settleTerminate_ok_entries]
      split
      · exact h.sublist List.filter_sublist
      · exact h
    | error message =>
      rcases Inventory.settleTerminate_error_entries run.inventory run.alive call message
        with hsame | ⟨j, hrestored⟩
      · rw [hsame]
        exact h
      · rw [hrestored, Inventory.placeholdersLast_restore_iff]
        exact h
  | insert server => exact ⟨_, rfl, Inventory.placeholdersLast_place_iff h server⟩
  | remove id =>
    refine ⟨_, rfl, iff_of_true ?_ not_false⟩
    show PlaceholdersLast (run.inventory.remove id).1.value.entries
    rcases Inventory.remove_entries run.inventory id with hsame | ⟨i, _, _, _, herased⟩
    · rw [hsame]
      exact h
    · rw [herased]
      exact h.sublist (List.eraseIdx_sublist _ _)
  | _ => exact ⟨_, rfl, iff_of_true h id⟩

/-- **Order.** The states on the way to one are all in order exactly if no event on the way put a
server behind a placeholder. -/
theorem placeholders_stay_last_iff (options : InventoryOptions) (run : InventoryRun) :
    (∀ earlier, Reached options earlier → Relation.ReflTransGen Step earlier run →
        PlaceholdersLast earlier.inventory.value.entries)
      ↔ ∀ before event after, Reached options before → Step before after →
          after.past = before.past ++ [event] → Relation.ReflTransGen Step after run →
          ¬ before.PutsBehind event := by
  constructor
  · intro hordered before event after reached step hpast path
    have hbefore := hordered before reached (.head step path)
    have hafter := hordered after (reached.tail step) path
    obtain ⟨other, hother, hiff⟩ := step.placeholdersLast_iff hbefore
    obtain rfl : other = event := by
      rw [hpast] at hother
      simpa using hother.symm
    exact hiff.1 hafter
  · intro hnone earlier reached path
    induction reached with
    | refl => exact List.Pairwise.nil
    | @tail mid last reached step ih =>
      obtain ⟨event, hpast, hiff⟩ := step.placeholdersLast_iff (ih (.head step path))
      exact hiff.2 (hnone mid event last reached step hpast path)

/-- A server that is inserted while a spawn is under way stands behind its placeholder. -/
theorem inserted_server_stands_behind_placeholder :
    ∃ run, Reached { maxListings := 0, defaultName := "vpn" } run
      ∧ run.entries.map Entry.id = ["pending-1", "i-1"]
      ∧ run.entries.map Entry.isPending = [true, false]
      ∧ ¬ ∀ earlier, Reached { maxListings := 0, defaultName := "vpn" } earlier →
          Relation.ReflTransGen Step earlier run →
          PlaceholdersLast earlier.inventory.value.entries := by
  let server : Instance :=
    { id := "i-1", name := "vpn", lifecycle := .running, publicV4 := "198.51.100.1",
      publicV6 := none, region := "eu-1" }
  have spawning : Reached { maxListings := 0, defaultName := "vpn" } _ :=
    .tail .refl (@Step.beginSpawn _ Catalog.empty "pending-1" "eu-1" _ _ rfl)
  refine ⟨_, spawning.tail (Step.insert _ server), by decide, by decide, ?_⟩
  rw [placeholders_stay_last_iff]
  intro hnone
  refine hnone _ (.insert server) _ spawning (Step.insert _ server) rfl .refl ?_
  exact ⟨_, List.mem_cons_self, rfl⟩

end InventoryRun
end VpnFleet
