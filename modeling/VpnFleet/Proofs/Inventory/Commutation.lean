import VpnFleet.Proofs.Inventory.Settlement

/-!
# The order in which spawns are answered

Spawns that are under way at the same time may be answered in any order. As
long as their placeholders stand and they bring in different servers, the order
does not show in the entries, although every answer edits the list at other
places.

**One answer.**  Read entry by entry, an answer keeps an entry, replaces it, or
takes it out (`SpawnAnswer.fate`). All that it has to know of the rest of the
list is whether its server stands there already.

**Two answers.**  What they do to one entry commutes, and neither changes what
the other one has to know. This gives `settle_comm`.

**All answers.**  One order is made into another by exchanging neighbours. What
the exchange needs (`SpawnAnswer.Ready`) is kept by each answer and does not
depend on the order.

In a run, the calls of the spawns may be made at any time in between: they leave
the entries alone.
-/

namespace VpnFleet

open Inventory (ids placeholders)

/-- A spawn with the answer to it. -/
structure SpawnAnswer where
  placeholder : Placeholder
  answer : Except String SpawnedRecord

namespace SpawnAnswer

/-- The server that the answer brings in. -/
def server? (spawn : SpawnAnswer) : Option Instance :=
  match spawn.answer with
  | .ok record => some (Instance.ofSpawned record spawn.placeholder.name)
  | .error _ => none

def event (spawn : SpawnAnswer) : InventoryEvent :=
  .settleSpawn spawn.placeholder spawn.answer

theorem id_mem_supplied (spawn : SpawnAnswer) {server : Instance} (h : server ∈ spawn.server?) :
    server.id ∈ spawn.event.supplied := by
  obtain ⟨placeholder, answer⟩ := spawn
  cases answer with
  | error message => cases h
  | ok record =>
    obtain rfl := Option.some.inj h
    exact List.mem_singleton_self _

/-- The entries after the answer. -/
def settle (spawn : SpawnAnswer) (entries : List Entry) : List Entry :=
  match spawn.server? with
  | some server => Inventory.reconcile spawn.placeholder.tempId server entries
  | none => entries.filter fun entry => entry.id ≠ spawn.placeholder.tempId

/-- The server of the answer stands among the entries. -/
def known (spawn : SpawnAnswer) (entries : List Entry) : Bool :=
  entries.any fun entry => spawn.server?.any fun server => entry.isConfirmed server.id

/-- A server after the answer: the one that the answer brings in, if it has the same identifier. -/
def replace (spawn : SpawnAnswer) (old : Instance) : Instance :=
  (spawn.server?.filter fun server => server.id = old.id).getD old

/-- What the answer makes of an entry. The server takes the place of its placeholder, unless it is
known. -/
def fate (spawn : SpawnAnswer) (known : Bool) : Entry → Option Entry
  | .pending placeholder =>
    if placeholder = spawn.placeholder then
      if known then none else spawn.server?.map Entry.confirmed
    else some (.pending placeholder)
  | .confirmed old => some (.confirmed (spawn.replace old))

/-- The answers belong to different spawns and bring in different servers. -/
structure Apart (spawn other : SpawnAnswer) : Prop where
  placeholders : spawn.placeholder ≠ other.placeholder
  servers : ∀ server ∈ spawn.server?, ∀ rival ∈ other.server?, server.id ≠ rival.id

instance (spawn other : SpawnAnswer) : Decidable (spawn.Apart other) :=
  decidable_of_iff
    (spawn.placeholder ≠ other.placeholder
      ∧ ∀ server ∈ spawn.server?, ∀ rival ∈ other.server?, server.id ≠ rival.id)
    ⟨fun h => ⟨h.1, h.2⟩, fun h => ⟨h.placeholders, h.servers⟩⟩

variable {spawn other : SpawnAnswer} {entries : List Entry} {answers : List SpawnAnswer}

theorem Apart.symm (h : spawn.Apart other) : other.Apart spawn where
  placeholders := h.placeholders.symm
  servers := fun server hserver rival hrival hid => h.servers rival hrival server hserver hid.symm

theorem known_iff :
    spawn.known entries = true
      ↔ ∃ server ∈ spawn.server?, ∃ old, Entry.confirmed old ∈ entries ∧ old.id = server.id := by
  unfold known
  rw [List.any_eq_true]
  constructor
  · rintro ⟨entry, hentry, hany⟩
    obtain ⟨server, hserver, hconfirmed⟩ := (Option.any_eq_true _ _).1 hany
    obtain ⟨old, rfl, hid⟩ := Entry.exists_confirmed_of_isConfirmed hconfirmed
    exact ⟨server, hserver, old, hentry, hid⟩
  · rintro ⟨server, hserver, old, hold, hid⟩
    refine ⟨_, hold, (Option.any_eq_true _ _).2 ⟨server, hserver, ?_⟩⟩
    simp [Entry.isConfirmed, hid]

@[simp]
theorem replace_id (spawn : SpawnAnswer) (old : Instance) : (spawn.replace old).id = old.id := by
  unfold replace
  cases hserver : spawn.server?.filter fun server => server.id = old.id with
  | none => rfl
  | some server => simpa using (Option.filter_eq_some_iff.1 hserver).2

theorem replace_of_ne {old : Instance} (h : ∀ server ∈ spawn.server?, server.id ≠ old.id) :
    spawn.replace old = old := by
  have hnone : (spawn.server?.filter fun server => server.id = old.id) = none := by
    rw [Option.filter_eq_none_iff]
    simpa using h
  unfold replace
  rw [hnone]
  rfl

theorem replace_of_mem {old server : Instance} (h : server ∈ spawn.server?)
    (hid : server.id = old.id) :
    spawn.replace old = server := by
  unfold replace
  rw [Option.mem_def.1 h]
  simp [Option.filter, hid]

/-- At most one of two answers replaces a server. -/
theorem Apart.replace_comm (h : spawn.Apart other) (old : Instance) :
    spawn.replace (other.replace old) = other.replace (spawn.replace old) := by
  by_cases hspawn : ∀ server ∈ spawn.server?, server.id ≠ old.id
  · have hlater : spawn.replace (other.replace old) = other.replace old :=
      replace_of_ne (by rwa [replace_id])
    rw [hlater, replace_of_ne hspawn]
  · have hother : ∀ rival ∈ other.server?, rival.id ≠ old.id := by
      intro rival hrival hid
      refine hspawn fun server hserver hsame => ?_
      exact h.servers server hserver rival hrival (hsame.trans hid.symm)
    have hlater : other.replace (spawn.replace old) = spawn.replace old :=
      replace_of_ne (by rwa [replace_id])
    rw [hlater, replace_of_ne hother]

/-- What two answers make of an entry does not depend on their order. -/
theorem Apart.fate_comm (h : spawn.Apart other) (known known' : Bool) (entry : Entry) :
    (spawn.fate known entry).bind (other.fate known')
      = (other.fate known' entry).bind (spawn.fate known) := by
  cases entry with
  | confirmed old => simp [fate, h.replace_comm]
  | pending placeholder =>
    -- the server that one answer brings in is left alone by the other
    have hbrought (a b : SpawnAnswer) (hab : a.Apart b) (known known' : Bool) :
        ((a.fate known (.pending a.placeholder)).bind (b.fate known'))
          = a.fate known (.pending a.placeholder) := by
      cases known with
      | true => simp [fate]
      | false =>
        cases hserver : a.server? with
        | none => simp [fate, hserver]
        | some server =>
          have hkept : b.replace server = server := by
            refine replace_of_ne fun rival hrival => ?_
            exact (hab.servers server hserver rival hrival).symm
          simp [fate, hserver, hkept]
    have hpassed (a : SpawnAnswer) (known : Bool) (hne : placeholder ≠ a.placeholder) :
        a.fate known (.pending placeholder) = some (.pending placeholder) := by
      simp [fate, hne]
    by_cases hspawn : placeholder = spawn.placeholder
    · subst hspawn
      rw [hbrought spawn other h, hpassed other known' h.placeholders]
      rfl
    · by_cases hother : placeholder = other.placeholder
      · subst hother
        rw [hbrought other spawn h.symm, hpassed spawn known hspawn]
        rfl
      · rw [hpassed spawn known hspawn, hpassed other known' hother]
        exact (hpassed other known' hother).trans (hpassed spawn known hspawn).symm

section Entries

/-- What an answer does not speak of is left alone. -/
theorem filterMap_fate_of_absent
    (known : Bool)
    (hgone : Entry.pending spawn.placeholder ∉ entries)
    (habsent : ∀ server ∈ spawn.server?, ∀ old, Entry.confirmed old ∈ entries →
      server.id ≠ old.id) :
    entries.filterMap (spawn.fate known) = entries := by
  have hkept : ∀ entry ∈ entries, spawn.fate known entry = some entry := by
    intro entry hentry
    cases entry with
    | pending placeholder =>
      have hne : placeholder ≠ spawn.placeholder := fun hsame => hgone (hsame ▸ hentry)
      simp [fate, hne]
    | confirmed old =>
      have hsame : spawn.replace old = old :=
        replace_of_ne fun server hserver => habsent server hserver old hentry
      simp [fate, hsame]
  calc entries.filterMap (spawn.fate known)
      = entries.filterMap some := List.filterMap_congr hkept
    _ = entries := List.filterMap_some

/-- An answer that brings in nothing erases its placeholder. -/
theorem filterMap_fate_eq_erase
    {known : Bool} (hentries : entries.Nodup)
    (htaken : spawn.fate known (.pending spawn.placeholder) = none)
    (habsent : ∀ server ∈ spawn.server?, ∀ old, Entry.confirmed old ∈ entries →
      server.id ≠ old.id) :
    entries.filterMap (spawn.fate known) = entries.erase (.pending spawn.placeholder) := by
  by_cases hplaceholder : Entry.pending spawn.placeholder ∈ entries
  · obtain ⟨front, back, rfl⟩ := List.append_of_mem hplaceholder
    have hapart := List.nodup_middle.1 hentries
    have hfront : Entry.pending spawn.placeholder ∉ front := fun hmem =>
      (List.nodup_cons.1 hapart).1 (List.mem_append_left _ hmem)
    have hback : Entry.pending spawn.placeholder ∉ back := fun hmem =>
      (List.nodup_cons.1 hapart).1 (List.mem_append_right _ hmem)
    rw [List.erase_append_right _ hfront, List.erase_cons_head, List.filterMap_append,
      List.filterMap_cons_none htaken, filterMap_fate_of_absent known hfront,
      filterMap_fate_of_absent known hback]
    · exact fun server hserver old hold =>
        habsent server hserver old (List.mem_append_right _ (List.mem_cons_of_mem _ hold))
    · exact fun server hserver old hold =>
        habsent server hserver old (List.mem_append_left _ hold)
  · rw [List.erase_of_not_mem hplaceholder, filterMap_fate_of_absent known hplaceholder habsent]

variable {server : Instance} {front back : List Entry}

/-- A failure erases the placeholder. -/
theorem settle_of_none
    (hserver : spawn.server? = none)
    (hids : (ids entries).Nodup)
    (hpresent : Entry.pending spawn.placeholder ∈ entries)
    (hown : Inventory.Owns spawn.placeholder entries) :
    spawn.settle entries = entries.filterMap (spawn.fate false) := by
  have hapart : ∀ known, Entry.confirmed known ∈ entries →
      known.id ≠ spawn.placeholder.tempId := by
    intro known hmem hid
    cases List.inj_on_of_nodup_map hids hmem hpresent hid
  have htaken : spawn.fate false (.pending spawn.placeholder) = none := by
    simp [fate, hserver]
  have habsent : ∀ server ∈ spawn.server?, ∀ old, Entry.confirmed old ∈ entries →
      server.id ≠ old.id := by
    simp [hserver]
  rw [filterMap_fate_eq_erase (List.Nodup.of_map _ hids) htaken habsent, settle, hserver]
  exact Inventory.filter_id_ne_tempId hids hown hapart

/-- A server that stands there already is replaced, and the placeholder erased on both sides. -/
theorem settle_of_known
    {old : Instance} (hserver : spawn.server? = some server) (hid : old.id = server.id)
    (hids : (ids (front ++ .confirmed old :: back)).Nodup)
    (hown : Inventory.Owns spawn.placeholder (front ++ .confirmed old :: back)) :
    spawn.settle (front ++ .confirmed old :: back)
      = (front ++ .confirmed old :: back).filterMap (spawn.fate true) := by
  have hothers := Inventory.id_ne_of_split hids
  have hrest : (front ++ back).Nodup :=
    (List.nodup_cons.1 (List.nodup_middle.1 (List.Nodup.of_map _ hids))).2
  have hside : ∀ side : List Entry, side.Sublist (front ++ back) →
      side.filterMap (spawn.fate true) = side.erase (.pending spawn.placeholder) := by
    intro side hsub
    refine filterMap_fate_eq_erase (hrest.sublist hsub) (by simp [fate]) ?_
    intro brought hbrought known hmem hsame
    obtain rfl : server = brought := Option.mem_unique hserver hbrought
    exact hothers _ (hsub.mem hmem) (hsame.symm.trans hid.symm)
  have hreplaced : spawn.fate true (.confirmed old) = some (.confirmed server) := by
    rw [fate, replace_of_mem hserver hid.symm]
  rw [List.filterMap_append, hside front (List.sublist_append_left _ _),
    List.filterMap_cons_some hreplaced, hside back (List.sublist_append_right _ _), settle, hserver]
  exact Inventory.reconcile_of_known hids hown hid

/-- A new server takes the place of the placeholder, and all else is left alone. -/
theorem settle_of_new
    (hserver : spawn.server? = some server)
    (hids : (ids (front ++ .pending spawn.placeholder :: back)).Nodup)
    (habsent : ∀ old, Entry.confirmed old ∈ front ++ .pending spawn.placeholder :: back →
      old.id ≠ server.id) :
    spawn.settle (front ++ .pending spawn.placeholder :: back)
      = (front ++ .pending spawn.placeholder :: back).filterMap (spawn.fate false) := by
  have hothers := Inventory.id_ne_of_split hids
  have hside : ∀ side : List Entry, side.Sublist (front ++ back) →
      side.filterMap (spawn.fate false) = side := by
    intro side hsub
    refine filterMap_fate_of_absent false (fun hmem => hothers _ (hsub.mem hmem) rfl) ?_
    intro brought hbrought old hold hsame
    obtain rfl : server = brought := Option.mem_unique hserver hbrought
    exact habsent old (by simpa using hsub.mem hold) hsame.symm
  have htaken : spawn.fate false (.pending spawn.placeholder) = some (.confirmed server) := by
    simp [fate, hserver]
  rw [List.filterMap_append, hside front (List.sublist_append_left _ _),
    List.filterMap_cons_some htaken, hside back (List.sublist_append_right _ _), settle, hserver]
  exact Inventory.reconcile_of_placeholder hids habsent

/-- Read entry by entry, an answer to a spawn whose placeholder stands makes of each entry what
`fate` says. -/
theorem settle_eq_filterMap
    (hids : (ids entries).Nodup)
    (hpresent : Entry.pending spawn.placeholder ∈ entries) :
    spawn.settle entries = entries.filterMap (spawn.fate (spawn.known entries)) := by
  have hown : Inventory.Owns spawn.placeholder entries := by
    intro other hother htemp
    exact Entry.pending.inj (List.inj_on_of_nodup_map hids hother hpresent htemp)
  cases hknown : spawn.known entries with
  | true =>
    obtain ⟨server, hserver, old, hold, hid⟩ := known_iff.1 hknown
    obtain ⟨front, back, rfl⟩ := List.append_of_mem hold
    exact settle_of_known hserver hid hids hown
  | false =>
    cases hserver : spawn.server? with
    | none => exact settle_of_none hserver hids hpresent hown
    | some server =>
      have habsent : ∀ old, Entry.confirmed old ∈ entries → old.id ≠ server.id := by
        intro old hold hid
        have htrue := known_iff.2 ⟨server, hserver, old, hold, hid⟩
        rw [hknown] at htrue
        cases htrue
      obtain ⟨front, back, rfl⟩ := List.append_of_mem hpresent
      exact settle_of_new hserver hids habsent

end Entries

/-- What the answers need to be settled in any order. -/
structure Ready (entries : List Entry) (answers : List SpawnAnswer) : Prop where
  distinct : (ids entries).Nodup
  present : ∀ spawn ∈ answers, Entry.pending spawn.placeholder ∈ entries
  apart : answers.Pairwise Apart
  fresh : ∀ spawn ∈ answers, ∀ server ∈ spawn.server?, ∀ placeholder ∈ placeholders entries,
    placeholder.tempId ≠ server.id

section Ready

theorem Ready.perm {order : List SpawnAnswer} (h : Ready entries answers)
    (hperm : order.Perm answers) :
    Ready entries order where
  distinct := h.distinct
  present := fun spawn hspawn => h.present spawn (hperm.mem_iff.1 hspawn)
  apart := (hperm.pairwise_iff Apart.symm).2 h.apart
  fresh := fun spawn hspawn => h.fresh spawn (hperm.mem_iff.1 hspawn)

theorem Ready.head_settle (h : Ready entries (spawn :: answers)) :
    spawn.settle entries = entries.filterMap (spawn.fate (spawn.known entries)) :=
  settle_eq_filterMap h.distinct (h.present spawn List.mem_cons_self)

/-- A placeholder that is left was there before. -/
theorem pending_mem_of_fate {known : Bool} {placeholder : Placeholder}
    (h : Entry.pending placeholder ∈ entries.filterMap (spawn.fate known)) :
    Entry.pending placeholder ∈ entries := by
  obtain ⟨entry, hentry, hfate⟩ := List.mem_filterMap.1 h
  cases entry with
  | confirmed old => simp [fate] at hfate
  | pending other =>
    by_cases hother : other = spawn.placeholder
    · cases known <;> simp [fate, hother] at hfate
    · obtain rfl : other = placeholder := by
        simpa [fate, hother] using hfate
      exact hentry

/-- Each answer leaves the others ready. -/
theorem Ready.tail (h : Ready entries (spawn :: answers)) :
    Ready (spawn.settle entries) answers where
  distinct := by
    unfold settle
    cases hserver : spawn.server? with
    | none => exact Inventory.nodup_ids_filter h.distinct _
    | some server =>
      exact Inventory.nodup_ids_reconcile h.distinct
        (h.fresh spawn List.mem_cons_self server hserver)
  present := by
    intro other hother
    have hne : other.placeholder ≠ spawn.placeholder :=
      ((List.pairwise_cons.1 h.apart).1 other hother).placeholders.symm
    rw [h.head_settle]
    refine List.mem_filterMap.2 ⟨_, h.present other (List.mem_cons_of_mem _ hother), ?_⟩
    simp [fate, hne]
  apart := (List.pairwise_cons.1 h.apart).2
  fresh := by
    intro other hother server hserver placeholder hplaceholder
    refine h.fresh other (List.mem_cons_of_mem _ hother) server hserver placeholder ?_
    rw [Inventory.mem_placeholders_iff, h.head_settle] at hplaceholder
    exact Inventory.mem_placeholders_iff.2 (pending_mem_of_fate hplaceholder)

/-- An answer does not change what another one has to know. -/
theorem Apart.known_filterMap_fate (h : spawn.Apart other) (known : Bool) :
    other.known (entries.filterMap (spawn.fate known)) = other.known entries := by
  rw [Bool.eq_iff_iff, known_iff, known_iff]
  constructor
  · rintro ⟨rival, hrival, old, hold, hid⟩
    obtain ⟨entry, hentry, hfate⟩ := List.mem_filterMap.1 hold
    cases entry with
    | confirmed before =>
      obtain rfl : spawn.replace before = old := by
        simpa [fate] using hfate
      exact ⟨rival, hrival, before, hentry, by simpa using hid⟩
    | pending placeholder =>
      -- what the answer brought in is not the server of the other one
      have hserver : old ∈ spawn.server? := by
        cases known <;> by_cases hplaceholder : placeholder = spawn.placeholder <;>
          simp_all [fate]
      exact absurd hid (h.servers old hserver rival hrival)
  · rintro ⟨rival, hrival, old, hold, hid⟩
    refine ⟨rival, hrival, spawn.replace old, ?_, by simpa using hid⟩
    exact List.mem_filterMap.2 ⟨_, hold, rfl⟩

/-- Two answers may be exchanged. -/
theorem Ready.settle_comm (h : Ready entries (spawn :: other :: answers)) :
    other.settle (spawn.settle entries) = spawn.settle (other.settle entries) := by
  have hswap : Ready entries (other :: spawn :: answers) := h.perm (.swap _ _ _)
  have hapart : spawn.Apart other := (List.pairwise_cons.1 h.apart).1 other List.mem_cons_self
  have hafter : other.known (spawn.settle entries) = other.known entries := by
    rw [h.head_settle]
    exact hapart.known_filterMap_fate _
  have hbefore : spawn.known (other.settle entries) = spawn.known entries := by
    rw [hswap.head_settle]
    exact hapart.symm.known_filterMap_fate _
  rw [h.tail.head_settle, hswap.tail.head_settle, hafter, hbefore, h.head_settle,
    hswap.head_settle, List.filterMap_filterMap, List.filterMap_filterMap]
  exact List.filterMap_congr fun entry _ => hapart.fate_comm _ _ entry

/-- The entries after all answers, in the order of the list. -/
def settleAll (answers : List SpawnAnswer) (entries : List Entry) : List Entry :=
  answers.foldl (fun entries spawn => spawn.settle entries) entries

/-- The order of the answers does not show in the entries. -/
theorem Ready.settleAll_perm {order : List SpawnAnswer}
    (h : Ready entries answers) (hperm : order.Perm answers) :
    settleAll order entries = settleAll answers entries := by
  induction hperm generalizing entries with
  | nil => rfl
  | cons spawn _ ih => exact ih h.tail
  | swap spawn other answers =>
    exact congrArg (settleAll answers) h.settle_comm.symm
  | trans _ hperm ih₁ ih₂ => exact (ih₁ (h.perm hperm)).trans (ih₂ h)

end Ready
end SpawnAnswer

namespace InventoryRun

open InventoryHistory
open SpawnAnswer (settleAll Ready Apart)

variable {options : InventoryOptions} {run next : InventoryRun} {answers : List SpawnAnswer}

/-- The answers come one after the other, with nothing between them but the calls of spawns. -/
inductive AnswersInTurn : InventoryRun → List SpawnAnswer → InventoryRun → Prop
  | done (run : InventoryRun) : AnswersInTurn run [] run
  | ask {run asked next : InventoryRun} {answers : List SpawnAnswer}
      (placeholder : Placeholder)
      (step : Step run asked)
      (event : asked.past = run.past ++ [.confirm placeholder])
      (rest : AnswersInTurn asked answers next) :
      AnswersInTurn run answers next
  | answer {run settled next : InventoryRun} {spawn : SpawnAnswer} {answers : List SpawnAnswer}
      (step : Step run settled)
      (event : settled.past = run.past ++ [spawn.event])
      (rest : AnswersInTurn settled answers next) :
      AnswersInTurn run (spawn :: answers) next

/-- The call of a spawn leaves the inventory alone. -/
theorem Step.inventory_of_confirm
    (step : Step run next) {placeholder : Placeholder}
    (hpast : next.past = run.past ++ [.confirm placeholder]) :
    next.inventory = run.inventory ∧ next.alive = run.alive := by
  cases step with
  | confirm found unasked => exact ⟨rfl, rfl⟩
  | _ => simp [note] at hpast

/-- The answer to a spawn edits the entries of a live client and counts the edit. -/
theorem Step.entries_of_settleSpawn
    (step : Step run next) (halive : run.alive = true) {spawn : SpawnAnswer}
    (hpast : next.past = run.past ++ [spawn.event]) :
    next.entries = spawn.settle run.entries
      ∧ next.inventory.value.revision = run.inventory.value.revision + 1
      ∧ next.alive = true := by
  cases step with
  | @settleSpawn i ticket given found asked =>
    obtain ⟨placeholder, answer⟩ := spawn
    obtain ⟨rfl, rfl⟩ : ticket.placeholder = placeholder ∧ given = answer := by
      simpa [note, SpawnAnswer.event] using hpast
    show (run.inventory.settleSpawn run.alive _ _).1.value.entries = _
      ∧ (run.inventory.settleSpawn run.alive _ _).1.value.revision = _ ∧ run.alive = true
    rw [halive]
    cases given with
    | ok record => exact ⟨rfl, rfl, rfl⟩
    | error message => exact ⟨rfl, rfl, rfl⟩
  | _ => simp [note, SpawnAnswer.event] at hpast

theorem AnswersInTurn.entries_eq
    (path : AnswersInTurn run answers next) (halive : run.alive = true) :
    next.entries = settleAll answers run.entries
      ∧ next.inventory.value.revision = run.inventory.value.revision + answers.length := by
  induction path with
  | done run => exact ⟨rfl, rfl⟩
  | ask placeholder step event rest ih =>
    obtain ⟨hinventory, hsame⟩ := step.inventory_of_confirm event
    have hrest := ih (hsame.trans halive)
    unfold InventoryRun.entries at hrest
    rwa [hinventory] at hrest
  | answer step event rest ih =>
    obtain ⟨hentries, hrevision, hlater⟩ := step.entries_of_settleSpawn halive event
    obtain ⟨hrest, hcount⟩ := ih hlater
    rw [hentries] at hrest
    refine ⟨hrest, ?_⟩
    rw [hcount, hrevision, List.length_cons]
    omega

/-- The placeholders of the open tickets. -/
def openPlaceholders (run : InventoryRun) : List Placeholder :=
  run.tickets.map Ticket.placeholder

/-- The call of an open ticket can be made, unless it was. -/
theorem exists_asked {placeholder : Placeholder} (hopen : placeholder ∈ run.openPlaceholders) :
    ∃ asked : InventoryRun,
      (∀ answers next, AnswersInTurn asked answers next → AnswersInTurn run answers next)
        ∧ asked.openPlaceholders = run.openPlaceholders
        ∧ ∃ i : Nat, asked.tickets[i]? = some ({ placeholder, asked := true } : Ticket) := by
  obtain ⟨ticket, hticket, rfl⟩ := List.mem_map.1 hopen
  obtain ⟨i, found⟩ := List.mem_iff_getElem?.1 hticket
  cases hasked : ticket.asked with
  | true => exact ⟨run, fun _ _ path => path, rfl, i, by rw [found, ← hasked]⟩
  | false =>
    obtain ⟨hlt, -⟩ := List.getElem?_eq_some_iff.1 found
    refine ⟨_, fun _ _ path => .ask _ (.confirm run found hasked) rfl path,
      Keyed.map_set_eq found rfl, i, ?_⟩
    exact List.getElem?_set_self hlt

/-- An answer closes its ticket and leaves the others open. -/
theorem exists_answered
    {i : Nat} {ticket : Ticket} (found : run.tickets[i]? = some ticket)
    (asked : ticket.asked = true) (answer : Except String SpawnedRecord) :
    ∃ settled, Step run settled
      ∧ settled.past = run.past ++ [.settleSpawn ticket.placeholder answer]
      ∧ ∀ placeholder ∈ run.openPlaceholders, placeholder ≠ ticket.placeholder →
        placeholder ∈ settled.openPlaceholders := by
  refine ⟨_, .settleSpawn run answer found asked, rfl, ?_⟩
  intro placeholder hopen hne
  obtain ⟨other, hother, rfl⟩ := List.mem_map.1 hopen
  obtain ⟨j, hj⟩ := List.mem_iff_getElem?.1 hother
  have hplace : j ≠ i := by
    rintro rfl
    exact hne (congrArg Ticket.placeholder (Option.some.inj (hj.symm.trans found)))
  exact List.mem_map.2 ⟨other, List.mem_eraseIdx_iff_getElem?.2 ⟨j, hplace, hj⟩, rfl⟩

/-- Answers to different open tickets can come in the order of any list. -/
theorem exists_answersInTurn
    (hopen : ∀ spawn ∈ answers, spawn.placeholder ∈ run.openPlaceholders)
    (hapart : answers.Pairwise Apart) :
    ∃ next, AnswersInTurn run answers next := by
  induction answers generalizing run with
  | nil => exact ⟨run, .done run⟩
  | cons spawn answers ih =>
    obtain ⟨hfirst, hrest⟩ := List.pairwise_cons.1 hapart
    obtain ⟨asked, hpath, hsame, i, found⟩ := exists_asked (hopen spawn List.mem_cons_self)
    obtain ⟨settled, step, hpast, hothers⟩ := exists_answered found rfl spawn.answer
    have hlater : ∀ other ∈ answers, other.placeholder ∈ settled.openPlaceholders := by
      intro other hother
      refine hothers _ ?_ (hfirst other hother).placeholders.symm
      rw [hsame]
      exact hopen other (List.mem_cons_of_mem _ hother)
    obtain ⟨next, path⟩ := ih hlater hrest
    exact ⟨next, hpath _ _ (.answer step hpast path)⟩

/-- In a run, answers that belong to different tickets are ready where their placeholders stand. -/
theorem Reached.ready
    (reached : Reached options run)
    (hpresent : ∀ spawn ∈ answers, Entry.pending spawn.placeholder ∈ run.entries)
    (hapart : answers.Pairwise Apart)
    (fresh : FreshIds (run.past ++ answers.map SpawnAnswer.event)) :
    Ready run.entries answers where
  distinct := Reached.nodup_ids reached fresh.of_append
  present := hpresent
  apart := hapart
  fresh := by
    intro spawn hspawn server hserver placeholder hplaceholder hid
    have hgiven : placeholder.tempId ∈ run.past.tempIds :=
      (Reached.traced reached).tempId_mem_tempIds hplaceholder
    refine fresh.apart server.id ?_ (hid ▸ mem_tempIds_append hgiven)
    exact List.mem_flatMap.2 ⟨spawn.event,
      List.mem_append_right _ (List.mem_map.2 ⟨spawn, hspawn, rfl⟩), spawn.id_mem_supplied hserver⟩

/-- **Order of settlement.** Let spawns of a live client be under way whose placeholders stand, and
let their answers bring in different servers. They can be settled in every order, with nothing
between them but the calls that are still to be made, and the entries and the revision that they
leave are the same in all of them. -/
theorem spawns_settle_in_any_order
    (reached : Reached options run)
    (halive : run.alive = true)
    (hopen : ∀ spawn ∈ answers, spawn.placeholder ∈ run.openPlaceholders)
    (hpresent : ∀ spawn ∈ answers, Entry.pending spawn.placeholder ∈ run.entries)
    (hapart : answers.Pairwise Apart)
    (fresh : FreshIds (run.past ++ answers.map SpawnAnswer.event)) :
    ∃ entries, ∀ order : List SpawnAnswer, order.Perm answers →
      (∃ next, AnswersInTurn run order next)
        ∧ ∀ next, AnswersInTurn run order next →
          next.entries = entries
            ∧ next.inventory.value.revision = run.inventory.value.revision + answers.length := by
  have ready : Ready run.entries answers := reached.ready hpresent hapart fresh
  refine ⟨settleAll answers run.entries, fun order hperm => ⟨?_, ?_⟩⟩
  · exact exists_answersInTurn (fun spawn hspawn => hopen spawn (hperm.mem_iff.1 hspawn))
      (ready.perm hperm).apart
  · intro next path
    obtain ⟨hentries, hrevision⟩ := path.entries_eq halive
    rw [hentries, hrevision, hperm.length_eq]
    exact ⟨ready.settleAll_perm hperm, rfl⟩

/-- Of three spawns one is answered with a new server, one with a server that stands before all
placeholders, and one fails. In both orders the new server comes behind the old one. -/
theorem three_answers_in_two_orders :
    ∃ run answers forwards backwards,
      Reached { maxListings := 0, defaultName := "vpn" } run
        ∧ AnswersInTurn run answers forwards
        ∧ AnswersInTurn run answers.reverse backwards
        ∧ run.entries.map Entry.id = ["i-2", "pending-1", "pending-2", "pending-3"]
        ∧ forwards.entries.map Entry.id = ["i-2", "i-1"]
        ∧ backwards.entries = forwards.entries
        ∧ backwards.inventory.value.revision = forwards.inventory.value.revision := by
  let record : SpawnedRecord :=
    { id := "i-1", publicV4 := "198.51.100.1", publicV6 := none, region := "eu-1" }
  let spawn (tempId : String) (answer : Except String SpawnedRecord) : SpawnAnswer :=
    { placeholder := { tempId, region := "eu-1", name := "vpn" }, answer }
  let answers : List SpawnAnswer :=
    [spawn "pending-1" (.ok record), spawn "pending-2" (.ok { record with id := "i-2" }),
      spawn "pending-3" (.error "busy")]
  have inserted : Reached { maxListings := 0, defaultName := "vpn" } _ :=
    Relation.ReflTransGen.refl.tail (Step.insert _
      { id := "i-2", name := "old", lifecycle := .error, publicV4 := "", publicV6 := none,
        region := "eu-1" })
  have issued := ((inserted.tail
    (@Step.beginSpawn _ Catalog.empty "pending-1" "eu-1" _ _ rfl)).tail
    (@Step.beginSpawn _ Catalog.empty "pending-2" "eu-1" _ _ rfl)).tail
    (@Step.beginSpawn _ Catalog.empty "pending-3" "eu-1" _ _ rfl)
  have asked := issued.tail (@Step.confirm _ 1 _ rfl rfl)
  obtain ⟨run, reached, halive, hopen, hpresent, fresh, hbefore, hafter⟩ :
      ∃ run, Reached { maxListings := 0, defaultName := "vpn" } run
        ∧ run.alive = true
        ∧ (∀ spawn ∈ answers, spawn.placeholder ∈ run.openPlaceholders)
        ∧ (∀ spawn ∈ answers, Entry.pending spawn.placeholder ∈ run.entries)
        ∧ FreshIds (run.past ++ answers.map SpawnAnswer.event)
        ∧ run.entries.map Entry.id = ["i-2", "pending-1", "pending-2", "pending-3"]
        ∧ (settleAll answers run.entries).map Entry.id = ["i-2", "i-1"] :=
    ⟨_, asked, rfl, by decide, by decide, by decide, by decide, by decide⟩
  obtain ⟨entries, hsettled⟩ :=
    spawns_settle_in_any_order reached halive hopen hpresent (by decide) fresh
  obtain ⟨⟨forwards, hforwards⟩, hsame⟩ := hsettled answers (.refl _)
  obtain ⟨⟨backwards, hbackwards⟩, hsame'⟩ := hsettled answers.reverse answers.reverse_perm
  obtain ⟨hentries, hrevision⟩ := hsame forwards hforwards
  obtain ⟨hentries', hrevision'⟩ := hsame' backwards hbackwards
  have hids : forwards.entries.map Entry.id = ["i-2", "i-1"] := by
    rw [(hforwards.entries_eq halive).1, hafter]
  exact ⟨run, answers, forwards, backwards, reached, hforwards, hbackwards, hbefore, hids,
    hentries'.trans hentries.symm, hrevision'.trans hrevision.symm⟩

end InventoryRun
end VpnFleet
