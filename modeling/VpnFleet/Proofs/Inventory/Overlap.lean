import VpnFleet.Proofs.History
import VpnFleet.Proofs.Inventory.Termination

/-!
# Overlapping terminations of one server

Each termination remembers the state it found. Of several that overlap, one
found the state of the server, and the others found the mark of another one. A
failure gives back what its call remembers, so the answers may come in any
order only if the state is never lost.

* `Inventory.under` is the part of the entries that carries an identifier.
* `InventoryRun.held` lists the states other than the mark that the terminations
  under way on an identifier remember.
* `Inventory.Kept` is the invariant: the entries are what they were and no state
  is held, or the first of them is marked and its state is held once.
* `InventoryRun.Touches` says what a step is to one identifier.

Both conclusions need a live client. A failure that comes in after the teardown
is not applied, and the mark of its call stays.
-/

namespace VpnFleet

namespace Termination

/-- The state that a termination of the identifier would give back, unless it is the mark. -/
def held? (id : String) (call : Termination) : Option Lifecycle :=
  if call.id = id ∧ call.previous ≠ .terminating then some call.previous else none

variable {id : String} {call : Termination}

theorem held?_of_ne (h : call.id ≠ id) : call.held? id = none :=
  if_neg fun hheld => h hheld.1

theorem held?_of_terminating (h : call.previous = .terminating) : call.held? id = none :=
  if_neg fun hheld => hheld.2 h

theorem held?_eq_some (hid : call.id = id) (h : call.previous ≠ .terminating) :
    call.held? id = some call.previous :=
  if_pos ⟨hid, h⟩

end Termination

namespace InventoryEvent

/-- A termination of the identifier begins or is answered. -/
def terminates (id : String) : InventoryEvent → Bool
  | beginTerminate call => call.id = id
  | settleTerminate call _ => call.id = id
  | _ => false

end InventoryEvent

namespace InventoryHistory

/-- Every termination of the identifier that was answered has failed. -/
def AllFailed (past : InventoryHistory) (id : String) : Prop :=
  ∀ call answer, .settleTerminate call answer ∈ past → call.id = id →
    ∃ message, answer = .error message

/-- A termination of the identifier has succeeded before the client was torn down. -/
def Succeeded (past : InventoryHistory) (id : String) : Prop :=
  ∃ before call after, past = before ++ .settleTerminate call (.ok ()) :: after
    ∧ call.id = id ∧ .retire ∉ before

variable {past : InventoryHistory} {event : InventoryEvent} {id : String}

theorem AllFailed.before (h : AllFailed (past ++ [event]) id) : past.AllFailed id :=
  fun call answer hanswer => h call answer (List.mem_append_left _ hanswer)

theorem not_succeeded_nil : ¬ Succeeded [] id := by
  rintro ⟨before, call, after, hsplit, -⟩
  simp at hsplit

/-- A success was there before, or the last event is one and the client was alive until then. -/
theorem Succeeded.concat_cases (h : Succeeded (past ++ [event]) id) :
    past.Succeeded id
      ∨ .retire ∉ past ∧ ∃ call, event = .settleTerminate call (.ok ()) ∧ call.id = id := by
  obtain ⟨before, call, after, hsplit, hid, hretire⟩ := h
  rcases History.split_concat hsplit with ⟨rfl, rfl, -⟩ | ⟨rest, hpast, -⟩
  · exact Or.inr ⟨hretire, call, rfl, hid⟩
  · exact Or.inl ⟨before, call, rest, hpast, hid, hretire⟩

end InventoryHistory

namespace Inventory

/-- The entries that carry an identifier. -/
def under (id : String) (entries : List Entry) : List Entry :=
  entries.filter fun entry => entry.id = id

section Under

variable {id : String} {state : Lifecycle} {entries next front back : List Entry} {entry : Entry}

theorem mem_under_iff : entry ∈ under id entries ↔ entry ∈ entries ∧ entry.id = id := by
  simp [under]

theorem under_eq_nil_iff : under id entries = [] ↔ ∀ entry ∈ entries, entry.id ≠ id := by
  simp [under]

theorem under_append_cons (hid : entry.id = id) (front back : List Entry) :
    under id (front ++ entry :: back) = under id front ++ entry :: under id back := by
  simp [under, hid]

theorem under_of_first (hid : entry.id = id) (first : ∀ other ∈ front, other.id ≠ id) :
    under id (front ++ entry :: back) = entry :: under id back := by
  rw [under_append_cons hid, under_eq_nil_iff.2 first, List.nil_append]

/-- A restored entry is one of those that carry the identifier, and the first marked one of them. -/
theorem Restores.under (h : Restores id state entries next) :
    Restores id state (under id entries) (under id next) := by
  cases h with
  | unmarked none => exact .unmarked fun entry hentry => none entry (mem_under_iff.1 hentry).1
  | @marked front back server hid hmarked first =>
    have hbefore : Entry.id (.confirmed server) = id := hid
    have hafter : Entry.id (.confirmed { server with lifecycle := state }) = id := hid
    rw [under_append_cons hbefore, under_append_cons hafter]
    exact .marked hid hmarked fun entry hentry => first entry (mem_under_iff.1 hentry).1

end Under

/-- The entries under an identifier and the states that its terminations hold. Either nothing is
held and the entries are what they were; or the first of them is marked and its state is held. -/
inductive Kept (id : String) (initial : List Entry) : List Entry → List Lifecycle → Prop
  | restored : Kept id initial initial []
  | marked {server : Instance} {rest : List Entry}
      (hid : server.id = id)
      (hinitial : initial = .confirmed server :: rest) :
      Kept id initial (.confirmed { server with lifecycle := .terminating } :: rest)
        [server.lifecycle]

section Kept

variable {id : String} {initial entries next rest : List Entry} {held after : List Lifecycle}
variable {server : Instance} {call : Termination}

theorem Kept.eq_of_none (h : Kept id initial entries []) : entries = initial := by
  cases h
  rfl

theorem Kept.perm (h : Kept id initial entries held) (hperm : after.Perm held) :
    Kept id initial entries after := by
  cases h with
  | restored =>
    obtain rfl := List.perm_nil.1 hperm
    exact .restored
  | marked hid hinitial =>
    obtain rfl := List.perm_singleton.1 hperm
    exact .marked hid hinitial

/-- A termination that begins finds the state, or the mark of another one. -/
theorem Kept.begin
    (h : Kept id initial (.confirmed server :: rest) held)
    (hid : server.id = id) (hcall : call.id = id) (hprevious : call.previous = server.lifecycle) :
    Kept id initial (.confirmed { server with lifecycle := .terminating } :: rest)
      (held ++ (call.held? id).toList) := by
  by_cases hmark : server.lifecycle = .terminating
  · have hsame : { server with lifecycle := .terminating } = server := by
      rw [← hmark]
    rw [Termination.held?_of_terminating (hprevious.trans hmark), hsame]
    simpa using h
  · rw [Termination.held?_eq_some hcall (hprevious ▸ hmark), hprevious]
    cases h with
    | restored => exact .marked hid rfl
    | marked => exact absurd rfl hmark

/-- A failure gives the state back if its call holds it, and the mark otherwise. -/
theorem Kept.fail
    (h : Kept id initial entries held)
    (hcall : call.id = id)
    (hrestores : Restores id call.previous entries next)
    (hheld : ((call.held? id).toList ++ after).Perm held) :
    Kept id initial next after := by
  by_cases hmark : call.previous = .terminating
  · rw [Termination.held?_of_terminating hmark] at hheld
    rw [hmark] at hrestores
    rw [hrestores.eq_of_terminating]
    exact h.perm hheld
  · rw [Termination.held?_eq_some hcall hmark] at hheld
    cases h with
    | restored => simp at hheld
    | @marked server rest hid hinitial =>
      have hone : call.previous :: after = [server.lifecycle] := List.perm_singleton.1 hheld
      obtain ⟨hprevious, rfl⟩ := List.cons.inj hone
      rw [hrestores.eq_of_head hid rfl, hprevious, ← hinitial]
      exact .restored

end Kept
end Inventory

namespace InventoryRun

open Inventory (under Restores Kept)

variable {start run next later : InventoryRun}
variable {event : InventoryEvent} {id : String}

/-- The states other than the mark that the terminations under way on the identifier remember. -/
def held (run : InventoryRun) (id : String) : List Lifecycle :=
  run.terminations.filterMap (Termination.held? id)

/-- What a step with this event is to one identifier. -/
inductive Touches (id : String) (run next : InventoryRun) : InventoryEvent → Prop
  | begin {call : Termination} {server : Instance} {rest : List Entry}
      (hid : server.id = id) (hcall : call.id = id) (hprevious : call.previous = server.lifecycle)
      (hfound : under id run.entries = .confirmed server :: rest)
      (hmarked : under id next.entries
        = .confirmed { server with lifecycle := .terminating } :: rest)
      (hheld : next.held id = run.held id ++ (call.held? id).toList) :
      Touches id run next (.beginTerminate call)
  | fail {call : Termination} {message : String}
      (hcall : call.id = id)
      (hrestores : Restores id call.previous (under id run.entries) (under id next.entries))
      (hheld : ((call.held? id).toList ++ next.held id).Perm (run.held id)) :
      Touches id run next (.settleTerminate call (.error message))
  | succeed {call : Termination}
      (hcall : call.id = id) (hgone : under id next.entries = []) :
      Touches id run next (.settleTerminate call (.ok ()))
  | late {call : Termination} {answer : Except String Unit}
      (hcall : call.id = id) (hretired : run.alive = false) (hsame : next.entries = run.entries) :
      Touches id run next (.settleTerminate call answer)
  | other {event : InventoryEvent}
      (hother : event.terminates id = false) (hheld : next.held id = run.held id) :
      Touches id run next event

theorem touches_settleTerminate
    (run : InventoryRun) {i : Nat} {call : Termination} (answer : Except String Unit)
    (found : run.terminations[i]? = some call) (id : String) :
    Touches id run
      { run.note (.settleTerminate call answer) with
        inventory := (run.inventory.settleTerminate run.alive call answer).1
        terminations := run.terminations.eraseIdx i }
      (.settleTerminate call answer) := by
  by_cases hcall : call.id = id
  · cases halive : run.alive with
    | false => exact .late hcall halive (by cases answer <;> rfl)
    | true =>
      cases answer with
      | ok reply =>
        refine .succeed hcall ?_
        show under id (run.inventory.settleTerminate true call (.ok ())).1.value.entries = []
        rw [Inventory.settleTerminate_ok_entries, Inventory.under_eq_nil_iff, ← hcall]
        intro entry hentry
        simpa using (List.mem_filter.1 hentry).2
      | error message =>
        refine .fail hcall ?_ (Keyed.perm_filterMap_eraseIdx found)
        have hrestores := Inventory.restores_unmark run.inventory call
          (.terminate call.id message)
        rw [hcall] at hrestores
        exact hcall ▸ hrestores.under
  · have hheld : call.held? id = none := Termination.held?_of_ne hcall
    exact .other (decide_eq_false hcall) (Keyed.filterMap_eraseIdx_of_none found hheld)

theorem Step.touches (step : Step run next) (id : String) :
    ∃ event, next.past = run.past ++ [event] ∧ Touches id run next event := by
  cases step with
  | @beginTerminate target inventory call accepted =>
    obtain ⟨front, server, back, hentries, first, rfl, rfl, hmarked⟩ :=
      Inventory.exists_split_of_beginTerminate accepted
    have hheld := Keyed.filterMap_concat (Termination.held? id) run.terminations
      { id := server.id, region := server.region, previous := server.lifecycle }
    refine ⟨_, rfl, ?_⟩
    by_cases hid : server.id = id
    · subst hid
      have hfound : under server.id run.entries = .confirmed server :: under server.id back :=
        (congrArg (under server.id) hentries).trans (Inventory.under_of_first rfl first)
      have hnext : under server.id inventory.value.entries
          = .confirmed { server with lifecycle := .terminating } :: under server.id back :=
        (congrArg (under server.id) hmarked).trans (Inventory.under_of_first rfl first)
      exact .begin rfl rfl rfl hfound hnext hheld
    · refine .other (decide_eq_false hid) (hheld.trans ?_)
      rw [Termination.held?_of_ne hid]
      exact List.append_nil _
  | @settleTerminate i call answer found =>
    exact ⟨_, rfl, touches_settleTerminate run answer found id⟩
  | _ => exact ⟨_, rfl, .other rfl rfl⟩

/-- A step that is not about terminations of the identifier leaves its entries. -/
structure LeavesToTerminations (id : String) (run next : InventoryRun) : Prop where
  step : Step run next
  spared : ∀ event, next.past = run.past ++ [event] → event.terminates id = false →
    under id next.entries = under id run.entries

theorem leavesToTerminations_of_terminates
    (step : Step run next) (hpast : next.past = run.past ++ [event])
    (h : event.terminates id = true) :
    LeavesToTerminations id run next := by
  refine ⟨step, ?_⟩
  intro other hother hnot
  obtain rfl : event = other := by
    rw [hpast] at hother
    simpa using hother
  rw [h] at hnot
  cases hnot

/-- A step whose event is another one than a teardown leaves the client alive. -/
theorem Step.alive_of_ne_retire
    (step : Step run next) (hpast : next.past = run.past ++ [event])
    (hevent : event ≠ .retire) (halive : run.alive = true) :
    next.alive = true := by
  cases step with
  | retire =>
    have hretire : InventoryEvent.retire = event := by
      simpa [note] using hpast
    exact absurd hretire.symm hevent
  | _ => exact halive

/-- What is known of an identifier after terminations of it have overlapped. -/
structure Contested
    (id : String) (initial : List Entry) (since : InventoryHistory) (run : InventoryRun) :
    Prop where
  alive : .retire ∉ since → run.alive = true
  kept : .retire ∉ since → since.AllFailed id →
    Kept id initial (under id run.entries) (run.held id)
  gone : since.Succeeded id → under id run.entries = []

/-- While the client is alive, a step that is no success keeps the state of the server. -/
theorem Touches.kept
    {initial : List Entry}
    (touches : Touches id run next event)
    (halive : run.alive = true)
    (hspared : event.terminates id = false → under id next.entries = under id run.entries)
    (hfailed : ∀ call, event = .settleTerminate call (.ok ()) → call.id ≠ id)
    (h : Kept id initial (under id run.entries) (run.held id)) :
    Kept id initial (under id next.entries) (next.held id) := by
  cases touches with
  | begin hid hcall hprevious hfound hmarked hheld =>
    rw [hmarked, hheld]
    rw [hfound] at h
    exact h.begin hid hcall hprevious
  | fail hcall hrestores hheld => exact h.fail hcall hrestores hheld
  | succeed hcall hgone => exact absurd hcall (hfailed _ rfl)
  | late hcall hretired hsame =>
    rw [halive] at hretired
    cases hretired
  | other hother hheld =>
    rw [hspared hother, hheld]
    exact h

/-- Where no entry carries the identifier, terminations add none. -/
theorem Touches.gone
    (touches : Touches id run next event)
    (hspared : event.terminates id = false → under id next.entries = under id run.entries)
    (h : under id run.entries = []) :
    under id next.entries = [] := by
  cases touches with
  | begin hid hcall hprevious hfound hmarked hheld =>
    rw [h] at hfound
    cases hfound
  | fail hcall hrestores hheld =>
    rw [h] at hrestores
    exact hrestores.eq_of_absent (by simp)
  | succeed hcall hgone => exact hgone
  | late hcall hretired hsame => exact hsame ▸ h
  | other hother hheld => exact (hspared hother).trans h

/-- A success on a live client takes out what carries the identifier. -/
theorem Touches.gone_of_success
    {call : Termination}
    (touches : Touches id run next (.settleTerminate call (.ok ())))
    (hcall : call.id = id) (halive : run.alive = true) :
    under id next.entries = [] := by
  cases touches with
  | succeed _ hgone => exact hgone
  | late _ hretired hsame =>
    rw [halive] at hretired
    cases hretired
  | other hother hheld => exact absurd hcall (of_decide_eq_false hother)

theorem Contested.step
    {initial : List Entry} {since : InventoryHistory}
    (h : Contested id initial since run)
    (leaves : LeavesToTerminations id run next) :
    ∃ event, next.past = run.past ++ [event] ∧ Contested id initial (since ++ [event]) next := by
  obtain ⟨event, hpast, touches⟩ := leaves.step.touches id
  have hspared := leaves.spared event hpast
  refine ⟨event, hpast, ?_, ?_, ?_⟩
  · intro hretire
    simp only [List.mem_append, List.mem_singleton, not_or] at hretire
    exact leaves.step.alive_of_ne_retire hpast (Ne.symm hretire.2) (h.alive hretire.1)
  · intro hretire hfailed
    have hbefore : .retire ∉ since := fun hmem => hretire (List.mem_append_left _ hmem)
    refine touches.kept (h.alive hbefore) hspared ?_ (h.kept hbefore hfailed.before)
    rintro call rfl hcall
    obtain ⟨message, hanswer⟩ := hfailed call (.ok ()) (by simp) hcall
    cases hanswer
  · intro hsucceeded
    rcases hsucceeded.concat_cases with hold | ⟨hbefore, call, rfl, hcall⟩
    · exact touches.gone hspared (h.gone hold)
    · exact touches.gone_of_success hcall (h.alive hbefore)

theorem Contested.path
    (h : Contested id (under id start.entries) [] start)
    (path : Relation.ReflTransGen (LeavesToTerminations id) start later) :
    ∃ since, later.past = start.past ++ since
      ∧ Contested id (under id start.entries) since later := by
  induction path with
  | refl => exact ⟨[], (List.append_nil _).symm, h⟩
  | tail _ leaves ih =>
    obtain ⟨since, hpast, hcontested⟩ := ih
    obtain ⟨event, hlast, hnext⟩ := hcontested.step leaves
    exact ⟨since ++ [event], by rw [hlast, hpast, List.append_assoc], hnext⟩

/-- Without terminations under way nothing is held. -/
theorem held_eq_nil (h : ∀ call ∈ run.terminations, call.id ≠ id) : run.held id = [] := by
  unfold held
  rw [List.filterMap_eq_nil_iff]
  exact fun call hcall => Termination.held?_of_ne (h call hcall)

/-- An identifier on which no termination is under way on a live client. -/
theorem contested_of_none
    (halive : start.alive = true) (hnone : ∀ call ∈ start.terminations, call.id ≠ id) :
    Contested id (under id start.entries) [] start where
  alive _ := halive
  kept _ _ := by
    rw [held_eq_nil hnone]
    exact .restored
  gone hsucceeded := absurd hsucceeded InventoryHistory.not_succeeded_nil

/-- **Overlapping terminations.** From a live client with a server and no termination of it under
way, let terminations of the server begin and be answered in any order, while nothing else writes
the entries with its identifier. If the client stays alive, all answers are failures and none is
outstanding, then the server is what it was. Once a termination has succeeded on the live client, no
entry carries the identifier, and a failure that settles later changes no entry. -/
theorem overlapping_terminations_agree
    {server : Instance} (hserver : Entry.confirmed server ∈ start.entries)
    (halive : start.alive = true)
    (hnone : ∀ call ∈ start.terminations, call.id ≠ server.id)
    (path : Relation.ReflTransGen (LeavesToTerminations server.id) start later)
    {since : InventoryHistory} (hpast : later.past = start.past ++ since) :
    (.retire ∉ since → since.AllFailed server.id →
        (∀ call ∈ later.terminations, call.id ≠ server.id) →
        Entry.confirmed server ∈ later.entries
          ∧ under server.id later.entries = under server.id start.entries)
    ∧ (since.Succeeded server.id →
        (∀ entry ∈ later.entries, entry.id ≠ server.id)
          ∧ ∀ call ∈ later.terminations, call.id = server.id → ∀ message,
            (later.inventory.settleTerminate later.alive call (.error message)).1.value.entries
              = later.entries) := by
  obtain ⟨since', hpast', hcontested⟩ := (contested_of_none halive hnone).path path
  obtain rfl : since' = since := List.append_cancel_left (hpast'.symm.trans hpast)
  constructor
  · intro hretire hfailed hsettled
    have hkept := hcontested.kept hretire hfailed
    rw [held_eq_nil hsettled] at hkept
    have hsame := hkept.eq_of_none
    refine ⟨?_, hsame⟩
    have hmem : Entry.confirmed server ∈ under server.id start.entries :=
      Inventory.mem_under_iff.2 ⟨hserver, rfl⟩
    rw [← hsame] at hmem
    exact (Inventory.mem_under_iff.1 hmem).1
  · intro hsucceeded
    have habsent := Inventory.under_eq_nil_iff.1 (hcontested.gone hsucceeded)
    refine ⟨habsent, ?_⟩
    intro call _ hcall message
    cases halive : later.alive with
    | false => rfl
    | true =>
      have hrestores := Inventory.restores_unmark later.inventory call
        (.terminate call.id message)
      exact hrestores.eq_of_absent (hcall ▸ habsent)

/-- An inventory into which one server was inserted. -/
def ofServer (server : Instance) : InventoryRun :=
  { new { maxListings := 0, defaultName := "vpn" } with
    inventory := Inventory.empty.insert server
    past := [.insert server] }

theorem reached_ofServer (server : Instance) :
    Reached { maxListings := 0, defaultName := "vpn" } (ofServer server) :=
  .tail .refl (Step.insert _ server)

/-- Three terminations of one server, each of which begins before the one before it is answered. All
fail, and the second one gives back the mark of the third. In a second run the first of two
succeeds before the other one is answered. -/
theorem answers_in_two_orders :
    ∃ start server failed succeeded,
      Reached { maxListings := 0, defaultName := "vpn" } start
        ∧ Relation.ReflTransGen (LeavesToTerminations server.id) start failed
        ∧ failed.past.length = start.past.length + 6
        ∧ failed.terminations = []
        ∧ Entry.confirmed server ∈ failed.entries
        ∧ Relation.ReflTransGen (LeavesToTerminations server.id) start succeeded
        ∧ succeeded.terminations.length = 1
        ∧ (∀ entry ∈ succeeded.entries, entry.id ≠ server.id)
        ∧ ∀ call ∈ succeeded.terminations, call.id = server.id → ∀ message,
          (succeeded.inventory.settleTerminate succeeded.alive call
            (.error message)).1.value.entries = succeeded.entries := by
  let server : Instance :=
    { id := "i-1", name := "vpn", lifecycle := .running, publicV4 := "198.51.100.1",
      publicV6 := none, region := "eu-1" }
  let first : Termination := { id := "i-1", region := "eu-1", previous := .running }
  let second : Termination := { first with previous := .terminating }
  have one : Relation.ReflTransGen (LeavesToTerminations "i-1") (ofServer server) _ :=
    .single (leavesToTerminations_of_terminates
      (@Step.beginTerminate _ "i-1" _ first rfl) rfl rfl)
  have two := one.tail (leavesToTerminations_of_terminates
    (@Step.beginTerminate _ "i-1" _ second rfl) rfl rfl)
  -- the first failure restores the server, and a third termination finds it so
  have answered := two.tail (leavesToTerminations_of_terminates
    (@Step.settleTerminate _ 0 first (.error "busy") rfl) rfl rfl)
  have three := answered.tail (leavesToTerminations_of_terminates
    (@Step.beginTerminate _ "i-1" _ first rfl) rfl rfl)
  have waiting := three.tail (leavesToTerminations_of_terminates
    (@Step.settleTerminate _ 0 second (.error "busy") rfl) rfl rfl)
  have failed := waiting.tail (leavesToTerminations_of_terminates
    (@Step.settleTerminate _ 0 first (.error "busy") rfl) rfl rfl)
  have succeeded := two.tail (leavesToTerminations_of_terminates
    (@Step.settleTerminate _ 0 first (.ok ()) rfl) rfl rfl)
  have restored := (@overlapping_terminations_agree _ _ server List.mem_cons_self rfl
    (by simp [ofServer, new]) failed
    [.beginTerminate first, .beginTerminate second, .settleTerminate first (.error "busy"),
      .beginTerminate first, .settleTerminate second (.error "busy"),
      .settleTerminate first (.error "busy")] rfl).1 (by simp)
    (by
      intro call answer hanswer _
      simp at hanswer
      rcases hanswer with ⟨-, h⟩ | ⟨-, h⟩ | ⟨-, h⟩ <;> exact ⟨"busy", h⟩)
    (by
      intro call hcall
      cases hcall)
  have gone := (@overlapping_terminations_agree _ _ server List.mem_cons_self rfl
    (by simp [ofServer, new]) succeeded
    [.beginTerminate first, .beginTerminate second, .settleTerminate first (.ok ())] rfl).2
    ⟨[.beginTerminate first, .beginTerminate second], first, [], rfl, rfl, by simp⟩
  exact ⟨ofServer server, server, _, _, reached_ofServer server, failed, rfl, rfl, restored.1,
    succeeded, rfl, gone⟩

/-- A failure that comes in after the teardown leaves the mark of its call. -/
theorem teardown_leaves_the_mark :
    ∃ start later since server,
      Reached { maxListings := 0, defaultName := "vpn" } start
        ∧ Entry.confirmed server ∈ start.entries
        ∧ start.terminations = []
        ∧ Relation.ReflTransGen (LeavesToTerminations server.id) start later
        ∧ later.past = start.past ++ since
        ∧ since.AllFailed server.id
        ∧ later.terminations = []
        ∧ server.lifecycle = .running
        ∧ later.entries = [.confirmed { server with lifecycle := .terminating }]
        ∧ Entry.confirmed server ∉ later.entries := by
  let server : Instance :=
    { id := "i-1", name := "vpn", lifecycle := .running, publicV4 := "198.51.100.1",
      publicV6 := none, region := "eu-1" }
  let call : Termination := { id := "i-1", region := "eu-1", previous := .running }
  have begun : Relation.ReflTransGen (LeavesToTerminations "i-1") (ofServer server) _ :=
    .single (leavesToTerminations_of_terminates
      (@Step.beginTerminate _ "i-1" _ call rfl) rfl rfl)
  have retired := begun.tail ⟨Step.retire _, fun _ _ _ => rfl⟩
  have failed := retired.tail (leavesToTerminations_of_terminates
    (@Step.settleTerminate _ 0 call (.error "busy") rfl) rfl rfl)
  refine ⟨ofServer server, _,
    [.beginTerminate call, .retire, .settleTerminate call (.error "busy")], server,
    reached_ofServer server, List.mem_cons_self, rfl, failed, rfl, ?_, rfl, rfl, rfl, by decide⟩
  intro other answer hanswer _
  simp at hanswer
  exact ⟨"busy", hanswer.2⟩

end InventoryRun
end VpnFleet
