import VpnFleet.Proofs.Inventory.Run

/-!
# How a termination ends

A termination marks a server when it begins. By the time it is answered, the
server may have been removed, listed anew, replaced or marked by another
termination. The answer does no more than it may in all of these cases.

* A success takes out what carries the identifier, and nothing else.
* A failure gives back the state that the termination found, to the first
  server with the identifier that is still marked: `Inventory.Restores`. Without
  such a server it changes no entry.
-/

namespace VpnFleet
namespace Inventory

/-- The first marked server with the identifier gets a state; without one nothing changes. -/
inductive Restores (id : String) (state : Lifecycle) : List Entry → List Entry → Prop
  | unmarked {entries : List Entry} (none : ∀ entry ∈ entries, isMarked id entry = false) :
      Restores id state entries entries
  | marked {front back : List Entry} {server : Instance}
      (hid : server.id = id)
      (hmarked : server.lifecycle = .terminating)
      (first : ∀ entry ∈ front, isMarked id entry = false) :
      Restores id state (front ++ .confirmed server :: back)
        (front ++ .confirmed { server with lifecycle := state } :: back)

section Restores

variable {id : String} {state : Lifecycle} {entries next : List Entry}

theorem isMarked_confirmed {server : Instance} :
    isMarked id (.confirmed server) = true ↔ server.id = id ∧ server.lifecycle = .terminating := by
  simp [isMarked]

/-- To restore the mark itself changes nothing. -/
theorem Restores.eq_of_terminating (h : Restores id .terminating entries next) :
    next = entries := by
  cases h with
  | unmarked none => rfl
  | @marked front back server hid hmarked first => rw [← hmarked]

theorem Restores.eq_of_absent
    (h : Restores id state entries next) (habsent : ∀ entry ∈ entries, entry.id ≠ id) :
    next = entries := by
  cases h with
  | unmarked none => rfl
  | @marked front back server hid hmarked first =>
    exact absurd hid (habsent (.confirmed server) (by simp))

/-- A list that begins with a marked server is restored there. -/
theorem Restores.eq_of_head
    {server : Instance} {rest : List Entry}
    (h : Restores id state (.confirmed server :: rest) next)
    (hid : server.id = id) (hmarked : server.lifecycle = .terminating) :
    next = .confirmed { server with lifecycle := state } :: rest := by
  have hhead : isMarked id (.confirmed server) = true := isMarked_confirmed.2 ⟨hid, hmarked⟩
  generalize hentries : Entry.confirmed server :: rest = entries at h
  cases h with
  | unmarked none =>
    subst hentries
    have hnot := none _ List.mem_cons_self
    rw [hhead] at hnot
    cases hnot
  | @marked front back other hother _ first =>
    cases front with
    | nil =>
      simp only [List.nil_append, List.cons.injEq, Entry.confirmed.injEq] at hentries
      obtain ⟨rfl, rfl⟩ := hentries
      rfl
    | cons entry front =>
      simp only [List.cons_append, List.cons.injEq] at hentries
      obtain ⟨rfl, -⟩ := hentries
      have hnot := first _ List.mem_cons_self
      rw [hhead] at hnot
      cases hnot

end Restores

variable {inventory next : Inventory}

theorem restores_unmark (inventory : Inventory) (call : Termination) (error : InventoryError) :
    Restores call.id call.previous inventory.value.entries
      (inventory.unmark call error).value.entries := by
  unfold unmark
  rw [Published.modify_value]
  cases hplace : inventory.value.entries.findIdx? (isMarked call.id) with
  | none => exact .unmarked (List.findIdx?_eq_none_iff.1 hplace)
  | some i =>
    obtain ⟨front, entry, back, hentries, rfl, hentry, first⟩ :=
      Keyed.exists_split_of_findIdx? hplace
    show Restores _ _ _ (inventory.value.entries.modify front.length (restore call.previous))
    rw [hentries, Keyed.modify_append_cons]
    cases entry with
    | pending placeholder => cases hentry
    | confirmed server =>
      obtain ⟨hid, hmarked⟩ := isMarked_confirmed.1 hentry
      exact .marked hid hmarked first

theorem unmark_lastError (inventory : Inventory) (call : Termination) (error : InventoryError) :
    (inventory.unmark call error).value.lastError = some error := by
  unfold unmark
  rw [Published.modify_value]
  split <;> rfl

/-- A termination that is accepted found a server before all others with the identifier, and marked
it. -/
theorem exists_split_of_beginTerminate
    {id : String} {call : Termination}
    (h : inventory.beginTerminate id = (next, .ok call)) :
    ∃ front server back,
      inventory.value.entries = front ++ .confirmed server :: back
        ∧ (∀ entry ∈ front, entry.id ≠ id)
        ∧ server.id = id
        ∧ call = { id, region := server.region, previous := server.lifecycle }
        ∧ next.value.entries
          = front ++ .confirmed { server with lifecycle := .terminating } :: back := by
  unfold beginTerminate at h
  cases hplace : inventory.value.entries.findIdx? fun entry => entry.id = id with
  | none =>
    rw [hplace] at h
    cases h
  | some i =>
    obtain ⟨front, entry, back, hentries, rfl, hid, first⟩ := Keyed.exists_split_of_findIdx? hplace
    have hentry : inventory.value.entries[front.length]? = some entry := by
      simp [hentries]
    rw [hplace] at h
    simp only [hentry] at h
    cases entry with
    | pending placeholder => cases h
    | confirmed server =>
      cases h
      refine ⟨front, server, back, hentries, ?_, of_decide_eq_true hid, rfl, ?_⟩
      · intro other hother
        exact of_decide_eq_false (first other hother)
      · show inventory.value.entries.modify front.length markTerminating = _
        rw [hentries, Keyed.modify_append_cons]
        rfl

end Inventory

namespace InventoryRun

open Inventory (Restores)

variable {options : InventoryOptions} {run next : InventoryRun}

/-- A termination under way was under way before the step, or the step began it. -/
theorem Step.mem_terminations
    (step : Step run next) {call : Termination} (hcall : call ∈ next.terminations) :
    call ∈ run.terminations
      ∨ ∃ server, run.inventory.lookup? call.id = some (.confirmed server)
        ∧ call.previous = server.lifecycle
        ∧ next.past = run.past ++ [.beginTerminate call] := by
  cases step with
  | @beginTerminate id inventory begun accepted =>
    rcases List.mem_append.1 hcall with hold | hnew
    · exact Or.inl hold
    · obtain rfl := List.mem_singleton.1 hnew
      obtain ⟨server, hlookup, rfl, -⟩ := Inventory.exists_confirmed_of_beginTerminate accepted
      exact Or.inr ⟨server, hlookup, rfl, rfl⟩
  | settleTerminate answer found => exact Or.inl (List.mem_of_mem_eraseIdx hcall)
  | _ => exact Or.inl hcall

/-- A termination under way has begun on a server in the state that the call remembers. -/
theorem Reached.exists_begun
    (reached : Reached options run) {call : Termination} (hcall : call ∈ run.terminations) :
    ∃ start begun server,
      Reached options start ∧ Step start begun
        ∧ begun.past = start.past ++ [.beginTerminate call]
        ∧ Relation.ReflTransGen Step begun run
        ∧ start.inventory.lookup? call.id = some (.confirmed server)
        ∧ call.previous = server.lifecycle := by
  induction reached with
  | refl => cases hcall
  | @tail mid last reached step ih =>
    rcases step.mem_terminations hcall with hold | ⟨server, hlookup, hprevious, hpast⟩
    · obtain ⟨start, begun, server, hstart, hbegun, hpast, path, hlookup, hprevious⟩ := ih hold
      exact ⟨start, begun, server, hstart, hbegun, hpast, path.tail step, hlookup, hprevious⟩
    · exact ⟨mid, last, server, reached, step, hpast, .refl, hlookup, hprevious⟩

/-- **Termination.** Let a termination be under way on a live client. It began on a server, and
whatever ran since: a success takes out what carries the identifier, and nothing else; a failure
gives the state of that server to the first one with the identifier that is still marked, and
leaves its error. -/
theorem termination_settles_alone
    (reached : Reached options run)
    (halive : run.alive = true)
    {call : Termination} (hcall : call ∈ run.terminations) :
    ∃ start begun server,
      Reached options start ∧ Step start begun
        ∧ begun.past = start.past ++ [.beginTerminate call]
        ∧ Relation.ReflTransGen Step begun run
        ∧ start.inventory.lookup? call.id = some (.confirmed server)
        ∧ (let settled := run.inventory.settleTerminate run.alive call (.ok ())
          settled.2 = .ok ()
            ∧ settled.1.value.entries = run.entries.filter fun entry => entry.id ≠ call.id)
        ∧ ∀ message,
          let error := InventoryError.terminate call.id message
          let settled := run.inventory.settleTerminate run.alive call (.error message)
          settled.2 = .error error
            ∧ settled.1.value.lastError = some error
            ∧ Restores call.id server.lifecycle run.entries settled.1.value.entries := by
  obtain ⟨start, begun, server, hstart, hbegun, hpast, path, hlookup, hprevious⟩ :=
    reached.exists_begun hcall
  refine ⟨start, begun, server, hstart, hbegun, hpast, path, hlookup, ⟨rfl, ?_⟩, ?_⟩
  · rw [Inventory.settleTerminate_ok_entries, if_pos halive]
    rfl
  · intro message
    rw [halive, ← hprevious]
    exact ⟨rfl, Inventory.unmark_lastError _ _ _, Inventory.restores_unmark _ _ _⟩

/-- Between the beginning of a termination and its answer the server is removed, inserted in another
state and marked by a second termination. A success of the first one takes it out all the same; a
failure restores the state that the first one found, at the end of the list where it stands now. -/
theorem replaced_server_is_restored :
    ∃ run call,
      Reached { maxListings := 0, defaultName := "vpn" } run
        ∧ run.alive = true
        ∧ call ∈ run.terminations
        ∧ run.entries.map (fun entry => (entry.id, entry.toInstance.lifecycle))
          = [("i-2", .running), ("i-1", .terminating)]
        ∧ (run.inventory.settleTerminate run.alive call (.ok ())).1.value.entries.map Entry.id
          = ["i-2"]
        ∧ (run.inventory.settleTerminate run.alive call (.error "busy")).1.value.entries.map
            (fun entry => (entry.id, entry.toInstance.lifecycle))
          = [("i-2", .running), ("i-1", .running)]
        ∧ ∃ start server, Reached { maxListings := 0, defaultName := "vpn" } start
          ∧ start.inventory.lookup? call.id = some (.confirmed server)
          ∧ Restores call.id server.lifecycle run.entries
            (run.inventory.settleTerminate run.alive call (.error "busy")).1.value.entries := by
  let server : Instance :=
    { id := "i-1", name := "vpn", lifecycle := .running, publicV4 := "198.51.100.1",
      publicV6 := none, region := "eu-1" }
  let call : Termination := { id := "i-1", region := "eu-1", previous := .running }
  have inserted : Reached { maxListings := 0, defaultName := "vpn" } _ :=
    (Relation.ReflTransGen.refl.tail (Step.insert _ server)).tail
      (Step.insert _ { server with id := "i-2" })
  have begun := inserted.tail (@Step.beginTerminate _ "i-1" _ call rfl)
  have replaced := (begun.tail (Step.remove _ "i-1")).tail
    (Step.insert _ { server with lifecycle := .error })
  have marked := replaced.tail (@Step.beginTerminate _ "i-1" _ _ rfl)
  obtain ⟨run, reached, halive, hcall, hbefore, hsuccess, hfailure⟩ :
      ∃ run, Reached { maxListings := 0, defaultName := "vpn" } run
        ∧ run.alive = true
        ∧ call ∈ run.terminations
        ∧ run.entries.map (fun entry => (entry.id, entry.toInstance.lifecycle))
          = [("i-2", .running), ("i-1", .terminating)]
        ∧ (run.inventory.settleTerminate run.alive call (.ok ())).1.value.entries.map Entry.id
          = ["i-2"]
        ∧ (run.inventory.settleTerminate run.alive call (.error "busy")).1.value.entries.map
            (fun entry => (entry.id, entry.toInstance.lifecycle))
          = [("i-2", .running), ("i-1", .running)] :=
    ⟨_, marked, rfl, List.mem_cons_self, by decide, by decide, by decide⟩
  obtain ⟨start, -, found, hstart, -, -, -, hlookup, -, hfailed⟩ :=
    termination_settles_alone reached halive hcall
  exact ⟨run, call, reached, halive, hcall, hbefore, hsuccess, hfailure, start, found, hstart,
    hlookup, (hfailed "busy").2.2⟩

end InventoryRun
end VpnFleet
