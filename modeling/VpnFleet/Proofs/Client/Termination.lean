import VpnFleet.Proofs.Client.Aftermath

/-!
# A terminated server is no end of a tunnel

The session carries a copy of its server, and answers that were asked for
before a termination come in after it. Still a server that was terminated is
not shown as the end of a tunnel, because every operation that writes a
resolved session looks it up in the inventory of the same step.

* A termination that succeeds leaves no entry with the identifier and looks the
  session up: the client is `Without` the server.
* It stays so, whatever runs, until a step adds an entry with the identifier.
-/

namespace VpnFleet

namespace InventorySnapshot

variable {inventory : InventorySnapshot} {id : String}

theorem contains_eq_false_iff :
    inventory.contains id = false ↔ ∀ entry ∈ inventory.entries, entry.id ≠ id := by
  simp [contains]

end InventorySnapshot

/-- A session that agrees with the inventory is not resolved to a server that is not there. -/
theorem VpnSession.AgreesWith.id_ne
    {session : VpnSession} {inventory : InventorySnapshot} {id : String} {server : Instance}
    (h : session.AgreesWith inventory) (habsent : inventory.contains id = false)
    (hsession : session = .connected server true) :
    server.id ≠ id := by
  subst hsession
  have hentry : Entry.confirmed server ∈ inventory.entries := h
  exact InventorySnapshot.contains_eq_false_iff.1 habsent _ hentry

namespace Client

/-- No entry carries the identifier, and no resolved tunnel ends there. -/
structure Without (client : Client) (id : String) : Prop where
  absent : client.inventory.value.contains id = false
  unresolved : ∀ server, client.tracker.session = .connected server true → server.id ≠ id

/-- Between the two an entry with the identifier came into the inventory. -/
def Adds (client next : Client) (id : String) : Prop :=
  client.inventory.value.contains id = false ∧ next.inventory.value.contains id = true

variable {client next : Client} {id : String}

theorem Without.move
    (h : client.Without id) (move : client.Move next) (hadds : ¬ client.Adds next id) :
    next.Without id := by
  have habsent : next.inventory.value.contains id = false := by
    cases hcontains : next.inventory.value.contains id with
    | false => rfl
    | true => exact absurd ⟨h.absent, hcontains⟩ hadds
  refine ⟨habsent, ?_⟩
  intro server hsession
  rcases move.tracker.session_cases with hsame | hagrees
  · rw [hsame] at hsession
    exact h.unresolved server hsession
  · exact hagrees.id_ne habsent hsession

end Client

/-- A termination that succeeds while the client is alive. -/
theorem Resumption.settleTerminate_without
    {client : Client} (halive : client.alive = true) (termination : Termination) :
    (settleTerminate client termination .noticed (.ok ())).client.Without termination.id := by
  let settled : Client :=
    { client with
      inventory := (client.inventory.settleTerminate client.alive termination (.ok ())).1 }
  have habsent : settled.inventory.value.contains termination.id = false := by
    rw [InventorySnapshot.contains_eq_false_iff, Inventory.settleTerminate_ok_entries, halive]
    intro entry hentry
    simpa using (List.mem_filter.1 hentry).2
  have hagrees : settled.reconcile.tracker.session.AgreesWith settled.inventory.value :=
    VpnSession.reconciled_agrees settled.inventory.value settled.tracker.session
  exact ⟨habsent, fun server hsession => hagrees.id_ne habsent hsession⟩

namespace ClientRun

/-- A step that adds no entry with the identifier. -/
structure AddsNone (id : String) (run next : ClientRun) : Prop where
  step : Step run next
  none : ¬ run.client.Adds next.client id

variable {run terminated later : ClientRun} {id : String}

theorem without_of_path
    (h : run.client.Without id) (path : Relation.ReflTransGen (AddsNone id) run later) :
    later.client.Without id := by
  induction path with
  | refl => exact h
  | tail _ quiet ih => exact ih.move quiet.step.move quiet.none

/-- **Termination.** Once a termination has succeeded on a live client, the session is not resolved
to the server, whatever runs and is answered, until an entry with its identifier is added. -/
theorem terminated_server_is_not_resolved
    {termination : Termination}
    (halive : run.client.alive = true)
    (succeeded : Settlement run (.command (.terminate termination .noticed) (.ok ())) terminated)
    (path : Relation.ReflTransGen (AddsNone termination.id) terminated later) :
    ∀ server, later.client.tracker.session = .connected server true →
      server.id ≠ termination.id := by
  have hwithout : terminated.client.Without termination.id := by
    cases succeeded with
    | command answer found =>
      rw [follow_client]
      exact Resumption.settleTerminate_without halive termination
  exact (without_of_path hwithout path).unresolved

/-- A tunnel that was being opened when its server was terminated is open afterwards, and only what
the backend reported of it is shown. -/
theorem tunnel_to_terminated_server_is_not_resolved :
    ∃ (run terminated later : ClientRun) (termination : Termination) (server : Instance),
      Reached Settings.default 0 run
        ∧ run.client.alive = true
        ∧ Settlement run (.command (.terminate termination .noticed) (.ok ())) terminated
        ∧ Relation.ReflTransGen (AddsNone termination.id) terminated later
        ∧ later.client.tracker.session = .connected server false
        ∧ server.id = termination.id
        ∧ ∀ server, later.client.tracker.session = .connected server true →
          server.id ≠ termination.id := by
  let server : Instance :=
    { id := "i-1", name := "vpn", lifecycle := .running, publicV4 := "198.51.100.1",
      publicV6 := none, region := "eu-1" }
  let termination : Termination := { id := "i-1", region := "eu-1", previous := .running }
  let opening : Job := ⟨.session, .awaiting (.connect "i-1" "eu-1") (.connect server .silent), none⟩
  let listed : ClientRun := { new Settings.default 0 with
    client := { Client.new Settings.default 0 with inventory := Inventory.empty.insert server } }
  let client : Client :=
    { listed.client with
      inventory := (listed.client.inventory.beginTerminate "i-1").1
      tracker := {
        value := { session := .disconnected, connecting := some "i-1", lastError := none, epoch := 1 }
        version := 1 } }
  let run : ClientRun :=
    { listed with
      client := client
      jobs := [opening, ⟨.unit, .awaiting _ (.terminate termination .noticed), none⟩] }
  let terminated : ClientRun :=
    { listed with
      client := (Resumption.settleTerminate client termination .noticed (.ok ())).client
      jobs := [opening] }
  have begun := ((Relation.ReflTransGen.refl.tail
    (Step.insert (new Settings.default 0) server)).tail (Step.start listed (.openTunnel
      { id := "i-1", name := "vpn", lifecycle := .running, publicV4 := "198.51.100.1",
        publicV6 := none, region := "eu-1" }))).tail (Step.start _ (.terminate "i-1"))
  have reached : Reached Settings.default 0 run := begun
  have succeeded : Settlement run (.command (.terminate termination .noticed) (.ok ())) terminated :=
    @Settlement.command run 1 .unit _ (.terminate termination .noticed) none (.ok ()) rfl
  -- the tunnel is open, and the status query that follows reports it
  have opened : Relation.ReflTransGen (AddsNone "i-1") terminated _ :=
    Relation.ReflTransGen.refl.tail
      ⟨@Step.settle terminated 0 .session _ (.connect server .silent) none (.ok ()) rfl,
        fun adds => nomatch adds.2⟩
  have path := opened.tail
    ⟨@Step.settle _ 0 .session .status (.query 2 .silent) none
        (.ok { connected := true, instanceId := some "i-1", publicV4 := none, publicV6 := none })
        rfl,
      fun adds => nomatch adds.2⟩
  have hresolved := terminated_server_is_not_resolved rfl succeeded path
  exact ⟨run, terminated, _, termination, _, reached, rfl, succeeded, path, rfl, rfl, hresolved⟩

end ClientRun
end VpnFleet
