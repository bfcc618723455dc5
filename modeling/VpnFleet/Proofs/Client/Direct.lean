import VpnFleet.Client.Direct
import VpnFleet.Proofs.Client.Moves

/-!
# Commands that run by themselves

What a command comes to on a backend that answers every call at once.

* `Next.complete` has one equation for each kind of operation.
* `Responder.listings` asks for some regions one after the other. A sweep of
  these regions ends with the same listings in the same order.
* A bootstrap asks for the regions; if that fails it is over, and otherwise it
  asks for the listings and for the status, whatever they are.
* `Responder.Respects` relates states of the backend that cannot be told apart
  by their answers. Runs on two such states come to the same.
-/

namespace VpnFleet

variable {σ : Type}

/-- The listings of some regions, asked for one after the other. -/
def Responder.listings (respond : Responder σ) :
    σ → List String → σ × List (String × Listing)
  | state, [] => (state, [])
  | state, region :: regions =>
    let (state, listing) := respond (.listInstances region) state
    let (state, listings) := Responder.listings respond state regions
    (state, (region, listing) :: listings)

namespace Slot

/-- A slot whose listing came back. -/
def ofListing (listing : String × Listing) : Slot where
  region := listing.1
  state := .answered listing.2

end Slot

namespace Sweep

variable (respond : Responder σ)

/-- The slots that are left are answered in order, behind those that are answered already. -/
theorem answerFrom_eq (done todo : List Slot) (sweep : Sweep) (state : σ)
    (hslots : sweep.slots = done ++ todo) :
    answerFrom respond state sweep done.length todo
      = ((respond.listings state (todo.map Slot.region)).1,
        { sweep with
          slots :=
            done ++ (respond.listings state (todo.map Slot.region)).2.map Slot.ofListing }) := by
  induction todo generalizing done sweep state with
  | nil =>
    rw [List.append_nil] at hslots
    simp [answerFrom, Responder.listings, ← hslots]
  | cons slot todo ih =>
    let answered : Slot :=
      { slot with state := .answered (respond (.listInstances slot.region) state).2 }
    have hmarked : (sweep.answer done.length
        (respond (.listInstances slot.region) state).2).slots = (done ++ [answered]) ++ todo := by
      show sweep.slots.modify done.length _ = _
      rw [hslots, Keyed.modify_append_cons, List.append_assoc]
      rfl
    have hrest := ih (done ++ [answered])
      (sweep.answer done.length (respond (.listInstances slot.region) state).2)
      (respond (.listInstances slot.region) state).1 hmarked
    rw [List.length_append, List.length_singleton, List.append_assoc] at hrest
    exact hrest

/-- A sweep that is answered at once ends with the listings of its regions. -/
theorem answerAll_ofRegions (state : σ) (maxListings : Nat) (regions : List String) :
    ((ofRegions maxListings regions).answerAll respond state).1
        = (respond.listings state regions).1
      ∧ ((ofRegions maxListings regions).answerAll respond state).2.listings
        = (respond.listings state regions).2 := by
  have hanswered := answerFrom_eq respond [] (ofRegions maxListings regions).slots
    (ofRegions maxListings regions) state rfl
  have hregions : (ofRegions maxListings regions).slots.map Slot.region = regions := by
    simp [ofRegions, Function.comp_def]
  rw [hregions] at hanswered
  unfold answerAll
  rw [List.length_nil] at hanswered
  rw [hanswered]
  refine ⟨rfl, ?_⟩
  unfold listings
  simp [List.filterMap_map, Function.comp_def, Slot.ofListing, Slot.answer?]

end Sweep

namespace Next

variable (respond : Responder σ) {yield : Yield} (client : Client) (state : σ)

@[simp]
theorem complete_finished (value : yield.Value) :
    (Next.finished value).complete respond client state = (client, state, value) := by
  rw [complete]

theorem complete_awaiting {call : Call} (resumption : Resumption call yield) :
    (Next.waiting (.awaiting call resumption)).complete respond client state
      = (resumption.settle client (respond call state).2).next.complete respond
          (resumption.settle client (respond call state).2).client (respond call state).1 := by
  rw [complete]

theorem complete_sweeping (sweep : Sweep) (goal : RefreshGoal yield) :
    (Next.waiting (.sweeping sweep goal)).complete respond client state
      = (client.settleSweep (sweep.answerAll respond state).2 goal).next.complete respond
          (client.settleSweep (sweep.answerAll respond state).2 goal).client
          (sweep.answerAll respond state).1 := by
  rw [complete]

theorem complete_draining :
    (Next.waiting .draining).complete respond client state
      = client.drained.next.complete respond client.drained.client state := by
  rw [complete]

end Next

namespace Turn

variable (respond : Responder σ) {yield : Yield} {turn : Turn yield} (state : σ)

theorem complete_of_finished {client : Client} {value : yield.Value}
    (h : turn = Turn.finished client value) :
    turn.next.complete respond turn.client state = (client, state, value) := by
  rw [h]
  exact Next.complete_finished respond client state value

theorem complete_of_awaiting {client : Client} {call : Call} {resumption : Resumption call yield}
    (h : turn = Turn.awaiting client call resumption) :
    turn.next.complete respond turn.client state
      = (resumption.settle client (respond call state).2).next.complete respond
          (resumption.settle client (respond call state).2).client (respond call state).1 := by
  rw [h]
  exact Next.complete_awaiting respond client state resumption

end Turn

/-- The codes of the listed regions, each once, in the order of their first occurrences. -/
def Catalog.codesOf (records : List RegionRecord) : List String :=
  firstOf id (records.map RegionRecord.name)

theorem Catalog.map_code_regionsOf (records : List RegionRecord) :
    (regionsOf records).map Region.code = codesOf records := by
  unfold regionsOf codesOf
  rw [map_key_firstOf, List.map_map]
  rfl

namespace Client

variable {respond : Responder σ} {client : Client} {state mid : σ}

/-- A bootstrap that cannot list the regions asks for nothing else. -/
theorem run_bootstrap_of_refused {message : String}
    (hrefused : respond .listRegions state = (mid, .error message)) :
    ∃ failed,
      Command.run respond client state .bootstrap
        = (failed, mid, .error (.catalog (.load message))) := by
  let loading : Client := { client with catalog := client.catalog.beginLoad }
  have hasked := Next.complete_awaiting respond loading state (.load .bootstrap)
  rw [hrefused] at hasked
  exact ⟨_, hasked.trans (Next.complete_finished respond _ mid _)⟩

/-- A bootstrap of a client that is alive goes on to the listings and to the status, and succeeds
whatever they come to. -/
theorem run_bootstrap_of_listed {records : List RegionRecord}
    (halive : client.alive = true)
    (hlisted : respond .listRegions state = (mid, .ok records)) :
    ∃ loaded report,
      Command.run respond client state .bootstrap
          = (loaded, (respond .status (respond.listings mid (Catalog.codesOf records)).1).1,
            .ok report)
        ∧ loaded.inventory.value.entries
          = Inventory.refreshed
              (RefreshReport.ofListings client.options.defaultName
                (respond.listings mid (Catalog.codesOf records)).2)
              client.inventory.value.entries
        ∧ loaded.tracker.value.connecting = client.tracker.value.connecting := by
  let regions := Catalog.regionsOf records
  let loading : Client := { client with catalog := client.catalog.beginLoad }
  let catalog := (loading.catalog.settleLoad client.alive (.ok records)).1
  let refreshing : Client :=
    { client with catalog, inventory := client.inventory.beginRefresh }
  let sweep := Sweep.ofRegions client.options.maxListings catalog.codes
  have hasked := Next.complete_awaiting respond loading state (.load .bootstrap)
  rw [hlisted] at hasked
  have hswept := Next.complete_sweeping respond refreshing mid sweep (.bootstrap regions.length)
  have hcodes : catalog.codes = Catalog.codesOf records := by
    show (loading.catalog.settleLoad client.alive (.ok records)).1.codes = _
    rw [halive]
    exact Catalog.map_code_regionsOf records
  obtain ⟨hstate, hlistings⟩ :
      (sweep.answerAll respond mid).1 = (respond.listings mid (Catalog.codesOf records)).1
        ∧ (sweep.answerAll respond mid).2.listings
          = (respond.listings mid (Catalog.codesOf records)).2 := by
    rw [← hcodes]
    exact Sweep.answerAll_ofRegions respond mid client.options.maxListings catalog.codes
  -- the refresh is settled and its failures are posted before the status is asked for
  let report := (sweep.answerAll respond mid).2.report client.options.defaultName
  let settled : Client :=
    { refreshing with inventory := refreshing.inventory.settleRefresh client.alive report }
  let posted := settled.postFailures report
  have hposted : settled.Keeps posted := settled.postFailures_keeps report
  have hqueried := Next.complete_awaiting respond posted (sweep.answerAll respond mid).1
    (.query posted.tracker.beginQuery (.bootstrap regions.length report))
  have hrun := ((hasked.trans hswept).trans hqueried).trans (Next.complete_finished respond _ _ _)
  rw [hstate] at hrun
  refine ⟨_, _, hrun, ?_, ?_⟩
  · have hreport : report = RefreshReport.ofListings client.options.defaultName
        (respond.listings mid (Catalog.codesOf records)).2 := by
      rw [← hlistings]
      rfl
    show posted.inventory.value.entries = _
    rw [hposted.inventory, Inventory.settleRefresh_entries, if_pos halive, hreport]
    rfl
  · refine (Tracker.settleQuery_keeps posted.tracker _ _ _ _).1.trans ?_
    rw [hposted.tracker]

section Servers

variable (respond state) {id : String} {server : Instance}

/-- A termination of what is not there asks for nothing. -/
theorem run_terminate_of_absent (h : client.inventory.lookup? id = none) :
    ∃ failed error,
      Command.run respond client state (.terminate id) = (failed, state, .error error) := by
  let error := ClientError.inventory (.unknownInstance id)
  have hturn : client.terminate id .noticed
      = (Turn.finished (client.postError .terminate error) (Except.error error) : Turn .unit) := by
    unfold terminate
    rw [Inventory.beginTerminate_of_absent h]
  exact ⟨_, _, Turn.complete_of_finished respond state hturn⟩

/-- A termination of a confirmed server asks for it and comes to what the backend says. -/
theorem run_terminate_of_confirmed (h : client.inventory.lookup? id = some (.confirmed server)) :
    ∃ after value,
      Command.run respond client state (.terminate id)
          = (after, (respond (.terminate id server.region) state).1, value)
        ∧ Except.isOk value = (respond (.terminate id server.region) state).2.isOk := by
  obtain ⟨inventory, hbegun, -⟩ := Inventory.beginTerminate_of_confirmed h
  have hturn : client.terminate id .noticed
      = Turn.awaiting { client with inventory } (.terminate id server.region)
        (.terminate { id, region := server.region, previous := server.lifecycle } .noticed) := by
    unfold terminate
    rw [hbegun]
  have hrun := Turn.complete_of_awaiting respond state hturn
  cases hanswer : (respond (.terminate id server.region) state).2 with
  | ok reply =>
    rw [hanswer] at hrun
    exact ⟨_, _, hrun.trans (Turn.complete_of_finished respond _ rfl), rfl⟩
  | error message =>
    rw [hanswer] at hrun
    exact ⟨_, _, hrun.trans (Turn.complete_of_finished respond _ rfl), rfl⟩

/-- An opening to what is not there asks for nothing. -/
theorem run_connect_of_absent (h : client.inventory.lookup? id = none) :
    ∃ failed error,
      Command.run respond client state (.connect id) = (failed, state, .error error) := by
  let error := ClientError.inventory (.unknownInstance id)
  have hturn : client.connect id
      = (Turn.finished (client.postError .connect error) (Except.error error) : Turn .session) := by
    unfold connect instance?
    rw [Inventory.find?_instances, h]
    rfl
  exact ⟨_, _, Turn.complete_of_finished respond state hturn⟩

theorem connect_of_confirmed (h : client.inventory.lookup? id = some (.confirmed server)) :
    client.connect id = client.openTunnel server .noticed := by
  unfold connect instance?
  rw [Inventory.find?_instances, h]
  rfl

/-- An opening to a server that is no end of a tunnel asks for nothing. -/
theorem run_connect_of_unfit {reason : NotConnectable}
    (h : client.inventory.lookup? id = some (.confirmed server))
    (hunfit : server.ensureConnectable = .error reason) :
    ∃ failed error,
      Command.run respond client state (.connect id) = (failed, state, .error error) := by
  let error := ClientError.session (.notConnectable server.id
    (InventoryError.ofNotConnectable server reason).message)
  have hturn : client.connect id
      = (Turn.finished (client.postError .connect error) (Except.error error) : Turn .session) := by
    rw [connect_of_confirmed h]
    unfold openTunnel Tracker.beginConnect
    rw [hunfit]
  exact ⟨_, _, Turn.complete_of_finished respond state hturn⟩

theorem settle_opened (client : Client) (id : String) (outcome : Except SessionError VpnSession) :
    ∃ after value,
      (QueryGoal.opened id).settle client outcome = Turn.finished after value
        ∧ Except.isOk value = outcome.isOk := by
  cases outcome <;> exact ⟨_, _, rfl, rfl⟩

/-- An opening to a server that can be the end of a tunnel asks for it, and for the status once the
tunnel is open. -/
theorem run_connect_of_confirmed
    (h : client.inventory.lookup? id = some (.confirmed server))
    (hready : server.ensureConnectable = .ok ())
    (hfree : client.tracker.value.connecting = none) :
    let opened := respond (.connect id server.region) state
    ∃ after value,
      Command.run respond client state (.connect id)
          = (after, if opened.2.isOk then (respond .status opened.1).1 else opened.1, value)
        ∧ Except.isOk value = (opened.2.isOk && (respond .status opened.1).2.isOk) := by
  obtain rfl : server.id = id := Inventory.id_of_lookup? h
  have hturn : client.connect server.id
      = Turn.awaiting { client with tracker := (client.tracker.beginConnect server).1 }
        (.connect server.id server.region) (.connect server .noticed) := by
    rw [connect_of_confirmed h]
    unfold openTunnel Tracker.beginConnect
    rw [hready, hfree]
  have hrun := Turn.complete_of_awaiting respond state hturn
  intro opened
  cases hanswer : opened.2 with
  | error message =>
    rw [hanswer] at hrun
    exact ⟨_, _, hrun.trans (Turn.complete_of_finished respond _ rfl), rfl⟩
  | ok reply =>
    rw [hanswer] at hrun
    -- the tunnel is open, and the status is asked for
    let after : Client := { client with
      tracker := ((client.tracker.beginConnect server).1.settleConnect client.alive server.id
        (.ok reply)).1 }
    have hquery := Turn.complete_of_awaiting respond opened.1
      (rfl : after.query (.opened server.id) = _)
    obtain ⟨last, value, hsettled, hvalue⟩ := settle_opened
      { after with
        tracker := (after.tracker.settleQuery after.alive after.inventory.value
          after.tracker.beginQuery (respond .status opened.1).2).1 }
      server.id
      (after.tracker.settleQuery after.alive after.inventory.value after.tracker.beginQuery
        (respond .status opened.1).2).2
    have hlast := Turn.complete_of_finished respond (respond .status opened.1).1 hsettled
    exact ⟨last, value, (hrun.trans hquery).trans hlast,
      hvalue.trans (Tracker.settleQuery_isOk after.tracker _ _ _ _)⟩

end Servers

end Client

/-- Two steps have the same outcome and lead to related states. -/
structure AgreeUpTo (R : σ → σ → Prop) {α : Type} (first second : σ × α) : Prop where
  same : first.2 = second.2
  related : R first.1 second.1

section Respects

/-- States that are related cannot be told apart by answers, now or later. -/
def Responder.Respects (respond : Responder σ) (R : σ → σ → Prop) : Prop :=
  ∀ call first second, R first second → AgreeUpTo R (respond call first) (respond call second)

variable {respond : Responder σ} {R : σ → σ → Prop} {first second : σ}

theorem Sweep.answerFrom_respects
    (hrespects : respond.Respects R) (h : R first second)
    (sweep : Sweep) (i : Nat) (slots : List Slot) :
    AgreeUpTo R (answerFrom respond first sweep i slots)
      (answerFrom respond second sweep i slots) := by
  induction slots generalizing sweep i first second with
  | nil => exact ⟨rfl, h⟩
  | cons slot slots ih =>
    obtain ⟨hlisting, hlater⟩ := hrespects (.listInstances slot.region) first second h
    have hrest := ih hlater
      (sweep.answer i (respond (.listInstances slot.region) first).2) (i + 1)
    unfold answerFrom
    dsimp only
    rw [← hlisting]
    exact hrest

theorem Sweep.answerAll_respects
    (hrespects : respond.Respects R) (h : R first second) (sweep : Sweep) :
    AgreeUpTo R (sweep.answerAll respond first) (sweep.answerAll respond second) :=
  answerFrom_respects hrespects h sweep 0 sweep.slots

/-- Runs on related states come to the same client and the same result. -/
theorem Next.complete_respects
    (hrespects : respond.Respects R) (h : R first second)
    {yield : Yield} (next : Next yield) (client : Client) :
    (next.complete respond client first).1 = (next.complete respond client second).1
      ∧ AgreeUpTo R (next.complete respond client first).2
        (next.complete respond client second).2 := by
  fun_induction Next.complete respond next client first generalizing second with
  | case1 yield client first value =>
    rw [complete_finished]
    exact ⟨rfl, rfl, h⟩
  | case2 yield call client first later answer hanswer resumption turn =>
    rename_i ih
    obtain ⟨hsame, hlater⟩ := hrespects call first second h
    rw [hanswer] at hsame hlater
    rw [complete_awaiting, ← hsame]
    exact ih hlater
  | case3 yield sweep client first later answered hanswered goal turn =>
    rename_i ih
    obtain ⟨hsame, hlater⟩ := Sweep.answerAll_respects hrespects h sweep
    rw [hanswered] at hsame hlater
    rw [complete_sweeping, ← hsame]
    exact ih hlater
  | case4 client first turn =>
    rename_i ih
    rw [complete_draining]
    exact ih h

end Respects
end VpnFleet
