import Mathlib.Logic.Relation
import VpnFleet.Proofs.Inventory.Listings
import VpnFleet.Proofs.Inventory.Run

/-!
# The result of a refresh

From its beginning to its report a refresh shares the inventory with any number
of other operations, and its listings come back in any order. Its report is
still the one of listing the regions one after the other.

* A `RefreshRun` is a run of an inventory with one of its refreshes in view.
* `RefreshRun.Step` is a step of the run as that refresh sees it: it asks for a
  listing, gets one, or stays as it is while something else happens.
* `RefreshRun.Orderly` holds of every state of such a run: the refresh has
  asked for its regions in order and has got the answers of the backend.
-/

namespace VpnFleet

/-- A run of an inventory with one of its refreshes in view. -/
structure RefreshRun where
  run : InventoryRun
  /-- Where the refresh stands among those under way. -/
  place : Nat
  /-- The regions whose listings it asked for, the oldest first. -/
  asked : List String
  /-- The regions whose listings it got, the oldest first. -/
  answered : List String

namespace RefreshRun

/-- Where a refresh stands after a step that is not its own. -/
inductive Elsewhere (place : Nat) (sweeps : List Sweep) : List Sweep → Nat → Prop
  | stay : Elsewhere place sweeps sweeps place
  | begin (sweep : Sweep) : Elsewhere place sweeps (sweeps ++ [sweep]) place
  | goOn {i : Nat} (sweep : Sweep) (other : i ≠ place) :
      Elsewhere place sweeps (sweeps.set i sweep) place
  | endBefore {i : Nat} (before : i < place) :
      Elsewhere place sweeps (sweeps.eraseIdx i) (place - 1)
  | endBehind {i : Nat} (behind : place < i) :
      Elsewhere place sweeps (sweeps.eraseIdx i) place

/-- A refresh begins in a run that has come to any state. -/
def begin (before : InventoryRun) (catalog : Catalog) : RefreshRun where
  run := { before.note (.beginRefresh catalog.codes) with
    inventory := before.inventory.beginRefresh
    sweeps := before.sweeps ++ [Sweep.ofRegions before.options.maxListings catalog.codes] }
  place := before.sweeps.length
  asked := []
  answered := []

def sweep? (view : RefreshRun) : Option Sweep :=
  view.run.sweeps[view.place]?

/-- The state after the refresh has asked for a listing, with its sweep as it is then. -/
def ask (view : RefreshRun) (region : String) (sweep : Sweep) : RefreshRun :=
  { view with
    run := { view.run.note (.askListing region) with
      sweeps := view.run.sweeps.set view.place sweep }
    asked := view.asked ++ [region] }

/-- The state after the refresh has got a listing, with its sweep as it is then. -/
def answer (view : RefreshRun) (region : String) (listing : Listing) (sweep : Sweep) :
    RefreshRun :=
  { view with
    run := { view.run.note (.answerListing region listing) with
      sweeps := view.run.sweeps.set view.place sweep }
    answered := view.answered ++ [region] }

/-- One step of the run, where the backend answers the refresh in view as `answers` says. -/
inductive Step (answers : String → Listing) : RefreshRun → RefreshRun → Prop
  | ask (view : RefreshRun) {slot : Nat} {sweep : Sweep} {region : String}
      (found : view.sweep? = some sweep)
      (next : sweep.next? = some (slot, region)) :
      Step answers view (view.ask region (sweep.ask slot))
  | answer (view : RefreshRun) {slot : Nat} {sweep : Sweep} {place : Slot}
      (found : view.sweep? = some sweep)
      (slotFound : sweep.slots[slot]? = some place)
      (asked : place.isAsked = true) :
      Step answers view (view.answer place.region (answers place.region)
        (sweep.answer slot (answers place.region)))
  | elsewhere (view : RefreshRun) {run : InventoryRun} {place : Nat}
      (step : InventoryRun.Step view.run run)
      (moved : Elsewhere view.place view.run.sweeps run.sweeps place) :
      Step answers view { view with run, place }

/-- The run after the refresh in view has come to its report. -/
def settled (view : RefreshRun) (report : RefreshReport) : InventoryRun :=
  { view.run.note (.settleRefresh report) with
    inventory := view.run.inventory.settleRefresh view.run.alive report
    sweeps := view.run.sweeps.eraseIdx view.place }

variable {answers : String → Listing} {view next : RefreshRun} {sweep : Sweep}

/-- Other operations leave the refresh in view. -/
theorem Elsewhere.getElem?_eq
    {place after : Nat} {sweeps later : List Sweep}
    (moved : Elsewhere place sweeps later after) (found : sweeps[place]? = some sweep) :
    later[after]? = some sweep := by
  have hplace : place < sweeps.length := (List.getElem?_eq_some_iff.1 found).1
  cases moved with
  | stay => exact found
  | begin other => rwa [List.getElem?_append_left hplace]
  | goOn other hother => rwa [List.getElem?_set_ne hother]
  | endBefore before =>
    rw [List.getElem?_eraseIdx_of_ge (by omega), Nat.sub_add_cancel (by omega)]
    exact found
  | endBehind behind => rwa [List.getElem?_eraseIdx_of_lt behind]

theorem ask_sweep? (found : view.sweep? = some sweep) (region : String) (later : Sweep) :
    (view.ask region later).sweep? = some later :=
  List.getElem?_set_self (List.getElem?_eq_some_iff.1 found).1

theorem answer_sweep?
    (found : view.sweep? = some sweep) (region : String) (listing : Listing) (later : Sweep) :
    (view.answer region listing later).sweep? = some later :=
  List.getElem?_set_self (List.getElem?_eq_some_iff.1 found).1

/-- Every step of the run is one that the refresh in view sees, unless it ends the refresh. -/
theorem exists_step_or_ends
    {run : InventoryRun} (step : InventoryRun.Step view.run run) :
    (∃ answers place asked answered, Step answers view { run, place, asked, answered })
      ∨ run.sweeps = view.run.sweeps.eraseIdx view.place := by
  have helsewhere {place : Nat}
      (moved : Elsewhere view.place view.run.sweeps run.sweeps place) :
      ∃ answers place asked answered, Step answers view { run, place, asked, answered } :=
    ⟨fun _ => .ok [], place, view.asked, view.answered, .elsewhere view step moved⟩
  have hended {i : Nat} (herased : run.sweeps = view.run.sweeps.eraseIdx i) :
      (∃ answers place asked answered, Step answers view { run, place, asked, answered })
        ∨ run.sweeps = view.run.sweeps.eraseIdx view.place := by
    rcases Nat.lt_trichotomy i view.place with hbefore | rfl | hbehind
    · exact Or.inl (helsewhere (herased ▸ Elsewhere.endBefore hbefore))
    · exact Or.inr herased
    · exact Or.inl (helsewhere (herased ▸ Elsewhere.endBehind hbehind))
  cases step with
  | beginRefresh catalog => exact Or.inl (helsewhere (.begin _))
  | @askListing i slot other region hother hnext =>
    by_cases hi : i = view.place
    · subst hi
      exact Or.inl ⟨fun _ => .ok [], _, _, _, .ask view hother hnext⟩
    · exact Or.inl (helsewhere (.goOn _ hi))
  | @answerListing i slot other place listing hother hslot hasked =>
    by_cases hi : i = view.place
    · subst hi
      exact Or.inl ⟨fun _ => listing, _, _, _, .answer view hother hslot hasked⟩
    · exact Or.inl (helsewhere (.goOn _ hi))
  | settleRefresh hother done => exact hended rfl
  | abandonRefresh hother => exact hended rfl
  | _ => exact Or.inl (helsewhere .stay)

/-- The refresh in view has asked for its regions in order, and its slots hold the answers that
came back. -/
structure Orderly (answers : String → Listing) (before : InventoryRun) (codes : List String)
    (view : RefreshRun) (sweep : Sweep) (begun : List Slot) (rest : List String) : Prop where
  found : view.sweep? = some sweep
  split : sweep.Split begun rest
  options : view.run.options = before.options
  window : sweep.window = (Sweep.ofRegions before.options.maxListings codes).window
  bounded : sweep.inWindow ≤ sweep.window
  faithful : ∀ slot ∈ begun, ∀ listing,
    slot.state = .answered listing → listing = answers slot.region
  asked : begun.map Slot.region = view.asked
  codes : view.asked ++ rest = codes
  answered : view.answered.Perm ((begun.filter Slot.isAnswered).map Slot.region)

theorem options_of_step {run later : InventoryRun} (step : InventoryRun.Step run later) :
    later.options = run.options := by
  cases step <;> rfl

section Orderly

variable {before : InventoryRun} {codes : List String} {begun : List Slot} {rest : List String}

theorem orderly_begin (before : InventoryRun) (catalog : Catalog) :
    Orderly answers before catalog.codes (begin before catalog)
      (Sweep.ofRegions before.options.maxListings catalog.codes) [] catalog.codes where
  found := by simp [sweep?, begin]
  split := Sweep.split_ofRegions _ _
  options := rfl
  window := rfl
  bounded := by
    rw [(Sweep.split_ofRegions _ _).inWindow_eq]
    exact Nat.zero_le _
  faithful := by simp
  asked := rfl
  codes := rfl
  answered := List.Perm.refl _

theorem Orderly.ask
    (h : Orderly answers before codes view sweep begun rest) {slot : Nat} {region : String}
    (hnext : sweep.next? = some (slot, region)) :
    ∃ later, Orderly answers before codes (view.ask region (sweep.ask slot)) (sweep.ask slot)
      (begun ++ [{ region, state := .asked }]) later := by
  obtain ⟨hroom, rfl, hhead⟩ := h.split.next?_eq_some_iff.1 hnext
  obtain ⟨later, rfl⟩ := List.head?_eq_some_iff.1 hhead
  refine ⟨later, ?_⟩
  constructor
  case found => exact ask_sweep? h.found _ _
  case split => exact h.split.ask
  case options => exact h.options
  case window => exact h.window
  case bounded =>
    have hgrown := h.split.inWindow_ask_le
    exact Nat.le_trans hgrown hroom
  case faithful =>
    intro other hother listing hstate
    rcases List.mem_append.1 hother with hold | hnew
    · exact h.faithful other hold listing hstate
    · obtain rfl := List.mem_singleton.1 hnew
      cases hstate
  case asked =>
    rw [List.map_append, h.asked]
    rfl
  case codes =>
    rw [← h.codes]
    exact List.append_assoc _ _ _
  case answered =>
    show view.answered.Perm _
    rw [List.filter_append]
    simpa [Slot.isAnswered] using h.answered

theorem Orderly.answer
    (h : Orderly answers before codes view sweep begun rest) {slot : Nat} {place : Slot}
    (hplace : sweep.slots[slot]? = some place) (hopen : place.isAsked = true) :
    Orderly answers before codes
      (view.answer place.region (answers place.region)
        (sweep.answer slot (answers place.region)))
      (sweep.answer slot (answers place.region))
      (begun.modify slot fun old => { old with state := .answered (answers place.region) })
      rest := by
  have hbegun : begun[slot]? = some place := h.split.getElem?_begun hplace hopen
  have hslot : slot < begun.length := (List.getElem?_eq_some_iff.1 hbegun).1
  constructor
  case found => exact answer_sweep? h.found _ _ _
  case split => exact h.split.answer hslot _
  case options => exact h.options
  case window => exact h.window
  case bounded => exact Nat.le_trans (h.split.inWindow_answer_le hslot _) h.bounded
  case faithful =>
    intro other hother listing hstate
    rw [List.modify_eq_set_getElem?, hbegun] at hother
    rcases List.mem_or_eq_of_mem_set hother with hold | rfl
    · exact h.faithful other hold listing hstate
    · cases hstate
      rfl
  case asked =>
    have hkept := Keyed.map_modify_eq (f := Slot.region)
      (g := fun old => { old with state := .answered (answers place.region) })
      (fun _ => rfl) begun slot
    exact hkept.trans h.asked
  case codes => exact h.codes
  case answered =>
    have hgrown := Keyed.perm_filter_map_modify hbegun
      (f := Slot.region) (p := Slot.isAnswered)
      (g := fun old => { old with state := .answered (answers place.region) })
      (Slot.isAnswered_of_isAsked hopen) rfl rfl
    exact (h.answered.append_right _).trans hgrown.symm

theorem Orderly.elsewhere
    (h : Orderly answers before codes view sweep begun rest) {run : InventoryRun} {place : Nat}
    (step : InventoryRun.Step view.run run)
    (moved : Elsewhere view.place view.run.sweeps run.sweeps place) :
    Orderly answers before codes { view with run, place } sweep begun rest :=
  { h with
    found := moved.getElem?_eq h.found
    options := (options_of_step step).trans h.options }

theorem Orderly.step
    (h : Orderly answers before codes view sweep begun rest) (step : Step answers view next) :
    ∃ sweep begun rest, Orderly answers before codes next sweep begun rest := by
  cases step with
  | ask found hnext =>
    obtain rfl := Option.some.inj (h.found.symm.trans found)
    obtain ⟨later, hlater⟩ := h.ask hnext
    exact ⟨_, _, later, hlater⟩
  | answer found hplace hopen =>
    obtain rfl := Option.some.inj (h.found.symm.trans found)
    exact ⟨_, _, _, h.answer hplace hopen⟩
  | elsewhere step moved => exact ⟨_, _, _, h.elsewhere step moved⟩

theorem exists_orderly
    {catalog : Catalog}
    (path : Relation.ReflTransGen (Step answers) (begin before catalog) view) :
    ∃ sweep begun rest, Orderly answers before catalog.codes view sweep begun rest := by
  induction path with
  | refl => exact ⟨_, _, _, orderly_begin before catalog⟩
  | tail _ step ih =>
    obtain ⟨_, _, _, h⟩ := ih
    exact h.step step

/-- Every listing that was asked for came back or is under way. -/
theorem Orderly.accounted (h : Orderly answers before codes view sweep begun rest) :
    view.answered.length + sweep.outstanding = view.asked.length := by
  have hopen : begun.countP (fun slot => decide ¬slot.isAnswered = true)
      = begun.countP Slot.isAsked := by
    apply List.countP_congr
    intro slot hslot
    constructor
    · intro hunanswered
      exact Slot.isAsked_of_begun (h.split.isBegun slot hslot) (by simpa using hunanswered)
    · intro hasked
      simp [Slot.isAnswered_of_isAsked hasked]
  rw [h.answered.length_eq, ← h.asked, List.length_map, List.length_map, h.split.outstanding_eq,
    ← List.countP_eq_length_filter, ← hopen]
  exact (List.length_eq_countP_add_countP Slot.isAnswered).symm

theorem Orderly.outstanding_le
    (h : Orderly answers before codes view sweep begun rest)
    (hcap : 0 < before.options.maxListings) :
    sweep.outstanding ≤ before.options.maxListings := by
  have hwindow : sweep.window = before.options.maxListings := by
    rw [h.window]
    exact if_neg (Nat.pos_iff_ne_zero.1 hcap)
  calc sweep.outstanding ≤ sweep.inWindow := h.split.outstanding_le_inWindow
    _ ≤ sweep.window := h.bounded
    _ = before.options.maxListings := hwindow

/-- A refresh that has not got all its listings waits for one or can ask for the next. -/
theorem Orderly.goesOn (h : Orderly answers before codes view sweep begun rest) :
    sweep.isDone = true ∨ sweep.next?.isSome = true ∨ 0 < sweep.outstanding := by
  have hwindow : 0 < sweep.window := by
    rw [h.window]
    unfold Sweep.ofRegions
    dsimp only
    split <;> omega
  rcases Nat.eq_zero_or_pos sweep.outstanding with hidle | hbusy
  · rcases h.split.isDone_or_next?_of_outstanding_eq_zero hwindow hidle with hdone | hnext
    · exact Or.inl hdone
    · exact Or.inr (Or.inl hnext)
  · exact Or.inr (Or.inr hbusy)

theorem Orderly.asked_eq
    (h : Orderly answers before codes view sweep begun rest) (done : sweep.isDone = true) :
    view.asked = codes ∧ view.answered.Perm codes := by
  obtain ⟨rfl, hanswered⟩ := h.split.isDone_iff.1 done
  have hcodes : view.asked = codes := by
    rw [← h.codes, List.append_nil]
  refine ⟨hcodes, ?_⟩
  have hperm := h.answered
  rwa [List.filter_eq_self.2 hanswered, h.asked, hcodes] at hperm

theorem Orderly.listings_eq
    (h : Orderly answers before codes view sweep begun rest) (done : sweep.isDone = true) :
    sweep.listings = codes.map fun region => (region, answers region) := by
  obtain ⟨rfl, hanswered⟩ := h.split.isDone_iff.1 done
  have hread : ∀ slot ∈ begun, slot.answer? = some (slot.region, answers slot.region) := by
    intro slot hslot
    rcases slot with ⟨region, state⟩
    cases state with
    | answered listing =>
      have hlisting := h.faithful _ hslot listing rfl
      rw [hlisting]
      rfl
    | waiting => cases hanswered _ hslot
    | asked => cases hanswered _ hslot
  unfold Sweep.listings
  rw [h.split.slots, List.map_nil, List.append_nil, List.filterMap_congr hread,
    List.filterMap_eq_map', ← (h.asked_eq done).1, ← h.asked, List.map_map]
  rfl

theorem Orderly.report_eq
    (h : Orderly answers before codes view sweep begun rest) (done : sweep.isDone = true)
    (defaultName : String) :
    sweep.report defaultName = RefreshReport.inSequence defaultName answers codes := by
  unfold Sweep.report
  rw [h.listings_eq done, RefreshReport.inSequence_eq_ofListings]

end Orderly

/-- A refresh asks for each region of its catalog once and in order, never for more at once than
it may, and does not get stuck. Whatever else happens, and in whatever order its listings come
back, it comes to the report of listing one region after the other, which shows every record as it
was listed and of those with one identifier the first. -/
theorem refresh_reports_in_catalog_order
    {before : InventoryRun} {catalog : Catalog} {records : List RegionRecord}
    (loaded : catalog.value = Catalog.loaded (Catalog.regionsOf records))
    (path : Relation.ReflTransGen (Step answers) (begin before catalog) view) :
    ∃ sweep,
      view.sweep? = some sweep
        ∧ catalog.codes.Nodup
        ∧ view.asked <+: catalog.codes
        ∧ view.answered.length + sweep.outstanding = view.asked.length
        ∧ (0 < before.options.maxListings → sweep.outstanding ≤ before.options.maxListings)
        ∧ (sweep.isDone = true ∨ sweep.next?.isSome = true ∨ 0 < sweep.outstanding)
        ∧ (sweep.isDone = true →
          let report := RefreshReport.inSequence before.options.defaultName answers catalog.codes
          view.asked = catalog.codes
            ∧ view.answered.Perm catalog.codes
            ∧ sweep.report view.run.options.defaultName = report
            ∧ (∃ servers,
              List.Forall₂
                  (fun server place =>
                    Instance.ListedAs server place.1 place.2 before.options.defaultName)
                  servers (RefreshReport.listed answers catalog.codes)
                ∧ report.instances = firstOf Instance.id servers)
            ∧ InventoryRun.Step view.run (view.settled report)
            ∧ (view.run.alive = true →
              (view.settled report).entries
                  = report.instances.map Entry.confirmed ++ view.run.entries.filter Entry.isPending
                ∧ (view.settled report).inventory.value.failedRegions = report.failedRegions)) := by
  obtain ⟨sweep, begun, rest, h⟩ := exists_orderly path
  have hdistinct : catalog.codes.Nodup := by
    unfold Catalog.codes
    rw [loaded]
    exact nodup_map_firstOf Region.code _
  refine ⟨sweep, h.found, hdistinct, ⟨rest, h.codes⟩, h.accounted, h.outstanding_le, h.goesOn, ?_⟩
  intro done
  obtain ⟨hasked, hanswered⟩ := h.asked_eq done
  have hreport : sweep.report view.run.options.defaultName
      = RefreshReport.inSequence before.options.defaultName answers catalog.codes := by
    rw [h.options]
    exact h.report_eq done _
  refine ⟨hasked, hanswered, hreport, RefreshReport.exists_listedAs _ _ _, ?_, ?_⟩
  · rw [← hreport]
    exact .settleRefresh view.run h.found done
  · intro halive
    unfold settled InventoryRun.entries
    rw [halive]
    exact ⟨rfl, rfl⟩

/-- A backend with two servers in three regions. Both regions that answer list the first server. -/
def twoServers : String → Listing
  | "eu-1" => .ok [
      { id := "i-1", name := some "office", state := " Running ", publicV4 := "198.51.100.1",
        publicV6 := "2001:db8::1", region := some "eu-9" }]
  | "us-1" => .ok [
      { id := "i-1", name := none, state := "pending", publicV4 := "", publicV6 := "",
        region := none },
      { id := "i-2", name := some " ", state := "stopping", publicV4 := "198.51.100.2",
        publicV6 := " ", region := none }]
  | _ => .error "throttled"

/-- Of three listings, at most two at a time, the second comes first and the third fails, while a
spawn begins; a server that is listed twice stands where it was listed first. -/
theorem three_listings_two_at_a_time :
    ∃ (before : InventoryRun) (catalog : Catalog) (view : RefreshRun) (sweep : Sweep),
      catalog.value = Catalog.loaded (Catalog.regionsOf
          [{ name := "eu-1", country := "Ireland" }, { name := "us-1", country := "Ohio" },
            { name := "ap-1", country := "Tokyo" }])
        ∧ before.options = { maxListings := 2, defaultName := "vpn" }
        ∧ Relation.ReflTransGen (Step twoServers) (begin before catalog) view
        ∧ view.answered = ["us-1", "eu-1", "ap-1"]
        ∧ view.sweep? = some sweep
        ∧ view.asked = catalog.codes
        ∧ (sweep.report "vpn").failures = [{ region := "ap-1", message := "throttled" }]
        ∧ (view.settled (sweep.report "vpn")).entries =
          [.confirmed
              { id := "i-1", name := "office", lifecycle := .running, publicV4 := "198.51.100.1",
                publicV6 := some "2001:db8::1", region := "eu-1" },
            .confirmed
              { id := "i-2", name := "vpn", lifecycle := .terminating, publicV4 := "198.51.100.2",
                publicV6 := none, region := "us-1" },
            .pending { tempId := "pending-1", region := "eu-1", name := "vpn" }]
        ∧ (view.settled (sweep.report "vpn")).inventory.value.failedRegions = ["ap-1"] := by
  let catalog : Catalog := Published.new (Catalog.loaded
    [{ code := "eu-1", country := "Ireland" }, { code := "us-1", country := "Ohio" },
      { code := "ap-1", country := "Tokyo" }])
  let before := InventoryRun.new { maxListings := 2, defaultName := "vpn" }
  have asked : Relation.ReflTransGen (Step twoServers) (begin before catalog) _ :=
    (Relation.ReflTransGen.refl.tail (@Step.ask twoServers _ 0 _ _ rfl rfl)).tail
      (@Step.ask twoServers _ 1 _ _ rfl rfl)
  have second := asked.tail (@Step.answer twoServers _ 1 _ _ rfl rfl rfl)
  have spawned := second.tail (Step.elsewhere _
    (InventoryRun.Step.beginSpawn _ catalog "pending-1" "eu-1" rfl) .stay)
  have first := spawned.tail (@Step.answer twoServers _ 0 _ _ rfl rfl rfl)
  have last := (first.tail (@Step.ask twoServers _ 2 _ _ rfl rfl)).tail
    (@Step.answer twoServers _ 2 _ _ rfl rfl rfl)
  have loaded : catalog.value = Catalog.loaded (Catalog.regionsOf
      [{ name := "eu-1", country := "Ireland" }, { name := "us-1", country := "Ohio" },
        { name := "ap-1", country := "Tokyo" }]) := rfl
  obtain ⟨sweep, found, -, -, -, -, -, settled⟩ := refresh_reports_in_catalog_order loaded last
  obtain rfl := Option.some.inj found
  obtain ⟨hasked, -, hreport, -, -, hentries⟩ := settled (by decide)
  obtain ⟨hstanding, hfailed⟩ := hentries rfl
  rw [← hreport] at hstanding hfailed
  refine ⟨before, catalog, _, _, loaded, rfl, last, rfl, found, hasked, ?_, ?_, ?_⟩
  · decide
  · exact hstanding.trans (by decide)
  · exact hfailed.trans (by decide)

end RefreshRun
end VpnFleet
