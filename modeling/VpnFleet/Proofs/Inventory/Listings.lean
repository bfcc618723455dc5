import Mathlib.Data.List.Forall2
import Mathlib.Data.List.TakeWhile
import VpnFleet.Inventory.Sweep
import VpnFleet.Proofs.Keyed

/-!
# The listings of a sweep

A sweep asks for its regions in order, so at any time its slots are those it
has begun, and behind them the regions it has not asked for.

* `Sweep.Split` says this of a sweep. The lemmas below it say what the window,
  the next question and the end of the sweep are for such a sweep.
* `RefreshReport.inSequence` is the report of listing one region after the
  other, each server taken in unless its identifier is known. A sweep whose
  answers came in any order comes to the same report.
* `Instance.ListedAs` says field by field what a listed record becomes. The
  servers of the report are the records of `RefreshReport.listed` in this form,
  the first of each identifier.
-/

namespace VpnFleet

namespace Slot

/-- The place of a region that was not asked for. -/
def fresh (region : String) : Slot where
  region := region
  state := .waiting

theorem isAsked_of_begun
    {slot : Slot} (hbegun : slot.isWaiting = false) (hopen : slot.isAnswered = false) :
    slot.isAsked = true := by
  rcases slot with ⟨region, state⟩
  cases state with
  | waiting => cases hbegun
  | asked => rfl
  | answered listing => cases hopen

theorem isAnswered_of_isAsked {slot : Slot} (h : slot.isAsked = true) :
    slot.isAnswered = false := by
  rcases slot with ⟨region, state⟩
  cases state with
  | answered listing => cases h
  | _ => rfl

end Slot

namespace Sweep

/-- The number of listings under way. -/
def outstanding (sweep : Sweep) : Nat :=
  sweep.slots.countP Slot.isAsked

/-- The slots that were begun, and the regions that are still to be asked for. -/
structure Split (sweep : Sweep) (begun : List Slot) (rest : List String) : Prop where
  slots : sweep.slots = begun ++ rest.map Slot.fresh
  isBegun : ∀ slot ∈ begun, slot.isWaiting = false

variable {sweep : Sweep} {begun : List Slot} {rest : List String} {region : String}

theorem split_ofRegions (maxListings : Nat) (regions : List String) :
    (ofRegions maxListings regions).Split [] regions where
  slots := rfl
  isBegun := by simp

/-- Answered slots leave the window from the front alone. -/
theorem length_dropWhile_modify_le
    {f : Slot → Slot} (hf : ∀ slot, slot.isAnswered = true → (f slot).isAnswered = true)
    (slots : List Slot) (i : Nat) :
    ((slots.modify i f).dropWhile Slot.isAnswered).length
      ≤ (slots.dropWhile Slot.isAnswered).length := by
  induction slots generalizing i with
  | nil => simp
  | cons slot slots ih =>
    cases i with
    | zero =>
      rw [List.modify_zero_cons]
      by_cases hslot : slot.isAnswered = true
      · rw [List.dropWhile_cons_of_pos (hf slot hslot), List.dropWhile_cons_of_pos hslot]
      · rw [List.dropWhile_cons_of_neg hslot]
        exact (List.dropWhile_sublist _).length_le
    | succ i =>
      rw [List.modify_succ_cons]
      by_cases hslot : slot.isAnswered = true
      · rw [List.dropWhile_cons_of_pos hslot, List.dropWhile_cons_of_pos hslot]
        exact ih i
      · rw [List.dropWhile_cons_of_neg hslot, List.dropWhile_cons_of_neg hslot]
        simp

namespace Split

theorem inWindow_eq (h : sweep.Split begun rest) :
    sweep.inWindow = (begun.dropWhile Slot.isAnswered).length := by
  have hrest : (rest.map Slot.fresh).filter (fun slot => !slot.isWaiting) = [] := by
    simp [Slot.fresh, Slot.isWaiting]
  have hheld : (begun.dropWhile Slot.isAnswered).filter (fun slot => !slot.isWaiting)
      = begun.dropWhile Slot.isAnswered := by
    rw [List.filter_eq_self]
    intro slot hslot
    rw [h.isBegun slot (List.dropWhile_subset _ hslot)]
    rfl
  have hopen : (rest.map Slot.fresh).dropWhile Slot.isAnswered = rest.map Slot.fresh := by
    cases rest with
    | nil => rfl
    | cons region rest => rfl
  unfold inWindow unconsumed
  rw [h.slots, List.dropWhile_append]
  split
  · next hempty =>
      have hconsumed : begun.dropWhile Slot.isAnswered = [] := by
        simpa using hempty
      rw [hopen, hrest, hconsumed]
  · rw [List.filter_append, hrest, List.append_nil, hheld]

theorem outstanding_eq (h : sweep.Split begun rest) :
    sweep.outstanding = begun.countP Slot.isAsked := by
  have hrest : (rest.map Slot.fresh).countP Slot.isAsked = 0 := by
    simp [List.countP_eq_zero, Slot.fresh, Slot.isAsked]
  unfold outstanding
  rw [h.slots, List.countP_append, hrest, Nat.add_zero]

/-- Every listing under way takes room in the window. -/
theorem outstanding_le_inWindow (h : sweep.Split begun rest) :
    sweep.outstanding ≤ sweep.inWindow := by
  rw [h.outstanding_eq, h.inWindow_eq]
  have hconsumed : (begun.takeWhile Slot.isAnswered).countP Slot.isAsked = 0 := by
    rw [List.countP_eq_zero]
    intro slot hslot hasked
    have hanswered := List.mem_takeWhile_imp hslot
    rw [Slot.isAnswered_of_isAsked hasked] at hanswered
    cases hanswered
  calc begun.countP Slot.isAsked
      = (begun.takeWhile Slot.isAnswered).countP Slot.isAsked
          + (begun.dropWhile Slot.isAnswered).countP Slot.isAsked := by
        rw [← List.countP_append, List.takeWhile_append_dropWhile]
    _ = (begun.dropWhile Slot.isAnswered).countP Slot.isAsked := by
        rw [hconsumed, Nat.zero_add]
    _ ≤ (begun.dropWhile Slot.isAnswered).length := List.countP_le_length

theorem findIdx?_isWaiting (h : sweep.Split begun rest) :
    sweep.slots.findIdx? Slot.isWaiting = if rest = [] then none else some begun.length := by
  have hbegun : begun.findIdx? Slot.isWaiting = none := List.findIdx?_eq_none_iff.2 h.isBegun
  rw [h.slots, List.findIdx?_append, hbegun, Option.none_or]
  cases rest with
  | nil => rfl
  | cons region rest => simp [Slot.fresh, Slot.isWaiting, List.findIdx?_cons]

/-- The next listing is that of the first region that was not asked for, if there is room. -/
theorem next?_eq_some_iff (h : sweep.Split begun rest) {i : Nat} :
    sweep.next? = some (i, region)
      ↔ sweep.inWindow < sweep.window ∧ i = begun.length ∧ rest.head? = some region := by
  unfold next?
  rw [h.findIdx?_isWaiting]
  by_cases hroom : sweep.window ≤ sweep.inWindow
  · simp [hroom, Nat.not_lt.2 hroom]
  · cases rest with
    | nil => simp [hroom]
    | cons first rest =>
      have hslot : sweep.slots[begun.length]? = some (Slot.fresh first) := by
        rw [h.slots, List.getElem?_append_right (Nat.le_refl _)]
        simp
      simp [hroom, hslot, Nat.lt_of_not_le hroom, Slot.fresh, eq_comm]

theorem ask (h : sweep.Split begun (region :: rest)) :
    (sweep.ask begun.length).Split (begun ++ [{ region, state := .asked }]) rest where
  slots := by
    show sweep.slots.modify _ _ = _
    rw [h.slots, List.modify_eq_take_drop]
    simp [Slot.fresh]
  isBegun := by
    intro slot hslot
    rcases List.mem_append.1 hslot with hold | hnew
    · exact h.isBegun slot hold
    · obtain rfl := List.mem_singleton.1 hnew
      rfl

theorem inWindow_ask_le (h : sweep.Split begun (region :: rest)) :
    (sweep.ask begun.length).inWindow ≤ sweep.inWindow + 1 := by
  rw [h.ask.inWindow_eq, h.inWindow_eq, List.dropWhile_append]
  split
  · simp [Slot.isAnswered]
  · simp

/-- A slot that is asked for is one of those that were begun. -/
theorem getElem?_begun
    (h : sweep.Split begun rest) {i : Nat} {slot : Slot}
    (found : sweep.slots[i]? = some slot) (asked : slot.isAsked = true) :
    begun[i]? = some slot := by
  rw [h.slots] at found
  by_cases hbegun : i < begun.length
  · rwa [List.getElem?_append_left hbegun] at found
  · rw [List.getElem?_append_right (Nat.le_of_not_lt hbegun)] at found
    obtain ⟨region, -, rfl⟩ := List.mem_map.1 (List.mem_of_getElem? found)
    cases asked

theorem answer
    (h : sweep.Split begun rest) {i : Nat} (hi : i < begun.length) (listing : Listing) :
    (sweep.answer i listing).Split
      (begun.modify i fun slot => { slot with state := .answered listing }) rest where
  slots := by
    show sweep.slots.modify _ _ = _
    rw [h.slots, Keyed.modify_append_of_lt hi]
  isBegun := by
    intro slot hslot
    rcases Keyed.mem_or_exists_of_mem_modify hslot with hold | ⟨old, -, rfl⟩
    · exact h.isBegun slot hold
    · rfl

theorem inWindow_answer_le
    (h : sweep.Split begun rest) {i : Nat} (hi : i < begun.length) (listing : Listing) :
    (sweep.answer i listing).inWindow ≤ sweep.inWindow := by
  rw [(h.answer hi listing).inWindow_eq, h.inWindow_eq]
  exact length_dropWhile_modify_le (fun _ _ => rfl) begun i

theorem isDone_iff (h : sweep.Split begun rest) :
    sweep.isDone = true ↔ rest = [] ∧ ∀ slot ∈ begun, slot.isAnswered = true := by
  unfold isDone
  rw [h.slots, List.all_append, Bool.and_eq_true, List.all_eq_true, List.all_eq_true]
  constructor
  · rintro ⟨hbegun, hrest⟩
    refine ⟨?_, hbegun⟩
    cases rest with
    | nil => rfl
    | cons region rest => cases hrest _ List.mem_cons_self
  · rintro ⟨rfl, hbegun⟩
    exact ⟨hbegun, by simp⟩

/-- While no listing is under way, the sweep is done or has room for the next one. -/
theorem isDone_or_next?_of_outstanding_eq_zero
    (h : sweep.Split begun rest) (hwindow : 0 < sweep.window) (hidle : sweep.outstanding = 0) :
    sweep.isDone = true ∨ sweep.next?.isSome = true := by
  have hanswered : ∀ slot ∈ begun, slot.isAnswered = true := by
    intro slot hslot
    by_contra hopen
    rw [h.outstanding_eq, List.countP_eq_zero] at hidle
    exact hidle slot hslot
      (Slot.isAsked_of_begun (h.isBegun slot hslot) (by simpa using hopen))
  cases rest with
  | nil => exact Or.inl (h.isDone_iff.2 ⟨rfl, hanswered⟩)
  | cons region rest =>
    right
    have hempty : begun.dropWhile Slot.isAnswered = [] := List.dropWhile_eq_nil_iff.2 hanswered
    have hroom : sweep.inWindow < sweep.window := by
      rw [h.inWindow_eq, hempty]
      exact hwindow
    rw [h.next?_eq_some_iff.2 ⟨hroom, rfl, rfl⟩]
    rfl

end Split
end Sweep

/-- A server shows a record as it was listed in a region. -/
structure Instance.ListedAs (server : Instance) (record : InstanceRecord)
    (region defaultName : String) : Prop where
  id : server.id = record.id
  region : server.region = region
  named : ∀ name, record.name = some name → Text.isBlank name = false → server.name = name
  unnamed : (∀ name, record.name = some name → Text.isBlank name = true) →
    server.name = defaultName
  lifecycle : server.lifecycle = Lifecycle.ofBackend record.state
  publicV4 : server.publicV4 = record.publicV4
  assigned : Text.isBlank record.publicV6 = false → server.publicV6 = some record.publicV6
  unassigned : Text.isBlank record.publicV6 = true → server.publicV6 = none

/-- There is one such server for each record and region. -/
theorem Instance.listedAs_iff
    {server : Instance} {record : InstanceRecord} {region defaultName : String} :
    server.ListedAs record region defaultName
      ↔ server = Instance.ofRecord record region defaultName := by
  constructor
  · intro h
    have hname : server.name = (record.name.bind Text.nonBlank).getD defaultName := by
      cases hgiven : record.name.bind Text.nonBlank with
      | none => exact h.unnamed (Text.bind_nonBlank_eq_none_iff.1 hgiven)
      | some name =>
        obtain ⟨hrecord, hnamed⟩ := Text.bind_nonBlank_eq_some_iff.1 hgiven
        exact h.named name hrecord hnamed
    have haddress : server.publicV6 = Text.nonBlank record.publicV6 := by
      cases hgiven : Text.nonBlank record.publicV6 with
      | none => exact h.unassigned (Text.nonBlank_eq_none_iff.1 hgiven)
      | some address =>
        obtain ⟨rfl, hassigned⟩ := Text.nonBlank_eq_some_iff.1 hgiven
        exact h.assigned hassigned
    unfold Instance.ofRecord
    rw [← h.id, ← hname, ← h.lifecycle, ← h.publicV4, ← haddress, ← h.region]
  · rintro rfl
    constructor
    case named =>
      intro name hrecord hnamed
      exact congrArg (Option.getD · defaultName)
        (Text.bind_nonBlank_eq_some_iff.2 ⟨hrecord, hnamed⟩)
    case unnamed =>
      intro hblank
      exact congrArg (Option.getD · defaultName) (Text.bind_nonBlank_eq_none_iff.2 hblank)
    case assigned => exact fun hassigned => Text.nonBlank_eq_some_iff.2 ⟨rfl, hassigned⟩
    case unassigned => exact Text.nonBlank_eq_none_iff.2
    all_goals simp only [Instance.ofRecord]

namespace RefreshReport

/-- A server comes behind the known ones unless its identifier is known. -/
def meet (known : List Instance) (server : Instance) : List Instance :=
  if known.any (fun other => other.id = server.id) then known else known ++ [server]

/-- One more region was listed, or could not be. -/
def take (defaultName : String) (report : RefreshReport) (region : String) :
    Listing → RefreshReport
  | .ok records =>
    { report with
      instances := records.foldl
        (fun known record => meet known (Instance.ofRecord record region defaultName))
        report.instances }
  | .error message => { report with failures := report.failures ++ [{ region, message }] }

/-- The report of listing regions one after the other. -/
def inSequence (defaultName : String) (answers : String → Listing) (regions : List String) :
    RefreshReport :=
  regions.foldl (fun report region => report.take defaultName region (answers region))
    { instances := [], failures := [] }

/-- The records of a listing, none of one that failed. -/
def recordsOf : Listing → List InstanceRecord
  | .ok records => records
  | .error _ => []

/-- The records that come back, region by region, each with the region it was listed in. -/
def listed (answers : String → Listing) (regions : List String) : List (InstanceRecord × String) :=
  regions.flatMap fun region => (recordsOf (answers region)).map fun record => (record, region)

/-- Taking servers in one after the other keeps the first of each identifier. -/
theorem foldl_meet (servers known : List Instance) :
    servers.foldl meet known
      = known ++ (firstOf Instance.id servers).filter
          fun server => !known.any fun other => other.id = server.id := by
  induction servers generalizing known with
  | nil => simp
  | cons server servers ih =>
    rw [List.foldl_cons, ih, firstOf_cons, List.filter_cons, List.filter_filter]
    unfold meet
    by_cases hknown : known.any (fun other => other.id = server.id) = true
    · rw [if_pos hknown, hknown]
      have hcovered : ∀ other ∈ firstOf Instance.id servers,
          (!known.any fun first => first.id = other.id)
            = ((!known.any fun first => first.id = other.id) && decide (other.id ≠ server.id)) := by
        intro other _
        by_cases hsame : other.id = server.id
        · simp only [hsame, hknown, Bool.not_true, Bool.false_and]
        · simp only [hsame, ne_eq, not_false_eq_true, decide_true, Bool.and_true]
      rw [List.filter_congr hcovered]
      rfl
    · have hnew : known.any (fun other => other.id = server.id) = false := by
        simpa using hknown
      have hapart : ∀ other ∈ firstOf Instance.id servers,
          (!(known ++ [server]).any fun first => first.id = other.id)
            = ((!known.any fun first => first.id = other.id) && decide (other.id ≠ server.id)) := by
        intro other _
        simp [List.any_append, eq_comm]
      rw [if_neg hknown, hnew, List.filter_congr hapart, List.append_assoc]
      rfl

/-- Listing one region after the other comes to what merging all listings at once comes to. -/
theorem inSequence_eq_ofListings
    (defaultName : String) (answers : String → Listing) (regions : List String) :
    inSequence defaultName answers regions
      = ofListings defaultName (regions.map fun region => (region, answers region)) := by
  have hfold (report : RefreshReport) :
      regions.foldl (fun report region => report.take defaultName region (answers region)) report
        = { instances :=
              (regions.flatMap fun region => instancesOf defaultName (region, answers region)).foldl
                meet report.instances
            failures :=
              report.failures
                ++ regions.filterMap fun region => failureOf (region, answers region) } := by
    induction regions generalizing report with
    | nil => simp
    | cons region regions ih =>
      rw [List.foldl_cons, ih, List.flatMap_cons, List.foldl_append, List.filterMap_cons]
      unfold take
      cases answers region with
      | ok records => simp [instancesOf, failureOf, List.foldl_map]
      | error message => simp [instancesOf, failureOf]
  unfold inSequence
  rw [hfold, foldl_meet]
  simp [ofListings, List.flatMap_map, List.filterMap_map]

/-- The report shows every record as it was listed, and of those with one identifier the first. -/
theorem exists_listedAs
    (defaultName : String) (answers : String → Listing) (regions : List String) :
    ∃ servers,
      List.Forall₂ (fun server place => Instance.ListedAs server place.1 place.2 defaultName)
          servers (listed answers regions)
        ∧ (inSequence defaultName answers regions).instances = firstOf Instance.id servers := by
  let shown (place : InstanceRecord × String) : Instance :=
    Instance.ofRecord place.1 place.2 defaultName
  have hshown (region : String) :
      ((recordsOf (answers region)).map fun record => (record, region)).map shown
        = instancesOf defaultName (region, answers region) := by
    cases answers region with
    | ok records => exact List.map_map
    | error message => rfl
  refine ⟨(listed answers regions).map shown, ?_, ?_⟩
  · rw [List.forall₂_map_left_iff, List.forall₂_same]
    intro place _
    exact Instance.listedAs_iff.2 rfl
  · rw [inSequence_eq_ofListings]
    unfold listed ofListings
    rw [List.map_flatMap, List.flatMap_map]
    simp only [hshown]

end RefreshReport
end VpnFleet
