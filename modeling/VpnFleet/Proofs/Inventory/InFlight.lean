import VpnFleet.Proofs.Inventory.Run

/-!
# Refreshes under way

Refreshes of one inventory may overlap, and each may come to its report or be
given up at any time. The inventory shows that it is being refreshed until the
last of them has ended.

* Only the operations of a refresh touch the counter and the flag. For every
  other operation `Inventory.refreshes` is the same before and after.
* `Inventory.Counts` ties the flag to the counter. A refresh that ends is one of
  those that are counted, so there is always one to take off.
* The history alone says how many refreshes began and how many ended.
-/

namespace VpnFleet
namespace Inventory

variable {inventory next : Inventory} {n : Nat}

/-- What the inventory shows of its refreshes: their number, and whether there is one. -/
def refreshes (inventory : Inventory) : Nat × Bool :=
  (inventory.value.inFlight, inventory.value.refreshing)

section Others

@[simp]
theorem edit_refreshes (inventory : Inventory) (f : List Entry → List Entry) :
    (inventory.edit f).refreshes = inventory.refreshes := rfl

@[simp]
theorem shrink_refreshes (inventory : Inventory) (f : List Entry → List Entry) :
    (inventory.shrink f).refreshes = inventory.refreshes := by
  unfold shrink
  split <;> rfl

theorem beginSpawn_refreshes
    {catalog : Catalog} {options : InventoryOptions}
    {tempId region : String} {placeholder : Placeholder}
    (h : inventory.beginSpawn catalog options tempId region = .ok (next, placeholder)) :
    next.refreshes = inventory.refreshes := by
  obtain ⟨-, rfl⟩ := beginSpawn_eq_edit h
  exact edit_refreshes inventory _

@[simp]
theorem settleSpawn_refreshes
    (inventory : Inventory) (alive : Bool) (placeholder : Placeholder)
    (answer : Except String SpawnedRecord) :
    (inventory.settleSpawn alive placeholder answer).1.refreshes = inventory.refreshes := by
  cases answer <;> cases alive <;> rfl

@[simp]
theorem discard_refreshes (inventory : Inventory) (alive : Bool) (tempId : String) :
    (inventory.discard alive tempId).refreshes = inventory.refreshes := by
  cases alive with
  | false => rfl
  | true => exact shrink_refreshes inventory _

@[simp]
theorem beginTerminate_refreshes (inventory : Inventory) (id : String) :
    (inventory.beginTerminate id).1.refreshes = inventory.refreshes := by
  unfold beginTerminate
  split
  · rfl
  · split <;> rfl

@[simp]
theorem unmark_refreshes (inventory : Inventory) (call : Termination) (error : InventoryError) :
    (inventory.unmark call error).refreshes = inventory.refreshes := by
  unfold unmark refreshes
  rw [Published.modify_value]
  split <;> rfl

@[simp]
theorem settleTerminate_refreshes
    (inventory : Inventory) (alive : Bool) (call : Termination) (answer : Except String Unit) :
    (inventory.settleTerminate alive call answer).1.refreshes = inventory.refreshes := by
  cases alive with
  | false => cases answer <;> rfl
  | true =>
    cases answer with
    | ok reply => exact shrink_refreshes inventory _
    | error message => exact unmark_refreshes inventory call _

@[simp]
theorem insert_refreshes (inventory : Inventory) (server : Instance) :
    (inventory.insert server).refreshes = inventory.refreshes := rfl

@[simp]
theorem remove_refreshes (inventory : Inventory) (id : String) :
    (inventory.remove id).1.refreshes = inventory.refreshes := by
  unfold remove
  split <;> rfl

end Others

/-- The counter stands at this number, and the flag says whether the number is positive. -/
def Counts (inventory : Inventory) (n : Nat) : Prop :=
  inventory.refreshes = (n, decide (0 < n))

theorem Counts.inFlight (h : inventory.Counts n) : inventory.value.inFlight = n :=
  congrArg Prod.fst h

theorem Counts.refreshing_iff (h : inventory.Counts n) :
    inventory.value.refreshing = true ↔ 0 < n := by
  have hflag : inventory.value.refreshing = decide (0 < n) := congrArg Prod.snd h
  rw [hflag, decide_eq_true_iff]

theorem Counts.congr (h : inventory.Counts n) (hsame : next.refreshes = inventory.refreshes) :
    next.Counts n :=
  hsame.trans h

theorem Counts.begin (h : inventory.Counts n) : inventory.beginRefresh.Counts (n + 1) := by
  have hcounted : inventory.beginRefresh.refreshes = (inventory.value.inFlight + 1, true) := rfl
  unfold Counts
  rw [hcounted, h.inFlight, decide_eq_true (Nat.succ_pos n)]

theorem Counts.endRefresh (h : inventory.Counts (n + 1)) : inventory.endRefresh.Counts n := by
  have hcounted : inventory.endRefresh.refreshes
      = (inventory.value.inFlight - 1, decide (0 < inventory.value.inFlight - 1)) := rfl
  unfold Counts
  rw [hcounted, h.inFlight, Nat.add_sub_cancel]

/-- A refresh that comes to its report ends, whether the report is applied or not. -/
theorem Counts.settle (h : inventory.Counts (n + 1)) (alive : Bool) (report : RefreshReport) :
    (inventory.settleRefresh alive report).Counts n := by
  cases alive with
  | false => exact h.endRefresh
  | true =>
    have happlied : (inventory.applyRefresh report).Counts (n + 1) := h
    exact happlied.endRefresh

end Inventory

namespace InventoryEvent

def beginsRefresh : InventoryEvent → Bool
  | beginRefresh _ => true
  | _ => false

/-- A refresh comes to its report or is given up. -/
def endsRefresh : InventoryEvent → Bool
  | settleRefresh _ => true
  | abandonRefresh => true
  | _ => false

end InventoryEvent

namespace InventoryHistory

/-- How many refreshes began. -/
def begunRefreshes (past : InventoryHistory) : Nat :=
  past.countP InventoryEvent.beginsRefresh

/-- How many refreshes ended. -/
def endedRefreshes (past : InventoryHistory) : Nat :=
  past.countP InventoryEvent.endsRefresh

variable (past : InventoryHistory) (event : InventoryEvent)

theorem begunRefreshes_concat :
    begunRefreshes (past ++ [event]) = past.begunRefreshes + event.beginsRefresh.toNat := by
  unfold begunRefreshes
  rw [List.countP_append]
  cases hbegins : event.beginsRefresh <;> simp [hbegins]

theorem endedRefreshes_concat :
    endedRefreshes (past ++ [event]) = past.endedRefreshes + event.endsRefresh.toNat := by
  unfold endedRefreshes
  rw [List.countP_append]
  cases hends : event.endsRefresh <;> simp [hends]

end InventoryHistory

namespace InventoryRun

variable {options : InventoryOptions} {run next : InventoryRun} {event : InventoryEvent}

/-- The inventory counts the refreshes under way, and these are the ones that began and did not
end. -/
structure RefreshesCounted (run : InventoryRun) : Prop where
  counts : run.inventory.Counts run.sweeps.length
  history : run.sweeps.length + run.past.endedRefreshes = run.past.begunRefreshes

/-- An event that neither begins nor ends a refresh. -/
theorem RefreshesCounted.keep
    (h : run.RefreshesCounted)
    (hpast : next.past = run.past ++ [event])
    (hbegins : event.beginsRefresh = false) (hends : event.endsRefresh = false)
    (hsame : next.inventory.refreshes = run.inventory.refreshes)
    (hsweeps : next.sweeps.length = run.sweeps.length) :
    next.RefreshesCounted where
  counts := by
    rw [hsweeps]
    exact h.counts.congr hsame
  history := by
    rw [hsweeps, hpast, InventoryHistory.begunRefreshes_concat,
      InventoryHistory.endedRefreshes_concat, hbegins, hends]
    exact h.history

/-- An event that ends one of the refreshes under way takes one off the counter. -/
theorem RefreshesCounted.close
    (h : run.RefreshesCounted)
    {i : Nat} {sweep : Sweep} (found : run.sweeps[i]? = some sweep)
    (hpast : next.past = run.past ++ [event])
    (hbegins : event.beginsRefresh = false) (hends : event.endsRefresh = true)
    (hsweeps : next.sweeps = run.sweeps.eraseIdx i)
    (hcounts : ∀ n, run.inventory.Counts (n + 1) → next.inventory.Counts n) :
    next.RefreshesCounted ∧ next.sweeps.length + 1 = run.sweeps.length := by
  have hi : i < run.sweeps.length := (List.getElem?_eq_some_iff.1 found).1
  have hless : next.sweeps.length + 1 = run.sweeps.length := by
    rw [hsweeps, List.length_eraseIdx_of_lt hi]
    omega
  refine ⟨⟨?counts, ?history⟩, hless⟩
  case counts =>
    refine hcounts _ ?_
    rw [hless]
    exact h.counts
  case history =>
    have hhistory := h.history
    rw [hpast, InventoryHistory.begunRefreshes_concat, InventoryHistory.endedRefreshes_concat,
      hbegins, hends]
    simp only [Bool.toNat_true, Bool.toNat_false]
    omega

/-- A step keeps the count, and takes one off where a refresh ends. -/
theorem RefreshesCounted.step
    (h : run.RefreshesCounted) (step : Step run next) (hpast : next.past = run.past ++ [event]) :
    next.RefreshesCounted
      ∧ (event.endsRefresh = true → next.sweeps.length + 1 = run.sweeps.length) := by
  have hkeep {other : InventoryEvent} (hother : next.past = run.past ++ [other])
      (hbegins : other.beginsRefresh = false) (hends : other.endsRefresh = false)
      (hsame : next.inventory.refreshes = run.inventory.refreshes)
      (hsweeps : next.sweeps.length = run.sweeps.length) :
      next.RefreshesCounted
        ∧ (event.endsRefresh = true → next.sweeps.length + 1 = run.sweeps.length) := by
    obtain rfl : other = event := by simpa using hother.symm.trans hpast
    exact ⟨h.keep hother hbegins hends hsame hsweeps, fun hended => by simp [hends] at hended⟩
  cases step with
  | beginRefresh catalog =>
    obtain rfl : .beginRefresh catalog.codes = event := by simpa [note] using hpast
    refine ⟨⟨?_, ?_⟩, nofun⟩
    · show Inventory.Counts _ (run.sweeps ++ [_]).length
      rw [List.length_append]
      exact h.counts.begin
    · have hhistory := h.history
      show (run.sweeps ++ [_]).length + InventoryHistory.endedRefreshes (run.past ++ [_])
        = InventoryHistory.begunRefreshes (run.past ++ [_])
      rw [InventoryHistory.begunRefreshes_concat, InventoryHistory.endedRefreshes_concat,
        List.length_append]
      simp only [InventoryEvent.beginsRefresh, InventoryEvent.endsRefresh, Bool.toNat_true,
        Bool.toNat_false, List.length_singleton]
      omega
  | askListing found next => exact hkeep rfl rfl rfl rfl (by simp)
  | answerListing listing found slotFound asked => exact hkeep rfl rfl rfl rfl (by simp)
  | settleRefresh found done =>
    refine And.imp_right (fun hless _ => hless) (h.close found rfl rfl rfl rfl ?_)
    exact fun _ hcounts => hcounts.settle run.alive _
  | abandonRefresh found =>
    refine And.imp_right (fun hless _ => hless) (h.close found rfl rfl rfl rfl ?_)
    exact fun _ hcounts => hcounts.endRefresh
  | beginSpawn catalog tempId region accepted =>
    exact hkeep rfl rfl rfl (Inventory.beginSpawn_refreshes accepted) rfl
  | settleSpawn answer found asked =>
    exact hkeep rfl rfl rfl (Inventory.settleSpawn_refreshes _ _ _ _) rfl
  | discard found => exact hkeep rfl rfl rfl (Inventory.discard_refreshes _ _ _) rfl
  | beginTerminate id accepted =>
    have hsame := run.inventory.beginTerminate_refreshes id
    rw [accepted] at hsame
    exact hkeep rfl rfl rfl hsame rfl
  | refuseTerminate id refused =>
    have hsame := run.inventory.beginTerminate_refreshes id
    rw [refused] at hsame
    exact hkeep rfl rfl rfl hsame rfl
  | settleTerminate answer found =>
    exact hkeep rfl rfl rfl (Inventory.settleTerminate_refreshes _ _ _ _) rfl
  | insert server => exact hkeep rfl rfl rfl (Inventory.insert_refreshes _ _) rfl
  | remove id => exact hkeep rfl rfl rfl (Inventory.remove_refreshes _ _) rfl
  | _ => exact hkeep rfl rfl rfl rfl rfl

theorem Reached.refreshesCounted (reached : Reached options run) : run.RefreshesCounted := by
  induction reached with
  | refl => exact ⟨rfl, rfl⟩
  | tail _ step ih =>
    obtain ⟨event, hpast⟩ := step.exists_past_eq
    exact (ih.step step hpast).1

/-- **Refreshing.** In every run, before a teardown and after it, the counter is the number of
refreshes that began and did not end, and the flag is set exactly if there is one. Where a refresh
ends, with its report or without one, the counter falls by one, so there is one to take off. -/
theorem flag_follows_refreshes (reached : Reached options run) :
    run.inventory.value.inFlight = run.sweeps.length
      ∧ run.inventory.value.inFlight + run.past.endedRefreshes = run.past.begunRefreshes
      ∧ (run.inventory.value.refreshing = true
        ↔ run.past.endedRefreshes < run.past.begunRefreshes)
      ∧ ∀ event next, Step run next → next.past = run.past ++ [event] →
        event.endsRefresh = true →
          next.inventory.value.inFlight + 1 = run.inventory.value.inFlight := by
  have h := reached.refreshesCounted
  have hinFlight := h.counts.inFlight
  have hhistory := h.history
  refine ⟨hinFlight, ?_, ?_, ?_⟩
  · rw [hinFlight]
    exact hhistory
  · rw [h.counts.refreshing_iff]
    omega
  · intro event next step hpast hends
    obtain ⟨hnext, hless⟩ := h.step step hpast
    rw [hnext.counts.inFlight, hinFlight]
    exact hless hends

/-- Two refreshes overlap and the first one is given up after a teardown; the flag stays until the
other one comes to its report, which is not applied any more. -/
theorem flag_outlasts_an_abandoned_refresh :
    ∃ run last : InventoryRun,
      Reached { maxListings := 0, defaultName := "vpn" } run
        ∧ run.alive = false
        ∧ run.past.begunRefreshes = 2
        ∧ run.inventory.value.inFlight = 1
        ∧ run.inventory.value.refreshing = true
        ∧ Step run last
        ∧ last.inventory.value.inFlight = 0
        ∧ last.inventory.value.refreshing = false := by
  have overlapping : Reached { maxListings := 0, defaultName := "vpn" } _ :=
    ((Relation.ReflTransGen.refl.tail (Step.beginRefresh _ Catalog.empty)).tail
      (Step.beginRefresh _ Catalog.empty)).tail (Step.retire _)
  obtain ⟨run, reached, hretired, hbegun, hended, hlength, hfound⟩ :
      ∃ run : InventoryRun,
        Reached { maxListings := 0, defaultName := "vpn" } run
          ∧ run.alive = false
          ∧ run.past.begunRefreshes = 2
          ∧ run.past.endedRefreshes = 1
          ∧ run.sweeps.length = 1
          ∧ run.sweeps[0]? = some (Sweep.ofRegions 0 []) :=
    ⟨_, overlapping.tail (@Step.abandonRefresh _ 0 _ rfl), rfl, rfl, rfl, rfl, rfl⟩
  have settling := Step.settleRefresh run hfound rfl
  obtain ⟨hinFlight, -, hflag, hends⟩ := flag_follows_refreshes reached
  obtain ⟨-, hcounted, hcleared, -⟩ := flag_follows_refreshes (reached.tail settling)
  have hless := hends _ _ settling rfl rfl
  rw [hinFlight, hlength] at hless
  refine ⟨run, _, reached, hretired, hbegun, hinFlight.trans hlength, ?_, settling,
    Nat.succ.inj hless, ?_⟩
  · rw [hflag, hbegun, hended]
    decide
  · rw [← Bool.not_eq_true, hcleared]
    omega

end InventoryRun
end VpnFleet
