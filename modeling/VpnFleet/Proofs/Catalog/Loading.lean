import Mathlib.Logic.Relation
import VpnFleet.Proofs.Catalog.Grouping
import VpnFleet.Proofs.Parts

/-!
# Runs of a catalog

Any number of loadings of one catalog may be under way at once, and the backend
may answer them in any order. A loading writes the status where it begins, and
regions, groups and status together where it is answered.

* `Catalog.Consistent` says how the parts of a catalog belong together, and
  `Catalog.HoldsLoaded` when it may hold regions. Every move keeps both.
* A `CatalogRun` is a catalog with the number of loadings under way, and
  `CatalogRun.Step` one step of one of them.
* While the client is alive, an answer leaves the catalog loaded or failed, so a
  catalog that is loading has a loading under way that began after the last
  answer (`CatalogRun.Reached.loads_pos`).
-/

namespace VpnFleet

namespace Catalog

/-- The groups are those of the regions, of which no two have one code. -/
structure Consistent (catalog : Catalog) : Prop where
  groups : catalog.value.groups = Region.grouped catalog.value.regions
  distinct : (catalog.value.regions.map Region.code).Nodup

/-- Only a catalog that is loaded or being loaded holds regions. -/
def HoldsLoaded (catalog : Catalog) : Prop :=
  catalog.value.regions ≠ [] → catalog.value.status = .ready ∨ catalog.value.status = .loading

variable {alive : Bool} {catalog next : Catalog}

theorem consistent_empty : empty.Consistent where
  groups := by simp [empty, Published.new, Region.grouped, Region.sorted, Region.continentNames]
  distinct := List.nodup_nil

/-- What an answer is turned into is consistent, and the catalog stays where it is discarded. -/
theorem Consistent.settleLoad (h : catalog.Consistent)
    (alive : Bool) (answer : Except String (List RegionRecord)) :
    (catalog.settleLoad alive answer).1.Consistent := by
  cases alive with
  | false => cases answer <;> exact h
  | true =>
    cases answer with
    | ok records => exact ⟨rfl, nodup_map_firstOf Region.code _⟩
    | error message => exact ⟨consistent_empty.groups, List.nodup_nil⟩

theorem Move.consistent (move : Move alive catalog next) (h : catalog.Consistent) :
    next.Consistent := by
  cases move with
  | stay => exact h
  | beginLoad => exact ⟨h.groups, h.distinct⟩
  | settleLoad answer => exact h.settleLoad alive answer

theorem settleLoad_holdsLoaded (h : catalog.HoldsLoaded)
    (alive : Bool) (answer : Except String (List RegionRecord)) :
    (catalog.settleLoad alive answer).1.HoldsLoaded := by
  cases alive with
  | false => cases answer <;> exact h
  | true =>
    cases answer with
    | ok records => exact fun _ => Or.inl rfl
    | error message => exact fun hregions => absurd rfl hregions

theorem Move.holdsLoaded (move : Move alive catalog next) (h : catalog.HoldsLoaded) :
    next.HoldsLoaded := by
  cases move with
  | stay => exact h
  | beginLoad => exact fun _ => Or.inr rfl
  | settleLoad answer => exact settleLoad_holdsLoaded h alive answer

/-- An answer that is applied ends the loading that the catalog shows. -/
theorem settleLoad_status_ne_loading
    (catalog : Catalog) (answer : Except String (List RegionRecord)) :
    (catalog.settleLoad true answer).1.value.status ≠ .loading := by
  cases answer <;> exact nofun

/-- A catalog that was never loaded, or could not be, is empty. -/
theorem Consistent.eq_nil (h : catalog.Consistent) (hholds : catalog.HoldsLoaded)
    (hunloaded : catalog.value.status = .idle
      ∨ ∃ message, catalog.value.status = .failed message) :
    catalog.value.regions = [] ∧ catalog.value.groups = [] := by
  have hregions : catalog.value.regions = [] := by
    by_contra hsome
    have hloaded := hholds hsome
    rcases hunloaded with hidle | ⟨message, hfailed⟩
    · simp [hidle] at hloaded
    · simp [hfailed] at hloaded
  refine ⟨hregions, ?_⟩
  rw [h.groups, hregions]
  exact consistent_empty.groups.symm

end Catalog

/-- A catalog with the loadings under way. -/
structure CatalogRun where
  catalog : Catalog
  alive : Bool
  /-- The number of loadings that the backend has not answered. -/
  loads : Nat

namespace CatalogRun

/-- A catalog that nobody has loaded. -/
def new : CatalogRun where
  catalog := Catalog.empty
  alive := true
  loads := 0

/-- One step of one loading, or the teardown of the client. No loading is given up. -/
inductive Step : CatalogRun → CatalogRun → Prop
  | beginLoad (run : CatalogRun) :
      Step run { run with
        catalog := run.catalog.beginLoad
        loads := run.loads + 1 }
  | settleLoad (run : CatalogRun)
      (answer : Except String (List RegionRecord))
      (pending : 0 < run.loads) :
      Step run { run with
        catalog := (run.catalog.settleLoad run.alive answer).1
        loads := run.loads - 1 }
  | retire (run : CatalogRun) :
      Step run { run with alive := false }

def Reached (run : CatalogRun) : Prop :=
  Relation.ReflTransGen Step new run

variable {run next : CatalogRun}

theorem Step.move (step : Step run next) : Catalog.Move run.alive run.catalog next.catalog := by
  cases step with
  | beginLoad => exact .beginLoad
  | settleLoad answer pending => exact .settleLoad answer
  | retire => exact .stay

theorem Reached.consistent (reached : Reached run) : run.catalog.Consistent := by
  induction reached with
  | refl => exact Catalog.consistent_empty
  | tail _ step ih => exact step.move.consistent ih

theorem Reached.holdsLoaded (reached : Reached run) : run.catalog.HoldsLoaded := by
  induction reached with
  | refl => exact fun hregions => absurd rfl hregions
  | tail _ step ih => exact step.move.holdsLoaded ih

theorem Reached.loads_pos (reached : Reached run) :
    run.alive = true → run.catalog.value.status = .loading → 0 < run.loads := by
  induction reached with
  | refl =>
    intro _ hloading
    cases hloading
  | tail _ step ih =>
    intro halive hloading
    cases step with
    | beginLoad => exact Nat.succ_pos _
    | settleLoad answer pending =>
      -- the answer of a live client is applied, so the status is not loading any more
      dsimp only at halive hloading
      rw [halive] at hloading
      exact absurd hloading (Catalog.settleLoad_status_ne_loading _ answer)
    | retire => cases halive

/-- **Catalog.** However loadings overlap, before and after the teardown of the client: the groups
are those of the regions, no two regions have one code, and a catalog that was never loaded or
could not be holds neither regions nor groups. While the client is alive, a catalog that is loading
has a loading under way. -/
theorem catalog_belongs_together (reached : Reached run) :
    run.catalog.value.groups = Region.grouped run.catalog.value.regions
      ∧ (run.catalog.value.regions.map Region.code).Nodup
      ∧ (run.catalog.value.status = .idle
          ∨ (∃ message, run.catalog.value.status = .failed message) →
        run.catalog.value.regions = [] ∧ run.catalog.value.groups = [])
      ∧ (run.alive = true → run.catalog.value.status = .loading → 0 < run.loads) := by
  have hconsistent := reached.consistent
  exact ⟨hconsistent.groups, hconsistent.distinct, hconsistent.eq_nil reached.holdsLoaded,
    reached.loads_pos⟩

/-- Three loadings overlap: the first answer lists one code twice, the second one is a failure, and
the third one comes after the teardown and is not applied. -/
theorem answers_to_three_loadings :
    ∃ listed failed retired,
      Reached listed ∧ listed.loads = 2
        ∧ listed.catalog.value.status = .ready
        ∧ listed.catalog.value.regions = [⟨"eu-1", "Germany"⟩, ⟨"us-1", "USA"⟩]
        ∧ listed.catalog.value.groups = Region.grouped listed.catalog.value.regions
      ∧ Reached failed ∧ failed.loads = 1
        ∧ failed.catalog.value.status = .failed "down"
        ∧ failed.catalog.value.regions = [] ∧ failed.catalog.value.groups = []
      ∧ Reached retired ∧ retired.alive = false ∧ retired.loads = 0
        ∧ retired.catalog.value.status = .failed "down"
        ∧ retired.catalog.value.regions = [] := by
  have begun : Reached _ :=
    ((Relation.ReflTransGen.refl.tail (Step.beginLoad new)).tail (Step.beginLoad _)).tail
      (Step.beginLoad _)
  have listed := begun.tail (Step.settleLoad _
    (.ok [⟨"eu-1", "Germany"⟩, ⟨"us-1", "USA"⟩, ⟨"eu-1", "Elsewhere"⟩]) (by decide))
  have failed := listed.tail (Step.settleLoad _ (.error "down") (by decide))
  have retired := (failed.tail (Step.retire _)).tail
    (Step.settleLoad _ (.ok [⟨"us-1", "USA"⟩]) (by decide))
  have hempty := (catalog_belongs_together failed).2.2.1 (Or.inr ⟨"down", rfl⟩)
  exact ⟨_, _, _, listed, rfl, rfl, rfl, (catalog_belongs_together listed).1,
    failed, rfl, rfl, hempty.1, hempty.2, retired, rfl, rfl, rfl, rfl⟩

end CatalogRun
end VpnFleet
