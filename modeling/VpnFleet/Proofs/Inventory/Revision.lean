import VpnFleet.Proofs.Inventory.Moves
import VpnFleet.Proofs.Inventory.Run

/-!
# The revision stands for the entries

Watchers of an inventory compare revisions and skip what they have seen. That
is sound because no two lists of entries share a revision along a run.

* A step of a run is one move of the inventory.
* A move keeps the entries with their revision or raises the revision, and so
  does a run, whether the client is alive or torn down.
-/

namespace VpnFleet
namespace InventoryRun

variable {run next later : InventoryRun}

theorem Step.move (step : Step run next) :
    Inventory.Move run.alive run.inventory next.inventory := by
  cases step with
  | beginRefresh catalog => exact .beginRefresh
  | settleRefresh found done => exact .settleRefresh _
  | abandonRefresh found => exact .endRefresh
  | beginSpawn catalog tempId region accepted => exact .beginSpawn accepted
  | settleSpawn answer found asked => exact .settleSpawn _ answer
  | discard found => exact .discard _
  | beginTerminate id accepted =>
    have hmoved : Inventory.Move run.alive run.inventory (run.inventory.beginTerminate id).1 :=
      .beginTerminate id
    rw [accepted] at hmoved
    exact hmoved
  | refuseTerminate id refused =>
    have hmoved : Inventory.Move run.alive run.inventory (run.inventory.beginTerminate id).1 :=
      .beginTerminate id
    rw [refused] at hmoved
    exact hmoved
  | settleTerminate answer found => exact .settleTerminate _ answer
  | insert server => exact .insert server
  | remove id => exact .remove id
  | _ => exact .stay

theorem advances_of_path (path : Relation.ReflTransGen Step run later) :
    Inventory.Advances run.inventory later.inventory := by
  induction path with
  | refl => exact Inventory.Advances.refl run.inventory
  | tail _ step ih => exact ih.trans step.move.advances

/-- **Revision.** Along a run the revision never falls, two states with the same revision have the
same entries, and a step that changes the entries raises it. -/
theorem revision_stands_for_entries (path : Relation.ReflTransGen Step run later) :
    run.inventory.value.revision ≤ later.inventory.value.revision
      ∧ (later.inventory.value.revision = run.inventory.value.revision →
        later.entries = run.entries)
      ∧ ∀ next, Step later next → next.entries ≠ later.entries →
        later.inventory.value.revision < next.inventory.value.revision := by
  have hadvances := advances_of_path path
  refine ⟨hadvances.revision_le, hadvances.entries_eq, ?_⟩
  intro next step hchanged
  rcases step.move.advances with ⟨hentries, -⟩ | hgrown
  · exact absurd hentries hchanged
  · exact hgrown

/-- A refused termination restores the entries under a new revision; one that is refused after a
teardown restores nothing and leaves the revision. -/
theorem restored_mark_has_its_own_revision :
    ∃ listed restored retired refused : InventoryRun,
      Reached { maxListings := 0, defaultName := "vpn" } listed
        ∧ Relation.ReflTransGen Step listed restored
        ∧ restored.entries = listed.entries
        ∧ listed.inventory.value.revision = 1
        ∧ restored.inventory.value.revision = 3
        ∧ Relation.ReflTransGen Step listed retired
        ∧ Relation.ReflTransGen Step retired refused
        ∧ refused.inventory.value.revision = retired.inventory.value.revision
        ∧ refused.entries = retired.entries
        ∧ retired.entries ≠ listed.entries := by
  let server : Instance :=
    { id := "i-1", name := "vpn", lifecycle := .running, publicV4 := "198.51.100.1",
      publicV6 := none, region := "eu-1" }
  let listed : InventoryRun :=
    { new { maxListings := 0, defaultName := "vpn" } with
      inventory := Inventory.empty.insert server
      past := [.insert server] }
  let call : Termination := { id := "i-1", region := "eu-1", previous := .running }
  let marked : InventoryRun :=
    { listed.note (.beginTerminate call) with
      inventory := (listed.inventory.beginTerminate "i-1").1
      terminations := [call] }
  have reached : Reached { maxListings := 0, defaultName := "vpn" } listed :=
    Relation.ReflTransGen.refl.tail (Step.insert _ server)
  have terminating : Relation.ReflTransGen Step listed marked :=
    Relation.ReflTransGen.refl.tail (@Step.beginTerminate _ "i-1" _ _ rfl)
  have restored := terminating.tail (@Step.settleTerminate marked 0 call (.error "busy") rfl)
  have refused : Relation.ReflTransGen Step { marked.note .retire with alive := false } _ :=
    Relation.ReflTransGen.refl.tail (@Step.settleTerminate _ 0 call (.error "busy") rfl)
  have hsame := (revision_stands_for_entries refused).2.1 rfl
  exact ⟨listed, _, _, _, reached, restored, rfl, rfl, rfl, terminating.tail (Step.retire marked),
    refused, rfl, hsame, by decide⟩

end InventoryRun
end VpnFleet
