import VpnFleet.Proofs.Catalog.Loading
import VpnFleet.Proofs.Client.Publishing
import VpnFleet.Proofs.Client.Rejections

/-!
# The region of a spawn

A spawn names a region, and whether the region is looked up in the catalog
depends on how far the catalog is: only a loaded one is asked. A catalog that is
loaded again still holds the regions of before, but it counts as loading, so a
region that it does not list is let through until the answer comes.

* A catalog that holds regions is loaded or being loaded
  (`Catalog.HoldsLoaded`). Every move of the catalog keeps this.
* `Client.beginSpawn_eq_ok_iff` says when a spawn is accepted and everything that
  it changes.
-/

namespace VpnFleet

namespace Client

variable {client next : Client} {region : String} {placeholder : Placeholder}

/-- The placeholder that a spawn puts up. -/
def placeholderOf (client : Client) (region : String) : Placeholder where
  tempId := Placeholder.tempIdOf client.salt client.spawns
  region := Text.trim region
  name := client.options.defaultName

/-- The client with one placeholder more. -/
def withPlaceholder (client : Client) (placeholder : Placeholder) : Client :=
  { client with
    inventory := client.inventory.edit fun entries => entries ++ [.pending placeholder]
    spawns := client.spawns + 1 }

/-- A region that a spawn may use: not blank, and listed by the catalog if that is loaded. -/
def Admits (client : Client) (region : String) : Prop :=
  Text.trim region ≠ ""
    ∧ (client.catalog.value.status = .ready → Text.trim region ∈ client.catalog.codes)

theorem beginSpawn_eq_ok_iff :
    client.beginSpawn region = .ok (next, placeholder)
      ↔ client.Admits region
        ∧ placeholder = client.placeholderOf region
        ∧ next = client.withPlaceholder placeholder := by
  unfold beginSpawn Inventory.beginSpawn
  rcases Inventory.spawnRegion_cases client.catalog region with
    ⟨hblank, hregion⟩ | ⟨hnamed, hready, hunlisted, hregion⟩ | ⟨hnamed, hlisted, hregion⟩
  · rw [hregion]
    constructor
    · intro h
      cases h
    · rintro ⟨⟨hnamed, -⟩, -⟩
      exact absurd hblank hnamed
  · rw [hregion]
    constructor
    · intro h
      cases h
    · rintro ⟨⟨-, hlisted⟩, -⟩
      exact absurd (hlisted hready) hunlisted
  · rw [hregion]
    constructor
    · intro h
      cases h
      exact ⟨⟨hnamed, hlisted⟩, rfl, rfl⟩
    · rintro ⟨-, rfl, rfl⟩
      rfl

theorem exists_beginSpawn_eq_ok_iff :
    (∃ begun, client.beginSpawn region = .ok begun) ↔ client.Admits region := by
  constructor
  · rintro ⟨⟨next, placeholder⟩, hbegun⟩
    exact (beginSpawn_eq_ok_iff.1 hbegun).1
  · intro hadmits
    exact ⟨_, beginSpawn_eq_ok_iff.2 ⟨hadmits, rfl, rfl⟩⟩

/-- A region is admitted or refused. -/
theorem admits_iff_not_refuses :
    client.Admits region ↔ ∀ error, ¬ client.Refuses (.spawn region) error := by
  rw [← exists_beginSpawn_eq_ok_iff]
  simp only [← beginSpawn_eq_error_iff]
  cases client.beginSpawn region with
  | ok begun => simp
  | error error => simp

/-- A command that spawns goes on exactly if its region is admitted. -/
theorem start_error?_eq_none_iff {yield : Yield} {command : Command yield}
    (hspawns : command.request? = some (.spawn region)) :
    (command.start client).error? = none ↔ client.Admits region := by
  rw [admits_iff_not_refuses, Option.eq_none_iff_forall_ne_some]
  refine forall_congr' fun error => not_congr ?_
  rw [command.start_error?_iff, hspawns]
  simp

/-- A command that spawns puts up what a ticket would. -/
theorem start_client_of_admits {yield : Yield} {command : Command yield}
    (hspawns : command.request? = some (.spawn region)) (hadmits : client.Admits region) :
    (command.start client).client = client.withPlaceholder (client.placeholderOf region) := by
  have hbegun := beginSpawn_eq_ok_iff.2 ⟨hadmits, rfl, rfl⟩
  have hspawn (reporting : Reporting) : (client.spawn region reporting).client
      = client.withPlaceholder (client.placeholderOf region) := by
    unfold spawn
    rw [hbegun]
    rfl
  cases command with
  | spawn code =>
    cases hspawns
    exact hspawn .noticed
  | spawnServer code =>
    cases hspawns
    exact hspawn .silent
  | _ => cases hspawns

end Client

namespace ClientRun

variable {settings : Settings} {salt : Nat} {run next : ClientRun}

theorem Reached.holdsLoaded (reached : Reached settings salt run) :
    run.client.catalog.HoldsLoaded := by
  induction reached with
  | refl => exact fun hregions => absurd rfl hregions
  | tail _ step ih => exact step.writes.catalog.holdsLoaded ih

/-- **Regions.** Let the catalog hold regions. If it is loaded, a spawn is accepted exactly if the
trimmed region is not empty and is one of them; while it is loaded again, exactly if the trimmed
region is not empty. The commands that spawn accept what a ticket accepts. A spawn that is accepted
puts one placeholder with the trimmed region at the end, and changes nothing else but the count of
spawns. -/
theorem spawns_are_checked_once_loaded
    (reached : Reached settings salt run)
    (hregions : run.client.catalog.value.regions ≠ [])
    (region : String) :
    ((run.client.catalog.value.status = .ready
          ∧ ((∃ begun, run.client.beginSpawn region = .ok begun)
            ↔ Text.trim region ≠ "" ∧ Text.trim region ∈ run.client.catalog.codes))
        ∨ (run.client.catalog.value.status = .loading
          ∧ ((∃ begun, run.client.beginSpawn region = .ok begun) ↔ Text.trim region ≠ "")))
      ∧ (∀ next placeholder, run.client.beginSpawn region = .ok (next, placeholder) →
        placeholder.region = Text.trim region
          ∧ next = { run.client with
              inventory := run.client.inventory.edit fun entries =>
                entries ++ [.pending placeholder]
              spawns := run.client.spawns + 1 })
      ∧ ∀ (yield : Yield) (command : Command yield),
        command.request? = some (.spawn region) →
          ((command.start run.client).error? = none
              ↔ ∃ begun, run.client.beginSpawn region = .ok begun)
            ∧ ∀ next placeholder, run.client.beginSpawn region = .ok (next, placeholder) →
              (command.start run.client).client = next := by
  refine ⟨?_, ?_, ?_⟩
  · rw [Client.exists_beginSpawn_eq_ok_iff, Client.Admits]
    rcases reached.holdsLoaded hregions with hready | hloading
    · exact Or.inl ⟨hready, by simp [hready]⟩
    · exact Or.inr ⟨hloading, by simp [hloading]⟩
  · intro next placeholder hbegun
    obtain ⟨-, rfl, rfl⟩ := Client.beginSpawn_eq_ok_iff.1 hbegun
    exact ⟨rfl, rfl⟩
  · intro yield command hspawns
    refine ⟨?_, ?_⟩
    · rw [Client.start_error?_eq_none_iff hspawns, Client.exists_beginSpawn_eq_ok_iff]
    · intro next placeholder hbegun
      obtain ⟨hadmits, rfl, rfl⟩ := Client.beginSpawn_eq_ok_iff.1 hbegun
      exact Client.start_client_of_admits hspawns hadmits

/-- A loaded catalog lets its region through, blanks around it or not, and refuses another one. -/
theorem loaded_catalog_lets_its_regions_through :
    ∃ run, Reached Settings.default 0 run
      ∧ run.client.catalog.value.status = .ready
      ∧ run.client.catalog.codes = ["eu-1"]
      ∧ (∃ begun, run.client.beginSpawn " eu-1 " = .ok begun)
      ∧ ¬ ∃ begun, run.client.beginSpawn "mars-1" = .ok begun := by
  have begun : Reached Settings.default 0 _ :=
    Relation.ReflTransGen.refl.tail (Step.start _ .reloadRegions)
  have loaded := begun.tail (@Step.settle _ 0 .regions .listRegions (.load .noticed) none
    (.ok [{ name := "eu-1", country := "Germany" }]) rfl)
  obtain ⟨run, reached, hready, hcodes⟩ :
      ∃ run, Reached Settings.default 0 run
        ∧ run.client.catalog.value.status = .ready
        ∧ run.client.catalog.codes = ["eu-1"] :=
    ⟨_, loaded, rfl, rfl⟩
  have hregions : run.client.catalog.value.regions ≠ [] := by
    intro hnone
    simp [Catalog.codes, hnone] at hcodes
  have haccepted (region : String) : (∃ begun, run.client.beginSpawn region = .ok begun)
      ↔ Text.trim region ≠ "" ∧ Text.trim region ∈ ["eu-1"] := by
    rcases (spawns_are_checked_once_loaded reached hregions region).1 with
      ⟨-, h⟩ | ⟨hloading, -⟩
    · rwa [hcodes] at h
    · rw [hready] at hloading
      cases hloading
  exact ⟨run, reached, hready, hcodes, (haccepted _).2 (by decide),
    fun h => absurd ((haccepted _).1 h) (by decide)⟩

/-- While a loaded catalog is loaded again, a region that it does not list is let through. -/
theorem reload_lets_an_unlisted_region_through :
    ∃ run, Reached Settings.default 0 run
      ∧ run.client.alive = true
      ∧ run.client.catalog.codes = ["eu-1"]
      ∧ (⟨.regions, .awaiting .listRegions (.load .noticed), none⟩ : Job) ∈ run.jobs
      ∧ "mars-1" ∉ run.client.catalog.codes
      ∧ ∃ begun, run.client.beginSpawn "mars-1" = .ok begun := by
  have begun : Reached Settings.default 0 _ :=
    Relation.ReflTransGen.refl.tail (Step.start _ .reloadRegions)
  have loaded := begun.tail (@Step.settle _ 0 .regions .listRegions (.load .noticed) none
    (.ok [{ name := "eu-1", country := "Germany" }]) rfl)
  have reloading := loaded.tail (Step.start _ .reloadRegions)
  refine ⟨_, reloading, rfl, rfl, List.mem_singleton_self _, by decide, ?_⟩
  exact Client.exists_beginSpawn_eq_ok_iff.2 ⟨by decide, fun h => by cases h⟩

end ClientRun
end VpnFleet
