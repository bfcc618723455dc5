import Mathlib.Data.List.Sort
import Mathlib.Data.String.Basic
import VpnFleet.Proofs.Keyed
import VpnFleet.Region

/-!
# Regions in groups

What the groups of some regions are does not depend on how they are computed:
it is settled by a few conditions on the groups as they are shown.

* `Region.Shows` states the conditions. They speak of the list of regions only
  through the first region with each code.
* `Region.grouped_shows`: the grouping meets the conditions.
* `Region.Shows.unique`: two lists of groups that meet them for lists of regions
  with the same first regions are equal.

That regrouping changes nothing, and that order does not matter where no code
stands twice, follows from these two without another look at the grouping.
-/

namespace VpnFleet

section Ascending

variable {α : Type} {key : α → String} {xs ys : List α}

/-- The keys stand in strictly ascending order. -/
def Ascending (key : α → String) (xs : List α) : Prop :=
  xs.Pairwise fun a b => key a < key b

theorem Ascending.nodup_map (h : Ascending key xs) : (xs.map key).Nodup := by
  refine List.Pairwise.map key ?_ h
  intro a b hlt
  exact ne_of_lt hlt

/-- An ascending list is known by its members. -/
theorem Ascending.eq_of_mem_iff
    (hx : Ascending key xs) (hy : Ascending key ys) (h : ∀ a, a ∈ xs ↔ a ∈ ys) :
    xs = ys := by
  have hperm : xs.Perm ys :=
    (List.perm_ext_iff_of_nodup hx.nodup_map.of_map hy.nodup_map.of_map).2 h
  exact hperm.eq_of_pairwise (fun a b _ _ hab hba => absurd hba (lt_asymm hab)) hx hy

/-- Sorting by distinct keys makes them ascend. -/
theorem ascending_mergeSort (hnodup : (xs.map key).Nodup) :
    Ascending key (xs.mergeSort fun a b => decide (key a ≤ key b)) := by
  have htrans (a b c : α) : decide (key a ≤ key b) = true → decide (key b ≤ key c) = true →
      decide (key a ≤ key c) = true := by
    simpa using fun hab hbc => le_trans hab hbc
  have htotal (a b : α) : (decide (key a ≤ key b) || decide (key b ≤ key a)) = true := by
    simpa using le_total (key a) (key b)
  have hsorted := List.pairwise_mergeSort htrans htotal xs
  have hdistinct : (xs.mergeSort fun a b => decide (key a ≤ key b)).Pairwise
      fun a b => key a ≠ key b := by
    rw [← List.pairwise_map (f := key) (R := (· ≠ ·))]
    exact ((List.mergeSort_perm xs _).map key).nodup_iff.2 hnodup
  exact (hsorted.and hdistinct).imp fun h => lt_of_le_of_ne (by simpa using h.1) h.2

end Ascending

/-- What is left of a list, key by key, is what is found there under the key. -/
theorem mem_firstOf_iff {α κ : Type} [DecidableEq κ] {key : α → κ} {xs : List α} {a : α} :
    a ∈ firstOf key xs ↔ xs.find? (fun b => key b = key a) = some a := by
  have hkeys : ∀ b ∈ firstOf key xs, ∀ c ∈ firstOf key xs, key b = key c → b = c :=
    fun b hb c hc hk => List.inj_on_of_nodup_map (nodup_map_firstOf key xs) hb hc hk
  rw [← find?_firstOf, Keyed.find?_eq_some_iff_of_injOn hkeys]
  simp

namespace Region

variable {regions others : List Region} {groups shown : List RegionGroup}

/-- The regions of some groups, one group after the other. -/
def flattened (groups : List RegionGroup) : List Region :=
  groups.flatMap RegionGroup.regions

/-- The first region with a code. -/
def first? (regions : List Region) (code : String) : Option Region :=
  regions.find? fun region => region.code = code

/-- The groups show the regions. -/
structure Shows (regions : List Region) (groups : List RegionGroup) : Prop where
  /-- The names of the continents ascend. -/
  continents : groups.Pairwise fun a b => a.continent < b.continent
  inhabited : ∀ group ∈ groups, group.regions ≠ []
  /-- The codes ascend in each group. -/
  codes : ∀ group ∈ groups, group.regions.Pairwise fun a b => a.code < b.code
  placed : ∀ group ∈ groups, ∀ region ∈ group.regions,
    continentOf region.code = group.continent
  /-- Shown is the first region with each code, and no other. -/
  mem_iff : ∀ region, region ∈ flattened groups ↔ first? regions region.code = some region

theorem mem_flattened_iff {region : Region} :
    region ∈ flattened groups ↔ ∃ group ∈ groups, region ∈ group.regions :=
  List.mem_flatMap

theorem sorted_ascending (regions : List Region) : Ascending code (sorted regions) :=
  ascending_mergeSort (nodup_map_firstOf code regions)

theorem mem_sorted_iff {region : Region} :
    region ∈ sorted regions ↔ first? regions region.code = some region := by
  rw [sorted, List.mem_mergeSort, mem_firstOf_iff, first?]

theorem continentNames_ascending (regions : List Region) :
    Ascending id (continentNames regions) := by
  have hnodup := nodup_map_firstOf id (regions.map continent)
  exact ascending_mergeSort hnodup

theorem mem_continentNames_iff {name : String} :
    name ∈ continentNames regions ↔ ∃ region ∈ regions, region.continent = name := by
  have hkept := mem_map_firstOf_iff id name (regions.map continent)
  rw [List.map_id, List.map_id] at hkept
  rw [continentNames, List.mem_mergeSort, hkept, List.mem_map]

theorem mem_grouped_iff {group : RegionGroup} :
    group ∈ grouped regions
      ↔ group.continent ∈ continentNames (sorted regions)
        ∧ group.regions = (sorted regions).filter fun region =>
          region.continent = group.continent := by
  unfold grouped
  rw [List.mem_map]
  constructor
  · rintro ⟨name, hname, rfl⟩
    exact ⟨hname, rfl⟩
  · rintro ⟨hname, hregions⟩
    exact ⟨group.continent, hname, by rw [← hregions]⟩

theorem grouped_shows (regions : List Region) : Shows regions (grouped regions) where
  continents := by
    unfold grouped
    rw [List.pairwise_map]
    exact continentNames_ascending (sorted regions)
  inhabited := by
    intro group hgroup hnone
    obtain ⟨hname, hregions⟩ := mem_grouped_iff.1 hgroup
    obtain ⟨region, hregion, hcontinent⟩ := mem_continentNames_iff.1 hname
    have hmem : region ∈ group.regions := by
      rw [hregions]
      exact List.mem_filter.2 ⟨hregion, by simpa using hcontinent⟩
    rw [hnone] at hmem
    cases hmem
  codes := by
    intro group hgroup
    rw [(mem_grouped_iff.1 hgroup).2]
    exact (sorted_ascending regions).filter _
  placed := by
    intro group hgroup region hregion
    rw [(mem_grouped_iff.1 hgroup).2] at hregion
    exact of_decide_eq_true (List.mem_filter.1 hregion).2
  mem_iff := by
    intro region
    rw [mem_flattened_iff, ← mem_sorted_iff]
    constructor
    · rintro ⟨group, hgroup, hregion⟩
      rw [(mem_grouped_iff.1 hgroup).2] at hregion
      exact (List.mem_filter.1 hregion).1
    · intro hregion
      have hname : region.continent ∈ continentNames (sorted regions) :=
        mem_continentNames_iff.2 ⟨region, hregion, rfl⟩
      let group : RegionGroup := {
        continent := region.continent
        regions := (sorted regions).filter fun other => other.continent = region.continent }
      have hgroup : group ∈ grouped regions := mem_grouped_iff.2 ⟨hname, rfl⟩
      exact ⟨group, hgroup, List.mem_filter.2 ⟨hregion, decide_eq_true rfl⟩⟩

namespace Shows

theorem eq_of_code (h : Shows regions groups) {a b : Region}
    (ha : a ∈ flattened groups) (hb : b ∈ flattened groups) (hcode : a.code = b.code) :
    a = b := by
  have hfound := (h.mem_iff a).1 ha
  rw [hcode, (h.mem_iff b).1 hb] at hfound
  exact (Option.some.inj hfound).symm

/-- The groups show what is found in the list under each code. -/
theorem first?_flattened (h : Shows regions groups) (code : String) :
    first? (flattened groups) code = first? regions code := by
  have hshown (region : Region) : first? (flattened groups) code = some region
      ↔ region ∈ flattened groups ∧ region.code = code :=
    Keyed.find?_eq_some_iff_of_injOn (fun a ha b hb => h.eq_of_code ha hb) code region
  apply Option.ext
  intro region
  rw [hshown, h.mem_iff]
  constructor
  · rintro ⟨hfound, rfl⟩
    exact hfound
  · intro hfound
    have hcode : region.code = code := by
      simpa using List.find?_some hfound
    rw [hcode]
    exact ⟨hfound, rfl⟩

/-- No code is shown twice. -/
theorem nodup_codes (h : Shows regions groups) : ((flattened groups).map code).Nodup := by
  rw [flattened, List.map_flatMap, List.nodup_flatMap]
  refine ⟨fun group hgroup => Ascending.nodup_map (h.codes group hgroup), ?_⟩
  refine h.continents.imp_of_mem ?_
  intro group other hgroup hother hlt code hcode hcode'
  obtain ⟨a, ha, rfl⟩ := List.mem_map.1 hcode
  obtain ⟨b, hb, hsame⟩ := List.mem_map.1 hcode'
  -- the code tells the continent, and the continents differ
  have hcontinent : group.continent = other.continent := by
    rw [← h.placed group hgroup a ha, ← h.placed other hother b hb, hsame]
  exact absurd hcontinent (ne_of_lt hlt)

/-- The members of a group are the shown regions of its continent. -/
theorem mem_regions_iff (h : Shows regions groups) {group : RegionGroup} (hgroup : group ∈ groups)
    {region : Region} :
    region ∈ group.regions
      ↔ first? regions region.code = some region
        ∧ continentOf region.code = group.continent := by
  rw [← h.mem_iff region, mem_flattened_iff]
  constructor
  · intro hregion
    exact ⟨⟨group, hgroup, hregion⟩, h.placed group hgroup region hregion⟩
  · rintro ⟨⟨other, hother, hregion⟩, hcontinent⟩
    have hnames : other.continent = group.continent := by
      rw [← h.placed other hother region hregion, hcontinent]
    have hsame : other = group :=
      List.inj_on_of_nodup_map (Ascending.nodup_map h.continents) hother hgroup hnames
    rwa [← hsame]

/-- A group that is shown for one of two lists with the same first regions is shown for the
other. -/
theorem mem_of_mem (h : Shows regions groups) (h' : Shows others shown)
    (hfirst : ∀ code, first? regions code = first? others code)
    {group : RegionGroup} (hgroup : group ∈ groups) : group ∈ shown := by
  obtain ⟨region, hregion⟩ := List.exists_mem_of_ne_nil _ (h.inhabited group hgroup)
  obtain ⟨hfound, hcontinent⟩ := (h.mem_regions_iff hgroup).1 hregion
  rw [hfirst] at hfound
  obtain ⟨other, hother, hmem⟩ := mem_flattened_iff.1 ((h'.mem_iff region).2 hfound)
  have hnames : group.continent = other.continent := by
    rw [← hcontinent, h'.placed other hother region hmem]
  have hregions : group.regions = other.regions := by
    refine Ascending.eq_of_mem_iff (h.codes group hgroup) (h'.codes other hother) ?_
    intro a
    rw [h.mem_regions_iff hgroup, h'.mem_regions_iff hother, hfirst, hnames]
  have hsame : group = other := by
    cases group
    cases other
    exact congrArg₂ RegionGroup.mk hnames hregions
  rwa [hsame]

theorem unique (h : Shows regions groups) (h' : Shows others shown)
    (hfirst : ∀ code, first? regions code = first? others code) : groups = shown := by
  refine Ascending.eq_of_mem_iff h.continents h'.continents ?_
  intro group
  exact ⟨h.mem_of_mem h' hfirst, h'.mem_of_mem h fun code => (hfirst code).symm⟩

end Shows

/-- Where no code stands twice, the order does not matter for what is found. -/
theorem first?_of_perm (hperm : regions.Perm others) (hnodup : (regions.map code).Nodup)
    (code : String) : first? regions code = first? others code := by
  have hkeys : ∀ a ∈ regions, ∀ b ∈ regions, a.code = b.code → a = b :=
    fun a ha b hb => List.inj_on_of_nodup_map hnodup ha hb
  have hkeys' : ∀ a ∈ others, ∀ b ∈ others, a.code = b.code → a = b :=
    fun a ha b hb => hkeys a (hperm.mem_iff.2 ha) b (hperm.mem_iff.2 hb)
  apply Option.ext
  intro region
  rw [first?, first?, Keyed.find?_eq_some_iff_of_injOn hkeys,
    Keyed.find?_eq_some_iff_of_injOn hkeys', hperm.mem_iff]

/-- **Grouping.** The groups of some regions show them: the names of the continents ascend, no group
is empty, the codes of a group ascend and belong to its continent, and all groups together hold the
first region with each code and nothing else, once. Regrouping what the groups hold gives the same
groups, and so does any list in which the same region is the first with each code; where no code
stands twice, these are all orders of the list. -/
theorem grouped_is_determined_by_first_regions (regions : List Region) :
    Shows regions (grouped regions)
      ∧ ((flattened (grouped regions)).map code).Nodup
      ∧ grouped (flattened (grouped regions)) = grouped regions
      ∧ (∀ others, (∀ code, first? others code = first? regions code) →
        grouped others = grouped regions)
      ∧ ∀ others, others.Perm regions → (regions.map code).Nodup →
        grouped others = grouped regions := by
  have hshows := grouped_shows regions
  have hsame (others : List Region) (hfirst : ∀ code, first? others code = first? regions code) :
      grouped others = grouped regions :=
    (grouped_shows others).unique hshows hfirst
  refine ⟨hshows, hshows.nodup_codes, hsame _ hshows.first?_flattened, hsame, ?_⟩
  intro others hperm hnodup
  exact hsame others fun code => (first?_of_perm hperm.symm hnodup code).symm

/-- Three regions of two continents: their order does not matter, nor does a second region with the
code of one of them behind it. -/
theorem three_regions_in_two_groups :
    let germany : Region := ⟨"eu-central-1", "Germany"⟩
    let ireland : Region := ⟨"eu-west-1", "Ireland"⟩
    let usa : Region := ⟨"us-east-1", "USA"⟩
    let regions := [usa, ireland, germany]
    let others := [ireland, usa, ⟨"eu-west-1", "Elsewhere"⟩, germany]
    [germany, usa, ireland].Perm regions
      ∧ (regions.map code).Nodup
      ∧ (∀ code, first? others code = first? regions code)
      ∧ grouped [germany, usa, ireland] = grouped regions
      ∧ grouped others = grouped regions
      ∧ grouped regions = [⟨"Europe", [germany, ireland]⟩, ⟨"North America", [usa]⟩] := by
  intro germany ireland usa regions others
  have hperm : [germany, usa, ireland].Perm regions := by decide
  have hnodup : (regions.map code).Nodup := by decide
  have hfirst : ∀ code, first? others code = first? regions code := by
    intro code
    by_cases hireland : code = "eu-west-1"
    · subst hireland
      decide
    · by_cases husa : code = "us-east-1"
      · subst husa
        decide
      · have hne := Ne.symm hireland
        have hne' := Ne.symm husa
        simp [first?, others, regions, ireland, usa, hne, hne']
  obtain ⟨hshows, -, -, hsame, hreordered⟩ := grouped_is_determined_by_first_regions regions
  refine ⟨hperm, hnodup, hfirst, hreordered _ hperm hnodup, hsame others hfirst, ?_⟩
  have hgroups : Shows regions [⟨"Europe", [germany, ireland]⟩, ⟨"North America", [usa]⟩] := by
    refine ⟨by decide, by decide, by decide, by decide, ?_⟩
    intro region
    have hkeys : ∀ a ∈ regions, ∀ b ∈ regions, a.code = b.code → a = b := by decide
    have hmem : region ∈ [germany, usa, ireland] ↔ region ∈ regions := hperm.mem_iff
    rw [first?, Keyed.find?_eq_some_iff_of_injOn hkeys, ← hmem]
    simp [flattened, or_comm]
  exact hshows.unique hgroups fun _ => rfl

end Region
end VpnFleet
