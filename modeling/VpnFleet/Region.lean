import VpnFleet.FirstOf

/-!
# Regions and continents

A region is where servers are deployed. Its code starts with a token, ended by
the first hyphen, that tells the continent; other tokens belong to `Other`.

**Grouping.** A list of regions is shown as groups: continents in ascending
order of their names, regions of a continent in ascending order of their codes,
and of several regions with one code only the first. Order is that of code
points.
-/

namespace VpnFleet

/-- A deployable region. -/
structure Region where
  code : String
  country : String
deriving DecidableEq, Repr

/-- The regions of one continent. -/
structure RegionGroup where
  continent : String
  regions : List Region
deriving DecidableEq, Repr

namespace Region

/-- Where region codes with an unknown token belong. -/
def otherContinent : String :=
  "Other"

/-- The known tokens with their continents. -/
def continents : List (String × String) := [
  ("us", "North America"),
  ("ca", "North America"),
  ("eu", "Europe"),
  ("ap", "Asia Pacific"),
  ("sa", "South America"),
  ("me", "Middle East"),
  ("af", "Africa")]

/-- The code up to its first hyphen. -/
def leadingToken (code : String) : String :=
  String.ofList (code.toList.takeWhile (· ≠ '-'))

/-- The continent of a region code. -/
def continentOf (code : String) : String :=
  (continents.lookup (leadingToken code)).getD otherContinent

/-- The continent of a region. -/
def continent (region : Region) : String :=
  continentOf region.code

/-- The regions in order of code, each code once. -/
def sorted (regions : List Region) : List Region :=
  (firstOf code regions).mergeSort fun a b => decide (a.code ≤ b.code)

/-- The continents of some regions, in order of name. -/
def continentNames (regions : List Region) : List String :=
  (firstOf id (regions.map continent)).mergeSort fun a b => decide (a ≤ b)

/-- The regions shown as groups. -/
def grouped (regions : List Region) : List RegionGroup :=
  (continentNames (sorted regions)).map fun name =>
    { continent := name
      regions := (sorted regions).filter fun region => region.continent = name }

end Region
end VpnFleet
