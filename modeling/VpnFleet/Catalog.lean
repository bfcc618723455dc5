import VpnFleet.Published
import VpnFleet.Region
import VpnFleet.Wire

/-!
# The region catalog

The set of deployable regions with its grouping. Loading has two steps: it
begins by marking the catalog as loading, and it settles when the backend has
answered. An answer that comes after the client was torn down is returned to
the caller but not applied.
-/

namespace VpnFleet

/-- How far the catalog is. -/
inductive CatalogStatus where
  | idle
  | loading
  | ready
  | failed (message : String)
deriving DecidableEq, Repr

/-- What the catalog publishes. -/
structure CatalogSnapshot where
  regions : List Region
  groups : List RegionGroup
  status : CatalogStatus
deriving DecidableEq, Repr

/-- The regions could not be loaded. -/
inductive CatalogError where
  | load (message : String)
deriving DecidableEq, Repr

namespace CatalogError

/-- The text of the error. -/
def message : CatalogError → String
  | load message => "failed to load regions: " ++ message

end CatalogError

/-- The catalog and its publications. -/
abbrev Catalog := Published CatalogSnapshot

namespace Catalog

/-- A catalog that was never loaded. -/
def empty : Catalog :=
  Published.new { regions := [], groups := [], status := .idle }

/-- The listed regions in the order of the backend, each code once. -/
def regionsOf (records : List RegionRecord) : List Region :=
  firstOf Region.code (records.map fun record =>
    { code := record.name, country := record.country })

/-- A loaded catalog. -/
def loaded (regions : List Region) : CatalogSnapshot :=
  { regions, groups := Region.grouped regions, status := .ready }

/-- A catalog whose loading failed holds no regions. -/
def failed (message : String) : CatalogSnapshot :=
  { regions := [], groups := [], status := .failed message }

/-- A loading begins. -/
def beginLoad (catalog : Catalog) : Catalog :=
  catalog.modify fun snapshot => { snapshot with status := .loading }

/-- A loading ends with the answer of the backend, applied while the client is alive. -/
def settleLoad
    (catalog : Catalog)
    (alive : Bool)
    (answer : Except String (List RegionRecord)) :
    Catalog × Except CatalogError (List Region) :=
  match answer with
  | .ok records =>
    let regions := regionsOf records
    (if alive then catalog.replace (loaded regions) else catalog, .ok regions)
  | .error message =>
    (if alive then catalog.replace (failed message) else catalog, .error (.load message))

/-- The catalog knows the region code. -/
def knows (catalog : Catalog) (code : String) : Bool :=
  catalog.value.regions.any fun region => region.code = code

/-- The region codes in the order of the backend. -/
def codes (catalog : Catalog) : List String :=
  catalog.value.regions.map Region.code

end Catalog
end VpnFleet
