import VpnFleet.Json.Value

/-!
# Records in JSON

A record has named fields in a fixed order. It is given as an object, where
unknown keys are passed over and a known key stands at most once, or as an
array of its fields in their order, where fields at the end may be left out.
-/

namespace VpnFleet
namespace Json

/-- The known fields that a value gives, with their values. -/
abbrev Fields := List (String × Json)

/-- The members whose keys all have a text. -/
def namedMembers? (members : List (Option String × Json)) : Option Fields :=
  members.mapM fun (key, value) => key.map (·, value)

/-- The known fields of a record; refused if a known key stands twice. -/
def fields? (names : List String) : Json → Option Fields
  | array items =>
    if items.length ≤ names.length then some (names.zip items) else none
  | object members => do
    let known := (← namedMembers? members).filter fun field => names.contains field.1
    if (known.map Prod.fst).Nodup then some known else none
  | _ => none

namespace Fields

/-- A field that has to be given. -/
def required? {α : Type} (fields : Fields) (name : String) (decode? : Json → Option α) :
    Option α :=
  (fields.lookup name).bind decode?

/-- A field that may be left out. -/
def given? {α : Type} (fields : Fields) (name : String) (default : α)
    (decode? : Json → Option α) : Option α :=
  match fields.lookup name with
  | none => some default
  | some value => decode? value

end Fields
end Json
end VpnFleet
