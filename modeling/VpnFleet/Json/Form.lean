/-!
# Forms of JSON texts

What a text is asked to hold: a record with named fields, or a list of such
records. A field that is not required may be left out.
-/

namespace VpnFleet
namespace Json

/-- What a field holds. -/
inductive FieldForm where
  | text
  /-- A string or `null`. -/
  | maybeText
  | flag
  | count
  | rate
deriving DecidableEq, Repr

/-- A field of a record. -/
structure FieldRule where
  name : String
  form : FieldForm
  required : Bool
deriving DecidableEq, Repr

/-- A record: how it is called, and its fields in order. -/
structure RecordForm where
  title : String
  fields : List FieldRule
deriving DecidableEq, Repr

namespace RecordForm

/-- The names of the fields. -/
def names (form : RecordForm) : List String :=
  form.fields.map FieldRule.name

/-- The field with this name. -/
def field? (form : RecordForm) (name : String) : Option FieldRule :=
  form.fields.find? fun field => field.name = name

end RecordForm

/-- What a whole text holds. -/
inductive Form where
  | record (form : RecordForm)
  | list (form : RecordForm)
deriving DecidableEq, Repr

end Json
end VpnFleet
