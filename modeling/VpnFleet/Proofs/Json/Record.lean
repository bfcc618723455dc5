import Mathlib.Data.List.Forall2
import VpnFleet.Json.Form
import VpnFleet.Json.Record

/-!
# Records given by objects

An object gives a record if every field of the record stands in it once with the
value that the record has, or not at all where that value is the default. The
order of the members does not matter, nor do members with other names.

* `FieldForm.Gives` says which values stand for the content of a field, and
  `WireRecord.Gives` when an object gives a record.
* `WireRecord.Spoiled` says what no record is given by: a field that has no
  default and is missing, or a field that stands twice.
* `Documents` are what a reader is given: single objects, or arrays of them.
  `Documents.readBy_of_build` is about any reader that takes its fields from an
  object: it reads a record exactly from the objects that give it.
-/

namespace VpnFleet
namespace Json

namespace FieldForm

/-- What a field holds. -/
def Content : FieldForm → Type
  | text => String
  | maybeText => Option String
  | flag => Bool
  | count => Nat
  | rate => Float

/-- The values that stand for what a field holds. A count is a numeral below the bound; a rate is
what its number is read as. -/
inductive Gives : (form : FieldForm) → form.Content → Json → Prop
  | text (s : String) : Gives .text s (.string (some s))
  | absent : Gives .maybeText none .null
  | present (s : String) : Gives .maybeText (some s) (.string (some s))
  | flag (b : Bool) : Gives .flag b (.bool b)
  | count (numeral : List Nat) (bounded : Number.digitsValue numeral < Number.countBound) :
      Gives .count (Number.digitsValue numeral)
        (.number { negative := false, whole := numeral, fraction := [], exponent := none })
  | rate {n : Number} {x : Float} (rated : n.toRate? = some x) : Gives .rate x (.number n)

/-- How a value is taken for a field. -/
def decode? : (form : FieldForm) → Json → Option form.Content
  | text => Json.text?
  | maybeText => Json.maybeText?
  | flag => Json.flag?
  | count => Json.count?
  | rate => Json.rate?

theorem text?_eq_some_iff {value : Json} {s : String} :
    value.text? = some s ↔ value = .string (some s) := by
  cases value <;> simp [Json.text?]

theorem maybeText?_eq_some_iff {value : Json} {content : Option String} :
    value.maybeText? = some content ↔ Gives .maybeText content value := by
  constructor
  · intro h
    cases value with
    | null =>
      obtain rfl : none = content := Option.some.inj h
      exact .absent
    | string text =>
      obtain ⟨s, rfl, rfl⟩ : ∃ s, text = some s ∧ some s = content := Option.map_eq_some_iff.1 h
      exact .present s
    | _ => simp [Json.maybeText?, Json.text?] at h
  · rintro ⟨⟩ <;> rfl

theorem toCount?_eq_some_iff {n : Number} {count : Nat} :
    n.toCount? = some count ↔ Gives .count count (.number n) := by
  unfold Number.toCount?
  constructor
  · intro h
    obtain ⟨negative, whole, fraction, exponent⟩ := n
    simp only [Number.isInteger, Option.ite_none_right_eq_some, Bool.and_eq_true,
      List.isEmpty_iff, Option.isNone_iff_eq_none, Bool.not_eq_true', decide_eq_true_eq,
      Option.some.injEq] at h
    obtain ⟨⟨⟨⟨rfl, rfl⟩, rfl⟩, hbound⟩, rfl⟩ := h
    exact .count whole hbound
  · rintro ⟨⟩
    next numeral bounded =>
    simp [Number.isInteger, bounded]

theorem decode?_eq_some_iff (form : FieldForm) (value : Json) (content : form.Content) :
    form.decode? value = some content ↔ form.Gives content value := by
  cases form with
  | text =>
    refine text?_eq_some_iff.trans ⟨?_, ?_⟩
    · rintro rfl
      exact .text content
    · rintro ⟨⟩
      rfl
  | maybeText => exact maybeText?_eq_some_iff
  | flag =>
    constructor
    · intro h
      cases value with
      | bool b =>
        obtain rfl : b = content := Option.some.inj h
        exact .flag b
      | _ => cases h
    · rintro ⟨⟩
      rfl
  | count =>
    constructor
    · intro h
      cases value with
      | number n => exact toCount?_eq_some_iff.1 h
      | _ => cases h
    · intro h
      have hread := h
      cases h
      exact toCount?_eq_some_iff.2 hread
  | rate =>
    constructor
    · intro h
      cases value with
      | number n => exact .rate h
      | _ => cases h
    · intro h
      cases h with
      | rate rated => exact rated

end FieldForm

/-- An object whose keys all have a text. -/
def ofMembers (members : List (String × Json)) : Json :=
  object (members.map fun member => (some member.1, member.2))

/-- The values under a name, in order. -/
def valuesOf (name : String) (members : List (String × Json)) : List Json :=
  (members.filter fun member => member.1 = name).map Prod.snd

end Json

/-- A field as records of a type have it. -/
structure WireField (α : Type) where
  name : String
  form : Json.FieldForm
  content : α → form.Content
  /-- What the field holds where it is left out; without it the field has to be given. -/
  default? : Option form.Content

namespace WireField

variable {α : Type}

/-- A field that has to be given. -/
def required (name : String) (form : Json.FieldForm) (content : α → form.Content) :
    WireField α where
  name := name
  form := form
  content := content
  default? := none

/-- A field that may be left out. -/
def defaulted (name : String) (form : Json.FieldForm) (content : α → form.Content)
    (default : form.Content) : WireField α where
  name := name
  form := form
  content := content
  default? := some default

end WireField

/-- The fields of the records of a type. -/
abbrev WireRecord (α : Type) : Type :=
  List (WireField α)

section Given

variable {α : Type}

/-- The members of an object give the field of a record. -/
inductive WireField.GivenBy (field : WireField α) (record : α) (members : List (String × Json)) :
    Prop
  | once {value : Json} (stands : Json.valuesOf field.name members = [value])
      (gives : field.form.Gives (field.content record) value)
  | leftOut (missing : Json.valuesOf field.name members = [])
      (default : field.default? = some (field.content record))

namespace WireRecord

/-- The members of an object give a record. -/
def Gives (wire : WireRecord α) (record : α) (members : List (String × Json)) : Prop :=
  ∀ field ∈ wire, field.GivenBy record members

/-- A field that has no default is missing, or a field stands more than once. -/
def Spoiled (wire : WireRecord α) (members : List (String × Json)) : Prop :=
  ∃ field ∈ wire,
    (field.default? = none ∧ Json.valuesOf field.name members = [])
      ∨ 2 ≤ (Json.valuesOf field.name members).length

theorem Spoiled.not_gives
    {wire : WireRecord α} {members : List (String × Json)} (h : wire.Spoiled members) (record : α) :
    ¬ wire.Gives record members := by
  intro hgives
  obtain ⟨field, hfield, hspoiled⟩ := h
  cases hgives field hfield with
  | once stands gives => simp [stands] at hspoiled
  | leftOut missing default => simp [missing, default] at hspoiled

end WireRecord
end Given

namespace Json
namespace Fields

/-- The members with a known name. -/
def known (names : List String) (members : List (String × Json)) : Fields :=
  members.filter fun field => names.contains field.1

variable {names : List String} {members : List (String × Json)} {name : String}

theorem namedMembers?_some :
    namedMembers? (members.map fun member => (some member.1, member.2)) = some members := by
  unfold namedMembers?
  induction members with
  | nil => rfl
  | cons member members ih =>
    rw [List.map_cons, List.mapM_cons, ih]
    rfl

theorem fields?_ofMembers :
    (ofMembers members).fields? names
      = if ((known names members).map Prod.fst).Nodup then some (known names members) else none := by
  show (namedMembers? (members.map fun member => (some member.1, member.2))).bind _ = _
  rw [namedMembers?_some]
  rfl

/-- The values under a known name are found among the known members. -/
theorem valuesOf_known (hname : name ∈ names) :
    valuesOf name (known names members) = valuesOf name members := by
  unfold valuesOf known
  rw [List.filter_filter]
  congr 1
  refine List.filter_congr fun member _ => ?_
  by_cases h : member.1 = name
  · simp [h, hname]
  · simp [h]

theorem lookup_eq_head?_valuesOf (members : List (String × Json)) :
    members.lookup name = (valuesOf name members).head? := by
  induction members with
  | nil => rfl
  | cons member members ih =>
    obtain ⟨key, value⟩ := member
    unfold valuesOf at ih ⊢
    rw [List.lookup_cons]
    by_cases h : key = name
    · subst h
      simp
    · rw [List.filter_cons_of_neg (by simpa using h), ← ih,
        beq_false_of_ne fun hsame => h hsame.symm]

theorem length_valuesOf (members : List (String × Json)) :
    (valuesOf name members).length = (members.map Prod.fst).count name := by
  unfold valuesOf
  rw [List.length_map, List.count_eq_countP, List.countP_map, List.countP_eq_length_filter]
  rfl

/-- Known members have different names if no known name stands twice. -/
theorem nodup_known_iff :
    ((known names members).map Prod.fst).Nodup
      ↔ ∀ name ∈ names, (valuesOf name members).length ≤ 1 := by
  rw [List.nodup_iff_count]
  constructor
  · intro h name hname
    rw [← valuesOf_known hname, length_valuesOf]
    exact h name
  · intro h name
    by_cases hname : name ∈ names
    · rw [← length_valuesOf, valuesOf_known hname]
      exact h name hname
    · have habsent : name ∉ (known names members).map Prod.fst := by
        intro hmem
        obtain ⟨field, hfield, rfl⟩ := List.mem_map.1 hmem
        exact hname (by simpa using (List.mem_filter.1 hfield).2)
      rw [List.count_eq_zero_of_not_mem habsent]
      exact Nat.zero_le 1

end Fields
end Json

namespace WireField

variable {α : Type} (field : WireField α) (record : α)

/-- How a reader takes a field. -/
def take? (fields : Json.Fields) : Option field.form.Content :=
  match field.default? with
  | none => fields.required? field.name field.form.decode?
  | some default => fields.given? field.name default field.form.decode?

theorem take?_eq_match (fields : Json.Fields) :
    field.take? fields
      = match fields.lookup field.name with
        | some value => field.form.decode? value
        | none => field.default? := by
  unfold take? Json.Fields.required? Json.Fields.given?
  cases field.default? <;> cases fields.lookup field.name <;> rfl

variable {field record}
variable {names : List String} {members : List (String × Json)}

/-- What is taken from the known members is what they give. -/
theorem take?_known_iff
    (hname : field.name ∈ names) (honce : (Json.valuesOf field.name members).length ≤ 1) :
    field.take? (Json.Fields.known names members) = some (field.content record)
      ↔ field.GivenBy record members := by
  rw [take?_eq_match, Json.Fields.lookup_eq_head?_valuesOf, Json.Fields.valuesOf_known hname]
  cases hvalues : Json.valuesOf field.name members with
  | nil =>
    constructor
    · exact fun h => .leftOut hvalues h
    · rintro (⟨stands, -⟩ | ⟨-, default⟩)
      · simp [hvalues] at stands
      · exact default
  | cons value later =>
    obtain rfl : later = [] := by simpa [hvalues] using honce
    refine (field.form.decode?_eq_some_iff value _).trans ⟨fun h => .once hvalues h, ?_⟩
    rintro (⟨stands, gives⟩ | ⟨missing, -⟩)
    · obtain rfl := List.singleton_inj.1 (hvalues.symm.trans stands)
      exact gives
    · simp [hvalues] at missing

end WireField

/-- The items of a list all decode, in order, exactly if the list is read. -/
theorem Json.list?_array_iff
    {α δ : Type} {item? : Json → Option α} {json : δ → Json} {Gives : α → δ → Prop}
    (hitem : ∀ document record, item? (json document) = some record ↔ Gives record document)
    (documents : List δ) (records : List α) :
    Json.list? item? (.array (documents.map json)) = some records
      ↔ List.Forall₂ Gives records documents := by
  show (documents.map json).mapM item? = some records ↔ _
  induction documents generalizing records with
  | nil => simp [eq_comm]
  | cons document documents ih =>
    rw [List.map_cons, List.mapM_cons, List.forall₂_cons_right_iff]
    simp only [Option.bind_eq_bind, Option.bind_eq_some_iff, hitem, ih, Option.pure_def,
      Option.some.injEq]
    constructor
    · rintro ⟨record, hfirst, later, hlater, rfl⟩
      exact ⟨record, later, hfirst, hlater, rfl⟩
    · rintro ⟨record, later, hfirst, hlater, rfl⟩
      exact ⟨record, hfirst, later, hlater, rfl⟩

/-- Documents of a kind, and the answers that they give. -/
structure Documents (α : Type) where
  Document : Type
  json : Document → Json
  Gives : α → Document → Prop
  /-- The document gives no answer. -/
  Spoiled : Document → Prop
  not_gives : ∀ {document : Document}, Spoiled document → ∀ answer, ¬ Gives answer document

namespace Documents

variable {α : Type} (wire : WireRecord α)

/-- Objects for single records. -/
def single : Documents α where
  Document := List (String × Json)
  json := Json.ofMembers
  Gives := wire.Gives
  Spoiled := wire.Spoiled
  not_gives := WireRecord.Spoiled.not_gives

/-- Arrays of objects for records. -/
def listing : Documents (List α) where
  Document := List (List (String × Json))
  json documents := .array (documents.map Json.ofMembers)
  Gives := List.Forall₂ wire.Gives
  Spoiled documents := ∃ members ∈ documents, wire.Spoiled members
  not_gives := by
    rintro documents ⟨members, hmembers, hspoiled⟩ records hgives
    induction hgives with
    | nil => cases hmembers
    | cons hfirst _ ih =>
      cases hmembers with
      | head => exact hspoiled.not_gives _ hfirst
      | tail _ hlater => exact ih hlater

/-- A reader finds in the documents of a kind what they give. -/
def ReadBy (documents : Documents α) (decode? : Json → Option α) : Prop :=
  ∀ document answer, decode? (documents.json document) = some answer
    ↔ documents.Gives answer document

theorem ReadBy.listing {wire : WireRecord α} {decode? : Json → Option α}
    (h : (single wire).ReadBy decode?) : (listing wire).ReadBy (Json.list? decode?) :=
  Json.list?_array_iff h

/-- A reader that builds a record from what it takes for each field reads it exactly from the
objects that give it. -/
theorem readBy_of_build
    {decode? : Json → Option α} {build : Json.Fields → Option α}
    (hdecode : ∀ value, decode? value = (value.fields? (wire.map WireField.name)).bind build)
    (hbuild : ∀ fields record, build fields = some record
      ↔ wire.Forall fun field => field.take? fields = some (field.content record)) :
    (single wire).ReadBy decode? := by
  intro (members : List (String × Json)) record
  show decode? (Json.ofMembers members) = some record ↔ wire.Gives record members
  rw [hdecode, Json.Fields.fields?_ofMembers]
  by_cases h : ∀ name ∈ wire.map WireField.name, (Json.valuesOf name members).length ≤ 1
  · rw [if_pos (Json.Fields.nodup_known_iff.2 h), Option.bind_some, hbuild,
      List.forall_iff_forall_mem]
    refine forall₂_congr fun field hfield => ?_
    have hname := List.mem_map_of_mem (f := WireField.name) hfield
    exact WireField.take?_known_iff hname (h field.name hname)
  · rw [if_neg fun hnodup => h (Json.Fields.nodup_known_iff.1 hnodup)]
    refine ⟨nofun, fun hgives => absurd ?_ h⟩
    intro name hname
    obtain ⟨field, hfield, rfl⟩ := List.mem_map.1 hname
    cases hgives field hfield with
    | once stands gives => simp [stands]
    | leftOut missing default => simp [missing]

end Documents
end VpnFleet
