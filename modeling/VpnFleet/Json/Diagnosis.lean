import VpnFleet.Json.Form
import VpnFleet.Json.Scan

/-!
# What is wrong with a JSON text

The first fault of a text that was asked to hold a record or a list of records.
The text is scanned in order, so that a field of the wrong kind is found before
a slip of grammar behind it.

**Fields.** A record is an object or an array of its fields in order. Whether a
field is missing or repeated shows at the record as a whole: the scan first
takes the end of the record, if it comes next. Fields that are not known are
passed over by their grammar alone.
-/

namespace VpnFleet
namespace Json
namespace Scan

/-- The value that a number is found as: an integer of 64 bits, or else a decimal. -/
def foundNumber (number : Number) : Found :=
  let magnitude := Number.digitsValue number.whole
  let isWord :=
    if number.negative then 0 < magnitude && magnitude ≤ 1 <<< 63
    else magnitude < Number.countBound
  if number.isInteger && isWord then
    .integer (if number.negative then -magnitude else magnitude)
  else .decimal (number.toRate?.getD 0)

/-- A number with its sign. -/
def signedNumber (strict : Bool) : Scan Number := do
  if (← peek?) = some '-' then do
    drop
    number strict true
  else number strict false

/-- What the value is that comes next. A list or an object is told by its first octet. -/
def found : Scan Found := do
  match ← peek? with
  | some 'n' => do drop; word ['u', 'l', 'l']; return .null
  | some 't' => do drop; word ['r', 'u', 'e']; return .bool true
  | some 'f' => do drop; word ['a', 'l', 's', 'e']; return .bool false
  | some '"' => do drop; return .text (← text)
  | some '[' => return .list
  | some '\x7b' => return .object
  | some octet =>
    if octet = '-' || octet.isDigit then return foundNumber (← signedNumber true)
    else failAhead .noValue
  | none => failAhead .noValue

/-- The value that comes next is not what was asked for. -/
def mistyped (expected : String) : Scan Unit := do
  failHere (.mistyped (← found) expected)

/-- A string. -/
def textField : Scan Unit := do
  match ← peekValue? with
  | none => failAhead .endInValue
  | some '"' => do
    drop
    let _ ← text
  | some _ => mistyped "a string"

/-- A string or `null`. -/
def maybeTextField : Scan Unit := do
  match ← peekValue? with
  | some 'n' => do drop; word ['u', 'l', 'l']
  | _ => textField

/-- A truth value. -/
def flagField : Scan Unit := do
  match ← peekValue? with
  | none => failAhead .endInValue
  | some 't' => do drop; word ['r', 'u', 'e']
  | some 'f' => do drop; word ['a', 'l', 's', 'e']
  | some _ => mistyped "a boolean"

/-- A number that is a count. -/
def countNumber : Scan Unit := do
  match foundNumber (← signedNumber true) with
  | .integer value => if value < 0 then failHere (.negative value)
  | found => failHere (.mistyped found "a count")

/-- A number that is asked for as a count or as a rate. -/
def numberField (expected : String) (scan : Scan Unit) : Scan Unit := do
  match ← peekValue? with
  | none => failAhead .endInValue
  | some octet => if octet = '-' || octet.isDigit then scan else mistyped expected

/-- The value of a field. -/
def field : FieldForm → Scan Unit
  | .text => textField
  | .maybeText => maybeTextField
  | .flag => flagField
  | .count => numberField "a count" countNumber
  | .rate => numberField "a rate" do let _ ← signedNumber true

mutual

/-- A value that is passed over. The first argument bounds the nesting. -/
def skipValue : Nat → Scan Unit
  | 0 => failAhead .endInValue
  | fuel + 1 => do
    match ← peekValue? with
    | none => failAhead .endInValue
    | some 'n' => do drop; word ['u', 'l', 'l']
    | some 't' => do drop; word ['r', 'u', 'e']
    | some 'f' => do drop; word ['a', 'l', 's', 'e']
    | some '"' => do drop; skipString
    | some '[' => do
      drop
      match ← peekValue? with
      | none => failAhead .endInList
      | some ']' => drop
      | some _ => skipItems fuel
    | some '\x7b' => do
      drop
      match ← peekValue? with
      | none => failAhead .endInObject
      | some '\x7d' => drop
      | some _ => skipMembers fuel
    | some octet => do
      if octet = '-' || octet.isDigit then
        let _ ← signedNumber false
      else failAhead .noValue

/-- One item or more that are passed over, up to and with the closing bracket. -/
def skipItems : Nat → Scan Unit
  | 0 => failAhead .endInList
  | fuel + 1 => do
    skipValue fuel
    match ← peekValue? with
    | none => failAhead .endInList
    | some ',' => do drop; skipItems fuel
    | some ']' => drop
    | some _ => failAhead .noListEnd

/-- One member or more that are passed over, up to and with the closing brace. -/
def skipMembers : Nat → Scan Unit
  | 0 => failAhead .endInObject
  | fuel + 1 => do
    match ← peekValue? with
    | none => failAhead .endInObject
    | some '"' => do drop; skipString
    | some _ => failAhead .noKey
    match ← peekValue? with
    | none => failAhead .endInObject
    | some ':' => drop
    | some _ => failAhead .noColon
    skipValue fuel
    match ← peekValue? with
    | none => failAhead .endInObject
    | some ',' => do drop; skipMembers fuel
    | some '\x7d' => drop
    | some _ => failAhead .noObjectEnd

end

/-- The value of a field that is not known. -/
def unknownField : Scan Unit := do
  skipValue (2 * (← left) + 2)

/-- An item comes next; in front of all but the first there is a comma. -/
def hasItem (first : Bool) : Scan Bool := do
  match ← peekValue? with
  | none => failAhead .endInList
  | some ']' => return false
  | some octet =>
    if first then return true
    else if octet = ',' then do
      drop
      match ← peekValue? with
      | none => failAhead .endInValue
      | some ']' => failAhead .trailingComma
      | some _ => return true
    else failAhead .noListEnd

/-- A key comes next; in front of all but the first there is a comma. -/
def hasKey (first : Bool) : Scan Bool := do
  match ← peekValue? with
  | none => failAhead .endInObject
  | some '\x7d' => return false
  | some octet =>
    if first then
      if octet = '"' then return true else failAhead .noKey
    else if octet = ',' then do
      drop
      match ← peekValue? with
      | none => failAhead .endInValue
      | some '"' => return true
      | some '\x7d' => failAhead .trailingComma
      | some _ => failAhead .noKey
    else failAhead .noObjectEnd

/-- The colon behind a key. -/
def colon : Scan Unit := do
  match ← peekValue? with
  | none => failAhead .endInObject
  | some ':' => drop
  | some _ => failAhead .noColon

/-- The fields of a record in their order. What the record lacks as a whole is returned. -/
def orderedFields (expected : String) : Nat → Bool → List FieldRule → Scan (Option Cause)
  | _, _, [] => return none
  | position, first, rule :: rules => do
    if ← hasItem first then do
      field rule.form
      orderedFields expected (position + 1) false rules
    else if rule.required then return some (.short position expected)
    else orderedFields expected (position + 1) first rules

/-- The first required field that was not given. -/
def missing? (form : RecordForm) (given : List String) : Option Cause :=
  (form.fields.find? fun rule => rule.required && !given.contains rule.name).map fun rule =>
    .missing rule.name

/-- The fields of a record by their names, of which some were given. What the record lacks as a
whole is returned. The first argument bounds their number. -/
def namedFields (form : RecordForm) : Nat → Bool → List String → Scan (Option Cause)
  | 0, _, _ => failAhead .endInObject
  | fuel + 1, first, given => do
    if ← hasKey first then do
      drop
      let key ← text
      match form.field? key with
      | none => do
        colon
        unknownField
        namedFields form fuel false given
      | some rule =>
        if given.contains key then return some (.repeated key)
        else do
          colon
          field rule.form
          namedFields form fuel false (key :: given)
    else return missing? form given

/-- The end of a list, if it comes next, and what is wrong if it does not. -/
def listEnd (cursor : Cursor) : Cursor × Option Fault :=
  let cursor := cursor.skip
  match cursor.rest with
  | [] => (cursor, some { cause := .endInList, place := cursor.ahead })
  | ']' :: _ => (cursor.advance 1, none)
  | ',' :: _ =>
    let cursor := (cursor.advance 1).skip
    let cause := if cursor.rest.head? = some ']' then .trailingComma else .trailingText
    (cursor, some { cause, place := cursor.ahead })
  | _ => (cursor, some { cause := .trailingText, place := cursor.ahead })

/-- The end of an object, if it comes next, and what is wrong if it does not. -/
def objectEnd (cursor : Cursor) : Cursor × Option Fault :=
  let cursor := cursor.skip
  match cursor.rest with
  | [] => (cursor, some { cause := .endInObject, place := cursor.ahead })
  | '\x7d' :: _ => (cursor.advance 1, none)
  | ',' :: _ => (cursor, some { cause := .trailingComma, place := cursor.ahead })
  | _ => (cursor, some { cause := .trailingText, place := cursor.ahead })

/-- The end of a record or list. What it lacks as a whole comes before a fault of the end. -/
def close (atEnd : Cursor → Cursor × Option Fault) (lack : Option Cause) : Scan Unit := do
  let (cursor, fault?) := atEnd (← get)
  set cursor
  match lack, fault? with
  | some cause, _ => failHere cause
  | none, some fault => throw fault
  | none, none => return ()

/-- A record. -/
def record (form : RecordForm) : Scan Unit := do
  match ← peekValue? with
  | none => failAhead .endInValue
  | some '[' => do
    drop
    close listEnd (← orderedFields form.title 0 true form.fields)
  | some '\x7b' => do
    drop
    close objectEnd (← namedFields form ((← left) + 1) true [])
  | some _ => mistyped form.title

/-- The records of a list. The first argument bounds their number. -/
def records (form : RecordForm) : Nat → Bool → Scan Unit
  | 0, _ => failAhead .endInList
  | fuel + 1, first => do
    if ← hasItem first then do
      record form
      records form fuel false

/-- A whole text. -/
def document (form : Form) : Scan Unit := do
  match form with
  | .record form => record form
  | .list form =>
    match ← peekValue? with
    | none => failAhead .endInValue
    | some '[' => do
      drop
      records form ((← left) + 1) true
      close listEnd none
    | some _ => mistyped "a list"
  match ← peekValue? with
  | none => return ()
  | some _ => failAhead .trailingText

end Scan

namespace Form

/-- The first fault of a text. -/
def fault? (form : Form) (text : String) : Option Fault :=
  match (Scan.document form).run (.ofText text) with
  | .ok _ => none
  | .error fault => some fault

/-- What is wrong with a text that does not hold what was asked for. -/
def complaint (form : Form) (text : String) : String :=
  ((form.fault? text).map Fault.message).getD "unexpected content"

end Form
end Json
end VpnFleet
