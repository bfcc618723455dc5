import VpnFleet.Json.Number

/-!
# JSON values

The tree of a JSON text. A string is kept as the text it stands for, or as
`none` when it spells half of a surrogate pair alone: such a string is well
formed, and only a reader that wants its text refuses it.
-/

namespace VpnFleet

/-- A JSON value; members of an object keep their order and may repeat a key. -/
inductive Json where
  | null
  | bool (value : Bool)
  | number (value : Json.Number)
  | string (text : Option String)
  | array (items : List Json)
  | object (members : List (Option String × Json))
deriving Repr

namespace Json

/-- A string whose text exists. -/
def text? : Json → Option String
  | string text => text
  | _ => none

/-- A string, or nothing for `null`. -/
def maybeText? : Json → Option (Option String)
  | null => some none
  | value => value.text?.map some

/-- A truth value. -/
def flag? : Json → Option Bool
  | bool value => some value
  | _ => none

/-- A count. -/
def count? : Json → Option Nat
  | number n => n.toCount?
  | _ => none

/-- A rate. -/
def rate? : Json → Option Float
  | number n => n.toRate?
  | _ => none

/-- A list whose items all decode, in order. -/
def list? {α : Type} (item? : Json → Option α) : Json → Option (List α)
  | array items => items.mapM item?
  | _ => none

end Json
end VpnFleet
