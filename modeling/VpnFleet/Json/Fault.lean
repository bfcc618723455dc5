import VpnFleet.Decimal.Exact
import VpnFleet.Text.Quoted

/-!
# Faults of a JSON text

Why a text is not what was asked for, and where this shows. The place counts
lines from one and, inside a line, the octets up to and with the one that shows
the fault.
-/

namespace VpnFleet
namespace Json

/-- A place in a text: its line, and how many octets of the line are in front of it. -/
structure Place where
  line : Nat
  column : Nat
deriving DecidableEq, Repr

/-- A value that was found where another was asked for. -/
inductive Found where
  | null
  | bool (value : Bool)
  | integer (value : Int)
  | decimal (value : Float)
  | text (value : String)
  | list
  | object
deriving Repr

namespace Found

/-- The text of what was found. -/
def shown : Found → String
  | null => "null"
  | bool value => "boolean " ++ toString value
  | integer value => "integer " ++ toString value
  | decimal value => "number " ++ Decimal.exact value
  | text value => "string " ++ Text.quoted value
  | list => "list"
  | object => "object"

end Found

/-- What is wrong with a text. -/
inductive Cause where
  | endInValue
  | endInList
  | endInObject
  | endInString
  | noColon
  | noListEnd
  | noObjectEnd
  | noWord
  | noValue
  | noKey
  | badEscape
  | badNumber
  | hugeNumber
  /-- The second half of a surrogate pair stands first, or the first half before no second. -/
  | loneSurrogate
  /-- No escape follows the first half of a surrogate pair. -/
  | brokenPair
  | control
  | trailingComma
  | trailingText
  | mistyped (found : Found) (expected : String)
  /-- An integer below zero where a count was asked for. -/
  | negative (value : Int)
  | missing (field : String)
  | repeated (field : String)
  | short (length : Nat) (expected : String)
deriving Repr

namespace Cause

/-- The text of the cause. -/
def message : Cause → String
  | endInValue => "the text ends inside a value"
  | endInList => "the text ends inside a list"
  | endInObject => "the text ends inside an object"
  | endInString => "the text ends inside a string"
  | noColon => "expected a colon"
  | noListEnd => "expected a comma or the end of the list"
  | noObjectEnd => "expected a comma or the end of the object"
  | noWord => "expected null, true or false"
  | noValue => "expected a value"
  | noKey => "expected a key between quotes"
  | badEscape => "invalid escape"
  | badNumber => "invalid number"
  | hugeNumber => "number out of range"
  | loneSurrogate => "half of a surrogate pair stands alone"
  | brokenPair => "surrogate pair without its second half"
  | control => "control character inside a string"
  | trailingComma => "trailing comma"
  | trailingText => "trailing characters"
  | mistyped found expected => "found " ++ found.shown ++ ", expected " ++ expected
  | negative value => "found " ++ toString value ++ ", expected no integer below zero"
  | missing field => "missing field " ++ field
  | repeated field => "repeated field " ++ field
  | short length expected => "found " ++ toString length ++ " fields, expected " ++ expected

end Cause

/-- A fault of a text. -/
structure Fault where
  cause : Cause
  place : Place
deriving Repr

namespace Fault

/-- The text of the fault. -/
def message (fault : Fault) : String :=
  fault.cause.message ++ " at line " ++ toString fault.place.line ++ " column "
    ++ toString fault.place.column

end Fault
end Json
end VpnFleet
