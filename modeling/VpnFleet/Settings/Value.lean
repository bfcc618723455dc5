import VpnFleet.Text.Blank
import VpnFleet.Text.Escaped

/-!
# Values of settings

A source of settings gives names values. Only texts and counts are of use; any
other value is kept as such, because it is a fault where a setting takes it.

**Texts of the environment.** An environment variable is a text, and what it
stands for is told by its form: `true`, `false`, lists and tables are neither
text nor count, a quoted text is what stands between its quotes, a numeral is
a number, and anything else is the text itself, without the blanks around it.
-/

namespace VpnFleet

/-- What a source gives for a setting. -/
inductive SettingValue where
  | text (value : String)
  | count (value : Nat)
  /-- A number that is no count, a truth value, a list or a table. -/
  | other
deriving DecidableEq, Repr

namespace SettingValue

/-- One more than the greatest count. -/
def countBound : Nat :=
  1 <<< 64

/-- A number: a count if it is in range. -/
def ofNumber (negative : Bool) (magnitude : Nat) : SettingValue :=
  if magnitude = 0 || (!negative && magnitude < countBound) then .count magnitude else .other

/-- The sign in front, if there is one. -/
def splitSign : List Char → Bool × List Char
  | '-' :: cs => (true, cs)
  | '+' :: cs => (false, cs)
  | cs => (false, cs)

/-- The characters are decimal digits, at least one. -/
def isDigits (cs : List Char) : Bool :=
  !cs.isEmpty && cs.all Char.isDigit

/-- The value of decimal digits. -/
def digitsValue (cs : List Char) : Nat :=
  cs.foldl (fun value c => value * 10 + (c.toNat - '0'.toNat)) 0

/-- The characters are an exponent with its letter, or nothing. -/
def isExponent : List Char → Bool
  | [] => true
  | c :: cs => (c = 'e' || c = 'E') && isDigits (splitSign cs).2

/-- The characters are a number with a point. -/
def isFraction (cs : List Char) : Bool :=
  let cs := (splitSign cs).2
  let whole := cs.takeWhile Char.isDigit
  match cs.dropWhile Char.isDigit with
  | '.' :: cs =>
    !(whole ++ cs.takeWhile Char.isDigit).isEmpty && isExponent (cs.dropWhile Char.isDigit)
  | _ => false

/-- What the magnitude of an integer of 64 bits stays below. -/
def magnitudeBound (negative : Bool) : Nat :=
  if negative then (1 <<< 63) + 1 else countBound

/-- The number that a numeral stands for. Integers beyond 64 bits are no numerals. -/
def numeral? (cs : List Char) : Option SettingValue :=
  let (negative, digits) := splitSign cs
  if isFraction cs then some .other
  else if isDigits digits && digitsValue digits < magnitudeBound negative then
    some (ofNumber negative (digitsValue digits))
  else none

/-- The blanks that may stand around a value inside a list or table. -/
def isGap (c : Char) : Bool :=
  c = ' ' || c = '\t' || c = '\n' || c = '\x0c' || c = '\r'

/-- Skips blanks. -/
def skip (cs : List Char) : List Char :=
  cs.dropWhile isGap

/-- The character ends a plain value. -/
def isSeparator (c : Char) : Bool :=
  c = ',' || c = '[' || c = ']' || c = '\x7b' || c = '\x7d'

/-- A plain value: a numeral, or else a text. -/
def ofPlain (cs : List Char) : SettingValue :=
  let trimmed := Text.trimChars cs
  (numeral? trimmed).getD (.text (String.ofList trimmed))

/-- The name in front of a member of a table. -/
def readName (cs : List Char) : Option (List Char) :=
  match cs with
  | '"' :: cs => (Text.readEscaped cs).map Prod.snd
  | cs =>
    let isNameChar := fun c : Char => c.isAlphanum || c = '_' || c = '-'
    if (cs.takeWhile isNameChar).isEmpty then none else some (cs.dropWhile isNameChar)

mutual

/-- A value and the rest. The first argument bounds the nesting. -/
def read : Nat → List Char → Option (SettingValue × List Char)
  | 0, _ => none
  | fuel + 1, cs =>
    match skip cs with
    | 't' :: 'r' :: 'u' :: 'e' :: rest => some (.other, skip rest)
    | 'f' :: 'a' :: 'l' :: 's' :: 'e' :: rest => some (.other, skip rest)
    | '\x7b' :: rest => (readMembers fuel rest).map fun rest => (.other, skip rest)
    | '[' :: rest => (readItems fuel rest).map fun rest => (.other, skip rest)
    | '"' :: rest =>
      (Text.readEscaped rest).map fun (chars, rest) =>
        (.text (String.ofList chars), skip rest)
    | '\'' :: c :: '\'' :: rest => some (.text (String.singleton c), skip rest)
    | '\'' :: _ => none
    | cs =>
      some (ofPlain (cs.takeWhile fun c => !isSeparator c), cs.dropWhile fun c => !isSeparator c)

/-- The items of a list up to and with the closing bracket. -/
def readItems : Nat → List Char → Option (List Char)
  | 0, _ => none
  | _ + 1, ']' :: rest => some rest
  | fuel + 1, cs =>
    match read fuel cs with
    | some (_, ',' :: rest) => readItems fuel rest
    | some (_, ']' :: rest) => some rest
    | _ => none

/-- The members of a table up to and with the closing brace. -/
def readMembers : Nat → List Char → Option (List Char)
  | 0, _ => none
  | _ + 1, '\x7d' :: rest => some rest
  | fuel + 1, cs =>
    match (readName (skip cs)).map skip with
    | some ('=' :: rest) =>
      match read fuel rest with
      | some (_, ',' :: rest) => readMembers fuel rest
      | some (_, '\x7d' :: rest) => some rest
      | _ => none
    | _ => none

end

/-- Texts with commas are lists, unless they start like a list, a table or a quoted text. -/
def isCommaList (cs : List Char) : Bool :=
  cs.contains ',' && !(['[', '\x7b', '"', '\''].contains (cs.headD ' '))

/-- The value that an environment text stands for. -/
def ofEnvText (raw : String) : SettingValue :=
  let cs := Text.trimChars raw.toList
  if isCommaList cs then .other
  else
    match read (2 * cs.length + 2) cs with
    | some (value, []) => value
    | _ => .text (String.ofList cs)

end SettingValue

/-- A setting of a source: the path of its name, and its value. -/
structure SettingEntry where
  path : List String
  value : SettingValue
deriving DecidableEq, Repr

namespace SettingEntry

/-- How the environment variables of the client start. -/
def envStart : List Char :=
  "byocvpn_".toList

/-- The parts of a name: two underscores or a point stand between them. -/
def nameParts (name : List Char) : List String :=
  ((String.ofList name).replace "__" ".").splitOn "."

/-- The setting of an environment variable, whatever the case of its name. Blanks around the name
or behind its start are passed over, and a name with an empty part names no setting. -/
def ofEnv? (name text : String) : Option SettingEntry :=
  let name := Text.trimChars (name.toList.map Char.toLower)
  let path := nameParts (Text.trimChars (name.drop envStart.length))
  if envStart.isPrefixOf name && path.all fun part => !part.isEmpty then
    some { path, value := SettingValue.ofEnvText text }
  else none

end SettingEntry
end VpnFleet
