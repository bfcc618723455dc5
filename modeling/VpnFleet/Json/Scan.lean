import VpnFleet.Json.Fault
import VpnFleet.Json.Reader
import VpnFleet.Text.Utf8

/-!
# Scanning JSON text for faults

A scan goes through a text octet by octet and stops at the first fault. An octet
is kept as the character with its number. A fault shows either in what was
taken last (*here*) or in the octet that comes next (*ahead*).

Numbers and strings are scanned strictly where their value is asked for, and
loosely where they are passed over: then no number is too large, and halves of
surrogate pairs may stand alone.
-/

namespace VpnFleet
namespace Json

namespace Place

/-- The place in front of a text. -/
def start : Place :=
  { line := 1, column := 0 }

/-- The place behind one more octet. -/
def behind (place : Place) (octet : Char) : Place :=
  if octet = '\n' then { line := place.line + 1, column := 0 }
  else { place with column := place.column + 1 }

end Place

/-- A place in a text and the octets from there on. -/
structure Cursor where
  place : Place
  rest : List Char
deriving Repr

namespace Cursor

/-- The cursor in front of a text. -/
def ofText (text : String) : Cursor where
  place := .start
  rest := (Text.octets text).map Char.ofNat

/-- The place of the octet that comes next; at the end, of the last one. -/
def ahead (cursor : Cursor) : Place :=
  match cursor.rest with
  | [] => cursor.place
  | octet :: _ => cursor.place.behind octet

/-- The cursor behind some octets. -/
def advance : Nat → Cursor → Cursor
  | n + 1, { place, rest := octet :: rest } => advance n { place := place.behind octet, rest }
  | _, cursor => cursor

/-- The cursor behind the blanks. -/
def skip (cursor : Cursor) : Cursor :=
  cursor.advance (cursor.rest.takeWhile isSpace).length

end Cursor

/-- A scan from a cursor to a cursor, or to a fault. -/
abbrev Scan (α : Type) : Type :=
  StateT Cursor (Except Fault) α

namespace Scan

/-- A fault in what was taken last. -/
def failHere {α : Type} (cause : Cause) : Scan α :=
  fun cursor => .error { cause, place := cursor.place }

/-- A fault in the octet that comes next. -/
def failAhead {α : Type} (cause : Cause) : Scan α :=
  fun cursor => .error { cause, place := cursor.ahead }

/-- A fault in an octet of this line, some octets in front of what was taken last. -/
def failBefore {α : Type} (octets : Nat) (cause : Cause) : Scan α :=
  fun cursor =>
    let place := cursor.place
    .error { cause, place := { place with column := place.column - octets } }

/-- The octet that comes next, which is not taken. -/
def peek? : Scan (Option Char) :=
  return (← get).rest.head?

/-- Takes one octet. -/
def drop : Scan Unit :=
  modify (Cursor.advance 1)

/-- Takes the octet that comes next. -/
def next? : Scan (Option Char) := do
  let octet ← peek?
  drop
  return octet

/-- Takes blanks; the octet behind them is not taken. -/
def peekValue? : Scan (Option Char) := do
  modify Cursor.skip
  peek?

/-- How many octets are left. -/
def left : Scan Nat :=
  return (← get).rest.length

/-- Takes the digits that come next. -/
def digits : Scan (List Nat) := do
  let cursor ← get
  let (found, _) := Json.digits cursor.rest
  set (cursor.advance found.length)
  return found

/-- Takes the rest of a word. -/
def word : List Char → Scan Unit
  | [] => return ()
  | letter :: letters => do
    match ← next? with
    | none => failHere .endInValue
    | some octet => if octet = letter then word letters else failHere .noWord

/-- What a number lacks when the text ends inside it. -/
def endInNumber (strict : Bool) : Cause :=
  if strict then .endInValue else .badNumber

/-- The whole digits of a number; a zero in front stands alone. -/
def whole (strict : Bool) : Scan (List Nat) := do
  match ← next? with
  | none => failHere (endInNumber strict)
  | some octet =>
    match digit? octet with
    | none => failHere .badNumber
    | some 0 => do
      if ((← peek?).bind digit?).isSome then failAhead .badNumber
      return [0]
    | some first => return first :: (← digits)

/-- The digits behind the point. -/
def fraction (strict : Bool) : Scan (List Nat) := do
  let found ← digits
  if found.isEmpty then
    match ← peek? with
    | none => failAhead (endInNumber strict)
    | some _ => failAhead .badNumber
  else return found

/-- The sign of an exponent, if there is one. -/
def exponentSign : Scan Bool := do
  match ← peek? with
  | some '+' => do drop; return false
  | some '-' => do drop; return true
  | _ => return false

/-- The digits of an exponent. -/
def exponentDigits (strict : Bool) : Scan (List Nat) := do
  match ← next? with
  | none => failHere (endInNumber strict)
  | some octet =>
    match digit? octet with
    | none => failHere .badNumber
    | some first => return first :: (← digits)

/-- An exponent behind its letter. -/
def exponent (strict : Bool) : Scan (Bool × List Nat) := do
  let sign ← exponentSign
  return (sign, ← exponentDigits strict)

/-- How many digits of an exponent are taken until it is unbounded. -/
def untilUnbounded (found : List Nat) : Nat :=
  ((List.range (found.length + 1)).find? fun n =>
    Number.exponentBound ≤ Number.digitsValue (found.take n)).getD found.length

/-- Refuses a number that is too large, at the digit that makes its exponent unbounded or else
at its end. -/
def demandRange (number : Number) : Scan Unit := do
  if number.magnitude?.isNone then
    failBefore (number.exponent.elim 0 fun (_, found) => found.length - untilUnbounded found)
      .hugeNumber

/-- A number behind its sign. -/
def number (strict negative : Bool) : Scan Number := do
  let whole ← whole strict
  let fraction ← do
    if (← peek?) = some '.' then do drop; fraction strict else pure []
  let exponent ← do
    match ← peek? with
    | some 'e' => do drop; some <$> exponent strict
    | some 'E' => do drop; some <$> exponent strict
    | _ => pure none
  let number : Number := { negative, whole, fraction, exponent }
  if strict then demandRange number
  return number

/-- Four hexadecimal digits. -/
def unit : Scan Nat := do
  let cursor ← get
  set (cursor.advance 4)
  match cursor.rest with
  | a :: b :: c :: d :: _ =>
    match unit? a b c d with
    | some n => return n
    | none => failHere .badEscape
  | _ => failHere .endInString

/-- One of the two octets in front of the second half of a surrogate pair. -/
def pairMark (mark : Char) : Scan Unit := do
  match ← peek? with
  | none => failHere .endInString
  | some octet => do
    drop
    if octet ≠ mark then failHere .brokenPair

/-- The character that one escape of four digits spells, or two that make a pair. -/
def escapedUnits : Scan Char := do
  let first ← unit
  if isTrailing first then failHere .loneSurrogate
  else if isLeading first then do
    pairMark '\\'
    pairMark 'u'
    let second ← unit
    if isTrailing second then return pairChar first second else failHere .loneSurrogate
  else return Char.ofNat first

/-- The octets of what an escape stands for, behind its backslash. -/
def escape (strict : Bool) : Scan (List Char) := do
  match ← next? with
  | none => failHere .endInString
  | some 'u' =>
    if strict then
      let char ← escapedUnits
      return (Text.octets (String.singleton char)).map Char.ofNat
    else do
      let _ ← unit
      return []
  | some letter =>
    match escaped? letter with
    | some char => return [char]
    | none => failHere .badEscape

/-- The octets of a string behind its opening quote. The first argument bounds their number. -/
def string (strict : Bool) : Nat → Scan (List Char)
  | 0 => failHere .endInString
  | fuel + 1 => do
    match ← peek? with
    | none => failHere .endInString
    | some '"' => do drop; return []
    | some '\\' => do
      drop
      let octets ← escape strict
      return octets ++ (← string strict fuel)
    | some octet =>
      if octet.toNat < 0x20 then do
        if strict then drop
        failHere .control
      else do
        drop
        return octet :: (← string strict fuel)

/-- A string behind its opening quote. -/
def text : Scan String := do
  let octets ← string true ((← left) + 1)
  return Text.ofOctets (octets.map Char.toNat)

/-- A string that is passed over, behind its opening quote. -/
def skipString : Scan Unit := do
  let _ ← string false ((← left) + 1)

end Scan
end Json
end VpnFleet
