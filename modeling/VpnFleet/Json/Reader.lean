import VpnFleet.Json.Value
import VpnFleet.Text.Hex

/-!
# Reading JSON text

A reader takes the characters it needs from the front and returns the rest.
The grammar is the standard one: four blanks (space, tab, newline, return), no
leading zeros, no trailing commas, no control character inside a string.
Anything but blanks after the value is refused.
-/

namespace VpnFleet
namespace Json

/-- The four blanks of the grammar. -/
def isSpace (c : Char) : Bool :=
  c = ' ' || c = '\t' || c = '\n' || c = '\r'

/-- Skips blanks. -/
def skip (cs : List Char) : List Char :=
  cs.dropWhile isSpace

/-- The value of a decimal digit. -/
def digit? (c : Char) : Option Nat :=
  if c.isDigit then some (c.toNat - '0'.toNat) else none

/-- The unit spelled by four hexadecimal digits. -/
def unit? (a b c d : Char) : Option Nat :=
  Text.hexNumber? [a, b, c, d]

/-- The digits in front, possibly none. -/
def digits : List Char → List Nat × List Char
  | [] => ([], [])
  | c :: cs =>
    match digit? c with
    | some d => let (ds, rest) := digits cs; (d :: ds, rest)
    | none => ([], c :: cs)

/-- The digits in front, at least one. -/
def someDigits (cs : List Char) : Option (List Nat × List Char) :=
  match digits cs with
  | ([], _) => none
  | (ds, rest) => some (ds, rest)

/-- The part after the point, if there is one. -/
def readFraction : List Char → Option (List Nat × List Char)
  | '.' :: cs => someDigits cs
  | cs => some ([], cs)

/-- The digits of an exponent behind its sign. -/
def readExponentDigits : List Char → Option ((Bool × List Nat) × List Char)
  | '+' :: cs => (someDigits cs).map fun (ds, rest) => ((false, ds), rest)
  | '-' :: cs => (someDigits cs).map fun (ds, rest) => ((true, ds), rest)
  | cs => (someDigits cs).map fun (ds, rest) => ((false, ds), rest)

/-- The exponent, if there is one. -/
def readExponent : List Char → Option ((Option (Bool × List Nat)) × List Char)
  | 'e' :: cs => (readExponentDigits cs).map fun (e, rest) => (some e, rest)
  | 'E' :: cs => (readExponentDigits cs).map fun (e, rest) => (some e, rest)
  | cs => some (none, cs)

/-- An unsigned number: a zero stands alone in front of the point. -/
def readUnsigned (negative : Bool) (cs : List Char) : Option (Number × List Char) := do
  let (whole, cs) ← someDigits cs
  if whole.length > 1 && whole.head? = some 0 then none
  let (fraction, cs) ← readFraction cs
  let (exponent, cs) ← readExponent cs
  return ({ negative, whole, fraction, exponent }, cs)

/-- A number. -/
def readNumber : List Char → Option (Number × List Char)
  | '-' :: cs => readUnsigned true cs
  | cs => readUnsigned false cs

/-- The character that a one-letter escape stands for. -/
def escaped? : Char → Option Char
  | '"' => some '"'
  | '\\' => some '\\'
  | '/' => some '/'
  | 'b' => some '\x08'
  | 'f' => some '\x0c'
  | 'n' => some '\n'
  | 'r' => some '\r'
  | 't' => some '\t'
  | _ => none

/-- The first unit of a surrogate pair. -/
def isLeading (unit : Nat) : Bool :=
  0xD800 ≤ unit && unit ≤ 0xDBFF

/-- The second unit of a surrogate pair. -/
def isTrailing (unit : Nat) : Bool :=
  0xDC00 ≤ unit && unit ≤ 0xDFFF

/-- The character of a surrogate pair. -/
def pairChar (leading trailing : Nat) : Char :=
  Char.ofNat (0x10000 + (leading - 0xD800) * 0x400 + (trailing - 0xDC00))

/-- Puts a character in front of a text that exists. -/
def prepend (c : Char) (reading : Option (List Char) × List Char) :
    Option (List Char) × List Char :=
  (reading.1.map (c :: ·), reading.2)

/-- Half a surrogate pair leaves a string without a text. -/
def spoil (reading : Option (List Char) × List Char) : Option (List Char) × List Char :=
  (none, reading.2)

/-- The inside of a string, up to and with the closing quote. -/
def readChars : List Char → Option (Option (List Char) × List Char)
  | [] => none
  | '"' :: rest => some (some [], rest)
  | '\\' :: 'u' :: a :: b :: c :: d :: rest => do
    let unit ← unit? a b c d
    if isLeading unit then
      match rest with
      | '\\' :: 'u' :: a' :: b' :: c' :: d' :: rest' =>
        let unit' ← unit? a' b' c' d'
        if isTrailing unit' then
          return prepend (pairChar unit unit') (← readChars rest')
        else
          return spoil (← readChars ('\\' :: 'u' :: a' :: b' :: c' :: d' :: rest'))
      | rest => return spoil (← readChars rest)
    else if isTrailing unit then
      return spoil (← readChars rest)
    else
      return prepend (Char.ofNat unit) (← readChars rest)
  | '\\' :: c :: rest => do
    let e ← escaped? c
    return prepend e (← readChars rest)
  | c :: rest => do
    if c.toNat < 0x20 then none
    return prepend c (← readChars rest)

/-- A string behind its opening quote. -/
def readString (cs : List Char) : Option (Option String × List Char) :=
  (readChars cs).map fun (text, rest) => (text.map String.ofList, rest)

/-- A fixed word behind its first letter. -/
def readWord (word : List Char) (value : Json) (cs : List Char) : Option (Json × List Char) :=
  if word.isPrefixOf cs then some (value, cs.drop word.length) else none

mutual

/-- A value, blanks in front allowed. The first argument bounds the nesting. -/
def readValue : Nat → List Char → Option (Json × List Char)
  | 0, _ => none
  | fuel + 1, cs =>
    match skip cs with
    | 'n' :: cs => readWord ['u', 'l', 'l'] null cs
    | 't' :: cs => readWord ['r', 'u', 'e'] (bool true) cs
    | 'f' :: cs => readWord ['a', 'l', 's', 'e'] (bool false) cs
    | '"' :: cs => (readString cs).map fun (text, rest) => (string text, rest)
    | '[' :: cs =>
      match skip cs with
      | ']' :: rest => some (array [], rest)
      | cs => (readItems fuel cs).map fun (items, rest) => (array items, rest)
    | '\x7b' :: cs =>
      match skip cs with
      | '\x7d' :: rest => some (object [], rest)
      | cs => (readMembers fuel cs).map fun (members, rest) => (object members, rest)
    | cs => (readNumber cs).map fun (n, rest) => (number n, rest)

/-- One item or more, up to and with the closing bracket. -/
def readItems : Nat → List Char → Option (List Json × List Char)
  | 0, _ => none
  | fuel + 1, cs => do
    let (item, cs) ← readValue fuel cs
    match skip cs with
    | ',' :: cs =>
      let (items, rest) ← readItems fuel cs
      return (item :: items, rest)
    | ']' :: rest => return ([item], rest)
    | _ => none

/-- One member or more, up to and with the closing brace. -/
def readMembers : Nat → List Char → Option ((List (Option String × Json)) × List Char)
  | 0, _ => none
  | fuel + 1, cs =>
    match skip cs with
    | '"' :: cs => do
      let (key, cs) ← readString cs
      match skip cs with
      | ':' :: cs =>
        let (value, cs) ← readValue fuel cs
        match skip cs with
        | ',' :: cs =>
          let (members, rest) ← readMembers fuel cs
          return ((key, value) :: members, rest)
        | '\x7d' :: rest => return ([(key, value)], rest)
        | _ => none
      | _ => none
    | _ => none

end

/-- The value of a whole text. -/
def ofChars? (cs : List Char) : Option Json := do
  let (value, rest) ← readValue (2 * cs.length + 2) cs
  if (skip rest).isEmpty then some value else none

/-- The value of a whole text. -/
def ofText? (s : String) : Option Json :=
  ofChars? s.toList

end Json
end VpnFleet
