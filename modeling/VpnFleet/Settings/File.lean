import VpnFleet.Settings.Value

/-!
# Settings files

A settings file has one setting per line, `key = value`, with comments and
empty lines between. A key is bare or quoted and may have several parts with
points between them. A value is a quoted text, a literal text between single
quotes, an integer, a double with a point or exponent, or a truth value.

No key may be given twice, and none may continue another.
-/

namespace VpnFleet
namespace SettingsFile

/-- The blanks inside a line. -/
def isGap (c : Char) : Bool :=
  c = ' ' || c = '\t'

/-- Skips blanks. -/
def skip (cs : List Char) : List Char :=
  cs.dropWhile isGap

/-- What may stand behind a value or alone on a line: blanks and a comment. -/
def isTrailer (cs : List Char) : Bool :=
  match skip cs with
  | [] => true
  | '#' :: comment => comment.all Text.isPlain
  | _ => false

/-- The character may stand in a bare key. -/
def isKeyChar (c : Char) : Bool :=
  c.isAlphanum || c = '_' || c = '-'

/-- A literal text behind its opening quote. -/
def readLiteral (cs : List Char) : Option (List Char × List Char) :=
  match cs.dropWhile (· ≠ '\'') with
  | _ :: rest =>
    let chars := cs.takeWhile (· ≠ '\'')
    if chars.all Text.isPlain then some (chars, rest) else none
  | [] => none

/-- One part of a key. -/
def readPart (cs : List Char) : Option (String × List Char) :=
  match cs with
  | '"' :: rest => (Text.readEscaped rest).map fun (chars, rest) => (String.ofList chars, rest)
  | '\'' :: rest => (readLiteral rest).map fun (chars, rest) => (String.ofList chars, rest)
  | cs =>
    let chars := cs.takeWhile isKeyChar
    if chars.isEmpty then none else some (String.ofList chars, cs.dropWhile isKeyChar)

/-- A key up to and with the equals sign. The first argument bounds the number of parts. -/
def readKey : Nat → List Char → Option (List String × List Char)
  | 0, _ => none
  | fuel + 1, cs => do
    let (part, rest) ← readPart (skip cs)
    match skip rest with
    | '=' :: rest => return ([part], rest)
    | '.' :: rest =>
      let (parts, rest) ← readKey fuel rest
      return (part :: parts, rest)
    | _ => none

/-- Digits of which single underscores may stand between two. -/
def ungrouped? (isDigit : Char → Bool) : List Char → Option (List Char)
  | [] => none
  | [c] => if isDigit c then some [c] else none
  | c :: '_' :: rest =>
    if isDigit c then (ungrouped? isDigit rest).map (c :: ·) else none
  | c :: rest => if isDigit c then (ungrouped? isDigit rest).map (c :: ·) else none

/-- The bounds of an integer: its magnitude fits in 63 bits, a negative one may be one more. -/
def ofInteger (negative : Bool) (magnitude : Nat) : Option SettingValue :=
  if magnitude < 1 <<< 63 || (negative && magnitude = 1 <<< 63) then
    some (SettingValue.ofNumber negative magnitude)
  else none

/-- The value of digits in a base. -/
def baseValue (base : Nat) (digits : List Char) : Nat :=
  digits.foldl (fun value c => value * base + (Text.hexValue? c).getD 0) 0

/-- Digits in base two or eight. -/
def isSmallDigit (base : Nat) (c : Char) : Bool :=
  match Text.hexValue? c with
  | some value => value < base
  | none => false

/-- An integer in a base other than ten, behind its mark. -/
def basedInteger? (base : Nat) (cs : List Char) : Option SettingValue :=
  (ungrouped? (isSmallDigit base) cs).bind fun digits => ofInteger false (baseValue base digits)

/-- A decimal integer; a zero in front stands alone. -/
def decimalInteger? (negative : Bool) (cs : List Char) : Option SettingValue := do
  let digits ← ungrouped? Char.isDigit cs
  if digits.length > 1 && digits.head? = some '0' then none
  ofInteger negative (baseValue 10 digits)

/-- Decimal digits in groups. -/
def isGrouped (cs : List Char) : Bool :=
  (ungrouped? Char.isDigit cs).isSome

/-- Decimal digits in groups, without a zero in front of others. -/
def isWhole (cs : List Char) : Bool :=
  match ungrouped? Char.isDigit cs with
  | some ('0' :: _ :: _) => false
  | some _ => true
  | none => false

/-- An exponent with its letter, or nothing. -/
def isExponent : List Char → Bool
  | [] => true
  | c :: cs => (c = 'e' || c = 'E') && isGrouped (SettingValue.splitSign cs).2

/-- The value of an exponent with its letter. -/
def exponentValue (cs : List Char) : Int :=
  let (negative, digits) := SettingValue.splitSign (cs.drop 1)
  let value : Int := baseValue 10 (digits.filter Char.isDigit)
  if negative then -value else value

/-- The least magnitude that is rounded beyond the finite doubles. -/
def doubleBound : Nat :=
  (1 <<< 1024) - (1 <<< 970)

/-- Some digits, scaled by ten to the exponent, are rounded to a finite double. -/
def isFinite (digits : List Char) (exponent : Int) : Bool :=
  let digits := digits.dropWhile (· = '0')
  let size : Int := digits.length + exponent
  if digits.isEmpty || size ≤ 308 then true
  else if 310 ≤ size then false
  else
    match exponent with
    | .ofNat k => baseValue 10 digits * Nat.pow 10 k < doubleBound
    | .negSucc k => baseValue 10 digits < doubleBound * Nat.pow 10 (k + 1)

/-- A number with a point or an exponent, or one of the special ones, behind its sign. -/
def isFloat (cs : List Char) : Bool :=
  let beforeExponent := fun c : Char => c ≠ 'e' && c ≠ 'E'
  let mantissa := cs.takeWhile beforeExponent
  let exponent := cs.dropWhile beforeExponent
  let whole := mantissa.takeWhile (· ≠ '.')
  let fraction := (mantissa.dropWhile (· ≠ '.')).drop 1
  let isMantissa := if '.' ∈ mantissa then isGrouped fraction else !exponent.isEmpty
  let decimals := fraction.filter Char.isDigit
  cs = ['i', 'n', 'f'] || cs = ['n', 'a', 'n']
    || (isWhole whole && isMantissa && isExponent exponent
      && isFinite (whole.filter Char.isDigit ++ decimals)
        (exponentValue exponent - decimals.length))

/-- A number. -/
def number? (cs : List Char) : Option SettingValue :=
  match cs with
  | '0' :: 'x' :: digits => basedInteger? 16 digits
  | '0' :: 'o' :: digits => basedInteger? 8 digits
  | '0' :: 'b' :: digits => basedInteger? 2 digits
  | cs =>
    let (negative, digits) := SettingValue.splitSign cs
    if isFloat digits then some .other else decimalInteger? negative digits

/-- The characters of a value without quotes: up to a blank or a comment. -/
def isWordChar (c : Char) : Bool :=
  !isGap c && c ≠ '#'

/-- A value without quotes. -/
def ofWord (cs : List Char) : Option SettingValue :=
  if cs = ['t', 'r', 'u', 'e'] || cs = ['f', 'a', 'l', 's', 'e'] then some .other
  else number? cs

/-- A value and the rest of its line. -/
def readValue (cs : List Char) : Option (SettingValue × List Char) :=
  match cs with
  | '"' :: rest =>
    (Text.readEscaped rest).map fun (chars, rest) => (.text (String.ofList chars), rest)
  | '\'' :: rest => (readLiteral rest).map fun (chars, rest) => (.text (String.ofList chars), rest)
  | cs => (ofWord (cs.takeWhile isWordChar)).map fun value => (value, cs.dropWhile isWordChar)

/-- A line: nothing, or a setting. -/
def readLine (cs : List Char) : Option (Option SettingEntry) := do
  if isTrailer cs then return none
  let (path, rest) ← readKey cs.length cs
  let (value, rest) ← readValue (skip rest)
  if isTrailer rest then return some { path, value } else none

/-- The text behind the mark of byte order that may stand in front of it. -/
def withoutMark : List Char → List Char
  | '\uFEFF' :: cs => cs
  | cs => cs

/-- A line that has an end, without the return that belongs to the end. -/
def ended (line : List Char) : List Char :=
  match line.reverse with
  | '\r' :: cs => cs.reverse
  | _ => line

/-- The lines of a file. The last one has no end. -/
def lines (cs : List Char) : List (List Char) :=
  match (cs.splitOn '\n').reverse with
  | [] => []
  | last :: before => (before.map ended).reverse ++ [last]

/-- One key is the other or continues it. -/
def clashes (a b : List String) : Bool :=
  a.isPrefixOf b || b.isPrefixOf a

/-- Every key stands alone. -/
def isConsistent : List SettingEntry → Bool
  | [] => true
  | entry :: rest =>
    (rest.all fun other => !clashes entry.path other.path) && isConsistent rest

/-- The settings of a file, unless it has a fault. -/
def read? (text : String) : Option (List SettingEntry) := do
  let entries ← (lines (withoutMark text.toList)).mapM readLine
  let entries := entries.filterMap id
  if isConsistent entries then some entries else none

end SettingsFile
end VpnFleet
