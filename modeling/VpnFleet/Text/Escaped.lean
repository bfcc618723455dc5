import VpnFleet.Text.Hex

/-!
# Escaped text

A text between double quotes. A backslash starts an escape: a letter for a
control, a quote or a backslash, or `u` and `U` with four or eight hexadecimal
digits for a code point. No other escape and no control but the tab is
accepted.
-/

namespace VpnFleet
namespace Text

/-- The character with the code point that the digits spell. -/
def codePoint? (digits : List Char) : Option Char := do
  let n ← hexNumber? digits
  if n.isValidChar then some (Char.ofNat n) else none

/-- The character that a one-letter escape stands for. -/
def unescaped? : Char → Option Char
  | '"' => some '"'
  | '\\' => some '\\'
  | 'b' => some '\x08'
  | 'f' => some '\x0c'
  | 'n' => some '\n'
  | 'r' => some '\r'
  | 't' => some '\t'
  | _ => none

/-- The character may stand as it is. -/
def isPlain (c : Char) : Bool :=
  c = '\t' || (0x20 ≤ c.toNat && c.toNat ≠ 0x7F)

/-- The inside of an escaped text up to and with the closing quote, and the rest. -/
def readEscaped : List Char → Option (List Char × List Char)
  | [] => none
  | '"' :: rest => some ([], rest)
  | '\\' :: 'u' :: a :: b :: c :: d :: rest => do
    let char ← codePoint? [a, b, c, d]
    let (chars, rest) ← readEscaped rest
    return (char :: chars, rest)
  | '\\' :: 'U' :: a :: b :: c :: d :: e :: f :: g :: h :: rest => do
    let char ← codePoint? [a, b, c, d, e, f, g, h]
    let (chars, rest) ← readEscaped rest
    return (char :: chars, rest)
  | '\\' :: letter :: rest => do
    let char ← unescaped? letter
    let (chars, rest) ← readEscaped rest
    return (char :: chars, rest)
  | char :: rest => do
    if !isPlain char || char = '\\' then none
    let (chars, rest) ← readEscaped rest
    return (char :: chars, rest)

end Text
end VpnFleet
