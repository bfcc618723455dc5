/-!
# Writing JSON strings

A string is written between quotes. A quote and a backslash take a backslash,
five controls have a letter of their own, the other controls are spelled by
their code point, and every other character stands as it is.
-/

namespace VpnFleet
namespace Json

/-- The lower-case hexadecimal digit of a value below sixteen. -/
def hexDigit (n : Nat) : Char :=
  Nat.digitChar n

/-- How a character stands inside a string. -/
def writeChar (c : Char) : List Char :=
  if c = '"' then ['\\', '"']
  else if c = '\\' then ['\\', '\\']
  else if c = '\x08' then ['\\', 'b']
  else if c = '\x0c' then ['\\', 'f']
  else if c = '\n' then ['\\', 'n']
  else if c = '\r' then ['\\', 'r']
  else if c = '\t' then ['\\', 't']
  else if c.toNat < 0x20 then
    ['\\', 'u', '0', '0', hexDigit (c.toNat / 16), hexDigit (c.toNat % 16)]
  else [c]

/-- The characters of a written string. -/
def writeChars (cs : List Char) : List Char :=
  '"' :: cs.flatMap writeChar ++ ['"']

/-- The written string. -/
def writeString (s : String) : String :=
  String.ofList (writeChars s.toList)

end Json
end VpnFleet
