/-!
# Octets as text

Octets are read as UTF-8. Where they are not well formed, each longest part
that could still begin a character, or else the single octet, is shown as one
replacement character.
-/

namespace VpnFleet
namespace Text

/-- What stands for octets that are no character. -/
def replacement : Char :=
  '\ufffd'

/-- A character under way: how many octets it still needs, the range of the next one, and the
value so far. -/
structure Pending where
  owed : Nat
  low : Nat
  high : Nat
  value : Nat
deriving DecidableEq, Repr

namespace Pending

/-- The greatest range of an octet behind the first. -/
def tail (owed value : Nat) : Pending where
  owed := owed
  low := 0x80
  high := 0xBF
  value := value

/-- The octet can come next. -/
def accepts (pending : Pending) (octet : Nat) : Bool :=
  pending.low ≤ octet && octet ≤ pending.high

end Pending

/-- The first octet of a character: what it completes or begins. -/
def firstOctet (octet : Nat) : List Char × Option Pending :=
  if octet < 0x80 then ([Char.ofNat octet], none)
  else if 0xC2 ≤ octet && octet ≤ 0xDF then ([], some (Pending.tail 1 (octet - 0xC0)))
  else if octet = 0xE0 then ([], some { Pending.tail 2 0 with low := 0xA0 })
  else if octet = 0xED then ([], some { Pending.tail 2 0xD with high := 0x9F })
  else if 0xE1 ≤ octet && octet ≤ 0xEF then ([], some (Pending.tail 2 (octet - 0xE0)))
  else if octet = 0xF0 then ([], some { Pending.tail 3 0 with low := 0x90 })
  else if 0xF1 ≤ octet && octet ≤ 0xF3 then ([], some (Pending.tail 3 (octet - 0xF0)))
  else if octet = 0xF4 then ([], some { Pending.tail 3 4 with high := 0x8F })
  else ([replacement], none)

/-- The next octet: a character under way goes on, or is replaced. -/
def nextOctet (pending : Option Pending) (octet : Nat) : List Char × Option Pending :=
  match pending with
  | none => firstOctet octet
  | some pending =>
    if pending.accepts octet then
      let value := pending.value * 64 + (octet - 0x80)
      if pending.owed = 1 then ([Char.ofNat value], none)
      else ([], some (Pending.tail (pending.owed - 1) value))
    else
      let (chars, next) := firstOctet octet
      (replacement :: chars, next)

/-- The characters of the octets behind a character under way. -/
def readOctets (pending : Option Pending) : List Nat → List Char
  | [] => if pending.isSome then [replacement] else []
  | octet :: octets =>
    let (chars, next) := nextOctet pending octet
    chars ++ readOctets next octets

/-- The octets of a text. -/
def octets (s : String) : List Nat :=
  s.toUTF8.data.toList.map UInt8.toNat

/-- The text of some octets. -/
def ofOctets (octets : List Nat) : String :=
  String.ofList (readOctets none octets)

end Text
end VpnFleet
