import VpnFleet.Decimal.Fixed

/-!
# Exact decimals

A finite binary fraction is a decimal with finitely many places. It is written
with all of them, and with one place if it is whole, so that two different
numbers have different texts.
-/

namespace VpnFleet
namespace Decimal

/-- The sign of a double is set; a zero has one, too. -/
def isNegative (x : Float) : Bool :=
  x.toBits.toNat >>> 63 = 1

/-- The digits of a number, filled up with zeros in front. -/
def paddedDigits (width n : Nat) : List Char :=
  let digits := Nat.toDigits 10 n
  List.replicate (width - digits.length) '0' ++ digits

/-- The digits behind the point without the zeros at the end, at least one. -/
def places (digits : List Char) : List Char :=
  match (digits.reverse.dropWhile (· = '0')).reverse with
  | [] => ['0']
  | digits => digits

/-- Whole digits and places of `m * 2 ^ q`. -/
def exactDigits (m : Nat) (q : Int) : List Char × List Char :=
  if 0 ≤ q then (Nat.toDigits 10 (m <<< q.toNat), ['0'])
  else
    let k := (-q).toNat
    (Nat.toDigits 10 (m >>> k), places (paddedDigits k (m % (1 <<< k) * Nat.pow 5 k)))

/-- The text of a finite number. -/
def exact (x : Float) : String :=
  let (m, q) := binaryParts x
  let (whole, places) := exactDigits m q
  let sign := if isNegative x then ['-'] else []
  String.ofList (sign ++ whole ++ '.' :: places)

end Decimal
end VpnFleet
