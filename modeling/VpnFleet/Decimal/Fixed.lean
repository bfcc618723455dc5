/-!
# Decimals with one place

A finite binary fraction `m * 2 ^ q` written with exactly one digit after the
point. The value is rounded as it stands, not through a shorter decimal, and a
tie goes to the even neighbour.
-/

namespace VpnFleet
namespace Decimal

/-- The quotient rounded to the nearest integer, a tie to the even one. -/
def roundHalfEven (num den : Nat) : Nat :=
  let q := num / den
  let r := num % den
  if 2 * r < den then q
  else if den < 2 * r then q + 1
  else if q % 2 = 0 then q else q + 1

/-- The integers `m` and `q` with magnitude `m * 2 ^ q`, read off the bits of a finite double. -/
def binaryParts (x : Float) : Nat × Int :=
  let bits : Nat := x.toBits.toNat
  let exponent : Nat := (bits >>> 52) % 2048
  let fraction : Nat := bits % (1 <<< 52)
  if exponent = 0 then (fraction, -1074)
  else (fraction + (1 <<< 52), Int.ofNat exponent - 1075)

/-- The magnitude in tenths, rounded. -/
def tenths (x : Float) : Nat :=
  let (m, q) := binaryParts x
  if 0 ≤ q then (m <<< q.toNat) * 10
  else roundHalfEven (m * 10) (1 <<< (-q).toNat)

/-- The text of a magnitude with one digit after the point. -/
def tenthsText (n : Nat) : String :=
  toString (n / 10) ++ "." ++ toString (n % 10)

/-- A finite, non-negative rate with one place. -/
def onePlace (x : Float) : String :=
  tenthsText (tenths x)

end Decimal
end VpnFleet
