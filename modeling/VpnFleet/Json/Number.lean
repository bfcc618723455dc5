/-!
# Numbers of a JSON text

A number is kept as it was written: sign, whole digits, digits after the point
and exponent. Two readings are defined on it.

**Counts.** An integer without sign, point or exponent, below `2 ^ 64`.

**Rates.** A double. The digits are gathered in one significand while it stays
below `2 ^ 64`; whole digits beyond that only raise the exponent and decimals
beyond that are dropped. The significand is then scaled once by the power of
ten. A result beyond the finite doubles is refused.
-/

namespace VpnFleet
namespace Json

/-- A number as written. Digits are values below ten. -/
structure Number where
  negative : Bool
  whole : List Nat
  fraction : List Nat
  /-- Sign of the exponent (`true` for minus) and its digits. -/
  exponent : Option (Bool × List Nat)
deriving DecidableEq, Repr

namespace Number

/-- One more than the greatest count. -/
def countBound : Nat :=
  1 <<< 64

/-- The value of a run of decimal digits. -/
def digitsValue (digits : List Nat) : Nat :=
  digits.foldl (fun value digit => value * 10 + digit) 0

/-- Neither point nor exponent. -/
def isInteger (n : Number) : Bool :=
  n.fraction.isEmpty && n.exponent.isNone

/-- The number as a count: an unsigned integer below the bound. -/
def toCount? (n : Number) : Option Nat :=
  if n.isInteger && !n.negative && digitsValue n.whole < countBound then
    some (digitsValue n.whole)
  else none

/-- Gathers digits while the significand fits; the digits that did not fit are returned. -/
def gather (significand : Nat) : List Nat → Nat × List Nat
  | [] => (significand, [])
  | digit :: rest =>
    if significand * 10 + digit < countBound then
      gather (significand * 10 + digit) rest
    else (significand, digit :: rest)

/-- The double nearest to a power of ten from `10 ^ 0` to `10 ^ 308`. -/
def powerOfTen (k : Nat) : Float :=
  Float.ofScientific 1 false k

/-- The greatest exponent with a finite power of ten. -/
def greatestPower : Nat :=
  308

/-- Multiplies by a power of ten; a result that is not finite is refused. -/
def scaleUp (x : Float) (k : Nat) : Option Float :=
  if k ≤ greatestPower then
    let y := x * powerOfTen k
    if y.isInf then none else some y
  else if x == 0.0 then some x
  else none

/-- Divides by a power of ten, by the greatest one first while the exponent is beyond it. -/
def scaleDown (x : Float) (k : Nat) : Float :=
  if k ≤ greatestPower then x / powerOfTen k
  else if x == 0.0 then x
  else scaleDown (x / powerOfTen greatestPower) (k - greatestPower)
termination_by k
decreasing_by
  simp only [greatestPower] at *
  omega

/-- The significand scaled by ten to the exponent. -/
def scale (significand : Nat) (exponent : Int) : Option Float :=
  let x := Float.ofNat significand
  if 0 ≤ exponent then scaleUp x exponent.toNat
  else some (scaleDown x (-exponent).toNat)

/-- An exponent of this size or more is read as unbounded. -/
def exponentBound : Nat :=
  1 <<< 31

/-- The magnitude of the number as a double. -/
def magnitude? (n : Number) : Option Float :=
  let (wholePart, beyond) := gather 0 n.whole
  let (significand, dropped) := gather wholePart n.fraction
  let shift : Int := (beyond.length : Int) - (n.fraction.length - dropped.length : Nat)
  match n.exponent with
  | none => scale significand shift
  | some (minus, digits) =>
    let e := digitsValue digits
    if exponentBound ≤ e then
      if significand ≠ 0 && !minus then none else some 0.0
    else scale significand (if minus then shift - e else shift + e)

/-- The number as a rate. -/
def toRate? (n : Number) : Option Float :=
  n.magnitude?.map fun x => if n.negative then -x else x

end Number
end Json
end VpnFleet
