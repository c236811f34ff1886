/-
# The double nearest to a decimal

A decimal `n · 10 ^ e` is read as the nearest double, ties to the even significand.  All of it is
exact arithmetic on natural numbers: the decimal is a fraction, the fraction is scaled by a power
of two into the range of the significand, and one rounding to nearest gives the bits.
-/

import TypeFiles.Decimal.Digits

namespace TypeFiles
namespace Decimal

/-- A fraction rounded to the nearest whole number, a half to the even one. -/
def roundHalfEven (numerator denominator : Nat) : Nat :=
  let q := numerator / denominator
  let r := numerator % denominator
  if 2 * r < denominator then q
  else if 2 * r = denominator then q + q % 2
  else q + 1

/-- The power of two, at least `-1074`, that brings a positive fraction below `2 ^ 53` and, as far
as that bound allows, to at least `2 ^ 52`. -/
def scaleOf (numerator denominator : Nat) : Int :=
  let guess : Int := numerator.log2 - denominator.log2 - 52
  let below (e : Int) : Bool :=
    numerator * twoTo (-e).toNat < denominator * twoTo (e.toNat + 53)
  let scale := if below (guess - 1) then guess - 1 else if below guess then guess else guess + 1
  max scale (-1074)

/-- The bits of the double nearest to a non-negative fraction; too large a fraction is infinite. -/
def bitsOfFraction (numerator denominator : Nat) : Nat :=
  if numerator = 0 then 0
  else
    let scale := scaleOf numerator denominator
    let significand :=
      roundHalfEven (numerator * twoTo (-scale).toNat) (denominator * twoTo scale.toNat)
    -- A significand below `2 ^ 52` belongs to the lowest exponent; its carry is the next one.
    let bits := (scale + 1074).toNat * twoTo 52 + significand
    min bits 0x7FF0000000000000

/-- The double nearest to a whole number, if there is one that is finite. -/
def ofNat? (n : Nat) : Option Float :=
  let bits := bitsOfFraction n 1
  if bits < 0x7FF0000000000000 then some (Float.ofBits (UInt64.ofNat bits)) else none

/-- The double nearest to `± n · 10 ^ e`.  Exponents so large or so small that the answer is
infinite or zero whatever the digits are cut off. -/
def toDouble (negative : Bool) (n : Nat) (e : Int) : Float :=
  let size : Int := (Nat.toDigits 10 n).length + e
  let bits :=
    if n = 0 ∨ size < -330 then 0
    else if 320 < size then 0x7FF0000000000000
    else bitsOfFraction (n * tenTo e.toNat) (tenTo (-e).toNat)
  Float.ofBits (UInt64.ofNat (bits + if negative then twoTo 63 else 0))

end Decimal
end TypeFiles
