/-
# The shortest decimal that reads back

A double is written with the fewest digits that read back as the same double, and of the decimals
with that many digits by the one nearest to it.

The doubles are `m · 2 ^ q`.  The reals that round to one of them form an interval around it, ends
included exactly when `m` is even; it is half as wide below a power of two.  For `1, 2, … 17`
digits the two neighbours of the double on the decimal grid of that many digits are tried: the
first grid with a hit wins, and of two hits the nearer, or the even one if they are equally near.

The text is positional while the decimal point stands among the first sixteen digits or at most
four places before the first one, and otherwise has an exponent of at least two digits.
-/

import TypeFiles.Decimal.Digits

namespace TypeFiles
namespace Decimal

/-- The interval of reals that read back as one double, over a common denominator. -/
structure Reading where
  low : Nat
  value : Nat
  high : Nat
  denominator : Nat
  closed : Bool

/-- Whether `n · 10 ^ e` lies in the interval. -/
def Reading.contains (r : Reading) (n : Nat) (e : Int) : Bool :=
  let x := n * tenTo e.toNat * r.denominator
  let scale := tenTo (-e).toNat
  if r.closed then r.low * scale ≤ x && x ≤ r.high * scale
  else r.low * scale < x && x < r.high * scale

/-- The interval of the finite positive double with the given bits, sign left out. -/
def Reading.ofBits (bits : Nat) : Reading :=
  let field : Nat := bits / twoTo 52
  let fraction : Nat := bits % twoTo 52
  let m : Nat := if field = 0 then fraction else fraction + twoTo 52
  let q : Int := if field = 0 then -1074 else (field : Int) - 1075
  -- Quarter steps of the significand, so that the narrow side has a whole bound.
  let narrow : Bool := fraction = 0 && 1 < field
  let unit := twoTo q.toNat
  { low := (4 * m - if narrow then 1 else 2) * unit
    value := 4 * m * unit
    high := (4 * m + 2) * unit
    denominator := 4 * twoTo (-q).toNat
    closed := m % 2 = 0 }

/-- Whether a double is a whole number, and this one. -/
def isExactly (x : Float) (n : Int) : Bool :=
  let bits := x.toBits.toNat
  let magnitude := bits % twoTo 63
  let r := Reading.ofBits magnitude
  magnitude < 0x7FF0000000000000 && r.value == n.natAbs * r.denominator &&
    (n == 0 || decide (n < 0) == decide (twoTo 63 ≤ bits))

/-- The exponent `e` with `10 ^ (e - 1) ≤ numerator / denominator < 10 ^ e`, found by trying the
powers upwards from one that is too small. -/
def leadingExponent (numerator denominator : Nat) : Nat → Int → Int
  | 0, e => e
  | fuel + 1, e =>
    if numerator * tenTo (-e).toNat < denominator * tenTo e.toNat then e
    else leadingExponent numerator denominator fuel (e + 1)

/-- The decimal of `count` digits before the power `10 ^ (e - count)` that reads back, if there is
one; of two the nearer to the value, and the even one if they are equally near. -/
def Reading.onGrid (r : Reading) (e : Int) (count : Nat) : Option (Nat × Int) :=
  let power := e - count
  let numerator := r.value * tenTo (-power).toNat
  let denominator := r.denominator * tenTo power.toNat
  let down := numerator / denominator
  match r.contains down power, r.contains (down + 1) power with
  | true, true =>
    let rest := 2 * (numerator % denominator)
    if rest < denominator || (rest == denominator && down % 2 == 0) then some (down, power)
    else some (down + 1, power)
  | true, false => some (down, power)
  | false, true => some (down + 1, power)
  | false, false => none

/-- The shortest decimal of an interval: its digits as a number, and a power of ten. -/
def Reading.shortest (r : Reading) : Nat × Int :=
  let e := leadingExponent r.value r.denominator 700 (-330)
  ((List.range 17).findSome? fun k => r.onGrid e (k + 1)).getD (0, 0)

/-- A number without the zeros at its end, and how many they were. -/
def withoutZeros : Nat → Nat → Nat × Nat
  | 0, n => (n, 0)
  | fuel + 1, n =>
    if n % 10 = 0 ∧ n ≠ 0 then
      let (m, zeros) := withoutZeros fuel (n / 10)
      (m, zeros + 1)
    else (n, 0)

/-- Digits and a power of ten as a text: positional if the number of digits before the point is
above `-4` and at most `16`, with an exponent otherwise. -/
def layout (n : Nat) (power : Int) : String :=
  let shown := digits n
  let point := (shown.length : Int) + power
  if -4 < point ∧ point ≤ 16 then
    if point ≤ 0 then
      "0." ++ String.ofList (List.replicate (-point).toNat '0' ++ shown)
    else
      let whole := shown.take point.toNat
      let rest := shown.drop point.toNat
      String.ofList (whole ++ List.replicate (point.toNat - whole.length) '0') ++ "." ++
        (if rest.isEmpty then "0" else String.ofList rest)
  else
    let exponent := point - 1
    let tail := shown.drop 1
    String.ofList (shown.take 1) ++ (if tail.isEmpty then "" else "." ++ String.ofList tail) ++
      "e" ++ (if exponent < 0 then "-" else "+") ++ padded 2 exponent.natAbs

/-- The text of a double. -/
def ofDouble (x : Float) : String :=
  let bits := x.toBits.toNat
  let magnitude := bits % twoTo 63
  let sign := if bits < twoTo 63 then "" else "-"
  if 0x7FF0000000000000 < magnitude then "nan"
  else if magnitude = 0x7FF0000000000000 then sign ++ "inf"
  else if magnitude = 0 then sign ++ "0.0"
  else
    let (n, power) := (Reading.ofBits magnitude).shortest
    let (m, zeros) := withoutZeros 17 n
    sign ++ layout m (power + zeros)

end Decimal
end TypeFiles
