/-
# Numbers in writing

A numeral may have spaces around it, a sign in front and single underscores between its digits,
which may be those of any script.

| numeral | written |
| --- | --- |
| whole number | digits |
| number | digits with a point and an exponent, or one of the words `inf`, `infinity`, `nan` |
-/

import TypeFiles.Decimal.Digits
import TypeFiles.Decimal.Nearest
import TypeFiles.Decimal.Script
import TypeFiles.Text.Blank

namespace TypeFiles
namespace Decimal

/-- Split off a sign; the flag tells whether it is a minus. -/
def splitSign : List Char → Bool × List Char
  | '-' :: rest => (true, rest)
  | '+' :: rest => (false, rest)
  | s => (false, s)

/-- Whether a run of characters is digits, with single underscores between them. -/
def isGroupedDigits : List Char → Bool
  | [] => false
  | [c] => c.isDigit
  | c :: '_' :: rest => c.isDigit && isGroupedDigits rest
  | c :: rest => c.isDigit && isGroupedDigits rest

/-- A number with its sign. -/
def signed (negative : Bool) (n : Nat) : Int := if negative then -n else n

/-- The whole number that a numeral writes in the digits of any script; `none` if it has too many
digits. -/
def whole? (s : List Char) : Option Int :=
  let (negative, grouped) := splitSign ((Text.trimSpace s).map latinDigit)
  let digits := grouped.filter Char.isDigit
  if isGroupedDigits grouped && digits.length ≤ mostDigits then
    some (signed negative (ofDigits 10 digits))
  else none

/-- The exponent at the end of a numeral: none, or `e` or `E`, perhaps a sign, and digits. -/
def exponent? : List Char → Option Int
  | [] => some 0
  | e :: rest =>
    let (down, digits) := splitSign rest
    if (e == 'e' || e == 'E') && isGroupedDigits digits then
      some (signed down (ofDigits 10 (digits.filter Char.isDigit)))
    else none

/-- The number that a numeral without a sign writes in digits. -/
def digits? (negative : Bool) (s : List Char) : Option Float := do
  let whole := s.takeWhile fun c => c.isDigit || c == '_'
  let rest := s.drop whole.length
  let (fraction, rest) : List Char × List Char := match rest with
    | '.' :: r => spanDigits r
    | r => ([], r)
  let exponent ← exponent? rest
  guard (!(whole.isEmpty && fraction.isEmpty) && (whole.isEmpty || isGroupedDigits whole))
  let n := ofDigits 10 (whole.filter Char.isDigit ++ fraction)
  return toDouble negative n (exponent - fraction.length)

/-- The number that a numeral without blanks around it writes. -/
def trimmedNumber? (s : List Char) : Option Float :=
  let (negative, unsigned) := splitSign s
  let word := String.ofList (unsigned.map Char.toLower)
  if word == "inf" || word == "infinity" then some (if negative then -1 / 0 else 1 / 0)
  else if word == "nan" then some (0 / 0)
  else digits? negative unsigned

/-- The number that a numeral writes, in the digits of any script. -/
def number? (s : List Char) : Option Float := trimmedNumber? ((Text.trimSpace s).map latinDigit)

end Decimal
end TypeFiles
