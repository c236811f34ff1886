/-
# Values taken as another type

A field of a known type accepts some values of other types and takes them over.

| wanted | taken |
| --- | --- |
| text | a text; bytes that are UTF-8 |
| truth value | a truth value; `0`, `1`, `0.0`, `1.0`; the words `1 true t yes y on`, `0 false f no n off` |
| whole number | a whole number; a truth value; a number or a text without a fraction |
| number | a number that a double is near to; a truth value; a text that writes one |
| list | a list, a tuple, a set |

Where a text is taken, bytes that are UTF-8 are taken too.
-/

import TypeFiles.Decimal.Numeral
import TypeFiles.Rejection
import TypeFiles.Text.Cut
import TypeFiles.Text.Utf8
import TypeFiles.Value

namespace TypeFiles
namespace Value

/-- The text that a value is taken as, or what is wrong with it. -/
def asText : Value → Except FaultKind String
  | .text s => .ok s
  | .bytes b => (Text.decodeUtf8? b).elim (.error .brokenText) .ok
  | _ => .error .notAText

/-- The text that a value is taken as. -/
def asText? (v : Value) : Option String := v.asText.toOption

/-- The words that are taken as true. -/
def trueWords : List String := ["1", "true", "t", "yes", "y", "on"]

/-- The words that are taken as false. -/
def falseWords : List String := ["0", "false", "f", "no", "n", "off"]

/-- The truth value that a word means, letters of ASCII in either case. -/
def truthOfWord? (s : String) : Option Bool :=
  let word := s.map Char.toLower
  if trueWords.contains word then some true
  else if falseWords.contains word then some false
  else none

/-- Whether a whole number does not fit into eight bytes. -/
def isLong (n : Int) : Bool := n < -9223372036854775808 || 9223372036854775807 < n

/-- The truth value that a value is taken as, or what is wrong with it. -/
def asTruth : Value → Except FaultKind Bool
  | .bool b => .ok b
  | .int n =>
    if n = 0 then .ok false
    else if n = 1 then .ok true
    else .error (if isLong n then .notATruthValue else .unknownTruthValue)
  | .float x => if x == 0 then .ok false else if x == 1 then .ok true else .error .notATruthValue
  | .text s => (truthOfWord? s).elim (.error .unknownTruthValue) .ok
  | .bytes b => ((Text.decodeUtf8? b).bind truthOfWord?).elim (.error .unknownTruthValue) .ok
  | _ => .error .notATruthValue

/-- The items of a value that is taken as a list. -/
def asItems? : Value → Option (List Value)
  | .list items | .tuple items | .set items => some items
  | _ => none

/-- A numeral without the underscores in it; `none` if it has none, or has them at an end or two in
a row. -/
def withoutUnderscores? (s : List Char) : Option (List Char) :=
  let groups := s.splitOn '_'
  if groups.length ≤ 1 || groups.any List.isEmpty then none else some groups.flatten

/-- A numeral of a whole number without the zeros in front; between those, underscores may stand.
`none` if it does not start with a digit or a minus. -/
def withoutLeadingZeros? (s : List Char) : Option (List Char) :=
  match s with
  | '0' :: rest =>
    let zeros := rest.takeWhile fun c => c == '0' || c == '_'
    match rest.drop zeros.length with
    | [] => some [(zeros.getLast?).getD '0']
    | '.' :: fraction => some ((zeros.getLast?).getD '0' :: '.' :: fraction)
    | c :: behind => if c.isDigit then some (c :: behind) else none
  | c :: _ => if c.isDigit || c == '-' then some s else none
  | [] => none

/-- A numeral without a fraction that is all zeros. -/
def withoutZeroFraction (s : List Char) : List Char :=
  match Text.cut? '.' s with
  | some (whole, fraction) =>
    if !fraction.isEmpty && fraction.all (fun c => c == '0') then whole else s
  | none => s

/-- The whole number that a text writes: a sign, digits, and possibly a fraction of zeros. -/
def wholeOfText? (s : String) : Option Int := do
  let trimmed := Text.trimSpace s.toList
  let unsigned := match trimmed with
    | '+' :: '-' :: _ => []
    | '+' :: rest => rest
    | _ => trimmed
  let numeral := withoutZeroFraction (← withoutLeadingZeros? unsigned)
  let (negative, digits) := match (withoutUnderscores? numeral).getD numeral with
    | '-' :: digits => (true, digits)
    | digits => (false, digits)
  guard (!digits.isEmpty && digits.all Char.isDigit && digits.length ≤ Decimal.mostDigits &&
    (digits == ['0'] || digits.head? != some '0'))
  return Decimal.signed negative (Decimal.ofDigits 10 digits)

/-- The number that a numeral writes: a sign and digits with a point and an exponent, or a word. -/
def numberOfNumeral? (s : List Char) : Option Float :=
  if s.contains '_' then none else Decimal.trimmedNumber? s

/-- The number that a text writes. -/
def numberOfText? (s : String) : Option Float :=
  (numberOfNumeral? (Text.trimSpace s.toList)) <|>
    (withoutUnderscores? s.toList).bind numberOfNumeral?

/-- The double nearest to a whole number, if there is one. -/
def nearestDouble? (n : Int) : Option Float :=
  let x := Decimal.toDouble (n < 0) n.natAbs 0
  if x.isInf then none else some x

/-- The whole number that a value is taken as. -/
def asWhole? : Value → Option Int
  | .int n => some n
  | .bool b => some (if b then 1 else 0)
  | .float x => if x.floor == x && x.abs < 9223372036854775808 then some x.toInt64.toInt else none
  | .text s => wholeOfText? s
  | .bytes b => (Text.decodeUtf8? b).bind wholeOfText?
  | _ => none

/-- The number that a value is taken as. -/
def asNumber? : Value → Option Float
  | .int n => nearestDouble? n
  | .bool b => some (if b then 1 else 0)
  | .float x => some x
  | .text s => numberOfText? s
  | .bytes b => (Text.decodeUtf8? b).bind numberOfText?
  | _ => none

end Value
end TypeFiles
