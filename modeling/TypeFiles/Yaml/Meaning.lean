/-
# The values of YAML scalars

The tag of a scalar tells how its text is read.

| tag | text | value |
| --- | --- | --- |
| null | any | null |
| truth value | a word, in any case | true or false |
| whole number | digits of base 2, 8, 10 or 16, or minutes and seconds behind colons | their number |
| number | a numeral, `.inf` or `.nan`, or minutes and seconds behind colons | its number |
| day | a day, with or without a time | the day or the moment |
| binary | base 64 | the bytes |
| text | any | itself |

A tag says that the text has its form and is not doubted before the text is read, so a text of
another form is an accident rather than a breach of the format.
-/

import TypeFiles.Text.Base64
import TypeFiles.Text.LetterCase.Words
import TypeFiles.Value
import TypeFiles.Yaml.Form
import TypeFiles.Readable

namespace TypeFiles
namespace Yaml

/-- A text that is no number. -/
def noNumber {α : Type} (words : String) (shown : List Char) : Readable α :=
  Readable.accident (.badScalar (words ++ String.ofList shown))

/-- The letters that may stand behind a zero in front of digits of a base. -/
def baseLetters : List (Char × Nat) := [('b', 2), ('o', 8), ('x', 16)]

/-- Digits of a base without the sign of the base in front of them. -/
def withoutBase (base : Nat) (s : List Char) : List Char :=
  match s with
  | '0' :: letter :: rest => if baseLetters.lookup letter.toLower == some base then rest else s
  | _ => s

/-- Whether a character is a digit of a base. -/
def isDigitOf (base : Nat) (c : Char) : Bool :=
  ((Decimal.digitValue? c).map (decide <| · < base)).getD false

/-- The whole number that digits of a base write.  Of a text that is none, no more than two hundred
characters are told. -/
def readWhole (base : Nat) (s : List Char) : Readable Int := do
  let (negative, digits) := Decimal.splitSign ((Text.trimSpace s).map Decimal.latinDigit)
  let digits := withoutBase base digits
  let found := digits.takeWhile (isDigitOf base)
  let size ← if base = 10 then Readable.number found else pure (Decimal.ofDigits base found)
  if found.isEmpty || found.length < digits.length then
    noNumber s!"invalid literal for int() with base {base}: "
      ((Text.quoted (String.ofList s)).toList.take 200)
  else return Decimal.signed negative size

/-- A text without underscores. -/
def withoutUnderscores (s : List Char) : List Char := s.filter fun c => c != '_'

/-- The value of a whole number. -/
def readInt (s : List Char) : Readable Value := do
  let (negative, digits) := Decimal.splitSign (withoutUnderscores s)
  let size : Int ← match digits with
    | [] => Readable.accident .emptyNumber
    | ['0'] => pure 0
    | '0' :: 'b' :: rest => readWhole 2 rest
    | '0' :: 'x' :: rest => readWhole 16 rest
    | '0' :: rest => readWhole 8 ('0' :: rest)
    | _ => do
      let parts ← (digits.splitOn ':').mapM (readWhole 10)
      pure (parts.foldl (fun n part => n * 60 + part) 0)
  return .int (if negative then -size else size)

/-- The number that a numeral writes. -/
def readNumeral (s : List Char) : Readable Float :=
  match Decimal.number? s with
  | some x => .ok x
  | none => noNumber "could not convert string to float: " (Text.quoted (String.ofList s)).toList

/-- The sum of the parts of a number, each worth sixty times as much as the one behind it; the
parts come last one first.  What a part is worth is a whole number, which may be beyond all numbers
with a point. -/
def sexagesimalSum (sum : Float) (worth : Nat) : List Float → Readable Float
  | [] => .ok sum
  | part :: rest =>
    match Decimal.ofNat? worth with
    | some unit => sexagesimalSum (sum + part * unit) (worth * 60) rest
    | none => Readable.accident .hugePart

/-- The value of a number. -/
def readFloat (s : List Char) : Readable Value := do
  let (negative, digits) := Decimal.splitSign (Text.lowered (withoutUnderscores s))
  let size : Float ←
    if digits.isEmpty && s.all (· == '_') then Readable.accident .emptyNumber
    else if String.ofList digits == ".inf" then pure (1 / 0)
    else if String.ofList digits == ".nan" then pure (0 / 0)
    else if digits.contains ':' then do
      let parts ← (digits.splitOn ':').mapM readNumeral
      sexagesimalSum 0 1 parts.reverse
    else readNumeral digits
  return .float (if negative then -1 * size else size)

/-- The words of truth values. -/
def truthOf : List (String × Bool) := [
  ("yes", true), ("no", false), ("true", true), ("false", false), ("on", true), ("off", false)]

/-- The value of a truth value. -/
def readBool (s : List Char) : Readable Value :=
  match truthOf.lookup (String.ofList (Text.lowered s)) with
  | some b => .ok (.bool b)
  | none => Readable.accident .unknownWord

/-- The number that decimal digits write. -/
def number (digits : List Char) : Nat := Decimal.ofDigits 10 digits

/-- The millionths of a second that the digits behind a point write; further digits are dropped. -/
def microseconds (fraction : List Char) : Nat :=
  let digits := fraction.take 6
  number (digits ++ List.replicate (6 - digits.length) '0')

/-- The number of seconds in a day. -/
def secondsPerDay : Int := 86400

/-- What is said about an offset of a day or more. -/
def offsetFault (seconds : Int) : String :=
  let days := seconds.fdiv secondsPerDay
  let rest := seconds.fmod secondsPerDay
  "offset must be a timedelta strictly between -timedelta(hours=24) and timedelta(hours=24), " ++
    s!"not datetime.timedelta(days={days}" ++ (if rest = 0 then ")." else s!", seconds={rest}).")

/-- The offset of a zone in seconds, which must be less than a day. -/
def readOffset : Zone → Readable (Option Int)
  | .unstated => .ok none
  | .universal => .ok (some 0)
  | .offset isBehind hour minute =>
    let size : Int := number hour * 3600 + number minute * 60
    let seconds := if isBehind then -size else size
    if secondsPerDay ≤ size then Readable.accident (.badScalar (offsetFault seconds))
    else .ok (some seconds)

/-- Check that numbers name a day or a time. -/
def check (fault : Option CalendarFault) : Readable PUnit :=
  match fault with
  | some f => Readable.accident (.badScalar f.message)
  | none => .ok ⟨⟩

/-- The value of a day. -/
def readDay (s : List Char) : Readable Value := do
  let some t := readTimestamp? (withoutLineFeed s) | Readable.accident .noDay
  let date : Date := ⟨number t.year, number t.month, number t.day⟩
  match t.time with
  | none => do
    check date.fault?
    return .date date
  | some d => do
    let time : TimeOfDay :=
      ⟨number d.hour, number d.minute, number d.second, microseconds d.fraction⟩
    let offset ← readOffset d.zone
    check date.fault?
    check time.fault?
    return .moment ⟨date, time, offset⟩

/-- The value of bytes. -/
def readBinary (s : List Char) : Readable Value :=
  if s.all fun c => c.toNat < 0x80 then
    match Text.decodeBase64? s with
    | some bytes => .ok (.bytes bytes)
    | none => Readable.malformed
  else Readable.malformed

/-- The value of a scalar with a tag; a tag that is not known, or is not one of scalars, breaks the
format. -/
def readScalar (tag text : String) : Readable Value :=
  let s := text.toList
  if tag == Tag.text then .ok (.text text)
  else if tag == Tag.null then .ok .null
  else if tag == Tag.bool then readBool s
  else if tag == Tag.int then readInt s
  else if tag == Tag.float then readFloat s
  else if tag == Tag.timestamp then readDay s
  else if tag == Tag.binary then readBinary s
  else Readable.malformed

end Yaml
end TypeFiles
