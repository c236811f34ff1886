/-
# TOML numbers and dates

| value | written |
| --- | --- |
| truth value | `true`, `false` |
| whole number | a sign and decimal digits without a zero in front; `0x`, `0o`, `0b` and digits |
| number | a whole number in decimal digits, then a fraction, an exponent or both; `inf`, `nan` |
| day | `2024-05-17` |
| time | `07:32:00` and a fraction |
| moment | a day, one of `T t` and the space, and a time; also `Z` or an offset such as `+02:00` |

Between two digits of a number there may be an underscore.
-/

import TypeFiles.Readable
import TypeFiles.Value

namespace TypeFiles
namespace Toml

/-- Whether a character is a digit of a base. -/
def isDigitOf (base : Nat) (c : Char) : Bool :=
  ((Decimal.digitValue? c).map (decide <| · < base)).getD false

/-- The digits that follow a digit, with an underscore between two of them or not, and the rest. -/
def moreDigits (base : Nat) : List Char → List Char × List Char
  | '_' :: c :: rest =>
    if isDigitOf base c then
      let (digits, rest) := moreDigits base rest
      (c :: digits, rest)
    else ([], '_' :: c :: rest)
  | c :: rest =>
    if isDigitOf base c then
      let (digits, rest) := moreDigits base rest
      (c :: digits, rest)
    else ([], c :: rest)
  | [] => ([], [])

/-- The digits a text starts with, at least one, and the rest. -/
def digits? (base : Nat) : List Char → Option (List Char × List Char)
  | c :: rest =>
    if isDigitOf base c then
      let (digits, rest) := moreDigits base rest
      some (c :: digits, rest)
    else none
  | [] => none

/-- The fraction of a number, empty if there is none, and the rest. -/
def fraction (s : List Char) : List Char × List Char :=
  match s with
  | '.' :: rest => (digits? 10 rest).getD ([], s)
  | _ => ([], s)

/-- The exponent of a number, if there is one, and the rest. -/
def exponent (s : List Char) : Option Int × List Char :=
  match s with
  | e :: rest =>
    if e == 'e' || e == 'E' then
      let (negative, unsigned) := Decimal.splitSign rest
      match digits? 10 unsigned with
      | some (digits, rest) => (some (Decimal.signed negative (Decimal.ofDigits 10 digits)), rest)
      | none => (none, s)
    else (none, s)
  | [] => (none, s)

/-- The digits in front of the point of a decimal number, and the rest. -/
def wholePart? : List Char → Option (List Char × List Char)
  | '0' :: rest => some (['0'], rest)
  | s => digits? 10 s

/-- A decimal number without its sign. -/
def decimal (negative : Bool) (s : List Char) : Readable (Value × List Char) := do
  let (whole, rest) ← Readable.ofOption (wholePart? s)
  let (fraction, rest) := fraction rest
  let (exponent, rest) := exponent rest
  if fraction.isEmpty && exponent.isNone then
    return (.int (Decimal.signed negative (← Readable.number whole)), rest)
  else
    let n := Decimal.ofDigits 10 (whole ++ fraction)
    return (.float (Decimal.toDouble negative n (exponent.getD 0 - fraction.length)), rest)

/-- The base that a letter behind a zero stands for. -/
def base? : Char → Option Nat
  | 'x' => some 16
  | 'o' => some 8
  | 'b' => some 2
  | _ => none

/-- A whole number with its base in front. -/
def basedNumber? : List Char → Option (Value × List Char)
  | '0' :: letter :: rest => do
    let base ← base? letter
    let (digits, rest) ← digits? base rest
    return (.int (Decimal.ofDigits base digits), rest)
  | _ => none

/-- An infinite number or one that is none. -/
def specialNumber? (negative : Bool) : List Char → Option (Value × List Char)
  | 'i' :: 'n' :: 'f' :: rest => some (.float (if negative then -1 / 0 else 1 / 0), rest)
  | 'n' :: 'a' :: 'n' :: rest => some (.float (0 / 0), rest)
  | _ => none

/-- A number. -/
def number (s : List Char) : Readable (Value × List Char) :=
  let (negative, unsigned) := Decimal.splitSign s
  match basedNumber? s <|> specialNumber? negative unsigned with
  | some found => .ok found
  | none => decimal negative unsigned

/-- The number of two digits, if it lies between two bounds, and the rest. -/
def twoDigits? (least most : Nat) : List Char → Option (Nat × List Char)
  | a :: b :: rest =>
    let n := Decimal.ofDigits 10 [a, b]
    if a.isDigit && b.isDigit && least ≤ n && n ≤ most then some (n, rest) else none
  | _ => none

/-- What follows a character that must come first. -/
def behind? (c : Char) : List Char → Option (List Char)
  | d :: rest => if d == c then some rest else none
  | [] => none

/-- The fraction of a second in millionths, further digits dropped, and the rest. -/
def microseconds (s : List Char) : Nat × List Char :=
  match s with
  | '.' :: rest =>
    let (digits, after) := Decimal.spanDigits rest
    if digits.isEmpty then (0, s)
    else
      let first := digits.take 6
      (Decimal.ofDigits 10 (first ++ List.replicate (6 - first.length) '0'), after)
  | _ => (0, s)

/-- A time of day. -/
def time? (s : List Char) : Option (TimeOfDay × List Char) := do
  let (hour, rest) ← twoDigits? 0 23 s
  let (minute, rest) ← twoDigits? 0 59 (← behind? ':' rest)
  let (second, rest) ← twoDigits? 0 59 (← behind? ':' rest)
  let (fraction, rest) := microseconds rest
  return (⟨hour, minute, second, fraction⟩, rest)

/-- A day whose month and day are in the usual bounds; it may still be none. -/
def day? (s : List Char) : Option (Date × List Char) := do
  let year := s.take 4
  guard (year.length == 4 && year.all Char.isDigit)
  let (month, rest) ← twoDigits? 1 12 (← behind? '-' (s.drop 4))
  let (day, rest) ← twoDigits? 1 31 (← behind? '-' rest)
  return (⟨Decimal.ofDigits 10 year, month, day⟩, rest)

/-- An offset from universal time in seconds. -/
def offset? (s : List Char) : Option (Int × List Char) :=
  match s with
  | 'Z' :: rest | 'z' :: rest => some (0, rest)
  | sign :: rest => do
    guard (sign == '-' || sign == '+')
    let (hour, rest) ← twoDigits? 0 23 rest
    let (minute, rest) ← twoDigits? 0 59 (← behind? ':' rest)
    return (Decimal.signed (sign == '-') (hour * 3600 + minute * 60), rest)
  | [] => none

/-- The time behind a day, if there is one. -/
def timeBehindDay? : List Char → Option (TimeOfDay × List Char)
  | c :: rest => if c == 'T' || c == 't' || c == ' ' then time? rest else none
  | [] => none

/-- What a text that starts with a day denotes; a day that is none is an error. -/
inductive DayResult where
  | absent
  | noDay
  | found (v : Value) (rest : List Char)

/-- A day, or a moment. -/
def dayOrMoment (s : List Char) : DayResult :=
  match day? s with
  | none => .absent
  | some (date, rest) =>
    if date.fault?.isSome then .noDay
    else
      match timeBehindDay? rest with
      | none => .found (.date date) rest
      | some (time, rest) =>
        match offset? rest with
        | some (seconds, rest) => .found (.moment ⟨date, time, some seconds⟩) rest
        | none => .found (.moment ⟨date, time, none⟩) rest

/-- A truth value. -/
def truth? : List Char → Option (Value × List Char)
  | 't' :: 'r' :: 'u' :: 'e' :: rest => some (.bool true, rest)
  | 'f' :: 'a' :: 'l' :: 's' :: 'e' :: rest => some (.bool false, rest)
  | _ => none

/-- A value that holds no others and is no text. -/
def scalarValue (s : List Char) : Readable (Value × List Char) :=
  match truth? s with
  | some found => .ok found
  | none =>
    match dayOrMoment s with
    | .noDay => Readable.malformed
    | .found v rest => .ok (v, rest)
    | .absent =>
      match time? s with
      | some (t, rest) => .ok (.time t, rest)
      | none => number s

end Toml
end TypeFiles
