/-
# The forms of plain YAML scalars

A scalar without quotes may have the form of a null, a truth value, a number or a day; any other is
a text.  Each form is a regular set of texts.

| form | texts |
| --- | --- |
| null | nothing, `~`, `null`, `Null`, `NULL` |
| truth value | `yes`, `no`, `true`, `false`, `on`, `off`, also with a capital or in capitals |
| whole number | digits; `0b`, `0x` and digits of that base; octal digits behind a `0`; digits and minutes and seconds |
| number | digits with a point and an exponent with a sign; `.inf`, `.nan` |
| day | year, month and day; also with a time and an offset |
| merge, value | `<<`, `=` |

Underscores may stand between the digits of a number, and a line feed behind a form.
-/

import TypeFiles.Decimal.Digits
import TypeFiles.Text.Cut

namespace TypeFiles
namespace Yaml

namespace Tag

/-- What the names of the standard tags start with. -/
def standard : String := "tag:yaml.org,2002:"

/-- The tag of a null. -/
def null : String := standard ++ "null"
/-- The tag of a truth value. -/
def bool : String := standard ++ "bool"
/-- The tag of a whole number. -/
def int : String := standard ++ "int"
/-- The tag of a number. -/
def float : String := standard ++ "float"
/-- The tag of bytes. -/
def binary : String := standard ++ "binary"
/-- The tag of a day, with or without a time. -/
def timestamp : String := standard ++ "timestamp"
/-- The tag of a text. -/
def text : String := standard ++ "str"
/-- The tag of a sequence. -/
def sequence : String := standard ++ "seq"
/-- The tag of a mapping. -/
def mapping : String := standard ++ "map"
/-- The tag of a set. -/
def set : String := standard ++ "set"
/-- The tag of a mapping whose entries are in order. -/
def ordered : String := standard ++ "omap"
/-- The tag of a list of pairs. -/
def pairs : String := standard ++ "pairs"
/-- The tag of the key under which other mappings are merged into one. -/
def merge : String := standard ++ "merge"
/-- The tag of the key of a default value. -/
def value : String := standard ++ "value"

end Tag

/-- Whether all characters of a text are in a class, and there is at least one. -/
def isRun (p : Char → Bool) (s : List Char) : Bool := !s.isEmpty && s.all p

/-- A text without a sign in front. -/
def unsigned : List Char → List Char
  | '-' :: rest | '+' :: rest => rest
  | s => s

/-- Whether a text starts with a digit and goes on with digits and underscores. -/
def isDigits (s : List Char) : Bool :=
  (s.head?.map Char.isDigit).getD false && s.all fun c => c.isDigit || c == '_'

/-- Whether a text is a number of minutes or seconds. -/
def isSixtieth (s : List Char) : Bool :=
  match s with
  | [a] => a.isDigit
  | [a, b] => '0' ≤ a && a ≤ '5' && b.isDigit
  | _ => false

/-- Whether a text is digits with minutes or seconds behind colons. -/
def isSexagesimal (s : List Char) : Bool :=
  match s.splitOn ':' with
  | first :: second :: rest => isDigits first && (second :: rest).all isSixtieth
  | _ => false

/-- Whether a text has the form of a whole number. -/
def isInt (s : List Char) : Bool :=
  match unsigned s with
  | ['0'] => true
  | '0' :: 'b' :: rest => isRun (fun c => c == '0' || c == '1' || c == '_') rest
  | '0' :: 'x' :: rest => isRun (fun c => (Decimal.digitValue? c).isSome || c == '_') rest
  | '0' :: rest => isRun (fun c => ('0' ≤ c && c ≤ '7') || c == '_') rest
  | rest => isDigits rest || isSexagesimal rest

/-- Whether a text is empty or an exponent with a sign. -/
def isExponent (s : List Char) : Bool :=
  match s with
  | [] => true
  | e :: sign :: digits =>
    (e == 'e' || e == 'E') && (sign == '-' || sign == '+') && isRun Char.isDigit digits
  | _ => false

/-- Whether a text has the form of a number with a point. -/
def isFloat (s : List Char) : Bool :=
  let isFiller (c : Char) : Bool := c.isDigit || c == '_'
  let body := unsigned s
  if [".inf", ".Inf", ".INF"].contains (String.ofList body) then true
  else if [".nan", ".NaN", ".NAN"].contains (String.ofList s) then true
  else
    match Text.cut? '.' body with
    | none => false
    | some (whole, behind) =>
      let fraction := behind.takeWhile isFiller
      let rest := behind.drop fraction.length
      if whole.isEmpty then s.head? == some '.' && isDigits fraction && isExponent rest
      else (isDigits whole && isExponent rest) || (isSexagesimal whole && rest.isEmpty)

/-- What a time says about its offset from universal time. -/
inductive Zone where
  | unstated
  | universal
  | offset (isBehind : Bool) (hour minute : List Char)

/-- The digits of a time of day. -/
structure TimeDigits where
  hour : List Char
  minute : List Char
  second : List Char
  fraction : List Char
  zone : Zone

/-- The digits of a day, with or without a time. -/
structure Timestamp where
  year : List Char
  month : List Char
  day : List Char
  time : Option TimeDigits

/-- Split off one or two digits. -/
def oneOrTwoDigits? : List Char → Option (List Char × List Char)
  | a :: b :: rest =>
    if a.isDigit then if b.isDigit then some ([a, b], rest) else some ([a], b :: rest) else none
  | [a] => if a.isDigit then some ([a], []) else none
  | [] => none

/-- Split off two digits. -/
def twoDigits? : List Char → Option (List Char × List Char)
  | a :: b :: rest => if a.isDigit && b.isDigit then some ([a, b], rest) else none
  | _ => none

/-- The text behind a character that must come first. -/
def behind? (c : Char) : List Char → Option (List Char)
  | d :: rest => if d == c then some rest else none
  | [] => none

/-- Read the offset of a time, which goes up to the end of the text. -/
def readZone (s : List Char) : Option Zone :=
  match s.dropWhile fun c => c == ' ' || c == '\t' with
  | [] => if s.isEmpty then some .unstated else none
  | ['Z'] => some .universal
  | sign :: rest => do
    guard (sign == '-' || sign == '+')
    let (hour, rest) ← oneOrTwoDigits? rest
    match rest with
    | [] => return .offset (sign == '-') hour []
    | ':' :: rest => do
      let (minute, rest) ← twoDigits? rest
      guard rest.isEmpty
      return .offset (sign == '-') hour minute
    | _ => none

/-- Read the time behind a day and what separates the two. -/
def readTime (s : List Char) : Option TimeDigits := do
  let (hour, rest) ← oneOrTwoDigits? s
  let (minute, rest) ← twoDigits? (← behind? ':' rest)
  let (second, rest) ← twoDigits? (← behind? ':' rest)
  let (fraction, rest) := match rest with
    | '.' :: rest => Decimal.spanDigits rest
    | rest => ([], rest)
  return ⟨hour, minute, second, fraction, ← readZone rest⟩

/-- Read a day with or without a time. -/
def readTimestamp? (s : List Char) : Option Timestamp := do
  let year := s.take 4
  guard (year.length == 4 && year.all Char.isDigit)
  let (month, rest) ← oneOrTwoDigits? (← behind? '-' (s.drop 4))
  let (day, rest) ← oneOrTwoDigits? (← behind? '-' rest)
  match rest with
  | [] => return ⟨year, month, day, none⟩
  | c :: behind => do
    let rest ←
      if c == 'T' || c == 't' then some behind
      else if c == ' ' || c == '\t' then some (behind.dropWhile fun c => c == ' ' || c == '\t')
      else none
    return ⟨year, month, day, some (← readTime rest)⟩

/-- Whether a text has the form of a day: without a time its month and its day have two digits. -/
def isTimestamp (s : List Char) : Bool :=
  match readTimestamp? s with
  | some t => t.time.isSome || (t.month.length == 2 && t.day.length == 2)
  | none => false

/-- A text without a line feed at its end. -/
def withoutLineFeed (s : List Char) : List Char :=
  if s.getLast? == some '\n' then s.dropLast else s

/-- The texts that have the form of a null. -/
def nullWords : List String := ["", "~", "null", "Null", "NULL"]

/-- The texts that have the form of a truth value. -/
def truthWords : List String := [
  "yes", "Yes", "YES", "no", "No", "NO", "true", "True", "TRUE", "false", "False", "FALSE",
  "on", "On", "ON", "off", "Off", "OFF"]

/-- The tag of the form that a text has; a line feed alone has none. -/
def formOf (text : String) : String :=
  let s := withoutLineFeed text.toList
  let word := String.ofList s
  if truthWords.contains word then Tag.bool
  else if isFloat s then Tag.float
  else if isInt s then Tag.int
  else if word == "<<" then Tag.merge
  else if nullWords.contains word && text != "\n" then Tag.null
  else if isTimestamp s then Tag.timestamp
  else if word == "=" then Tag.value
  else Tag.text

end Yaml
end TypeFiles
