/-
# The tokens of a JSON text

| token | written |
| --- | --- |
| brackets, comma, colon | `[ ] { } , :` |
| text | between double quotes, with the escapes `\" \\ \/ \b \f \n \r \t \uXXXX` |
| whole number | `-` if negative, then digits without a leading zero |
| other number | a whole number, then a fraction, an exponent or both |
| word | `null true false NaN Infinity -Infinity` |

Blanks between tokens are the space, the tab, the line feed and the carriage return.  A text holds
no control character.  Two escapes that are a surrogate pair denote one character; a surrogate
that stands alone denotes the replacement character.
-/

import TypeFiles.Decimal.Nearest
import TypeFiles.Readable
import TypeFiles.Value

namespace TypeFiles
namespace Json

/-- A token of a JSON text. -/
inductive Token where
  | openList
  | closeList
  | openObject
  | closeObject
  | comma
  | colon
  /-- A value that holds no others; some that are written have none. -/
  | scalar (v : Readable Value)
  /-- What is none of the others. -/
  | unknown

/-- The code unit written by four hexadecimal digits. -/
def codeUnit? (a b c d : Char) : Option Nat := do
  let w ← Decimal.digitValue? a
  let x ← Decimal.digitValue? b
  let y ← Decimal.digitValue? c
  let z ← Decimal.digitValue? d
  return ((w * 16 + x) * 16 + y) * 16 + z

/-- Whether a code unit is the first half of a surrogate pair. -/
def isHighSurrogate (n : Nat) : Bool := 0xD800 ≤ n && n < 0xDC00

/-- Whether a code unit is the second half of a surrogate pair. -/
def isLowSurrogate (n : Nat) : Bool := 0xDC00 ≤ n && n < 0xE000

/-- The character of a code unit that stands alone. -/
def unitChar (n : Nat) : Char :=
  if isHighSurrogate n || isLowSurrogate n then '\ufffd' else Char.ofNat n

/-- The character that a one-letter escape denotes. -/
def simpleEscape? : Char → Option Char
  | '"' => some '"'
  | '\\' => some '\\'
  | '/' => some '/'
  | 'b' => some '\x08'
  | 'f' => some '\x0c'
  | 'n' => some '\n'
  | 'r' => some '\x0d'
  | 't' => some '\t'
  | _ => none

/-- The code units of a text up to its closing quote, after those already found (last one first),
and what follows the quote. -/
def scanText (found : List Nat) : List Char → Option (List Nat × List Char)
  | [] => none
  | '"' :: rest => some (found.reverse, rest)
  | '\\' :: 'u' :: a :: b :: c :: d :: rest =>
    match codeUnit? a b c d with
    | some unit => scanText (unit :: found) rest
    | none => none
  | '\\' :: e :: rest =>
    match simpleEscape? e with
    | some c => scanText (c.toNat :: found) rest
    | none => none
  | c :: rest =>
    if c.toNat < 0x20 || c == '\\' then none else scanText (c.toNat :: found) rest

/-- The characters of a sequence of code units: a surrogate pair is one character. -/
def charsOfUnits : List Nat → List Char
  | [] => []
  | [n] => [unitChar n]
  | high :: low :: rest =>
    if isHighSurrogate high && isLowSurrogate low then
      Char.ofNat (0x10000 + (high - 0xD800) * 0x400 + (low - 0xDC00)) :: charsOfUnits rest
    else unitChar high :: charsOfUnits (low :: rest)

/-- The fraction of a number: a point and at least one digit, or nothing. -/
def scanFraction (s : List Char) : List Char × List Char :=
  match s with
  | '.' :: rest =>
    match Decimal.spanDigits rest with
    | ([], _) => ([], s)
    | found => found
  | _ => ([], s)

/-- The exponent of a number: `e` or `E`, a sign if there is one, and at least one digit; `none`
if there is no exponent. -/
def scanExponent (s : List Char) : Option Int × List Char :=
  match s with
  | e :: rest =>
    if e == 'e' || e == 'E' then
      let (negative, afterSign) : Bool × List Char := match rest with
        | '-' :: r => (true, r)
        | '+' :: r => (false, r)
        | r => (false, r)
      match Decimal.spanDigits afterSign with
      | ([], _) => (none, s)
      | (found, after) =>
        let n : Int := Decimal.ofDigits 10 found
        (some (if negative then -n else n), after)
    else (none, s)
  | [] => (none, s)

/-- A number that starts with a digit. -/
def scanNumber (negative : Bool) (s : List Char) : Option (Readable Value × List Char) :=
  let (whole, rest) : List Char × List Char := match s with
    | '0' :: r => (['0'], r)
    | s => Decimal.spanDigits s
  if whole.isEmpty then none
  else
    let (fraction, afterFraction) := scanFraction rest
    let (exponent, after) := scanExponent afterFraction
    if fraction.isEmpty && exponent.isNone then
      some ((Readable.number whole).map fun n => .int (Decimal.signed negative n), after)
    else
      let n := Decimal.ofDigits 10 (whole ++ fraction)
      some (.ok (.float (Decimal.toDouble negative n (exponent.getD 0 - fraction.length))), after)

/-- The words that denote a value. -/
def words : List (String × Value) := [
  ("null", .null), ("true", .bool true), ("false", .bool false),
  ("NaN", .float (0 / 0)), ("Infinity", .float (1 / 0)), ("-Infinity", .float (-1 / 0))]

/-- The word a text starts with, and what follows it. -/
def scanWord (s : List Char) : Option (Readable Value × List Char) :=
  words.findSome? fun (word, v) =>
    if word.toList.isPrefixOf s then some (.ok v, s.drop word.length) else none

/-- The token a text starts with, and what follows it. -/
def scanToken (s : List Char) : Option (Token × List Char) :=
  match s with
  | '[' :: rest => some (.openList, rest)
  | ']' :: rest => some (.closeList, rest)
  | '\x7b' :: rest => some (.openObject, rest)
  | '\x7d' :: rest => some (.closeObject, rest)
  | ',' :: rest => some (.comma, rest)
  | ':' :: rest => some (.colon, rest)
  | '"' :: rest => (scanText [] rest).map fun (units, after) =>
      (.scalar (.ok (.text (String.ofList (charsOfUnits units)))), after)
  | _ =>
    let number := match s with
      | '-' :: rest => scanNumber true rest
      | s => scanNumber false s
    (number <|> scanWord s).map fun (v, after) => (.scalar v, after)

/-- Whether a character may stand between tokens. -/
def isSpace (c : Char) : Bool := c == ' ' || c == '\t' || c == '\n' || c == '\x0d'

/-- The tokens of a text up to the first that is unknown; the first argument bounds their number. -/
def tokensWithin : Nat → List Char → List Token
  | 0, _ => [.unknown]
  | bound + 1, s =>
    match s.dropWhile isSpace with
    | [] => []
    | c :: rest =>
      match scanToken (c :: rest) with
      | some (token, after) => token :: tokensWithin bound after
      | none => [.unknown]

/-- The tokens of a text up to the first that is unknown.  No token is empty, so a text has at most
as many tokens as characters. -/
def tokens (s : List Char) : List Token := tokensWithin (s.length + 1) s

end Json
end TypeFiles
