/-
# Content types

What kind of content a page has is a type and some parameters, a semicolon between two of them:

    type ( ";" name "=" value )*

A value may stand in quotes, and then hold a semicolon.  A long value can be given in numbered
segments, `name*0`, `name*1`, …; a segment whose name ends in `*` has escaped bytes, and then the
whole value starts with the charset of those bytes and a language, a `'` behind each.

The parameter `charset` names the charset of the content; given in one piece, it wins over one in
segments.
-/

import TypeFiles.Address.Escape
import TypeFiles.Charset
import TypeFiles.Text.Blank
import TypeFiles.Text.Cut

namespace TypeFiles
namespace ContentType

/-- Cut a content type at its semicolons outside of quotes.  The piece that is being read is given
in reverse, and whether it is inside quotes; a quote with a backslash in front does not count. -/
def piecesFrom (piece : List Char) (quoted : Bool) : List Char → List (List Char)
  | [] => [piece.reverse]
  | c :: rest =>
    if c == ';' && !quoted then piece.reverse :: piecesFrom [] false rest
    else piecesFrom (c :: piece) (quoted != (c == '"' && piece.head? != some '\\')) rest

/-- A parameter. -/
structure Parameter where
  name : List Char
  value : List Char
  deriving DecidableEq, Repr

/-- Read a parameter; without a value it has an empty one. -/
def Parameter.read (piece : List Char) : Parameter :=
  match Text.cut? '=' piece with
  | some (name, value) => ⟨(Text.trim name).map Char.toLower, Text.trim value⟩
  | none => ⟨(Text.trim piece).map Char.toLower, []⟩

/-- The parameters of a content type; the type itself counts as the first one. -/
def parameters (s : List Char) : List Parameter := (piecesFrom [] false s).map .read

/-- Put back the backslashes that are written twice. -/
def withSingleBackslashes : List Char → List Char
  | '\\' :: '\\' :: rest => '\\' :: withSingleBackslashes rest
  | c :: rest => c :: withSingleBackslashes rest
  | [] => []

/-- Put back the quotes that have a backslash in front. -/
def withBareQuotes : List Char → List Char
  | '\\' :: '"' :: rest => '"' :: withBareQuotes rest
  | c :: rest => c :: withBareQuotes rest
  | [] => []

/-- A value without the quotes or angle brackets around it. -/
def unquoted (s : List Char) : List Char :=
  let inner := (s.drop 1).dropLast
  if s.length < 2 then s
  else if s.head? == some '"' && s.getLast? == some '"' then
    withBareQuotes (withSingleBackslashes inner)
  else if s.head? == some '<' && s.getLast? == some '>' then inner
  else s

/-- A segment of a value: its number, if it has one, its text, and whether the text has escaped
bytes. -/
structure Segment where
  number : Option Nat
  text : List Char
  isEscaped : Bool
  deriving DecidableEq, Repr

/-- The segment of a value with the given name that a parameter is. -/
def segment? (name : List Char) (p : Parameter) : Option Segment :=
  if (name ++ ['*']).isPrefixOf p.name then
    let behind := p.name.drop (name.length + 1)
    let (digits, star) := Decimal.spanDigits behind
    let isEscaped := p.name.getLast? == some '*'
    if digits.isEmpty then if star.isEmpty then some ⟨none, unquoted p.value, isEscaped⟩ else none
    else if star.isEmpty || star == ['*'] then
      some ⟨some (Decimal.ofDigits 10 digits), unquoted p.value, isEscaped⟩
    else none
  else none

/-- The text of a segment; each escaped byte is one character. -/
def Segment.characters (s : Segment) : List Char :=
  if s.isEscaped then (Address.unescapedBytes s.text).map fun b => Char.ofNat b.toNat else s.text

/-- The charset that escaped bytes are in if none is named. -/
def usualCharset : String := "ascii"

/-- A text whose characters are the bytes of another one; if they are not, the text itself. -/
def reread (charset : List Char) (s : List Char) : List Char :=
  let name := if charset.isEmpty then usualCharset else String.ofList charset
  match Charset.ofName? name with
  | none => s
  | some c =>
    match c.decode (s.map fun c => UInt8.ofNat c.toNat) with
    | .ok t => if t.contains Text.replacement then s else t
    | .error _ => s

/-- The value that is given in segments. -/
def joinSegments (segments : List Segment) : List Char :=
  let ordered := segments.mergeSort fun a b => a.number.getD 0 ≤ b.number.getD 0
  let value := ordered.flatMap Segment.characters
  if segments.any Segment.isEscaped then
    match Text.cut? '\'' value with
    | some (charset, rest) =>
      match Text.cut? '\'' rest with
      | some (_, text) => reread charset text
      | none => reread [] value
    | none => reread [] value
  else value

/-- The value of a parameter. -/
def value? (name : List Char) (parameters : List Parameter) : Option (List Char) :=
  match parameters.find? fun p => p.name == name with
  | some p => some (unquoted p.value)
  | none =>
    match (parameters.drop 1).filterMap (segment? name) with
    | [] => none
    | segments => some (joinSegments segments)

/-- The name of the charset that a content type names; it has to be ASCII. -/
def charsetName? (contentType : String) : Option String :=
  ((value? "charset".toList (parameters contentType.toList)).filter fun name =>
    name.all fun c => c.toNat < 0x80).map String.ofList

/-- The charset of a content, UTF-8 if the content type names none that is known. -/
def charset (contentType : Option String) : Charset :=
  ((contentType.bind charsetName?).bind Charset.ofName?).getD .utf8

end ContentType
end TypeFiles
