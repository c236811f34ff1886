/-
# Text in quotes

A text inside a message or inside a list is shown in quotes.  The quote is `'`, or `"` when the
text holds a `'` and no `"`; a quote of the same kind and the backslash get a backslash in front.

| character | shown as |
| --- | --- |
| tab, line feed, carriage return | `\t`, `\n`, `\r` |
| printable | itself |
| not printable, below `U+0100` | `\x` and two hexadecimal digits |
| not printable, below `U+10000` | `\u` and four |
| any other | `\U` and eight |
-/

import TypeFiles.Decimal.Digits
import TypeFiles.Text.Printable

namespace TypeFiles
namespace Text

/-- The quote that surrounds a text. -/
def quoteFor (s : List Char) : Char :=
  if s.contains '\'' && !s.contains '"' then '"' else '\''

/-- A character as it stands between quotes of the given kind. -/
def escaped (quote c : Char) : String :=
  if c == quote || c == '\\' then String.ofList ['\\', c]
  else if c == '\t' then "\\t"
  else if c == '\n' then "\\n"
  else if c == '\x0d' then "\\r"
  else if isPrintable c then c.toString
  else if c.toNat < 0x100 then "\\x" ++ Decimal.hex 2 c.toNat
  else if c.toNat < 0x10000 then "\\u" ++ Decimal.hex 4 c.toNat
  else "\\U" ++ Decimal.hex 8 c.toNat

/-- A text in quotes. -/
def quoted (s : String) : String :=
  let quote := quoteFor s.toList
  quote.toString ++ String.join (s.toList.map (escaped quote)) ++ quote.toString

/-- A byte as it stands between quotes of the given kind. -/
def escapedByte (quote : Char) (b : UInt8) : String :=
  let c := Char.ofNat b.toNat
  if c == quote || c == '\\' then String.ofList ['\\', c]
  else if c == '\t' then "\\t"
  else if c == '\n' then "\\n"
  else if c == '\x0d' then "\\r"
  else if 0x20 ≤ b.toNat && b.toNat < 0x7F then c.toString
  else "\\x" ++ Decimal.hex 2 b.toNat

/-- A run of bytes in quotes, marked by the letter `b`. -/
def quotedBytes (bytes : List UInt8) : String :=
  let quote := quoteFor (bytes.map fun b => Char.ofNat b.toNat)
  "b" ++ quote.toString ++ String.join (bytes.map (escapedByte quote)) ++ quote.toString

end Text
end TypeFiles
