/-
# Writing JSON

A value is written on one line, in ASCII: every character beyond it is escaped, a character above
`U+FFFF` as its surrogate pair.  Values that JSON has no form for are written as texts, and a key
that is no text as the text of its own form.
-/

import TypeFiles.Value

namespace TypeFiles
namespace Json

/-- The escape of a code unit. -/
def escapedUnit (n : Nat) : String := "\\u" ++ Decimal.hex 4 n

/-- A character inside a text. -/
def escapedChar (c : Char) : String :=
  if c == '"' then "\\\""
  else if c == '\\' then "\\\\"
  else if 0x20 ≤ c.toNat && c.toNat < 0x7F then c.toString
  else if c.toNat < 0x10000 then escapedUnit c.toNat
  else
    let offset := c.toNat - 0x10000
    escapedUnit (0xD800 + offset / 0x400) ++ escapedUnit (0xDC00 + offset % 0x400)

/-- A text between double quotes. -/
def writeText (s : String) : String := "\"" ++ String.join (s.toList.map escapedChar) ++ "\""

/-- A double: a finite one as its decimal, the others as words. -/
def writeFloat (x : Float) : String :=
  if x.isNaN then "NaN"
  else if x.isInf then if x < 0 then "-Infinity" else "Infinity"
  else Decimal.ofDouble x

/-- The text of a key. -/
def keyText : Value → String
  | .null => "null"
  | .bool b => if b then "true" else "false"
  | .float x => writeFloat x
  | v => v.shown

mutual

/-- A value as a JSON text. -/
def write : Value → String
  | .null => "null"
  | .bool b => if b then "true" else "false"
  | .int n => toString n
  | .float x => writeFloat x
  | .list items => "[" ++ Value.joined "," (writeAll items) ++ "]"
  | .tuple items => "[" ++ Value.joined "," (writeAll items) ++ "]"
  | .set items => "[" ++ Value.joined "," (writeAll items) ++ "]"
  | .mapping entries => "\x7b" ++ Value.joined "," (writeEntries entries) ++ "\x7d"
  | v => writeText v.shown

/-- The items of a list, each written. -/
def writeAll : List Value → List String
  | [] => []
  | v :: rest => write v :: writeAll rest

/-- The entries of an object, each written as key, colon and value. -/
def writeEntries : List (Value × Value) → List String
  | [] => []
  | (k, v) :: rest => (writeText (keyText k) ++ ":" ++ write v) :: writeEntries rest

end

end Json
end TypeFiles
