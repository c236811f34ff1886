/-
# Charsets of one byte for a character

Most of them agree with ASCII on the lower half of the bytes, and their table lists the upper half
only; `U+FFFD` is where a byte stands for nothing.
-/

namespace TypeFiles
namespace Charset

/-- A charset by its names and its characters in rows: those of the upper half of the bytes, or
those of all bytes. -/
structure Table where
  names : List String
  rows : List String

namespace Table

/-- The characters of a table in order. -/
def characters (t : Table) : Array Char := (t.rows.flatMap String.toList).toArray

/-- The text of some bytes, for the characters of a table. -/
def decodeWith (characters : Array Char) (bytes : List UInt8) : List Char :=
  let first := 0x100 - characters.size
  bytes.map fun b =>
    if b.toNat < first then Char.ofNat b.toNat else characters.getD (b.toNat - first) '\uFFFD'

/-- The text of some bytes. -/
def decode (t : Table) (bytes : List UInt8) : List Char := decodeWith t.characters bytes

end Table

end Charset
end TypeFiles
