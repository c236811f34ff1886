/-
# Charsets that write characters in others

Two of them write a character as a backslash and its number; every other byte stands for the
character with its number.

| behind the backslash | read in |
| --- | --- |
| `u`, `U` and four or eight hexadecimal digits | both |
| `x` and two hexadecimal digits, up to three octal digits | the full one |
| a backslash, a quote, the letter of a control character, a line feed, which is left out | the full one |
| anything else, which stands for itself and the backslash | both |

Digits that break off and numbers of no character are replaced, and so is a backslash at the end of
a text that is read in full.  A third charset is that of `Text/Punycode`; what cannot be read there
ends the text.

The names of characters, such as `\N{BULLET}`, are not looked up, but stand for themselves.
-/

import TypeFiles.Charset.Mail
import TypeFiles.Text.Punycode

namespace TypeFiles
namespace Charset

/-- The character with a number, if there is one. -/
def numbered (n : Nat) : Char := if n.isValidChar then Char.ofNat n else Text.replacement

/-! ## Backslashes -/

/-- An escape that is being read. -/
inductive Escape where
  | outside
  | backslash
  /-- Octal digits: how many may still come, and the number so far. -/
  | octal (left number : Nat)
  /-- Hexadecimal digits: how many have to come behind the next one, and the number so far. -/
  | digits (left number : Nat)
  deriving DecidableEq, Repr

namespace Escape

/-- The numbers of the characters that are written by a backslash and another character. -/
def letters : List (Nat × Nat) :=
  [(0x5C, 0x5C), (0x27, 0x27), (0x22, 0x22), (0x61, 0x07), (0x62, 0x08), (0x74, 0x09),
    (0x6E, 0x0A), (0x76, 0x0B), (0x66, 0x0C), (0x72, 0x0D)]

/-- The value of an octal digit. -/
def octal? (c : Char) : Option Nat := (Decimal.digitValue? c).filter (· < 8)

/-- Read a character outside of escapes. -/
def plain (c : Char) : List Char × Escape := if c == '\\' then ([], backslash) else ([c], outside)

/-- Read the character behind a backslash. -/
def behind (full : Bool) (c : Char) : List Char × Escape :=
  if c == 'u' then ([], digits 3 0)
  else if c == 'U' then ([], digits 7 0)
  else if !full then (['\\', c], outside)
  else if c == 'x' then ([], digits 1 0)
  else if c == '\n' then ([], outside)
  else
    match octal? c, letters.lookup c.toNat with
    | some d, _ => ([], octal 2 d)
    | none, some n => ([Char.ofNat n], outside)
    | none, none => (['\\', c], outside)

/-- Read a character: the characters that it completes, and the escape behind it. -/
def read (full : Bool) (e : Escape) (c : Char) : List Char × Escape :=
  match e with
  | outside => plain c
  | backslash => behind full c
  | octal left n =>
    match octal? c with
    | some d =>
      if 1 < left then ([], octal (left - 1) (n * 8 + d)) else ([numbered (n * 8 + d)], outside)
    | none =>
      let (found, next) := plain c
      (numbered n :: found, next)
  | digits left n =>
    match Decimal.digitValue? c with
    | some d =>
      if 0 < left then ([], digits (left - 1) (n * 16 + d)) else ([numbered (n * 16 + d)], outside)
    | none =>
      let (found, next) := plain c
      (Text.replacement :: found, next)

/-- The characters that the end of a text completes. -/
def finish (full : Bool) : Escape → List Char
  | outside => []
  | backslash => [if full then Text.replacement else '\\']
  | octal _ n => [numbered n]
  | digits _ _ => [Text.replacement]

end Escape

/-- The text of some characters, inside an escape. -/
def decodeEscapesFrom (full : Bool) (e : Escape) : List Char → List Char
  | [] => e.finish full
  | c :: rest =>
    let (found, next) := e.read full c
    found ++ decodeEscapesFrom full next rest

/-- The text of some bytes with escapes. -/
def decodeEscapes (full : Bool) (bytes : List UInt8) : List Char :=
  decodeEscapesFrom full .outside (bytes.map fun b => Char.ofNat b.toNat)

/-! ## Letters, digits and hyphens -/

/-- The text of some bytes in letters, digits and hyphens, if all behind the last hyphen are
ASCII. -/
def decodePunycode? (bytes : List UInt8) : Option (List Char) :=
  let points := bytes.reverse.takeWhile fun b => b != 0x2D
  if points.any fun b => 0x80 ≤ b.toNat then none
  else
    let basic := (bytes.reverse.drop (points.length + 1)).reverse
    let read := Text.Punycode.readPoints (basic.map fun b => (mailPlain b).toNat) 0 0x80 72 true
      (points.reverse.map fun b => Char.ofNat b.toNat)
    some (read.map numbered)

end Charset
end TypeFiles
