/-
# Charsets of two bytes for a character

ASCII takes one byte, and so do a few other characters in some of these charsets.  Any other
character takes a pair of bytes, the first of which is in the upper half; in some charsets a few
take three or four bytes.

A pair that stands for nothing becomes `U+FFFD`, and reading goes on at its second byte.  So does a
character that is cut off at the end of the text, as a whole.
-/

import TypeFiles.Charset.Quadruple

namespace TypeFiles
namespace Charset

/-- A charset of pairs: characters come in runs, each with the code of the first one.  A later run
overrides an earlier one. -/
structure Pairs where
  names : List String
  /-- Other characters of one byte. -/
  single : List (Nat × String) := []
  double : List (Nat × String)
  /-- Runs of pairs whose characters follow one another: the first pair, the first character and
  their number. -/
  sequences : List (Nat × Nat × Nat) := []
  /-- Pairs that stand for several characters. -/
  clusters : List (Nat × String) := []
  /-- Characters of two bytes behind the byte `0x8F`. -/
  supplement : List (Nat × String) := []
  /-- The least that either byte of a pair in the runs of pairs can be. -/
  least : Nat := 0
  /-- Pairs that stand for nothing although they are in a run: the first and the last ones. -/
  gaps : List (Nat × Nat) := []
  /-- Whether the runs go by the shifted codes of the pairs. -/
  isShifted : Bool := false
  hasQuadruples : Bool := false

namespace Pairs

/-- The characters in the upper half of the codes with some bits, `U+FFFD` where there is none. -/
def cells (bits : Nat) (runs : List (Nat × String)) : Array Char :=
  let half := Decimal.twoTo (bits - 1)
  runs.foldl (fun found (first, s) =>
    s.toList.zipIdx.foldl (fun found (c, i) => found.setIfInBounds (first - half + i) c) found)
    (Array.replicate half '\uFFFD')

/-- The code of a pair of a row and a cell of 94 characters each, when pairs of rows share a first
byte. -/
def shiftedCode (code : Nat) : Nat :=
  let row := code / 256 - 0xA1
  let cell := code % 256 - 0xA1
  let first := row / 2 + if row < 62 then 0x81 else 0xC1
  let second :=
    if row % 2 = 0 then cell + if cell < 63 then 0x40 else 0x41 else cell + 0x9F
  first * 256 + second

/-- The characters of a charset by their codes. -/
structure Lookup where
  single : Array Char
  double : Array Char
  supplement : Array Char

/-- The characters of a charset by their codes. -/
def lookup (p : Pairs) : Lookup :=
  ⟨cells 8 p.single, cells 16 p.double, cells 16 p.supplement⟩

/-- A character by its code, if there is one. -/
def at? (cells : Array Char) (index : Nat) : Option Char :=
  match cells[index]? with
  | some c => if c == '\uFFFD' then none else some c
  | none => none

/-- The character that a pair of bytes stands for by the runs. -/
def inRuns? (p : Pairs) (found : Lookup) (a b : UInt8) : Option Char :=
  let code := a.toNat * 256 + b.toNat
  if a.toNat < p.least || b.toNat < p.least ||
      p.gaps.any fun (first, last) => first ≤ code && code ≤ last then none
  else at? found.double ((if p.isShifted then shiftedCode code else code) - 0x8000)

/-- The characters that a pair of bytes stands for. -/
def pair? (p : Pairs) (found : Lookup) (a b : UInt8) : Option (List Char) :=
  let code := a.toNat * 256 + b.toNat
  match p.clusters.lookup code with
  | some s => some s.toList
  | none =>
    match p.sequences.find? fun (first, _, count) => first ≤ code && code < first + count with
    | some (first, c, _) => some [Char.ofNat (c + (code - first))]
    | none => (inRuns? p found a b).map fun c => [c]

/-- What stands for bytes that stand for nothing. -/
def unknown : Char := '\uFFFD'

/-- The text of some bytes. -/
def decodeWith (p : Pairs) (found : Lookup) : List UInt8 → List Char
  | [] => []
  | [a] =>
    if a < 0x80 then [Char.ofNat a.toNat]
    else [(at? found.single (a.toNat - 0x80)).getD unknown]
  | a :: b :: rest =>
    if a < 0x80 then Char.ofNat a.toNat :: decodeWith p found (b :: rest)
    else
      match at? found.single (a.toNat - 0x80) with
      | some c => c :: decodeWith p found (b :: rest)
      | none =>
        if p.hasQuadruples && isSecond b then
          match rest with
          | c :: d :: behind =>
            match quadruple? a b c d with
            | some found' => found' :: decodeWith p found behind
            | none => unknown :: decodeWith p found (b :: c :: d :: behind)
          | _ => [unknown]
        else if a == 0x8F && !p.supplement.isEmpty then
          match rest with
          | c :: behind =>
            match at? found.supplement (b.toNat * 256 + c.toNat - 0x8000) with
            | some found' => found' :: decodeWith p found behind
            | none => unknown :: decodeWith p found (b :: c :: behind)
          | [] => [unknown]
        else
          match pair? p found a b with
          | some cs => cs ++ decodeWith p found rest
          | none => unknown :: decodeWith p found (b :: rest)

/-- The text of some bytes. -/
def decode (p : Pairs) (bytes : List UInt8) : List Char := decodeWith p p.lookup bytes

end Pairs

end Charset
end TypeFiles
