/-
# Composed texts

A text is *composed* if none of its characters can be put together with the one before it, and none
has to be written as others.  To compose a text, its characters are taken apart as far as they go,
the marks on one base are put in order, and then each character is joined to the base before it
where a pair of the two exists.

| character | when it is not joined to the base before it |
| --- | --- |
| a mark | a mark of the same or a higher class stands between them |
| any other | anything stands between them |
-/

import TypeFiles.Text.Composition.Pair
import TypeFiles.Text.Decomposition
import TypeFiles.Text.Range

namespace TypeFiles
namespace Text

/-- The characters that no composed text holds. -/
def neverComposed : List (Nat × Nat) := [
  (0x340, 0x341), (0x343, 0x344), (0x374, 0x374), (0x37E, 0x37E), (0x387, 0x387), (0x958, 0x95F),
  (0x9DC, 0x9DD), (0x9DF, 0x9DF), (0xA33, 0xA33), (0xA36, 0xA36), (0xA59, 0xA5B), (0xA5E, 0xA5E),
  (0xB5C, 0xB5D), (0xF43, 0xF43), (0xF4D, 0xF4D), (0xF52, 0xF52), (0xF57, 0xF57), (0xF5C, 0xF5C),
  (0xF69, 0xF69), (0xF73, 0xF73), (0xF75, 0xF76), (0xF78, 0xF78), (0xF81, 0xF81), (0xF93, 0xF93),
  (0xF9D, 0xF9D), (0xFA2, 0xFA2), (0xFA7, 0xFA7), (0xFAC, 0xFAC), (0xFB9, 0xFB9), (0x1F71, 0x1F71),
  (0x1F73, 0x1F73), (0x1F75, 0x1F75), (0x1F77, 0x1F77), (0x1F79, 0x1F79), (0x1F7B, 0x1F7B),
  (0x1F7D, 0x1F7D), (0x1FBB, 0x1FBB), (0x1FBE, 0x1FBE), (0x1FC9, 0x1FC9), (0x1FCB, 0x1FCB),
  (0x1FD3, 0x1FD3), (0x1FDB, 0x1FDB), (0x1FE3, 0x1FE3), (0x1FEB, 0x1FEB), (0x1FEE, 0x1FEF),
  (0x1FF9, 0x1FF9), (0x1FFB, 0x1FFB), (0x1FFD, 0x1FFD), (0x2000, 0x2001), (0x2126, 0x2126),
  (0x212A, 0x212B), (0x2329, 0x232A), (0x2ADC, 0x2ADC), (0xF900, 0xFA0D), (0xFA10, 0xFA10),
  (0xFA12, 0xFA12), (0xFA15, 0xFA1E), (0xFA20, 0xFA20), (0xFA22, 0xFA22), (0xFA25, 0xFA26),
  (0xFA2A, 0xFA6D), (0xFA70, 0xFAD9), (0xFB1D, 0xFB1D), (0xFB1F, 0xFB1F), (0xFB2A, 0xFB36),
  (0xFB38, 0xFB3C), (0xFB3E, 0xFB3E), (0xFB40, 0xFB41), (0xFB43, 0xFB44), (0xFB46, 0xFB4E),
  (0x1D15E, 0x1D164), (0x1D1BB, 0x1D1C0), (0x2F800, 0x2FA1D)]

/-- The two parts of a composed character. -/
def parts? (n : Nat) : Option (Nat × Nat) :=
  if 0xAC00 ≤ n ∧ n ≤ 0xD7A3 then
    let index := n - 0xAC00
    if index % 28 = 0 then some (0x1100 + index / 588, 0x1161 + index % 588 / 28)
    else some (n - index % 28, 0x11A7 + index % 28)
  else (pairs.find? fun p => p.whole == n).map fun p => (p.first, p.second)

/-- The character composed of two. -/
def whole? (first second : Nat) : Option Nat :=
  if 0x1100 ≤ first ∧ first ≤ 0x1112 ∧ 0x1161 ≤ second ∧ second ≤ 0x1175 then
    some (0xAC00 + ((first - 0x1100) * 21 + (second - 0x1161)) * 28)
  else if 0xAC00 ≤ first ∧ first ≤ 0xD7A3 ∧ (first - 0xAC00) % 28 = 0 ∧
      0x11A8 ≤ second ∧ second ≤ 0x11C2 then
    some (first + (second - 0x11A7))
  else (pairs.find? fun p => p.first == first && p.second == second).map (·.whole)

/-- The number of times that a character can be taken apart. -/
def mostParts : Nat := 4

/-- A character taken apart, at most as often as the first argument says. -/
def takenApart : Nat → Nat → List Nat
  | 0, n => [n]
  | depth + 1, n =>
    match parts? n with
    | some (first, second) => takenApart depth first ++ [second]
    | none => [n]

/-- What a text is composed of so far: what is complete, last character first, the base that may
still be joined to something, and the marks behind it, last one first. -/
structure Composing where
  before : List Char
  base : Option Char
  marks : List Char

namespace Composing

/-- The text so far, last character first. -/
def reversed (s : Composing) : List Char := s.marks ++ s.base.toList ++ s.before

/-- Whether a character behind the marks can be joined to the base. -/
def reaches (s : Composing) (c : Char) : Bool :=
  match s.marks with
  | [] => true
  | mark :: _ => combiningClass mark < combiningClass c

/-- One more character. -/
def add (s : Composing) (c : Char) : Composing :=
  let joined := if s.reaches c then s.base.bind fun b => whole? b.toNat c.toNat else none
  match joined with
  | some whole => { s with base := some (Char.ofNat whole) }
  | none => if isMark c then { s with marks := c :: s.marks } else ⟨s.reversed, some c, []⟩

end Composing

/-- A text whose characters are joined to the bases before them. -/
def joined (s : List Char) : List Char :=
  (s.foldl Composing.add ⟨[], none, []⟩).reversed.reverse

/-- Whether a text is composed. -/
def isComposed (s : List Char) : Bool :=
  s.all (fun c => !inRanges neverComposed c) &&
    joined (orderMarks (s.flatMap fun c => (takenApart mostParts c.toNat).map Char.ofNat)) == s

end Text
end TypeFiles
