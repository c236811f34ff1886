/-
# Compatibility decomposition

Every character has a full compatibility decomposition: the sequence it stands for once accents,
ligatures, widths and styles are taken apart.

| character | decomposition |
| --- | --- |
| below `U+00A0` | itself |
| a Hangul syllable `S` | its leading consonant, vowel and trailing consonant, by arithmetic |
| in a run of `alignedRuns` | the character at the same place of the image run |
| in `expansions` | the listed sequence |
| any other | itself |

A decomposed text puts the marks that follow one base character into the order of their classes;
marks of equal class keep their order (`orderMarks`).
-/

import TypeFiles.Text.CombiningClass
import TypeFiles.Text.Decomposition.Aligned
import TypeFiles.Text.Decomposition.Expanding

namespace TypeFiles
namespace Text

/-- The leading consonant, the vowel and, if there is one, the trailing consonant of the Hangul
syllable with the given index, as code points. -/
def hangulLetters (index : Nat) : List Nat :=
  let consonantAndVowel := [0x1100 + index / 588, 0x1161 + index % 588 / 28]
  if index % 28 = 0 then consonantAndVowel else consonantAndVowel ++ [0x11A7 + index % 28]

/-- The full compatibility decomposition of a code point, `none` if it stands for itself. -/
def decomposition? (n : Nat) : Option (List Nat) :=
  if n < 0xA0 then none
  else if 0xAC00 ≤ n ∧ n ≤ 0xD7A3 then some (hangulLetters (n - 0xAC00))
  else
    match alignedRuns.find? fun run => run.first ≤ n && n ≤ run.last with
    | some run => some [run.image + (n - run.first)]
    | none => (expansions.find? fun e => e.char == n).map (·.image)

/-- The full compatibility decomposition of a character. -/
def decompose (c : Char) : List Char :=
  match decomposition? c.toNat with
  | some image => image.map Char.ofNat
  | none => [c]

/-- Put a character in front of a text whose marks are in order: a mark moves behind the marks of
lower class that come first. -/
def insertMark (c : Char) : List Char → List Char
  | [] => [c]
  | d :: rest =>
    if isMark d && combiningClass d < combiningClass c then d :: insertMark c rest
    else c :: d :: rest

/-- Order each run of marks by combining class, marks of equal class in the order they came. -/
def orderMarks (s : List Char) : List Char := s.foldr insertMark []

/-- The compatibility decomposition of a text: every character decomposed, marks in order. -/
def decomposed (s : List Char) : List Char := orderMarks (s.flatMap decompose)

/-- A text without its accents: decomposed, and its marks left out. -/
def withoutMarks (s : List Char) : List Char := (decomposed s).filter fun c => !isMark c

end Text
end TypeFiles
