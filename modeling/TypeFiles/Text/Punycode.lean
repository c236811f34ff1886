/-
# Texts in few characters

A text can be written in letters, digits and hyphens only: first its ASCII characters and a hyphen,
then, for every other character in increasing order, how many steps lie between it and the one
before.  A step moves to the next place in the text, or from the last place to the first place and
the next code point.

The number of steps is written in digits of base 36, the least significant one first.  A digit below
a *threshold* is the last one; the thresholds follow the numbers written so far (`adapted`).
-/

import TypeFiles.Decimal.Digits

namespace TypeFiles
namespace Text
namespace Punycode

/-- The digit of a value below 36. -/
def digit (value : Nat) : Char :=
  if value < 26 then Char.ofNat ('a'.toNat + value) else Char.ofNat ('0'.toNat + (value - 26))

/-- The value of a digit. -/
def value? (c : Char) : Option Nat :=
  if c.isDigit then some (c.toNat - '0'.toNat + 26)
  else if c.isLower then some (c.toNat - 'a'.toNat)
  else if c.isUpper then some (c.toNat - 'A'.toNat)
  else none

/-- The threshold of the digit at a place, the places counted in steps of 36. -/
def threshold (bias place : Nat) : Nat :=
  if place ≤ bias + 1 then 1 else if bias + 26 ≤ place then 26 else place - bias

/-- A threshold leaves values above it for the digits that go on. -/
theorem threshold_bounds (bias place : Nat) :
    1 ≤ threshold bias place ∧ threshold bias place ≤ 26 := by
  unfold threshold
  split
  · omega
  · split <;> omega

/-- Divide by 35 as long as the number is large; the second number counts by 36 how often. -/
def scaled (n count : Nat) : Nat × Nat :=
  if 455 < n then scaled (n / 35) (count + 36) else (n, count)
termination_by n
decreasing_by omega

/-- The bias after a number of steps has been written, for a text of the given length. -/
def adapted (isFirst : Bool) (steps length : Nat) : Nat :=
  let n := if isFirst then steps / 700 else steps / 2
  let (rest, count) := scaled (n + n / length) 0
  count + 36 * rest / (rest + 38)

/-- The digits of a number of steps, from a place on. -/
def digits (bias place n : Nat) : List Char :=
  let t := threshold bias place
  if n < t then [digit n]
  else digit (t + (n - t) % (36 - t)) :: digits bias (place + 36) ((n - t) / (36 - t))
termination_by n
decreasing_by
  have h := threshold_bounds bias place
  exact Nat.lt_of_le_of_lt (Nat.div_le_self _ _) (by omega)

/-- Read a number of steps: the number and the rest of the text. -/
def readDigits? (bias : Nat) : List Char → (place weight sum : Nat) → Option (Nat × List Char)
  | [], _, _, _ => none
  | c :: rest, place, weight, sum =>
    match value? c with
    | none => none
    | some v =>
      let t := threshold bias place
      let sum := sum + v * weight
      if v < t then some (sum, rest)
      else readDigits? bias rest (place + 36) (weight * (36 - t)) sum

/-- Reading a number uses up some of the text. -/
theorem length_readDigits? {bias : Nat} {s : List Char} {place weight sum : Nat}
    {r : Nat × List Char} (h : readDigits? bias s place weight sum = some r) :
    r.2.length < s.length := by
  induction s generalizing place weight sum with
  | nil => simp [readDigits?] at h
  | cons c rest ih =>
    rw [readDigits?] at h
    split at h
    · simp at h
    · dsimp only at h
      split at h
      · obtain rfl := Option.some.inj h
        simp
      · exact Nat.lt_succ_of_lt (ih h)

/-! ## Writing -/

/-- How far a text has been written: the digits so far, the steps since the last number, the bias
and the number of characters written. -/
structure Writer where
  written : List Char
  steps : Nat
  bias : Nat
  length : Nat

/-- Pass by one place of the text while a code point is being written. -/
def Writer.pass (isFirst : Nat → Bool) (point : Nat) (w : Writer) (c : Char) : Writer :=
  if c.toNat < point then { w with steps := w.steps + 1 }
  else if c.toNat == point then
    { written := w.written ++ digits w.bias 36 w.steps
      steps := 0
      bias := adapted (isFirst w.length) w.steps (w.length + 1)
      length := w.length + 1 }
  else w

/-- Write all code points of a list that is in increasing order; `next` is the smallest that may
come. -/
def writePoints (s : List Char) (isFirst : Nat → Bool) :
    (next : Nat) → List Nat → Writer → List Char
  | _, [], w => w.written
  | next, point :: rest, w =>
    let w := { w with steps := w.steps + (point - next) * (w.length + 1) }
    let w := s.foldl (Writer.pass isFirst point) w
    writePoints s isFirst (point + 1) rest { w with steps := w.steps + 1 }

/-- Whether a code point is ASCII. -/
def isBasic (c : Char) : Bool := c.toNat < 0x80

/-- A text in letters, digits and hyphens. -/
def encode (s : List Char) : List Char :=
  let basic := s.filter isBasic
  let points := ((s.filter fun c => !isBasic c).map Char.toNat).mergeSort.eraseDups
  basic ++ (if basic.isEmpty then [] else ['-']) ++
    writePoints s (· == basic.length) 0x80 points ⟨[], 0, 72, basic.length⟩

/-! ## Reading -/

/-- Insert the characters that a run of digits stands for.  `steps` counts from the start, and
`point` is the code point reached. -/
def readPoints? (found : List Nat) (place point bias : Nat) (isFirst : Bool) :
    List Char → Option (List Nat)
  | [] => some found
  | c :: rest =>
    match h : readDigits? bias (c :: rest) 36 1 0 with
    | none => none
    | some (steps, behind) =>
      let length := found.length + 1
      let moved := place + steps
      let point := point + moved / length
      let place := moved % length
      if 0x10FFFF < point then none
      else
        readPoints? (found.insertIdx place point) (place + 1) point
          (adapted isFirst steps length) false behind
termination_by s => s.length
decreasing_by exact length_readDigits? h

/-- Insert the characters of a run of digits as far as it can be read.  A code point that is beyond
all bounds is a question mark. -/
def readPoints (found : List Nat) (place point bias : Nat) (isFirst : Bool) :
    List Char → List Nat
  | [] => found
  | c :: rest =>
    match h : readDigits? bias (c :: rest) 36 1 0 with
    | none => found
    | some (steps, behind) =>
      let length := found.length + 1
      let moved := place + steps
      let next := point + moved / length
      let point := if 0x10FFFF < next then '?'.toNat else next
      let place := moved % length
      readPoints (found.insertIdx place point) (place + 1) point
        (adapted isFirst steps length) false behind
termination_by s => s.length
decreasing_by exact length_readDigits? h

/-- The code points of a text that is written in letters, digits and hyphens. -/
def decode? (s : List Char) : Option (List Nat) :=
  let behind := s.reverse.takeWhile fun c => c != '-'
  let basic := (s.reverse.drop (behind.length + 1)).reverse
  readPoints? (basic.map Char.toNat) 0 0x80 72 true behind.reverse

end Punycode
end Text
end TypeFiles
