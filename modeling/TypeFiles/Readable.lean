/-
# Reading texts

A text in a format may break the rules of the format, or hold something that has no value.  Either
way nothing is read of it.

Whole numbers in decimal digits have to be of a reasonable length to be read.
-/

import TypeFiles.Decimal.Numeral
import TypeFiles.Failure

namespace TypeFiles

/-- Why a text has no value. -/
inductive Unreadable where
  /-- It breaks the rules of its format. -/
  | malformed
  | accident (a : Accident)
  deriving DecidableEq, Repr

/-- What was read of a text, or why nothing was. -/
abbrev Readable (α : Type) := Except Unreadable α

namespace Readable

/-- A text that breaks the rules of its format. -/
def malformed {α : Type} : Readable α := .error .malformed

/-- A text that is read by accident only. -/
def accident {α : Type} (a : Accident) : Readable α := .error (.accident a)

/-- What was found; a text in which nothing was found breaks the rules. -/
def ofOption {α : Type} : Option α → Readable α
  | some x => .ok x
  | none => malformed

/-- The number that decimal digits write. -/
def number (digits : List Char) : Readable Nat :=
  if digits.length ≤ Decimal.mostDigits then .ok (Decimal.ofDigits 10 digits)
  else accident (.tooManyDigits (some digits.length))

end Readable
end TypeFiles
