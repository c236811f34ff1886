/-
# Directions of writing

A label of a host name is written in one direction.  A label with a character that is written from
right to left, or with an Arabic-Indic digit, has to

* start with a letter that is written from right to left,
* hold no letter that is written from left to right,
* hold digits of one kind only,
* end with a letter or a digit, marks behind it looked over.

No label holds a letter whose direction is not settled.
-/

import TypeFiles.Address.HostName.Letter
import TypeFiles.Text.Mark

namespace TypeFiles
namespace Address

/-- The direction that a character of a host name is written in. -/
inductive Direction where
  | leftToRight
  | rightToLeft
  /-- A digit whose number is written from left to right. -/
  | digit
  /-- A digit whose number is written among letters from right to left. -/
  | arabicDigit
  | mark
  | neutral
  | unsettled
  deriving DecidableEq, Repr

/-- The letters that are written from right to left. -/
def rightToLeftLetters : List (Nat × Nat) := [
  (0x5D0, 0x5F4), (0x620, 0x64A), (0x66E, 0x66F), (0x671, 0x6D5), (0x6E5, 0x6E6), (0x6EE, 0x6EF),
  (0x6FA, 0x710), (0x712, 0x72F), (0x74D, 0x7A5), (0x7B1, 0x7EA), (0x7F4, 0x7F5), (0x800, 0x815),
  (0x81A, 0x81A), (0x824, 0x824), (0x828, 0x828), (0x840, 0x858), (0x860, 0x88E), (0x8A0, 0x8C9),
  (0xFE73, 0xFE73), (0x10800, 0x10A00), (0x10A10, 0x10A35), (0x10A60, 0x10AE4), (0x10B00, 0x10D23),
  (0x10E80, 0x10EA9), (0x10EB0, 0x10F45), (0x10F70, 0x10F81), (0x10FB0, 0x10FF6),
  (0x1E800, 0x1E8C4), (0x1E922, 0x1E943), (0x1E94B, 0x1E959)]

/-- The digits whose numbers are written from left to right. -/
def digitRanges : List (Nat × Nat) := [(0x30, 0x39), (0x6F0, 0x6F9)]

/-- The digits whose numbers are written among letters from right to left. -/
def arabicDigitRanges : List (Nat × Nat) := [(0x660, 0x669), (0x10D30, 0x10D39)]

/-- The characters that take the direction of their neighbours. -/
def neutralRanges : List (Nat × Nat) := [
  (0x2D, 0x2D), (0xB7, 0xB7), (0x2B9, 0x2BA), (0x2C6, 0x2CF), (0x2EC, 0x2EC), (0x375, 0x375),
  (0x200C, 0x200D), (0x2E2F, 0x2E2F), (0x30FB, 0x30FB), (0xA67F, 0xA67F), (0xA717, 0xA71F),
  (0xA788, 0xA788)]

/-- The nonspacing marks that count as letters. -/
def letterMarks : List Nat := [0xCBF, 0xCC6, 0x11A07, 0x11A08, 0x11C3F]

/-- The direction of a character of a host name. -/
def direction (c : Char) : Direction :=
  if Text.inRanges unsettledLetters c then .unsettled
  else if Text.inRanges rightToLeftLetters c then .rightToLeft
  else if Text.inRanges digitRanges c then .digit
  else if Text.inRanges arabicDigitRanges c then .arabicDigit
  else if Text.inRanges neutralRanges c then .neutral
  else if Text.isNonspacing c && !letterMarks.contains c.toNat then .mark
  else .leftToRight

/-- Whether a label is written in one direction. -/
def hasOneDirection (label : List Char) : Bool :=
  let directions := label.map direction
  if directions.contains .unsettled then false
  else if directions.contains .rightToLeft || directions.contains .arabicDigit then
    directions.head? == some .rightToLeft &&
      !directions.contains .leftToRight &&
      !(directions.contains .digit && directions.contains .arabicDigit) &&
      match directions.reverse.find? (· != .mark) with
      | some last => last != .neutral
      | none => false
  else true

end Address
end TypeFiles
