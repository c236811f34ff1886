/-
# Charsets of two and four bytes for a unit

A character is one unit, or two units of two bytes: a high and a low surrogate.  A surrogate that
stands alone, a unit that is no code point and bytes that break off are replaced.
-/

import TypeFiles.Text.Utf8

namespace TypeFiles
namespace Charset

/-- The order of the bytes of a unit. -/
inductive ByteOrder where
  | bigFirst
  | littleFirst
  deriving DecidableEq, Repr

/-- The number that some bytes write. -/
def ByteOrder.unit (o : ByteOrder) (bytes : List UInt8) : Nat :=
  let ordered := match o with
    | .bigFirst => bytes
    | .littleFirst => bytes.reverse
  ordered.foldl (fun n b => n * 0x100 + b.toNat) 0

/-- Whether a unit is the first one of two. -/
def isHighSurrogate (unit : Nat) : Bool := 0xD800 ≤ unit && unit ≤ 0xDBFF

/-- Whether a unit is the second one of two. -/
def isLowSurrogate (unit : Nat) : Bool := 0xDC00 ≤ unit && unit ≤ 0xDFFF

/-- The character of two units. -/
def joinSurrogates (high low : Nat) : Char :=
  Char.ofNat (0x10000 + (high - 0xD800) * 0x400 + (low - 0xDC00))

/-- The text of some bytes, two for a unit. -/
def decodeUtf16 (o : ByteOrder) : List UInt8 → List Char
  | a :: b :: c :: d :: rest =>
    let first := o.unit [a, b]
    let second := o.unit [c, d]
    if isHighSurrogate first && isLowSurrogate second then
      joinSurrogates first second :: decodeUtf16 o rest
    else (if first.isValidChar then Char.ofNat first else Text.replacement) ::
      decodeUtf16 o (c :: d :: rest)
  | [a, b, _] =>
    let unit := o.unit [a, b]
    if isHighSurrogate unit then [Text.replacement]
    else [if unit.isValidChar then Char.ofNat unit else Text.replacement, Text.replacement]
  | [a, b] =>
    let unit := o.unit [a, b]
    [if unit.isValidChar then Char.ofNat unit else Text.replacement]
  | [_] => [Text.replacement]
  | [] => []

/-- The text of some bytes, four for a unit. -/
def decodeUtf32 (o : ByteOrder) : List UInt8 → List Char
  | a :: b :: c :: d :: rest =>
    let unit := o.unit [a, b, c, d]
    (if unit.isValidChar then Char.ofNat unit else Text.replacement) :: decodeUtf32 o rest
  | [] => []
  | _ => [Text.replacement]

/-- The order that the first bytes of a text in two-byte units tell, and the bytes behind them. -/
def markedOrder16? : List UInt8 → Option (ByteOrder × List UInt8)
  | 0xFE :: 0xFF :: rest => some (.bigFirst, rest)
  | 0xFF :: 0xFE :: rest => some (.littleFirst, rest)
  | _ => none

/-- The order that the first bytes of a text in four-byte units tell, and the bytes behind them. -/
def markedOrder32? : List UInt8 → Option (ByteOrder × List UInt8)
  | 0 :: 0 :: 0xFE :: 0xFF :: rest => some (.bigFirst, rest)
  | 0xFF :: 0xFE :: 0 :: 0 :: rest => some (.littleFirst, rest)
  | _ => none

end Charset
end TypeFiles
