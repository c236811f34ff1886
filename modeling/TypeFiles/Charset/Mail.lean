/-
# The charset of mail

A charset for channels that carry ASCII only.  A run of other characters is written as the digits of
base 64 of its two-byte units behind a `+`; a `-` ends it, and so does any character that is no such
digit.  `+-` is the `+` itself.

Replaced are a `+` with a character that is no digit behind it, a run whose last bits are no
character, and a byte that is not ASCII.
-/

import TypeFiles.Charset.Wide
import TypeFiles.Decimal.Digits
import TypeFiles.Text.Base64

namespace TypeFiles
namespace Charset

/-- A run of digits that is being read: the number of bits left over and their value, and the first
one of two units. -/
structure MailRun where
  count : Nat
  bits : Nat
  high : Option Nat
  deriving DecidableEq, Repr

namespace MailRun

/-- A run that starts. -/
def start : MailRun := ⟨0, 0, none⟩

/-- Read a digit: the characters that it completes, and the run behind it. -/
def read (r : MailRun) (digit : Nat) : List Char × MailRun :=
  let bits := r.bits * 64 + digit
  let count := r.count + 6
  if count < 16 then ([], { r with count, bits })
  else
    let left := Decimal.twoTo (count - 16)
    let unit := bits / left
    let rest : MailRun := ⟨count - 16, bits % left, none⟩
    match r.high with
    | some high =>
      if isLowSurrogate unit then ([joinSurrogates high unit], rest)
      else if isHighSurrogate unit then ([Text.replacement], { rest with high := some unit })
      else ([Text.replacement, Char.ofNat unit], rest)
    | none =>
      if isHighSurrogate unit then ([], { rest with high := some unit })
      else ([if unit.isValidChar then Char.ofNat unit else Text.replacement], rest)

/-- Whether the bits that are left over are part of a character. -/
def isPartial (r : MailRun) : Bool := 6 ≤ r.count || (0 < r.count && r.bits != 0)

end MailRun

/-- The value of a digit of base 64. -/
def mailDigit? (b : UInt8) : Option Nat := Text.sixBits? (Char.ofNat b.toNat)

/-- A character that is not written in digits. -/
def mailPlain (b : UInt8) : Char :=
  if b.toNat < 0x80 then Char.ofNat b.toNat else Text.replacement

/-- The text of some bytes, behind what has been read (last character first) and inside a run of
digits if one is given. -/
def decodeMailFrom (found : List Char) (run : Option MailRun) : List UInt8 → List Char
  | [] =>
    match run with
    | some r => (if r.isPartial || r.high.isSome then Text.replacement :: found else found).reverse
    | none => found.reverse
  | b :: rest =>
    match run, mailDigit? b with
    | some r, some digit =>
      let (complete, r) := r.read digit
      decodeMailFrom (complete.reverse ++ found) (some r) rest
    | some r, none =>
      if r.isPartial then decodeMailFrom (Text.replacement :: found) none rest
      else
        let found := if r.high.isSome && b.toNat < 0x80 then Text.replacement :: found else found
        if b == 0x2D then decodeMailFrom found none rest
        else decodeMailFrom (mailPlain b :: found) none rest
    | none, _ =>
      if b != 0x2B then decodeMailFrom (mailPlain b :: found) none rest
      else
        match rest with
        | [] => decodeMailFrom found (some .start) []
        | c :: behind =>
          if c == 0x2D then decodeMailFrom ('+' :: found) none behind
          else if (mailDigit? c).isNone then decodeMailFrom (Text.replacement :: found) none behind
          else decodeMailFrom found (some .start) (c :: behind)

/-- The text of some bytes. -/
def decodeMail (bytes : List UInt8) : List Char := decodeMailFrom [] none bytes

end Charset
end TypeFiles
