/-
# Base 64

Four characters stand for three bytes.  Characters outside the alphabet are skipped.  The text ends
at padding that completes a group; a group that is begun must be completed.
-/

namespace TypeFiles
namespace Text

/-- The six bits that a character stands for. -/
def sixBits? (c : Char) : Option Nat :=
  if 'A' ≤ c ∧ c ≤ 'Z' then some (c.toNat - 'A'.toNat)
  else if 'a' ≤ c ∧ c ≤ 'z' then some (c.toNat - 'a'.toNat + 26)
  else if '0' ≤ c ∧ c ≤ '9' then some (c.toNat - '0'.toNat + 52)
  else if c = '+' then some 62
  else if c = '/' then some 63
  else none

/-- The bytes of a text, behind the bytes already found (last one first).  Of the group that is
begun, `place` characters have been read, `bits` of them are not used yet, and `padding` tells how
many padding characters came last. -/
def decodeBase64From (found : List UInt8) (place bits padding : Nat) :
    List Char → Option (List UInt8)
  | [] => if place = 0 then some found.reverse else none
  | c :: rest =>
    if c = '=' then
      if 2 ≤ place then
        if 4 ≤ place + padding + 1 then some found.reverse
        else decodeBase64From found place bits (padding + 1) rest
      else decodeBase64From found place bits padding rest
    else
      match sixBits? c with
      | none => decodeBase64From found place bits padding rest
      | some x =>
        match place with
        | 0 => decodeBase64From found 1 x 0 rest
        | 1 => decodeBase64From (UInt8.ofNat (bits * 4 + x / 16) :: found) 2 (x % 16) 0 rest
        | 2 => decodeBase64From (UInt8.ofNat (bits * 16 + x / 4) :: found) 3 (x % 4) 0 rest
        | _ => decodeBase64From (UInt8.ofNat (bits * 64 + x) :: found) 0 0 0 rest

/-- The bytes that a text stands for. -/
def decodeBase64? (s : List Char) : Option (List UInt8) := decodeBase64From [] 0 0 0 s

end Text
end TypeFiles
