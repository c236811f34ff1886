/-
# UTF-8

A character is one to four bytes.  Overlong forms, surrogates, code points beyond the last one and
sequences that break off are broken; so the second byte of some sequences has narrower bounds than
`0x80` … `0xBF`.

| first byte | length | second byte |
| --- | --- | --- |
| below `0x80` | 1 | |
| `0xC2` … `0xDF` | 2 | any |
| `0xE0` | 3 | from `0xA0` |
| `0xED` | 3 | up to `0x9F` |
| `0xE1` … `0xEF`, but `0xED` | 3 | any |
| `0xF0` | 4 | from `0x90` |
| `0xF1` … `0xF3` | 4 | any |
| `0xF4` | 4 | up to `0x8F` |

Bytes are decoded strictly (`decodeUtf8?`), or with U+FFFD for each broken sequence
(`decodeUtf8`).
-/

namespace TypeFiles
namespace Text

/-- Whether a byte goes on with a sequence, within narrower bounds than any such byte. -/
def goesOn (low high : Nat) (b : UInt8) : Bool := low ≤ b.toNat && b.toNat ≤ high

/-- The number of bytes that a first byte announces behind it, and the bounds of the next one. -/
def announced (lead : Nat) : Option (Nat × Nat × Nat) :=
  if lead < 0x80 then some (0, 0x80, 0xBF)
  else if lead < 0xC2 then none
  else if lead < 0xE0 then some (1, 0x80, 0xBF)
  else if lead == 0xE0 then some (2, 0xA0, 0xBF)
  else if lead == 0xED then some (2, 0x80, 0x9F)
  else if lead < 0xF0 then some (2, 0x80, 0xBF)
  else if lead == 0xF0 then some (3, 0x90, 0xBF)
  else if lead < 0xF4 then some (3, 0x80, 0xBF)
  else if lead == 0xF4 then some (3, 0x80, 0x8F)
  else none

/-- The bits of a first byte that belong to the code point. -/
def leadBits (lead : Nat) : Nat :=
  if lead < 0x80 then lead
  else if lead < 0xE0 then lead % 0x20
  else if lead < 0xF0 then lead % 0x10
  else lead % 0x08

/-- Take a number of bytes that go on with a sequence: the code point if all of them are there, and
the bytes behind those that are. -/
def takeContinuation : (count low high : Nat) → (bits : Nat) → List UInt8 →
    Option Nat × List UInt8
  | 0, _, _, bits, rest => (some bits, rest)
  | count + 1, low, high, bits, b :: rest =>
    if goesOn low high b then takeContinuation count 0x80 0xBF (bits * 64 + b.toNat % 64) rest
    else (none, b :: rest)
  | _ + 1, _, _, _, [] => (none, [])

/-- Taking bytes leaves no more of them. -/
theorem length_takeContinuation (count low high bits : Nat) (rest : List UInt8) :
    (takeContinuation count low high bits rest).2.length ≤ rest.length := by
  induction count generalizing low high bits rest with
  | zero => simp [takeContinuation]
  | succ count ih =>
    cases rest with
    | nil => simp [takeContinuation]
    | cons b rest =>
      rw [takeContinuation]
      split
      · exact Nat.le_succ_of_le (ih ..)
      · simp

/-- The first character of a run of bytes, `none` if it is broken, and the bytes behind it. -/
def firstUtf8 (lead : UInt8) (rest : List UInt8) : Option Char × List UInt8 :=
  match announced lead.toNat with
  | none => (none, rest)
  | some (count, low, high) =>
    let (point, behind) := takeContinuation count low high (leadBits lead.toNat) rest
    (point.map Char.ofNat, behind)

/-- A first character leaves no more bytes than stand behind its first one. -/
theorem length_firstUtf8 (lead : UInt8) (rest : List UInt8) :
    (firstUtf8 lead rest).2.length ≤ rest.length := by
  unfold firstUtf8
  split
  · simp
  · exact length_takeContinuation ..

/-- The characters of a run of bytes, after those already found (last one first); a broken sequence
is `none`. -/
def utf8From (found : List (Option Char)) : List UInt8 → List (Option Char)
  | [] => found.reverse
  | lead :: rest =>
    utf8From ((firstUtf8 lead rest).1 :: found) (firstUtf8 lead rest).2
termination_by bytes => bytes.length
decreasing_by exact Nat.lt_succ_of_le (length_firstUtf8 lead rest)

/-- The text that a run of bytes is; `none` if any of it is broken. -/
def decodeUtf8? (bytes : List UInt8) : Option String :=
  ((utf8From [] bytes).mapM id).map String.ofList

/-- What stands for a part that is broken. -/
def replacement : Char := '\uFFFD'

/-- The text of a run of bytes, broken sequences replaced. -/
def decodeUtf8 (bytes : List UInt8) : List Char :=
  (utf8From [] bytes).map fun c => c.getD replacement

/-- A text with every line end, `\r\n` or a lone `\r`, written as a line feed. -/
def unifyLineEnds : List Char → List Char
  | '\x0d' :: '\n' :: rest => '\n' :: unifyLineEnds rest
  | '\x0d' :: rest => '\n' :: unifyLineEnds rest
  | c :: rest => c :: unifyLineEnds rest
  | [] => []

end Text
end TypeFiles
