/-
# Numeric hosts

A host can be given by its number.

| version | written |
| --- | --- |
| 4 | four numbers up to `255` without leading zeros, a dot between two of them |
| 6 | eight groups of one to four hexadecimal digits, a colon between two of them |

In version 6 the last two groups may be written as a number of version 4, and `::` may stand once
for one or more groups of zeros.  A scope, any text without another `%`, may follow behind a `%`.
-/

import TypeFiles.Decimal.Digits
import TypeFiles.Text.Cut

namespace TypeFiles
namespace Address

/-- Whether a text is a number of one byte. -/
def isOctet (s : List Char) : Bool :=
  !s.isEmpty && s.all Char.isDigit && s.length ≤ 3 && (s == ['0'] || s.head? != some '0') &&
    Decimal.ofDigits 10 s ≤ 255

/-- Whether a text is a host number of version 4. -/
def isVersion4 (s : List Char) : Bool :=
  let octets := s.splitOn '.'
  octets.length == 4 && octets.all isOctet

/-- Whether a text is a group of hexadecimal digits. -/
def isGroup (s : List Char) : Bool :=
  !s.isEmpty && s.length ≤ 4 && s.all fun c => (Decimal.digitValue? c).isSome

/-- The number of groups that some parts of a host number stand for; `none` if they are no groups.
Only the last part may be a number of version 4. -/
def groupCount? : List (List Char) → Option Nat
  | [] => some 0
  | [last] => if isVersion4 last then some 2 else if isGroup last then some 1 else none
  | part :: rest => if isGroup part then (groupCount? rest).map (· + 1) else none

/-- The parts between the colons of a text; an empty text has none. -/
def colonParts (s : List Char) : List (List Char) := if s.isEmpty then [] else s.splitOn ':'

/-- What stands before and behind the first `::` of a text. -/
def cutZeros? : List Char → Option (List Char × List Char)
  | ':' :: ':' :: rest => some ([], rest)
  | c :: rest => (cutZeros? rest).map fun (before, behind) => (c :: before, behind)
  | [] => none

/-- Whether a text is a host number of version 6 without a scope. -/
def isUnscopedVersion6 (s : List Char) : Bool :=
  match cutZeros? s with
  | some (before, behind) =>
    let high := colonParts before
    match if high.all isGroup then groupCount? (colonParts behind) else none with
    | some low => high.length + low ≤ 7
    | none => false
  | none => groupCount? (colonParts s) == some 8

/-- Whether a text is a host number of version 6. -/
def isVersion6 (s : List Char) : Bool :=
  match Text.cut? '%' s with
  | some (number, scope) =>
    !scope.isEmpty && !scope.contains '%' && !scope.contains '/' && isUnscopedVersion6 number
  | none => isUnscopedVersion6 s

end Address
end TypeFiles
