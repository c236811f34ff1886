/-
# Escaped characters of an address

A character that may not stand in a part of an address is written as the bytes of its UTF-8 form,
each as `%` and two hexadecimal digits.  What may stand there differs from part to part; `%` itself
may stand everywhere, so that what is escaped is not escaped again.
-/

import TypeFiles.Decimal.Digits
import TypeFiles.Text.Utf8

namespace TypeFiles
namespace Address

/-- A byte as `%` and two hexadecimal digits. -/
def escapedByte (b : UInt8) : List Char :=
  '%' :: ((Decimal.hex 2 b.toNat).toList.map Char.toUpper)

/-- A text with every character outside a class written as its escaped bytes. -/
def escaped (isPlain : Char → Bool) (s : List Char) : List Char :=
  s.flatMap fun c =>
    if isPlain c then [c]
    else (String.singleton c).toUTF8.toList.flatMap escapedByte

/-- The bytes of a text whose escaped bytes are put back. -/
def unescapedBytes : List Char → List UInt8
  | '%' :: a :: b :: rest =>
    match Decimal.digitValue? a, Decimal.digitValue? b with
    | some x, some y => UInt8.ofNat (x * 16 + y) :: unescapedBytes rest
    | _, _ => '%'.toNat.toUInt8 :: unescapedBytes (a :: b :: rest)
  | c :: rest => (String.singleton c).toUTF8.toList ++ unescapedBytes rest
  | [] => []

/-- A text with its escaped characters put back. -/
def unescaped (s : List Char) : List Char := Text.decodeUtf8 (unescapedBytes s)

/-- Whether a character is visible ASCII and not one of those listed. -/
def isVisibleOutside (excluded : String) (c : Char) : Bool :=
  0x20 < c.toNat && c.toNat < 0x7F && !excluded.toList.contains c

/-- Whether a character may stand in a fragment. -/
def isFragmentChar (c : Char) : Bool := isVisibleOutside "\"<>\x60" c

/-- Whether a character may stand in a query. -/
def isQueryChar (c : Char) : Bool := isVisibleOutside "\"#<>" c

/-- Whether a character may stand in a path. -/
def isPathChar (c : Char) : Bool := isVisibleOutside "\"#<>?\x60\x7b\x7d" c

/-- Whether a character may stand in front of the `@` of an authority. -/
def isUserChar (c : Char) : Bool := isPathChar c && isVisibleOutside "/;=@[\\]^|" c

/-- Whether a character may stand in the name of a host. -/
def isHostChar (c : Char) : Bool :=
  c.isAlphanum || "-._~!$&'()*+,;=\"\x60\x7b\x7d%|\\".toList.contains c

end Address
end TypeFiles
