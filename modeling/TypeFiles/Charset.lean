/-
# Charsets

A charset tells how a text is written in bytes.  Charsets go by many names; in a name the case of
letters does not matter, and neither does which characters stand between its words
(`Charset.spelling`).

Decoding does not fail over single bytes: what stands for nothing becomes `U+FFFD`.  It fails for a
text in wide units that does not start with a mark of their order, for a byte that is not ASCII
among the digits of `punycode`, and for what is no charset but, say, a way of packing bytes.

Some charsets are not here: those with the tables of 2004 (`euc_jis_2004`, `euc_jisx0213`,
`shift_jis_2004`, `shift_jisx0213`), `johab` and `hz`.  Their names are unknown, and a text said to
be in one of them is taken for UTF-8.  A surrogate that stands alone is no character, and is
replaced wherever it is written.
-/

import TypeFiles.Charset.Dos
import TypeFiles.Charset.EastAsian
import TypeFiles.Charset.Escaped
import TypeFiles.Charset.Macintosh
import TypeFiles.Charset.Mail
import TypeFiles.Charset.Mainframe
import TypeFiles.Charset.Regional
import TypeFiles.Charset.Standard
import TypeFiles.Charset.Windows

namespace TypeFiles

/-- Why bytes are no text. -/
inductive Charset.Fault where
  /-- The order of the bytes is not told. -/
  | unmarked
  /-- Every text is refused. -/
  | refused
  /-- Bytes are packed, not characters. -/
  | packed
  /-- Characters are exchanged for others, not for bytes. -/
  | exchanged
  /-- A byte stands where only ASCII may. -/
  | undecodable
  deriving DecidableEq, Repr

/-- How a text is written in bytes. -/
inductive Charset where
  | utf8
  /-- UTF-8 with a mark in front that is no part of the text. -/
  | markedUtf8
  /-- Units of two bytes; without an order, a mark in front tells it. -/
  | utf16 (order : Option Charset.ByteOrder)
  /-- Units of four bytes; without an order, a mark in front tells it. -/
  | utf32 (order : Option Charset.ByteOrder)
  | mail
  | ascii
  | latin
  /-- Escapes with a backslash, all of them or only those for wide characters. -/
  | escaped (full : Bool)
  | punycode
  | table (t : Charset.Table)
  | pairs (p : Charset.Pairs)
  /-- A name that is known, of what gives no text. -/
  | unusable (f : Charset.Fault)

namespace Charset

/-- The charsets that are no tables, each with its names.  Those of the family `iso2022` switch to
other characters by escapes; the escapes are not read here, so that they are ASCII. -/
def named : List (List String × Charset) := [
  (["utf_8", "cp65001", "u8", "utf", "utf8", "utf8_ucs2", "utf8_ucs4"], .utf8),
  (["utf_8_sig"], .markedUtf8),
  (["utf_16", "u16", "utf16"], .utf16 none),
  (["utf_16_le", "unicodelittleunmarked", "utf_16le"], .utf16 (some .littleFirst)),
  (["utf_16_be", "unicodebigunmarked", "utf_16be"], .utf16 (some .bigFirst)),
  (["utf_32", "u32", "utf32"], .utf32 none),
  (["utf_32_le", "utf_32le"], .utf32 (some .littleFirst)),
  (["utf_32_be", "utf_32be"], .utf32 (some .bigFirst)),
  (["utf_7", "u7", "unicode_1_1_utf_7", "utf7"], .mail),
  (["ascii", "646", "ansi_x3.4_1968", "ansi_x3.4_1986", "ansi_x3_4_1968", "cp367", "csascii",
    "ibm367", "iso646_us", "iso_646.irv_1991", "iso_ir_6", "us", "us_ascii"], .ascii),
  (["latin_1", "8859", "charmap", "cp819", "csisolatin1", "ibm819", "iso8859", "iso8859_1",
    "iso_8859_1", "iso_8859_1_1987", "iso_ir_100", "l1", "latin", "latin1"], .latin),
  (["unicode_escape"], .escaped true),
  (["raw_unicode_escape"], .escaped false),
  (["punycode"], .punycode),
  (["iso2022_jp", "csiso2022jp", "iso2022jp", "iso_2022_jp"], .ascii),
  (["iso2022_jp_1", "iso2022jp_1", "iso_2022_jp_1"], .ascii),
  (["iso2022_jp_2", "iso2022jp_2", "iso_2022_jp_2"], .ascii),
  (["iso2022_jp_2004", "iso2022jp_2004", "iso_2022_jp_2004"], .ascii),
  (["iso2022_jp_3", "iso2022jp_3", "iso_2022_jp_3"], .ascii),
  (["iso2022_jp_ext", "iso2022jp_ext", "iso_2022_jp_ext"], .ascii),
  (["iso2022_kr", "csiso2022kr", "iso2022kr", "iso_2022_kr"], .ascii),
  (["base64_codec", "base64", "base_64"], .unusable .packed),
  (["bz2_codec", "bz2"], .unusable .packed),
  (["hex_codec", "hex"], .unusable .packed),
  (["quopri_codec", "quopri", "quoted_printable", "quotedprintable"], .unusable .packed),
  (["uu_codec", "uu"], .unusable .packed),
  (["zlib_codec", "zip", "zlib"], .unusable .packed),
  (["rot_13", "rot13"], .unusable .exchanged),
  (["idna"], .unusable .refused),
  (["undefined"], .unusable .refused)]

/-- All charsets that are tables. -/
def tables : List Table :=
  standardTables ++ windowsTables ++ dosTables ++ macintoshTables ++ regionalTables ++
    mainframeTables

/-- Whether a character belongs to a word of a name. -/
def isNameChar (c : Char) : Bool := c.isAlphanum || c == '.'

/-- The words of a name, in lower case and with an underscore between two of them. -/
def spelling (name : String) : String :=
  let words := (name.toList.splitOnP fun c => !isNameChar c).filter fun word => !word.isEmpty
  String.ofList ((List.intercalate ['_'] words).map Char.toLower)

/-- The first charset whose names fulfil a condition. -/
def withNames? (p : List String → Bool) : Option Charset :=
  match named.find? fun entry => p entry.1 with
  | some (_, charset) => some charset
  | none =>
    ((tables.find? fun t => p t.names).map Charset.table) <|>
      (eastAsian.find? fun t => p t.names).map Charset.pairs

/-- The charset of a name.  A point in the name may stand for an underscore, except in the first
name of a charset. -/
def ofName? (name : String) : Option Charset :=
  let s := spelling name
  let dotless := String.ofList (s.toList.map fun c => if c == '.' then '_' else c)
  withNames? (·.contains s) <|> withNames? fun names => (names.drop 1).contains dotless

/-- The text of some bytes.  Left out are the escapes of `iso2022`, whose bytes are kept, and the
names of characters in escapes with a backslash. -/
def decode (c : Charset) (bytes : List UInt8) : Except Fault (List Char) :=
  match c with
  | .utf8 => .ok (Text.decodeUtf8 bytes)
  | .markedUtf8 =>
    match bytes with
    | 0xEF :: 0xBB :: 0xBF :: rest => .ok (Text.decodeUtf8 rest)
    | _ => .ok (Text.decodeUtf8 bytes)
  | .utf16 (some order) => .ok (decodeUtf16 order bytes)
  | .utf16 none =>
    match markedOrder16? bytes with
    | some (order, rest) => .ok (decodeUtf16 order rest)
    | none => if bytes.length < 2 then .ok (decodeUtf16 .littleFirst bytes) else .error .unmarked
  | .utf32 (some order) => .ok (decodeUtf32 order bytes)
  | .utf32 none =>
    match markedOrder32? bytes with
    | some (order, rest) => .ok (decodeUtf32 order rest)
    | none => if bytes.length < 4 then .ok (decodeUtf32 .littleFirst bytes) else .error .unmarked
  | .mail => .ok (decodeMail bytes)
  | .ascii => .ok (bytes.map mailPlain)
  | .latin => .ok (bytes.map fun b => Char.ofNat b.toNat)
  | .escaped full => .ok (decodeEscapes full bytes)
  | .punycode =>
    match decodePunycode? bytes with
    | some text => .ok text
    | none => .error .undecodable
  | .table t => .ok (t.decode bytes)
  | .pairs p => .ok (p.decode bytes)
  | .unusable f => .error f

end Charset
end TypeFiles
