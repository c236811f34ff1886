/-
# The characters of a YAML text

Line ends are `\n`, the line separator and the paragraph separator; `\r`, `\r\n` and the next-line
character are read as `\n` (`unified`).  A text holds printable characters only, and a byte order
mark at its start is dropped.
-/

import TypeFiles.Text.Range

namespace TypeFiles
namespace Yaml

/-- The characters that a text may hold. -/
def allowedRanges : List (Nat × Nat) := [
  (0x09, 0x0A), (0x0D, 0x0D), (0x20, 0x7E), (0x85, 0x85), (0xA0, 0xD7FF), (0xE000, 0xFFFD),
  (0x10000, 0x10FFFF)]

/-- Whether a text may hold a character. -/
def isAllowed (c : Char) : Bool := Text.inRanges allowedRanges c

/-- A text with `\r`, `\r\n` and the next-line character as line feeds, behind the characters
already read (last one first). -/
def unifiedFrom (found : List Char) : List Char → List Char
  | '\x0d' :: '\n' :: rest => unifiedFrom ('\n' :: found) rest
  | '\x0d' :: rest => unifiedFrom ('\n' :: found) rest
  | '\u0085' :: rest => unifiedFrom ('\n' :: found) rest
  | c :: rest => unifiedFrom (c :: found) rest
  | [] => found.reverse

/-- A text with line feeds for `\r`, `\r\n` and the next-line character. -/
def unified (s : List Char) : List Char := unifiedFrom [] s

/-- A text without a byte order mark at its start. -/
def withoutMark : List Char → List Char
  | '\ufeff' :: rest => rest
  | s => s

/-- Whether a character ends a line. -/
def isBreak (c : Char) : Bool := c == '\n' || c == '\u2028' || c == '\u2029'

/-- Whether a character is a space or a tab. -/
def isSpace (c : Char) : Bool := c == ' ' || c == '\t'

/-- Whether a character ends a word. -/
def isGap (c : Char) : Bool := isSpace c || isBreak c

/-- Whether a text is at the end of a word. -/
def endsWord : List Char → Bool
  | [] => true
  | c :: _ => isGap c

/-- Whether a text is at the end of a line or at a space that is no tab. -/
def endsPlainly : List Char → Bool
  | [] => true
  | c :: _ => c == ' ' || isBreak c

/-- Whether a line starts with a mark between documents, `---` or `...`. -/
def atDocumentMark : List Char → Bool
  | '-' :: '-' :: '-' :: rest | '.' :: '.' :: '.' :: rest => endsWord rest
  | _ => false

/-- Whether a character may stand in the name of an anchor or a handle. -/
def isNameChar (c : Char) : Bool := c.isAlphanum || c == '-' || c == '_'

/-- How the lines of a text between quotes or without quotes are joined: one line feed becomes a
space, and of several the first one is left out. -/
def joined (first : Option Char) (others : List Char) : List Char :=
  match first with
  | none => others
  | some c => if c != '\n' then c :: others else if others.isEmpty then [' '] else others

end Yaml
end TypeFiles
