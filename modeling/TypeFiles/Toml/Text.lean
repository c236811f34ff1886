/-
# TOML texts

| written | holds |
| --- | --- |
| `'…'` | any characters of one line but the quote |
| `"…"` | characters of one line, with escapes |
| `'''…'''` | any lines, without the line end at their start |
| `"""…"""` | lines, with escapes; a backslash at the end of a line takes the blanks behind it away |

The escapes are `\b \t \n \f \r \" \\`, `\u` with four and `\U` with eight hexadecimal digits.  No
control character stands in a text but the tab, and the line feed in several lines.  Of the quotes
that end several lines, one or two in front of the last three belong to the text.
-/

import TypeFiles.Decimal.Digits
import TypeFiles.Text.Cut

namespace TypeFiles
namespace Toml

/-- Whether a character is a space or a tab. -/
def isSpace (c : Char) : Bool := c == ' ' || c == '\t'

/-- A text without the spaces and tabs in front. -/
def skipSpace (s : List Char) : List Char := s.dropWhile isSpace

/-- Whether a character is a control character other than the tab. -/
def isControl (c : Char) : Bool := (c.toNat < 0x20 && c != '\t') || c.toNat == 0x7F

/-- Whether a character may stand in a text of one line or of several. -/
def isTextChar (severalLines : Bool) (c : Char) : Bool :=
  !isControl c || (severalLines && c == '\n')

/-- The character that a letter behind a backslash stands for. -/
def escape? : Char → Option Char
  | 'b' => some '\x08'
  | 't' => some '\t'
  | 'n' => some '\n'
  | 'f' => some '\x0c'
  | 'r' => some '\x0d'
  | '"' => some '"'
  | '\\' => some '\\'
  | _ => none

/-- The character with a number, if the number is that of one. -/
def scalar? (n : Nat) : Option Char :=
  if n < 0xD800 ∨ (0xE000 ≤ n ∧ n < 0x110000) then some (Char.ofNat n) else none

/-- A place in a text with escapes. -/
inductive EscapeState where
  | none
  /-- Behind a backslash. -/
  | escape
  /-- In an escape by number: how many digits are to come, and the number so far. -/
  | digits (left number : Nat)
  /-- Behind a backslash and a space: the line must end. -/
  | lineEnd
  /-- Behind a backslash at the end of a line: blanks are dropped. -/
  | blanks

/-- The text with escapes up to its closing quotes, behind the characters already found (last one
first), and what follows. -/
def escapedFrom (severalLines : Bool) (found : List Char) (state : EscapeState) :
    List Char → Option (List Char × List Char)
  | [] => none
  | c :: rest =>
    match state with
    | .escape =>
      if severalLines && c == '\n' then escapedFrom severalLines found .blanks rest
      else if severalLines && isSpace c then escapedFrom severalLines found .lineEnd rest
      else if c == 'u' then escapedFrom severalLines found (.digits 4 0) rest
      else if c == 'U' then escapedFrom severalLines found (.digits 8 0) rest
      else
        match escape? c with
        | some e => escapedFrom severalLines (e :: found) .none rest
        | none => none
    | .digits left number =>
      match Decimal.digitValue? c with
      | some d =>
        if left ≤ 1 then
          match scalar? (number * 16 + d) with
          | some e => escapedFrom severalLines (e :: found) .none rest
          | none => none
        else escapedFrom severalLines found (.digits (left - 1) (number * 16 + d)) rest
      | none => none
    | .lineEnd =>
      if isSpace c then escapedFrom severalLines found .lineEnd rest
      else if c == '\n' then escapedFrom severalLines found .blanks rest
      else none
    | .blanks =>
      if isSpace c || c == '\n' then escapedFrom severalLines found .blanks rest else visible c rest
    | .none => visible c rest
where
  /-- Go on at a character that is not part of an escape. -/
  visible (c : Char) (rest : List Char) : Option (List Char × List Char) :=
    if c == '\\' then escapedFrom severalLines found .escape rest
    else if c == '"' then
      if severalLines && rest.take 2 != ['"', '"'] then
        escapedFrom severalLines (c :: found) .none rest
      else some (found.reverse, if severalLines then rest.drop 2 else rest)
    else if isTextChar severalLines c then escapedFrom severalLines (c :: found) .none rest
    else none

/-- The text without escapes up to its closing quotes, behind the characters already found (last
one first), and what follows. -/
def literalFrom (severalLines : Bool) (found : List Char) :
    List Char → Option (List Char × List Char)
  | [] => none
  | c :: rest =>
    if c == '\'' && (!severalLines || rest.take 2 == ['\'', '\'']) then
      some (found.reverse, if severalLines then rest.drop 2 else rest)
    else if isTextChar severalLines c then literalFrom severalLines (c :: found) rest
    else none

/-- Add the one or two quotes that follow the closing ones to the text. -/
def withQuotes (quote : Char) (part : List Char × List Char) : List Char × List Char :=
  let more := (part.2.take 2).takeWhile fun c => c == quote
  (part.1 ++ more, part.2.drop more.length)

/-- A text without the line end at its start. -/
def skipLineEnd : List Char → List Char
  | '\n' :: rest => rest
  | s => s

/-- The text of one line that starts here, and what follows. -/
def lineText? : List Char → Option (List Char × List Char)
  | '"' :: rest => escapedFrom false [] .none rest
  | '\'' :: rest => literalFrom false [] rest
  | _ => none

/-- The text that starts here, and what follows. -/
def text? : List Char → Option (List Char × List Char)
  | '"' :: '"' :: '"' :: rest => (escapedFrom true [] .none (skipLineEnd rest)).map (withQuotes '"')
  | '\'' :: '\'' :: '\'' :: rest => (literalFrom true [] (skipLineEnd rest)).map (withQuotes '\'')
  | s => lineText? s

end Toml
end TypeFiles
