/-
# YAML texts without quotes

A plain text ends before a `#` that follows a space, before a `:` at the end of a word and, inside
brackets, before any of `, ? [ ] { }`.  It may go on in the next line if that line is indented
deeply enough; inside brackets any line is.  Its lines are joined as those between quotes are.
-/

import TypeFiles.Yaml.Character

namespace TypeFiles
namespace Yaml

/-- Whether a character is a bracket or a comma. -/
def isFlowMark (c : Char) : Bool := ",[]\x7b\x7d".toList.contains c

/-- Whether a plain text ends before a character, given what follows the character. -/
def endsPlain (inFlow : Bool) (c : Char) (rest : List Char) : Bool :=
  isGap c || (c == ':' && (endsWord rest || (inFlow && (rest.head?.map isFlowMark).getD false))) ||
    (inFlow && (isFlowMark c || c == '?'))

/-- What has been read since the last character of a plain text. -/
inductive PlainGap where
  | none
  /-- Spaces, the last one first. -/
  | spaces (s : List Char)
  /-- Line ends, the last one first, and the column reached behind them; the first line end is kept
  apart. -/
  | lines (first : Char) (others : List Char) (column : Nat)

/-- A plain text that has been read: the text, the number of characters up to its end and the
spaces and line ends behind it, and whether a line ends there. -/
structure Plain where
  text : List Char
  count : Nat
  endsLine : Bool

/-- Read a plain text, behind the characters already found (last one first).  In block context a
line must reach the column `indent` to belong to the text. -/
def plainFrom (inFlow : Bool) (indent : Int) (found : List Char) (gap : PlainGap) (count : Nat) :
    List Char → Plain
  | [] => ⟨found.reverse, count, gap matches .lines _ _ _⟩
  | c :: rest =>
    match gap with
    | .none =>
      if c == ' ' then plainFrom inFlow indent found (.spaces [c]) (count + 1) rest
      else if isBreak c then atBreak c rest
      else if endsPlain inFlow c rest then ⟨found.reverse, count, false⟩
      else plainFrom inFlow indent (c :: found) .none (count + 1) rest
    | .spaces s =>
      if c == ' ' then plainFrom inFlow indent found (.spaces (c :: s)) (count + 1) rest
      else if isBreak c then atBreak c rest
      else if c == '#' || endsPlain inFlow c rest then ⟨found.reverse, count, false⟩
      else plainFrom inFlow indent (c :: s ++ found) .none (count + 1) rest
    | .lines first others column =>
      if c == ' ' then
        plainFrom inFlow indent found (.lines first others (column + 1)) (count + 1) rest
      else if isBreak c then
        if atDocumentMark rest then ⟨found.reverse, count + 1, true⟩
        else plainFrom inFlow indent found (.lines first (c :: others) 0) (count + 1) rest
      else if c == '#' || (!inFlow && column < indent) || endsPlain inFlow c rest then
        ⟨found.reverse, count, true⟩
      else
        plainFrom inFlow indent (c :: (joined (some first) others.reverse).reverse ++ found) .none
          (count + 1) rest
where
  /-- Go on at the first line end behind a character of the text. -/
  atBreak (c : Char) (rest : List Char) : Plain :=
    if atDocumentMark rest then ⟨found.reverse, count + 1, true⟩
    else plainFrom inFlow indent found (.lines c [] 0) (count + 1) rest

/-- The plain text that a text starts with. -/
def plain (inFlow : Bool) (indent : Int) (s : List Char) : Plain :=
  plainFrom inFlow indent [] .none 0 s

/-- Whether a plain text can start at a place. -/
def startsPlain (inFlow : Bool) : List Char → Bool
  | [] => false
  | c :: rest =>
    (!isGap c && !"-?:,[]\x7b\x7d#&*!|>'\"%@\x60".toList.contains c) ||
      (!endsWord rest && (c == '-' || (!inFlow && (c == '?' || c == ':'))))

end Yaml
end TypeFiles
