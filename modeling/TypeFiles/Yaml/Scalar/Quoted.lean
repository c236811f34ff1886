/-
# YAML texts between quotes

| between | written | stands for |
| --- | --- | --- |
| `'` | `''` | a quote |
| `"` | `\` and a letter | the character in `escapes` |
| `"` | `\x`, `\u`, `\U` and 2, 4, 8 hexadecimal digits | the character with that number |
| `"` | `\` at the end of a line | nothing; the next line goes on |
| both | a line end, with the spaces around it | a space |
| both | several line ends | one line end less |
-/

import TypeFiles.Decimal.Digits
import TypeFiles.Readable
import TypeFiles.Yaml.Character

namespace TypeFiles
namespace Yaml

/-- The characters that a letter behind a backslash stands for. -/
def escapes : List (Char × Char) := [
  ('0', '\x00'), ('a', '\x07'), ('b', '\x08'), ('t', '\t'), ('\t', '\t'), ('n', '\n'),
  ('v', '\x0b'), ('f', '\x0c'), ('r', '\x0d'), ('e', '\x1b'), (' ', ' '), ('"', '"'),
  ('\\', '\\'), ('/', '/'), ('N', '\u0085'), ('_', '\u00a0'), ('L', '\u2028'), ('P', '\u2029')]

/-- The number of hexadecimal digits behind an escape. -/
def escapeDigits? : Char → Option Nat
  | 'x' => some 2
  | 'u' => some 4
  | 'U' => some 8
  | _ => none

/-- The character with a number; the half of a surrogate pair is the replacement character.  It is
an accident if there is none. -/
def numberedChar (n : Nat) : Readable Char :=
  if 0x7FFFFFFF < n then Readable.accident .hugeCharacter
  else if 0x10FFFF < n then Readable.accident (.badScalar "chr() arg not in range(0x110000)")
  else if 0xD800 ≤ n ∧ n < 0xE000 then .ok '\ufffd'
  else .ok (Char.ofNat n)

/-- What has been read since the last visible character. -/
inductive QuotedGap where
  /-- Spaces, the last one first. -/
  | spaces (s : List Char)
  /-- Line ends, the last one first; the first of all is kept apart. -/
  | lines (first : Option Char) (others : List Char)
  /-- A backslash. -/
  | escape
  /-- The start of an escape by number: how many digits are to come, and the number so far. -/
  | digits (left number : Nat)

/-- What the spaces and line ends before a visible character stand for, last character first. -/
def QuotedGap.text : QuotedGap → List Char
  | .spaces s => s
  | .lines first others => (joined first others.reverse).reverse
  | .escape | .digits _ _ => []

/-- The text up to the closing quote, behind the characters already found (last one first), and the
number of characters up to there, the quote included. -/
def quotedFrom (double : Bool) (found : List Char) (gap : QuotedGap) (count : Nat) :
    List Char → Readable (List Char × Nat)
  | [] => Readable.malformed
  | c :: rest =>
    match gap with
    | .escape =>
      match escapes.lookup c with
      | some e => quotedFrom double (e :: found) (.spaces []) (count + 1) rest
      | none =>
        match escapeDigits? c with
        | some n => quotedFrom double found (.digits n 0) (count + 1) rest
        | none =>
          if isBreak c && !atDocumentMark rest then
            quotedFrom double found (.lines none []) (count + 1) rest
          else Readable.malformed
    | .digits left number =>
      match Decimal.digitValue? c with
      | none => Readable.malformed
      | some d =>
        if left ≤ 1 then
          match numberedChar (number * 16 + d) with
          | .ok e => quotedFrom double (e :: found) (.spaces []) (count + 1) rest
          | .error e => .error e
        else quotedFrom double found (.digits (left - 1) (number * 16 + d)) (count + 1) rest
    | .spaces s =>
      if isBreak c then
        if atDocumentMark rest then Readable.malformed
        else quotedFrom double found (.lines (some c) []) (count + 1) rest
      else if isSpace c then quotedFrom double found (.spaces (c :: s)) (count + 1) rest
      else visible (s ++ found) c rest
    | .lines first others =>
      if isBreak c then
        if atDocumentMark rest then Readable.malformed
        else quotedFrom double found (.lines first (c :: others)) (count + 1) rest
      else if isSpace c then quotedFrom double found gap (count + 1) rest
      else visible (gap.text ++ found) c rest
where
  /-- Go on at a visible character. -/
  visible (found : List Char) (c : Char) (rest : List Char) : Readable (List Char × Nat) :=
    if double then
      if c == '"' then .ok (found.reverse, count + 1)
      else if c == '\\' then quotedFrom double found .escape (count + 1) rest
      else quotedFrom double (c :: found) (.spaces []) (count + 1) rest
    else if c == '\'' then
      match rest with
      | '\'' :: rest => quotedFrom double ('\'' :: found) (.spaces []) (count + 2) rest
      | _ => .ok (found.reverse, count + 1)
    else quotedFrom double (c :: found) (.spaces []) (count + 1) rest

/-- The text behind an opening quote, and the number of characters up to the closing quote. -/
def quoted (double : Bool) (s : List Char) : Readable (List Char × Nat) :=
  quotedFrom double [] (.spaces []) 0 s

end Yaml
end TypeFiles
