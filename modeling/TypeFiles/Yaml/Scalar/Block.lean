/-
# YAML texts in lines of their own

A block text starts with a header, `|` or `>`, which may say how its last line ends and how deeply
it is indented.  Its lines are those that follow with at least that indentation.

| header | meaning |
| --- | --- |
| `\|` | lines are kept |
| `>` | a line end between two lines that start with a visible character becomes a space |
| `-` | the last line end is dropped |
| `+` | all line ends behind the last line are kept |
| a digit | the indentation, counted from that of the collection around it |

Without a digit the indentation is that of the first line that is not empty, and no less than that
of an empty line before it.
-/

import TypeFiles.Yaml.Cursor
import TypeFiles.Readable

namespace TypeFiles
namespace Yaml

/-- What becomes of the line ends behind the last line. -/
inductive Chomping where
  | strip
  | clip
  | keep
  deriving DecidableEq, Repr

/-- The header of a block text. -/
structure BlockHeader where
  chomping : Chomping
  indentation : Option Nat
  deriving Repr

/-- The chomping that a character stands for. -/
def chomping? : Char → Option Chomping
  | '-' => some .strip
  | '+' => some .keep
  | _ => none

/-- The indentation that a digit stands for. -/
def indentation? (c : Char) : Option Nat := if c.isDigit then some (c.toNat - '0'.toNat) else none

/-- The signs at the start of a header, in either order, and what follows them. -/
def blockSigns : List Char → BlockHeader × List Char
  | a :: b :: rest =>
    match chomping? a, indentation? a, chomping? b, indentation? b with
    | some ch, _, _, some n | _, some n, some ch, _ => (⟨ch, some n⟩, rest)
    | some ch, _, _, _ => (⟨ch, none⟩, b :: rest)
    | _, some n, _, _ => (⟨.clip, some n⟩, b :: rest)
    | _, _, _, _ => (⟨.clip, none⟩, a :: b :: rest)
  | [a] =>
    match chomping? a, indentation? a with
    | some ch, _ => (⟨ch, none⟩, [])
    | _, some n => (⟨.clip, some n⟩, [])
    | _, _ => (⟨.clip, none⟩, [a])
  | [] => (⟨.clip, none⟩, [])

/-- Whether the rest of a line is empty, or a space and nothing more than spaces and a comment. -/
def isIdle (s : List Char) : Bool :=
  match s with
  | [] => true
  | c :: rest =>
    c == ' ' && match rest.dropWhile fun c => c == ' ' with
      | [] => true
      | d :: _ => d == '#'

/-- Read the line of a header behind its first sign. -/
def blockHeader (line : List Char) : Readable BlockHeader :=
  let (header, rest) := blockSigns line
  if header.indentation == some 0 || !isIdle rest then Readable.malformed else .ok header

/-- The deepest indentation of the empty lines at the start of a text and of the line behind
them. -/
def leadingIndentation (column deepest : Nat) : List Char → Nat
  | [] => deepest
  | c :: rest =>
    if c == ' ' then leadingIndentation (column + 1) (max deepest (column + 1)) rest
    else if isBreak c then leadingIndentation 0 deepest rest
    else deepest

/-- The end of a line, and whether the line starts with a visible character. -/
structure LineEnd where
  char : Char
  startsVisibly : Bool

/-- A place in a block text. -/
inductive BlockPlace where
  /-- In a line; the flag tells whether it starts with a visible character. -/
  | inside (startsVisibly : Bool)
  /-- Behind a line: its end, if there is a line before, the empty lines that follow, last one
  first, and the column. -/
  | behind (lineEnd : Option LineEnd) (empty : List Char) (column : Nat)

/-- What stands between two lines, last character first; `visibly` tells whether the second line
starts with a visible character. -/
def between (folded visibly : Bool) (lineEnd : Option LineEnd) (empty : List Char) : List Char :=
  match lineEnd with
  | none => empty
  | some e =>
    if folded && e.char == '\n' && e.startsVisibly && visibly then
      if empty.isEmpty then [' '] else empty
    else empty ++ [e.char]

/-- What stands behind the last line, last character first. -/
def tail (chomping : Chomping) (lineEnd : Option LineEnd) (empty : List Char) : List Char :=
  let last := (lineEnd.map (·.char)).toList
  match chomping with
  | .strip => []
  | .clip => last
  | .keep => empty ++ last

/-- Read the lines of a block text with the given indentation, behind the characters already found
(last one first), and count the characters up to the end. -/
def blockLines (folded : Bool) (chomping : Chomping) (indent : Nat) (found : List Char)
    (place : BlockPlace) (count : Nat) : List Char → List Char × Nat
  | [] =>
    match place with
    | .inside _ => (found.reverse, count)
    | .behind lineEnd empty _ => ((tail chomping lineEnd empty ++ found).reverse, count)
  | c :: rest =>
    match place with
    | .inside visibly =>
      if isBreak c then
        blockLines folded chomping indent found (.behind (some ⟨c, visibly⟩) [] 0) (count + 1) rest
      else blockLines folded chomping indent (c :: found) place (count + 1) rest
    | .behind lineEnd empty column =>
      if c == ' ' && column < indent then
        blockLines folded chomping indent found (.behind lineEnd empty (column + 1)) (count + 1)
          rest
      else if isBreak c then
        blockLines folded chomping indent found (.behind lineEnd (c :: empty) 0) (count + 1) rest
      else if column == indent then
        let visibly := !isSpace c
        blockLines folded chomping indent (c :: between folded visibly lineEnd empty ++ found)
          (.inside visibly) (count + 1) rest
      else ((tail chomping lineEnd empty ++ found).reverse, count)

/-- The block text behind its first sign, and the number of characters up to its end.  `outer` is
the column of the collection around it. -/
def blockText (folded : Bool) (outer : Int) (s : List Char) :
    Readable (List Char × Nat) := do
  let line := s.takeWhile fun c => !isBreak c
  let header ← blockHeader line
  let body := s.drop (line.length + 1)
  let least := max 1 (outer + 1).toNat
  let indent := match header.indentation with
    | some n => least + n - 1
    | none => max least (leadingIndentation 0 0 body)
  let (text, count) := blockLines folded header.chomping indent [] (.behind none [] 0) 0 body
  return (text, line.length + 1 + count)

end Yaml
end TypeFiles
