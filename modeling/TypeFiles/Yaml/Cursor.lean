/-
# A place in a YAML text

A place knows what follows it, how many characters are before it, its line and its column.
-/

import TypeFiles.Yaml.Character

namespace TypeFiles
namespace Yaml

/-- A place in a text: what follows it and where it is. -/
structure Cursor where
  rest : List Char
  index : Nat
  line : Nat
  column : Nat

namespace Cursor

/-- The start of a text. -/
def start (s : List Char) : Cursor := ⟨s, 0, 0, 0⟩

/-- The place one character on; a byte order mark takes no column. -/
def next (c : Cursor) : Cursor :=
  match c.rest with
  | [] => c
  | ch :: rest =>
    if isBreak ch then ⟨rest, c.index + 1, c.line + 1, 0⟩
    else ⟨rest, c.index + 1, c.line, if ch == '\ufeff' then c.column else c.column + 1⟩

/-- The place some characters on. -/
def skip : Nat → Cursor → Cursor
  | 0, c => c
  | n + 1, c => skip n c.next

end Cursor

/-- The number of characters that separate two tokens, and whether a line ends among them: spaces,
line ends, and comments from a `#` to the end of the line.  The first argument tells whether the
text starts inside a comment. -/
def gapFrom (inComment ended : Bool) (count : Nat) : List Char → Nat × Bool
  | [] => (count, ended)
  | c :: rest =>
    if isBreak c then gapFrom false true (count + 1) rest
    else if inComment then gapFrom true ended (count + 1) rest
    else if c == ' ' then gapFrom false ended (count + 1) rest
    else if c == '#' then gapFrom true ended (count + 1) rest
    else (count, ended)

/-- The number of characters before the next token, and whether a line ends among them. -/
def gap (s : List Char) : Nat × Bool := gapFrom false false 0 s

end Yaml
end TypeFiles
