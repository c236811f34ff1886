/-
# What is printed

A run prints tables and lines of text, some of them in a style.  What is printed comes from text
with marks for its style, such as `[green]` and `[/green]`.

Text from elsewhere is put into a line so that nothing in it is taken for a mark.  That has two
traces: a backslash before a bracket that starts no mark is lost, and a single backslash at the end
is doubled.  The name of a picture between colons becomes the picture.  Control characters that
ring, or move the cursor back or to another line, are left out.

In a table nothing keeps a text from being taken for marks: `[b]` is not shown, and `[/b]` alone
ends a style that was never started, so that the table cannot be printed at all.  How the marks of
a text are read is the console's business (`Marks`).
-/

import TypeFiles.Console.Picture

namespace TypeFiles

/-- A part of a line in a style: the places where it starts and ends. -/
structure StyledPart where
  start : Nat
  stop : Nat
  style : String
  deriving DecidableEq, Repr

/-- A text as it is shown, with its parts in a style. -/
structure StyledText where
  text : String
  styles : List StyledPart
  deriving DecidableEq, Repr

/-- How a console reads a text with marks; one whose marks do not fit cannot be shown. -/
abbrev Marks := String → Option StyledText

/-- A text of a table, and how it is shown. -/
structure Cell where
  given : String
  shown : StyledText
  deriving DecidableEq, Repr

/-- Something printed. -/
inductive Printed where
  | table (title : Cell) (columns : List Cell) (rows : List (List Cell))
  | line (text : String) (styles : List StyledPart)
  /-- The line on the failure that ended a run. -/
  | failure (text : String)
  deriving DecidableEq, Repr

namespace Console

/-- The control characters that are left out. -/
def isSilent (c : Char) : Bool := [7, 8, 11, 12, 13].contains c.toNat

/-- Whether a mark starts behind an opening bracket. -/
def startsMark : List Char → Bool
  | c :: rest =>
    (('a' ≤ c && c ≤ 'z') || c == '#' || c == '/' || c == '@') &&
      (rest.takeWhile fun d => d != '[').contains ']'
  | [] => false

/-- A text cut before and behind each mark; the first argument holds the characters already found
(last one first), the second one tells whether they are in a mark. -/
def piecesFrom (found : List Char) (inMark : Bool) : List Char → List (List Char)
  | [] => [found.reverse]
  | c :: rest =>
    if inMark then
      if c == ']' then (c :: found).reverse :: piecesFrom [] false rest
      else piecesFrom (c :: found) true rest
    else if c == '[' && startsMark rest then found.reverse :: piecesFrom [c] true rest
    else piecesFrom (c :: found) false rest

/-- A text without the backslashes before brackets. -/
def unescaped : List Char → List Char
  | '\\' :: '[' :: rest => '[' :: unescaped rest
  | c :: rest => c :: unescaped rest
  | [] => []

/-- A text from elsewhere as it is printed. -/
def shown (s : String) : String :=
  let pieces := piecesFrom [] false s.toList
  String.ofList ((pieces.flatMap fun piece => pictured (unescaped piece)).filter fun c =>
    !isSilent c)

/-- Whether a text ends with one backslash and no more. -/
def endsWithBackslash (s : String) : Bool :=
  match s.toList.reverse with
  | '\\' :: '\\' :: _ => false
  | '\\' :: _ => true
  | _ => false

/-- A line in one style. -/
def styledLine (style text : String) : Printed :=
  let text := shown text
  .line text [⟨0, text.length, style⟩]

/-- A line without a style. -/
def plainLine (text : String) : Printed := .line (shown text) []

/-- The line on a failure. -/
def failureLine (message : String) : Printed :=
  .failure ("Error: " ++ shown (if endsWithBackslash message then message ++ "\\" else message))

/-- A console that takes nothing in a text for a mark. -/
def unmarked : Marks := fun s => some ⟨shown s, []⟩

/-- A text of a table. -/
def cell (marks : Marks) (s : String) : Option Cell := (marks s).map fun shown => ⟨s, shown⟩

/-- A table, if the marks in each of its texts fit. -/
def table? (marks : Marks) (title : String) (columns : List String) (rows : List (List String)) :
    Option Printed := do
  let title ← cell marks title
  let columns ← columns.mapM (cell marks)
  let rows ← rows.mapM fun row => row.mapM (cell marks)
  return .table title columns rows

/-- The number of characters of the longest text. -/
def width (texts : List String) : Nat := (texts.map String.length).foldl max 0

/-- A text with blanks behind it, up to a number of characters. -/
def padded (width : Nat) (s : String) : String :=
  s ++ String.ofList (List.replicate (width - s.length) ' ')

/-- Rows with their cells below each other, two blanks apart. -/
def aligned : List (List String) → List String
  | [] => []
  | rows@(row :: _) =>
    let widths := row.zipIdx.map fun (_, i) => width (rows.filterMap (·[i]?))
    rows.map fun cells => "  ".intercalate ((widths.zip cells).map fun (w, cell) => padded w cell)

end Console

/-- The lines of something printed, without styles: a table is its title, the names of its columns
and its rows. -/
def Printed.lines : Printed → List String
  | .table title columns rows =>
    title.shown.text :: Console.aligned ((columns :: rows).map (·.map (·.shown.text)))
  | .line text _ | .failure text => [text]

end TypeFiles
