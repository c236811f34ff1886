/-
# TOML

A TOML text is a sequence of lines, each empty, a header or an entry, and a comment behind it.

    line   = [ "[" key "]" | "[[" key "]]" | key "=" value ] [ "#" … ]
    key    = part { "." part }
    value  = text | number | day | "[" [ value { "," value } [","] ] "]" | "{" [ entry { "," entry } ] "}"

A header starts a section; the entries that follow belong to its table.
-/

import TypeFiles.Toml.Scalar
import TypeFiles.Toml.Table
import TypeFiles.Toml.Text

namespace TypeFiles
namespace Toml

/-- Whether a character may stand in a part of a key without quotes. -/
def isKeyChar (c : Char) : Bool := c.isAlphanum || c == '-' || c == '_'

/-- A part of a key, and what follows. -/
def keyPart? (s : List Char) : Option (String × List Char) :=
  let bare := s.takeWhile isKeyChar
  if bare.isEmpty then (lineText? s).map fun (text, rest) => (String.ofList text, rest)
  else some (String.ofList bare, s.drop bare.length)

/-- The parts of a key, and what follows; the first argument bounds their number. -/
def keyWithin : Nat → List Char → Option (List String × List Char)
  | 0, _ => none
  | bound + 1, s => do
    let (part, rest) ← keyPart? s
    match skipSpace rest with
    | '.' :: rest => do
      let (parts, rest) ← keyWithin bound (skipSpace rest)
      return (part :: parts, rest)
    | rest => return ([part], rest)

/-- The parts of a key, and what follows. -/
def key? (s : List Char) : Option (List String × List Char) := keyWithin s.length s

/-- What follows the blanks, line ends and comments between the items of a list.  The flag tells
whether the text starts inside a comment. -/
def skipFiller (inComment : Bool) : List Char → Option (List Char)
  | [] => some []
  | c :: rest =>
    if c == '\n' then skipFiller false rest
    else if inComment then if isControl c then none else skipFiller true rest
    else if isSpace c then skipFiller false rest
    else if c == '#' then skipFiller true rest
    else some (c :: rest)

/-- A key and the sign behind it, and what follows them and the blanks behind them. -/
def assigned? (s : List Char) : Option (List String × List Char) := do
  let (key, rest) ← key? s
  let '=' :: rest := rest | none
  return (key, skipSpace rest)

/-- How deep values may be in each other; a table in braces counts more than a list. -/
def deepest : Nat := 985

/-- How deep values may be inside of a list or a table that counts some. -/
def inside (room cost : Nat) : Readable Nat :=
  if cost ≤ room then .ok (room - cost) else Readable.accident .tooDeep

/-! The first argument of each of the following bounds the number of steps, and `room` tells how
deep values may be. -/

mutual

/-- A value, and what follows. -/
def value : Nat → Nat → List Char → Readable (Value × List Char)
  | 0, _, _ => Readable.malformed
  | bound + 1, room, s =>
    match s with
    | '"' :: _ | '\'' :: _ => do
      let (text, rest) ← Readable.ofOption (text? s)
      return (.text (String.ofList text), rest)
    | '[' :: rest => do
      let room ← inside room 2
      let (items, rest) ← items bound room (← Readable.ofOption (skipFiller false rest))
      return (.list items, rest)
    | '\x7b' :: rest => do
      let room ← inside room 3
      let rest := skipSpace rest
      match rest with
      | '\x7d' :: rest => return (.mapping [], rest)
      | _ => do
        let (entries, rest) ← entries bound room [] rest
        return (.mapping (entriesValue entries), rest)
    | _ => scalarValue s

/-- The items of a list up to its closing bracket, and what follows. -/
def items : Nat → Nat → List Char → Readable (List Value × List Char)
  | 0, _, _ => Readable.malformed
  | bound + 1, room, s =>
    match s with
    | ']' :: rest => .ok ([], rest)
    | _ => do
      let (v, rest) ← value bound room s
      match ← Readable.ofOption (skipFiller false rest) with
      | ']' :: rest => return ([v], rest)
      | ',' :: rest => do
        let (others, rest) ← items bound room (← Readable.ofOption (skipFiller false rest))
        return (v :: others, rest)
      | _ => Readable.malformed

/-- The entries of a table in braces up to its closing brace, behind the entries already read, and
what follows. -/
def entries : Nat → Nat → Entries → List Char → Readable (Entries × List Char)
  | 0, _, _, _ => Readable.malformed
  | bound + 1, room, found, s => do
    let (key, rest) ← Readable.ofOption (assigned? s)
    let (v, rest) ← value bound room rest
    let found ← Readable.ofOption (found.insert v (key.getLastD "") key.dropLast)
    match skipSpace rest with
    | '\x7d' :: rest => return (found, rest)
    | ',' :: rest => entries bound room found (skipSpace rest)
    | _ => Readable.malformed

end

/-- A document that is being read: its tables, and the path of the table whose section is read. -/
structure Document where
  entries : Entries
  current : List String

namespace Document

/-- Start the section of a table, or of one more of several tables. -/
def startSection (d : Document) (key : List String) (isOneOfSeveral : Bool) : Option Document := do
  let last := key.getLastD ""
  let change := if isOneOfSeveral then Entries.append last else Entries.declare last
  let entries ← (Entries.alter change key.dropLast (settledEntries d.entries))
  return ⟨entries, key⟩

/-- Add an entry to the section. -/
def addEntry (d : Document) (key : List String) (v : Value) : Option Document := do
  let entries ← Entries.alter (Entries.insert v (key.getLastD "") key.dropLast) d.current d.entries
  return { d with entries }

/-- Read a header behind its first bracket. -/
def header (d : Document) (s : List Char) : Option (Document × List Char) :=
  match s with
  | '[' :: rest => do
    let (key, rest) ← key? (skipSpace rest)
    let ']' :: ']' :: rest := rest | none
    return (← d.startSection key true, rest)
  | _ => do
    let (key, rest) ← key? (skipSpace s)
    let ']' :: rest := rest | none
    return (← d.startSection key false, rest)

/-- Read the statement a text starts with, which is no blank; what follows it is the rest of its
line. -/
def statement (d : Document) (s : List Char) : Readable (Document × List Char) :=
  match s with
  | '[' :: rest => Readable.ofOption (d.header rest)
  | '#' :: _ | '\n' :: _ => .ok (d, s)
  | _ => do
    let (key, rest) ← Readable.ofOption (assigned? s)
    let (v, rest) ← value (rest.length + 2) deepest rest
    return (← Readable.ofOption (d.addEntry key v), rest)

/-- What follows a comment, if there is one, and the end of the line. -/
def endLine (s : List Char) : Option (List Char) :=
  match s with
  | '#' :: rest =>
    if (rest.takeWhile fun c => c != '\n').any isControl then none
    else some ((rest.dropWhile fun c => c != '\n').drop 1)
  | '\n' :: rest => some rest
  | [] => some []
  | _ => none

/-- Read the statements of a text; the first argument bounds the number of its lines. -/
def statements : Nat → Document → List Char → Readable Document
  | 0, _, _ => Readable.malformed
  | bound + 1, d, s =>
    match skipSpace s with
    | [] => .ok d
    | s => do
      let (d, rest) ← d.statement s
      statements bound d (← Readable.ofOption (endLine (skipSpace rest)))

end Document

/-- The value of a TOML text, a mapping. -/
def read (s : String) : Readable Value := do
  let s := s.toList
  let d ← Document.statements (s.length + 1) ⟨[], []⟩ s
  return .mapping (entriesValue d.entries)

end Toml
end TypeFiles
