/-
# The tokens of a YAML text

A token is a sign of the structure or a scalar.  The start and the end of a block collection are
tokens too, although nothing is written for them: they follow from indentation.

| written | token |
| --- | --- |
| `%YAML 1.1`, `%TAG !e! tag:example,2000:` | directives |
| `---`, `...` | start and end of a document |
| `[ ] { } , - ? :` | structure |
| `&name`, `*name` | an anchor, an alias |
| `!`, `!!set`, `!e!name`, `!<tag:example,2000:name>` | a tag |

A name is made of ASCII letters, digits, hyphens and underscores.
-/

import TypeFiles.Decimal.Digits
import TypeFiles.Readable
import TypeFiles.Text.Cut
import TypeFiles.Text.Utf8
import TypeFiles.Yaml.Character

namespace TypeFiles
namespace Yaml

/-- A directive in front of a document. -/
inductive Directive where
  | version (major : Nat)
  | handle (name meaning : String)
  | other
  deriving DecidableEq, Repr

/-- A token of a YAML text. -/
inductive Token where
  | directive (d : Directive)
  | documentStart
  | documentEnd
  | blockSequence
  | blockMapping
  | blockEnd
  | openSequence
  | closeSequence
  | openMapping
  | closeMapping
  | blockEntry
  | flowEntry
  | key
  | value
  | alias (name : String)
  | anchor (name : String)
  /-- A tag: a handle, if it has one, and the rest of its name. -/
  | tag (handle : Option String) (name : String)
  /-- A scalar; the flag tells whether it is written without quotes. -/
  | scalar (isPlain : Bool) (text : String)
  deriving DecidableEq, Repr

/-! Each of the following reads the start of a text and counts the characters it has read. -/

/-- The name of an anchor or an alias. -/
def scanName (s : List Char) : Readable (String × Nat) :=
  let name := s.takeWhile isNameChar
  let rest := s.drop name.length
  let ends := match rest with
    | [] => true
    | c :: _ => isGap c || "?:,]\x7d%@\x60".toList.contains c
  if name.isEmpty || !ends then Readable.malformed else .ok (String.ofList name, name.length)

/-- Whether a character may stand in the name of a tag. -/
def isTagChar (c : Char) : Bool := c.isAlphanum || "-;/?:@&=+$,_.!~*'()[]%".toList.contains c

/-- The text whose bytes are written as `%` and two digits, in the characters of a tag; bytes that
stand together must be UTF-8.  The first argument holds the bytes that wait, last one first. -/
def unescapedTag (bytes : List UInt8) : List Char → Option (List Char)
  | '%' :: a :: b :: rest =>
    match Decimal.digitValue? a, Decimal.digitValue? b with
    | some x, some y => unescapedTag (UInt8.ofNat (x * 16 + y) :: bytes) rest
    | _, _ => none
  | '%' :: _ => none
  | s => do
    let waiting := (← Text.decodeUtf8? bytes.reverse).toList
    match s with
    | [] => return waiting
    | c :: rest => return waiting ++ c :: (← unescapedTag [] rest)

/-- The name of a tag. -/
def scanTagName (s : List Char) : Readable (String × Nat) :=
  let name := s.takeWhile isTagChar
  if name.isEmpty then Readable.malformed
  else
    match unescapedTag [] name with
    | some text => .ok (String.ofList text, name.length)
    | none => Readable.malformed

/-- The handle of a tag: `!`, or a name between two of them. -/
def scanHandle (s : List Char) : Readable (String × Nat) :=
  match s with
  | '!' :: rest =>
    if rest.head? == some ' ' then .ok ("!", 1)
    else
      let name := rest.takeWhile isNameChar
      if (rest.drop name.length).head? == some '!' then
        .ok (String.ofList ('!' :: name ++ ['!']), name.length + 2)
      else Readable.malformed
  | _ => Readable.malformed

/-- Check that a word ends behind a part that has been read. -/
def ended {α : Type} (s : List Char) (part : α × Nat) : Readable (α × Nat) :=
  if endsPlainly (s.drop part.2) then .ok part else Readable.malformed

/-- A tag behind its exclamation mark. -/
def scanTag (s : List Char) : Readable (Token × Nat) :=
  match s with
  | '<' :: rest => do
    let (name, count) ← scanTagName rest
    match rest.drop count with
    | '>' :: _ => ended s (.tag none name, count + 2)
    | _ => Readable.malformed
  | _ =>
    if endsWord s then ended s (.tag none "!", 0)
    else if (s.takeWhile fun c => c != ' ' && !isBreak c).contains '!' then do
      let (handle, length) ← scanHandle ('!' :: s)
      let (name, count) ← scanTagName (s.drop (length - 1))
      ended s (.tag (some handle) name, length - 1 + count)
    else do
      let (name, count) ← scanTagName s
      ended s (.tag (some "!") name, count)

/-- The characters of a text behind its spaces. -/
def behindSpaces (s : List Char) : List Char := s.dropWhile fun c => c == ' '

/-- Whether a line holds no more than spaces and a comment. -/
def isBare (line : List Char) : Bool :=
  match behindSpaces line with
  | [] => true
  | c :: _ => c == '#'

/-- A number of a version, which is read as soon as its last digit is found. -/
def readVersionNumber (line : List Char) : Readable (Nat × List Char) := do
  let (digits, rest) := Decimal.spanDigits line
  if digits.isEmpty then Readable.malformed else return (← Readable.number digits, rest)

/-- The major number of a version, and what follows the version. -/
def readVersion (line : List Char) : Readable (Directive × List Char) := do
  let (major, rest) ← readVersionNumber (behindSpaces line)
  let '.' :: rest := rest | Readable.malformed
  let (_, rest) ← readVersionNumber rest
  if endsPlainly rest then return (.version major, rest) else Readable.malformed

/-- A handle and its meaning, and what follows them. -/
def readHandle (line : List Char) : Readable (Directive × List Char) := do
  let line := behindSpaces line
  let (handle, length) ← scanHandle line
  let rest := line.drop length
  if rest.head? == some ' ' then do
    let rest := behindSpaces rest
    let (meaning, count) ← scanTagName rest
    let rest := rest.drop count
    if endsPlainly rest then return (.handle handle meaning, rest) else Readable.malformed
  else Readable.malformed

/-- A directive in a line behind its percent sign. -/
def readDirective (line : List Char) : Readable Directive := do
  let name := line.takeWhile isNameChar
  let rest := line.drop name.length
  if name.isEmpty || !endsPlainly rest then Readable.malformed
  else
    let (directive, rest) ←
      if name == "YAML".toList then readVersion rest
      else if name == "TAG".toList then readHandle rest
      else pure (.other, [])
    if isBare rest then return directive else Readable.malformed

/-- A directive behind its percent sign. -/
def scanDirective (s : List Char) : Readable (Token × Nat) := do
  let line := s.takeWhile fun c => !isBreak c
  return (.directive (← readDirective line), line.length + 1)

end Yaml
end TypeFiles
