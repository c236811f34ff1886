/-
# Names of the generated declarations

A document names its schemas, properties and enum values by any text.  The generated code names
types, members and cases by identifiers made of ASCII letters, digits and underscores:

| text | accents off, then | example |
| --- | --- | --- |
| schema key | its alphanumeric words, each capitalized, run together | `pet-store item` → `PetStoreItem` |
| property | blanks and hyphens become one underscore, the rest is left out | `born-at` → `born_at` |
| enum value | like a property, its first letter in lower case | `Sold Out` → `sold_Out` |

A name that would start with a digit gets an underscore in front; a property or a value that is a
reserved word of the generated code gets one behind.
-/

import TypeFiles.Text.Blank
import TypeFiles.Text.Decomposition
import TypeFiles.Text.LetterCase

namespace TypeFiles
namespace Name

/-- The reserved words of the generated code. -/
def reservedWords : List String := [
  "False", "None", "True", "and", "as", "assert", "async", "await", "break", "class", "continue",
  "def", "del", "elif", "else", "except", "finally", "for", "from", "global", "if", "import", "in",
  "is", "lambda", "nonlocal", "not", "or", "pass", "raise", "return", "try", "while", "with",
  "yield"]

/-- A reserved word with an underscore behind it; any other text unchanged. -/
def avoidReserved (s : String) : String :=
  if reservedWords.contains s then s ++ "_" else s

/-- A text with its first character in upper case. -/
def capitalized : List Char → List Char
  | [] => []
  | c :: rest => Text.upper c ++ rest

/-- An underscore in front of a text that starts with a digit. -/
def guardDigit : List Char → List Char
  | [] => []
  | c :: rest => if c.isDigit then '_' :: c :: rest else c :: rest

/-- Cut a text at every character that is not an ASCII letter or digit.  Two such characters side
by side, and one at either end, leave an empty part. -/
def parts (s : List Char) : List (List Char) :=
  s.foldr (fun c found =>
    if c.isAlphanum then
      match found with
      | [] => [[c]]
      | part :: others => (c :: part) :: others
    else [] :: found) [[]]

/-- The name of the type generated for a schema key. -/
def forType (key : String) : String :=
  let words := (parts (Text.withoutMarks key.toList)).filter fun part => !part.isEmpty
  match guardDigit (words.flatMap capitalized) with
  | [] => "UnnamedType"
  | name => String.ofList name

/-- Whether a character separates the words of a property: a hyphen or a blank. -/
def isSeparator (c : Char) : Bool := c == '-' || Text.isBlank c

/-- Replace each run of separators by one underscore.  The flag tells whether the text before
ended in a separator. -/
def underscored : Bool → List Char → List Char
  | _, [] => []
  | inside, c :: rest =>
    if isSeparator c then
      if inside then underscored true rest else '_' :: underscored true rest
    else c :: underscored false rest

/-- Whether a character may stand in a name of the generated code. -/
def isNameChar (c : Char) : Bool := c.isAlphanum || c == '_'

/-- The characters of a property name or case name; it is empty if nothing of the text is left. -/
def sanitized (s : String) : List Char :=
  let plain := Text.withoutMarks (avoidReserved s).toList
  guardDigit ((underscored false plain).filter isNameChar)

/-- The name of the member generated for a property; an empty property name has none. -/
def forMember? (property : String) : Option String :=
  if property.isEmpty then none else some (String.ofList (sanitized property))

/-- The name of the case generated for an enum value. -/
def forCase (value : String) : String :=
  match value.toList with
  | [] => "empty"
  | c :: rest =>
    match sanitized (String.ofList (Text.lower c ++ rest)) with
    | [] => "empty"
    | name => String.ofList name

end Name
end TypeFiles
