/-
# The surroundings of a run

A run looks at files, at what servers answer, and at the terminal, and changes none of them.  What
it can meet is therefore one value: the text of the current directory, what lies at each path, what
each request is answered with, and what the libraries it relies on make of a text in YAML, of a
search for settings and of a text for the console.
-/

import TypeFiles.Console
import TypeFiles.Path
import TypeFiles.Readable
import TypeFiles.Settings.Search
import TypeFiles.Web

namespace TypeFiles

/-- What lies at a path. -/
inductive Found where
  | missing
  /-- The path goes on behind a file. -/
  | blocked
  /-- The path, or a step of it, is longer than that of a file can be. -/
  | nameTooLong
  | directory
  | file (bytes : List UInt8)
  deriving DecidableEq, Repr

/-- Whether there is something at a path. -/
def Found.exists? : Found → Except Accident Bool
  | .missing | .blocked => .ok false
  | .directory | .file _ => .ok true
  | .nameTooLong => .error .nameTooLong

/-- All that a run can meet. -/
structure Surroundings where
  home : String
  find : Path → Found
  servers : Servers
  /-- What a text in YAML says, or why it says nothing. -/
  yaml : String → Readable Value
  search : Search
  marks : Marks

end TypeFiles
