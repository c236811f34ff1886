/-
# Paths of files

A path is where it starts and the steps that lead on from there.  Empty steps and the step `.` are
dropped, the step `..` is kept.

| start | written |
| --- | --- |
| the current directory | nothing in front, or `.` if there is no step |
| the current directory, spelled out | the text of the current directory |
| the root | `/` |
| the other root | `//` |
-/

import TypeFiles.Text.LetterCase

namespace TypeFiles

/-- Where a path starts. -/
inductive PathStart where
  | here
  | home
  | root
  | otherRoot
  deriving DecidableEq, Repr

/-- A path: its start, and the steps from there. -/
structure Path where
  start : PathStart
  steps : List (List Char)
  deriving DecidableEq, Repr

namespace Path

/-- The current directory, spelled out. -/
def home : Path := ⟨.home, []⟩

/-- The steps of a text with slashes between them. -/
def readSteps (s : List Char) : List (List Char) :=
  (s.splitOn '/').filter fun step => !step.isEmpty && step != ['.']

/-- Where a text starts: two slashes are the other root, one or more than two are the root. -/
def readStart : List Char → PathStart
  | '/' :: '/' :: '/' :: _ => .root
  | '/' :: '/' :: _ => .otherRoot
  | '/' :: _ => .root
  | _ => .here

/-- The path that a text names. -/
def read (s : String) : Path := ⟨readStart s.toList, readSteps s.toList⟩

/-- A path taken from another one on: one that does not start here stays what it is. -/
def join (base p : Path) : Path :=
  match p.start with
  | .here => ⟨base.start, base.steps ++ p.steps⟩
  | _ => p

/-- A path in writing; `home` is the text of the current directory. -/
def text (home : String) (p : Path) : String :=
  let steps := "/".intercalate (p.steps.map String.ofList)
  match p.start with
  | .here => if p.steps.isEmpty then "." else steps
  | .home => if p.steps.isEmpty then home else home ++ "/" ++ steps
  | .root => "/" ++ steps
  | .otherRoot => "//" ++ steps

/-- The end of a name from its last dot on, in lower case; a dot at either end of the name starts
no suffix. -/
def suffixOf (name : List Char) : List Char :=
  let behind := name.reverse.takeWhile fun c => c != '.'
  let before := name.length - behind.length
  if behind.isEmpty || before ≤ 1 then [] else ('.' :: behind.reverse).flatMap Text.lower

/-- The suffix of the last step of a path. -/
def suffix (p : Path) : String := String.ofList (suffixOf (p.steps.getLast?.getD []))

end Path
end TypeFiles
