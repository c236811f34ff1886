/-
# The program in a terminal

Everything a run may look at is read beforehand: first the settings, then the documents that they
list.  Servers are not asked, so no address can be reached from here.  A search for settings follows
no directions, and nothing in a table is taken for a mark.
-/

import TypeFiles.CommandLine
import TypeFiles.Yaml

namespace TypeFiles

/-- What lies at a path.  Only a failure to open a file names it: a directory can be opened, but
not read. -/
def lookAt (home : String) (p : Path) : IO Found := do
  try
    let bytes ← IO.FS.readBinFile (p.text home)
    return .file bytes.toList
  catch
    | .inappropriateType none _ _ => return .directory
    | .inappropriateType (some _) _ _ => return .blocked
    | .invalidArgument _ _ _ => return .nameTooLong
    | _ => return .missing

/-- What lies at some paths. -/
def lookAtAll (home : String) (paths : List Path) : IO (List (Path × Found)) :=
  paths.mapM fun p => return (p, ← lookAt home p)

/-- The surroundings in which there is nothing but what was found at some paths. -/
def surroundingsOf (home : String) (found : List (Path × Found)) : Surroundings where
  home := home
  find := fun p => (found.lookup p).getD .missing
  servers := Web.unreachable
  yaml := Yaml.read
  search := Search.heedless
  marks := Console.unmarked

end TypeFiles

open TypeFiles in
/-- Run the program. -/
def main (argv : List String) : IO UInt32 := do
  let home := (← IO.currentDir).toString
  let command := Command.read argv
  let settings ← lookAtAll home (CommandLine.settingsPaths command)
  let documents ← lookAtAll home
    (CommandLine.documentPaths (surroundingsOf home settings) command)
  let s := surroundingsOf home (settings ++ documents)
  let (outcome, _) := (CommandLine.run s argv).run .uncollected
  for line in outcome.printed.flatMap Printed.lines do
    IO.println line
  match command, outcome.ending with
  | .help, _ => for line in CommandLine.usage do IO.println line
  | .misuse, _ => for line in CommandLine.usage do IO.eprintln line
  | _, .accident a => IO.eprintln (a.message?.getD "The run ended unexpectedly.")
  | _, _ => pure ()
  return outcome.ending.exitCode.toUInt32
