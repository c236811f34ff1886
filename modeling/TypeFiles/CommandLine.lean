/-
# The program

`plan` shows which files would be generated: for each document a table of its files, the
diagnostics if they are asked for, and the number of files.  The documents are planned one after
the other and know nothing of each other; the first one that fails ends the run.

| ending | exit code |
| --- | --- |
| done, help | 0 |
| failed, or an accident | 1 |
| misused | 2 |
| left by the search for settings | its own |

The title of a table and the names in it are given to the console as they are, and may be taken for
marks.  A table whose marks do not fit is not printed, and the run ends in an accident.
-/

import TypeFiles.CommandLine.Arguments
import TypeFiles.Console
import TypeFiles.Loading
import TypeFiles.Plan
import TypeFiles.Settings.Discovery

namespace TypeFiles
namespace CommandLine

/-- How a run ends. -/
inductive Ending where
  | done
  | failed
  | accident (a : Accident)
  | misused
  | left (code : Nat)
  deriving DecidableEq, Repr

/-- The exit code of an ending. -/
def Ending.exitCode : Ending → Nat
  | .done => 0
  | .failed | .accident _ => 1
  | .misused => 2
  | .left code => code

/-- What a run prints and how it ends. -/
structure Outcome where
  printed : List Printed
  ending : Ending
  deriving DecidableEq, Repr

/-- The version of the program. -/
def version : String := "0.1.0"

/-- How the program is used. -/
def usage : List String := [
  "usage: apisplit plan [SOURCE] [-c PATH] [-n NAME] [-i IMPORT]... [--ext EXTENSION] [-v]",
  "       apisplit version"]

/-- The settings that the options of a plan give to its source; an empty extension is none. -/
def fieldsOf (request : PlanRequest) (source : String) : Value :=
  let extension := match request.extension with
    | some e => if e.isEmpty then [] else [("file_extension", Value.text e)]
    | none => []
  .ofFields ([("source", .text source), ("namespace", request.rootNamespace.elim .null .text),
    ("additional_imports", .list (request.additionalImports.map .text))] ++ extension)

/-- The documents that a plan is asked for: its source with its options, or those of the settings.
A source and a file of settings exclude each other. -/
def documents (s : Surroundings) (request : PlanRequest) : Except Failure (List DocumentSettings) :=
  match request.source with
  | none => Discovery.documents s request.config
  | some source =>
    match request.config with
    | some path => Discovery.problem "--config cannot be combined with SOURCE" path
    | none => (DocumentSettings.validate (fieldsOf request source)).map ([·])

/-- The kind of declaration in a file, as the table lists it. -/
def kindTitle (f : GeneratedFile) : String :=
  match f.blocks with
  | [] => ""
  | b :: _ => b.item.kind.title

/-- The table of the files of a document, if the console can show it. -/
def fileTable? (marks : Marks) (source : String) (files : List GeneratedFile) : Option Printed :=
  Console.table? marks source ["File", "Declaration"] (files.map fun f => [f.name, kindTitle f])

/-- What is printed for a document: the table, the diagnostics if they are asked for, and the
number of files. -/
def report (marks : Marks) (verbose : Bool) (source : String) (files : List GeneratedFile)
    (ds : List Diagnostic) : Except Failure (List Printed) :=
  match fileTable? marks source files with
  | none => .error (.accident .unfitMarks)
  | some table =>
    let notes := if verbose then ds.map fun d => Console.styledLine "yellow" d.text else []
    .ok (table :: notes ++
      [Console.styledLine "green" (toString files.length ++ " files planned")])

/-- Plan the files of a document and print them. -/
def planDocument (s : Surroundings) (verbose : Bool) (d : DocumentSettings) :
    Reporting (Except Failure (List Printed)) := do
  match ← Loader.usual.load s d.source with
  | .error e => return .error e
  | .ok document => do
    let ((files, _), ds) ← Reporting.isolated ((Planner.fresh d.settings).plan document.schemas)
    return files >>= fun fs => report s.marks verbose d.source fs ds

/-- The end of a run that failed. -/
def failed : Failure → Outcome
  | .problem p => ⟨[Console.failureLine p.message], .failed⟩
  | .rejected _ => ⟨[Console.failureLine Cause.notValid.message], .failed⟩
  | .accident a => ⟨[], .accident a⟩
  | .left code => ⟨[], .left code⟩

/-- Plan documents one after the other, up to the first one that fails. -/
def planDocuments (s : Surroundings) (verbose : Bool) : List DocumentSettings → Reporting Outcome
  | [] => return ⟨[], .done⟩
  | d :: rest => do
    match ← planDocument s verbose d with
    | .error e => return failed e
    | .ok printed => do
      let others ← planDocuments s verbose rest
      return { others with printed := printed ++ others.printed }

/-- Carry out a plan. -/
def plan (s : Surroundings) (request : PlanRequest) : Reporting Outcome := do
  match documents s request with
  | .error e => return failed e
  | .ok ds => planDocuments s request.verbose ds

/-- Run the program. -/
def run (s : Surroundings) (argv : List String) : Reporting Outcome := do
  match Command.read argv with
  | .plan request => plan s request
  | .version => return ⟨[Console.plainLine ("apisplit version: " ++ version)], .done⟩
  | .help => return ⟨[], .done⟩
  | .misuse => return ⟨[], .misused⟩

/-- The paths at which a command looks for settings. -/
def settingsPaths : Command → List Path
  | .plan request => if request.source.isSome then [] else Discovery.paths request.config
  | _ => []

/-- The paths at which a command looks for documents. -/
def documentPaths (s : Surroundings) : Command → List Path
  | .plan request =>
    match documents s request with
    | .ok ds => (ds.filter fun d => !Address.isOnServer d.source).map fun d =>
        Loader.usual.path d.source
    | .error _ => []
  | _ => []

end CommandLine
end TypeFiles
