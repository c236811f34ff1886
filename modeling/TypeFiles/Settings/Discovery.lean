/-
# Finding the settings

The documents to plan are listed in a file.  Its path may be given; otherwise the first of these
that exists decides, and nothing behind it is looked at.

| file in the current directory | documents |
| --- | --- |
| `apisplit.yaml` | the whole file |
| `apisplit.yml` | the whole file |
| `pyproject.toml` | its table `tool.apisplit`, if there is one |
-/

import TypeFiles.Format
import TypeFiles.Settings.Read

namespace TypeFiles
namespace Discovery

/-- The files that hold nothing but settings. -/
def fileNames : List String := ["apisplit.yaml", "apisplit.yml"]

/-- The file of a project, which may hold settings among others. -/
def projectFile : String := "pyproject.toml"

/-- The name of the table of the settings in the file of a project. -/
def tableName : String := "apisplit"

/-- A problem with a file of settings. -/
def problem {α : Type} (message : String) (path : String) : Except Failure α :=
  .error (.problem (.configuration message (some path) none))

/-- The value of a file of settings. -/
def load (s : Surroundings) (path : Path) : Except Failure Value :=
  let shown := path.text s.home
  match s.valueAt (.ofSettings path.suffix) path with
  | .ok v => .ok v
  | .error .missing | .error .blocked => problem "Configuration file not found" shown
  | .error .directory =>
    problem ("Unreadable configuration file: " ++ Cause.isDirectory.message) shown
  | .error (.malformed f) => problem ("Malformed configuration file: " ++ f.cause.message) shown
  | .error (.accident a) => .error (.accident a)

/-- The documents that a file lists. -/
def documentsIn (s : Surroundings) (path : Path) : Except Failure (List DocumentSettings) := do
  DocumentSettings.validateCollection s.search (← load s path)

/-- The problem that there are no settings. -/
def nothingFound {α : Type} (s : Surroundings) : Except Failure α :=
  problem ("No configuration found; expected one of " ++ ", ".intercalate fileNames ++
    " or a [tool.apisplit] table in pyproject.toml") s.home

/-- Whether a value has an entry or an item with a name in it, or is a text in which the name
occurs; other values cannot be searched. -/
def mentions? (name : String) : Value → Except Accident Bool
  | .mapping entries => .ok ((Value.mapping entries).get? name).isSome
  | .list items => .ok (items.any fun v => Value.sameKey v (.text name))
  | .text t => .ok (Text.occursIn name.toList t.toList)
  | _ => .error .wrongType

/-- The documents that the tools of a project list; `tools` is the value under `tool`. -/
def documentsOfTools (s : Surroundings) (tools : Value) : Except Failure (List DocumentSettings) :=
  match mentions? tableName tools with
  | .error a => .error (.accident a)
  | .ok false => nothingFound s
  | .ok true =>
    match tools.get? tableName with
    | some table => DocumentSettings.validateCollection s.search table
    | none => .error (.accident .wrongType)

/-- The documents that the file of a project lists. -/
def documentsOfProject (s : Surroundings) (path : Path) :
    Except Failure (List DocumentSettings) := do
  let project ← load s path
  documentsOfTools s ((project.get? "tool").getD (.mapping []))

/-- The path of a file in the current directory. -/
def pathOf (name : String) : Path := Path.home.join (.read name)

/-- The documents of the first of some files that exists, or else those of the project. -/
def discover (s : Surroundings) : List String → Except Failure (List DocumentSettings)
  | [] => do
    let path := pathOf projectFile
    match (s.find path).exists? with
    | .error a => .error (.accident a)
    | .ok true => documentsOfProject s path
    | .ok false => nothingFound s
  | name :: rest =>
    let path := pathOf name
    match (s.find path).exists? with
    | .error a => .error (.accident a)
    | .ok true => documentsIn s path
    | .ok false => discover s rest

/-- The documents to plan: those that the file at a path lists, or without a path those of the
settings that are found. -/
def documents (s : Surroundings) (path : Option String) : Except Failure (List DocumentSettings) :=
  match path with
  | none | some "" => discover s fileNames
  | some p => documentsIn s (.read p)

/-- The paths at which settings are looked for. -/
def paths : Option String → List Path
  | none | some "" => (fileNames ++ [projectFile]).map pathOf
  | some p => [.read p]

end Discovery
end TypeFiles
