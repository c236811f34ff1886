/-
# Loading documents

A document is named by an address on a server or by the path of a file.  Its text is read, its
value is taken from the text, and the value must be a valid document.

What a YAML text says is given with the surroundings, as are the answers of the servers.

| what goes wrong | outcome |
| --- | --- |
| no such file or page, a directory, a malformed text | a loading problem with its cause |
| a value that is no document | a validation problem |
| a bad address, a name that is too long, a text that is not UTF-8, a day that is none | an accident |
-/

import TypeFiles.Format
import TypeFiles.Journal
import TypeFiles.OpenApi

namespace TypeFiles

/-- How documents are loaded: where paths start, and whether pages that lead on to another one are
followed. -/
structure Loader where
  base : Path
  follows : Bool
  deriving DecidableEq, Repr

namespace Loader

/-- Paths start at the current directory, and pages are followed. -/
def usual : Loader := ⟨.home, true⟩

/-- The loader whose paths start at a directory; an empty text is the current one. -/
def startingAt (directory : Option String) (follows : Bool) : Loader :=
  match directory with
  | some d => ⟨if d.isEmpty then .home else .read d, follows⟩
  | none => ⟨.home, follows⟩

/-- A document that cannot be loaded. -/
def problem {α : Type} (source : String) (cause : Cause) : Except Failure α :=
  .error (.problem (.load source (some cause)))

/-- The path that a source names. -/
def path (l : Loader) (source : String) : Path := l.base.join (.read source)

/-- The value of the file that a source names. -/
def loadFile (l : Loader) (s : Surroundings) (source : String) : Except Failure Value :=
  let path := l.path source
  match s.valueAt (.ofDocument path.suffix) path with
  | .ok v => .ok v
  | .error .missing | .error .blocked => problem source (.fileNotFound (path.text s.home))
  | .error .directory => problem source .isDirectory
  | .error (.malformed f) => problem source f.cause
  | .error (.accident a) => .error (.accident a)

/-- Whether an address ends like the name of a YAML file. -/
def hasYamlEnd (address : String) : Bool :=
  [".yaml", ".yml"].any fun suffix => suffix.toList.isSuffixOf address.toList

/-- The format of a page: YAML if the page or its address says so. -/
def pageFormat (address : String) (page : Page) : Format :=
  if page.isYaml || hasYamlEnd address then .yaml else .json

/-- The value of the page that a source names. -/
def loadPage (l : Loader) (s : Surroundings) (source : String) : Except Failure Value :=
  match Web.fetch s.servers l.follows source with
  | .error (.accident a) => .error (.accident a)
  | .error (.cause c) => problem source c
  | .ok page =>
    let format := pageFormat source page
    match page.text with
    | .error f => .error (.accident (.undecodablePage f))
    | .ok text =>
      match format.read s.yaml text with
      | .ok v => .ok v
      | .error .malformed => problem source format.cause
      | .error (.accident a) => .error (.accident a)

/-- Load the document that a source names. -/
def load (l : Loader) (s : Surroundings) (source : String) :
    Reporting (Except Failure OpenApi.Document) := do
  let content ←
    if Address.isOnServer source then do
      Reporting.write .debug .loading ("Fetching " ++ source)
      pure (l.loadPage s source)
    else pure (l.loadFile s source)
  return content.bind (OpenApi.validate source)

end Loader
end TypeFiles
