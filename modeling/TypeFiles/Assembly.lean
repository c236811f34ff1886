/-
# Assembling the generated files

Every unit becomes one file with one code block below a header that all files of a run share.  With
a root namespace, a file that declares the empty namespace comes first and every other file name
starts with the namespace:

| file | name | imports | block |
| --- | --- | --- | --- |
| anchor | `Namespace.ext` | none | the empty namespace |
| unit | `Namespace_Unit.ext` or `Unit.ext` | built-in, then additional | the unit |

Files that share a name are all kept, and reported once per name in the order of first occurrence.
-/

import TypeFiles.Settings
import TypeFiles.Splitting

namespace TypeFiles

/-- A generated file, ready to be written. -/
structure GeneratedFile where
  name : String
  topComment : String
  imports : List String
  blocks : List Block
  isNamespace : Bool

/-- What stands above the code of every unit file. -/
structure FileHeader where
  topComment : String
  imports : List String

namespace Assembly

/-- The comment at the top of every generated file. -/
def topComment : String := "Generated by apisplit, do not modify."

/-- The imports that every unit file starts with. -/
def builtinImports : List String := ["typing", "pydantic"]

/-- The header of the unit files of a run. -/
def header (s : Settings) : FileHeader := ⟨topComment, builtinImports ++ s.additionalImports⟩

/-- The root namespace of a run, an empty one being none. -/
def namespace? (s : Settings) : Option String :=
  s.rootNamespace.filter fun name => !name.isEmpty

/-- The name of the file of a unit. -/
def fileName (s : Settings) (unitName : String) : String :=
  let front := match namespace? s with
    | some name => name ++ "_"
    | none => ""
  front ++ unitName ++ "." ++ s.fileExtension

/-- The file that declares the empty root namespace. -/
def anchorFile? (s : Settings) : Option GeneratedFile :=
  (namespace? s).map fun name =>
    { name := name ++ "." ++ s.fileExtension
      topComment := topComment
      imports := []
      blocks := [⟨.declaration (Declaration.namespaceOf name []), none⟩]
      isNamespace := true }

/-- The code block of a unit file: the block of the unit, its remarks put back if the settings
ask for it and there are any. -/
def block (s : Settings) (u : FileUnit) : Block :=
  if s.preserveAnnotations && !u.wrappers.isEmpty then ⟨u.annotatedItem, u.block.comment⟩
  else u.block

/-- The file of a unit. -/
def unitFile (s : Settings) (h : FileHeader) (u : FileUnit) : GeneratedFile :=
  { name := fileName s u.name
    topComment := h.topComment
    imports := h.imports
    blocks := [block s u]
    isNamespace := false }

/-- The files of a run: the anchor if there is a root namespace, then one file per unit. -/
def files (s : Settings) (us : List FileUnit) : List GeneratedFile :=
  (anchorFile? s).toList ++ us.map (unitFile s (header s))

/-- The names that occur more than once, in the order of first occurrence, and how often. -/
def collisions (names : List String) : List (String × Nat) :=
  (names.eraseDups.map fun name => (name, names.count name)).filter fun (_, count) => 2 ≤ count

/-- The words on files that share a name. -/
def collisionMessage (name : String) (count : Nat) : String :=
  toString count ++ " files share the name " ++ name

/-- Report the files that share a name: as warnings, or in the log if there is no collector. -/
def reportCollisions (names : List String) : Reporting PUnit :=
  (collisions names).forM fun (name, count) => do
    let message := collisionMessage name count
    if ← Reporting.isCollecting then Reporting.warn message (some name)
    else Reporting.write .warning .assembly message

end Assembly

/-- Assemble the files of a run from its units. -/
def assemble (s : Settings) (us : List FileUnit) : Reporting (List GeneratedFile) := do
  let found := Assembly.files s us
  Assembly.reportCollisions (found.map (·.name))
  return found

end TypeFiles
