/-
# Settings of a run

What a run can be told: a root namespace, imports to add, the extension of the file names, and
whether notes that were taken off while splitting come back.
-/

namespace TypeFiles

/-- The settings of one run. -/
structure Settings where
  /-- The root namespace; it is put in front of every file name and gets a file of its own. -/
  rootNamespace : Option String
  /-- The imports that follow the built-in ones in every file. -/
  additionalImports : List String
  /-- The extension of the file names, without the dot. -/
  fileExtension : String
  /-- Whether documentation and deprecations are put back around the declarations. -/
  preserveAnnotations : Bool
  deriving DecidableEq, Repr

/-- The settings of a run that was told nothing. -/
def Settings.default : Settings := ⟨none, [], "py", false⟩

instance : Inhabited Settings := ⟨Settings.default⟩

/-- The settings of a run on one document, and where the document is. -/
structure DocumentSettings where
  settings : Settings
  source : String
  deriving DecidableEq, Repr

end TypeFiles
