/-
# Reading settings

Settings are read from the fields of a mapping.

| field | default | accepted |
| --- | --- | --- |
| `namespace` | none | null or a text that is an identifier |
| `additional_imports` | none | a list of texts |
| `file_extension` | `py` | a text that is more than dots; the dots in front are dropped |
| `preserve_annotations` | no | a truth value |
| `source` (of a document) | | a text |
| `documents` (of a collection) | | a list of document settings |

Every field is looked at and every fault is reported, in the order of the table.  Unknown fields
are ignored, except in a collection.

A collection is read from the entries of a mapping, or from what a search finds if there are
directions for one among them (`Settings/Search`).
-/

import TypeFiles.Coercion
import TypeFiles.Failure
import TypeFiles.Settings
import TypeFiles.Settings.Search
import TypeFiles.Text.Identifier
import TypeFiles.Text.LetterCase

namespace TypeFiles

/-- A reading that collects its faults. -/
abbrev Checked (α : Type) := Except (List Fault) α

namespace Checked

/-- A reading that failed with one fault at this place. -/
def fault {α : Type} (kind : FaultKind) : Checked α := .error [⟨[], kind⟩]

/-- A reading, seen from one step further out. -/
def under {α : Type} (step : PathStep) (r : Checked α) : Checked α :=
  r.mapError (List.map (Fault.under step))

/-- Two readings that both are carried out: the faults of the first come first. -/
def both {α β : Type} (a : Checked α) (b : Checked β) : Checked (α × β) :=
  match a, b with
  | .ok x, .ok y => .ok (x, y)
  | .ok _, .error f => .error f
  | .error f, .ok _ => .error f
  | .error f, .error g => .error (f ++ g)

/-- The readings of a list of values, each seen from its place in the list. -/
def all {α : Type} (read : Value → Checked α) : Nat → List Value → Checked (List α)
  | _, [] => .ok []
  | n, v :: rest =>
    (both (under (.index n) (read v)) (all read (n + 1) rest)).map fun (x, xs) => x :: xs

end Checked

namespace Settings

/-- Read a text. -/
def readText (v : Value) : Checked String := v.asText.mapError fun kind => [⟨[], kind⟩]

/-- Read a root namespace: null, or a text that is an identifier. -/
def readNamespace : Value → Checked (Option String)
  | .null => .ok none
  | v => do
    let name ← readText v
    if Text.isIdentifier name then .ok (some name)
    else Checked.fault (.namespaceNoIdentifier name)

/-- Read the additional imports. -/
def readImports (v : Value) : Checked (List String) :=
  match v.asItems? with
  | some items => Checked.all readText 0 items
  | none => Checked.fault .notAList

/-- Read an extension without the dots in front of it. -/
def readExtension (v : Value) : Checked String := do
  let bare := (← readText v).toList.dropWhile fun c => c == '.'
  if bare.isEmpty then Checked.fault .emptyExtension else .ok (String.ofList bare)

/-- Read a truth value. -/
def readTruth (v : Value) : Checked Bool := v.asTruth.mapError fun kind => [⟨[], kind⟩]

/-- Read a field of a mapping; a field that is not there has the default. -/
def readField {α : Type} (v : Value) (name : String) (default : Checked α)
    (read : Value → Checked α) : Checked α :=
  Checked.under (.field name) ((v.get? name).elim default read)

/-- Read the settings of a run from a mapping. -/
def readFields (v : Value) : Checked Settings :=
  let readings :=
    Checked.both (readField v "namespace" (.ok none) readNamespace) <|
    Checked.both (readField v "additional_imports" (.ok []) readImports) <|
    Checked.both (readField v "file_extension" (.ok "py") readExtension)
      (readField v "preserve_annotations" (.ok false) readTruth)
  readings.map fun (root, imports, extension, preserve) => ⟨root, imports, extension, preserve⟩

/-- Read the settings of a run. -/
def read : Value → Checked Settings
  | .mapping entries => readFields (.mapping entries)
  | _ => Checked.fault (.notAMapping .run)

end Settings

namespace DocumentSettings

/-- Read the settings of a run on one document. -/
def read : Value → Checked DocumentSettings
  | .mapping entries =>
    let v : Value := .mapping entries
    (Checked.both (Settings.readFields v)
      (Settings.readField v "source" (Checked.fault .missing) Settings.readText)).map
      fun (settings, source) => ⟨settings, source⟩
  | _ => Checked.fault (.notAMapping .document)

/-- Whether a key names the field `documents`, letters in either case. -/
def isDocumentsKey (key : String) : Bool := key.toList.flatMap Text.lower == "documents".toList

/-- The key that stands for a collection itself. -/
def ownKey : String := "__pydantic_self__"

/-- Whether a key can name a field of a collection. -/
def namesField : Value → Bool
  | .text key => key != ownKey
  | _ => false

/-- The keys of a collection that mean nothing. -/
def unknownKeys (keys : List String) : List String := keys.filter fun key => !isDocumentsKey key

/-- Read a list of document settings. -/
def readDocuments (v : Value) : Checked (List DocumentSettings) :=
  match v.asItems? with
  | some items => Checked.all read 0 items
  | none => Checked.fault .notAList

/-- Read a collection of document settings from its entries.  The documents stand under the first
key that names them; another one that names them too is ignored. -/
def readCollection (entries : List (Value × Value)) : Checked (List DocumentSettings) :=
  let keys := entries.map fun entry => entry.1.shown
  let documents := match (keys.find? isDocumentsKey).bind (Value.mapping entries).get? with
    | some v => readDocuments v
    | none => Checked.fault .missing
  let unknown : Checked PUnit :=
    match unknownKeys keys with
    | [] => .ok ⟨⟩
    | others => .error (others.map fun key => ⟨[.field key], .unknownField⟩)
  (Checked.both (Checked.under (.field "documents") documents) unknown).map (·.1)

end DocumentSettings

/-- The settings of a run, or why they are refused. -/
def Settings.validate (v : Value) : Except Failure Settings :=
  (Settings.read v).mapError fun faults => .rejected ⟨.run, faults⟩

/-- The settings of a run on one document, or why they are refused. -/
def DocumentSettings.validate (v : Value) : Except Failure DocumentSettings :=
  (DocumentSettings.read v).mapError fun faults => .rejected ⟨.document, faults⟩

/-- The documents of a collection, or why they are refused.  A field of a collection needs a text
for its name, and no field is the collection itself. -/
def DocumentSettings.validateCollection (search : Search) (v : Value) :
    Except Failure (List DocumentSettings) :=
  match v with
  | .mapping given =>
    if given.all fun entry => DocumentSettings.namesField entry.1 then do
      (DocumentSettings.readCollection (← search.entries given)).mapError fun faults =>
        .rejected ⟨.collection, faults⟩
    else .error (.accident .wrongType)
  | _ => .error (.rejected ⟨.collection, [⟨[], .notAMapping .collection⟩]⟩)

end TypeFiles
