/-
# Formats of documents and settings

The end of its name tells the format of a text.  Of a file that is the suffix of its path; of a page
it is the end of its address, unless the content type tells more.

| text | `.yaml`, `.yml` | `.json` | `.toml` | other |
| --- | --- | --- | --- | --- |
| document | YAML | JSON | JSON | JSON |
| settings | YAML | JSON | TOML | YAML |
-/

import TypeFiles.Json
import TypeFiles.Surroundings
import TypeFiles.Text.Utf8
import TypeFiles.Toml

namespace TypeFiles

/-- The format of a text. -/
inductive Format where
  | json
  | yaml
  | toml
  deriving DecidableEq, Repr

namespace Format

/-- Whether a suffix is one of YAML. -/
def isYamlSuffix (suffix : String) : Bool := suffix == ".yaml" || suffix == ".yml"

/-- The format of a document with a suffix. -/
def ofDocument (suffix : String) : Format := if isYamlSuffix suffix then .yaml else .json

/-- The format of settings with a suffix. -/
def ofSettings (suffix : String) : Format :=
  if suffix == ".json" then .json else if suffix == ".toml" then .toml else .yaml

/-- What a text that breaks the rules of a format causes. -/
def cause : Format → Cause
  | .json => .malformedJson
  | .yaml => .malformedYaml
  | .toml => .malformedToml

/-- The value of a text in a format, given what a text in YAML says. -/
def read (yaml : String → Readable Value) : Format → String → Readable Value
  | .json => Json.read
  | .yaml => yaml
  | .toml => Toml.read

end Format

/-- Why a file has no value. -/
inductive FileFault where
  | missing
  | blocked
  | directory
  | malformed (f : Format)
  | accident (a : Accident)
  deriving DecidableEq, Repr

namespace Surroundings

/-- The text of a file; its line ends are read as line feeds. -/
def textAt (s : Surroundings) (p : Path) : Except FileFault String :=
  match s.find p with
  | .missing => .error .missing
  | .blocked => .error .blocked
  | .nameTooLong => .error (.accident .nameTooLong)
  | .directory => .error .directory
  | .file bytes =>
    match Text.decodeUtf8? bytes with
    | some text => .ok (String.ofList (Text.unifyLineEnds text.toList))
    | none => .error (.accident .undecodableFile)

/-- The value of a file in a format. -/
def valueAt (s : Surroundings) (f : Format) (p : Path) : Except FileFault Value := do
  let text ← s.textAt p
  match f.read s.yaml text with
  | .ok v => .ok v
  | .error .malformed => .error (.malformed f)
  | .error (.accident a) => .error (.accident a)

end Surroundings
end TypeFiles
