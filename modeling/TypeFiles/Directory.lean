/-
# A directory

A `Directory` is a current directory by itself.  Its files are listed with their steps from there,
and every step on the way to a listed file is a directory.  Outside of it there are directories only
where `..` leads to.  A name has at most 255 bytes, and the path as a whole, which is written from
the root on unless it starts at `.`, at most 4095.

As surroundings (`Directory.surroundings`) a directory comes with a reader of YAML, with a console
that takes nothing for a mark, and with a search for settings that follows one direction only:
`_secrets_dir` with the name of a directory, in which a file may hold the documents in JSON.
-/

import TypeFiles.Json
import TypeFiles.Surroundings
import TypeFiles.Text.Blank
import TypeFiles.Text.LetterCase
import TypeFiles.Text.Utf8
import TypeFiles.Yaml

namespace TypeFiles

/-- An entry of a directory. -/
inductive Entry where
  | directory
  | file (bytes : List UInt8)
  deriving DecidableEq, Repr

/-- The entries below a current directory, each with its steps from there. -/
structure Directory where
  entries : List (List (List Char) × Entry)

/-- A place on the way along a path: inside the current directory, or outside of it. -/
inductive Spot where
  | inside (steps : List (List Char))
  | outside

namespace Directory

/-! ## Looking up a path -/

/-- The number of bytes that the name of a file can have. -/
def longestName : Nat := 255

/-- The number of bytes that a path can have. -/
def longestPath : Nat := 4095

/-- Whether a step is too long for the name of a file. -/
def isTooLong (step : List Char) : Bool := longestName < (String.ofList step).utf8ByteSize

/-- What lies at the end of some steps that do not go back. -/
def entry? (d : Directory) (steps : List (List Char)) : Option Entry :=
  match d.entries.find? fun e => e.1 == steps with
  | some e => some e.2
  | none =>
    if steps.isEmpty || d.entries.any fun e => steps.isPrefixOf e.1 then some .directory else none

/-- One step back. -/
def back : Spot → Spot
  | .inside [] | .outside => .outside
  | .inside steps => .inside steps.dropLast

/-- What lies at the end of the steps from a directory on. -/
def walk (d : Directory) : Spot → List (List Char) → Found
  | _, [] => .directory
  | spot, step :: rest =>
    if step == ['.', '.'] then walk d (back spot) rest
    else if isTooLong step then .nameTooLong
    else
      match spot with
      | .outside => .missing
      | .inside before =>
        match d.entry? (before ++ [step]) with
        | none => .missing
        | some .directory => walk d (.inside (before ++ [step])) rest
        | some (.file bytes) => if rest.isEmpty then .file bytes else .blocked

/-- What lies at a path, seen from a current directory whose own path is `home`. -/
def find (d : Directory) (home : String) (p : Path) : Found :=
  if p.steps.any fun step => step.contains '\x00' then .missing
  else if longestPath < (p.text home).utf8ByteSize then .nameTooLong
  else
    match p.start with
    | .here | .home => d.walk (.inside []) p.steps
    | .root | .otherRoot => d.walk .outside p.steps

/-! ## Searching for settings -/

/-- The direction that names a directory with a file for each field. -/
def secretsKey : Value := .text "_secrets_dir"

/-- The name of the file for the documents. -/
def secretName : List Char := "apisplit_documents".toList

/-- A search that does not come to its end. -/
def objection (message : String) : Sought :=
  .refused [⟨[], .objection "value_error" ("Value error, " ++ message)⟩]

/-- The file for the documents right in the directory at a path, its name in letters of either
case. -/
def secret? (d : Directory) (p : Path) : Option (List UInt8) :=
  d.entries.findSome? fun (steps, entry) =>
    match entry with
    | .file bytes =>
      if steps.dropLast == p.steps && (steps.getLast?.map (·.flatMap Text.lower)) == some secretName
      then some bytes
      else none
    | .directory => none

/-- The documents that a file holds. -/
def readSecret (entries : List (Value × Value)) (bytes : List UInt8) : Sought :=
  match Text.decodeUtf8? bytes with
  | none =>
    objection "error getting value for field \"documents\" from source \"SecretsSettingsSource\""
  | some text =>
    match Json.read (String.ofList (Text.trim text.toList)) with
    | .ok .null => .found entries
    | .ok documents => .found (entries ++ [(.text "documents", documents)])
    | .error (.accident .tooDeep) => .broken .tooDeep
    | .error _ =>
      objection "error parsing value for field \"documents\" from source \"SecretsSettingsSource\""

/-- The search in a directory.  Documents that are listed beside the direction come first. -/
def search (d : Directory) (home : String) : Search := fun given =>
  let entries := Search.undirected given
  match given.find? fun e => Value.sameKey e.1 secretsKey with
  | some (_, .text name) =>
    let p := Path.read name
    match d.find home p with
    | .missing | .blocked => .found entries
    | .nameTooLong => .broken .nameTooLong
    | .file _ => objection "secrets_dir must reference a directory, not a file"
    | .directory =>
      match d.secret? p with
      | some bytes =>
        if entries.any fun e => e.1.shown.toList.flatMap Text.lower == "documents".toList
        then .found entries
        else readSecret entries bytes
      | none => .found entries
  | _ => .found entries

/-! ## Surroundings -/

/-- The surroundings of a run in a directory. -/
def surroundings (d : Directory) (home : String) (servers : Servers := Web.unreachable) :
    Surroundings where
  home := home
  find := d.find home
  servers := servers
  yaml := Yaml.read
  search := d.search home
  marks := Console.unmarked

end Directory
end TypeFiles
