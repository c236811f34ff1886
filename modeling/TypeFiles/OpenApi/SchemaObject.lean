/-
# Reading schemas

Where a schema is expected, most places also take a *reference* to another one.  An object there is
read both ways, and of two readings that are possible the one that knows more of its keys is taken;
the reference wins a tie.

A reference knows its `$ref`, in version 3.1 also `summary` and `description`; a schema knows the
fields of its version, those of the schemas inside it included.
-/

import TypeFiles.OpenApi.Field
import TypeFiles.Schema

namespace TypeFiles
namespace OpenApi

/-- A part of a document that has been read, and how many of its keys were known. -/
structure Reading (α : Type) where
  known : Nat
  result : α

/-- The value under `$ref`, or under `ref` if there is no `$ref`. -/
def referenceValue? (entries : List (Value × Value)) : Option Value :=
  let object : Value := .mapping entries
  (object.get? "$ref") <|> object.get? "ref"

/-- What a reference says beside its target, as parts of a schema. -/
def referenceParts (target : String) (entries : List (Value × Value)) : Schema.Parts :=
  let object : Value := .mapping entries
  [("ref", .value (.text target)),
    ("description", .value ((object.get? "description").getD .null)),
    ("deprecated", .value ((object.get? "deprecated").getD .null))]

/-- Read an object as a reference. -/
def reference? (version : Version) (entries : List (Value × Value)) : Option (Reading Schema) := do
  let target ← (← referenceValue? entries).asText?
  guard (hasTextKeys entries)
  let schema := Schema.ofParts (referenceParts target entries)
  match version with
  | .v30 => return ⟨1, schema⟩
  | .v31 =>
    let known ←
      countFields [("summary", isOptionalText), ("description", isOptionalText)] [] entries
    return ⟨known + 1, schema⟩

/-- The schema with the parts that were read. -/
def schemaOf (r : Reading Schema.Parts) : Reading Schema := ⟨r.known, Schema.ofParts r.result⟩

/-- Of the two ways to read an object, the one that knows more of its keys. -/
def better (reference schema : Option (Reading Schema)) : Option (Reading Schema) :=
  match reference, schema with
  | some r, some s => some (if r.known < s.known then s else r)
  | some r, none => some r
  | none, s => s

/-- The keys of an object. -/
def keysOf (entries : List (Value × Value)) : List String := entries.map fun entry => entry.1.shown

/-- A reading of one schema as a part of another. -/
def asPart (r : Reading Schema) : Reading Schema.Part := ⟨r.known, .schema r.result⟩

mutual

/-- Read the entries of a schema object; `keys` are all keys of the object. -/
def readEntries (version : Version) (keys : List String) :
    List (Value × Value) → Option (Reading Schema.Parts)
  | [] => some ⟨0, []⟩
  | (.text key, v) :: rest => do
    let others ← readEntries version keys rest
    match fieldOf? version keys key with
    | some (name, form) =>
      let part ← readField version form v
      return ⟨part.known + others.known + 1, (attributeName name, part.result) :: others.result⟩
    | none =>
      return if key == "ref" then ⟨others.known, (key, .value v) :: others.result⟩ else others
  | _ => none

/-- Read the value of a field of the given form. -/
def readField (version : Version) (form : Form) : Value → Option (Reading Schema.Part)
  | .null => some ⟨0, .value .null⟩
  | .mapping entries =>
    match form with
    | .schema | .truthOrSchema =>
      let keys := keysOf entries
      (better (reference? version entries)
        ((readEntries version keys entries).map schemaOf)).map asPart
    | .table => (readTable version false entries).map fun r => ⟨r.known, .table r.result⟩
    | .discriminator => (countDiscriminator entries).map fun n => ⟨n, .value .null⟩
    | .xml => (countXml entries).map fun n => ⟨n, .value .null⟩
    | .documentation => (countDocumentation entries).map fun n => ⟨n, .value .null⟩
    | _ => (plain? version form (.mapping entries)).map fun v => ⟨0, .value v⟩
  | .list items =>
    if form = .schemas then (readList version items).map fun r => ⟨r.known, .schemas r.result⟩
    else (plain? version form (.list items)).map fun v => ⟨0, .value v⟩
  | .tuple items =>
    if form = .schemas then (readList version items).map fun r => ⟨r.known, .schemas r.result⟩
    else (plain? version form (.tuple items)).map fun v => ⟨0, .value v⟩
  | v => (plain? version form v).map fun v => ⟨0, .value v⟩

/-- Read the values of a mapping as named schemas; strictly, none of them may be a reference. -/
def readTable (version : Version) (strict : Bool) :
    List (Value × Value) → Option (Reading (List (String × Schema)))
  | [] => some ⟨0, []⟩
  | (key, .mapping entries) :: rest => do
    let name ← key.asText?
    let keys := keysOf entries
    let schema := (readEntries version keys entries).map schemaOf
    let first ← if strict then schema else better (reference? version entries) schema
    let others ← readTable version strict rest
    return ⟨first.known + others.known, (name, first.result) :: others.result⟩
  | _ => none

/-- Read the items of a list as schemas or references. -/
def readList (version : Version) : List Value → Option (Reading (List Schema))
  | [] => some ⟨0, []⟩
  | .mapping entries :: rest => do
    let keys := keysOf entries
    let first ←
      better (reference? version entries) ((readEntries version keys entries).map schemaOf)
    let others ← readList version rest
    return ⟨first.known + others.known, first.result :: others.result⟩
  | _ => none

end

end OpenApi
end TypeFiles
