/-
# Deriving declarations from schemas

The reusable schemas of a document become declarations inside two namespaces:

    Components
      Schemas
        struct Pet
        enum Status (available, sold)
        …

What a schema becomes depends on the first of these rules that fits:

| schema | becomes |
| --- | --- |
| has a reference | an alias of the schema referred to |
| has alternatives in `oneOf`, or else in `anyOf` | an enum with a case per alternative |
| has values and is a text or of no type | an enum with a case per value, null left out |
| is an object, or has properties | a struct with a variable per property |
| any other | an alias of its type |

A deprecated schema gets a deprecation around its declaration, a described one a comment around
that.  A reference must name another schema of the same document.
-/

import TypeFiles.Declaration
import TypeFiles.Failure
import TypeFiles.Journal
import TypeFiles.Name
import TypeFiles.Schema

namespace TypeFiles

/-- Which of the rules fits a schema, and what it works on. -/
inductive Shape where
  | reference
  | union (alternatives : List Schema)
  | values (vs : List Value)
  | object
  | alias

namespace Schema

/-- The alternatives of a schema. -/
def alternatives (s : Schema) : List Schema := if s.oneOf.isEmpty then s.anyOf else s.oneOf

/-- The rule that fits a schema. -/
def shape (s : Schema) : Shape :=
  if s.target.isSome then .reference
  else if !s.alternatives.isEmpty then .union s.alternatives
  else if !s.values.isEmpty && (s.primaryType == none || s.primaryType == some "string") then
    .values s.values
  else if s.primaryType == some "object" || !s.properties.isEmpty then .object
  else .alias

end Schema

namespace Derivation

/-- What every reference to a schema of the same document starts with. -/
def localFront : String := "#/components/schemas/"

/-- The failure of a reference into another document. -/
def externalReference (ref context : String) : Failure :=
  .problem (.unsupported ("external reference '" ++ ref ++ "'")
    (some "Bundle the document into a single file first") (some context))

/-- The failure of a reference to another part of the document than its schemas. -/
def foreignReference (ref context : String) : Failure :=
  .problem (.unsupported ("reference outside components.schemas '" ++ ref ++ "'") none
    (some context))

/-- The failure of a reference to a schema that is not there. -/
def missingSchema (key context : String) : Failure :=
  .problem (.derivation ("Referenced schema '" ++ key ++ "' not found in components.schemas")
    (some context) none)

/-- The key that a reference to a schema of the document names. -/
def localKey? (ref : String) : Option String :=
  if localFront.toList.isPrefixOf ref.toList then
    some (String.ofList (ref.toList.drop localFront.length))
  else none

/-- The name of the type that a reference refers to, given the keys of the document. -/
def resolve (keys : List String) (ref context : String) : Except Failure String :=
  if ref.toList.head? != some '#' then .error (externalReference ref context)
  else
    match localKey? ref with
    | none => .error (foreignReference ref context)
    | some key =>
      if keys.contains key then .ok (Name.forType key) else .error (missingSchema key context)

/-- The type of a text in a given format. -/
def textType (format : Option String) : String :=
  match format with
  | some "date-time" => "datetime"
  | some "date" => "date"
  | some "uuid" => "UUID"
  | some "binary" => "bytes"
  | _ => "str"

/-- The type of a value that is no array, by its declared type. -/
def simpleType (primary format : Option String) : String :=
  match primary with
  | some "object" => "dict[str, Any]"
  | some "integer" => "int"
  | some "number" => "float"
  | some "boolean" => "bool"
  | some "string" => textType format
  | _ => "Any"

mutual

/-- The type that a schema is referred to by.  Arrays are lists of the type of their items. -/
def typeName (keys : List String) (context : String) : Schema → Except Failure String
  | ⟨target, types, _, _, _, items, _, _, format, _, _⟩ =>
    match target with
    | some (.pointer ref) => resolve keys ref context
    | some .unreadable => .error (.accident .unreadableReference)
    | none =>
      let primary := types.find? fun t => t != "null"
      if primary = some "array" then
        (itemType keys context items).map fun inner => "list[" ++ inner ++ "]"
      else .ok (simpleType primary format)

/-- The type of the items of an array, anything if the array does not say. -/
def itemType (keys : List String) (context : String) : Option Schema → Except Failure String
  | none => .ok "Any"
  | some s => typeName keys context s

end

/-- The variable of a struct for one property. -/
def variableOf (keys : List String) (context : String) (required : List String)
    (property : String × Schema) : Except Failure Variable := do
  let some name := Name.forMember? property.1 | throw (.accident .emptyName)
  let type ← typeName keys (context ++ "." ++ property.1) property.2
  return ⟨name, some type, none, !required.contains property.1⟩

/-- The case of a union for one alternative, given its number. -/
def alternativeCase (keys : List String) (context : String) (alternative : Schema × Nat) :
    Except Failure EnumCase := do
  let payload ← typeName keys context alternative.1
  let name :=
    if alternative.1.target.isSome then Name.forCase payload
    else "case" ++ toString (alternative.2 + 1)
  return ⟨name, none, some payload⟩

/-- The case of an enumeration for one value; null has none. -/
def valueCase? : Value → Option EnumCase
  | .null => none
  | v => some ⟨Name.forCase v.shown, some v.shown, none⟩

/-- The declaration of a schema without the remarks around it. -/
def body (keys : List String) (name context : String) (s : Schema) : Except Failure Declaration :=
  match s.shape with
  | .reference | .alias => (typeName keys context s).map (.typeAlias name)
  | .union alternatives => do
    let cases ← alternatives.zipIdx.mapM (alternativeCase keys context)
    return .enum name (cases.map .case) [] Declaration.defaultAccess
  | .values vs =>
    if vs.all Value.hasText then
      .ok (.enum name ((vs.filterMap valueCase?).map .case) ["str"] Declaration.defaultAccess)
    else .error (.accident (.tooManyDigits none))
  | .object => do
    let fields ← s.properties.mapM (variableOf keys context s.required)
    return .struct name (fields.map .stored) ["BaseModel"] Declaration.defaultAccess

/-- Put what a schema says about itself around its declaration, the comment outermost. -/
def remarked (s : Schema) (d : Declaration) : Declaration :=
  let d := if s.deprecated then .annotated (.deprecation none none) d else d
  if s.description.isTruthy then .annotated (.comment s.description) d else d

/-- The declaration of the schema under a key. -/
def declaration (keys : List String) (key : String) (s : Schema) : Except Failure Declaration :=
  (body keys (Name.forType key) key s).map (remarked s)

/-- The log line on a schema that becomes an alias. -/
def aliasLine (context : String) : String := "Translating " ++ context ++ " to a type alias"

end Derivation

/-- A step of a run that reports to the journal and may fail; what it has reported stays. -/
abbrev Attempt := ExceptT Failure Reporting

/-- Derives declarations, and remembers those of the document it was given last: references are
looked up among them. -/
structure Deriver where
  known : List (String × Schema)
  deriving Inhabited

namespace Deriver

/-- A deriver that has not seen a document. -/
def fresh : Deriver := ⟨[]⟩

/-- The keys that a reference may name. -/
def keys (t : Deriver) : List String := t.known.map (·.1)

/-- The type that a schema is referred to by. -/
def typeName (t : Deriver) (context : String) (s : Schema) : Except Failure String :=
  Derivation.typeName t.keys context s

/-- Derive the declaration of the schema under a key.  That it becomes an alias is logged before its
type is looked at, so also if that fails. -/
def declaration (t : Deriver) (key : String) (s : Schema) : Attempt Declaration := do
  if s.shape matches .alias then
    Reporting.write .debug .derivation (Derivation.aliasLine key)
  match Derivation.declaration t.keys key s with
  | .ok d => return d
  | .error e => throw e

/-- The namespaces around the declarations of a document. -/
def componentsBlock (members : List Declaration) : Block :=
  ⟨.declaration (Declaration.namespaceOf "Components" [Declaration.namespaceOf "Schemas" members]),
    none⟩

/-- Derive the declarations of the schemas that the deriver remembers, in document order. -/
def components (t : Deriver) : Attempt Block := do
  let members ← t.known.mapM fun (key, s) => t.declaration key s
  return componentsBlock members

/-- Derive the declarations of a document.  The deriver remembers its schemas from then on, whether
they have declarations or not. -/
def derive (_ : Deriver) (schemas : List (String × Schema)) :
    Reporting (Except Failure Block × Deriver) := do
  let t : Deriver := ⟨schemas⟩
  return (← t.components.run, t)

end Deriver

end TypeFiles
