/-
# The fields of a schema object

The two versions of the format know different fields of a schema object, and give some of the
common ones different forms.  A field that a version does not know is allowed and means nothing.
Every field may be null.

| form | accepted |
| --- | --- |
| `text`, `truth`, `count`, `number`, `positive` | a value that is taken as one |
| `anything` | anything |
| `sequence`, `values` | a list; a list with at least one item |
| `texts` | a list of texts, with at least one item in version 3.0 |
| `dataType` | the name of a type; in version 3.1 also a list of them |
| `schema`, `schemas`, `table` | a schema or a reference; a list or a mapping of them |
| `truthOrSchema` | a truth value, a schema or a reference |
| `discriminator`, `xml`, `documentation` | an object of its own |
| `textLists` | a mapping of lists of texts |
-/

import TypeFiles.Coercion

namespace TypeFiles
namespace OpenApi

/-- The versions of the format. -/
inductive Version where
  | v30
  | v31
  deriving DecidableEq, Repr

/-- The version that a document declares. -/
def Version.ofText? (s : String) : Option Version :=
  if ["3.0.0", "3.0.1", "3.0.2", "3.0.3", "3.0.4"].contains s then some .v30
  else if ["3.1.0", "3.1.1", "3.1.2"].contains s then some .v31
  else none

/-- What a field of a schema object may hold. -/
inductive Form where
  | text
  | truth
  | count
  | number
  | positive
  | anything
  | sequence
  | values
  | texts
  | dataType
  | schema
  | schemas
  | table
  | truthOrSchema
  | discriminator
  | xml
  | documentation
  | textLists
  deriving DecidableEq, Repr

/-- The fields that both versions know, with the same form. -/
def commonFields : List (String × Form) := [
  ("title", .text), ("multipleOf", .positive), ("maximum", .number), ("minimum", .number),
  ("maxLength", .count), ("minLength", .count), ("pattern", .text), ("maxItems", .count),
  ("minItems", .count), ("uniqueItems", .truth), ("maxProperties", .count),
  ("minProperties", .count), ("required", .texts), ("enum", .values), ("type", .dataType),
  ("allOf", .schemas), ("oneOf", .schemas), ("anyOf", .schemas), ("not", .schema),
  ("items", .schema), ("properties", .table), ("additionalProperties", .truthOrSchema),
  ("description", .text), ("format", .text), ("default", .anything),
  ("discriminator", .discriminator), ("readOnly", .truth), ("writeOnly", .truth), ("xml", .xml),
  ("externalDocs", .documentation), ("example", .anything), ("deprecated", .truth)]

/-- The other fields of a version. -/
def ownFields : Version → List (String × Form)
  | .v30 => [("exclusiveMaximum", .truth), ("exclusiveMinimum", .truth), ("nullable", .truth)]
  | .v31 => [
    ("exclusiveMaximum", .number), ("exclusiveMinimum", .number), ("const", .anything),
    ("if", .schema), ("then", .schema), ("else", .schema), ("dependentSchemas", .table),
    ("prefixItems", .schemas), ("contains", .schema), ("patternProperties", .table),
    ("propertyNames", .schema), ("unevaluatedItems", .schema), ("unevaluatedProperties", .schema),
    ("maxContains", .count), ("minContains", .count), ("dependentRequired", .textLists),
    ("contentEncoding", .text), ("contentMediaType", .text), ("contentSchema", .schema),
    ("examples", .sequence)]

/-- The form of a field by its name. -/
def form? (version : Version) (name : String) : Option Form :=
  (commonFields.lookup name) <|> (ownFields version).lookup name

/-- The names that some fields may have instead of their own. -/
def otherNames : List (String × String) := [
  ("schema_format", "format"), ("schema_not", "not"), ("schema_if", "if"), ("schema_else", "else")]

/-- The name of the attribute that a field is kept under. -/
def attributeName (field : String) : String := if field == "format" then "schema_format" else field

/-- The field that a key of an object means, given all keys of the object: a field under another
name is overlooked if it is there under its own. -/
def fieldOf? (version : Version) (keys : List String) (key : String) : Option (String × Form) :=
  match otherNames.lookup key with
  | some name =>
    if keys.contains name then none else (form? version name).map fun form => (name, form)
  | none => (form? version key).map fun form => (key, form)

/-- Whether the keys of a mapping are texts. -/
def hasTextKeys (entries : List (Value × Value)) : Bool :=
  entries.all fun entry => entry.1 matches .text _

/-- Whether a value is null or taken as a text. -/
def isOptionalText (v : Value) : Bool := (v matches .null) || v.asText?.isSome

/-- Whether a value is taken as a truth value. -/
def isTruth (v : Value) : Bool := v.asTruth.toBool

/-- The number of the named fields that an object has, if each of them is accepted and those that
must be there are. -/
def countFields (fields : List (String × (Value → Bool))) (needed : List String)
    (entries : List (Value × Value)) : Option Nat :=
  let object : Value := .mapping entries
  let found := fields.filterMap fun (name, accepts) => (object.get? name).map accepts
  if hasTextKeys entries && found.all id && needed.all fun name => (object.get? name).isSome then
    some found.length
  else none

/-- Whether a value is a mapping of texts. -/
def isTextTable : Value → Bool
  | .mapping entries => entries.all fun (k, v) => k.asText?.isSome && v.asText?.isSome
  | _ => false

/-- The number of known fields of a discriminator. -/
def countDiscriminator (entries : List (Value × Value)) : Option Nat :=
  countFields [("propertyName", fun v => v.asText?.isSome),
    ("mapping", fun v => (v matches .null) || isTextTable v)] ["propertyName"] entries

/-- The number of known fields of what is said about the form of a schema in XML. -/
def countXml (entries : List (Value × Value)) : Option Nat :=
  countFields [("name", isOptionalText), ("namespace", isOptionalText), ("prefix", isOptionalText),
    ("attribute", isTruth), ("wrapped", isTruth)] [] entries

/-- The number of known fields of a link to further documentation. -/
def countDocumentation (entries : List (Value × Value)) : Option Nat :=
  countFields [("description", isOptionalText), ("url", fun v => v.asText?.isSome)] ["url"] entries

/-- The texts that a value is taken as a list of. -/
def asTexts? (v : Value) : Option (List String) :=
  v.asItems?.bind fun items => items.mapM Value.asText?

/-- The names of types in a version. -/
def dataTypes : Version → List String
  | .v30 => ["string", "number", "integer", "boolean", "array", "object"]
  | .v31 => ["string", "number", "integer", "boolean", "array", "object", "null"]

/-- Whether a value is the name of a type. -/
def isDataType (version : Version) : Value → Bool
  | .text s => (dataTypes version).contains s
  | _ => false

/-- A value that holds no schema, as a field of the given form takes it; `none` if it does not. -/
def plain? (version : Version) (form : Form) (v : Value) : Option Value :=
  match form with
  | .text => v.asText?.map .text
  | .truth | .truthOrSchema => v.asTruth.toOption.map .bool
  | .count => if (v.asWhole?.getD (-1)) < 0 then none else some v
  | .number => v.asNumber?.map .float
  | .positive => v.asNumber?.bind fun x => if x > 0 then some (.float x) else none
  | .anything => some v
  | .sequence => v.asItems?.map .list
  | .values => v.asItems?.bind fun items => if items.isEmpty then none else some (.list items)
  | .texts => (asTexts? v).bind fun texts =>
    if texts.isEmpty && version == .v30 then none else some (.list (texts.map .text))
  | .dataType =>
    if isDataType version v then some v
    else match version, v.asItems? with
      | .v31, some items => if items.all (isDataType version) then some (.list items) else none
      | _, _ => none
  | .schema | .schemas | .table | .discriminator | .xml | .documentation => none
  | .textLists =>
    match v with
    | .mapping entries =>
      if entries.all fun (k, v) => k.asText?.isSome && (asTexts? v).isSome then some v else none
    | _ => none

end OpenApi
end TypeFiles
