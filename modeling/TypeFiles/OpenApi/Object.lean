/-
# The objects around the schemas

Beside its schemas a document has paths, servers, responses and more.  Nothing is generated from
them, but a document is valid only if each of them is.  Every kind of object is a list of fields,
and a field says what it may hold, whether it must be there and whether it may be null.  Other
fields are allowed.
-/

import TypeFiles.OpenApi.SchemaObject

namespace TypeFiles
namespace OpenApi

/-- The kinds of objects. -/
inductive Kind where
  | information
  | contact
  | license
  | server
  | serverVariable
  | documentation
  | tag
  | pathItem
  | operation
  | parameter
  | header
  | requestBody
  | mediaType
  | encoding
  | response
  | link
  | sample
  | securityScheme
  | flows
  | flow
  deriving DecidableEq, Repr

/-- What a field of an object may hold. -/
inductive Content where
  | anything
  | text
  | truth
  /-- One of some texts. -/
  | word (words : List String)
  | schema
  | object (k : Kind)
  | list (c : Content)
  /-- A list with at least one item. -/
  | someOf (c : Content)
  | table (c : Content)
  /-- A reference, or the content itself. -/
  | orReference (c : Content)
  deriving DecidableEq, Repr

/-- A field of an object. -/
structure ObjectField where
  name : String
  content : Content
  /-- It must be there. -/
  isNeeded : Bool
  acceptsNull : Bool
  /-- Another name that it may have instead. -/
  otherName : Option String
  deriving DecidableEq, Repr

namespace ObjectField

/-- A field that may be left out or null. -/
def optional (name : String) (content : Content) : ObjectField := ⟨name, content, false, true, none⟩

/-- A field that must be there. -/
def needed (name : String) (content : Content) : ObjectField := ⟨name, content, true, false, none⟩

/-- A field that may be left out. -/
def preset (name : String) (content : Content) : ObjectField := ⟨name, content, false, false, none⟩

/-- A field with another name that it may have instead. -/
def orNamed (f : ObjectField) (name : String) : ObjectField := { f with otherName := some name }

end ObjectField

open ObjectField

/-- Fields that may be left out or null and hold texts. -/
def optionalTexts (names : List String) : List ObjectField := names.map (optional · .text)

/-- A mapping of objects or references. -/
def referenceTable (k : Kind) : Content := .table (.orReference (.object k))

/-- A mapping of addresses to what can be called there. -/
def pathTable : Content := .table (.object .pathItem)

/-- A mapping of names to calls that the server makes. -/
def callbackTable : Content := .table (.orReference pathTable)

/-- A list of what a call needs to be allowed: one way of several is enough. -/
def security : Content := .list (.table (.list .text))

/-- The places that a parameter can stand in. -/
def parameterPlaces : List String := ["query", "header", "path", "cookie"]

/-- The fields that parameters and headers have in common. -/
def parameterFields : List ObjectField := [
  optional "description" .text, preset "required" .truth, preset "deprecated" .truth,
  preset "allowEmptyValue" .truth, optional "style" .text, preset "explode" .truth,
  preset "allowReserved" .truth, (optional "schema" .schema).orNamed "param_schema",
  optional "example" .anything, optional "examples" (referenceTable .sample),
  optional "content" (.table (.object .mediaType))]

/-- The methods of a path. -/
def methods : List String :=
  ["get", "put", "post", "delete", "options", "head", "patch", "trace"]

/-- The fields of an object. -/
def fields (version : Version) : Kind → List ObjectField
  | .information =>
    [needed "title" .text, needed "version" .text, optional "contact" (.object .contact),
      optional "license" (.object .license)] ++
    optionalTexts ["description", "termsOfService"] ++
    if version = .v31 then optionalTexts ["summary"] else []
  | .contact => optionalTexts ["name", "url", "email"]
  | .license =>
    needed "name" .text :: optionalTexts (if version = .v31 then ["url", "identifier"] else ["url"])
  | .server =>
    [needed "url" .text, optional "description" .text,
      optional "variables" (.table (.object .serverVariable))]
  | .serverVariable =>
    [needed "default" .text, optional "description" .text,
      optional "enum" (if version = .v31 then .someOf .text else .list .text)]
  | .documentation => [needed "url" .text, optional "description" .text]
  | .tag =>
    [needed "name" .text, optional "description" .text,
      optional "externalDocs" (.object .documentation)]
  | .pathItem =>
    [(optional "$ref" .text).orNamed "ref", optional "servers" (.list (.object .server)),
      optional "parameters" (.list (.orReference (.object .parameter)))] ++
    optionalTexts ["summary", "description"] ++ methods.map (optional · (.object .operation))
  | .operation =>
    optionalTexts ["summary", "description", "operationId"] ++
    [optional "tags" (.list .text), optional "externalDocs" (.object .documentation),
      optional "parameters" (.list (.orReference (.object .parameter))),
      optional "requestBody" (.orReference (.object .requestBody)),
      optional "callbacks" callbackTable, preset "deprecated" .truth,
      optional "security" security, optional "servers" (.list (.object .server)),
      match version with
      | .v30 => needed "responses" (referenceTable .response)
      | .v31 => optional "responses" (referenceTable .response)]
  | .parameter =>
    [needed "name" .text, (needed "in" (.word parameterPlaces)).orNamed "param_in"] ++
    parameterFields
  | .header =>
    [preset "name" (.word [""]), (preset "in" (.word ["header"])).orNamed "param_in"] ++
    parameterFields
  | .requestBody =>
    [optional "description" .text, needed "content" (.table (.object .mediaType)),
      preset "required" .truth]
  | .mediaType =>
    [(optional "schema" .schema).orNamed "media_type_schema", optional "example" .anything,
      optional "examples" (referenceTable .sample),
      optional "encoding" (.table (.object .encoding))]
  | .encoding =>
    optionalTexts ["contentType", "style"] ++
    [optional "headers" (referenceTable .header), preset "explode" .truth,
      preset "allowReserved" .truth]
  | .response =>
    [needed "description" .text, optional "headers" (referenceTable .header),
      optional "content" (.table (.object .mediaType)), optional "links" (referenceTable .link)]
  | .link =>
    optionalTexts ["operationRef", "operationId", "description"] ++
    [optional "parameters" (.table .anything), optional "requestBody" .anything,
      optional "server" (.object .server)]
  | .sample =>
    optionalTexts ["summary", "description", "externalValue"] ++ [optional "value" .anything]
  | .securityScheme =>
    needed "type" .text ::
    (optional "in" .text).orNamed "security_scheme_in" :: optional "flows" (.object .flows) ::
    optionalTexts ["description", "name", "scheme", "bearerFormat", "openIdConnectUrl"]
  | .flows =>
    ["implicit", "password", "clientCredentials", "authorizationCode"].map
      (optional · (.object .flow))
  | .flow =>
    needed "scopes" (.table .text) ::
    optionalTexts ["authorizationUrl", "tokenUrl", "refreshUrl"]

/-- The field that a key of an object means, given all keys of the object: a field under its other
name is overlooked if it is there under its own. -/
def objectField? (fields : List ObjectField) (keys : List String) (key : String) :
    Option ObjectField :=
  fields.find? fun f =>
    f.name == key || (f.otherName == some key && !keys.contains f.name)

/-- Whether all fields are there that must be. -/
def hasNeeded (fields : List ObjectField) (keys : List String) : Bool :=
  fields.all fun f =>
    !f.isNeeded || keys.contains f.name || f.otherName.any keys.contains

mutual

/-- Whether a value is accepted as a content. -/
def accepts (version : Version) : Content → Value → Bool
  | .anything, _ => true
  | .text, v => v.asText?.isSome
  | .truth, v => v.asTruth.toBool
  | .word words, v => v.asText?.any words.contains
  | .schema, v => (readField version .schema v).isSome
  | .object k, .mapping entries =>
    let keys := keysOf entries
    hasNeeded (fields version k) keys && acceptsFields version (fields version k) keys entries
  | .list c, .list items => acceptsItems version c items
  | .list c, .tuple items => acceptsItems version c items
  | .list c, .set items => acceptsItems version c items
  | .someOf c, .list items => !items.isEmpty && acceptsItems version c items
  | .someOf c, .tuple items => !items.isEmpty && acceptsItems version c items
  | .someOf c, .set items => !items.isEmpty && acceptsItems version c items
  | .table c, .mapping entries => acceptsTable version c entries
  | .orReference (.object k), .mapping entries =>
    let keys := keysOf entries
    (reference? version entries).isSome ||
      hasNeeded (fields version k) keys && acceptsFields version (fields version k) keys entries
  | .orReference (.table c), .mapping entries =>
    (reference? version entries).isSome || acceptsTable version c entries
  | _, _ => false

/-- Whether all entries of an object with the given keys are accepted. -/
def acceptsFields (version : Version) (fields : List ObjectField) (keys : List String) :
    List (Value × Value) → Bool
  | [] => true
  | (.text key, v) :: rest =>
    (match objectField? fields keys key with
      | some f => (f.acceptsNull && v matches .null) || accepts version f.content v
      | none => true) && acceptsFields version fields keys rest
  | _ => false

/-- Whether all items of a list are accepted as a content. -/
def acceptsItems (version : Version) (c : Content) : List Value → Bool
  | [] => true
  | v :: rest => accepts version c v && acceptsItems version c rest

/-- Whether all values of a mapping are accepted as a content; its keys have to be texts. -/
def acceptsTable (version : Version) (c : Content) : List (Value × Value) → Bool
  | [] => true
  | (k, v) :: rest => k.asText?.isSome && accepts version c v && acceptsTable version c rest

end

/-- Whether all entries of an object are accepted, and those are there that must be. -/
def acceptsObject (version : Version) (fields : List ObjectField)
    (entries : List (Value × Value)) : Bool :=
  hasNeeded fields (keysOf entries) && acceptsFields version fields (keysOf entries) entries

end OpenApi
end TypeFiles
