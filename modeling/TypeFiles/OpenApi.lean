/-
# OpenAPI documents

A document is an object with a version, a title and reusable schemas.  Beside them it describes the
calls of a service; nothing is made of that part, but it has to be valid.

| place | version 3.0 | version 3.1 |
| --- | --- | --- |
| entry of `components.schemas` | reference or schema | schema |
| `paths` | must be there | may be left out |
| `webhooks`, `jsonSchemaDialect`, `components.pathItems` | anything | checked |
-/

import TypeFiles.Failure
import TypeFiles.OpenApi.Object

namespace TypeFiles
namespace OpenApi

open ObjectField

/-- A document: its version, its title and version number, and its reusable schemas in the order
they are written. -/
structure Document where
  openapi : String
  title : String
  version : String
  schemas : List (String × Schema)
  deriving Inhabited

/-- The title and the version number of a document. -/
def readInfo : Value → Option (String × String)
  | .mapping entries => do
    let object : Value := .mapping entries
    return (← (← object.get? "title").asText?, ← (← object.get? "version").asText?)
  | _ => none

/-- The fields of a document, without its version and its components. -/
def documentFields (version : Version) : List ObjectField :=
  [needed "info" (.object .information), preset "servers" (.list (.object .server)),
    optional "security" security, optional "tags" (.list (.object .tag)),
    optional "externalDocs" (.object .documentation)] ++
  match version with
  | .v30 => [needed "paths" pathTable]
  | .v31 =>
    [optional "paths" pathTable, optional "webhooks" (referenceTable .pathItem),
      optional "jsonSchemaDialect" .text]

/-- The fields of the components of a document, without its schemas. -/
def componentFields (version : Version) : List ObjectField :=
  [optional "responses" (referenceTable .response),
    optional "parameters" (referenceTable .parameter),
    optional "examples" (referenceTable .sample),
    optional "requestBodies" (referenceTable .requestBody),
    optional "headers" (referenceTable .header),
    optional "securitySchemes" (referenceTable .securityScheme),
    optional "links" (referenceTable .link), optional "callbacks" callbackTable] ++
  match version with
  | .v30 => []
  | .v31 => [optional "pathItems" (referenceTable .pathItem)]

/-- The reusable schemas in the components of a document. -/
def readComponents (version : Version) : Option Value → Option (List (String × Schema))
  | none | some .null => some []
  | some (.mapping entries) => do
    guard (acceptsObject version (componentFields version) entries)
    match (Value.mapping entries).get? "schemas" with
    | none | some .null => return []
    | some (.mapping schemas) => return (← readTable version (version == .v31) schemas).result
    | some _ => none
  | some _ => none

/-- Read a document; `none` if it is not valid. -/
def read : Value → Option Document
  | .mapping entries => do
    let object : Value := .mapping entries
    let .text openapi ← object.get? "openapi" | none
    let version ← Version.ofText? openapi
    guard (acceptsObject version (documentFields version) entries)
    let (title, number) ← readInfo (← object.get? "info")
    return ⟨openapi, title, number, ← readComponents version (object.get? "components")⟩
  | _ => none

/-- The document that a value is; `source` names it in the problem otherwise. -/
def validate (source : String) (v : Value) : Except Failure Document :=
  match v with
  | .mapping _ =>
    match read v with
    | some document => .ok document
    | none => .error (.problem (.validation source [.notValid]))
  | _ => .error (.problem (.validation source [.text "document root must be a mapping"]))

end OpenApi
end TypeFiles
