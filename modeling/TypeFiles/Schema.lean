/-
# Schemas

The part of a schema that decides what is generated for it.  Everything is optional, and a part
that is missing is the same as an empty one; only a reference is told from no reference.

Schemas come from two sources.  A validated document yields one schema for every entry of its
components.  A bare mapping of attributes (`ofAttributes`) is taken as it is, nothing checked.
Both collect the attributes they find as *parts*, from which `ofParts` builds the schema.
-/

import TypeFiles.Value

namespace TypeFiles

/-- What a schema refers to: the text of a reference, or something that is no text. -/
inductive Target where
  | pointer (text : String)
  | unreadable
  deriving DecidableEq, Repr

/-- A schema of a document. -/
structure Schema where
  /-- The schema that stands in for this one. -/
  target : Option Target
  /-- The declared types, `null` among them. -/
  types : List String
  /-- The values of an enumeration. -/
  values : List Value
  properties : List (String × Schema)
  /-- The names of the properties that must be there. -/
  required : List String
  /-- The schema of the items of an array. -/
  items : Option Schema
  oneOf : List Schema
  anyOf : List Schema
  /-- What a text stands for: a date, a point in time, … -/
  format : Option String
  description : Value
  deprecated : Bool
  deriving Inhabited

namespace Schema

/-- A schema that says nothing. -/
def empty : Schema :=
  { target := none, types := [], values := [], properties := [], required := [], items := none,
    oneOf := [], anyOf := [], format := none, description := .null, deprecated := false }

/-- A part of a schema, as it was found under an attribute name. -/
inductive Part where
  | value (v : Value)
  | schema (s : Schema)
  | schemas (list : List Schema)
  | table (entries : List (String × Schema))

/-- The attributes that have been found, with their names. -/
abbrev Parts := List (String × Part)

namespace Parts

/-- The plain value under a name, null if there is none. -/
def value (parts : Parts) (name : String) : Value :=
  match parts.lookup name with
  | some (.value v) => v
  | _ => .null

/-- The list of schemas under a name. -/
def schemas (parts : Parts) (name : String) : List Schema :=
  match parts.lookup name with
  | some (.schemas list) => list
  | _ => []

end Parts

/-- What a value under the name of a reference refers to. -/
def targetOf : Value → Option Target
  | .null => none
  | .text s => some (.pointer s)
  | _ => some .unreadable

/-- The items of a value that is a sequence. -/
def itemsOf : Value → List Value
  | .list items | .tuple items | .set items => items
  | _ => []

/-- The declared types in a value: one of them or a list. -/
def typesOf : Value → List String
  | .null => []
  | .list items => items.map Value.shown
  | .tuple items => items.map Value.shown
  | .set items => items.map Value.shown
  | v => [v.shown]

/-- The text that a value is. -/
def textOf? : Value → Option String
  | .text s => some s
  | _ => none

/-- The schema that has the given parts. -/
def ofParts (parts : Parts) : Schema :=
  { target := targetOf (parts.value "ref")
    types := typesOf (parts.value "type")
    values := itemsOf (parts.value "enum")
    properties := match parts.lookup "properties" with
      | some (.table entries) => entries
      | _ => []
    required := (itemsOf (parts.value "required")).filterMap textOf?
    items := match parts.lookup "items" with
      | some (.schema s) => some s
      | _ => none
    oneOf := parts.schemas "oneOf"
    anyOf := parts.schemas "anyOf"
    format := textOf? (parts.value "schema_format")
    description := parts.value "description"
    deprecated := (parts.value "deprecated").isTruthy }

mutual

/-- The schema with the attributes of a mapping; any other value has none. -/
def ofAttributes : Value → Schema
  | .mapping entries => ofParts (attributeParts entries)
  | _ => empty

/-- The parts of a schema found in the entries of a mapping. -/
def attributeParts : List (Value × Value) → Parts
  | [] => []
  | (key, v) :: rest => (key.shown, attributePart key.shown v) :: attributeParts rest

/-- The part of a schema that a value is under an attribute name. -/
def attributePart (name : String) : Value → Part
  | .null => .value .null
  | .mapping entries =>
    if name = "properties" then .table (attributeTable entries)
    else if name = "items" then .schema (ofParts (attributeParts entries))
    else .value (.mapping entries)
  | .list items =>
    if name = "oneOf" ∨ name = "anyOf" then .schemas (attributeList items)
    else .value (.list items)
  | v => if name = "items" then .schema empty else .value v

/-- The named schemas of a mapping. -/
def attributeTable : List (Value × Value) → List (String × Schema)
  | [] => []
  | (key, v) :: rest => (key.shown, ofAttributes v) :: attributeTable rest

/-- The schemas of a list. -/
def attributeList : List Value → List Schema
  | [] => []
  | v :: rest => ofAttributes v :: attributeList rest

end

/-- The first declared type other than `null`. -/
def primaryType (s : Schema) : Option String := s.types.find? fun t => t != "null"

end Schema

end TypeFiles
