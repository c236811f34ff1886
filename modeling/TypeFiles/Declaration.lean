/-
# Declarations

The generated code is a tree of declarations.

| variant | holds | becomes a file |
| --- | --- | --- |
| struct, protocol | members | yes |
| enum with a value case | cases and nested declarations | yes |
| enum without one | nested declarations | no: it is a namespace, its members are looked at |
| remark around a declaration | that declaration | no: the declaration below is looked at |
| any other | | no: it is dropped |

An enum is told from a namespace by its members alone: it has a value case exactly if one of its
members *is* a case.  A case under a remark is not a direct member, and does not count.
-/

import TypeFiles.Value

namespace TypeFiles

/-- A field of a struct, a parameter of a function, or a variable that stands alone. -/
structure Variable where
  name : String
  typeName : Option String
  initial : Option String
  isOptional : Bool
  deriving DecidableEq, Repr

/-- A case of an enum: plain, with a raw value, or with a payload of another type. -/
structure EnumCase where
  name : String
  rawValue : Option String
  associatedValue : Option String
  deriving DecidableEq, Repr

/-- What a wrapper says about the declaration it stands around, without changing its shape. -/
inductive Remark where
  | bare
  | comment (text : Value)
  | deprecation (message renamed : Option String)

/-- A node of the declaration tree. -/
inductive Declaration where
  | unspecified
  | case (c : EnumCase)
  | stored (v : Variable)
  | typeAlias (name existingType : String)
  | function (name : String) (parameters : List Variable) (returnType : Option String)
  | struct (name : String) (members : List Declaration) (conformances : List String)
      (access : Option String)
  | enum (name : String) (members : List Declaration) (conformances : List String)
      (access : Option String)
  | protocol (name : String) (members : List Declaration) (conformances : List String)
      (access : Option String)
  | extension (onType : String) (members : List Declaration) (conformances : List String)
  | annotated (remark : Remark) (declaration : Declaration)
  deriving Inhabited

/-- The variants of what a generated file or a message can be about. -/
inductive Kind where
  | declaration
  | enumCase
  | stored
  | typeAlias
  | function
  | struct
  | enum
  | protocol
  | extension
  | annotated
  | commentable
  | deprecated
  | expression
  deriving DecidableEq, Repr

namespace Kind

/-- The title of a kind, as a plan lists it. -/
def title : Kind → String
  | .declaration => "Declaration"
  | .enumCase => "EnumCase"
  | .stored => "Variable"
  | .typeAlias => "TypeAlias"
  | .function => "Function"
  | .struct => "Struct"
  | .enum => "Enum"
  | .protocol => "Protocol"
  | .extension => "Extension"
  | .annotated => "AnnotatedDeclaration"
  | .commentable => "Commentable"
  | .deprecated => "Deprecated"
  | .expression => "Expression"

/-- The word for a kind inside a message. -/
def word (k : Kind) : String := k.title.map Char.toLower

end Kind

/-- The kind of a remark. -/
def Remark.kind : Remark → Kind
  | .bare => .annotated
  | .comment _ => .commentable
  | .deprecation _ _ => .deprecated

namespace Declaration

/-- The access modifier of a declaration that says nothing else. -/
def defaultAccess : Option String := some "public"

/-- An enum with the default access. -/
def namespaceOf (name : String) (members : List Declaration) : Declaration :=
  .enum name members [] defaultAccess

/-- The kind of a declaration. -/
def kind : Declaration → Kind
  | .unspecified => .declaration
  | .case _ => .enumCase
  | .stored _ => .stored
  | .typeAlias _ _ => .typeAlias
  | .function _ _ _ => .function
  | .struct _ _ _ _ => .struct
  | .enum _ _ _ _ => .enum
  | .protocol _ _ _ _ => .protocol
  | .extension _ _ _ => .extension
  | .annotated r _ => r.kind

/-- The name of a declaration; an extension and an unspecified declaration have none, and a remark
does not lend the name of what it stands around. -/
def name? : Declaration → Option String
  | .case c => some c.name
  | .stored v => some v.name
  | .typeAlias name _ => some name
  | .function name _ _ => some name
  | .struct name _ _ _ => some name
  | .enum name _ _ _ => some name
  | .protocol name _ _ _ => some name
  | .unspecified | .extension _ _ _ | .annotated _ _ => none

/-- The case that a declaration is, if it is one. -/
def case? : Declaration → Option EnumCase
  | .case c => some c
  | _ => none

/-- The value cases among the members of an enum. -/
def cases (members : List Declaration) : List EnumCase := members.filterMap case?

/-- Whether one of the members of an enum is a value case. -/
def hasCases (members : List Declaration) : Bool := members.any fun m => m.case?.isSome

/-- Whether a declaration is an enum used only as a grouping scope. -/
def isNamespace : Declaration → Bool
  | .enum _ members _ _ => !hasCases members
  | _ => false

end Declaration

/-- What a code block holds: a declaration, or an expression that stands alone.  An expression can
come under remarks, outermost first, when the remarks of its unit are put back. -/
inductive Item where
  | declaration (d : Declaration)
  | expression (remarks : List Remark) (source : String)

namespace Item

/-- An item under one more remark. -/
def annotate (r : Remark) : Item → Item
  | .declaration d => .declaration (.annotated r d)
  | .expression remarks source => .expression (r :: remarks) source

/-- The kind of an item, a remark counting as its own kind. -/
def kind : Item → Kind
  | .declaration d => d.kind
  | .expression [] _ => .expression
  | .expression (r :: _) _ => r.kind

end Item

/-- The content of a generated file, with a comment above it. -/
structure Block where
  item : Item
  comment : Option String

end TypeFiles
