/-
# Failures

A run can end in four ways other than success.

* A *problem* is foreseen: a document that cannot be loaded, that is not valid or that uses what
  cannot be expressed, a configuration that is not there.  It has a message for the user.
* A *rejection* says which settings do not fit.
* An *accident* is what nothing on the way looks out for; it passes through to the caller.
* A run is *left* with an exit code from within a search for settings, past everything else.

The problems form a tree of categories; each is a special case of the one above it.
-/

import TypeFiles.Address.HostName
import TypeFiles.Calendar
import TypeFiles.Charset
import TypeFiles.Decimal.Digits
import TypeFiles.Rejection

namespace TypeFiles

/-- What a problem with a document was caused by.  A reader's or a server's own words are not
kept, only which of them it was. -/
inductive Cause where
  | malformedJson
  | malformedYaml
  | malformedToml
  | isDirectory
  | httpStatus
  | unreachable
  | tooManyRedirects
  | badRedirect
  | notValid
  | fileNotFound (path : String)
  | text (s : String)
  deriving DecidableEq, Repr

/-- A cause in words. -/
def Cause.message : Cause → String
  | .malformedJson => "<JSONDecodeError>"
  | .malformedYaml => "<YAMLError>"
  | .malformedToml => "<TOMLDecodeError>"
  | .isDirectory => "<IsADirectoryError>"
  | .httpStatus => "<HTTPStatusError>"
  | .unreachable => "<ConnectError>"
  | .tooManyRedirects => "<TooManyRedirects>"
  | .badRedirect => "<RemoteProtocolError>"
  | .notValid => "<ValidationError>"
  | .fileNotFound path => "File not found: " ++ path
  | .text s => s

/-- A foreseen problem. -/
inductive Problem where
  | general (message : String)
  | schema (message : String)
  | load (source : String) (cause : Option Cause)
  | validation (source : String) (errors : List Cause)
  | derivation (message : String) (context : Option String) (cause : Option Cause)
  | unsupported (feature : String) (suggestion context : Option String)
  | configuration (message : String) (path field : Option String)
  deriving DecidableEq, Repr

/-- The categories of problems. -/
inductive Category where
  | any
  | schema
  | load
  | validation
  | derivation
  | unsupported
  | configuration
  deriving DecidableEq, Repr

namespace Category

/-- The category that a category is a special case of. -/
def parent? : Category → Option Category
  | .any => none
  | .schema | .derivation | .configuration => some .any
  | .load | .validation => some .schema
  | .unsupported => some .derivation

/-- A category and all that it is a special case of, the most general one last. -/
def lineage (c : Category) : List Category :=
  c :: match c.parent? with
    | none => []
    | some p => p :: match p.parent? with
      | none => []
      | some g => [g]

end Category

namespace Problem

/-- The category of a problem. -/
def category : Problem → Category
  | .general _ => .any
  | .schema _ => .schema
  | .load _ _ => .load
  | .validation _ _ => .validation
  | .derivation _ _ _ => .derivation
  | .unsupported _ _ _ => .unsupported
  | .configuration _ _ _ => .configuration

/-- A text behind another one, between the given marks, if there is one and it is not empty. -/
def suffix (before : String) (s : Option String) (after : String) : String :=
  match s with
  | some text => if text.isEmpty then "" else before ++ text ++ after
  | none => ""

/-- A cause behind a message. -/
def causeSuffix (cause : Option Cause) : String :=
  match cause with
  | some c => ": " ++ c.message
  | none => ""

/-- A problem in words. -/
def message : Problem → String
  | .general message => message
  | .schema message => message
  | .load source cause => "Failed to load schema from '" ++ source ++ "'" ++ causeSuffix cause
  | .validation source errors =>
    "Schema validation failed for '" ++ source ++ "'" ++
      if errors.isEmpty then "" else ": " ++ "; ".intercalate (errors.map Cause.message)
  | .derivation message context cause =>
    message ++ suffix " (while translating " context ")" ++ causeSuffix cause
  | .unsupported feature suggestion context =>
    "Unsupported feature: " ++ feature ++ suffix ". " suggestion "" ++
      suffix " (while translating " context ")"
  | .configuration message path field =>
    message ++ suffix " in '" path "'" ++ suffix " (field: " field ")"

end Problem

/-- What nothing looks out for. -/
inductive Accident where
  /-- A property with an empty name has no member name. -/
  | emptyName
  /-- A reference that is no text. -/
  | unreadableReference
  /-- A text in digits that is no number or no day. -/
  | badScalar (message : String)
  /-- A text that is said to be a truth value and is none. -/
  | unknownWord
  /-- A whole number with more decimal digits than are read or written, and how many it has where it
  is read. -/
  | tooManyDigits (found : Option Nat)
  /-- A number of a character that is beyond all bounds. -/
  | hugeCharacter
  /-- A part of a number that counts more than any number with a point. -/
  | hugePart
  /-- Lists and mappings that are too deep in each other to be read. -/
  | tooDeep
  /-- A text that is said to be a number and is empty. -/
  | emptyNumber
  /-- A text that is said to be a day and is none. -/
  | noDay
  /-- A file that is not UTF-8. -/
  | undecodableFile
  /-- A file name that is too long to be looked up. -/
  | nameTooLong
  /-- An address that names no server. -/
  | badAddress
  /-- A host that is said to be international and is none. -/
  | badHost (f : Address.HostFault)
  /-- A part of a request that has to be ASCII and is not. -/
  | notAscii
  /-- A request without a scheme. -/
  | unknownKind (request : String)
  /-- A page whose text cannot be told from its bytes. -/
  | undecodablePage (f : Charset.Fault)
  /-- A value of a type that cannot be looked into. -/
  | wrongType
  /-- A text in a table that the console takes for marks, and the marks do not fit. -/
  | unfitMarks
  deriving DecidableEq, Repr

/-- The words of an accident, where it has some. -/
def Accident.message? : Accident → Option String
  | .emptyName => some "Name cannot be empty"
  | .badScalar message => some message
  | .tooManyDigits found =>
    some (s!"Exceeds the limit ({Decimal.mostDigits} digits) for integer string conversion" ++
      (found.elim "" fun n => s!": value has {n} digits") ++
      "; use sys.set_int_max_str_digits() to increase the limit")
  | .unknownKind request => some ("unknown url type: " ++ Text.quoted request)
  | _ => none

/-- How a run can fail. -/
inductive Failure where
  | problem (p : Problem)
  | rejected (r : Rejection)
  | accident (a : Accident)
  | left (code : Nat)
  deriving DecidableEq, Repr

end TypeFiles
