/-
# Rejected settings

Settings are read from a document or from the command line; what does not fit is reported field by
field, each fault with the place where it was found.

| fault | found |
| --- | --- |
| `model_type` | no mapping where settings are expected |
| `missing` | a required field is not there |
| `string_type`, `list_type`, `bool_type` | a value of another type |
| `string_unicode` | bytes that are not UTF-8 where a text is expected |
| `bool_parsing` | a number or a text that is no truth value |
| `value_error` | a namespace that is no identifier, an empty extension |
| `extra_forbidden` | an unknown field |
| any | what a search for settings objects to, in its own words |
-/

import TypeFiles.Text.Quoted

namespace TypeFiles

/-- The forms that settings come in: for one run, for one document, for a list of documents. -/
inductive SettingsForm where
  | run
  | document
  | collection
  deriving DecidableEq, Repr

/-- The name of a form in messages. -/
def SettingsForm.name : SettingsForm → String
  | .run => "SplitConfig"
  | .document => "DocumentConfig"
  | .collection => "CodegenConfig"

/-- What is wrong with a value. -/
inductive FaultKind where
  | notAMapping (form : SettingsForm)
  | missing
  | notAText
  /-- Bytes where a text is expected that are no UTF-8. -/
  | brokenText
  | notAList
  | notATruthValue
  | unknownTruthValue
  | namespaceNoIdentifier (name : String)
  | emptyExtension
  | unknownField
  /-- What a search for settings objects to. -/
  | objection (code message : String)
  deriving DecidableEq, Repr

/-- The code of a kind of fault. -/
def FaultKind.code : FaultKind → String
  | .notAMapping _ => "model_type"
  | .missing => "missing"
  | .notAText => "string_type"
  | .brokenText => "string_unicode"
  | .notAList => "list_type"
  | .notATruthValue => "bool_type"
  | .unknownTruthValue => "bool_parsing"
  | .namespaceNoIdentifier _ | .emptyExtension => "value_error"
  | .unknownField => "extra_forbidden"
  | .objection code _ => code

/-- A kind of fault in words. -/
def FaultKind.message : FaultKind → String
  | .notAMapping form => "Input should be a valid dictionary or instance of " ++ form.name
  | .missing => "Field required"
  | .notAText => "Input should be a valid string"
  | .brokenText =>
    "Input should be a valid string, unable to parse raw data as a unicode string"
  | .notAList => "Input should be a valid list"
  | .notATruthValue => "Input should be a valid boolean"
  | .unknownTruthValue => "Input should be a valid boolean, unable to interpret input"
  | .namespaceNoIdentifier name =>
    "Value error, namespace must be a valid identifier, got " ++ Text.quoted name
  | .emptyExtension => "Value error, file_extension cannot be empty"
  | .unknownField => "Extra inputs are not permitted"
  | .objection _ message => message

/-- A step on the way to a value: into a field, or to a place in a list. -/
inductive PathStep where
  | field (name : String)
  | index (n : Nat)
  deriving DecidableEq, Repr

/-- A fault and the place where it was found. -/
structure Fault where
  path : List PathStep
  kind : FaultKind
  deriving DecidableEq, Repr

/-- The same fault, seen from one step further out. -/
def Fault.under (step : PathStep) (f : Fault) : Fault := { f with path := step :: f.path }

/-- Settings that were refused, and why. -/
structure Rejection where
  form : SettingsForm
  faults : List Fault
  deriving DecidableEq, Repr

end TypeFiles
