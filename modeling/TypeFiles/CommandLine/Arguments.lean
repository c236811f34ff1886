/-
# The arguments of the program

| command | operands | options |
| --- | --- | --- |
| `plan` | a source, or none | all of the table below |
| `version` | none | `--help` |

| option | short | value |
| --- | --- | --- |
| `--config` | `-c` | the path of a file of settings |
| `--namespace` | `-n` | the root namespace |
| `--import` | `-i` | an additional import; may be given several times |
| `--ext` | | the extension of the file names |
| `--verbose` | `-v` | none |
| `--help` | | none |

The value of an option is the next argument, whatever it looks like, or follows a `=` behind a long
option or the letter of a short one.  Short options without a value may share one hyphen.  Behind
`--` there are operands only.  Options of a command may stand before and behind its operands; in
front of the command there is only `--help`.
-/

import TypeFiles.Text.Cut

namespace TypeFiles

/-- An option of the program. -/
inductive ProgramOption where
  | config
  | rootNamespace
  | additionalImport
  | extension
  | verbose
  | help
  deriving DecidableEq, Repr

namespace ProgramOption

/-- The long names of the options. -/
def longNames : List (String × ProgramOption) := [
  ("--config", .config), ("--namespace", .rootNamespace), ("--import", .additionalImport),
  ("--ext", .extension), ("--verbose", .verbose), ("--help", .help)]

/-- The letters of the options that have one. -/
def letters : List (Char × ProgramOption) := [
  ('c', .config), ('n', .rootNamespace), ('i', .additionalImport), ('v', .verbose)]

/-- Whether an option has a value. -/
def takesValue : ProgramOption → Bool
  | .verbose | .help => false
  | _ => true

end ProgramOption

/-- The arguments of a command: its options in the order they are given, with their values, and
its operands. -/
structure Arguments where
  options : List (ProgramOption × String)
  operands : List String
  deriving DecidableEq, Repr

namespace Arguments

/-- No arguments. -/
def empty : Arguments := ⟨[], []⟩

/-- The arguments with an option in front. -/
def withOption (o : ProgramOption) (value : String) (a : Arguments) : Arguments :=
  { a with options := (o, value) :: a.options }

/-- The arguments with an operand in front. -/
def withOperand (operand : String) (a : Arguments) : Arguments :=
  { a with operands := operand :: a.operands }

/-- Whether an option is given. -/
def has (a : Arguments) (o : ProgramOption) : Bool := a.options.any fun entry => entry.1 == o

/-- The values that are given for an option. -/
def values (a : Arguments) (o : ProgramOption) : List String :=
  (a.options.filter fun entry => entry.1 == o).map (·.2)

/-- The value of an option: the last one that is given. -/
def value? (a : Arguments) (o : ProgramOption) : Option String := (a.values o).getLast?

/-- The options that one argument gives, and the option that waits for its value. -/
structure Group where
  complete : List (ProgramOption × String)
  waiting : Option ProgramOption

/-- The short options behind a hyphen: after the first one with a value the rest is that value. -/
def shortGroup (allowed : ProgramOption → Bool) : List Char → Option Group
  | [] => some ⟨[], none⟩
  | c :: rest => do
    let o ← ProgramOption.letters.lookup c
    guard (allowed o)
    if o.takesValue then
      if rest.isEmpty then return ⟨[], some o⟩ else return ⟨[(o, String.ofList rest)], none⟩
    else
      let others ← shortGroup allowed rest
      return { others with complete := (o, "") :: others.complete }

/-- The option that a long name and a text behind `=` give. -/
def longGroup (o : ProgramOption) : Option (List Char) → Option Group
  | none => if o.takesValue then some ⟨[], some o⟩ else some ⟨[(o, "")], none⟩
  | some value => if o.takesValue then some ⟨[(o, String.ofList value)], none⟩ else none

/-- The options that an argument with a hyphen in front gives, `none` if there is one that is not
allowed. -/
def group? (allowed : ProgramOption → Bool) (argument : List Char) : Option Group :=
  let (name, value) := match Text.cut? '=' argument with
    | some (name, value) => (name, some value)
    | none => (argument, none)
  match (ProgramOption.longNames.lookup (String.ofList name)).filter allowed with
  | some o => longGroup o value
  | none =>
    match argument with
    | '-' :: '-' :: _ => none
    | _ => shortGroup allowed (argument.drop 1)

/-- Whether an argument gives options: a hyphen and something behind it. -/
def givesOptions (argument : List Char) : Bool := argument.head? == some '-' && 1 < argument.length

/-- Read arguments; `none` if they are misused.  If an option waits for its value, that is the next
argument.  If options and operands do not mix, everything from the first operand on is an
operand. -/
def readFrom (allowed : ProgramOption → Bool) (mixes : Bool) :
    Option ProgramOption → List String → Option Arguments
  | none, [] => some empty
  | some _, [] => none
  | some o, value :: rest => (readFrom allowed mixes none rest).map (withOption o value)
  | none, argument :: rest =>
    if argument == "--" then some ⟨[], rest⟩
    else if givesOptions argument.toList then do
      let g ← group? allowed argument.toList
      let others ← readFrom allowed mixes g.waiting rest
      return { others with options := g.complete ++ others.options }
    else if mixes then (readFrom allowed mixes none rest).map (withOperand argument)
    else some ⟨[], argument :: rest⟩

/-- Read the arguments of a command, or of the program. -/
def read (allowed : ProgramOption → Bool) (mixes : Bool) (argv : List String) : Option Arguments :=
  readFrom allowed mixes none argv

end Arguments

/-- What a plan is asked for. -/
structure PlanRequest where
  source : Option String
  config : Option String
  rootNamespace : Option String
  additionalImports : List String
  extension : Option String
  verbose : Bool
  deriving DecidableEq, Repr

/-- What the program is asked for. -/
inductive Command where
  | plan (request : PlanRequest)
  | version
  | help
  | misuse
  deriving DecidableEq, Repr

namespace Command

/-- Whether an option is `--help`. -/
def isHelp (o : ProgramOption) : Bool := o == .help

/-- The request of the arguments of a plan. -/
def planOf (a : Arguments) : Command :=
  if a.has .help then .help
  else if 1 < a.operands.length then .misuse
  else .plan {
    source := a.operands.head?
    config := a.value? .config
    rootNamespace := a.value? .rootNamespace
    additionalImports := a.values .additionalImport
    extension := a.value? .extension
    verbose := a.has .verbose }

/-- The request of the arguments behind `version`. -/
def versionOf (a : Arguments) : Command :=
  if a.has .help then .help else if a.operands.isEmpty then .version else .misuse

/-- The command that some arguments give. -/
def read (argv : List String) : Command :=
  match Arguments.read isHelp false argv with
  | none => .misuse
  | some a =>
    if a.has .help then .help
    else
      match a.operands with
      | "plan" :: rest => ((Arguments.read (fun _ => true) true rest).map planOf).getD .misuse
      | "version" :: rest => ((Arguments.read isHelp true rest).map versionOf).getD .misuse
      | _ => .misuse

end Command
end TypeFiles
