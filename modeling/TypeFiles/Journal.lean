/-
# The journal of a run

A run reports two ways: it writes log lines, and it adds diagnostics to a collector.  A diagnostic
is a note or a warning about something that does not stop the run; emitting one writes it to the
log as well, a note at the level `DEBUG` and a warning at the level `WARNING`.

Some parts of a run may be used without a collector and then write log lines of their own instead
of diagnostics.  The journal therefore holds an optional collector beside the log.
-/

namespace TypeFiles

/-- How grave a diagnostic is. -/
inductive Severity where
  | note
  | warning
  deriving DecidableEq, Repr

/-- The word for a severity. -/
def Severity.word : Severity → String
  | .note => "note"
  | .warning => "warning"

/-- A condition that does not stop the run, and what it is about. -/
structure Diagnostic where
  severity : Severity
  message : String
  context : Option String
  deriving DecidableEq, Repr

/-- A diagnostic in one line: an empty context is left out. -/
def Diagnostic.text (d : Diagnostic) : String :=
  match d.context with
  | some context =>
    if context.isEmpty then d.severity.word ++ ": " ++ d.message
    else d.severity.word ++ ": " ++ d.message ++ " (" ++ context ++ ")"
  | none => d.severity.word ++ ": " ++ d.message

/-- The level of a log line. -/
inductive Level where
  | debug
  | warning
  deriving DecidableEq, Repr

/-- The level at which a diagnostic is logged. -/
def Severity.level : Severity → Level
  | .note => .debug
  | .warning => .warning

/-- The part of the program that writes a log line. -/
inductive Channel where
  | splitting
  | diagnostics
  | derivation
  | assembly
  | planning
  | loading
  deriving DecidableEq, Repr

/-- The name of a channel in the log. -/
def Channel.name : Channel → String
  | .splitting => "apisplit.codegen.splitting"
  | .diagnostics => "apisplit.codegen.diagnostics"
  | .derivation => "apisplit.codegen.components"
  | .assembly => "apisplit.codegen.assembler"
  | .planning => "apisplit.codegen.translator"
  | .loading => "apisplit.codegen.schema_loader"

/-- A line of the log. -/
structure LogLine where
  level : Level
  channel : Channel
  message : String
  deriving DecidableEq, Repr

/-- A log line as it is shown. -/
def LogLine.text (line : LogLine) : String :=
  (match line.level with
    | .debug => "DEBUG"
    | .warning => "WARNING") ++ " " ++ line.channel.name ++ ": " ++ line.message

/-- What a run has reported so far, in order: its log, and the diagnostics if it collects them. -/
structure Journal where
  log : List LogLine
  collector : Option (List Diagnostic)
  deriving DecidableEq, Repr

namespace Journal

/-- A journal without a collector. -/
def uncollected : Journal := ⟨[], none⟩

/-- A journal with an empty collector. -/
def collecting : Journal := ⟨[], some []⟩

/-- The diagnostics collected so far. -/
def diagnostics (j : Journal) : List Diagnostic := j.collector.getD []

end Journal

/-- A step of a run that reports to the journal. -/
abbrev Reporting := StateM Journal

namespace Reporting

/-- Write a line to the log. -/
def write (level : Level) (channel : Channel) (message : String) : Reporting PUnit :=
  modify fun j => { j with log := j.log ++ [⟨level, channel, message⟩] }

/-- Emit a diagnostic: log it and add it to the collector. -/
def emit (d : Diagnostic) : Reporting PUnit := do
  write d.severity.level .diagnostics d.text
  modify fun j => { j with collector := j.collector.map (· ++ [d]) }

/-- Emit a note. -/
def note (message : String) (context : Option String) : Reporting PUnit :=
  emit ⟨.note, message, context⟩

/-- Emit a warning. -/
def warn (message : String) (context : Option String) : Reporting PUnit :=
  emit ⟨.warning, message, context⟩

/-- Whether diagnostics are collected. -/
def isCollecting : Reporting Bool := do
  return (← get).collector.isSome

/-- Forget the diagnostics collected so far; the log stays. -/
def clear : Reporting PUnit :=
  modify fun j => { j with collector := j.collector.map fun _ => [] }

/-- Emit every diagnostic that has been collected so far once more, each changed by `f`.  The
diagnostics emitted on the way are not looked at again. -/
def echo (f : Diagnostic → Diagnostic) : Reporting PUnit := do
  (← get).diagnostics.forM fun d => emit (f d)

/-- Run a step with a collector of its own, and put the former one back; the log goes on. -/
def isolated {α : Type} (step : Reporting α) : Reporting (α × List Diagnostic) := do
  let outer := (← get).collector
  modify fun j => { j with collector := some [] }
  let result ← step
  let found := (← get).diagnostics
  modify fun j => { j with collector := outer }
  return (result, found)

end Reporting

end TypeFiles
