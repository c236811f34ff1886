/-
# Planning the files of a document

The whole way from the schemas of a document to its files: the declaration tree is derived, the
tree is split into units, and the units are assembled into files.  Nothing is written; the files
are handed to whoever writes them.

Without a collector in the journal, a run collects its diagnostics in one of its own and drops it.
-/

import TypeFiles.Assembly
import TypeFiles.Derivation

namespace TypeFiles
namespace Plan

/-- The log line on the number of units. -/
def unitsLine (count : Nat) : String := "Split components into " ++ toString count ++ " units"

/-- The files of a declaration tree. -/
def filesOfBlock (s : Settings) (b : Block) : Reporting (List GeneratedFile) := do
  let units ← b.split
  Reporting.write .debug .planning (unitsLine units.length)
  assemble s units

/-- Run a step that needs a collector, with one of its own if there is none. -/
def collected {α : Type} (step : Reporting α) : Reporting α := do
  if ← Reporting.isCollecting then step
  else return (← Reporting.isolated step).1

/-- The files of the declaration tree that a step gives; a failed one has none. -/
def files (s : Settings) (components : Reporting (Except Failure Block)) :
    Reporting (Except Failure (List GeneratedFile)) := do
  match ← components with
  | .ok b => return .ok (← collected (filesOfBlock s b))
  | .error e => return .error e

end Plan

/-- Plans the files of one document after the other with the same settings and one deriver. -/
structure Planner where
  settings : Settings
  deriver : Deriver
  deriving Inhabited

namespace Planner

/-- A planner that has not seen a document. -/
def fresh (s : Settings) : Planner := ⟨s, .fresh⟩

/-- Plan the files of a document. -/
def plan (p : Planner) (schemas : List (String × Schema)) :
    Reporting (Except Failure (List GeneratedFile) × Planner) := do
  let (block, deriver) ← p.deriver.derive schemas
  let files ← Plan.files p.settings (pure block)
  return (files, { p with deriver })

/-- Plan the files of several documents, one after the other; a failure does not end the run. -/
def planAll (p : Planner) :
    List (List (String × Schema)) → Reporting (List (Except Failure (List GeneratedFile)) × Planner)
  | [] => return ([], p)
  | schemas :: rest => do
    let (files, p) ← p.plan schemas
    let (others, p) ← p.planAll rest
    return (files :: others, p)

end Planner

end TypeFiles
