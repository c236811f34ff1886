/-
# Planning one document

What a plan of a document gives and what it collects depend on two things only, the settings and the
schemas.  If the document can be derived, the notes on what has no file come first and the warnings
on files that share a name after them; if it cannot, nothing is collected.  What the deriver
remembers from before is never read, and it is replaced by the schemas of the document either way.

All this is one equation, `gives_plan`.
-/

import TypeFiles.Plan
import TypeFiles.Proofs.Derivation.Body
import Mathlib.Data.List.Nodup

namespace TypeFiles

open Declaration Reporting

namespace Assembly

/-- The warnings on files that share a name. -/
def collisionWarnings (names : List String) : List Diagnostic :=
  (collisions names).map fun c => ⟨.warning, collisionMessage c.1 c.2, some c.1⟩

/-- There is nothing to report exactly if no two files share a name. -/
theorem collisions_eq_nil_iff {names : List String} : collisions names = [] ↔ names.Nodup := by
  rw [collisions, List.filter_eq_nil_iff, List.nodup_iff_count_le_one]
  constructor
  · intro h name
    by_cases hmem : name ∈ names
    · have hfew := h (name, names.count name)
        (List.mem_map.2 ⟨name, List.mem_eraseDups.2 hmem, rfl⟩)
      simp only [decide_eq_true_eq] at hfew
      omega
    · rw [List.count_eq_zero_of_not_mem hmem]
      omega
  · intro h c hmem
    obtain ⟨name, -, rfl⟩ := List.mem_map.1 hmem
    have hfew := h name
    simp only [decide_eq_true_eq]
    omega

theorem gives_reportCollisions (names : List String) :
    Gives (reportCollisions names) ⟨⟩ (collisionWarnings names) := by
  have hone : ∀ c : String × Nat, Gives (do
      if ← isCollecting then warn (collisionMessage c.1 c.2) (some c.1)
      else write .warning .assembly (collisionMessage c.1 c.2))
      ⟨⟩ [⟨.warning, collisionMessage c.1 c.2, some c.1⟩] :=
    fun c => gives_ite_isCollecting (gives_emit _) (gives_write _ _ _)
  have h := Gives.forM hone (collisions names)
  rw [← List.map_eq_flatMap] at h
  exact h

end Assembly

/-- **Assembling gives the files and warns of those that share a name.** -/
theorem gives_assemble (s : Settings) (us : List FileUnit) :
    Gives (assemble s us) (Assembly.files s us)
      (Assembly.collisionWarnings ((Assembly.files s us).map (·.name))) :=
  (Assembly.gives_reportCollisions _).bind_pure (gives_pure _)

namespace Plan

/-- The files of the declarations of a document. -/
def filesOf (s : Settings) (ds : List Declaration) : List GeneratedFile :=
  Assembly.files s (ds.flatMap (fileUnits []))

/-- The notes on the declarations of a document that have no file. -/
def notesOf (ds : List Declaration) : List Diagnostic :=
  ds.flatMap (dropNotes ["Components", "Schemas"])

/-- The warnings on the files of a document that share a name. -/
def warningsOf (s : Settings) (ds : List Declaration) : List Diagnostic :=
  Assembly.collisionWarnings ((filesOf s ds).map (·.name))

/-- What is collected on a document; on one that cannot be derived that is nothing. -/
def diagnosticsOf (s : Settings) : Except Failure (List Declaration) → List Diagnostic
  | .ok ds => notesOf ds ++ warningsOf s ds
  | .error _ => []

variable (s : Settings) {ds : List Declaration}

theorem gives_filesOfBlock (h : hasCases ds = false) :
    Gives (filesOfBlock s (Deriver.componentsBlock ds)) (filesOf s ds)
      (notesOf ds ++ warningsOf s ds) :=
  (gives_split_componentsBlock h).bind ((gives_write _ _ _).pure_bind (gives_assemble s _))

/-- A step with a collector of its own gives what it would have given with another one. -/
theorem gives_collected {α : Type} {step : Reporting α} {a : α} {found : List Diagnostic}
    (h : Gives step a found) : Gives (collected step) a found :=
  gives_ite_isCollecting h (h.isolated.pure_bind (gives_pure _))

end Plan

namespace Planner

open Plan

/-- **What planning a document gives and collects.**  What the planner remembers has no part in
it. -/
theorem gives_plan (p : Planner) (schemas : List (String × Schema)) :
    Gives (p.plan schemas)
      ((Derivation.declarations schemas).map (filesOf p.settings), ⟨p.settings, ⟨schemas⟩⟩)
      (diagnosticsOf p.settings (Derivation.declarations schemas)) := by
  have hderive := Deriver.gives_derive p.deriver schemas
  have hfiles : Gives
      (Plan.files p.settings (pure ((Derivation.declarations schemas).map Deriver.componentsBlock)))
      ((Derivation.declarations schemas).map (filesOf p.settings))
      (diagnosticsOf p.settings (Derivation.declarations schemas)) := by
    cases hds : Derivation.declarations schemas with
    | ok ds =>
      have hcases := Derivation.hasCases_of_declarations (mapM_eq_ok_iff.1 hds)
      change Gives (collected (filesOfBlock p.settings (Deriver.componentsBlock ds)) >>=
        fun found => pure (Except.ok found)) (Except.ok (filesOf p.settings ds)) _
      exact (gives_collected (gives_filesOfBlock p.settings hcases)).bind_pure (gives_pure _)
    | error e => exact gives_pure _
  exact hderive.pure_bind (hfiles.bind_pure (gives_pure _))

end Planner
end TypeFiles
