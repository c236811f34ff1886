/-
# Planning one document after the other

A planner is used for one document after the other, and its deriver remembers the schemas of the
last one, whether that document could be planned or not.  `planAll_alone` says that this memory is
never seen: every document is planned as a planner does it that has not seen any other, and it adds
to the collector what it would have added to an empty one.

One document is a step (`Planner.gives_plan`), and a run of any length is a list of steps
(`Planner.gives_planAll`).  Neither the result nor the diagnostics of a step depend on the planner's
memory, so those of a run are those of its documents side by side.
-/

import TypeFiles.Proofs.Plan.Document

namespace TypeFiles

open Declaration Reporting

namespace Plan

variable {s : Settings} {ds : List Declaration} {d : Diagnostic}

theorem severity_of_mem_notesOf (h : d ∈ notesOf ds) : d.severity = .note := by
  obtain ⟨declaration, -, h⟩ := List.mem_flatMap.1 h
  obtain ⟨v, -, rfl⟩ := List.mem_map.1 h
  rfl

theorem severity_of_mem_collisionWarnings {names : List String}
    (h : d ∈ Assembly.collisionWarnings names) : d.severity = .warning := by
  obtain ⟨c, -, rfl⟩ := List.mem_map.1 h
  rfl

end Plan

namespace Planner

open Plan

/-- **What planning several documents gives and collects.**  The deriver remembers the last one. -/
theorem gives_planAll (p : Planner) (documents : List (List (String × Schema))) :
    Gives (p.planAll documents)
      (documents.map fun schemas => (Derivation.declarations schemas).map (filesOf p.settings),
        ⟨p.settings, documents.foldl (fun _ schemas => ⟨schemas⟩) p.deriver⟩)
      (documents.flatMap fun schemas =>
        diagnosticsOf p.settings (Derivation.declarations schemas)) := by
  induction documents generalizing p with
  | nil => exact gives_pure _
  | cons schemas rest ih =>
    rw [List.flatMap_cons]
    exact (p.gives_plan schemas).bind ((ih ⟨p.settings, ⟨schemas⟩⟩).bind_pure (gives_pure _))

/-- The files of a document, from a planner that has not seen another one. -/
def filesAlone (s : Settings) (schemas : List (String × Schema)) (j : Journal) :
    Except Failure (List GeneratedFile) :=
  (((fresh s).plan schemas).run j).1.1

/-- What an empty collector gets on a document, from a planner that has not seen another one. -/
def diagnosticsAlone (s : Settings) (schemas : List (String × Schema)) : List Diagnostic :=
  (((fresh s).plan schemas).run .collecting).2.diagnostics

variable (s : Settings) (schemas : List (String × Schema))

theorem filesAlone_eq (j : Journal) :
    filesAlone s schemas j = (Derivation.declarations schemas).map (filesOf s) := by
  rw [filesAlone, (gives_plan (fresh s) schemas).result]
  rfl

theorem diagnosticsAlone_eq :
    diagnosticsAlone s schemas = diagnosticsOf s (Derivation.declarations schemas) := by
  rw [diagnosticsAlone, Journal.diagnostics,
    (gives_plan (fresh s) schemas).collector_of_some (j := .collecting) rfl]
  rfl

/-- **Notes come first, and then the warnings on the files that share a name.** -/
theorem diagnosticsAlone_of_ok {files : List GeneratedFile}
    (h : filesAlone s schemas .collecting = .ok files) :
    ∃ notes, diagnosticsAlone s schemas =
        notes ++ Assembly.collisionWarnings (files.map (·.name)) ∧
      ∀ n ∈ notes, n.severity = .note := by
  rw [filesAlone_eq] at h
  obtain ⟨ds, hds, rfl⟩ := map_eq_ok_iff.1 h
  rw [diagnosticsAlone_eq, hds]
  exact ⟨notesOf ds, rfl, fun n hn => severity_of_mem_notesOf hn⟩

end Planner

/-- **No document leaves a trace on the next one.**  Whatever a planner remembers and however many
documents it plans, each has the files, or the failure, that it has alone.  A collector gets, behind
what it held before, what each document adds alone, notes before warnings; one that fails adds
nothing. -/
theorem planAll_alone (p : Planner) (documents : List (List (String × Schema))) (j : Journal) :
    (∀ j₀, ((p.planAll documents).run j).1.1 =
      documents.map fun schemas => Planner.filesAlone p.settings schemas j₀) ∧
    ((p.planAll documents).run j).2.collector = j.collector.map (· ++
      documents.flatMap fun schemas =>
        if (Planner.filesAlone p.settings schemas .collecting).isOk then
          Planner.diagnosticsAlone p.settings schemas
        else []) ∧
    ∀ schemas files, Planner.filesAlone p.settings schemas .collecting = .ok files →
      ∃ notes warnings, Planner.diagnosticsAlone p.settings schemas = notes ++ warnings ∧
        warnings = Assembly.collisionWarnings (files.map (·.name)) ∧
        (∀ n ∈ notes, n.severity = .note) ∧ ∀ w ∈ warnings, w.severity = .warning := by
  have hgives := p.gives_planAll documents
  refine ⟨fun j₀ => ?_, ?_, fun schemas files hfiles => ?_⟩
  · rw [hgives.result]
    exact List.map_congr_left fun schemas _ => (Planner.filesAlone_eq _ _ _).symm
  · have hadded : ∀ schemas, Plan.diagnosticsOf p.settings (Derivation.declarations schemas) =
        if (Planner.filesAlone p.settings schemas .collecting).isOk then
          Planner.diagnosticsAlone p.settings schemas
        else [] := by
      intro schemas
      rw [Planner.filesAlone_eq, Planner.diagnosticsAlone_eq]
      cases Derivation.declarations schemas <;> rfl
    rw [hgives.collector]
    simp only [hadded]
  · obtain ⟨notes, heq, hnotes⟩ := Planner.diagnosticsAlone_of_ok p.settings schemas hfiles
    exact ⟨notes, _, heq, rfl, hnotes, fun w hw => Plan.severity_of_mem_collisionWarnings hw⟩

/-- A document with a lost reference fails, and the next one has its note all the same. -/
theorem lost_reference_leaves_no_trace :
    ∃ e : Failure,
      (((Planner.fresh .default).planAll
        [[("Lost", { Schema.empty with target := some (.pointer "#/components/schemas/None") })],
          [("Tags", { Schema.empty with types := ["array"] })]]).run .collecting).1.1 =
        [.error e, .ok []] ∧
      (((Planner.fresh .default).planAll
        [[("Lost", { Schema.empty with target := some (.pointer "#/components/schemas/None") })],
          [("Tags", { Schema.empty with types := ["array"] })]]).run .collecting).2.collector =
        some (Planner.diagnosticsAlone .default
          [("Tags", { Schema.empty with types := ["array"] })]) ∧
      ∀ n ∈ Planner.diagnosticsAlone .default [("Tags", { Schema.empty with types := ["array"] })],
        n.severity = .note := by
  obtain ⟨hfiles, hcollector, hok⟩ := planAll_alone (.fresh .default)
    [[("Lost", { Schema.empty with target := some (.pointer "#/components/schemas/None") })],
      [("Tags", { Schema.empty with types := ["array"] })]] .collecting
  obtain ⟨notes, warnings, heq, hwarnings, hnotes, -⟩ :=
    hok [("Tags", { Schema.empty with types := ["array"] })] [] rfl
  obtain rfl : warnings = [] := hwarnings
  refine ⟨Derivation.missingSchema "None" "Lost", hfiles .collecting, hcollector, ?_⟩
  change ∀ n ∈ Planner.diagnosticsAlone (Planner.fresh .default).settings _, _
  rw [heq, List.append_nil]
  exact hnotes

end TypeFiles
