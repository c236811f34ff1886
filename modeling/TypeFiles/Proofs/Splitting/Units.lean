/-
# What a splitting gives and reports

`units_eq` says all that splitting does in one equation: it reports on the visits of the tree one
after the other, and then gives a unit for every visited declaration that has a file.  What a visit
reports depends on its node alone:

| node | report |
| --- | --- |
| namespace | a log line |
| struct, protocol, enum with a value case, remark | none |
| any other | a note with the path of the node, or a log line without a collector |

`gives_units` reads off it what is given and what is collected.  A namespace gives and collects what
its members do, in turn (`fileUnits_enum`, `dropNotes_enum`).
-/

import TypeFiles.Proofs.Reporting
import TypeFiles.Proofs.Splitting.Visits

namespace TypeFiles

open Declaration Splitting

namespace Splitting
namespace Visit

/-- What is reported on a visit, given the namespaces around the whole tree. -/
def report (outer : List String) (v : Visit) : Reporting PUnit :=
  match v.node with
  | .enum name members _ _ =>
    if hasCases members then pure ⟨⟩ else Reporting.write .debug .splitting (flattenLine name)
  | .struct _ _ _ _ | .protocol _ _ _ _ | .annotated _ _ => pure ⟨⟩
  | d => reportDrop d.kind d.name? (outer ++ v.scope)

/-- The unit of a visited declaration, given the wrappers around the whole tree. -/
def unit (outer : List Wrapper) (v : Visit) : FileUnit :=
  .ofDeclaration (v.node.name?.getD "") v.node (outer ++ v.wrappers)

/-- The note on a visited declaration, given the namespaces around the whole tree. -/
def note (outer : List String) (v : Visit) : Diagnostic :=
  dropNote v.node.kind v.node.name? (outer ++ v.scope)

variable (scope : List String) (wrappers : List Wrapper) (name : String) (i : Nat) (w : Wrapper)
variable (v : Visit)

theorem report_via_member :
    (v.via (.member name i)).report scope = v.report (scope ++ [name]) := by
  have h : scope ++ (v.via (.member name i)).scope = scope ++ [name] ++ v.scope := by simp
  unfold report
  rw [h]
  rfl

/-- Nothing is reported on a declaration that has a file. -/
theorem report_of_hasFile {v : Visit} (h : v.node.hasFile = true) : v.report scope = pure ⟨⟩ := by
  obtain ⟨r, d⟩ := v
  cases d <;> simp_all [hasFile, report]

/-- A declaration that is left out is reported with its path. -/
theorem report_of_isDropped {v : Visit} (h : v.node.isDropped = true) :
    v.report scope = reportDrop v.node.kind v.node.name? (scope ++ v.scope) := by
  obtain ⟨r, d⟩ := v
  cases d with
  | enum name members conformances access =>
    cases hc : hasCases members <;> simp [isDropped, isTerminal, isNamespace, hasFile, hc] at h
  | struct | protocol | annotated => simp [isDropped, isTerminal, hasFile] at h
  | _ => rfl

/-- What a visit reports: a declaration that is left out, nothing, or a namespace. -/
theorem report_cases :
    (v.node.isDropped = true ∧
      v.report scope = reportDrop v.node.kind v.node.name? (scope ++ v.scope)) ∨
    (v.node.isDropped = false ∧ (v.report scope = pure ⟨⟩ ∨
      ∃ name, v.report scope = Reporting.write .debug .splitting (flattenLine name))) := by
  cases h : v.node.isDropped with
  | true => exact .inl ⟨rfl, report_of_isDropped scope h⟩
  | false =>
    refine .inr ⟨rfl, ?_⟩
    obtain ⟨r, d⟩ := v
    cases d with
    | struct | protocol | annotated => exact .inl rfl
    | enum name members conformances access =>
      cases hc : hasCases members with
      | true => exact .inl (by simp [report, hc])
      | false => exact .inr ⟨name, by simp [report, hc]⟩
    | _ => simp [isDropped, isTerminal, isNamespace, hasFile] at h

theorem note_via_member :
    (v.via (.member name i)).note scope = v.note (scope ++ [name]) := by
  unfold note
  rw [scope_via_member, List.append_assoc, List.singleton_append]
  rfl

theorem unit_via_member : (v.via (.member name i)).unit wrappers = v.unit wrappers := rfl

theorem unit_via_remark : (v.via (.remark w)).unit wrappers = v.unit (wrappers ++ [w]) := by
  unfold unit
  rw [wrappers_via_remark, List.append_assoc, List.singleton_append]
  rfl

end Visit

/-- Report on some visits, and give the units of those with a file. -/
def conclude (wrappers : List Wrapper) (scope : List String) (vs : List Visit) :
    Reporting (List FileUnit) := do
  vs.forM (Visit.report scope)
  return (vs.filter (·.node.hasFile)).map (Visit.unit wrappers)

variable (wrappers : List Wrapper) (scope : List String)

theorem conclude_append (us vs : List Visit) :
    conclude wrappers scope (us ++ vs) = do
      let first ← conclude wrappers scope us
      let others ← conclude wrappers scope vs
      return first ++ others := by
  simp only [conclude, List.forM_eq_forM, List.forM_append, List.filter_append, List.map_append,
    bind_assoc, pure_bind]

/-- A visit that gives no unit only reports. -/
theorem conclude_cons {u : Visit} (hu : u.node.hasFile = false) (vs : List Visit) :
    conclude wrappers scope (u :: vs) =
      u.report scope >>= fun _ => conclude wrappers scope vs := by
  simp only [conclude, List.forM_eq_forM, List.forM_cons, List.filter_cons, hu, bind_assoc,
    Bool.false_eq_true, if_false]

theorem conclude_map_member (name : String) (i : Nat) (vs : List Visit) :
    conclude wrappers scope (vs.map (.via (.member name i))) =
      conclude wrappers (scope ++ [name]) vs := by
  simp only [conclude, List.forM_eq_forM, List.forM_map, List.filter_map, List.map_map]
  congr 1
  congr 1
  funext v
  exact Visit.report_via_member scope name i v

theorem conclude_map_remark (w : Wrapper) (vs : List Visit) :
    conclude wrappers scope (vs.map (.via (.remark w))) =
      conclude (wrappers ++ [w]) scope vs := by
  simp only [conclude, List.forM_eq_forM, List.forM_map, List.filter_map, List.map_map]
  congr 1
  funext _
  congr 2
  funext v
  exact Visit.unit_via_remark wrappers w v

/-- The unit of a declaration that has a file is all there is to give. -/
theorem conclude_of_hasFile {d : Declaration} {name : String} (hd : d.hasFile = true)
    (hn : d.name? = some name) :
    conclude wrappers scope [⟨[], d⟩] = pure [.ofDeclaration name d wrappers] := by
  have hr : Visit.report scope ⟨[], d⟩ = pure ⟨⟩ := Visit.report_of_hasFile scope hd
  have hu : Visit.unit wrappers ⟨[], d⟩ = .ofDeclaration name d wrappers := by
    simp [Visit.unit, Visit.wrappers, hn]
  simp only [conclude, List.forM_eq_forM, List.forM_cons, List.forM_nil, List.filter_cons,
    List.filter_nil, hd, if_true, hr, pure_bind, List.map_cons, List.map_nil, hu]

/-- The report on a declaration that is left out is all there is. -/
theorem conclude_of_isDropped {d : Declaration} (hd : d.isDropped = true) :
    conclude wrappers scope [⟨[], d⟩] =
      reportDrop d.kind d.name? scope >>= fun _ => pure [] := by
  have hf : d.hasFile = false := by
    rw [isDropped, Bool.and_eq_true, Bool.not_eq_true'] at hd
    exact hd.2
  have hr : Visit.report scope ⟨[], d⟩ = reportDrop d.kind d.name? scope := by
    rw [Visit.report_of_isDropped scope hd, Visit.scope_root, List.append_nil]
  rw [conclude_cons wrappers scope (u := ⟨[], d⟩) hf, hr]
  rfl

mutual

/-- **Splitting reports on the visits of a declaration in turn, and gives the units of those with a
file.** -/
theorem units_eq : ∀ (d : Declaration) (wrappers : List Wrapper) (scope : List String),
    units wrappers scope d = conclude wrappers scope d.visits
  | .struct _ _ _ _, wrappers, scope | .protocol _ _ _ _, wrappers, scope =>
    (conclude_of_hasFile wrappers scope rfl rfl).symm
  | .enum name members conformances access, wrappers, scope => by
    rw [units, visits]
    cases h : hasCases members with
    | true =>
      have hd : (Declaration.enum name members conformances access).hasFile = true := h
      exact (conclude_of_hasFile wrappers scope hd rfl).symm
    | false =>
      have hd : (Declaration.enum name members conformances access).hasFile = false := h
      simp only [Bool.false_eq_true, if_false]
      rw [conclude_cons wrappers scope hd, memberUnits_eq members wrappers scope name 0]
      simp [Visit.report, h]
  | .annotated remark d, wrappers, scope => by
    rw [units, visits, conclude_cons wrappers scope rfl, conclude_map_remark, units_eq d]
    rfl
  | .unspecified, wrappers, scope | .case _, wrappers, scope | .stored _, wrappers, scope
  | .typeAlias _ _, wrappers, scope | .function _ _ _, wrappers, scope
  | .extension _ _ _, wrappers, scope => (conclude_of_isDropped wrappers scope rfl).symm

theorem memberUnits_eq : ∀ (members : List Declaration) (wrappers : List Wrapper)
    (scope : List String) (name : String) (i : Nat),
    memberUnits wrappers (scope ++ [name]) members =
      conclude wrappers scope (memberVisits name i members)
  | [], _, _, _, _ => rfl
  | m :: rest, wrappers, scope, name, i => by
    rw [memberUnits, memberVisits, conclude_append, conclude_map_member, units_eq m,
      memberUnits_eq rest wrappers scope name (i + 1)]

end

theorem gives_reportDrop (kind : Kind) (name : Option String) :
    Reporting.Gives (reportDrop kind name scope) ⟨⟩ [dropNote kind name scope] :=
  Reporting.gives_ite_isCollecting (Reporting.gives_emit _) (Reporting.gives_write _ _ _)

/-- A visit adds the note on a declaration that is left out, and nothing else. -/
theorem gives_report (v : Visit) :
    Reporting.Gives (v.report scope) ⟨⟩ (if v.node.isDropped then [v.note scope] else []) := by
  rcases v.report_cases scope with ⟨hdropped, h⟩ | ⟨hkept, h | ⟨name, h⟩⟩
  · rw [h, hdropped]
    exact gives_reportDrop _ _ _
  · rw [h, hkept]
    exact Reporting.gives_pure _
  · rw [h, hkept]
    exact Reporting.gives_write _ _ _

theorem flatMap_ite {α β : Type} (p : α → Bool) (f : α → β) (l : List α) :
    (l.flatMap fun x => if p x then [f x] else []) = (l.filter p).map f := by
  induction l with
  | nil => rfl
  | cons x rest ih => cases h : p x <;> simp [h, ih]

end Splitting

namespace Declaration

/-- The units of a declaration, given the wrappers around it. -/
def fileUnits (wrappers : List Wrapper) (d : Declaration) : List FileUnit :=
  (d.visits.filter (·.node.hasFile)).map (Visit.unit wrappers)

/-- The notes on what is left out of a declaration, given the namespaces around it. -/
def dropNotes (scope : List String) (d : Declaration) : List Diagnostic :=
  (d.visits.filter (·.node.isDropped)).map (Visit.note scope)

/-- **What a splitting gives and collects.** -/
theorem gives_units (wrappers : List Wrapper) (scope : List String) (d : Declaration) :
    Reporting.Gives (units wrappers scope d) (d.fileUnits wrappers) (d.dropNotes scope) := by
  have h := Reporting.Gives.forM (gives_report scope) d.visits
  rw [flatMap_ite] at h
  rw [units_eq]
  exact h.bind_pure (Reporting.gives_pure (d.fileUnits wrappers))

theorem gives_split (d : Declaration) :
    Reporting.Gives d.split (d.fileUnits []) (d.dropNotes []) := gives_units [] [] d

/-- What is made of the nodes below the members of a namespace is made member by member. -/
theorem memberVisits_filter_map {β : Type} {p : Declaration → Bool} {f g : Visit → β}
    {name : String} (hfg : ∀ i v, f (v.via (.member name i)) = g v) (members : List Declaration)
    (k : Nat) :
    ((memberVisits name k members).filter fun v => p v.node).map f =
      members.flatMap fun m => (m.visits.filter fun v => p v.node).map g := by
  induction members generalizing k with
  | nil => rfl
  | cons m rest ih =>
    rw [memberVisits, List.filter_append, List.map_append, List.flatMap_cons, ih (k + 1),
      List.filter_map, List.map_map]
    congr 2
    funext v
    exact hfg k v

section namespaces

variable {members : List Declaration} (conformances : List String) (access : Option String)

theorem visits_enum (h : hasCases members = false) (name : String) :
    (enum name members conformances access).visits =
      ⟨[], enum name members conformances access⟩ :: memberVisits name 0 members := by
  rw [visits, h, if_neg Bool.false_ne_true]

/-- **A namespace has the units of its members**, one member after the other. -/
theorem fileUnits_enum (h : hasCases members = false) (wrappers : List Wrapper) (name : String) :
    (enum name members conformances access).fileUnits wrappers =
      members.flatMap (fileUnits wrappers) := by
  have hroot : (enum name members conformances access).hasFile = false := h
  rw [fileUnits, visits_enum conformances access h, List.filter_cons_of_neg (by simp [hroot])]
  exact memberVisits_filter_map (fun i v => Visit.unit_via_member wrappers name i v) members 0

/-- **A namespace has the notes of its members**, its name in front of their paths. -/
theorem dropNotes_enum (h : hasCases members = false) (scope : List String) (name : String) :
    (enum name members conformances access).dropNotes scope =
      members.flatMap (dropNotes (scope ++ [name])) := by
  have hroot : (enum name members conformances access).isDropped = false := by
    simp [isDropped, isTerminal, isNamespace, h]
  rw [dropNotes, visits_enum conformances access h, List.filter_cons_of_neg (by simp [hroot])]
  exact memberVisits_filter_map (fun i v => Visit.note_via_member scope name i v) members 0

end namespaces

end Declaration
end TypeFiles
