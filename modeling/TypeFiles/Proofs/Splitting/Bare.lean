/-
# A declaration under its remarks

A declaration may stand under any number of remarks.  `Declaration.bare` takes them off, and
`Declaration.remarks` lists them, outermost first; put back in that order they give the declaration
again (`foldr_remarks`).

`IsPlain` says that splitting finds nothing more below the remarks than the bare declaration itself.
Then there is at most one unit and at most one note, and both are the bare declaration's
(`fileUnits_of_isPlain`, `dropNotes_of_isPlain`).
-/

import TypeFiles.Proofs.Splitting.Units

namespace TypeFiles

open Splitting

namespace Declaration

/-- A declaration without the remarks around it. -/
def bare : Declaration → Declaration
  | .annotated _ d => d.bare
  | d => d

/-- The remarks around a declaration with what they stand around, outermost first. -/
def remarks : Declaration → List Wrapper
  | .annotated remark d => ⟨remark, d⟩ :: d.remarks
  | _ => []

/-- Splitting comes to one node only once the remarks are taken off. -/
def IsPlain (d : Declaration) : Prop := d.bare.visits = [⟨[], d.bare⟩]

/-- **The remarks around a declaration can be put back.** -/
theorem foldr_remarks : ∀ d : Declaration,
    d.remarks.foldr Wrapper.rewrap (.declaration d.bare) = .declaration d
  | .annotated remark d => by
    rw [remarks, bare, List.foldr_cons, foldr_remarks d]
    rfl
  | .unspecified | .case _ | .stored _ | .typeAlias _ _ | .function _ _ _ | .struct _ _ _ _
  | .enum _ _ _ _ | .protocol _ _ _ _ | .extension _ _ _ => rfl

/-- The visit of the bare declaration, on the way through its remarks. -/
def bareVisit (d : Declaration) : Visit := ⟨d.remarks.map .remark, d.bare⟩

theorem scope_bareVisit (d : Declaration) : d.bareVisit.scope = [] := by
  rw [Visit.scope, bareVisit, List.filterMap_map]
  exact List.filterMap_eq_nil_iff.2 fun w _ => rfl

theorem wrappers_bareVisit (d : Declaration) : d.bareVisit.wrappers = d.remarks := by
  rw [Visit.wrappers, bareVisit, List.filterMap_map]
  exact List.filterMap_some

theorem bareVisit_annotated (remark : Remark) (d : Declaration) :
    (annotated remark d).bareVisit = d.bareVisit.via (.remark ⟨remark, d⟩) := rfl

/-- Of a plain declaration, a kind of node other than remarks is visited once or not at all. -/
theorem filter_visits_of_isPlain {p : Declaration → Bool}
    (hp : ∀ remark d, p (.annotated remark d) = false) :
    ∀ {d : Declaration}, d.IsPlain →
      (d.visits.filter fun v => p v.node) = if p d.bare then [d.bareVisit] else []
  | .annotated remark d, h => by
    have ih : (d.visits.filter fun v => p v.node) = if p d.bare then [d.bareVisit] else [] :=
      filter_visits_of_isPlain hp h
    have hvia : (fun v : Visit => p v.node) ∘ Visit.via (.remark ⟨remark, d⟩) =
        fun v => p v.node := rfl
    rw [visits, List.filter_cons_of_neg (by simp [hp]), List.filter_map, hvia, ih,
      bareVisit_annotated, bare]
    split
    · rw [List.map_singleton]
    · rw [List.map_nil]
  | .unspecified, h | .case _, h | .stored _, h | .typeAlias _ _, h | .function _ _ _, h
  | .struct _ _ _ _, h | .enum _ _ _ _, h | .protocol _ _ _ _, h | .extension _ _ _, h =>
    (congrArg (List.filter fun v => p v.node) h).trans List.filter_cons

theorem fileUnits_of_isPlain {d : Declaration} (h : d.IsPlain) :
    d.fileUnits [] = if d.bare.hasFile then
      [.ofDeclaration (d.bare.name?.getD "") d.bare d.remarks] else [] := by
  rw [fileUnits, filter_visits_of_isPlain (fun _ _ => rfl) h]
  cases d.bare.hasFile with
  | false => rfl
  | true =>
    rw [if_pos rfl, if_pos rfl, List.map_singleton, Visit.unit, wrappers_bareVisit, List.nil_append]
    rfl

theorem dropNotes_of_isPlain {d : Declaration} (h : d.IsPlain) (scope : List String) :
    d.dropNotes scope = if d.bare.isDropped then
      [dropNote d.bare.kind d.bare.name? scope] else [] := by
  rw [dropNotes, filter_visits_of_isPlain (fun _ _ => rfl) h]
  cases d.bare.isDropped with
  | false => rfl
  | true =>
    rw [if_pos rfl, if_pos rfl, List.map_singleton, Visit.note, scope_bareVisit, List.append_nil]
    rfl

end Declaration
end TypeFiles
