/-
# Splitting what was split

The remarks that splitting takes off a unit can be put back around its declaration.  Those
declarations, one for each unit, make a namespace of their own, and splitting that namespace gives
the units once more (`split_flattened`).

What a wrapper says stays, but not what it stands around.  A remark that stood around a whole
namespace is on every unit below it, and when it is put back it stands around that unit alone:

| wrapper | of a unit | of the same unit, split again |
| --- | --- | --- |
| remark | the remark | the same |
| what it stands around | a part of the first tree | the declaration below, other remarks and all |

From then on nothing changes: the declarations of the units are those that they were split from, so
a second round begins where the first one did.  No unit is a case, so what holds the
declarations is a namespace indeed; and none of them is dropped, so there is nothing to note.
-/

import TypeFiles.Proofs.Splitting.Erasure

namespace TypeFiles

open Declaration Splitting

/-- A unit is the same as another one up to what its wrappers stand around. -/
structure FileUnit.Restates (v u : FileUnit) : Prop where
  name : v.name = u.name
  block : v.block = u.block
  annotatedItem : v.annotatedItem = u.annotatedItem
  remarks : v.wrappers.map (·.remark) = u.wrappers.map (·.remark)

namespace Declaration

/-- A declaration with remarks put around it, the first one outermost. -/
def under (remarks : List Remark) (d : Declaration) : Declaration := remarks.foldr .annotated d

variable (rs : List Remark) {d : Declaration}

theorem bare_under (h : d.isTerminal = true) : (d.under rs).bare = d := by
  induction rs with
  | nil => exact bare_of_isTerminal h
  | cons r rs ih => exact ih

/-- The remarks that are put around a terminal node are all the remarks around it. -/
theorem map_remark_remarks_under (h : d.isTerminal = true) :
    (d.under rs).remarks.map (·.remark) = rs := by
  induction rs with
  | nil =>
    have hnone : d.remarks = [] := by
      cases d with
      | annotated remark d => simp [isTerminal] at h
      | _ => rfl
    rw [under, List.foldr_nil, hnone, List.map_nil]
  | cons r rs ih => exact congrArg (r :: ·) ih

/-- Below remarks around a terminal node, splitting comes to that node and no further. -/
theorem isPlain_under (h : d.isTerminal = true) : (d.under rs).IsPlain := by
  rw [IsPlain, bare_under rs h, visits_of_isTerminal h]

/-- A declaration with a file of its own is no case, under remarks or not. -/
theorem case?_under (h : d.hasFile = true) : (d.under rs).case? = none := by
  cases rs with
  | nil =>
    cases d with
    | case c => simp [hasFile] at h
    | _ => rfl
  | cons r rs => rfl

end Declaration

namespace Splitting

/-- Putting wrappers back around a declaration puts their remarks around it. -/
theorem foldr_rewrap (wrappers : List Wrapper) (d : Declaration) :
    wrappers.foldr Wrapper.rewrap (.declaration d) =
      .declaration (d.under (wrappers.map (·.remark))) := by
  induction wrappers with
  | nil => rfl
  | cons w wrappers ih =>
    rw [List.foldr_cons, ih]
    rfl

namespace Visit

/-- The declaration of a visited node with the remarks on the way put back around it. -/
def putBack (v : Visit) : Declaration := v.node.under (v.wrappers.map (·.remark))

/-- The unit of that declaration. -/
def unitAgain (v : Visit) : FileUnit :=
  .ofDeclaration (v.node.name?.getD "") v.node v.putBack.remarks

theorem annotatedItem_unit (v : Visit) : (v.unit []).annotatedItem = .declaration v.putBack :=
  foldr_rewrap v.wrappers v.node

variable {v : Visit} (h : v.node.hasFile = true)
include h

theorem bare_putBack : v.putBack.bare = v.node := bare_under _ (isTerminal_of_hasFile h)

theorem isPlain_putBack : v.putBack.IsPlain := isPlain_under _ (isTerminal_of_hasFile h)

/-- **The declaration of a unit has one unit** with its remarks put back, **and no note**. -/
theorem fileUnits_putBack : v.putBack.fileUnits [] = [v.unitAgain] := by
  rw [fileUnits_of_isPlain (isPlain_putBack h), bare_putBack h, h, if_pos rfl]
  rfl

theorem dropNotes_putBack (scope : List String) : v.putBack.dropNotes scope = [] := by
  rw [dropNotes_of_isPlain (isPlain_putBack h), bare_putBack h, isDropped, h]
  simp

theorem annotatedItem_unitAgain : v.unitAgain.annotatedItem = .declaration v.putBack := by
  have hback := foldr_remarks v.putBack
  rw [bare_putBack h] at hback
  exact hback

/-- **The unit of the declaration of a unit is that unit**, up to what its wrappers stand around. -/
theorem unitAgain_restates : v.unitAgain.Restates (v.unit []) where
  name := rfl
  block := rfl
  annotatedItem := by rw [annotatedItem_unitAgain h, annotatedItem_unit]
  remarks := map_remark_remarks_under _ (isTerminal_of_hasFile h)

end Visit

section

variable {vs : List Visit} (h : ∀ v ∈ vs, v.node.hasFile = true)
include h

/-- The declarations of units make no enum of values: none of them is a case. -/
theorem hasCases_map_putBack : hasCases (vs.map Visit.putBack) = false := by
  rw [hasCases, List.any_eq_false]
  intro m hm
  obtain ⟨v, hv, rfl⟩ := List.mem_map.1 hm
  have hnone : v.putBack.case? = none := case?_under _ (h v hv)
  simp [hnone]

/-- **A namespace of the declarations of units has those units**, and nothing is left out of it. -/
theorem gives_split_putBack (name : String) (conformances : List String) (access : Option String) :
    Reporting.Gives (enum name (vs.map Visit.putBack) conformances access).split
      (vs.map Visit.unitAgain) [] := by
  have hnone := hasCases_map_putBack h
  have hunits : (enum name (vs.map Visit.putBack) conformances access).fileUnits [] =
      vs.map Visit.unitAgain := by
    rw [fileUnits_enum _ _ hnone, List.flatMap_map, List.map_eq_flatMap]
    exact List.flatMap_congr fun v hv => Visit.fileUnits_putBack (h v hv)
  have hnotes : (enum name (vs.map Visit.putBack) conformances access).dropNotes [] = [] := by
    rw [dropNotes_enum _ _ hnone, List.flatMap_map, List.flatMap_eq_nil_iff]
    exact fun v hv => Visit.dropNotes_putBack (h v hv) _
  rw [← hunits, ← hnotes]
  exact gives_split _

end

end Splitting

/-- **Splitting the declarations of units gives the units again**, in their order and with nothing
to note, whatever the namespace is called that holds them; alone, each of the declarations has its
one unit.  The units given again are those of the same declarations, so another round begins with
these and changes nothing. -/
theorem split_flattened (d : Declaration) (j : Journal) :
    ∃ (ds : List Declaration) (again : List FileUnit),
      (d.split.run j).1.map (·.annotatedItem) = ds.map .declaration ∧
      List.Forall₂ FileUnit.Restates again (d.split.run j).1 ∧
      (∀ name conformances access,
        Reporting.Gives (enum name ds conformances access).split again []) ∧
      List.Forall₂ (fun e u => Reporting.Gives e.split [u] []) ds again ∧
      again.map (·.annotatedItem) = ds.map .declaration := by
  let vs := d.visits.filter (·.node.hasFile)
  have hfile : ∀ v ∈ vs, v.node.hasFile = true := fun v hv => (List.mem_filter.1 hv).2
  have hunits : (d.split.run j).1 = vs.map (Visit.unit []) := d.gives_split.result j
  refine ⟨vs.map Visit.putBack, vs.map Visit.unitAgain, ?_, ?_, gives_split_putBack hfile, ?_, ?_⟩
  · rw [hunits, List.map_map, List.map_map]
    exact List.map_congr_left fun v _ => v.annotatedItem_unit
  · rw [hunits, List.forall₂_map_left_iff, List.forall₂_map_right_iff, List.forall₂_same]
    exact fun v hv => Visit.unitAgain_restates (hfile v hv)
  · rw [List.forall₂_map_left_iff, List.forall₂_map_right_iff, List.forall₂_same]
    intro v hv
    rw [← Visit.fileUnits_putBack (hfile v hv), ← Visit.dropNotes_putBack (hfile v hv) []]
    exact gives_split v.putBack
  · rw [List.map_map, List.map_map]
    exact List.map_congr_left fun v hv => Visit.annotatedItem_unitAgain (hfile v hv)

end TypeFiles
