/-
# Splitting a tree without its remarks

`Declaration.erased` takes every remark of a tree away, at every depth.  Splitting looks through
remarks, so one would expect the same units and the same notes from the erased tree.  There is one
exception.  Whether an enum is a namespace is told by its direct members, and a case under a remark
is none of them:

| members of the enum | with remarks | erased |
| --- | --- | --- |
| a direct case, and whatever else | a unit | the same unit |
| cases, all of them under remarks | a namespace: a note on each case | a unit, no note |
| no case at all | a namespace: its members in turn | the same |

A tree in which splitting comes to an enum of the second kind hides a case (`HidesCase`).  On all
other trees remarks decide nothing (`splitsAlike_erased`).  Erasing never adds a note, and where a
case is hidden it takes one away (`length_dropNotes_erased`), so `split_erased_iff` can say that
these trees are the only ones on which remarks matter.
-/

import TypeFiles.Proofs.Splitting.Bare
import Mathlib.Data.List.Forall2

namespace TypeFiles

open Splitting

namespace Declaration

mutual

/-- A declaration with no remark on it or on anything below it. -/
def erased : Declaration → Declaration
  | .annotated _ d => d.erased
  | .struct name members conformances access =>
    .struct name (erasedAll members) conformances access
  | .enum name members conformances access => .enum name (erasedAll members) conformances access
  | .protocol name members conformances access =>
    .protocol name (erasedAll members) conformances access
  | .extension onType members conformances => .extension onType (erasedAll members) conformances
  | d => d

/-- Declarations with no remarks on them or on anything below them. -/
def erasedAll : List Declaration → List Declaration
  | [] => []
  | d :: rest => d.erased :: erasedAll rest

end

/-- On its way, splitting comes to a namespace with a member that is a case under remarks. -/
def HidesCase (d : Declaration) : Prop :=
  ∃ (r : Route) (name : String) (members : List Declaration) (conformances : List String)
    (access : Option String), d.Leads r (.enum name members conformances access) ∧
      hasCases members = false ∧ ∃ m ∈ members, m.bare.case?.isSome = true

/-- The names of the units of a declaration, in order. -/
def unitNames (d : Declaration) : List String := (d.fileUnits []).map (·.name)

/-- Two declarations have units of the same names and the same notes. -/
structure SplitsAlike (d e : Declaration) : Prop where
  unitNames : d.unitNames = e.unitNames
  dropNotes : ∀ scope, d.dropNotes scope = e.dropNotes scope

/-! ## What is made of each kind of node -/

section nodes

variable {d : Declaration} {members : List Declaration}
variable (scope : List String) (name : String) (conformances : List String)
  (access : Option String) (remark : Remark)

theorem map_name_fileUnits (d : Declaration) (wrappers : List Wrapper) :
    (d.fileUnits wrappers).map (·.name) = d.unitNames := by
  rw [unitNames, fileUnits, fileUnits, List.map_map, List.map_map]
  rfl

theorem unitNames_annotated (d : Declaration) : (annotated remark d).unitNames = d.unitNames := by
  rw [unitNames, unitNames, fileUnits, fileUnits, visits,
    List.filter_cons_of_neg (by simp [hasFile]), List.filter_map, List.map_map, List.map_map,
    List.map_map]
  rfl

theorem dropNotes_annotated (d : Declaration) :
    (annotated remark d).dropNotes scope = d.dropNotes scope := by
  rw [dropNotes, dropNotes, visits,
    List.filter_cons_of_neg (by simp [isDropped, isTerminal, hasFile]), List.filter_map,
    List.map_map]
  rfl

theorem unitNames_enum (h : hasCases members = false) :
    (enum name members conformances access).unitNames = members.flatMap unitNames := by
  rw [unitNames, fileUnits_enum conformances access h, List.map_flatMap]
  rfl

/-- Splitting comes to nothing below a terminal node. -/
theorem visits_of_isTerminal (h : d.isTerminal = true) : d.visits = [⟨[], d⟩] := by
  cases d with
  | enum name members conformances access =>
    have hc : hasCases members = true := by simpa [isTerminal, isNamespace] using h
    rw [visits, hc, if_pos rfl]
  | annotated => simp [isTerminal] at h
  | _ => rfl

theorem bare_of_isTerminal (h : d.isTerminal = true) : d.bare = d := by
  cases d with
  | annotated => simp [isTerminal] at h
  | _ => rfl

theorem isPlain_of_isTerminal (h : d.isTerminal = true) : d.IsPlain := by
  rw [IsPlain, bare_of_isTerminal h, visits_of_isTerminal h]

theorem unitNames_of_isTerminal (h : d.isTerminal = true) :
    d.unitNames = if d.hasFile then [d.name?.getD ""] else [] := by
  rw [unitNames, fileUnits_of_isPlain (isPlain_of_isTerminal h), bare_of_isTerminal h]
  split
  · rfl
  · rfl

theorem dropNotes_of_isTerminal (h : d.isTerminal = true) :
    d.dropNotes scope = if d.hasFile then [] else [dropNote d.kind d.name? scope] := by
  rw [dropNotes_of_isPlain (isPlain_of_isTerminal h), bare_of_isTerminal h, isDropped, h]
  cases d.hasFile <;> rfl

/-- A terminal node hides no case: it is a namespace neither itself nor on the way to another. -/
theorem not_hidesCase_of_isTerminal (h : d.isTerminal = true) : ¬ d.HidesCase := by
  rintro ⟨r, name, members, conformances, access, hleads, hnone, -⟩
  cases hleads with
  | here => simp [isTerminal, isNamespace, hnone] at h
  | member hnone => simp [isTerminal, isNamespace, hnone] at h
  | remark => simp [isTerminal] at h

theorem hidesCase_annotated : (annotated remark d).HidesCase ↔ d.HidesCase := by
  constructor
  · rintro ⟨r, name, members, conformances, access, hleads, h⟩
    cases hleads with
    | remark hleads => exact ⟨_, name, members, conformances, access, hleads, h⟩
  · rintro ⟨r, name, members, conformances, access, hleads, h⟩
    exact ⟨_, name, members, conformances, access, .remark hleads, h⟩

theorem hidesCase_enum (hnone : hasCases members = false) :
    (enum name members conformances access).HidesCase ↔
      (∃ m ∈ members, m.bare.case?.isSome = true) ∨ ∃ m ∈ members, m.HidesCase := by
  constructor
  · rintro ⟨r, inner, found, others, modifier, hleads, hfound, hcase⟩
    cases hleads with
    | here => exact .inl hcase
    | member _ hi hleads =>
      exact .inr ⟨_, List.mem_of_getElem? hi, _, inner, found, others, modifier, hleads, hfound,
        hcase⟩
  · rintro (hcase | ⟨m, hm, r, inner, found, others, modifier, hleads, hfound, hcase⟩)
    · exact ⟨[], name, members, conformances, access, .here _, hnone, hcase⟩
    · obtain ⟨i, hi⟩ := List.mem_iff_getElem?.1 hm
      exact ⟨_, inner, found, others, modifier, .member hnone hi hleads, hfound, hcase⟩

end nodes

/-! ## Erasing -/

/-- What is a case once the remarks are erased was a case under its remarks. -/
theorem case?_erased : ∀ d : Declaration, d.erased.case? = d.bare.case?
  | .annotated _ d => by rw [erased, bare, case?_erased d]
  | .unspecified | .case _ | .stored _ | .typeAlias _ _ | .function _ _ _ | .struct _ _ _ _
  | .enum _ _ _ _ | .protocol _ _ _ _ | .extension _ _ _ => rfl

theorem hasCases_erasedAll (members : List Declaration) :
    hasCases (erasedAll members) = members.any fun m => m.bare.case?.isSome := by
  induction members with
  | nil => rfl
  | cons m rest ih =>
    have hcons : hasCases (erasedAll (m :: rest)) =
        (m.erased.case?.isSome || hasCases (erasedAll rest)) := rfl
    rw [hcons, case?_erased, ih, List.any_cons]

/-- A direct case is still one when the remarks are erased. -/
theorem hasCases_erasedAll_of_hasCases {members : List Declaration} (h : hasCases members = true) :
    hasCases (erasedAll members) = true := by
  rw [hasCases, List.any_eq_true] at h
  obtain ⟨m, hm, hcase⟩ := h
  have hbare : m.bare = m := by
    cases m with
    | case c => rfl
    | _ => simp [case?] at hcase
  rw [hasCases_erasedAll, List.any_eq_true]
  exact ⟨m, hm, by rw [hbare]; exact hcase⟩

/-- A terminal node stays one, of the same kind and name. -/
theorem erased_of_isTerminal {d : Declaration} (h : d.isTerminal = true) :
    d.erased.isTerminal = true ∧ d.erased.hasFile = d.hasFile ∧ d.erased.kind = d.kind ∧
      d.erased.name? = d.name? := by
  cases d with
  | enum name members conformances access =>
    have hcases : hasCases members = true := by simpa [isTerminal, isNamespace] using h
    have herased := hasCases_erasedAll_of_hasCases hcases
    refine ⟨?_, ?_, rfl, rfl⟩
    · simp [erased, isTerminal, isNamespace, herased]
    · rw [erased, hasFile, hasFile, herased, hcases]
  | annotated => simp [isTerminal] at h
  | _ => exact ⟨rfl, rfl, rfl, rfl⟩

namespace SplitsAlike

variable {d e : Declaration}

/-- A terminal node splits as it does when the remarks below it are erased. -/
theorem of_isTerminal (h : d.isTerminal = true) : SplitsAlike d.erased d := by
  obtain ⟨herased, hfile, hkind, hname⟩ := erased_of_isTerminal h
  refine ⟨?_, fun scope => ?_⟩
  · rw [unitNames_of_isTerminal herased, unitNames_of_isTerminal h, hfile, hname]
  · rw [dropNotes_of_isTerminal scope herased, dropNotes_of_isTerminal scope h, hfile, hkind, hname]

theorem annotated (h : SplitsAlike e d) (remark : Remark) :
    SplitsAlike e (.annotated remark d) := by
  refine ⟨?_, fun scope => ?_⟩
  · rw [unitNames_annotated, h.unitNames]
  · rw [dropNotes_annotated, h.dropNotes]

/-- What declarations that split alike have in common, member by member. -/
theorem flatMap_eq {β : Type} {f : Declaration → List β}
    (hf : ∀ d e, SplitsAlike d e → f d = f e) {members others : List Declaration}
    (h : List.Forall₂ SplitsAlike others members) : others.flatMap f = members.flatMap f := by
  induction h with
  | nil => rfl
  | cons hm _ ih => rw [List.flatMap_cons, List.flatMap_cons, hf _ _ hm, ih]

/-- Namespaces of the same name split alike if their members do. -/
theorem enum {members others : List Declaration} (h : List.Forall₂ SplitsAlike others members)
    (hothers : hasCases others = false) (hmembers : hasCases members = false) (name : String)
    (conformances : List String) (access : Option String) :
    SplitsAlike (.enum name others conformances access)
      (.enum name members conformances access) := by
  refine ⟨?_, fun scope => ?_⟩
  · rw [unitNames_enum _ _ _ hothers, unitNames_enum _ _ _ hmembers]
    exact flatMap_eq (fun _ _ hm => hm.unitNames) h
  · rw [dropNotes_enum _ _ hothers, dropNotes_enum _ _ hmembers]
    exact flatMap_eq (fun _ _ hm => hm.dropNotes _) h

end SplitsAlike

mutual

/-- **A tree that hides no case splits as it does when its remarks are erased.** -/
theorem splitsAlike_erased : ∀ d : Declaration, ¬ d.HidesCase → SplitsAlike d.erased d
  | .annotated remark d, h => by
    rw [hidesCase_annotated] at h
    exact (splitsAlike_erased d h).annotated remark
  | .enum name members conformances access, h => by
    cases hcases : hasCases members with
    | true => exact .of_isTerminal (by simp [isTerminal, isNamespace, hcases])
    | false =>
      rw [hidesCase_enum _ _ _ hcases, not_or] at h
      obtain ⟨hcase, hbelow⟩ := h
      have herased : hasCases (erasedAll members) = false := by
        rw [hasCases_erasedAll, List.any_eq_false]
        exact fun m hm hm' => hcase ⟨m, hm, hm'⟩
      have hall := splitsAlike_erasedAll members fun m hm hm' => hbelow ⟨m, hm, hm'⟩
      exact .enum hall herased hcases name conformances access
  | .unspecified, _ | .case _, _ | .stored _, _ | .typeAlias _ _, _ | .function _ _ _, _
  | .struct _ _ _ _, _ | .protocol _ _ _ _, _ | .extension _ _ _, _ => .of_isTerminal rfl

theorem splitsAlike_erasedAll : ∀ members : List Declaration, (∀ m ∈ members, ¬ m.HidesCase) →
    List.Forall₂ SplitsAlike (erasedAll members) members
  | [], _ => .nil
  | m :: rest, h => by
    have hm := splitsAlike_erased m (h m List.mem_cons_self)
    exact .cons hm (splitsAlike_erasedAll rest fun n hn => h n (List.mem_cons_of_mem _ hn))

end

/-- There is a note on a case, also under remarks. -/
theorem length_dropNotes_pos {m : Declaration} (h : m.bare.case?.isSome = true)
    (scope : List String) : 0 < (m.dropNotes scope).length := by
  obtain ⟨c, hc⟩ : ∃ c, m.bare = .case c := by
    cases hm : m.bare with
    | case c => exact ⟨c, rfl⟩
    | _ => rw [hm] at h; simp [case?] at h
  have hplain : m.IsPlain := by
    rw [IsPlain, hc]
    rfl
  rw [dropNotes_of_isPlain hplain, hc]
  exact Nat.one_pos

mutual

/-- **Erasing remarks never adds a note, and loses one if a case is hidden.** -/
theorem length_dropNotes_erased : ∀ (d : Declaration) (scope : List String),
    (d.erased.dropNotes scope).length ≤ (d.dropNotes scope).length ∧
      (d.HidesCase → (d.erased.dropNotes scope).length < (d.dropNotes scope).length)
  | .annotated remark d, scope => by
    rw [dropNotes_annotated, hidesCase_annotated]
    exact length_dropNotes_erased d scope
  | .enum name members conformances access, scope => by
    by_cases hterminal : (enum name members conformances access).isTerminal = true
    · have halike := SplitsAlike.of_isTerminal hterminal
      rw [halike.dropNotes]
      exact ⟨Nat.le_refl _, fun h => absurd h (not_hidesCase_of_isTerminal hterminal)⟩
    · have hcases : hasCases members = false := by
        simpa [isTerminal, isNamespace] using hterminal
      rw [hidesCase_enum _ _ _ hcases, dropNotes_enum _ _ hcases]
      obtain ⟨hle, hlt⟩ := length_dropNotes_erasedAll members (scope ++ [name])
      cases herased : hasCases (erasedAll members) with
      | false =>
        -- No member is a case under remarks, so the erased enum is a namespace still.
        rw [erased, dropNotes_enum _ _ herased]
        refine ⟨hle, ?_⟩
        rintro (⟨m, hm, hcase⟩ | hbelow)
        · rw [hasCases_erasedAll, List.any_eq_false] at herased
          exact absurd hcase (herased m hm)
        · exact hlt hbelow
      | true =>
        have hunit : (enum name members conformances access).erased.dropNotes scope = [] := by
          rw [erased, dropNotes_of_isTerminal _ (by simp [isTerminal, isNamespace, herased]),
            hasFile, herased, if_pos rfl]
        rw [hasCases_erasedAll, List.any_eq_true] at herased
        obtain ⟨m, hm, hcase⟩ := herased
        have hpos : 0 < (members.flatMap (dropNotes (scope ++ [name]))).length := by
          refine Nat.lt_of_lt_of_le (length_dropNotes_pos hcase (scope ++ [name])) ?_
          exact (List.sublist_flatten_of_mem (List.mem_map_of_mem hm)).length_le
        rw [hunit]
        exact ⟨Nat.zero_le _, fun _ => hpos⟩
  | .unspecified, scope | .case _, scope | .stored _, scope | .typeAlias _ _, scope
  | .function _ _ _, scope | .struct _ _ _ _, scope | .protocol _ _ _ _, scope
  | .extension _ _ _, scope => by
    rw [(SplitsAlike.of_isTerminal rfl).dropNotes]
    exact ⟨Nat.le_refl _, fun h => absurd h (not_hidesCase_of_isTerminal rfl)⟩

theorem length_dropNotes_erasedAll : ∀ (members : List Declaration) (scope : List String),
    ((erasedAll members).flatMap (dropNotes scope)).length ≤
        (members.flatMap (dropNotes scope)).length ∧
      ((∃ m ∈ members, m.HidesCase) → ((erasedAll members).flatMap (dropNotes scope)).length <
        (members.flatMap (dropNotes scope)).length)
  | [], _ => by simp [erasedAll]
  | m :: rest, scope => by
    obtain ⟨hle, hlt⟩ := length_dropNotes_erased m scope
    obtain ⟨hles, hlts⟩ := length_dropNotes_erasedAll rest scope
    rw [erasedAll, List.flatMap_cons, List.flatMap_cons, List.length_append, List.length_append]
    refine ⟨by omega, ?_⟩
    rintro ⟨n, hn, hhides⟩
    rcases List.mem_cons.1 hn with rfl | hn
    · have := hlt hhides
      omega
    · have := hlts ⟨n, hn, hhides⟩
      omega

end

end Declaration

open Declaration

/-- **Remarks decide nothing, unless a case is hidden under one.**  A tree and the same tree without
its remarks have units of the same names and the same notes, in the same order, exactly if splitting
comes to no namespace with a member that is a case under remarks. -/
theorem split_erased_iff (d : Declaration) (log : List LogLine) (old : List Diagnostic) :
    ((d.erased.split.run ⟨log, some old⟩).1.map (·.name) =
          (d.split.run ⟨log, some old⟩).1.map (·.name) ∧
        (d.erased.split.run ⟨log, some old⟩).2.collector =
          (d.split.run ⟨log, some old⟩).2.collector) ↔
      ¬ d.HidesCase := by
  rw [d.gives_split.result, d.erased.gives_split.result,
    d.gives_split.collector_of_some rfl, d.erased.gives_split.collector_of_some rfl,
    map_name_fileUnits, map_name_fileUnits, Option.some.injEq, List.append_cancel_left_eq]
  constructor
  · rintro ⟨-, hnotes⟩ hhides
    have hlt := (length_dropNotes_erased d []).2 hhides
    rw [hnotes] at hlt
    exact Nat.lt_irrefl _ hlt
  · intro h
    have halike := splitsAlike_erased d h
    exact ⟨halike.unitNames, halike.dropNotes []⟩

/-- An enum whose only case has a comment: there is a note on the case and no unit, and without the
comment it is the other way round. -/
theorem commented_case_hides_enum :
    let d : Declaration := .enum "Status"
      [.annotated (.comment (.text "No longer there.")) (.case ⟨"sold", some "sold", none⟩)] []
      defaultAccess
    (d.split.run .collecting).1.map (·.name) = [] ∧
      (d.split.run .collecting).2.collector =
        some [⟨.note, "Dropped enumcase without a file of its own", some "Status.sold"⟩] ∧
      (d.erased.split.run .collecting).1.map (·.name) = ["Status"] ∧
      (d.erased.split.run .collecting).2.collector = some [] := by
  have hword : Kind.enumCase.word = "enumcase" := by
    rw [Kind.word, ← String.toList_inj, String.toList_map]
    rfl
  have hnote : dropNote .enumCase (some "sold") ["Status"] =
      ⟨.note, "Dropped enumcase without a file of its own", some "Status.sold"⟩ := by
    rw [dropNote, hword]
    rfl
  refine ⟨rfl, ?_, rfl, rfl⟩
  rw [← hnote]
  rfl

end TypeFiles
