/-
# What a schema becomes

A schema becomes one of three things under its remarks, and which of them splitting gives a file,
leaves out with a note, or walks through:

| body | splitting |
| --- | --- |
| an alias | a note |
| a struct | a unit |
| an enum with a case | a unit |
| an enum without one | neither: it counts as a namespace |

An enum without a case comes of one kind of schema only, an enumeration of nothing but null
(`Schema.isNullEnumeration`).  `Becomes` is the table as a relation, and `becomes_of_body` says that
nothing else is derived; what splitting makes of derived declarations is read off its three cases.
What stands in them, and when there is a body at all, is read off `body_eq_ok_iff`.
-/

import TypeFiles.Proofs.Derivation.Components
import TypeFiles.Proofs.Splitting.Bare

namespace TypeFiles

open Declaration

/-- Whether a value is null. -/
def Value.isNull : Value → Bool
  | .null => true
  | _ => false

/-- Whether there are values to make cases of, and all of them are null. -/
def Shape.isNullEnumeration : Shape → Bool
  | .values vs => vs.all Value.isNull
  | _ => false

namespace Schema

/-- Whether a schema is an enumeration of nothing but null: it has neither a reference nor
alternatives, it is a text or of no type, and it has values, all of them null. -/
def isNullEnumeration (s : Schema) : Bool :=
  s.target.isNone && s.oneOf.isEmpty && s.anyOf.isEmpty &&
    (s.primaryType == none || s.primaryType == some "string") &&
    !s.values.isEmpty && s.values.all Value.isNull

theorem isEmpty_alternatives (s : Schema) :
    s.alternatives.isEmpty = (s.oneOf.isEmpty && s.anyOf.isEmpty) := by
  unfold alternatives
  cases h : s.oneOf.isEmpty with
  | true => rw [if_pos rfl, Bool.true_and]
  | false => rw [if_neg Bool.false_ne_true, h, Bool.false_and]

/-- Such a schema is told by the rule that fits it. -/
theorem isNullEnumeration_eq_shape (s : Schema) :
    s.isNullEnumeration = s.shape.isNullEnumeration := by
  unfold isNullEnumeration shape
  rw [Bool.and_assoc s.target.isNone, ← isEmpty_alternatives, ← Option.not_isSome]
  cases s.target.isSome with
  | true => rfl
  | false =>
    cases s.alternatives.isEmpty with
    | false => rfl
    | true =>
      simp only [Bool.not_false, Bool.true_and, Bool.not_true, Bool.false_eq_true, if_false,
        Bool.and_comm (!s.values.isEmpty)]
      split_ifs with hvalues
      · rw [hvalues, Bool.true_and]
        rfl
      all_goals
        rw [Bool.not_eq_true] at hvalues
        rw [hvalues]
        rfl

variable {s : Schema}

/-- A schema becomes a union only if it has alternatives. -/
theorem ne_nil_of_shape_union {alternatives : List Schema}
    (h : s.shape = .union alternatives) : alternatives ≠ [] := by
  unfold shape at h
  split_ifs at h with _ hne
  rw [Shape.union.injEq] at h
  subst h
  simpa using hne

end Schema

namespace Derivation

/-- Null is the only value without a case. -/
theorem valueCase?_eq_none_iff (v : Value) : valueCase? v = none ↔ v.isNull = true := by
  cases v <;> simp [valueCase?, Value.isNull]

/-- An enumeration is left without a case exactly if all its values are null. -/
theorem isEmpty_filterMap_valueCase? (vs : List Value) :
    (vs.filterMap valueCase?).isEmpty = vs.all Value.isNull := by
  rw [Bool.eq_iff_iff, List.isEmpty_iff, List.filterMap_eq_nil_iff, List.all_eq_true]
  exact forall₂_congr fun v _ => valueCase?_eq_none_iff v

/-- What a schema can become, without the remarks around it. -/
inductive Becomes (s : Schema) (name : String) : Declaration → Prop where
  | typeAlias (existingType : String) (h : s.isNullEnumeration = false) :
      Becomes s name (.typeAlias name existingType)
  | struct (fields : List Variable) (h : s.isNullEnumeration = false) :
      Becomes s name (.struct name (fields.map .stored) ["BaseModel"] defaultAccess)
  | enum (cases : List EnumCase) (conformances : List String)
      (h : s.isNullEnumeration = cases.isEmpty) :
      Becomes s name (.enum name (cases.map .case) conformances defaultAccess)

variable {keys : List String} {key name context : String} {s : Schema} {b d : Declaration}

/-- What it takes for a schema to have a body, and which one, by the rule that fits. -/
theorem body_eq_ok_iff : body keys name context s = .ok b ↔
    match s.shape with
    | .reference | .alias =>
      ∃ type, typeName keys context s = .ok type ∧ b = .typeAlias name type
    | .union alternatives =>
      ∃ cases, List.Forall₂ (fun a c => alternativeCase keys context a = .ok c)
          alternatives.zipIdx cases ∧
        b = .enum name (cases.map .case) [] defaultAccess
    | .values vs => vs.all Value.hasText = true ∧
        b = .enum name ((vs.filterMap valueCase?).map .case) ["str"] defaultAccess
    | .object =>
      ∃ fields, List.Forall₂ (fun p v => variableOf keys context s.required p = .ok v)
          s.properties fields ∧
        b = .struct name (fields.map .stored) ["BaseModel"] defaultAccess := by
  have hmap : ∀ {α β : Type} {f : α → Except Failure β} {l : List α} {g : List β → Declaration},
      (do return g (← l.mapM f)) = Except.ok b ↔
        ∃ found, List.Forall₂ (fun x y => f x = .ok y) l found ∧ b = g found := by
    intro α β f l g
    rw [bind_eq_ok_iff]
    refine exists_congr fun found => and_congr mapM_eq_ok_iff ?_
    exact ⟨fun h => (Except.ok.inj h).symm, fun h => congrArg Except.ok h.symm⟩
  unfold body
  cases s.shape with
  | union alternatives => exact hmap
  | values vs =>
    dsimp only
    split_ifs with hall
    · exact ⟨fun h => ⟨hall, (Except.ok.inj h).symm⟩, fun h => congrArg Except.ok h.2.symm⟩
    · exact iff_of_false nofun fun h => hall h.1
  | object => exact hmap
  | _ =>
    rw [map_eq_ok_iff]
    exact exists_congr fun type => and_congr_right fun _ => eq_comm

/-- **A body is an alias, a struct or an enum**, and it is an enum without a case only for an
enumeration of nothing but null. -/
theorem becomes_of_body (h : body keys name context s = .ok b) : Becomes s name b := by
  rw [body_eq_ok_iff] at h
  have hnull := s.isNullEnumeration_eq_shape
  cases hs : s.shape with
  | union alternatives =>
    rw [hs] at h hnull
    obtain ⟨cases, hcases, rfl⟩ := h
    have hlength : alternatives.zipIdx.length = cases.length := hcases.length_eq
    have hne : cases.isEmpty = false := by
      have := List.length_pos_iff.2 (Schema.ne_nil_of_shape_union hs)
      rw [List.length_zipIdx] at hlength
      rw [List.isEmpty_eq_false_iff, ← List.length_pos_iff]
      omega
    exact .enum cases [] (hnull.trans hne.symm)
  | values vs =>
    rw [hs] at h hnull
    obtain ⟨-, rfl⟩ := h
    exact .enum _ _ (hnull.trans (isEmpty_filterMap_valueCase? vs).symm)
  | object =>
    rw [hs] at h hnull
    obtain ⟨fields, -, rfl⟩ := h
    exact .struct fields hnull
  | _ =>
    rw [hs] at h hnull
    obtain ⟨existingType, -, rfl⟩ := h
    exact .typeAlias existingType hnull

theorem hasCases_map_case (cases : List EnumCase) :
    hasCases (cases.map .case) = !cases.isEmpty := by
  cases cases <;> rfl

theorem cases_map_case (cases : List EnumCase) : Declaration.cases (cases.map .case) = cases := by
  rw [Declaration.cases, List.filterMap_map]
  exact List.filterMap_some

namespace Becomes

/-- Splitting comes to a body and to nothing below it. -/
theorem visits (h : Becomes s name b) : b.visits = [⟨[], b⟩] := by
  cases h with
  | typeAlias | struct => rfl
  | enum cases conformances h =>
    rw [Declaration.visits]
    cases cases <;> rfl

theorem bare_eq (h : Becomes s name b) : b.bare = b := by
  cases h <;> rfl

theorem name_eq (h : Becomes s name b) : b.name? = some name := by
  cases h <;> rfl

theorem not_case (h : Becomes s name b) : b.case? = none := by
  cases h <;> rfl

/-- **What splitting makes of a body**: a unit, a note on an alias, or neither. -/
theorem unit_or_note (h : Becomes s name b) :
    (b.hasFile = true ∧ b.isDropped = false ∧ s.isNullEnumeration = false) ∨
    (b.hasFile = false ∧ b.isDropped = true ∧ b.kind = .typeAlias ∧ s.isNullEnumeration = false) ∨
    (b.hasFile = false ∧ b.isDropped = false ∧ s.isNullEnumeration = true) := by
  cases h with
  | typeAlias existingType h => exact .inr (.inl ⟨rfl, rfl, rfl, h⟩)
  | struct fields h => exact .inl ⟨rfl, rfl, h⟩
  | enum cases conformances h =>
    rw [hasFile, isDropped, isTerminal, isNamespace, hasFile, hasCases_map_case, h]
    · cases cases.isEmpty <;> simp
    · intro remark d h
      cases h

end Becomes

/-- The declaration of a schema is its body under remarks. -/
theorem declaration_eq_ok_iff : declaration keys key s = .ok d ↔
    ∃ b, body keys (Name.forType key) key s = .ok b ∧ remarked s b = d := map_eq_ok_iff

theorem bare_remarked (s : Schema) (b : Declaration) : (remarked s b).bare = b.bare := by
  unfold remarked
  dsimp only
  split_ifs <;> rfl

theorem case?_remarked (s : Schema) (h : b.case? = none) : (remarked s b).case? = none := by
  unfold remarked
  dsimp only
  split_ifs
  · rfl
  · rfl
  · rfl
  · exact h

/-- **Under its remarks, the declaration of a schema is a body.** -/
theorem becomes_of_declaration (h : declaration keys key s = .ok d) :
    Becomes s (Name.forType key) d.bare := by
  obtain ⟨b, hb, rfl⟩ := declaration_eq_ok_iff.1 h
  have hbecomes := becomes_of_body hb
  rw [bare_remarked, hbecomes.bare_eq]
  exact hbecomes

theorem isPlain_of_declaration (h : declaration keys key s = .ok d) : d.IsPlain :=
  (becomes_of_declaration h).visits

theorem not_case_of_declaration (h : declaration keys key s = .ok d) : d.case? = none := by
  obtain ⟨b, hb, rfl⟩ := declaration_eq_ok_iff.1 h
  exact case?_remarked s (becomes_of_body hb).not_case

/-- The namespaces of a document hold no case, so they are namespaces. -/
theorem hasCases_of_declarations {schemas : List (String × Schema)} {ds : List Declaration}
    (h : List.Forall₂ (fun e d => declaration keys e.1 e.2 = .ok d) schemas ds) :
    hasCases ds = false := by
  induction h with
  | nil => rfl
  | cons hd _ ih =>
    rw [hasCases, List.any_cons, not_case_of_declaration hd, Option.isSome_none, Bool.false_or]
    exact ih

end Derivation

/-- **Splitting the namespaces of a document splits its declarations in turn.** -/
theorem gives_split_componentsBlock {ds : List Declaration} (h : hasCases ds = false) :
    Reporting.Gives (Deriver.componentsBlock ds).split (ds.flatMap (fileUnits []))
      (ds.flatMap (dropNotes ["Components", "Schemas"])) := by
  have hgives := gives_split (namespaceOf "Components" [namespaceOf "Schemas" ds])
  rw [namespaceOf, namespaceOf, fileUnits_enum _ _ rfl, dropNotes_enum _ _ rfl,
    List.flatMap_singleton, List.flatMap_singleton, fileUnits_enum _ _ h, dropNotes_enum _ _ h]
    at hgives
  exact hgives

end TypeFiles
