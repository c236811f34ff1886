/-
# Nulls in a schema

A schema may name `null` among its types, and list it among its values, any number of times and
anywhere.  None of it shows in the declarations:

| where | what is looked at |
| --- | --- |
| types | the first one that is not `null` |
| values | whether there are any, and those that are not null |

`NullAdded` is the step that puts one null into a schema or into one of the schemas inside it, at
any depth.  A derivation does not tell the two schemas apart (`DerivedAlike`), so it does not tell
documents apart of which one comes from the other by any number of steps
(`declarations_of_nullsAdded`).
-/

import Mathlib.Logic.Relation
import TypeFiles.Proofs.Derivation.Components
import TypeFiles.Proofs.Derivation.TypeName

namespace TypeFiles

open TypeFiles.Derivation

/-! ## One place of a list -/

/-- Two lists are the same but for one place, where what stands in one is related to what stands in
the other. -/
inductive AtOnePlace {α : Type} (R : α → α → Prop) : List α → List α → Prop where
  | intro (before after : List α) {x y : α} (h : R x y) :
      AtOnePlace R (before ++ x :: after) (before ++ y :: after)

/-- Two entries have one key, and their values are related. -/
def UnderOneKey {κ α : Type} (R : α → α → Prop) (e e' : κ × α) : Prop := e.1 = e'.1 ∧ R e.2 e'.2

namespace AtOnePlace

variable {α : Type} {R : α → α → Prop} {l l' : List α}

theorem forall₂ (h : AtOnePlace R l l') (hrefl : ∀ x, R x x) : List.Forall₂ R l l' := by
  obtain ⟨before, after, h⟩ := h
  exact List.rel_append (List.forall₂_same.2 fun z _ => hrefl z)
    (.cons h (List.forall₂_same.2 fun z _ => hrefl z))

theorem append_right (h : AtOnePlace R l l') (m : List α) : AtOnePlace R (l ++ m) (l' ++ m) := by
  obtain ⟨before, after, h⟩ := h
  rw [List.append_assoc, List.append_assoc]
  exact .intro before (after ++ m) h

theorem append_left (h : AtOnePlace R l l') (m : List α) : AtOnePlace R (m ++ l) (m ++ l') := by
  obtain ⟨before, after, h⟩ := h
  rw [← List.append_assoc, ← List.append_assoc]
  exact .intro (m ++ before) after h

end AtOnePlace

namespace Schema

/-- One null is added to a schema: to its types, to its values if it has any, or to a schema inside
it. -/
inductive NullAdded : Schema → Schema → Prop where
  | type {s : Schema} {before after : List String} (h : s.types = before ++ after) :
      NullAdded s { s with types := before ++ "null" :: after }
  | value {s : Schema} {before after : List Value} (h : s.values = before ++ after)
      (hne : s.values ≠ []) : NullAdded s { s with values := before ++ .null :: after }
  | property {s p q : Schema} {name : String} {before after : List (String × Schema)}
      (hp : NullAdded p q) (h : s.properties = before ++ (name, p) :: after) :
      NullAdded s { s with properties := before ++ (name, q) :: after }
  | items {s p q : Schema} (hp : NullAdded p q) (h : s.items = some p) :
      NullAdded s { s with items := some q }
  | oneOf {s p q : Schema} {before after : List Schema} (hp : NullAdded p q)
      (h : s.oneOf = before ++ p :: after) : NullAdded s { s with oneOf := before ++ q :: after }
  | anyOf {s p q : Schema} {before after : List Schema} (hp : NullAdded p q)
      (h : s.anyOf = before ++ p :: after) : NullAdded s { s with anyOf := before ++ q :: after }

end Schema

namespace Derivation

/-! ## What a derivation looks at -/

/-- Where a type is named, two schemas are the same. -/
structure NamedAlike (keys : List String) (s t : Schema) : Prop where
  target : s.target = t.target
  typeName (context : String) : typeName keys context s = typeName keys context t

/-- A derivation does not tell two schemas apart, neither where a type is named nor under a key. -/
structure DerivedAlike (keys : List String) (s t : Schema) : Prop extends NamedAlike keys s t where
  primaryType : s.primaryType = t.primaryType
  hasValues : s.values.isEmpty = t.values.isEmpty
  hasTexts : s.values.all Value.hasText = t.values.all Value.hasText
  cases : s.values.filterMap valueCase? = t.values.filterMap valueCase?
  required : s.required = t.required
  properties : List.Forall₂ (UnderOneKey (NamedAlike keys)) s.properties t.properties
  oneOf : List.Forall₂ (NamedAlike keys) s.oneOf t.oneOf
  anyOf : List.Forall₂ (NamedAlike keys) s.anyOf t.anyOf
  description : s.description = t.description
  deprecated : s.deprecated = t.deprecated

variable {keys : List String} {key name context : String} {s t : Schema}

theorem NamedAlike.refl (keys : List String) (s : Schema) : NamedAlike keys s s :=
  ⟨rfl, fun _ => rfl⟩

theorem DerivedAlike.refl (keys : List String) (s : Schema) : DerivedAlike keys s s where
  toNamedAlike := .refl keys s
  primaryType := rfl
  hasValues := rfl
  hasTexts := rfl
  cases := rfl
  required := rfl
  properties := List.forall₂_same.2 fun p _ => ⟨rfl, .refl keys p.2⟩
  oneOf := List.forall₂_same.2 fun p _ => .refl keys p
  anyOf := List.forall₂_same.2 fun p _ => .refl keys p
  description := rfl
  deprecated := rfl

namespace DerivedAlike

theorem alternatives (h : DerivedAlike keys s t) :
    List.Forall₂ (NamedAlike keys) s.alternatives t.alternatives := by
  unfold Schema.alternatives
  rw [isEmpty_eq_of_forall₂ h.oneOf]
  split
  · exact h.anyOf
  · exact h.oneOf

/-- The properties become the same variables. -/
theorem mapM_variableOf (h : DerivedAlike keys s t) :
    s.properties.mapM (variableOf keys context s.required) =
      t.properties.mapM (variableOf keys context t.required) := by
  refine mapM_eq_of_forall₂ (h.properties.imp ?_)
  rintro ⟨name, p⟩ ⟨_, q⟩ ⟨rfl, halike⟩
  rw [variableOf_eq, variableOf_eq, h.required]
  simp only [halike.typeName]

/-- The alternatives become the same cases. -/
theorem mapM_alternativeCase (h : DerivedAlike keys s t) :
    s.alternatives.zipIdx.mapM (alternativeCase keys context) =
      t.alternatives.zipIdx.mapM (alternativeCase keys context) := by
  refine mapM_eq_of_forall₂ ((forall₂_zipIdx h.alternatives 0).imp ?_)
  rintro ⟨a, i⟩ ⟨b, _⟩ ⟨rfl, halike⟩
  rw [alternativeCase_eq, alternativeCase_eq, halike.typeName, halike.target]

/-- The same rule fits, and makes the same of them. -/
theorem body (h : DerivedAlike keys s t) :
    body keys name context s = body keys name context t := by
  unfold Derivation.body Schema.shape
  rw [h.target, h.primaryType, h.hasValues, isEmpty_eq_of_forall₂ h.alternatives,
    isEmpty_eq_of_forall₂ h.properties]
  split_ifs
  · exact congrArg (Except.map (Declaration.typeAlias name)) (h.typeName context)
  · dsimp only
    rw [h.mapM_alternativeCase]
  · dsimp only
    rw [h.hasTexts, h.cases]
  · dsimp only
    rw [h.mapM_variableOf]
  · exact congrArg (Except.map (Declaration.typeAlias name)) (h.typeName context)

/-- **What is not told apart has the same declaration**, or fails the same. -/
theorem declaration (h : DerivedAlike keys s t) :
    declaration keys key s = declaration keys key t := by
  have hremarked : remarked s = remarked t := by
    funext d
    rw [remarked, remarked, h.description, h.deprecated]
  rw [Derivation.declaration, Derivation.declaration, h.body, hremarked]

end DerivedAlike

/-! ## What a null changes -/

theorem find?_insert_null (before after : List String) :
    ((before ++ "null" :: after).find? fun t => t != "null") =
      (before ++ after).find? fun t => t != "null" := by
  rw [List.find?_append, List.find?_append, List.find?_cons_of_neg (by simp)]

theorem filterMap_insert_null (before after : List Value) :
    (before ++ .null :: after).filterMap valueCase? = (before ++ after).filterMap valueCase? := by
  rw [List.filterMap_append, List.filterMap_append, List.filterMap_cons_none rfl]

theorem all_hasText_insert_null (before after : List Value) :
    (before ++ .null :: after).all Value.hasText = (before ++ after).all Value.hasText := by
  have hnull : Value.null.hasText = true := rfl
  rw [List.all_append, List.all_append, List.all_cons, hnull, Bool.true_and]

/-- **A derivation does not see a null that is added to a schema.** -/
theorem derivedAlike_of_nullAdded (h : s.NullAdded t) : DerivedAlike keys s t := by
  induction h with
  | @type s before after h =>
    have hprimary : s.primaryType =
        Schema.primaryType { s with types := before ++ "null" :: after } := by
      rw [Schema.primaryType, Schema.primaryType, h, find?_insert_null]
    exact { DerivedAlike.refl keys s with
      primaryType := hprimary
      typeName := fun context => typeName_congr rfl hprimary rfl rfl }
  | @value s before after h hne =>
    have hempty : (before ++ .null :: after).isEmpty = s.values.isEmpty := by
      rw [List.isEmpty_eq_false_iff.2 hne, List.isEmpty_eq_false_iff]
      simp
    exact { DerivedAlike.refl keys s with
      hasValues := hempty.symm
      hasTexts := by rw [h, all_hasText_insert_null]
      cases := by rw [h, filterMap_insert_null]
      typeName := fun context => typeName_congr rfl rfl rfl rfl }
  | @property s p q name before after _ h ih =>
    exact { DerivedAlike.refl keys s with
      properties := by
        rw [h]
        exact (AtOnePlace.intro before after ⟨rfl, ih.toNamedAlike⟩).forall₂ fun e =>
          ⟨rfl, .refl keys e.2⟩
      typeName := fun context => typeName_congr rfl rfl rfl rfl }
  | @items s p q _ h ih =>
    refine { DerivedAlike.refl keys s with
      typeName := fun context => typeName_congr rfl rfl rfl ?_ }
    rw [h, itemType, itemType, ih.typeName]
  | @oneOf s p q before after _ h ih =>
    exact { DerivedAlike.refl keys s with
      oneOf := by
        rw [h]
        exact (AtOnePlace.intro before after ih.toNamedAlike).forall₂ (.refl keys)
      typeName := fun context => typeName_congr rfl rfl rfl rfl }
  | @anyOf s p q before after _ h ih =>
    exact { DerivedAlike.refl keys s with
      anyOf := by
        rw [h]
        exact (AtOnePlace.intro before after ih.toNamedAlike).forall₂ (.refl keys)
      typeName := fun context => typeName_congr rfl rfl rfl rfl }

/-! ## Documents -/

/-- One null is added to one of the schemas of a document. -/
abbrev NullAddedIn : List (String × Schema) → List (String × Schema) → Prop :=
  AtOnePlace (UnderOneKey Schema.NullAdded)

variable {schemas other : List (String × Schema)}

theorem declarations_of_nullAdded (h : NullAddedIn schemas other) :
    declarations schemas = declarations other := by
  have halike : List.Forall₂ (UnderOneKey fun s t => ∀ keys, DerivedAlike keys s t)
      schemas other := by
    obtain ⟨before, after, hkey, hs⟩ := h
    exact (AtOnePlace.intro before after ⟨hkey, fun _ => derivedAlike_of_nullAdded hs⟩).forall₂
      fun e => ⟨rfl, fun keys => .refl keys e.2⟩
  have hkeys : schemas.map (·.1) = other.map (·.1) := by
    rw [← List.forall₂_eq_eq_eq, List.forall₂_map_left_iff, List.forall₂_map_right_iff]
    exact halike.imp fun _ _ h => h.1
  unfold declarations
  rw [hkeys]
  refine mapM_eq_of_forall₂ (halike.imp ?_)
  rintro ⟨key, s⟩ ⟨_, t⟩ ⟨rfl, h⟩
  exact (h _).declaration

/-- **Nulls that are added to a document, anywhere and any number of them, change neither its
declarations nor its failure.** -/
theorem declarations_of_nullsAdded (h : Relation.ReflTransGen NullAddedIn schemas other) :
    declarations schemas = declarations other := by
  induction h with
  | refl => rfl
  | tail _ hstep ih => exact ih.trans (declarations_of_nullAdded hstep)

end Derivation
end TypeFiles
