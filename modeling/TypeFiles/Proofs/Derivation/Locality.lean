/-
# What the declaration of a schema depends on

Besides its key and itself, the declaration of a schema depends on the document in one way only:
references are looked up among the keys.  So two documents with the same keys give a schema the same
declaration, or the same failure, and a document with more keys gives it the same declaration if it
has one at all.

Both are the same fact about two relations between steps that may fail.  A relation is a
`Congruence` if it passes from steps to what is put together from them, and
`Congruence.declaration` says that such a relation passes from references to whole declarations.
Equality is one, and `Keeps` is one.
-/

import TypeFiles.Proofs.Derivation.Components
import TypeFiles.Proofs.Derivation.TypeName

namespace TypeFiles

variable {α β : Type}

/-- A relation between steps that may fail, which passes to what is put together from them. -/
structure Congruence (R : ∀ α : Type, Except Failure α → Except Failure α → Prop) : Prop where
  refl {α : Type} (x : Except Failure α) : R α x x
  bind {α β : Type} {x y : Except Failure α} {f g : α → Except Failure β} (step : R α x y)
    (next : ∀ a, R β (f a) (g a)) : R β (x >>= f) (y >>= g)

/-- A step succeeds with the same result as another one, if that succeeds. -/
def Keeps (α : Type) (x y : Except Failure α) : Prop := ∀ a, x = .ok a → y = .ok a

theorem congruence_eq : Congruence fun α => @Eq (Except Failure α) where
  refl x := rfl
  bind step next := by rw [step, funext next]

theorem congruence_keeps : Congruence Keeps where
  refl x := fun _ h => h
  bind step next := by
    intro b h
    obtain ⟨a, ha, hb⟩ := bind_eq_ok_iff.1 h
    exact bind_eq_ok_iff.2 ⟨a, step a ha, next a b hb⟩

namespace Congruence

variable {R : ∀ α : Type, Except Failure α → Except Failure α → Prop} (hR : Congruence R)
include hR

theorem map {x y : Except Failure α} (h : R α x y) (f : α → β) : R β (x.map f) (y.map f) := by
  have hbind : ∀ x : Except Failure α, x.map f = x >>= fun a => .ok (f a) := fun x => by
    cases x <;> rfl
  rw [hbind, hbind]
  exact hR.bind h fun a => hR.refl _

theorem mapM {f g : α → Except Failure β} (h : ∀ a, R β (f a) (g a)) (l : List α) :
    R (List β) (l.mapM f) (l.mapM g) := by
  induction l with
  | nil => exact hR.refl _
  | cons a rest ih =>
    rw [List.mapM_cons, List.mapM_cons]
    exact hR.bind (h a) fun b => hR.bind ih fun bs => hR.refl _

open TypeFiles.Derivation

variable {keys other : List String}
  (hresolve : ∀ ref context, R String (resolve keys ref context) (resolve other ref context))
include hresolve

/-- The keys come in where a reference is looked up at the end of the arrays. -/
theorem typeName (context : String) (s : Schema) :
    R String (typeName keys context s) (typeName other context s) := by
  induction s using Schema.induction_on_items with
  | step s ih =>
    cases htarget : s.target with
    | some target =>
      rw [typeName_of_target htarget, typeName_of_target htarget]
      cases target with
      | pointer ref => exact hresolve ref context
      | unreadable => exact hR.refl _
    | none =>
      by_cases harray : s.primaryType = some "array"
      · rw [typeName_of_array htarget harray, typeName_of_array htarget harray]
        refine hR.map ?_ _
        cases hitems : s.items with
        | none => exact hR.refl _
        | some item => exact ih item hitems
      · rw [typeName_of_not_array htarget harray, typeName_of_not_array htarget harray]
        exact hR.refl _

theorem variableOf (context : String) (required : List String) (property : String × Schema) :
    R Variable (variableOf keys context required property)
      (variableOf other context required property) := by
  rw [variableOf_eq, variableOf_eq]
  exact hR.bind (hR.refl _) fun name => hR.map (hR.typeName hresolve _ _) _

theorem alternativeCase (context : String) (alternative : Schema × Nat) :
    R EnumCase (alternativeCase keys context alternative)
      (alternativeCase other context alternative) := by
  rw [alternativeCase_eq, alternativeCase_eq]
  exact hR.map (hR.typeName hresolve _ _) _

theorem body (name context : String) (s : Schema) :
    R Declaration (body keys name context s) (body other name context s) := by
  unfold Derivation.body
  cases s.shape with
  | union alternatives =>
    exact hR.bind (hR.mapM (hR.alternativeCase hresolve context) _) fun cases => hR.refl _
  | values vs => exact hR.refl _
  | object =>
    exact hR.bind (hR.mapM (hR.variableOf hresolve context s.required) _) fun fields => hR.refl _
  | _ => exact hR.map (hR.typeName hresolve context s) _

/-- **Declarations are related as references are.** -/
theorem declaration (key : String) (s : Schema) :
    R Declaration (declaration keys key s) (declaration other key s) :=
  hR.map (hR.body hresolve _ key s) _

end Congruence

namespace Derivation

variable {keys other : List String} {key : String} {s : Schema} {d : Declaration}

/-- **A declaration, or a failure, depends on the keys of a document as a set.** -/
theorem declaration_congr (h : ∀ key, key ∈ keys ↔ key ∈ other) (key : String) (s : Schema) :
    declaration keys key s = declaration other key s := by
  refine congruence_eq.declaration (fun ref context => ?_) key s
  have hcontains : ∀ key, keys.contains key = other.contains key := fun key => by
    rw [Bool.eq_iff_iff, List.contains_iff_mem, List.contains_iff_mem, h]
  unfold resolve
  simp only [hcontains]

/-- **With more keys, a declaration stays as it is.** -/
theorem declaration_mono (h : keys ⊆ other) (hd : declaration keys key s = .ok d) :
    declaration other key s = .ok d := by
  refine congruence_keeps.declaration (fun ref context name hname => ?_) key s d hd
  obtain ⟨target, hmem, href, heq⟩ := resolve_eq_ok_iff.1 hname
  exact resolve_eq_ok_iff.2 ⟨target, h hmem, href, heq⟩

end Derivation
end TypeFiles
