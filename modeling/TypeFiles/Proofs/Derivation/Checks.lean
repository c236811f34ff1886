/-
# When a document cannot be derived

Deriving a document comes down to a list of checks, each on one thing that a schema says.  Which
checks there are depends on the first rule that fits:

| schema under `key` | checks, in order |
| --- | --- |
| has a reference | that reference |
| has alternatives | for each of them, the reference at the end of its arrays |
| has values and is a text or of no type | none |
| is an object, or has properties | for each property, that it has a name, then as for any other |
| any other | the reference at the end of its arrays |

The checks of a document are those of its schemas, one after the other, and they decide what becomes
of it as its steps are decided, one by one.

The values of an enumeration are not free of failure either: a whole number with too many digits
cannot be written.  `derive_decided_iff` says that the checks above decide a document exactly if no
such value comes up before the first of them fails.
-/

import TypeFiles.Proofs.Derivation.Components
import TypeFiles.Proofs.Derivation.Decides
import TypeFiles.Proofs.Derivation.TypeName

namespace TypeFiles

/-! ## The checks of a schema -/

namespace Schema

/-- The check of the reference at the end of the arrays of a schema, if there is one. -/
def leafChecks (context : String) (s : Schema) : List Check :=
  s.leaf?.toList.map fun found => .reference found.2 context

/-- The checks of a property: of its name, and then of its schema. -/
def propertyChecks (key : String) (property : String × Schema) : List Check :=
  .named property.1 :: property.2.leafChecks (key ++ "." ++ property.1)

/-- The checks of the schema under a key. -/
def checks (key : String) (s : Schema) : List Check :=
  match s.target with
  | some target => [.reference target key]
  | none =>
    if s.alternatives.isEmpty = false then s.alternatives.flatMap (leafChecks key)
    else if s.values.isEmpty = false ∧
        (s.primaryType = none ∨ s.primaryType = some "string") then []
    else if s.primaryType = some "object" ∨ s.properties.isEmpty = false then
      s.properties.flatMap (propertyChecks key)
    else s.leafChecks key

/-- The values that a schema enumerates, if that is the rule that fits. -/
def enumerated (s : Schema) : List Value :=
  match s.shape with
  | .values vs => vs
  | _ => []

/-- The checks of a schema by the rule that fits. -/
theorem checks_eq_shape (key : String) (s : Schema) : s.checks key =
    match s.shape with
    | .reference | .alias => s.leafChecks key
    | .union alternatives => alternatives.flatMap (leafChecks key)
    | .values _ => []
    | .object => s.properties.flatMap (propertyChecks key) := by
  unfold checks shape
  cases htarget : s.target with
  | some target =>
    simp only [Option.isSome_some, if_true, leafChecks, leaf?_of_target htarget, Option.toList_some,
      List.map_cons, List.map_nil]
  | none =>
    simp only [Option.isSome_none, Bool.false_eq_true, if_false, Bool.and_eq_true, Bool.or_eq_true,
      Bool.not_eq_true', beq_iff_eq]
    split_ifs <;> rfl

/-- An enumeration has values only, and no other checks. -/
theorem checks_of_enumerated {s : Schema} {v : Value} (h : v ∈ s.enumerated) (key : String) :
    s.checks key = [] := by
  unfold enumerated at h
  rw [checks_eq_shape]
  cases hshape : s.shape with
  | values vs => rfl
  | _ => rw [hshape] at h; cases h

theorem not_written_of_mem_checks {s : Schema} {key : String} {c : Check} (h : c ∈ s.checks key)
    (v : Value) : c ≠ .written v := by
  have hleaf : ∀ (t : Schema) (context : String), .written v ∉ t.leafChecks context := by
    intro t context hmem
    obtain ⟨found, -, hfound⟩ := List.mem_map.1 hmem
    cases hfound
  rintro rfl
  rw [checks_eq_shape] at h
  split at h
  · exact hleaf _ _ h
  · exact hleaf _ _ h
  · obtain ⟨t, -, ht⟩ := List.mem_flatMap.1 h
    exact hleaf _ _ ht
  · cases h
  · obtain ⟨p, -, hp⟩ := List.mem_flatMap.1 h
    rcases List.mem_cons.1 hp with hp | hp
    · cases hp
    · exact hleaf _ _ hp

end Schema

namespace Derivation

open Decides

variable {keys : List String}

/-- A reference fails in one of three ways. -/
theorem resolve_eq_error_iff {ref context : String} {f : Failure} :
    resolve keys ref context = .error f ↔
      (Check.reference (.pointer ref) context).Fails keys f := by
  constructor
  · intro h
    unfold resolve at h
    split at h
    · rename_i hhash
      obtain rfl := Except.error.inj h
      refine .external fun hrest => ?_
      rw [head?_eq_hash_iff.2 hrest] at hhash
      simp at hhash
    · rename_i hhash
      have hrest := head?_eq_hash_iff.1 (by simpa using hhash)
      split at h
      · rename_i hlocal
        obtain rfl := Except.error.inj h
        refine .foreign hrest fun ⟨key, hkey⟩ => ?_
        rw [localKey?_eq_some_iff.2 hkey] at hlocal
        cases hlocal
      · rename_i key hlocal
        obtain rfl := localKey?_eq_some_iff.1 hlocal
        split at h
        · cases h
        · rename_i hmem
          obtain rfl := Except.error.inj h
          exact .missing fun hkey => hmem (List.contains_iff_mem.2 hkey)
  · intro h
    unfold resolve
    cases h with
    | external other =>
      rw [if_pos]
      · rfl
      · simpa using fun h => other (head?_eq_hash_iff.1 h)
    | foreign same other =>
      have hlocal : localKey? ref = none :=
        Option.eq_none_iff_forall_ne_some.2 fun key hkey =>
          other ⟨key, localKey?_eq_some_iff.1 hkey⟩
      rw [head?_eq_hash_iff.2 same, hlocal]
      rfl
    | @missing key _ other =>
      have hlocal : localKey? ("#/components/schemas/" ++ key) = some key :=
        localKey?_eq_some_iff.2 rfl
      have hhash : ("#/components/schemas/" ++ key).toList.head? = some '#' := by
        rw [String.toList_append]
        rfl
      rw [hhash, hlocal]
      simp [other, missingSchema]

/-- **A reference is decided by its own check.** -/
theorem decides_targetName (context : String) (target : Target) :
    Decides keys [.reference target context] (targetName keys context target) := by
  cases target with
  | pointer ref =>
    refine singleton ?_ fun f => resolve_eq_error_iff
    constructor
    · rintro ⟨name, h⟩
      obtain ⟨key, hmem, href, -⟩ := resolve_eq_ok_iff.1 h
      exact ⟨key, hmem, href⟩
    · rintro ⟨key, hmem, href⟩
      exact ⟨Name.forType key, resolve_eq_ok_iff.2 ⟨key, hmem, href, rfl⟩⟩
  | unreadable =>
    refine singleton ⟨fun h => ?_, fun h => h.elim⟩ fun f => ?_
    · obtain ⟨name, h⟩ := h
      cases h
    · constructor
      · intro h
        obtain rfl := Except.error.inj h
        exact .unreadable
      · intro h
        cases h
        rfl

/-- **The type of a schema is decided by the reference at the end of its arrays.** -/
theorem decides_typeName (context : String) (s : Schema) :
    Decides keys (s.leafChecks context) (typeName keys context s) := by
  unfold Schema.leafChecks
  cases hleaf : s.leaf? with
  | some found =>
    obtain ⟨n, target⟩ := found
    rw [typeName_of_leaf hleaf]
    exact (decides_targetName context target).map (listed n)
  | none =>
    obtain ⟨n, builtin, -, hname⟩ := exists_builtin_of_leaf keys context hleaf
    rw [hname]
    exact .pure _

/-- A property has a name for its member unless its own is empty. -/
theorem decides_memberName (property : String) :
    Decides keys [.named property] (memberName property) := by
  unfold memberName
  by_cases hempty : property = ""
  · subst hempty
    refine singleton (by simp [Name.forMember?, Check.Passes]) fun f => ?_
    constructor
    · intro h
      obtain rfl := Except.error.inj h
      exact .unnamed
    · intro h
      cases h
      rfl
  · have hname : Name.forMember? property = some (String.ofList (Name.sanitized property)) := by
      simp [Name.forMember?, hempty]
    rw [hname]
    refine singleton (by simp [Check.Passes, hempty]) fun f => ?_
    constructor
    · intro h
      cases h
    · intro h
      cases h
      exact absurd rfl hempty

/-- A property is decided by its name and then by its type. -/
theorem decides_variableOf (context : String) (required : List String)
    (property : String × Schema) :
    Decides keys (Schema.propertyChecks context property)
      (variableOf keys context required property) := by
  rw [variableOf_eq]
  exact (decides_memberName property.1).bind fun name =>
    (decides_typeName (context ++ "." ++ property.1) property.2).map _

/-- The case of a union is decided by the type of its alternative. -/
theorem decides_alternativeCase (context : String) (alternative : Schema × Nat) :
    Decides keys (alternative.1.leafChecks context) (alternativeCase keys context alternative) := by
  rw [alternativeCase_eq]
  exact (decides_typeName context alternative.1).map _

/-- An enumeration is decided by its values. -/
theorem decides_values (vs : List Value) (d : Declaration) :
    Decides keys (vs.map .written)
      (if vs.all Value.hasText then .ok d else .error (.accident (.tooManyDigits none))) := by
  have hpass : (∀ c ∈ vs.map Check.written, c.Passes keys) ↔ vs.all Value.hasText = true := by
    rw [List.forall_mem_map, List.all_eq_true]
    rfl
  have honly : ∀ c ∈ vs.map Check.written, c.Passes keys ∨ ∃ v, c = .written v := by
    intro c hc
    obtain ⟨v, -, rfl⟩ := List.mem_map.1 hc
    exact .inr ⟨v, rfl⟩
  refine ⟨?_, fun f => ?_⟩
  · rw [hpass]
    cases vs.all Value.hasText <;> simp
  · constructor
    · intro h
      split at h
      · cases h
      · rename_i hall
        obtain rfl := Except.error.inj h
        exact .of_written honly (hpass.not.2 hall)
    · intro h
      obtain ⟨c, hc, hfails⟩ := h.exists_fails
      obtain ⟨v, hv, rfl⟩ := List.mem_map.1 hc
      cases hfails with
      | tooLong long =>
        have hall : ¬ vs.all Value.hasText = true := by
          rw [List.all_eq_true]
          intro h
          rw [h v hv] at long
          cases long
        rw [if_neg hall]

theorem decides_body (name key : String) (s : Schema) :
    Decides keys (s.checks key ++ s.enumerated.map .written) (body keys name key s) := by
  rw [Schema.checks_eq_shape, Schema.enumerated]
  unfold body
  cases s.shape with
  | values vs => exact decides_values vs _
  | union alternatives =>
    have hcases : Decides keys _ (alternatives.zipIdx.mapM (alternativeCase keys key)) :=
      Decides.mapM (decides_alternativeCase key) alternatives.zipIdx
    have hchecks : alternatives.zipIdx.flatMap (fun a => a.1.leafChecks key) =
        alternatives.flatMap (Schema.leafChecks key) := by
      rw [← List.flatMap_map, List.zipIdx_map_fst]
    rw [hchecks] at hcases
    exact hcases.bind fun cases => Decides.pure _
  | object =>
    exact (Decides.mapM (decides_variableOf key s.required) s.properties).bind fun fields => .pure _
  | _ =>
    rw [List.map_nil, List.append_nil]
    exact (decides_typeName key s).map (Declaration.typeAlias name)

/-- The declaration of a schema is decided by its checks and the values it enumerates. -/
theorem decides_declaration (key : String) (s : Schema) :
    Decides keys (s.checks key ++ s.enumerated.map .written) (declaration keys key s) :=
  (decides_body (Name.forType key) key s).map (remarked s)

/-- The checks of a document: those of its schemas, one after the other. -/
def checks (schemas : List (String × Schema)) : List Check :=
  schemas.flatMap fun e => e.2.checks e.1

/-- The checks of a document and the values it enumerates. -/
def fullChecks (schemas : List (String × Schema)) : List Check :=
  schemas.flatMap fun e => e.2.checks e.1 ++ e.2.enumerated.map .written

/-- **A document is decided by its checks and the values it enumerates.** -/
theorem decides_declarations (schemas : List (String × Schema)) :
    Decides (schemas.map (·.1)) (fullChecks schemas) (declarations schemas) :=
  Decides.mapM (fun e => decides_declaration e.1 e.2) schemas

/-- No value that cannot be written comes up in a document before the first check that fails. -/
def WritesFirst (keys : List String) (schemas : List (String × Schema)) : Prop :=
  ∀ before e after, schemas = before ++ e :: after → (∀ c ∈ checks before, c.Passes keys) →
    ∀ v ∈ e.2.enumerated, v.hasText = true

theorem writesFirst_cons_iff {e : String × Schema} {rest : List (String × Schema)} :
    WritesFirst keys (e :: rest) ↔ (∀ v ∈ e.2.enumerated, v.hasText = true) ∧
      ((∀ c ∈ e.2.checks e.1, c.Passes keys) → WritesFirst keys rest) := by
  constructor
  · intro h
    refine ⟨h [] e rest rfl nofun, fun hpass before e' after heq hbefore => ?_⟩
    refine h (e :: before) e' after (by rw [heq]; rfl) ?_
    rw [checks, List.flatMap_cons, List.forall_mem_append]
    exact ⟨hpass, hbefore⟩
  · rintro ⟨hwrites, hrest⟩ before e' after heq hbefore
    cases before with
    | nil =>
      obtain ⟨rfl, rfl⟩ := List.cons.inj heq
      exact hwrites
    | cons first before =>
      obtain ⟨rfl, rfl⟩ := List.cons.inj heq
      rw [checks, List.flatMap_cons, List.forall_mem_append] at hbefore
      exact hrest hbefore.1 before e' after rfl hbefore.2

/-- As long as the values can be written, they make no difference to what the checks say. -/
theorem checks_alike_of_writesFirst {schemas : List (String × Schema)}
    (h : WritesFirst keys schemas) :
    ((∀ c ∈ fullChecks schemas, c.Passes keys) ↔ ∀ c ∈ checks schemas, c.Passes keys) ∧
      ∀ f, FirstFault keys (fullChecks schemas) f ↔ FirstFault keys (checks schemas) f := by
  induction schemas with
  | nil => exact ⟨Iff.rfl, fun f => Iff.rfl⟩
  | cons e rest ih =>
    obtain ⟨hwrites, hrest⟩ := writesFirst_cons_iff.1 h
    have hwritten : ∀ c ∈ e.2.enumerated.map Check.written, c.Passes keys := by
      rw [List.forall_mem_map]
      exact hwrites
    have hnone : ∀ f, ¬ FirstFault keys (e.2.enumerated.map .written) f := by
      intro f hf
      obtain ⟨c, hc, hfails⟩ := hf.exists_fails
      obtain ⟨v, hv, rfl⟩ := List.mem_map.1 hc
      cases hfails with
      | tooLong long =>
        rw [hwrites v hv] at long
        cases long
    have hfull : fullChecks (e :: rest) =
        (e.2.checks e.1 ++ e.2.enumerated.map .written) ++ fullChecks rest := List.flatMap_cons
    have hchecks : checks (e :: rest) = e.2.checks e.1 ++ checks rest := List.flatMap_cons
    rw [hfull, hchecks]
    simp only [FirstFault.append_iff, List.forall_mem_append]
    refine ⟨?_, fun f => ?_⟩
    · constructor
      · rintro ⟨⟨he, -⟩, hall⟩
        exact ⟨he, (ih (hrest he)).1.1 hall⟩
      · rintro ⟨he, hall⟩
        exact ⟨⟨he, hwritten⟩, (ih (hrest he)).1.2 hall⟩
    · constructor
      · rintro ((hf | ⟨-, hf⟩) | ⟨⟨he, -⟩, hf⟩)
        · exact .inl hf
        · exact absurd hf (hnone f)
        · exact .inr ⟨he, ((ih (hrest he)).2 f).1 hf⟩
      · rintro (hf | ⟨he, hf⟩)
        · exact .inl (.inl hf)
        · exact .inr ⟨⟨he, hwritten⟩, ((ih (hrest he)).2 f).2 hf⟩

/-- A value that cannot be written is the first fault if all checks before it pass. -/
theorem firstFault_of_not_writesFirst {schemas : List (String × Schema)}
    (h : ¬ WritesFirst keys schemas) :
    FirstFault keys (fullChecks schemas) (.accident (.tooManyDigits none)) := by
  rw [WritesFirst] at h
  push Not at h
  obtain ⟨before, e, after, rfl, hbefore, v, hv, hlong⟩ := h
  have hfull : fullChecks (before ++ e :: after) =
      (fullChecks before ++ e.2.enumerated.map .written) ++ fullChecks after := by
    simp [fullChecks, Schema.checks_of_enumerated hv]
  rw [hfull, FirstFault.append_iff]
  refine .inl (.of_written ?_ fun hall => ?_)
  · intro c hc
    rcases List.mem_append.1 hc with hc | hc
    · obtain ⟨e', he', hc⟩ := List.mem_flatMap.1 hc
      rcases List.mem_append.1 hc with hc | hc
      · exact .inl (hbefore c (List.mem_flatMap.2 ⟨e', he', hc⟩))
      · obtain ⟨w, -, rfl⟩ := List.mem_map.1 hc
        exact .inr ⟨w, rfl⟩
    · obtain ⟨w, -, rfl⟩ := List.mem_map.1 hc
      exact .inr ⟨w, rfl⟩
  · exact hlong (hall (.written v) (List.mem_append_right _ (List.mem_map_of_mem hv)))

end Derivation

open TypeFiles.Derivation

/-- Deriving a document is decided as its declarations are, whatever the deriver remembers. -/
theorem decides_derive (t : Deriver) (schemas : List (String × Schema)) (j : Journal) :
    Decides (schemas.map (·.1)) (fullChecks schemas) ((t.derive schemas).run j).1.1 := by
  rw [(t.gives_derive schemas).result]
  exact (decides_declarations schemas).map Deriver.componentsBlock

/-- **When a document is derived, and how it fails otherwise.**  Its checks and the values it
enumerates decide it: the document is derived if all of them pass, and fails as the first one that
does not.  The checks alone, on references and on names of properties, decide it exactly if no value
that cannot be written comes up before the first of them fails. -/
theorem derive_decided_iff (t : Deriver) (schemas : List (String × Schema)) (j : Journal) :
    Decides (schemas.map (·.1)) (fullChecks schemas) ((t.derive schemas).run j).1.1 ∧
      (Decides (schemas.map (·.1)) (checks schemas) ((t.derive schemas).run j).1.1 ↔
        WritesFirst (schemas.map (·.1)) schemas) := by
  have hfull := decides_derive t schemas j
  refine ⟨hfull, fun h => ?_, fun h => ?_⟩
  · by_contra hwrites
    have hfails := (hfull.error_iff _).2 (firstFault_of_not_writesFirst hwrites)
    obtain ⟨c, hc, hlong⟩ := ((h.error_iff _).1 hfails).exists_fails
    obtain ⟨v, rfl⟩ := hlong.exists_written
    obtain ⟨e, -, hmem⟩ := List.mem_flatMap.1 hc
    exact Schema.not_written_of_mem_checks hmem v rfl
  · obtain ⟨hpass, hfault⟩ := checks_alike_of_writesFirst h
    exact hfull.congr_checks hpass hfault

/-- A power of ten with more digits than are written has no text. -/
theorem Value.hasText_tenTo {n : Nat} (h : Decimal.mostDigits ≤ n) :
    (Value.int (.ofNat (Decimal.tenTo n))).hasText = false := by
  have habs : (Int.ofNat (Decimal.tenTo n)).natAbs = Decimal.tenTo n := rfl
  have hpow : ∀ m, m ≤ n → Decimal.tenTo m ≤ Decimal.tenTo n :=
    fun m hm => Nat.pow_le_pow_right (by decide) hm
  have hle : Value.leastTooLong ≤ Decimal.tenTo n := hpow _ h
  rw [Value.hasText, habs]
  exact decide_eq_false (Nat.not_lt.2 hle)

/-- An enumeration of a number with 4301 digits has no checks, and fails all the same. -/
theorem long_number_fails_unchecked :
    let count : Schema := { Schema.empty with values := [.int (.ofNat (Decimal.tenTo 4300))] }
    count.checks "Count" = [] ∧
      ((Deriver.fresh.derive [("Count", count)]).run .collecting).1.1 =
        .error (.accident (.tooManyDigits none)) := by
  refine ⟨rfl, ?_⟩
  rw [(decides_derive _ _ _).error_iff]
  exact .here (.tooLong (Value.hasText_tenTo (Nat.le_refl _)))

end TypeFiles
