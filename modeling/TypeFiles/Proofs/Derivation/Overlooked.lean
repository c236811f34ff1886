/-
# References that are overlooked

A schema holds others: those of its properties, of its items, and its alternatives.  References
occur in them at any depth (`Schema.Mentions`), but deriving a document looks only at the references
that it names a type after.  There are two ways to stand beside its path:

| schema | what is not looked into |
| --- | --- |
| has a reference | all that it holds |
| is an array whose type is named | its properties and alternatives |
| is no array, and its type is named | all that it holds |
| has alternatives | its properties and items, and `anyOf` beside `oneOf` |
| has values and is a text or of no type | its properties and items |
| is an object, or has properties | its items |

The first three rows are `Schema.besideName`, the others `Schema.besideShape`.  A reference that
occurs in a document is one that a type is named after or is overlooked in one of these ways, and no
other (`mentioned_iff`).  So no bad reference gets through exactly if the overlooked ones are right
by themselves (`references_checked_iff`).
-/

import TypeFiles.Proofs.Derivation.Checks
import TypeFiles.Proofs.Plan.Ambiguity

namespace TypeFiles

open TypeFiles.Derivation

namespace Schema

/-- The schemas that stand directly in a schema. -/
def parts (s : Schema) : List Schema :=
  s.properties.map (·.2) ++ s.items.toList ++ s.oneOf ++ s.anyOf

/-- A reference occurs in a schema, at any depth. -/
inductive Mentions : Schema → Target → Prop where
  | own {s : Schema} {target : Target} (h : s.target = some target) : Mentions s target
  | part {s p : Schema} {target : Target} (mem : p ∈ s.parts) (below : Mentions p target) :
      Mentions s target

/-- What naming the type of a schema does not look into. -/
def besideName (s : Schema) : List Schema :=
  if s.target = none ∧ s.primaryType = some "array" then
    s.properties.map (·.2) ++ s.oneOf ++ s.anyOf
  else s.parts

/-- What the rule that fits a schema does not look into. -/
def besideShape (s : Schema) : List Schema :=
  match s.shape with
  | .reference | .alias => []
  | .union _ => s.properties.map (·.2) ++ s.items.toList ++ if s.oneOf.isEmpty then [] else s.anyOf
  | .values _ => s.properties.map (·.2) ++ s.items.toList
  | .object => s.items.toList

variable {s p : Schema} {key : String}

theorem mem_parts_iff : p ∈ s.parts ↔
    p ∈ s.properties.map (·.2) ∨ p ∈ s.items.toList ∨ p ∈ s.oneOf ∨ p ∈ s.anyOf := by
  simp only [parts, List.mem_append, or_assoc]

/-- Naming looks into the items of an array, and into nothing else. -/
theorem mem_parts_iff_besideName : p ∈ s.parts ↔
    p ∈ s.besideName ∨ s.target = none ∧ s.primaryType = some "array" ∧ s.items = some p := by
  unfold besideName
  split
  · rename_i harray
    rw [mem_parts_iff, Option.mem_toList]
    simp only [List.mem_append, harray, true_and]
    tauto
  · rename_i harray
    exact (or_iff_left fun h => harray ⟨h.1, h.2.1⟩).symm

/-- What the rules say of the schema that they fit. -/
theorem shape_cases (s : Schema) :
    s.shape = .reference ∨ s.target = none ∧ (s.shape = .alias ∨
      s.shape = .union s.alternatives ∨
      s.alternatives = [] ∧ (s.shape = .values s.values ∨ s.shape = .object)) := by
  unfold shape
  split_ifs with htarget halternatives
  · exact .inl rfl
  all_goals
    rw [Option.isSome_iff_ne_none, not_not] at htarget
    refine .inr ⟨htarget, ?_⟩
  · exact .inr (.inl rfl)
  all_goals
    rw [Bool.not_eq_true', Bool.not_eq_false, List.isEmpty_iff] at halternatives
  · exact .inr (.inr ⟨halternatives, .inl rfl⟩)
  · exact .inr (.inr ⟨halternatives, .inr rfl⟩)
  · exact .inl rfl

/-- The alternatives of a schema are those in `oneOf`, and those in `anyOf` only without them. -/
theorem mem_oneOf_or_mem_anyOf_iff : p ∈ s.oneOf ∨ p ∈ s.anyOf ↔
    p ∈ s.alternatives ∨ p ∈ if s.oneOf.isEmpty then [] else s.anyOf := by
  unfold alternatives
  cases hempty : s.oneOf.isEmpty with
  | true =>
    rw [List.isEmpty_iff] at hempty
    simp [hempty]
  | false => simp

/-- The places of a schema are the schema itself, or stand directly in it. -/
theorem schema_of_mem_sites {site : Site} (h : site ∈ s.sites key) :
    site.schema = s ∨ site.schema ∈ s.parts := by
  unfold sites at h
  rw [mem_parts_iff]
  obtain hshape | ⟨-, hshape | hshape | ⟨-, hshape | hshape⟩⟩ := s.shape_cases <;>
    rw [hshape] at h
  · exact .inl (congrArg Site.schema (List.mem_singleton.1 h))
  · exact .inl (congrArg Site.schema (List.mem_singleton.1 h))
  · obtain ⟨p, hp, rfl⟩ := List.mem_map.1 h
    exact .inr (.inr (.inr (mem_oneOf_or_mem_anyOf_iff.2 (.inl hp))))
  · cases h
  · obtain ⟨p, hp, rfl⟩ := List.mem_map.1 h
    exact .inr (.inl (List.mem_map_of_mem hp))

/-- A reference is its own place. -/
theorem mem_sites_of_target {target : Target} (h : s.target = some target) :
    ⟨key, s⟩ ∈ s.sites key := by
  unfold sites
  obtain hshape | ⟨hnone, -⟩ := s.shape_cases
  · rw [hshape]
    exact List.mem_singleton_self _
  · rw [h] at hnone
    cases hnone

theorem mem_parts_of_mem_besideShape (h : p ∈ s.besideShape) : p ∈ s.parts := by
  unfold besideShape at h
  rw [mem_parts_iff, mem_oneOf_or_mem_anyOf_iff]
  split at h
  · cases h
  · cases h
  · simp only [List.mem_append] at h
    tauto
  · rw [List.mem_append] at h
    tauto
  · exact .inr (.inl h)

theorem oneOf_anyOf_eq_nil (h : s.alternatives = []) : s.oneOf = [] ∧ s.anyOf = [] := by
  have hempty := s.isEmpty_alternatives
  rwa [h, List.isEmpty_nil, eq_comm, Bool.and_eq_true, List.isEmpty_iff, List.isEmpty_iff] at hempty

/-- A schema that is not its own place has a place for all that it does not overlook. -/
theorem besideShape_or_site (key : String) (h : p ∈ s.parts) :
    p ∈ s.besideShape ∨ (∃ context, ⟨context, p⟩ ∈ s.sites key) ∨ ⟨key, s⟩ ∈ s.sites key := by
  rw [mem_parts_iff] at h
  unfold besideShape sites
  obtain hshape | ⟨-, hshape | hshape | ⟨hnone, hshape | hshape⟩⟩ := s.shape_cases <;>
    rw [hshape]
  · exact .inr (.inr (List.mem_singleton_self _))
  · exact .inr (.inr (List.mem_singleton_self _))
  · have hsite : p ∈ s.alternatives → ∃ context, ⟨context, p⟩ ∈
        s.alternatives.map fun alternative => (⟨key, alternative⟩ : Site) :=
      fun hp => ⟨key, List.mem_map_of_mem hp⟩
    rw [mem_oneOf_or_mem_anyOf_iff] at h
    simp only [List.mem_append]
    tauto
  · obtain ⟨hone, hany⟩ := oneOf_anyOf_eq_nil hnone
    rw [hone, hany] at h
    simp only [List.mem_append]
    simpa using h
  · obtain ⟨hone, hany⟩ := oneOf_anyOf_eq_nil hnone
    rw [hone, hany] at h
    rcases h with hp | hp | hp | hp
    · obtain ⟨property, hproperty, rfl⟩ := List.mem_map.1 hp
      exact .inr (.inl ⟨_, List.mem_map_of_mem hproperty⟩)
    · exact .inl hp
    · cases hp
    · cases hp

end Schema

/-! ## References of a document -/

/-- A reference occurs in a schema of a document, at any depth. -/
def Mentioned (schemas : List (String × Schema)) (target : Target) : Prop :=
  ∃ e ∈ schemas, e.2.Mentions target

/-- A reference is one that a type of a document is named after. -/
def NamedAfter (schemas : List (String × Schema)) (target : Target) : Prop :=
  ∃ site, IsNamed schemas site ∧ site.schema.target = some target

/-- A reference occurs in what is not looked into, beside the rule that fits a schema or beside the
way down to the name of a type. -/
inductive Overlooked (schemas : List (String × Schema)) (target : Target) : Prop where
  | shape {key : String} {s p : Schema} (mem : (key, s) ∈ schemas) (beside : p ∈ s.besideShape)
      (below : p.Mentions target)
  | name {site : Site} {p : Schema} (named : IsNamed schemas site)
      (beside : p ∈ site.schema.besideName) (below : p.Mentions target)

section

variable {schemas : List (String × Schema)} {target : Target}

/-- A reference that occurs where a type is named is one that it is named after, or overlooked. -/
theorem named_or_overlooked {s : Schema} (h : s.Mentions target) {context : String}
    (hnamed : IsNamed schemas ⟨context, s⟩) :
    NamedAfter schemas target ∨ Overlooked schemas target := by
  -- On the way down to the reference, the place is named as long as the way leads through arrays.
  induction h with
  | own h => exact .inl ⟨_, hnamed, h⟩
  | part mem below ih =>
    rcases Schema.mem_parts_iff_besideName.1 mem with hbeside | ⟨hnone, harray, hitems⟩
    · exact .inr (.name hnamed hbeside below)
    · exact ih (.items hnamed hnone harray hitems)

/-- What occurs where a type is named occurs in the document. -/
theorem mentioned_of_isNamed {site : Site} (hnamed : IsNamed schemas site)
    (h : site.schema.Mentions target) : Mentioned schemas target := by
  induction hnamed with
  | site mem isSite =>
    rcases Schema.schema_of_mem_sites isSite with heq | hpart
    · exact ⟨_, mem, heq ▸ h⟩
    · exact ⟨_, mem, .part hpart h⟩
  | items _ noTarget isArray items ih =>
    exact ih (.part (Schema.mem_parts_iff_besideName.2 (.inr ⟨noTarget, isArray, items⟩)) h)

/-- **A reference that occurs in a document is one that a type is named after, or overlooked.** -/
theorem mentioned_iff : Mentioned schemas target ↔
    NamedAfter schemas target ∨ Overlooked schemas target := by
  constructor
  · rintro ⟨⟨key, s⟩, mem, h⟩
    have hown : ⟨key, s⟩ ∈ s.sites key → NamedAfter schemas target ∨ Overlooked schemas target :=
      fun hsite => named_or_overlooked h (.site mem hsite)
    cases h with
    | own htarget => exact hown (Schema.mem_sites_of_target htarget)
    | part hpart below =>
      rcases Schema.besideShape_or_site key hpart with hbeside | ⟨context, hsite⟩ | hsite
      · exact .inr (.shape mem hbeside below)
      · exact named_or_overlooked below (.site mem hsite)
      · exact hown hsite
  · rintro (⟨site, hnamed, htarget⟩ | ⟨mem, beside, below⟩ | ⟨hnamed, beside, below⟩)
    · exact mentioned_of_isNamed hnamed (.own htarget)
    · exact ⟨_, mem, .part (Schema.mem_parts_of_mem_besideShape beside) below⟩
    · have hpart := Schema.mem_parts_iff_besideName.2 (.inl beside)
      exact mentioned_of_isNamed hnamed (.part hpart below)

/-! ## The checks of references -/

/-- The reference at the end of the arrays of a named place is one that a type is named after. -/
theorem named_of_leaf {s : Schema} {context : String} {n : Nat}
    (hnamed : IsNamed schemas ⟨context, s⟩) (h : s.leaf? = some (n, target)) :
    NamedAfter schemas target := by
  induction s using Schema.induction_on_items generalizing n with
  | step s ih =>
    cases htarget : s.target with
    | some own =>
      rw [Schema.leaf?_of_target htarget, Option.some.injEq, Prod.mk.injEq] at h
      exact ⟨_, hnamed, h.2 ▸ htarget⟩
    | none =>
      by_cases harray : s.primaryType = some "array"
      · rw [Schema.leaf?_of_array htarget harray, Option.map_eq_some_iff] at h
        obtain ⟨⟨m, own⟩, hitems, heq⟩ := h
        obtain ⟨-, rfl⟩ := Prod.mk.inj heq
        obtain ⟨item, hitem, hleaf⟩ := Option.bind_eq_some_iff.1 hitems
        exact ih item hitem (.items hnamed htarget harray hitem) hleaf
      · rw [Schema.leaf?_of_not_array htarget harray] at h
        cases h

/-- The check of a reference is that of a place of the schema. -/
theorem exists_site_of_mem_checks {key context : String} {s : Schema}
    (h : .reference target context ∈ s.checks key) :
    ∃ site ∈ s.sites key, ∃ n, site.schema.leaf? = some (n, target) := by
  have hleaf : ∀ {t : Schema} {c : String}, .reference target context ∈ t.leafChecks c →
      ∃ n, t.leaf? = some (n, target) := by
    intro t c hmem
    obtain ⟨⟨n, found⟩, hfound, heq⟩ := List.mem_map.1 hmem
    cases heq
    exact ⟨n, Option.mem_toList.1 hfound⟩
  rw [Schema.checks_eq_shape] at h
  unfold Schema.sites
  cases hs : s.shape with
  | union alternatives =>
    rw [hs] at h
    obtain ⟨a, ha, hmem⟩ := List.mem_flatMap.1 h
    exact ⟨_, List.mem_map_of_mem ha, hleaf hmem⟩
  | values vs => rw [hs] at h; cases h
  | object =>
    rw [hs] at h
    obtain ⟨p, hp, hmem⟩ := List.mem_flatMap.1 h
    rcases List.mem_cons.1 hmem with hname | hmem
    · cases hname
    · exact ⟨_, List.mem_map_of_mem hp, hleaf hmem⟩
  | _ =>
    rw [hs] at h
    exact ⟨_, List.mem_singleton_self _, hleaf h⟩

/-- What is checked occurs in the document. -/
theorem mentioned_of_mem_fullChecks {context : String}
    (h : .reference target context ∈ fullChecks schemas) : Mentioned schemas target := by
  obtain ⟨⟨key, s⟩, mem, h⟩ := List.mem_flatMap.1 h
  rcases List.mem_append.1 h with h | h
  · obtain ⟨site, hsite, n, hleaf⟩ := exists_site_of_mem_checks h
    exact mentioned_iff.2 (.inl (named_of_leaf (.site mem hsite) hleaf))
  · obtain ⟨v, -, heq⟩ := List.mem_map.1 h
    cases heq

end

/-- A reference is to the schema under one of the keys. -/
def Target.IsDeclared (keys : List String) (target : Target) : Prop :=
  ∃ key ∈ keys, target = .pointer ("#/components/schemas/" ++ key)

/-- The text of some reference that occurs in a document names none of its schemas. -/
def HasBadReference (schemas : List (String × Schema)) : Prop :=
  ∃ ref, Mentioned schemas (.pointer ref) ∧
    ¬ (Target.pointer ref).IsDeclared (schemas.map (·.1))

/-- The first check that does not pass is that of a reference with a text. -/
def ReferenceFirst (keys : List String) (cs : List Check) : Prop :=
  ∃ before ref context after, cs = before ++ .reference (.pointer ref) context :: after ∧
    (∀ c ∈ before, c.Passes keys) ∧ ¬ (Target.pointer ref).IsDeclared keys

/-- A step fails as a reference of the document does whose text names none of its schemas. -/
def FailsOnReference {α : Type} (schemas : List (String × Schema)) (step : Except Failure α) :
    Prop :=
  ∃ f ref context, step = .error f ∧ Mentioned schemas (.pointer ref) ∧
    (Check.reference (.pointer ref) context).Fails (schemas.map (·.1)) f

section

variable {keys : List String} {target : Target} {context : String} {c : Check} {f : Failure}

theorem Check.passes_reference_iff :
    (Check.reference target context).Passes keys ↔ target.IsDeclared keys := by
  cases target with
  | pointer ref =>
    refine exists_congr fun key => and_congr_right fun _ => ?_
    rw [Target.pointer.injEq]
  | unreadable =>
    constructor
    · exact False.elim
    · rintro ⟨key, -, h⟩
      cases h

/-- A reference to none of the schemas fails in some way. -/
theorem Check.exists_fails_iff :
    (∃ f, (Check.reference target context).Fails keys f) ↔ ¬ target.IsDeclared keys := by
  have hdecides : Decides keys [.reference target context] (targetName keys context target) :=
    decides_targetName context target
  have hok : (∃ name, targetName keys context target = .ok name) ↔ target.IsDeclared keys := by
    rw [hdecides.ok_iff, List.forall_mem_singleton, passes_reference_iff]
  have herror : ∀ f, targetName keys context target = .error f ↔
      (Check.reference target context).Fails keys f :=
    fun f => (hdecides.error_iff f).trans FirstFault.singleton_iff
  simp only [← herror, ← hok]
  cases targetName keys context target <;> simp

/-- No other check fails as one of a reference with a text does. -/
theorem Check.Fails.exists_reference {ref : String} (hc : c.Fails keys f)
    (h : (Check.reference (.pointer ref) context).Fails keys f) :
    ∃ ref context, c = .reference (.pointer ref) context := by
  cases hc with
  | unreadable => cases h
  | unnamed => cases h
  | tooLong => cases h
  | _ => exact ⟨_, _, rfl⟩

end

section

variable {α : Type} {schemas : List (String × Schema)} {step : Except Failure α}

/-- A step that the checks decide fails on a reference exactly if that of a reference is the first
that does not pass. -/
theorem failsOnReference_iff (h : Decides (schemas.map (·.1)) (fullChecks schemas) step) :
    FailsOnReference schemas step ↔ ReferenceFirst (schemas.map (·.1)) (fullChecks schemas) := by
  constructor
  · rintro ⟨f, ref, context, hstep, -, hfails⟩
    obtain ⟨before, c, after, hsplit, hbefore, hc⟩ := ((h.error_iff f).1 hstep).exists_split
    obtain ⟨ref, context, rfl⟩ := hc.exists_reference hfails
    exact ⟨before, ref, context, after, hsplit, hbefore, Check.exists_fails_iff.1 ⟨f, hc⟩⟩
  · rintro ⟨before, ref, context, after, hsplit, hbefore, hbad⟩
    obtain ⟨f, hfails⟩ := Check.exists_fails_iff.2 hbad
    have hfault : FirstFault (schemas.map (·.1)) (fullChecks schemas) f := by
      rw [hsplit, FirstFault.append_iff]
      exact .inr ⟨hbefore, .here hfails⟩
    have hmem : .reference (.pointer ref) context ∈ fullChecks schemas := by
      rw [hsplit]
      exact List.mem_append_right _ List.mem_cons_self
    exact ⟨f, ref, context, (h.error_iff f).2 hfault, mentioned_of_mem_fullChecks hmem, hfails⟩

/-- In a document that is derived, types are named after references to its schemas only. -/
theorem isDeclared_of_named {ds : List Declaration} {target : Target}
    (h : List.Forall₂ (fun e d => declaration (schemas.map (·.1)) e.1 e.2 = .ok d) schemas ds)
    (hnamed : NamedAfter schemas target) : target.IsDeclared (schemas.map (·.1)) := by
  obtain ⟨site, hsite, htarget⟩ := hnamed
  obtain ⟨name, hname⟩ := exists_typeName_of_isNamed h hsite
  rw [Site.typeName, typeName_of_target htarget] at hname
  have hpasses := (decides_targetName site.context target).ok_iff.1 ⟨name, hname⟩
  exact Check.passes_reference_iff.1 (hpasses _ (List.mem_singleton_self _))

end

/-- **When references are checked wherever they occur.**  If a document is derived, each reference
that occurs in it, at any depth, is to one of its schemas exactly if each one is that is overlooked;
and a document with a bad reference fails on one exactly if no other check fails first. -/
theorem references_checked_iff (t : Deriver) (schemas : List (String × Schema)) (j : Journal) :
    (((∃ b, ((t.derive schemas).run j).1.1 = .ok b) →
        ∀ target, Mentioned schemas target → target.IsDeclared (schemas.map (·.1))) ↔
      ((∀ c ∈ fullChecks schemas, c.Passes (schemas.map (·.1))) →
        ∀ target, Overlooked schemas target → target.IsDeclared (schemas.map (·.1)))) ∧
    ((HasBadReference schemas → FailsOnReference schemas ((t.derive schemas).run j).1.1) ↔
      (HasBadReference schemas →
        ReferenceFirst (schemas.map (·.1)) (fullChecks schemas))) := by
  have hdecides := decides_derive t schemas j
  refine ⟨?_, imp_congr_right fun _ => failsOnReference_iff hdecides⟩
  rw [hdecides.ok_iff]
  refine imp_congr_right fun hpass => ?_
  obtain ⟨b, hb⟩ := hdecides.ok_iff.2 hpass
  obtain ⟨ds, hds, -⟩ := Deriver.exists_declarations_of_derive hb
  constructor
  · exact fun h target hover => h target (mentioned_iff.2 (.inr hover))
  · intro h target hmentioned
    rcases mentioned_iff.1 hmentioned with hnamed | hover
    · exact isDeclared_of_named hds hnamed
    · exact h target hover

/-- A reference in the property of a property is to no schema, and the document is derived. -/
theorem nested_reference_swallowed :
    let toy : Schema := { Schema.empty with target := some (.pointer "#/components/schemas/Toy") }
    let pet : Schema := { Schema.empty with types := ["object"], properties := [("toy", toy)] }
    let owner : Schema := { Schema.empty with types := ["object"], properties := [("pet", pet)] }
    (∃ b, ((Deriver.fresh.derive [("Owner", owner)]).run .collecting).1.1 = .ok b) ∧
      HasBadReference [("Owner", owner)] := by
  intro toy pet owner
  refine ⟨⟨_, rfl⟩, "#/components/schemas/Toy", ?_, ?_⟩
  · have hpet : pet.Mentions (.pointer "#/components/schemas/Toy") :=
      .part List.mem_cons_self (.own rfl)
    exact ⟨_, List.mem_cons_self, .part List.mem_cons_self hpet⟩
  · rintro ⟨key, hkey, h⟩
    obtain rfl := List.mem_singleton.1 hkey
    exact absurd (Target.pointer.inj h) (by decide)

end TypeFiles
