/-
# The places of a document, read twice

A declaration is derived from the schema under a key, from its alternatives or properties, and from
the items of the arrays among them: the *places* of a document.  What stands at a place is an object
that both versions of the format read, each in its own way:

| taken in 3.0 as | taken in 3.1 as | derived from it |
| --- | --- | --- |
| a reference | a reference | the same |
| a schema | a schema | the same, if it is the same at the places it leads to |
| one of them | the other | whatever each of them comes to |

So the versions can differ where they choose differently (`Place.Differs`), and nowhere else.  They
do so for two reasons: under a key, version 3.1 has no references at all, and at any other place an
object with a `$ref` is taken as what knows more of its keys, and the versions know different keys.

`Place.Agrees` says of a place that wherever it leads, what the versions choose differently comes to
the same.  `agrees_iff` and `declaration_alike` carry that up from the items of arrays, where it is
an induction on the schema, to declarations.
-/

import Mathlib.Logic.Relation
import TypeFiles.Proofs.Derivation.Components
import TypeFiles.Proofs.Derivation.TypeName
import TypeFiles.Proofs.OpenApi.Parts

namespace TypeFiles
namespace OpenApi

open TypeFiles.Derivation

/-! ## The places of a document -/

/-- What a place of a document is to the place that leads to it. -/
inductive Role where
  /-- The schema under a key. -/
  | entry (key : String)
  /-- An alternative of the schema under a key, by its number. -/
  | alternative (key : String) (number : Nat)
  /-- A property of the schema under a key. -/
  | property (key name : String)
  /-- The items of an array. -/
  | items (context : String)

/-- A place of a document that something is derived from, and the object there. -/
structure Place where
  role : Role
  object : List (Value × Value)

namespace Role

/-- What failures call a place. -/
def context : Role → String
  | .entry key | .alternative key _ => key
  | .property key name => key ++ "." ++ name
  | .items context => context

/-- Whether a place is that of the schema under a key. -/
def isEntry : Role → Bool
  | .entry _ => true
  | _ => false

/-- Whether no reference may stand at a place. -/
def isStrict (version : Version) (role : Role) : Bool := role.isEntry && version == .v31

/-- The same is derived from two schemas at a place: a declaration, a case, or the name of a
type. -/
def SameFrom (keys : List String) : Role → Schema → Schema → Prop
  | .entry key, s, t => declaration keys key s = declaration keys key t
  | .alternative key number, s, t =>
    alternativeCase keys key (s, number) = alternativeCase keys key (t, number)
  | .property key name, s, t =>
    typeName keys (key ++ "." ++ name) s = typeName keys (key ++ "." ++ name) t
  | .items context, s, t => typeName keys context s = typeName keys context t

end Role

namespace Place

/-- What a version takes the object at a place as. -/
def choice (version : Version) (p : Place) : Choice :=
  OpenApi.choice version (p.role.isStrict version) p.object

/-- The schema that a version reads at a place. -/
def schema? (version : Version) (p : Place) : Option Schema :=
  OpenApi.schema? version (p.role.isStrict version) p.object

/-- The versions take the object at a place as different things. -/
def Differs (p : Place) : Prop := p.choice .v30 ≠ p.choice .v31

/-- Both versions take the object at a place as a schema. -/
def IsSchema (p : Place) : Prop := p.choice .v30 = .schema ∧ p.choice .v31 = .schema

/-- What the two versions read at a place comes to the same. -/
def ComesToSame (keys : List String) (p : Place) : Prop :=
  ∀ s t, p.schema? .v30 = some s → p.schema? .v31 = some t → p.role.SameFrom keys s t

/-- What is derived at a place looks at another one: at the alternatives of a union, at the
properties of an object, and at the items of an array that a type is named after.  It does so only
where both versions see a schema, and then both do. -/
inductive LeadsTo : Place → Place → Prop
  | alternative {key : String} {number : Nat} {entries object : List (Value × Value)} {s : Schema}
      (schema : IsSchema ⟨.entry key, entries⟩)
      (read : schema? .v30 ⟨.entry key, entries⟩ = some s)
      (union : s.shape = .union s.alternatives)
      (there : (.mapping object, number) ∈ (alternativesIn entries).zipIdx) :
      LeadsTo ⟨.entry key, entries⟩ ⟨.alternative key number, object⟩
  | property {key name : String} {k : Value} {entries object : List (Value × Value)} {s : Schema}
      (schema : IsSchema ⟨.entry key, entries⟩)
      (read : schema? .v30 ⟨.entry key, entries⟩ = some s) (struct : s.shape = .object)
      (there : (k, .mapping object) ∈ tableUnder "properties" entries)
      (named : k.asText? = some name) :
      LeadsTo ⟨.entry key, entries⟩ ⟨.property key name, object⟩
  | items {p : Place} {object : List (Value × Value)} {s : Schema} (schema : p.IsSchema)
      (read : p.schema? .v30 = some s) (last : p.role.isEntry = true → s.shape = .alias)
      (plain : s.target = none) (array : s.primaryType = some "array")
      (there : objectUnder "items" p.object = some object) :
      LeadsTo p ⟨.items p.role.context, object⟩

/-- Wherever a place leads, what the versions choose differently comes to the same. -/
def Agrees (keys : List String) (p : Place) : Prop :=
  ∀ q, Relation.ReflTransGen LeadsTo p q → q.Differs → q.ComesToSame keys

variable {keys : List String} {p q : Place} {s t : Schema}

/-- **Under a key, the versions choose differently exactly if version 3.0 takes a reference**:
version 3.1 has none there. -/
theorem differs_entry_iff {key : String} {entries : List (Value × Value)} :
    Differs ⟨.entry key, entries⟩ ↔ choice .v30 ⟨.entry key, entries⟩ = .reference := by
  have hschema : choice .v31 ⟨.entry key, entries⟩ = .schema := rfl
  rw [Differs, hschema]
  cases choice .v30 ⟨.entry key, entries⟩ <;> simp

theorem isSchema_of_leadsTo (h : LeadsTo p q) : p.IsSchema := by
  cases h <;> assumption

/-- A place where the versions choose differently leads nowhere else. -/
theorem agrees_iff_of_differs (h : p.Differs) : p.Agrees keys ↔ p.ComesToSame keys := by
  constructor
  · intro hagrees
    exact hagrees p .refl h
  · intro hsame q hq _
    rcases hq.cases_head with rfl | ⟨next, hnext, -⟩
    · exact hsame
    · have hschema := isSchema_of_leadsTo hnext
      exact absurd (hschema.1.trans hschema.2.symm) h

theorem agrees_iff_of_not_differs (h : ¬ p.Differs) :
    p.Agrees keys ↔ ∀ next, LeadsTo p next → next.Agrees keys := by
  constructor
  · intro hagrees next hnext q hq
    exact hagrees q (hq.head hnext)
  · intro hagrees q hq hdiffers
    rcases hq.cases_head with rfl | ⟨next, hnext, hq⟩
    · exact absurd hdiffers h
    · exact hagrees next hnext q hq hdiffers

theorem comesToSame_iff (hs : p.schema? .v30 = some s) (ht : p.schema? .v31 = some t) :
    p.ComesToSame keys ↔ p.role.SameFrom keys s t := by
  constructor
  · intro hsame
    exact hsame s t hs ht
  · rintro hsame _ _ hs' ht'
    obtain rfl := Option.some.inj (hs.symm.trans hs')
    obtain rfl := Option.some.inj (ht.symm.trans ht')
    exact hsame

/-! ## The same choice -/

/-- Taken as a reference by both versions, an object is the same for both. -/
theorem eq_of_reference (h : p.choice .v30 = .reference) (h' : p.choice .v31 = .reference)
    (hs : p.schema? .v30 = some s) (ht : p.schema? .v31 = some t) : s = t := by
  have hs' := (schema?_of_reference h).symm.trans hs
  have ht' := (schema?_of_reference h').symm.trans ht
  obtain ⟨r, hr, rfl⟩ := Option.map_eq_some_iff.1 hs'
  obtain ⟨r', hr', rfl⟩ := Option.map_eq_some_iff.1 ht'
  exact reference?_alike hr hr'

theorem exists_parts {version : Version} (h : p.choice version = .schema)
    (hs : p.schema? version = some s) :
    ∃ r, readEntries version (keysOf p.object) p.object = some r ∧ Schema.ofParts r.result = s :=
  Option.map_eq_some_iff.1 ((schema?_of_schema h).symm.trans hs)

theorem saysSame (h : p.IsSchema) (hs : p.schema? .v30 = some s) (ht : p.schema? .v31 = some t) :
    SaysSame s t := by
  obtain ⟨r, hr, rfl⟩ := exists_parts h.1 hs
  obtain ⟨r', hr', rfl⟩ := exists_parts h.2 ht
  exact saysSame_of_readEntries hr hr'

/-- Both versions read the items of an array from the same object. -/
theorem items_alike (h : p.IsSchema) (hs : p.schema? .v30 = some s) (ht : p.schema? .v31 = some t)
    (context : String) :
    (objectUnder "items" p.object = none ∧ s.items = none ∧ t.items = none) ∨
      ∃ object item item', objectUnder "items" p.object = some object ∧
        s.items = some item ∧ t.items = some item' ∧
        schema? .v30 ⟨.items context, object⟩ = some item ∧
        schema? .v31 ⟨.items context, object⟩ = some item' := by
  obtain ⟨r, hr, rfl⟩ := exists_parts h.1 hs
  obtain ⟨r', hr', rfl⟩ := exists_parts h.2 ht
  rcases items_of_readEntries hr with ⟨hnone, hitems⟩ | ⟨object, item, hobject, hitem, hitems⟩
  · rcases items_of_readEntries hr' with ⟨-, hitems'⟩ | ⟨object', item', hobject', -, -⟩
    · exact .inl ⟨hnone, hitems, hitems'⟩
    · rw [hnone] at hobject'
      cases hobject'
  · rcases items_of_readEntries hr' with ⟨hnone', -⟩ | ⟨object', item', hobject', hitem', hitems'⟩
    · rw [hobject] at hnone'
      cases hnone'
    · obtain rfl := Option.some.inj (hobject.symm.trans hobject')
      exact .inr ⟨object, item, item', hobject, hitems, hitems', hitem, hitem'⟩

/-- Where the versions choose the same, they read the same reference, which leads nowhere, or both
see a schema. -/
theorem eq_or_isSchema (h : ¬ p.Differs) (hs : p.schema? .v30 = some s)
    (ht : p.schema? .v31 = some t) : (s = t ∧ ∀ next, ¬ LeadsTo p next) ∨ p.IsSchema := by
  have hsame : p.choice .v30 = p.choice .v31 := not_not.1 h
  cases hchoice : p.choice .v30 with
  | reference =>
    refine .inl ⟨eq_of_reference hchoice (hsame.symm.trans hchoice) hs ht, fun next hnext => ?_⟩
    have hschema := (isSchema_of_leadsTo hnext).1
    rw [hchoice] at hschema
    cases hschema
  | schema => exact .inr ⟨hchoice, hsame.symm.trans hchoice⟩

/-! ## Types -/

/-- Putting a list around a name tells names apart. -/
theorem listed_injective : Function.Injective fun inner : String => "list[" ++ inner ++ "]" := by
  intro inner other h
  have hlist := congrArg String.toList h
  simp only [String.toList_append, List.append_left_inj, List.append_right_inj] at hlist
  exact String.toList_inj.1 hlist

/-- If both or neither are references, two alternatives become the same case exactly if their types
are named the same. -/
theorem alternativeCase_alike_iff (h : s.target = t.target) (context : String) (number : Nat) :
    alternativeCase keys context (s, number) = alternativeCase keys context (t, number) ↔
      typeName keys context s = typeName keys context t := by
  rw [alternativeCase_eq, alternativeCase_eq, h]
  constructor
  · intro hcase
    refine map_injective (fun payload other heq => ?_) hcase
    exact Option.some.inj (EnumCase.mk.inj heq).2.2
  · intro hname
    rw [hname]

theorem sameFrom_iff {role : Role} (hrole : role.isEntry = false) (h : s.target = t.target) :
    role.SameFrom keys s t ↔ typeName keys role.context s = typeName keys role.context t := by
  cases role with
  | entry key => cases hrole
  | alternative key number => exact alternativeCase_alike_iff h key number
  | _ => exact Iff.rfl

/-- The types of arrays are named the same exactly if those of their items are. -/
theorem typeName_array_iff {context : String} (h : SaysSame s t) (htarget : s.target = none)
    (harray : s.primaryType = some "array") :
    typeName keys context s = typeName keys context t ↔
      itemType keys context s.items = itemType keys context t.items := by
  rw [typeName_of_array htarget harray,
    typeName_of_array (h.target.symm.trans htarget) (h.primaryType.symm.trans harray)]
  exact (map_injective listed_injective).eq_iff

/-- Apart from arrays, schemas that say the same have types with one name. -/
theorem typeName_of_saysSame {context : String} (h : SaysSame s t)
    (hplain : ¬ (s.target = none ∧ s.primaryType = some "array")) :
    typeName keys context s = typeName keys context t := by
  cases htarget : s.target with
  | some target =>
    rw [typeName_of_target htarget, typeName_of_target (h.target.symm.trans htarget)]
  | none =>
    have harray : s.primaryType ≠ some "array" := fun harray => hplain ⟨htarget, harray⟩
    rw [typeName_of_not_array htarget harray,
      typeName_of_not_array (h.target.symm.trans htarget) (h.primaryType ▸ harray),
      h.primaryType, h.format]

/-- Where a type is named, the only way on is to the items of an array. -/
theorem items_of_leadsTo {next : Place} (hs : p.schema? .v30 = some s)
    (hlast : p.role.isEntry = true → s.shape = .alias) (h : LeadsTo p next) :
    (s.target = none ∧ s.primaryType = some "array") ∧
      ∃ object, objectUnder "items" p.object = some object ∧
        next = ⟨.items p.role.context, object⟩ := by
  cases h with
  | alternative _ hread hunion _ =>
    obtain rfl := Option.some.inj (hs.symm.trans hread)
    rw [hlast rfl] at hunion
    cases hunion
  | property _ hread hstruct _ _ =>
    obtain rfl := Option.some.inj (hs.symm.trans hread)
    rw [hlast rfl] at hstruct
    cases hstruct
  | items _ hread _ htarget harray hobject =>
    obtain rfl := Option.some.inj (hs.symm.trans hread)
    exact ⟨⟨htarget, harray⟩, _, hobject, rfl⟩

/-- **Where both versions see a schema, its type is named the same if the items agree** that it
leads to. -/
theorem typeName_alike_iff (h : p.IsSchema) (hs : p.schema? .v30 = some s)
    (ht : p.schema? .v31 = some t) (hlast : p.role.isEntry = true → s.shape = .alias)
    (ih : ∀ object item item', s.items = some item →
      schema? .v30 ⟨.items p.role.context, object⟩ = some item →
      schema? .v31 ⟨.items p.role.context, object⟩ = some item' →
      (Agrees keys ⟨.items p.role.context, object⟩ ↔
        typeName keys p.role.context item = typeName keys p.role.context item')) :
    (∀ next, LeadsTo p next → next.Agrees keys) ↔
      typeName keys p.role.context s = typeName keys p.role.context t := by
  have hsame := saysSame h hs ht
  by_cases harray : s.target = none ∧ s.primaryType = some "array"
  · rw [typeName_array_iff hsame harray.1 harray.2]
    rcases items_alike h hs ht p.role.context with
      ⟨hnone, hitems, hitems'⟩ | ⟨object, item, item', hobject, hitems, hitems', hitem, hitem'⟩
    · refine iff_of_true (fun next hnext => ?_) (by rw [hitems, hitems'])
      obtain ⟨-, object, hobject, -⟩ := items_of_leadsTo hs hlast hnext
      rw [hnone] at hobject
      cases hobject
    · rw [hitems, hitems', itemType, itemType, ← ih object item item' hitems hitem hitem']
      constructor
      · intro hnext
        exact hnext _ (.items h hs hlast harray.1 harray.2 hobject)
      · intro hagrees next hnext
        obtain ⟨-, object', hobject', rfl⟩ := items_of_leadsTo hs hlast hnext
        obtain rfl := Option.some.inj (hobject.symm.trans hobject')
        exact hagrees
  · refine iff_of_true (fun next hnext => ?_) (typeName_of_saysSame hsame harray)
    exact absurd (items_of_leadsTo hs hlast hnext).1 harray

/-- **A place whose type is named agrees exactly if the same comes of both readings.** -/
theorem agrees_iff (hrole : p.role.isEntry = false) (hs : p.schema? .v30 = some s)
    (ht : p.schema? .v31 = some t) : p.Agrees keys ↔ p.role.SameFrom keys s t := by
  -- The items are read from an object further down, so the place changes with the schema.
  induction s using Schema.induction_on_items generalizing p t with
  | step s ih =>
    by_cases hdiffers : p.Differs
    · rw [agrees_iff_of_differs hdiffers, comesToSame_iff hs ht]
    · rw [agrees_iff_of_not_differs hdiffers]
      rcases eq_or_isSchema hdiffers hs ht with ⟨rfl, hnext⟩ | hschema
      · refine iff_of_true (fun next h => absurd h (hnext next)) ?_
        rw [sameFrom_iff hrole rfl]
      · rw [sameFrom_iff hrole (saysSame hschema hs ht).target]
        refine typeName_alike_iff hschema hs ht (fun hentry => ?_) ?_
        · rw [hrole] at hentry
          cases hentry
        · intro object item item' hitems hitem hitem'
          exact ih item hitems rfl hitem hitem'

/-! ## Declarations -/

/-- Both versions read the alternatives of a schema from the same objects. -/
theorem alternatives_alike (h : p.IsSchema) (hs : p.schema? .v30 = some s)
    (ht : p.schema? .v31 = some t) :
    List.Forall₂ (Takes .v30 false) (alternativesIn p.object) s.alternatives ∧
      List.Forall₂ (Takes .v31 false) (alternativesIn p.object) t.alternatives := by
  obtain ⟨r, hr, rfl⟩ := exists_parts h.1 hs
  obtain ⟨r', hr', rfl⟩ := exists_parts h.2 ht
  exact ⟨forall₂_alternatives hr, forall₂_alternatives hr'⟩

/-- Both versions read the properties of a schema from the same objects. -/
theorem properties_alike (h : p.IsSchema) (hs : p.schema? .v30 = some s)
    (ht : p.schema? .v31 = some t) :
    List.Forall₂ (TakesNamed .v30 false) (tableUnder "properties" p.object) s.properties ∧
      List.Forall₂ (TakesNamed .v31 false) (tableUnder "properties" p.object) t.properties := by
  obtain ⟨r, hr, rfl⟩ := exists_parts h.1 hs
  obtain ⟨r', hr', rfl⟩ := exists_parts h.2 ht
  exact ⟨forall₂_properties hr, forall₂_properties hr'⟩

/-- The same rule fits what both versions see as a schema. -/
theorem shape_alike (h : p.IsSchema) (hs : p.schema? .v30 = some s)
    (ht : p.schema? .v31 = some t) :
    (s.shape = .reference ∧ t.shape = .reference) ∨
      (s.shape = .union s.alternatives ∧ t.shape = .union t.alternatives) ∨
      (s.shape = .values s.values ∧ t.shape = .values t.values) ∨
      (s.shape = .object ∧ t.shape = .object) ∨ (s.shape = .alias ∧ t.shape = .alias) := by
  have hsame := saysSame h hs ht
  obtain ⟨hleft, hright⟩ := alternatives_alike h hs ht
  obtain ⟨hfields, hfields'⟩ := properties_alike h hs ht
  unfold Schema.shape
  rw [← isEmpty_eq_of_forall₂ hleft, ← isEmpty_eq_of_forall₂ hright,
    ← isEmpty_eq_of_forall₂ hfields, ← isEmpty_eq_of_forall₂ hfields', ← hsame.primaryType,
    ← hsame.target, ← hsame.values]
  split_ifs <;> simp

/-- A schema is taken for its reference if it has one. -/
theorem isSome_target_of_shape (h : s.shape = .reference) : s.target.isSome = true := by
  by_contra htarget
  unfold Schema.shape at h
  rw [if_neg htarget] at h
  split_ifs at h

theorem remarked_alike (h : SaysSame s t) : remarked s = remarked t := by
  funext d
  rw [remarked, remarked, h.description, h.deprecated]

/-- The remarks of a schema tell declarations apart. -/
theorem remarked_injective (s : Schema) : Function.Injective (remarked s) := by
  intro d other h
  unfold remarked at h
  dsimp only at h
  split_ifs at h <;> simpa using h

theorem body_of_union {name context : String} (h : s.shape = .union s.alternatives) :
    body keys name context s =
      (s.alternatives.zipIdx.mapM (alternativeCase keys context)).map fun cases =>
        .enum name (cases.map .case) [] Declaration.defaultAccess := by
  unfold body
  rw [h]
  dsimp only
  cases s.alternatives.zipIdx.mapM (alternativeCase keys context) <;> rfl

theorem body_of_object {name context : String} (h : s.shape = .object) :
    body keys name context s =
      (s.properties.mapM (variableOf keys context s.required)).map fun fields =>
        .struct name (fields.map .stored) ["BaseModel"] Declaration.defaultAccess := by
  unfold body
  rw [h]
  dsimp only
  cases s.properties.mapM (variableOf keys context s.required) <;> rfl

/-- Two properties with one name become the same variable if their types are named the same. -/
theorem variableOf_alike {context property : String} (required : List String) {C : Prop}
    (h : SameIf C (typeName keys (context ++ "." ++ property) s)
      (typeName keys (context ++ "." ++ property) t)) :
    SameIf C (variableOf keys context required (property, s))
      (variableOf keys context required (property, t)) := by
  rw [variableOf_eq, variableOf_eq]
  refine .bind fun name => h.map fun type type' heq => ?_
  exact Option.some.inj (Variable.mk.inj heq).2.1

/-- Where the schema under a key leads, by the rule that fits it. -/
theorem next_of_leadsTo {key : String} {entries : List (Value × Value)} {next : Place}
    (hs : schema? .v30 ⟨.entry key, entries⟩ = some s) (h : LeadsTo ⟨.entry key, entries⟩ next) :
    (s.shape = .union s.alternatives ∧ ∃ object number,
        (.mapping object, number) ∈ (alternativesIn entries).zipIdx ∧
          next = ⟨.alternative key number, object⟩) ∨
      (s.shape = .object ∧ ∃ k object name,
        (k, .mapping object) ∈ tableUnder "properties" entries ∧ k.asText? = some name ∧
          next = ⟨.property key name, object⟩) ∨
      s.shape = .alias := by
  cases h with
  | alternative _ hread hunion hmem =>
    obtain rfl := Option.some.inj (hs.symm.trans hread)
    exact .inl ⟨hunion, _, _, hmem, rfl⟩
  | property _ hread hstruct hmem hnamed =>
    obtain rfl := Option.some.inj (hs.symm.trans hread)
    exact .inr (.inl ⟨hstruct, _, _, _, hmem, hnamed, rfl⟩)
  | items _ hread hlast _ _ _ =>
    obtain rfl := Option.some.inj (hs.symm.trans hread)
    exact .inr (.inr (hlast rfl))

/-- Where a schema has a reference of its own or is an enumeration, it leads nowhere. -/
theorem not_leadsTo {key : String} {entries : List (Value × Value)}
    (hs : schema? .v30 ⟨.entry key, entries⟩ = some s)
    (hshape : s.shape = .reference ∨ s.shape = .values s.values) (next : Place) :
    ¬ LeadsTo ⟨.entry key, entries⟩ next := by
  intro hnext
  rcases next_of_leadsTo hs hnext with ⟨hother, -⟩ | ⟨hother, -⟩ | hother <;>
    rcases hshape with hshape | hshape <;> rw [hshape] at hother <;> cases hother

section

variable {key name : String} {entries : List (Value × Value)}
  (h : IsSchema ⟨.entry key, entries⟩) (hs : schema? .v30 ⟨.entry key, entries⟩ = some s)
include h hs

/-- A union leads to its alternatives. -/
theorem leadsTo_union_iff (hshape : s.shape = .union s.alternatives) :
    (∀ next, LeadsTo ⟨.entry key, entries⟩ next → next.Agrees keys) ↔
      ∀ x ∈ (alternativesIn entries).zipIdx, ∀ object, x.1 = .mapping object →
        Agrees keys ⟨.alternative key x.2, object⟩ := by
  constructor
  · rintro hnext ⟨_, n⟩ hmem object rfl
    exact hnext _ (.alternative h hs hshape hmem)
  · intro hall next hnext
    rcases next_of_leadsTo hs hnext with ⟨-, object, n, hmem, rfl⟩ | ⟨hother, -⟩ | hother
    · exact hall _ hmem _ rfl
    · rw [hshape] at hother
      cases hother
    · rw [hshape] at hother
      cases hother

/-- An object leads to its properties. -/
theorem leadsTo_object_iff (hshape : s.shape = .object) :
    (∀ next, LeadsTo ⟨.entry key, entries⟩ next → next.Agrees keys) ↔
      ∀ e ∈ tableUnder "properties" entries, ∀ property object, e.1.asText? = some property →
        e.2 = .mapping object → Agrees keys ⟨.property key property, object⟩ := by
  constructor
  · rintro hnext ⟨k, _⟩ hmem property object hnamed rfl
    exact hnext _ (.property h hs hshape hmem hnamed)
  · intro hall next hnext
    rcases next_of_leadsTo hs hnext with ⟨hother, -⟩ | ⟨-, k, object, property, hmem, hnamed, rfl⟩ |
      hother
    · rw [hshape] at hother
      cases hother
    · exact hall _ hmem property object hnamed rfl
    · rw [hshape] at hother
      cases hother

variable (ht : schema? .v31 ⟨.entry key, entries⟩ = some t)
include ht

/-- **The cases of a union** are the same if its alternatives agree. -/
theorem union_alike (hshape : s.shape = .union s.alternatives)
    (hshape' : t.shape = .union t.alternatives) :
    SameIf (∀ next, LeadsTo ⟨.entry key, entries⟩ next → next.Agrees keys)
      (body keys name key s) (body keys name key t) := by
  obtain ⟨hleft, hright⟩ := alternatives_alike h hs ht
  have hcases : SameIf (∀ x ∈ (alternativesIn entries).zipIdx, ∀ object, x.1 = .mapping object →
      Agrees keys ⟨.alternative key x.2, object⟩)
      (s.alternatives.zipIdx.mapM (alternativeCase keys key))
      (t.alternatives.zipIdx.mapM (alternativeCase keys key)) := by
    refine .mapM (forall₂_zipIdx hleft 0) (forall₂_zipIdx hright 0) ?_
    rintro ⟨_, n⟩ - ⟨a, _⟩ ⟨b, _⟩ ⟨rfl, object, rfl, ha⟩ ⟨rfl, object', heq, hb⟩
    obtain rfl := Value.mapping.inj heq
    have hagrees : Agrees keys ⟨.alternative key n, object⟩ ↔
        alternativeCase keys key (a, n) = alternativeCase keys key (b, n) := agrees_iff rfl ha hb
    refine (SameIf.of_iff hagrees).congr ⟨fun hall => hall object rfl, ?_⟩
    rintro hone _ ⟨⟩
    exact hone
  rw [body_of_union hshape, body_of_union hshape']
  refine (hcases.map fun cases cases' heq => ?_).congr (leadsTo_union_iff h hs hshape)
  simpa [List.map_inj_right] using heq

/-- **The variables of a struct** are the same if its properties agree. -/
theorem object_alike (hshape : s.shape = .object) (hshape' : t.shape = .object) :
    SameIf (∀ next, LeadsTo ⟨.entry key, entries⟩ next → next.Agrees keys)
      (body keys name key s) (body keys name key t) := by
  obtain ⟨hleft, hright⟩ := properties_alike h hs ht
  have hfields : SameIf (∀ e ∈ tableUnder "properties" entries, ∀ property object,
      e.1.asText? = some property → e.2 = .mapping object →
        Agrees keys ⟨.property key property, object⟩)
      (s.properties.mapM (variableOf keys key s.required))
      (t.properties.mapM (variableOf keys key s.required)) := by
    refine .mapM hleft hright ?_
    rintro ⟨k, _⟩ - ⟨property, a⟩ ⟨property', b⟩ ⟨hnamed, object, rfl, ha⟩
      ⟨hnamed', object', heq, hb⟩
    obtain rfl := Value.mapping.inj heq
    obtain rfl : property = property' := Option.some.inj (hnamed.symm.trans hnamed')
    have hagrees : Agrees keys ⟨.property key property, object⟩ ↔
        typeName keys (key ++ "." ++ property) a = typeName keys (key ++ "." ++ property) b :=
      agrees_iff rfl ha hb
    refine (variableOf_alike s.required (.of_iff hagrees)).congr
      ⟨fun hall => hall property object hnamed rfl, ?_⟩
    rintro hone _ _ hother ⟨⟩
    obtain rfl := Option.some.inj (hnamed.symm.trans hother)
    exact hone
  rw [body_of_object hshape, body_of_object hshape', ← (saysSame h hs ht).required]
  refine (hfields.map fun fields fields' heq => ?_).congr (leadsTo_object_iff h hs hshape)
  simpa [List.map_inj_right] using heq

/-- **The body of a declaration** is the same if the places agree that the schema leads to. -/
theorem body_alike :
    SameIf (∀ next, LeadsTo ⟨.entry key, entries⟩ next → next.Agrees keys)
      (body keys name key s) (body keys name key t) := by
  have hsame := saysSame h hs ht
  have hnowhere (hshape : s.shape = .reference ∨ s.shape = .values s.values)
      (hbody : body keys name key s = body keys name key t) :
      SameIf (∀ next, LeadsTo ⟨.entry key, entries⟩ next → next.Agrees keys)
        (body keys name key s) (body keys name key t) :=
    .of_iff (iff_of_true (fun next hnext => absurd hnext (not_leadsTo hs hshape next)) hbody)
  -- A reference, a union, an enumeration, an object, and any other schema.
  rcases shape_alike h hs ht with ⟨hshape, hshape'⟩ | ⟨hshape, hshape'⟩ | ⟨hshape, hshape'⟩ |
    ⟨hshape, hshape'⟩ | ⟨hshape, hshape'⟩
  · refine hnowhere (.inl hshape) ?_
    obtain ⟨target, htarget⟩ := Option.isSome_iff_exists.1 (isSome_target_of_shape hshape)
    unfold body
    rw [hshape, hshape', typeName_of_target htarget,
      typeName_of_target (hsame.target.symm.trans htarget)]
  · exact union_alike h hs ht hshape hshape'
  · refine hnowhere (.inr hshape) ?_
    unfold body
    rw [hshape, hshape', hsame.values]
  · exact object_alike h hs ht hshape hshape'
  · have hname : (∀ next, LeadsTo ⟨.entry key, entries⟩ next → next.Agrees keys) ↔
        typeName keys key s = typeName keys key t :=
      typeName_alike_iff h hs ht (fun _ => hshape) fun _ _ _ _ hitem hitem' =>
        agrees_iff rfl hitem hitem'
    unfold body
    rw [hshape, hshape']
    refine (SameIf.of_iff hname).map fun type type' heq => ?_
    exact (Declaration.typeAlias.inj heq).2

end

/-- **What the two versions derive from the schema under a key** is the same if the place agrees,
and all those do that it leads to. -/
theorem declaration_alike {key : String} {entries : List (Value × Value)}
    (hs : schema? .v30 ⟨.entry key, entries⟩ = some s)
    (ht : schema? .v31 ⟨.entry key, entries⟩ = some t) :
    SameIf (Agrees keys ⟨.entry key, entries⟩) (declaration keys key s)
      (declaration keys key t) := by
  by_cases hdiffers : Differs ⟨.entry key, entries⟩
  · refine .of_iff ?_
    rw [agrees_iff_of_differs hdiffers, comesToSame_iff hs ht]
    rfl
  · rw [agrees_iff_of_not_differs hdiffers]
    rcases eq_or_isSchema hdiffers hs ht with ⟨rfl, hnext⟩ | hschema
    · exact .of_iff (iff_of_true (fun next h => absurd h (hnext next)) rfl)
    · unfold declaration
      rw [remarked_alike (saysSame hschema hs ht)]
      exact (body_alike hschema hs ht).map (remarked_injective t)

end Place
end OpenApi
end TypeFiles
