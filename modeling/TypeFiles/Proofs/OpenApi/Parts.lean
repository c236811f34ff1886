/-
# What the versions read in one object

The versions of the format know different fields, and take some of those that they share in
different forms.  A declaration is made of shared fields only, and of those the versions read the
same:

| fields | read |
| --- | --- |
| `ref`, `type`, `enum`, `required`, `format`, `description`, `deprecated` | the same value |
| `items`, `oneOf`, `anyOf`, `properties` | the objects inside it, one by one, in the same order |

`value_alike` is the first row.  The second one is said of one version at a time
(`items_of_readEntries`, `forall₂_alternatives`, `forall₂_properties`), as the objects inside are
where the versions can differ: each of them is read both as a reference and as a schema, and which
of the two readings is taken (`choice`) depends on the version.
-/

import TypeFiles.OpenApi
import TypeFiles.Derivation
import TypeFiles.Proofs.Success

namespace TypeFiles
namespace OpenApi

/-! ## The field of a key -/

/-- The name of the field that a key of an object is, whichever versions know it. -/
def nameOf? (keys : List String) (key : String) : Option String :=
  match otherNames.lookup key with
  | some name => if keys.contains name then none else some name
  | none => some key

/-- What may stand under a name for a schema to keep it.  No version knows a field `ref`, but what
stands there is kept as it is. -/
def kept? (version : Version) (name : String) : Option Form :=
  if name = "ref" then some .anything else form? version name

/-- The value of an object under the name of a field. -/
def held? (keys : List String) (name : String) : List (Value × Value) → Option Value
  | [] => none
  | (.text key, v) :: rest => if nameOf? keys key = some name then some v else held? keys name rest
  | _ :: rest => held? keys name rest

variable {version : Version} {keys : List String} {key name : String} {form : Form}
  {entries : List (Value × Value)} {v : Value} {r : Reading Schema.Parts}

theorem fieldOf?_eq (version : Version) (keys : List String) (key : String) :
    fieldOf? version keys key =
      (nameOf? keys key).bind fun name => (form? version name).map fun form => (name, form) := by
  unfold fieldOf? nameOf?
  cases otherNames.lookup key with
  | none => rfl
  | some name =>
    dsimp only
    split <;> rfl

/-- A field of another name is one of four, and is known by its own name only. -/
theorem mem_otherNames_of_nameOf? (h : nameOf? keys key = some name) :
    (key, name) ∈ otherNames ∨ (key = name ∧ ∀ field ∈ otherNames, field.1 ≠ key) := by
  unfold nameOf? at h
  split at h
  · rename_i other hother
    split at h
    · cases h
    · obtain rfl := Option.some.inj h
      obtain ⟨before, after, hsplit, -⟩ := List.lookup_eq_some_iff.1 hother
      refine .inl ?_
      rw [hsplit]
      exact List.mem_append_right _ List.mem_cons_self
  · rename_i hother
    obtain rfl := Option.some.inj h
    refine .inr ⟨rfl, fun field hfield heq => ?_⟩
    have hne := List.lookup_eq_none_iff.1 hother field hfield
    rw [heq] at hne
    simp at hne

/-- A field that may have another name is never known by that one. -/
theorem nameOf?_ne (keys : List String) (key : String) :
    nameOf? keys key ≠ some "schema_format" := by
  intro h
  rcases mem_otherNames_of_nameOf? h with hmem | ⟨rfl, hne⟩
  · revert hmem
    simp [otherNames]
  · exact hne ("schema_format", "format") (by simp [otherNames]) rfl

/-- The fields that have no other name. -/
def HasOneName (name : String) : Prop := ∀ field ∈ otherNames, field.1 ≠ name ∧ field.2 ≠ name

instance (name : String) : Decidable (HasOneName name) :=
  inferInstanceAs (Decidable (∀ field ∈ otherNames, field.1 ≠ name ∧ field.2 ≠ name))

theorem nameOf?_eq_some_iff (h : HasOneName name) : nameOf? keys key = some name ↔ key = name := by
  constructor
  · intro hname
    rcases mem_otherNames_of_nameOf? hname with hmem | ⟨rfl, -⟩
    · exact absurd rfl (h _ hmem).2
    · rfl
  · rintro rfl
    have hnone : otherNames.lookup key = none := by
      refine List.lookup_eq_none_iff.2 fun field hfield => ?_
      simpa using fun heq => (h field hfield).1 heq.symm
    rw [nameOf?, hnone]

/-- Fields are kept under different attributes. -/
theorem attributeName_ne {other : String} (hname : nameOf? keys key = some name)
    (hother : kept? version other ≠ none) (h : name ≠ other) :
    attributeName name ≠ attributeName other := by
  have hne : name ≠ "schema_format" := by
    rintro rfl
    exact nameOf?_ne keys key hname
  have hne' : other ≠ "schema_format" := by
    rintro rfl
    cases version <;> exact hother rfl
  unfold attributeName
  simp only [beq_iff_eq]
  split_ifs with h₁ h₂ h₂
  · exact absurd (h₁.trans h₂.symm) h
  · exact hne'.symm
  · exact hne
  · exact h

/-- What is kept under `ref` may be anything. -/
theorem readField_anything (version : Version) (v : Value) :
    readField version .anything v = some ⟨0, .value v⟩ := by
  cases v <;> rfl

/-- **One entry of an object** adds at most one part to those of the others: that of its field, if
it is one whose value is kept. -/
theorem parts_of_cons {rest : List (Value × Value)}
    (h : readEntries version keys ((.text key, v) :: rest) = some r) :
    ∃ others, readEntries version keys rest = some others ∧
      ((∃ name form part, nameOf? keys key = some name ∧ kept? version name = some form ∧
          readField version form v = some part ∧
          r.result = (attributeName name, part.result) :: others.result) ∨
        ((∀ name, nameOf? keys key = some name → kept? version name = none) ∧
          r.result = others.result)) := by
  rw [readEntries] at h
  obtain ⟨others, hothers, h⟩ := Option.bind_eq_some_iff.1 h
  refine ⟨others, hothers, ?_⟩
  have hunknown : form? version "ref" = none := by cases version <;> rfl
  rw [fieldOf?_eq] at h
  -- An entry `ref` is no field, and is kept all the same.
  by_cases href : key = "ref"
  · subst href
    have hname : nameOf? keys "ref" = some "ref" := (nameOf?_eq_some_iff (by decide)).2 rfl
    simp [hname, hunknown] at h
    exact .inl ⟨"ref", .anything, _, hname, rfl, readField_anything version v,
      congrArg Reading.result h.symm⟩
  · cases hname : nameOf? keys key with
    | none =>
      simp [hname, href] at h
      exact .inr ⟨nofun, congrArg Reading.result h.symm⟩
    | some name =>
      have hkept : kept? version name = form? version name := by
        refine if_neg ?_
        rintro rfl
        exact href ((nameOf?_eq_some_iff (by decide)).1 hname)
      cases hform : form? version name with
      | none =>
        simp [hname, hform, href] at h
        refine .inr ⟨?_, congrArg Reading.result h.symm⟩
        rintro _ ⟨⟩
        rw [hkept, hform]
      | some form =>
        simp only [hname, hform, Option.map_some, Option.bind_some] at h
        obtain ⟨part, hpart, h⟩ := Option.bind_eq_some_iff.1 h
        exact .inl ⟨name, form, part, rfl, hkept.trans hform, hpart,
          congrArg Reading.result (Option.some.inj h).symm⟩

theorem text_of_readEntries {k : Value} {rest : List (Value × Value)}
    (h : readEntries version keys ((k, v) :: rest) = some r) : ∃ key, k = .text key := by
  cases k with
  | text key => exact ⟨key, rfl⟩
  | _ => simp [readEntries] at h

/-- **The part under the attribute of a field** is what the value that the object has under the
name of the field is read as; there is none if it has no such value. -/
theorem lookup_of_readEntries (h : readEntries version keys entries = some r)
    (hform : kept? version name = some form) :
    (held? keys name entries = none ∧ r.result.lookup (attributeName name) = none) ∨
      ∃ v part, held? keys name entries = some v ∧ readField version form v = some part ∧
        r.result.lookup (attributeName name) = some part.result := by
  induction entries generalizing r with
  | nil =>
    rw [readEntries, Option.some.injEq] at h
    subst h
    exact .inl ⟨rfl, rfl⟩
  | cons entry rest ih =>
    obtain ⟨k, v⟩ := entry
    obtain ⟨key, rfl⟩ := text_of_readEntries h
    obtain ⟨others, hothers, hparts⟩ := parts_of_cons h
    rw [held?]
    -- Of two entries for one field, the first one counts, in the object and among the parts.
    rcases hparts with ⟨found, foundForm, part, hfound, hfoundForm, hpart, hr⟩ | ⟨hnone, hr⟩
    · rw [hr, hfound]
      by_cases heq : found = name
      · subst heq
        obtain rfl := Option.some.inj (hfoundForm.symm.trans hform)
        refine .inr ⟨v, part, if_pos rfl, hpart, ?_⟩
        rw [List.lookup_cons_self]
      · have hknown : kept? version name ≠ none := by simp [hform]
        rw [if_neg (by simpa using heq), List.lookup_cons,
          beq_false_of_ne (attributeName_ne hfound hknown heq).symm]
        exact ih hothers
    · rw [hr, if_neg]
      · exact ih hothers
      · intro hname
        rw [hnone name hname] at hform
        cases hform

/-! ## Fields without schemas inside -/

/-- The forms of the values that hold no schema and are kept. -/
def Form.isPlain : Form → Bool
  | .text | .truth | .anything | .values | .texts | .dataType => true
  | _ => false

/-- A value that both versions take is taken as the same by both. -/
theorem plain?_alike {first second : Value} (h : plain? .v30 form v = some first)
    (h' : plain? .v31 form v = some second) : first = second := by
  have hdata : ∀ v, isDataType .v30 v = true → isDataType .v31 v = true := by
    intro v hv
    cases v with
    | text s =>
      rw [isDataType, List.contains_iff_mem] at hv ⊢
      exact (by decide : dataTypes .v30 ⊆ dataTypes .v31) hv
    | _ => cases hv
  -- Two forms depend on the version: 3.0 refuses an empty list of texts, 3.1 takes more types.
  cases form with
  | texts =>
    obtain ⟨texts, htexts, h⟩ := Option.bind_eq_some_iff.1 h
    obtain ⟨texts', htexts', h'⟩ := Option.bind_eq_some_iff.1 h'
    obtain rfl := Option.some.inj (htexts.symm.trans htexts')
    split at h
    · cases h
    · simp only [reduceCtorEq, beq_iff_eq, Bool.and_eq_true, and_false, if_false] at h'
      exact (Option.some.inj h).symm.trans (Option.some.inj h')
  | dataType =>
    unfold plain? at h h'
    dsimp only at h h'
    split at h
    · rename_i hv
      rw [if_pos (hdata v hv)] at h'
      exact (Option.some.inj h).symm.trans (Option.some.inj h')
    · cases h
  | _ => exact Option.some.inj (h.symm.trans h')

/-- A plain value is read as it is taken. -/
theorem readField_of_isPlain (hplain : form.isPlain = true) (hv : v ≠ .null) :
    readField version form v = (plain? version form v).map fun taken => ⟨0, .value taken⟩ := by
  cases v with
  | null => exact absurd rfl hv
  | mapping entries | list items | tuple items => cases form <;> first | rfl | cases hplain
  | _ => rw [readField] <;> exact nofun

theorem readField_null (version : Version) (form : Form) :
    readField version form .null = some ⟨0, .value .null⟩ := by
  rw [readField]

/-- **What both versions keep of a plain field is the same value.** -/
theorem value_alike {first second : Reading Schema.Parts}
    (h : readEntries .v30 keys entries = some first)
    (h' : readEntries .v31 keys entries = some second) (hform : kept? .v30 name = some form)
    (hform' : kept? .v31 name = some form) (hplain : form.isPlain = true) :
    first.result.value (attributeName name) = second.result.value (attributeName name) := by
  unfold Schema.Parts.value
  rcases lookup_of_readEntries h hform with ⟨hheld, hlookup⟩ | ⟨v, part, hheld, hpart, hlookup⟩
  · rcases lookup_of_readEntries h' hform' with ⟨-, hlookup'⟩ | ⟨v', part', hheld', -, -⟩
    · rw [hlookup, hlookup']
    · rw [hheld] at hheld'
      cases hheld'
  · rcases lookup_of_readEntries h' hform' with ⟨hheld', -⟩ | ⟨v', part', hheld', hpart', hlookup'⟩
    · rw [hheld] at hheld'
      cases hheld'
    · obtain rfl := Option.some.inj (hheld.symm.trans hheld')
      have hpart_eq : part.result = part'.result := by
        by_cases hv : v = .null
        · subst hv
          rw [readField_null, Option.some.injEq] at hpart hpart'
          rw [← hpart, ← hpart']
        · rw [readField_of_isPlain hplain hv, Option.map_eq_some_iff] at hpart hpart'
          obtain ⟨taken, htaken, rfl⟩ := hpart
          obtain ⟨taken', htaken', rfl⟩ := hpart'
          rw [plain?_alike htaken htaken']
      rw [hlookup, hlookup', hpart_eq]

/-! ## Objects inside an object -/

/-- What an object can be taken as. -/
inductive Choice where
  | reference
  | schema
  deriving DecidableEq, Repr

/-- Read an object where a schema is expected; strictly, it may not be a reference. -/
def readObject (version : Version) (strict : Bool) (entries : List (Value × Value)) :
    Option (Reading Schema) :=
  let schema := (readEntries version (keysOf entries) entries).map schemaOf
  if strict then schema else better (reference? version entries) schema

/-- The schema that an object is read as. -/
def schema? (version : Version) (strict : Bool) (entries : List (Value × Value)) : Option Schema :=
  (readObject version strict entries).map (·.result)

/-- What an object is taken as where a schema is expected: a reference, if it can be one and knows
as many keys as a schema does. -/
def choice (version : Version) (strict : Bool) (entries : List (Value × Value)) : Choice :=
  if strict then .schema
  else
    match reference? version entries, readEntries version (keysOf entries) entries with
    | some r, some s => if r.known < s.known then .schema else .reference
    | some _, none => .reference
    | none, _ => .schema

/-- The items of the list that an object has under a key. -/
def listUnder (key : String) (entries : List (Value × Value)) : List Value :=
  match (Value.mapping entries).get? key with
  | some (.list items) | some (.tuple items) => items
  | _ => []

/-- The entries of the mapping that an object has under a key. -/
def tableUnder (key : String) (entries : List (Value × Value)) : List (Value × Value) :=
  match (Value.mapping entries).get? key with
  | some (.mapping table) => table
  | _ => []

/-- The object that an object has under a key. -/
def objectUnder (key : String) (entries : List (Value × Value)) : Option (List (Value × Value)) :=
  match (Value.mapping entries).get? key with
  | some (.mapping object) => some object
  | _ => none

/-- The alternatives that an object lists. -/
def alternativesIn (entries : List (Value × Value)) : List Value :=
  if (listUnder "oneOf" entries).isEmpty then listUnder "anyOf" entries
  else listUnder "oneOf" entries

/-- A value is an object that a version reads as a schema. -/
def Takes (version : Version) (strict : Bool) (v : Value) (s : Schema) : Prop :=
  ∃ entries, v = .mapping entries ∧ schema? version strict entries = some s

/-- The same for an entry of a mapping, and for a schema with its name. -/
def TakesNamed (version : Version) (strict : Bool) (entry : Value × Value) (s : String × Schema) :
    Prop :=
  entry.1.asText? = some s.1 ∧ Takes version strict entry.2 s.2

variable {strict : Bool} {s : Schema}

theorem schema?_of_reference (h : choice version strict entries = .reference) :
    schema? version strict entries = (reference? version entries).map (·.result) := by
  unfold choice at h
  unfold schema? readObject
  cases strict with
  | true => cases h
  | false =>
    cases hr : reference? version entries with
    | none => rw [hr] at h; cases h
    | some reference =>
      cases hs : readEntries version (keysOf entries) entries with
      | none => rfl
      | some parts =>
        rw [hr, hs] at h
        have hless : ¬ reference.known < parts.known := by
          intro hless
          simp [hless] at h
        simp [better, schemaOf, hless]

theorem schema?_of_schema (h : choice version strict entries = .schema) :
    schema? version strict entries =
      (readEntries version (keysOf entries) entries).map fun r => Schema.ofParts r.result := by
  unfold choice at h
  unfold schema? readObject
  cases strict with
  | true =>
    rw [if_pos rfl, Option.map_map]
    rfl
  | false =>
    cases hs : readEntries version (keysOf entries) entries with
    | none =>
      cases hr : reference? version entries with
      | none => rfl
      | some reference => simp [hr, hs] at h
    | some parts =>
      cases hr : reference? version entries with
      | none => rfl
      | some reference =>
        rw [hr, hs] at h
        have hless : reference.known < parts.known := by
          by_contra hless
          simp [hless] at h
        simp [better, schemaOf, hless]

/-- As a reference, an object is read the same by both versions. -/
theorem reference?_alike {first second : Reading Schema}
    (h : reference? .v30 entries = some first) (h' : reference? .v31 entries = some second) :
    first.result = second.result := by
  unfold reference? at h h'
  obtain ⟨value, hvalue, h⟩ := Option.bind_eq_some_iff.1 h
  obtain ⟨target, htarget, h⟩ := Option.bind_eq_some_iff.1 h
  obtain ⟨-, -, h⟩ := Option.bind_eq_some_iff.1 h
  obtain ⟨value', hvalue', h'⟩ := Option.bind_eq_some_iff.1 h'
  obtain ⟨target', htarget', h'⟩ := Option.bind_eq_some_iff.1 h'
  obtain ⟨-, -, h'⟩ := Option.bind_eq_some_iff.1 h'
  obtain ⟨known, -, h'⟩ := Option.bind_eq_some_iff.1 h'
  obtain rfl := Option.some.inj (hvalue.symm.trans hvalue')
  obtain rfl := Option.some.inj (htarget.symm.trans htarget')
  rw [← Option.some.inj h, ← Option.some.inj h']

theorem held?_eq_get? (h : HasOneName name) (keys : List String) (entries : List (Value × Value)) :
    held? keys name entries = (Value.mapping entries).get? name := by
  induction entries with
  | nil => rfl
  | cons entry rest ih =>
    obtain ⟨k, v⟩ := entry
    cases k with
    | text key =>
      simp only [held?, nameOf?_eq_some_iff h, ih]
      by_cases heq : key = name <;> simp [Value.get?, heq]
    | _ => simpa [held?, Value.get?] using ih

/-- The objects in a list are read one by one. -/
theorem forall₂_of_readList {items : List Value} {r : Reading (List Schema)}
    (h : readList version items = some r) :
    List.Forall₂ (Takes version false) items r.result := by
  induction items generalizing r with
  | nil =>
    rw [readList, Option.some.injEq] at h
    subst h
    exact .nil
  | cons v rest ih =>
    cases v with
    | mapping entries =>
      rw [readList] at h
      obtain ⟨first, hfirst, h⟩ := Option.bind_eq_some_iff.1 h
      obtain ⟨others, hothers, h⟩ := Option.bind_eq_some_iff.1 h
      rw [← Option.some.inj h]
      exact .cons ⟨entries, rfl, congrArg (Option.map Reading.result) hfirst⟩ (ih hothers)
    | _ => simp [readList] at h

theorem readTable_cons (key : Value) (rest : List (Value × Value)) :
    readTable version strict ((key, .mapping entries) :: rest) =
      key.asText?.bind fun name => (readObject version strict entries).bind fun first =>
        (readTable version strict rest).bind fun others =>
          some ⟨first.known + others.known, (name, first.result) :: others.result⟩ := by
  rw [readTable]
  cases strict <;> rfl

/-- The objects in a table are read one by one, each under its key. -/
theorem forall₂_of_readTable {table : List (Value × Value)} {r : Reading (List (String × Schema))}
    (h : readTable version strict table = some r) :
    List.Forall₂ (TakesNamed version strict) table r.result := by
  induction table generalizing r with
  | nil =>
    rw [readTable, Option.some.injEq] at h
    subst h
    exact .nil
  | cons entry rest ih =>
    obtain ⟨key, v⟩ := entry
    cases v with
    | mapping entries =>
      rw [readTable_cons] at h
      obtain ⟨name, hname, h⟩ := Option.bind_eq_some_iff.1 h
      obtain ⟨first, hfirst, h⟩ := Option.bind_eq_some_iff.1 h
      obtain ⟨others, hothers, h⟩ := Option.bind_eq_some_iff.1 h
      rw [← Option.some.inj h]
      exact .cons ⟨hname, entries, rfl, congrArg (Option.map Reading.result) hfirst⟩ (ih hothers)
    | _ => simp [readTable] at h

/-! ## A schema and the objects inside it -/

/-- What is kept of a field that goes by its own name only is read from the value under that
name. -/
theorem lookup_eq_none_or (h : readEntries version keys entries = some r)
    (hform : kept? version name = some form) (hone : HasOneName name) :
    ((Value.mapping entries).get? name = none ∧ r.result.lookup name = none) ∨
      ∃ v part, (Value.mapping entries).get? name = some v ∧
        readField version form v = some part ∧ r.result.lookup name = some part.result := by
  have hattribute : attributeName name = name := by
    refine if_neg fun heq => (hone ("schema_format", "format") ?_).2 (eq_of_beq heq).symm
    simp [otherNames]
  have hlookup := lookup_of_readEntries h hform
  rw [hattribute, held?_eq_get? hone] at hlookup
  exact hlookup

/-- **The items of an array** are the object under `items`, as a schema or a reference; if there is
none, the array does not say what its items are. -/
theorem items_of_readEntries (h : readEntries version keys entries = some r) :
    (objectUnder "items" entries = none ∧ (Schema.ofParts r.result).items = none) ∨
      ∃ object s, objectUnder "items" entries = some object ∧
        schema? version false object = some s ∧ (Schema.ofParts r.result).items = some s := by
  have hform : kept? version "items" = some .schema := by cases version <;> rfl
  unfold objectUnder Schema.ofParts
  dsimp only
  rcases lookup_eq_none_or h hform (by decide) with
    ⟨hget, hlookup⟩ | ⟨v, part, hget, hpart, hlookup⟩
  · rw [hget, hlookup]
    exact .inl ⟨rfl, rfl⟩
  · rw [hget, hlookup]
    cases v with
    | null =>
      rw [readField_null, Option.some.injEq] at hpart
      subst hpart
      exact .inl ⟨rfl, rfl⟩
    | mapping object =>
      obtain ⟨q, hq, rfl⟩ := Option.map_eq_some_iff.1
        (hpart : (readObject version false object).map asPart = some part)
      exact .inr ⟨object, q.result, rfl, congrArg (Option.map Reading.result) hq, rfl⟩
    | list items | tuple items => cases hpart
    | _ => simp [readField, plain?] at hpart

/-- The objects in a list of schemas. -/
theorem forall₂_schemas (h : readEntries version keys entries = some r)
    (hname : name = "oneOf" ∨ name = "anyOf") :
    List.Forall₂ (Takes version false) (listUnder name entries) (r.result.schemas name) := by
  have hform : kept? version name = some .schemas := by
    rcases hname with rfl | rfl <;> cases version <;> rfl
  have hone : HasOneName name := by rcases hname with rfl | rfl <;> decide
  unfold listUnder Schema.Parts.schemas
  rcases lookup_eq_none_or h hform hone with ⟨hget, hlookup⟩ | ⟨v, part, hget, hpart, hlookup⟩
  · rw [hget, hlookup]
    exact .nil
  · rw [hget, hlookup]
    cases v with
    | null =>
      rw [readField_null, Option.some.injEq] at hpart
      subst hpart
      exact .nil
    | list items | tuple items =>
      obtain ⟨q, hq, rfl⟩ := Option.map_eq_some_iff.1
        (hpart : (readList version items).map _ = some part)
      exact forall₂_of_readList hq
    | mapping object => cases hpart
    | _ => simp [readField, plain?] at hpart

/-- **The alternatives of a schema** are the objects in the list under `oneOf`, or else in the one
under `anyOf`. -/
theorem forall₂_alternatives (h : readEntries version keys entries = some r) :
    List.Forall₂ (Takes version false) (alternativesIn entries)
      (Schema.ofParts r.result).alternatives := by
  have hone := forall₂_schemas h (.inl rfl)
  have hany := forall₂_schemas h (.inr rfl)
  unfold alternativesIn Schema.alternatives
  rw [isEmpty_eq_of_forall₂ hone]
  change List.Forall₂ (Takes version false) _
    (if (r.result.schemas "oneOf").isEmpty then r.result.schemas "anyOf"
      else r.result.schemas "oneOf")
  split
  · exact hany
  · exact hone

/-- **The properties of a schema** are the objects in the table under `properties`. -/
theorem forall₂_properties (h : readEntries version keys entries = some r) :
    List.Forall₂ (TakesNamed version false) (tableUnder "properties" entries)
      (Schema.ofParts r.result).properties := by
  have hform : kept? version "properties" = some .table := by cases version <;> rfl
  unfold tableUnder Schema.ofParts
  dsimp only
  rcases lookup_eq_none_or h hform (by decide) with
    ⟨hget, hlookup⟩ | ⟨v, part, hget, hpart, hlookup⟩
  · rw [hget, hlookup]
    exact .nil
  · rw [hget, hlookup]
    cases v with
    | null =>
      rw [readField_null, Option.some.injEq] at hpart
      subst hpart
      exact .nil
    | mapping table =>
      obtain ⟨q, hq, rfl⟩ := Option.map_eq_some_iff.1
        (hpart : (readTable version false table).map _ = some part)
      exact forall₂_of_readTable hq
    | list items | tuple items => cases hpart
    | _ => simp [readField, plain?] at hpart

/-- Two schemas say the same, apart from the schemas inside them. -/
structure SaysSame (s t : Schema) : Prop where
  target : s.target = t.target
  types : s.types = t.types
  values : s.values = t.values
  required : s.required = t.required
  format : s.format = t.format
  description : s.description = t.description
  deprecated : s.deprecated = t.deprecated

theorem SaysSame.primaryType {s t : Schema} (h : SaysSame s t) : s.primaryType = t.primaryType := by
  rw [Schema.primaryType, Schema.primaryType, h.types]

/-- **As a schema, an object says the same in both versions**, apart from the objects inside it. -/
theorem saysSame_of_readEntries {first second : Reading Schema.Parts}
    (h : readEntries .v30 keys entries = some first)
    (h' : readEntries .v31 keys entries = some second) :
    SaysSame (Schema.ofParts first.result) (Schema.ofParts second.result) := by
  have hsame : ∀ {name : String} {form : Form}, kept? .v30 name = some form →
      kept? .v31 name = some form → form.isPlain = true →
      first.result.value (attributeName name) = second.result.value (attributeName name) :=
    value_alike h h'
  exact {
    target := congrArg Schema.targetOf (@hsame "ref" _ rfl rfl rfl)
    types := congrArg Schema.typesOf (@hsame "type" _ rfl rfl rfl)
    values := congrArg Schema.itemsOf (@hsame "enum" _ rfl rfl rfl)
    required := congrArg (fun v => (Schema.itemsOf v).filterMap Schema.textOf?)
      (@hsame "required" _ rfl rfl rfl)
    format := congrArg Schema.textOf? (@hsame "format" _ rfl rfl rfl)
    description := @hsame "description" _ rfl rfl rfl
    deprecated := congrArg Value.isTruthy (@hsame "deprecated" _ rfl rfl rfl) }

end OpenApi
end TypeFiles
