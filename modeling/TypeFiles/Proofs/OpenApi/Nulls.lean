/-
# Nulls in a document

In a document of version 3.1, `null` may stand among the types of a schema as well as among its
values.  Once the schemas are read, nothing that is derived tells whether it does
(`declarations_of_nullsAdded`).  Reading them does not depend on it either:

| what | depends on |
| --- | --- |
| whether an object is valid | its types and values, of which null is one |
| how many of its keys are known | its keys |
| whether it is taken as a reference | how many are known, and the keys that references have |

Objects, tables and lists are read item by item (`combine`), so that one place where they differ is
one place where the results do (`ReadAlike.at_one_place`).  From there `readSchema_of_nullWritten`
is an induction on the way to the null, and `read_alike` carries it up to the document.

Version 3.0 has no lists of types; there, schemas are compared as they are read.
-/

import TypeFiles.Proofs.Derivation.Attributes
import TypeFiles.Proofs.OpenApi.Parts

namespace TypeFiles
namespace OpenApi

open Schema

/-! ## Two readings side by side -/

theorem optionRel_refl {α : Type} {R : α → α → Prop} (hR : ∀ a, R a a) :
    ∀ x : Option α, Option.Rel R x x
  | none => .none
  | some a => .some (hR a)

theorem optionRel_bind {α β : Type} {R : α → α → Prop} {S : β → β → Prop} {f : α → Option β}
    (hf : ∀ a b, R a b → Option.Rel S (f a) (f b)) {x y : Option α} (h : Option.Rel R x y) :
    Option.Rel S (x.bind f) (y.bind f) := by
  cases h with
  | none => exact .none
  | some h => exact hf _ _ h

/-- Two readings both fail, or know the same number of keys and read what is related. -/
def ReadAlike {α : Type} (R : α → α → Prop) : Option (Reading α) → Option (Reading α) → Prop :=
  Option.Rel fun r r' => r.known = r'.known ∧ R r.result r'.result

/-- One reading after the other, with the results of both. -/
def combine {α : Type} (first others : Option (Reading (List α))) : Option (Reading (List α)) :=
  first.bind fun r => others.bind fun r' => some ⟨r.known + r'.known, r.result ++ r'.result⟩

section

variable {α β : Type} {R : α → α → Prop} {S : β → β → Prop} {x y : Option (Reading α)}

theorem ReadAlike.map (h : ReadAlike R x y) {f : Reading α → Reading β}
    (hf : ∀ r r', r.known = r'.known → R r.result r'.result →
      (f r).known = (f r').known ∧ S (f r).result (f r').result) :
    ReadAlike S (x.map f) (y.map f) := by
  rw [Option.map_eq_bind, Option.map_eq_bind]
  exact optionRel_bind (fun r r' h => .some (hf r r' h.1 h.2)) h

variable {first second others : Option (Reading (List α))}

theorem ReadAlike.combine_left (h : ReadAlike (AtOnePlace R) first second) :
    ReadAlike (AtOnePlace R) (combine first others) (combine second others) := by
  cases h with
  | none => exact .none
  | some h =>
    cases others with
    | none => exact .none
    | some other => exact .some ⟨congrArg (· + other.known) h.1, h.2.append_right _⟩

theorem ReadAlike.combine_right (h : ReadAlike (AtOnePlace R) first second) :
    ReadAlike (AtOnePlace R) (combine others first) (combine others second) := by
  cases others with
  | none => exact .none
  | some other =>
    cases h with
    | none => exact .none
    | some h => exact .some ⟨congrArg (other.known + ·) h.1, h.2.append_left _⟩

/-- **A list that is read item by item is read alike** if it is changed at one place, and what
stands there is read alike. -/
theorem ReadAlike.at_one_place {read : List β → Option (Reading (List α))}
    {step : β → Option (Reading (List α))}
    (hcons : ∀ v rest, read (v :: rest) = combine (step v) (read rest)) {v w : β}
    (h : ReadAlike (AtOnePlace R) (step v) (step w)) (before after : List β) :
    ReadAlike (AtOnePlace R) (read (before ++ v :: after)) (read (before ++ w :: after)) := by
  induction before with
  | nil =>
    rw [List.nil_append, List.nil_append, hcons, hcons]
    exact h.combine_left
  | cons u rest ih =>
    rw [List.cons_append, List.cons_append, hcons, hcons]
    exact ih.combine_right

end

/-! ## Reading item by item -/

variable {version : Version} {strict : Bool} {keys : List String}

/-- The parts that one entry of an object is read as. -/
def readEntry (version : Version) (keys : List String) :
    Value × Value → Option (Reading Schema.Parts)
  | (.text key, v) =>
    match fieldOf? version keys key with
    | some (name, form) => (readField version form v).map fun part =>
        ⟨part.known + 1, [(attributeName name, part.result)]⟩
    | none => some ⟨0, if key == "ref" then [(key, .value v)] else []⟩
  | _ => none

/-- The schema that a value is read as; only an object is one. -/
def readSchema (version : Version) (strict : Bool) : Value → Option (Reading Schema)
  | .mapping entries => readObject version strict entries
  | _ => none

/-- The named schema that an entry of a table is read as. -/
def readNamed (version : Version) (strict : Bool) (entry : Value × Value) :
    Option (Reading (List (String × Schema))) :=
  entry.1.asText?.bind fun name => (readSchema version strict entry.2).map fun r =>
    ⟨r.known, [(name, r.result)]⟩

theorem readEntries_cons (entry : Value × Value) (rest : List (Value × Value)) :
    readEntries version keys (entry :: rest) =
      combine (readEntry version keys entry) (readEntries version keys rest) := by
  obtain ⟨k, v⟩ := entry
  unfold combine readEntry
  cases k with
  | text key =>
    rw [readEntries]
    cases readEntries version keys rest with
    | none => simp
    | some others =>
      dsimp only
      cases fieldOf? version keys key with
      | none => by_cases href : key = "ref" <;> simp [href]
      | some field =>
        obtain ⟨name, form⟩ := field
        dsimp only
        cases readField version form v with
        | none => rfl
        | some part => simp [Nat.add_right_comm]
  | _ => simp [readEntries]

theorem readTable_cons_eq (entry : Value × Value) (rest : List (Value × Value)) :
    readTable version strict (entry :: rest) =
      combine (readNamed version strict entry) (readTable version strict rest) := by
  obtain ⟨key, v⟩ := entry
  unfold combine readNamed readSchema
  cases v with
  | mapping entries =>
    rw [readTable_cons]
    dsimp only
    cases key.asText? with
    | none => rfl
    | some name => cases readObject version strict entries <;> rfl
  | _ => simp [readTable]

theorem readList_cons (v : Value) (rest : List Value) :
    readList version (v :: rest) =
      combine ((readSchema version false v).map fun r => ⟨r.known, [r.result]⟩)
        (readList version rest) := by
  unfold combine readSchema
  cases v with
  | mapping entries =>
    rw [readList]
    change (readObject version false entries).bind _ = _
    dsimp only
    cases readObject version false entries <;> rfl
  | _ => simp [readList]

/-! ## An object with a field replaced -/

variable {before after : List (Value × Value)} {name : String} {form : Form} {v w : Value}

theorem get?_holding_of_ne {key : String} (hne : name ≠ key) :
    (Value.holding before name v after).get? key =
      (Value.holding before name w after).get? key := by
  have hskip : (name == key) = false := beq_false_of_ne hne
  unfold Value.holding Value.get?
  simp only [List.find?_append, List.find?_cons, hskip]

theorem keysOf_replace : keysOf (before ++ (.text name, v) :: after) =
    keysOf (before ++ (.text name, w) :: after) := by
  simp [keysOf]

theorem hasTextKeys_replace : hasTextKeys (before ++ (.text name, v) :: after) =
    hasTextKeys (before ++ (.text name, w) :: after) := by
  simp [hasTextKeys]

/-- The keys that a reference is read from. -/
def referenceKeys : List String := ["$ref", "ref", "summary", "description", "deprecated"]

/-- As a reference, an object is the same whatever stands under any other key. -/
theorem reference?_replace (hname : name ∉ referenceKeys) :
    reference? version (before ++ (.text name, v) :: after) =
      reference? version (before ++ (.text name, w) :: after) := by
  have hget : ∀ key ∈ referenceKeys,
      (Value.mapping (before ++ (.text name, v) :: after)).get? key =
        (Value.mapping (before ++ (.text name, w) :: after)).get? key := by
    intro key hkey
    exact get?_holding_of_ne fun heq => hname (heq ▸ hkey)
  simp only [referenceKeys, List.forall_mem_cons] at hget
  obtain ⟨hdollar, href, hsummary, hdescription, hdeprecated, -⟩ := hget
  have hcount : countFields [("summary", isOptionalText), ("description", isOptionalText)] []
      (before ++ (.text name, v) :: after) =
        countFields [("summary", isOptionalText), ("description", isOptionalText)] []
          (before ++ (.text name, w) :: after) := by
    unfold countFields
    dsimp only
    rw [hasTextKeys_replace (w := w), List.filterMap_congr]
    · rfl
    · simp only [List.forall_mem_cons, hsummary, hdescription]
      simp
  unfold reference? referenceValue? referenceParts
  dsimp only
  rw [hcount, hasTextKeys_replace (w := w), hdollar, href, hdescription, hdeprecated]

/-- Between a reference and a schema, the choice is the same if as many keys are known. -/
theorem better_alike {x y : Option (Reading Schema)} (h : ReadAlike NullsAdded x y)
    (reference : Option (Reading Schema)) :
    ReadAlike NullsAdded (better reference x) (better reference y) := by
  cases h with
  | none => cases reference with
    | none => exact .none
    | some r => exact .some ⟨rfl, .refl⟩
  | @some s t h => cases reference with
    | none => exact .some h
    | some r =>
      refine .some ?_
      rw [h.1]
      split
      · exact h
      · exact ⟨rfl, .refl⟩

/-- A field that version 3.1 reads in the given form and keeps under its own name, and that no
reference has. -/
structure IsOwnField (name : String) (form : Form) : Prop where
  field (keys : List String) : fieldOf? .v31 keys name = some (name, form)
  kept : attributeName name = name
  other : name ∉ referenceKeys

/-- **An object is read alike if one of its fields is.** -/
theorem readSchema_alike (hname : IsOwnField name form)
    (h : ReadAlike (fun p q => PartAdded (name, p) (name, q)) (readField .v31 form v)
      (readField .v31 form w)) :
    ReadAlike NullsAdded (readSchema .v31 strict (.holding before name v after))
      (readSchema .v31 strict (.holding before name w after)) := by
  have hentry : ∀ keys, ReadAlike (AtOnePlace PartAdded) (readEntry .v31 keys (.text name, v))
      (readEntry .v31 keys (.text name, w)) := by
    intro keys
    unfold readEntry
    dsimp only
    rw [hname.field]
    dsimp only
    rw [hname.kept]
    refine h.map fun part part' hknown hpart => ⟨congrArg (· + 1) hknown, ?_⟩
    exact .intro [] [] hpart
  have hparts : ∀ keys, ReadAlike NullsAdded
      ((readEntries .v31 keys (before ++ (.text name, v) :: after)).map schemaOf)
      ((readEntries .v31 keys (before ++ (.text name, w) :: after)).map schemaOf) := by
    intro keys
    have hentries := ReadAlike.at_one_place readEntries_cons (hentry keys) before after
    exact hentries.map fun _ _ hknown hparts => ⟨hknown, nullsAdded_ofParts hparts⟩
  unfold readSchema Value.holding readObject
  dsimp only
  rw [keysOf_replace (w := w), reference?_replace (w := w) hname.other]
  split
  · exact hparts _
  · exact better_alike (hparts _) _

/-! ## Nulls -/

/-- In version 3.1 a list of types is one of any number of them. -/
theorem readField_types (items : List Value) :
    readField .v31 .dataType (.list items) =
      if items.all (isDataType .v31) then some ⟨0, .value (.list items)⟩ else none := by
  rw [readField_of_isPlain rfl (by simp)]
  simp only [plain?, isDataType, Value.asItems?, Bool.false_eq_true, if_false]
  split <;> rfl

theorem readField_values (items : List Value) :
    readField .v31 .values (.list items) =
      if items.isEmpty then none else some ⟨0, .value (.list items)⟩ := by
  rw [readField_of_isPlain rfl (by simp)]
  simp only [plain?, Value.asItems?, Option.bind_some]
  split <;> rfl

theorem readField_type (t : String) :
    readField .v31 .dataType (.text t) =
      if isDataType .v31 (.text t) then some ⟨0, .value (.text t)⟩ else none := by
  rw [readField_of_isPlain rfl (by simp)]
  simp only [plain?, Value.asItems?]
  split <;> rfl

/-- A table is read alike if one of its objects is. -/
theorem readTable_alike {strict : Bool} (h : ReadAlike NullsAdded (readSchema .v31 strict v)
    (readSchema .v31 strict w)) (front back : List (Value × Value)) (key : Value) :
    ReadAlike (AtOnePlace (UnderOneKey NullsAdded))
      (readTable .v31 strict (front ++ (key, v) :: back))
      (readTable .v31 strict (front ++ (key, w) :: back)) := by
  refine ReadAlike.at_one_place readTable_cons_eq ?_ front back
  unfold readNamed
  dsimp only
  cases key.asText? with
  | none => exact .none
  | some name =>
    exact h.map fun r r' hknown hresult => ⟨hknown, .intro [] [] ⟨rfl, hresult⟩⟩

theorem readList_alike (h : ReadAlike NullsAdded (readSchema .v31 false v)
    (readSchema .v31 false w)) (front back : List Value) :
    ReadAlike (AtOnePlace NullsAdded) (readList .v31 (front ++ v :: back))
      (readList .v31 (front ++ w :: back)) := by
  refine ReadAlike.at_one_place readList_cons ?_ front back
  exact h.map fun r r' hknown hresult => ⟨hknown, .intro [] [] hresult⟩

/-- **A null that is written into a schema of version 3.1 is added to the schema that is read.** -/
theorem readSchema_of_nullWritten (h : v.NullWritten w) (strict : Bool) :
    ReadAlike NullsAdded (readSchema .v31 strict v) (readSchema .v31 strict w) := by
  have htype : IsOwnField "type" .dataType := ⟨fun _ => rfl, rfl, by decide⟩
  have henum : IsOwnField "enum" .values := ⟨fun _ => rfl, rfl, by decide⟩
  have hproperties : IsOwnField "properties" .table := ⟨fun _ => rfl, rfl, by decide⟩
  have hitems : IsOwnField "items" .schema := ⟨fun _ => rfl, rfl, by decide⟩
  have hnull : isDataType .v31 (.text "null") = true := by decide
  induction h generalizing strict with
  | single t =>
    refine readSchema_alike htype ?_
    rw [readField_type, readField_types, List.all_cons, List.all_nil, Bool.and_true]
    split
    · exact .some ⟨rfl, .single t⟩
    · exact .none
  | type front back =>
    refine readSchema_alike htype ?_
    rw [readField_types, readField_types, List.all_append, List.all_append, List.all_cons, hnull,
      Bool.true_and]
    split
    · exact .some ⟨rfl, .type front back⟩
    · exact .none
  | value hne =>
    refine readSchema_alike henum ?_
    rw [readField_values, readField_values, if_neg (by simpa using hne), if_neg (by simp)]
    exact .some ⟨rfl, .value hne⟩
  | @property _ _ front back key v w _ ih =>
    refine readSchema_alike hproperties ?_
    exact (readTable_alike (ih false) front back key).map fun _ _ hknown h => ⟨hknown, .property h⟩
  | items h ih =>
    obtain ⟨entries, entries', rfl, rfl⟩ := h.exists_mapping
    refine readSchema_alike hitems ?_
    exact (ih false).map fun _ _ hknown h => ⟨hknown, .items h⟩
  | @alternative _ _ name front back v w hname _ ih =>
    have hname' : IsOwnField name .schemas := by
      rcases hname with rfl | rfl
      · exact ⟨fun _ => rfl, rfl, by decide⟩
      · exact ⟨fun _ => rfl, rfl, by decide⟩
    refine readSchema_alike hname' ?_
    exact (readList_alike (ih false) front back).map fun _ _ hknown h =>
      ⟨hknown, .alternative hname h⟩

/-! ## Documents -/

/-- One null is written into one of the schemas in the components of a document. -/
inductive NullWrittenInDocument : Value → Value → Prop where
  | schemas {before after front back table other : List (Value × Value)}
      (h : Value.NullWrittenIn table other) :
      NullWrittenInDocument
        (.holding before "components" (.holding front "schemas" (.mapping table) back) after)
        (.holding before "components" (.holding front "schemas" (.mapping other) back) after)

theorem get?_holding_self : (Value.holding before name v after).get? name =
    some (((Value.mapping before).get? name).getD v) := by
  unfold Value.holding Value.get?
  simp only [List.find?_append, List.find?_cons, beq_self_eq_true]
  cases before.find? _ <;> rfl

/-- Whether one entry of an object is accepted. -/
def acceptsEntry (version : Version) (fields : List ObjectField) (keys : List String)
    (entry : Value × Value) : Bool :=
  acceptsFields version fields keys [entry]

theorem acceptsFields_cons {fields : List ObjectField} (entry : Value × Value)
    (rest : List (Value × Value)) :
    acceptsFields version fields keys (entry :: rest) =
      (acceptsEntry version fields keys entry && acceptsFields version fields keys rest) := by
  obtain ⟨k, u⟩ := entry
  unfold acceptsEntry
  rw [acceptsFields.eq_def, acceptsFields.eq_def _ _ _ [(k, u)]]
  cases k with
  | text key => simp [acceptsFields]
  | _ => simp

/-- An object is accepted whatever stands under a key that is none of its fields. -/
theorem acceptsObject_replace {fields : List ObjectField}
    (hname : ∀ keys, objectField? fields keys name = none) :
    acceptsObject version fields (before ++ (.text name, v) :: after) =
      acceptsObject version fields (before ++ (.text name, w) :: after) := by
  have haccepts : ∀ keys, acceptsFields version fields keys (before ++ (.text name, v) :: after) =
      acceptsFields version fields keys (before ++ (.text name, w) :: after) := by
    intro keys
    induction before with
    | nil =>
      have hentry : ∀ u, acceptsEntry version fields keys (.text name, u) = true := by
        intro u
        rw [acceptsEntry, acceptsFields.eq_def]
        simp [hname, acceptsFields]
      rw [List.nil_append, List.nil_append, acceptsFields_cons, acceptsFields_cons, hentry, hentry]
    | cons e rest ih =>
      rw [List.cons_append, List.cons_append, acceptsFields_cons, acceptsFields_cons, ih]
  rw [acceptsObject, acceptsObject, keysOf_replace (w := w), haccepts]

/-- Nulls that are written into the table of schemas are added to the schemas. -/
theorem readTable_of_nullWrittenIn {table other : List (Value × Value)}
    (h : Value.NullWrittenIn table other) (strict : Bool) :
    ReadAlike (AtOnePlace (UnderOneKey NullsAdded)) (readTable .v31 strict table)
      (readTable .v31 strict other) := by
  obtain @⟨before, after, ⟨key, v⟩, ⟨_, w⟩, rfl, h⟩ := h
  exact readTable_alike (readSchema_of_nullWritten h strict) before after key

theorem readComponents_alike {front back table other : List (Value × Value)}
    (h : Value.NullWrittenIn table other) :
    Option.Rel (Relation.ReflTransGen Derivation.NullAddedIn)
      (readComponents .v31 (some (.holding front "schemas" (.mapping table) back)))
      (readComponents .v31 (some (.holding front "schemas" (.mapping other) back))) := by
  have haccepts : ∀ u, acceptsObject .v31 (componentFields .v31)
      (front ++ (.text "schemas", u) :: back) =
        acceptsObject .v31 (componentFields .v31) (front ++ (.text "schemas", .null) :: back) :=
    fun u => acceptsObject_replace fun _ => rfl
  have hget : ∀ u, (Value.mapping (front ++ (.text "schemas", u) :: back)).get? "schemas" =
      some (((Value.mapping front).get? "schemas").getD u) := fun u => get?_holding_self
  unfold Value.holding readComponents
  dsimp only
  rw [haccepts, haccepts (.mapping other), hget, hget]
  cases acceptsObject .v31 (componentFields .v31) _ with
  | false => exact .none
  | true =>
    -- An earlier entry of the name hides the one with the null.
    cases (Value.mapping front).get? "schemas" with
    | some hidden =>
      dsimp only [Option.getD_some]
      exact optionRel_refl (fun _ => .refl) _
    | none =>
      have htable := readTable_of_nullWrittenIn h true
      exact optionRel_bind (fun _ _ h => .some (nullsAddedIn_of_atOnePlace h.2)) htable

/-- A document says that it is of version 3.1. -/
def SaysNewer (v : Value) : Prop :=
  ∃ text, v.get? "openapi" = some (.text text) ∧ Version.ofText? text = some .v31

/-- Two documents are the same but for nulls that are added to the schemas of one of them. -/
def DocumentAlike (d d' : Document) : Prop :=
  d' = { d with schemas := d'.schemas } ∧
    Relation.ReflTransGen Derivation.NullAddedIn d.schemas d'.schemas

theorem SaysNewer.of_nullWritten (hv : SaysNewer v) (h : NullWrittenInDocument v w) :
    SaysNewer w := by
  obtain ⟨text, hget, htext⟩ := hv
  cases h
  refine ⟨text, ?_, htext⟩
  rw [← hget]
  exact get?_holding_of_ne (by decide)

/-- **A null that is written into a document of version 3.1 is added to a schema of the document
that is read**, and the document is valid with it if it is without. -/
theorem read_alike (h : NullWrittenInDocument v w) (hv : SaysNewer v) :
    Option.Rel DocumentAlike (read v) (read w) := by
  obtain @⟨before, after, front, back, table, other, h⟩ := h
  obtain ⟨text, htext, hversion⟩ := hv
  have hget : ∀ key, "components" ≠ key → ∀ u,
      (Value.holding before "components" u after).get? key =
        (Value.holding before "components" .null after).get? key :=
    fun key hne u => get?_holding_of_ne hne
  have haccepts : ∀ u, acceptsObject .v31 (documentFields .v31)
      (before ++ (.text "components", u) :: after) =
        acceptsObject .v31 (documentFields .v31) (before ++ (.text "components", .null) :: after) :=
    fun u => acceptsObject_replace fun _ => rfl
  have hself : ∀ u, (Value.holding before "components" u after).get? "components" =
      some (((Value.mapping before).get? "components").getD u) := fun u => get?_holding_self
  rw [hget "openapi" (by decide)] at htext
  have hread : ∀ u, read (.holding before "components" u after) =
      (guard (acceptsObject .v31 (documentFields .v31)
          (before ++ (.text "components", .null) :: after) = true) : Option Unit).bind fun _ =>
        ((Value.holding before "components" .null after).get? "info").bind fun info =>
          (readInfo info).bind fun said =>
            (readComponents .v31 (some (((Value.mapping before).get? "components").getD u))).bind
              fun schemas => some ⟨text, said.1, said.2, schemas⟩ := by
    intro u
    have hinfo := hget "info" (by decide) u
    have hopenapi := (hget "openapi" (by decide) u).trans htext
    have hcomponents := hself u
    unfold Value.holding at hinfo hopenapi hcomponents ⊢
    unfold read
    dsimp only
    rw [hinfo, hopenapi, hcomponents]
    change (Version.ofText? text).bind _ = _
    rw [hversion]
    change (guard (acceptsObject .v31 _ _ = true) : Option Unit).bind _ = _
    rw [haccepts u]
    rfl
  rw [hread, hread]
  cases acceptsObject .v31 (documentFields .v31) _ with
  | false => exact .none
  | true =>
    cases (Value.holding before "components" .null after).get? "info" with
    | none => exact .none
    | some info =>
      dsimp only [Option.bind_some]
      cases readInfo info with
      | none => exact .none
      | some said =>
        refine optionRel_bind (fun schemas schemas' h => .some ⟨rfl, h⟩) ?_
        cases (Value.mapping before).get? "components" with
        | some hidden => exact optionRel_refl (fun _ => .refl) _
        | none => exact readComponents_alike h

/-! ## Outcomes -/

/-- What is derived from a document that a value is, or why nothing is. -/
def outcome (source : String) (t : Deriver) (j : Journal) (v : Value) : Except Failure Block :=
  (validate source v).bind fun d => ((t.derive d.schemas).run j).1.1

theorem derive_of_nullsAdded {schemas other : List (String × Schema)}
    (h : Relation.ReflTransGen Derivation.NullAddedIn schemas other) (t t' : Deriver)
    (j j' : Journal) : ((t.derive schemas).run j).1.1 = ((t'.derive other).run j').1.1 := by
  rw [(Deriver.gives_derive t schemas).result j, (Deriver.gives_derive t' other).result j',
    Derivation.declarations_of_nullsAdded h]

theorem outcome_of_nullWritten (h : NullWrittenInDocument v w) (hv : SaysNewer v) (source : String)
    (t t' : Deriver) (j j' : Journal) : outcome source t j v = outcome source t' j' w := by
  have hread := read_alike h hv
  have hvalidate : ∀ entries, validate source (.mapping entries) =
      (read (.mapping entries)).elim (.error (.problem (.validation source [.notValid]))) .ok := by
    intro entries
    unfold validate
    cases read (.mapping entries) <;> rfl
  obtain @⟨before, after, front, back, table, other, h⟩ := h
  unfold outcome
  unfold Value.holding at hread ⊢
  rw [hvalidate, hvalidate]
  generalize read (.mapping (before ++ (.text "components", .mapping
    (front ++ (.text "schemas", .mapping table) :: back)) :: after)) = d at hread ⊢
  generalize read (.mapping (before ++ (.text "components", .mapping
    (front ++ (.text "schemas", .mapping other) :: back)) :: after)) = d' at hread ⊢
  cases hread with
  | none => rfl
  | some halike => exact derive_of_nullsAdded halike.2 t t' j j'

/-- Every document between two that differ in nulls is of the version of the first. -/
theorem SaysNewer.of_nullsWritten (hv : SaysNewer v)
    (h : Relation.ReflTransGen NullWrittenInDocument v w) : SaysNewer w := by
  induction h with
  | refl => exact hv
  | tail _ hstep ih => exact ih.of_nullWritten hstep

/-- **Nulls that are written into a document of version 3.1 do not change its outcome.** -/
theorem outcome_of_nullsWritten (hv : SaysNewer v)
    (h : Relation.ReflTransGen NullWrittenInDocument v w) (source : String) (t t' : Deriver)
    (j j' : Journal) : outcome source t j v = outcome source t' j' w := by
  induction h with
  | refl =>
    unfold outcome
    cases validate source v with
    | error e => rfl
    | ok d => exact derive_of_nullsAdded .refl t t' j j'
  | tail hbefore hstep ih =>
    exact ih.trans (outcome_of_nullWritten hstep (hv.of_nullsWritten hbefore) source t' t' j' j')

end OpenApi

/-- **Nulls are not seen.**  Nulls that are added to a document, among the types of a schema or its
values if it has any, change neither its declarations nor its failure: at any number of places, on
any level, and any number of them.  It does not matter whether they are added to the schemas of the
document or written into the mappings that these are read from, where a type that stands alone may
become a list; in a document of version 3.1, it is also valid with them if it is without. -/
theorem nulls_unseen (t t' : Deriver) (j j' : Journal) :
    (∀ schemas other, Relation.ReflTransGen Derivation.NullAddedIn schemas other →
      ((t.derive schemas).run j).1.1 = ((t'.derive other).run j').1.1) ∧
    (∀ table other, Relation.ReflTransGen Value.NullWrittenIn table other →
      ((t.derive (Schema.attributeTable table)).run j).1.1 =
        ((t'.derive (Schema.attributeTable other)).run j').1.1) ∧
    ∀ source v w, OpenApi.SaysNewer v → Relation.ReflTransGen OpenApi.NullWrittenInDocument v w →
      OpenApi.outcome source t j v = OpenApi.outcome source t' j' w := by
  refine ⟨fun schemas other h => ?_, fun table other h => ?_, fun source v w hv h => ?_⟩
  · exact OpenApi.derive_of_nullsAdded h t t' j j'
  · refine OpenApi.derive_of_nullsAdded ?_ t t' j j'
    exact h.lift' Schema.attributeTable fun _ _ => Schema.nullsAdded_attributeTable
  · exact OpenApi.outcome_of_nullsWritten hv h source t t' j j'

/-- Tags and a status that may be null: the outcome is the one without the nulls, in a document of
version 3.1, in a table of attributes and in a schema. -/
theorem nullable_tags_unseen :
    let tags (item : Value) : Value :=
      .mapping [(.text "type", .text "array"), (.text "items", .mapping [(.text "type", item)])]
    let table (item : Value) (values : List Value) : List (Value × Value) :=
      [(.text "Tags", tags item), (.text "Status", .mapping [(.text "enum", .list values)])]
    let document (table : List (Value × Value)) : Value := .mapping [
      (.text "openapi", .text "3.1.0"),
      (.text "info", .ofFields [("title", .text "Pets"), ("version", .text "1")]),
      (.text "components", .mapping [(.text "schemas", .mapping table)])]
    let plain := table (.text "string") [.text "sold"]
    let nullable := table (.list [.text "null", .text "string"]) [.text "sold", .null]
    let status (values : List Value) : Schema := { Schema.empty with values := values }
    ((Deriver.fresh.derive [("Status", status [.text "sold"])]).run .collecting).1.1 =
        ((Deriver.fresh.derive [("Status", status [.text "sold", .null])]).run .collecting).1.1 ∧
      ((Deriver.fresh.derive (Schema.attributeTable plain)).run .collecting).1.1 =
        ((Deriver.fresh.derive (Schema.attributeTable nullable)).run .collecting).1.1 ∧
      OpenApi.outcome "pets.json" .fresh .collecting (document plain) =
        OpenApi.outcome "pets.json" .fresh .collecting (document nullable) ∧
      ∃ b, OpenApi.outcome "pets.json" .fresh .collecting (document nullable) = .ok b := by
  intro tags table document plain nullable status
  have hstatus : (status [.text "sold"]).NullAdded (status [.text "sold", .null]) :=
    @Schema.NullAdded.value (status [.text "sold"]) [.text "sold"] [] rfl (by simp [status])
  have hlist : Value.NullWrittenIn plain (table (.list [.text "string"]) [.text "sold"]) :=
    .intro [] _ ⟨rfl, @Value.NullWritten.items [(.text "type", .text "array")] [] _ _
      (@Value.NullWritten.single [] [] "string")⟩
  have hitem : Value.NullWrittenIn (table (.list [.text "string"]) [.text "sold"])
      (table (.list [.text "null", .text "string"]) [.text "sold"]) :=
    .intro [] _ ⟨rfl, @Value.NullWritten.items [(.text "type", .text "array")] [] _ _
      (@Value.NullWritten.type [] [] [] [.text "string"])⟩
  have hvalue : Value.NullWrittenIn (table (.list [.text "null", .text "string"]) [.text "sold"])
      nullable :=
    .intro [_] [] ⟨rfl, @Value.NullWritten.value [] [] [.text "sold"] [] (by simp)⟩
  have htable : Relation.ReflTransGen Value.NullWrittenIn plain nullable :=
    ((Relation.ReflTransGen.single hlist).tail hitem).tail hvalue
  have hdocument : Relation.ReflTransGen OpenApi.NullWrittenInDocument (document plain)
      (document nullable) :=
    htable.lift document fun _ _ h => @OpenApi.NullWrittenInDocument.schemas [_, _] [] [] [] _ _ h
  obtain ⟨hschemas, hattributes, hread⟩ := nulls_unseen .fresh .fresh .collecting .collecting
  refine ⟨?_, hattributes _ _ htable, hread "pets.json" _ _ ⟨"3.1.0", rfl, rfl⟩ hdocument, ⟨_, rfl⟩⟩
  exact hschemas _ _ (.single (.intro [] [] ⟨rfl, hstatus⟩))

end TypeFiles
