/-
# Nulls among the attributes of a schema

A schema is built of parts, the first one under each name.  What a null that is added to one part
makes of the schema is the same whichever way the parts were found:

| part | with a null more | schema |
| --- | --- | --- |
| `type`, one type | a list of that type | the same |
| `type`, `enum`, a list | the list with a null in it | one null added |
| `properties`, `items`, `oneOf`, `anyOf` | nulls added to a schema inside | the same nulls added |

`nullsAdded_ofParts` is the table, and `nullsAdded_ofAttributes` applies it to a schema that is a
mapping of attributes.  What is written there is `Value.NullWritten`: where nothing but one type
stands, it has to become a list before a null is written into it.
-/

import TypeFiles.Proofs.Derivation.Nulls

namespace TypeFiles

namespace Value

/-- A mapping that holds a value under a name, among other entries. -/
def holding (before : List (Value × Value)) (name : String) (v : Value)
    (after : List (Value × Value)) : Value :=
  .mapping (before ++ (.text name, v) :: after)

/-- One null is written into the mapping that a schema is written as, or a list is written for the
one type that it will be written into. -/
inductive NullWritten : Value → Value → Prop where
  | single {before after : List (Value × Value)} (t : String) :
      NullWritten (holding before "type" (.text t) after)
        (holding before "type" (.list [.text t]) after)
  | type {before after : List (Value × Value)} (front back : List Value) :
      NullWritten (holding before "type" (.list (front ++ back)) after)
        (holding before "type" (.list (front ++ .text "null" :: back)) after)
  | value {before after : List (Value × Value)} {front back : List Value}
      (hne : front ++ back ≠ []) :
      NullWritten (holding before "enum" (.list (front ++ back)) after)
        (holding before "enum" (.list (front ++ .null :: back)) after)
  | property {before after front back : List (Value × Value)} (key : Value) {v w : Value}
      (h : NullWritten v w) :
      NullWritten (holding before "properties" (.mapping (front ++ (key, v) :: back)) after)
        (holding before "properties" (.mapping (front ++ (key, w) :: back)) after)
  | items {before after : List (Value × Value)} {v w : Value} (h : NullWritten v w) :
      NullWritten (holding before "items" v after) (holding before "items" w after)
  | alternative {before after : List (Value × Value)} {name : String} {front back : List Value}
      {v w : Value} (hname : name = "oneOf" ∨ name = "anyOf") (h : NullWritten v w) :
      NullWritten (holding before name (.list (front ++ v :: back)) after)
        (holding before name (.list (front ++ w :: back)) after)

theorem NullWritten.exists_mapping {v w : Value} (h : NullWritten v w) :
    ∃ entries entries', v = .mapping entries ∧ w = .mapping entries' := by
  cases h <;> exact ⟨_, _, rfl, rfl⟩

/-- One null is written into one of the schemas of a table. -/
abbrev NullWrittenIn : List (Value × Value) → List (Value × Value) → Prop :=
  AtOnePlace (UnderOneKey NullWritten)

end Value

namespace Schema

/-! ## Parts -/

/-- Any number of nulls are added to a schema. -/
abbrev NullsAdded : Schema → Schema → Prop := Relation.ReflTransGen NullAdded

/-- One null is added to a part of a schema, or any number of them to a schema inside it. -/
inductive PartAdded : String × Part → String × Part → Prop where
  | single (t : String) :
      PartAdded ("type", .value (.text t)) ("type", .value (.list [.text t]))
  | type (front back : List Value) :
      PartAdded ("type", .value (.list (front ++ back)))
        ("type", .value (.list (front ++ .text "null" :: back)))
  | value {front back : List Value} (hne : front ++ back ≠ []) :
      PartAdded ("enum", .value (.list (front ++ back)))
        ("enum", .value (.list (front ++ .null :: back)))
  | property {table other : List (String × Schema)}
      (h : AtOnePlace (UnderOneKey NullsAdded) table other) :
      PartAdded ("properties", .table table) ("properties", .table other)
  | items {s t : Schema} (h : s.NullsAdded t) : PartAdded ("items", .schema s) ("items", .schema t)
  | alternative {name : String} {list other : List Schema} (hname : name = "oneOf" ∨ name = "anyOf")
      (h : AtOnePlace NullsAdded list other) :
      PartAdded (name, .schemas list) (name, .schemas other)

variable {parts other : Parts}

theorem PartAdded.name_eq {x y : String × Part} (h : PartAdded x y) : x.1 = y.1 := by
  cases h <;> rfl

/-- A part that is replaced is found under its name, or an earlier part of that name hides it. -/
theorem lookup_replace (before after : Parts) (name : String) (a b : Part) :
    (∀ m, (before ++ (name, b) :: after).lookup m = (before ++ (name, a) :: after).lookup m) ∨
      (before ++ (name, a) :: after).lookup name = some a ∧
        (before ++ (name, b) :: after).lookup name = some b ∧
        ∀ m, m ≠ name →
          (before ++ (name, b) :: after).lookup m = (before ++ (name, a) :: after).lookup m := by
  have hother : ∀ m, m ≠ name →
      (before ++ (name, b) :: after).lookup m = (before ++ (name, a) :: after).lookup m := by
    intro m hm
    simp [List.lookup_append, List.lookup_cons, beq_false_of_ne hm]
  cases hfront : before.lookup name with
  | some found =>
    refine .inl fun m => ?_
    by_cases hm : m = name
    · rw [hm, List.lookup_append, List.lookup_append, hfront]
      rfl
    · exact hother m hm
  | none =>
    refine .inr ⟨?_, ?_, hother⟩ <;>
    · rw [List.lookup_append, hfront, List.lookup_cons_self]
      rfl

theorem ofParts_congr (h : ∀ m, other.lookup m = parts.lookup m) :
    ofParts other = ofParts parts := by
  simp only [ofParts, Parts.value, Parts.schemas, h]

/-- Nulls that are added to a schema inside are added to the schema around it, one by one. -/
theorem NullsAdded.within {s t x y : Schema} (h : s.NullsAdded t) (put : Schema → Schema)
    (hput : ∀ p q, p.NullAdded q → (put p).NullAdded (put q)) (hx : x = put s) (hy : y = put t) :
    x.NullsAdded y := by
  rw [hx, hy]
  exact h.lift put hput

/-- Where the part is found, the schema differs in what is made of that part. -/
theorem nullsAdded_of_lookup {name : String} {a b : Part} (h : PartAdded (name, a) (name, b))
    (ha : parts.lookup name = some a) (hb : other.lookup name = some b)
    (hother : ∀ m, m ≠ name → other.lookup m = parts.lookup m) :
    (ofParts parts).NullsAdded (ofParts other) := by
  cases h with
  | single t =>
    have hsame : ofParts other = ofParts parts := by
      simp [ofParts, Parts.value, Parts.schemas, ha, hb, hother, typesOf, Value.shown]
    rw [hsame]
  | type front back =>
    have hold : (ofParts parts).types = front.map Value.shown ++ back.map Value.shown := by
      simp [ofParts, Parts.value, ha, typesOf]
    have hnew : ofParts other = { ofParts parts with
        types := front.map Value.shown ++ "null" :: back.map Value.shown } := by
      simp [ofParts, Parts.value, Parts.schemas, hb, hother, typesOf, Value.shown]
    rw [hnew]
    exact .single (.type hold)
  | @value front back hne =>
    have hold : (ofParts parts).values = front ++ back := by
      simp [ofParts, Parts.value, ha, itemsOf]
    have hnew : ofParts other = { ofParts parts with values := front ++ .null :: back } := by
      simp [ofParts, Parts.value, Parts.schemas, hb, hother, itemsOf]
    rw [hnew]
    exact .single (.value hold (hold ▸ hne))
  | property h =>
    obtain @⟨front, back, ⟨name, s⟩, ⟨_, t⟩, rfl, h⟩ := h
    refine h.within (fun p => { ofParts parts with properties := front ++ (name, p) :: back })
      (fun _ _ hpq => .property hpq rfl) ?_ ?_
    · simp [ofParts, ha]
    · simp [ofParts, Parts.value, Parts.schemas, hb, hother]
  | items h =>
    refine h.within (fun p => { ofParts parts with items := some p })
      (fun _ _ hpq => .items hpq rfl) ?_ ?_
    · simp [ofParts, ha]
    · simp [ofParts, Parts.value, Parts.schemas, hb, hother]
  | alternative hname h =>
    obtain @⟨front, back, s, t, h⟩ := h
    rcases hname with rfl | rfl
    · refine h.within (fun p => { ofParts parts with oneOf := front ++ p :: back })
        (fun _ _ hpq => .oneOf hpq rfl) ?_ ?_
      · simp [ofParts, Parts.schemas, ha]
      · simp [ofParts, Parts.value, Parts.schemas, hb, hother]
    · refine h.within (fun p => { ofParts parts with anyOf := front ++ p :: back })
        (fun _ _ hpq => .anyOf hpq rfl) ?_ ?_
      · simp [ofParts, Parts.schemas, ha]
      · simp [ofParts, Parts.value, Parts.schemas, hb, hother]

/-- **The nulls that are added to a part are added to the schema.** -/
theorem nullsAdded_ofParts (h : AtOnePlace PartAdded parts other) :
    (ofParts parts).NullsAdded (ofParts other) := by
  obtain @⟨before, after, ⟨name, a⟩, ⟨_, b⟩, h⟩ := h
  obtain rfl : name = _ := h.name_eq
  rcases lookup_replace before after name a b with hsame | ⟨ha, hb, hother⟩
  · rw [ofParts_congr hsame]
  · exact nullsAdded_of_lookup h ha hb hother

/-! ## Attributes -/

theorem attributeParts_eq_map (entries : List (Value × Value)) :
    attributeParts entries = entries.map fun e => (e.1.shown, attributePart e.1.shown e.2) := by
  induction entries with
  | nil => rw [attributeParts, List.map_nil]
  | cons e rest ih => rw [attributeParts, ih, List.map_cons]

theorem attributeTable_eq_map (entries : List (Value × Value)) :
    attributeTable entries = entries.map fun e => (e.1.shown, ofAttributes e.2) := by
  induction entries with
  | nil => rw [attributeTable, List.map_nil]
  | cons e rest ih => rw [attributeTable, ih, List.map_cons]

theorem attributeList_eq_map (items : List Value) :
    attributeList items = items.map ofAttributes := by
  induction items with
  | nil => rw [attributeList, List.map_nil]
  | cons v rest ih => rw [attributeList, ih, List.map_cons]

theorem ofAttributes_holding (before after : List (Value × Value)) (name : String) (v : Value) :
    ofAttributes (.holding before name v after) =
      ofParts (attributeParts before ++ (name, attributePart name v) :: attributeParts after) := by
  rw [Value.holding, ofAttributes, attributeParts_eq_map, List.map_append, List.map_cons,
    ← attributeParts_eq_map, ← attributeParts_eq_map]
  rfl

/-- **A null that is written into a schema is added to it.** -/
theorem nullsAdded_ofAttributes {v w : Value} (h : v.NullWritten w) :
    (ofAttributes v).NullsAdded (ofAttributes w) := by
  have hholding : ∀ {before after : List (Value × Value)} {name : String} {v w : Value},
      PartAdded (name, attributePart name v) (name, attributePart name w) →
      (ofAttributes (.holding before name v after)).NullsAdded
        (ofAttributes (.holding before name w after)) := by
    intro before after name v w hpart
    rw [ofAttributes_holding, ofAttributes_holding]
    exact nullsAdded_ofParts (.intro _ _ hpart)
  induction h with
  | single t =>
    refine hholding ?_
    simpa [attributePart] using PartAdded.single t
  | type front back =>
    refine hholding ?_
    simpa [attributePart] using PartAdded.type front back
  | value hne =>
    refine hholding ?_
    simpa [attributePart] using PartAdded.value hne
  | @property _ _ front back key v w _ ih =>
    refine hholding ?_
    have htable : AtOnePlace (UnderOneKey NullsAdded) (attributeTable (front ++ (key, v) :: back))
        (attributeTable (front ++ (key, w) :: back)) := by
      rw [attributeTable_eq_map, attributeTable_eq_map, List.map_append, List.map_append]
      exact .intro _ _ ⟨rfl, ih⟩
    simpa [attributePart] using PartAdded.property htable
  | items h ih =>
    obtain ⟨entries, entries', rfl, rfl⟩ := h.exists_mapping
    refine hholding ?_
    simpa [attributePart, ofAttributes] using PartAdded.items ih
  | @alternative _ _ name front back v w hname _ ih =>
    refine hholding ?_
    have hlist : AtOnePlace NullsAdded (attributeList (front ++ v :: back))
        (attributeList (front ++ w :: back)) := by
      rw [attributeList_eq_map, attributeList_eq_map, List.map_append, List.map_append]
      exact .intro _ _ ih
    simpa [attributePart, hname] using PartAdded.alternative hname hlist

/-- Nulls that are added to one schema of a document are added to the document one by one. -/
theorem nullsAddedIn_of_atOnePlace {schemas other : List (String × Schema)}
    (h : AtOnePlace (UnderOneKey NullsAdded) schemas other) :
    Relation.ReflTransGen Derivation.NullAddedIn schemas other := by
  obtain @⟨before, after, ⟨key, s⟩, ⟨_, t⟩, rfl, h⟩ := h
  exact h.lift (fun s => before ++ (key, s) :: after) fun _ _ hstep => .intro _ _ ⟨rfl, hstep⟩

/-- Nulls that are written into one schema of a table are added to that schema of the document. -/
theorem nullsAdded_attributeTable {table other : List (Value × Value)}
    (h : Value.NullWrittenIn table other) :
    Relation.ReflTransGen Derivation.NullAddedIn (attributeTable table) (attributeTable other) := by
  obtain @⟨before, after, ⟨key, v⟩, ⟨_, w⟩, rfl, h⟩ := h
  rw [attributeTable_eq_map, attributeTable_eq_map, List.map_append, List.map_append]
  exact nullsAddedIn_of_atOnePlace (.intro _ _ ⟨rfl, nullsAdded_ofAttributes h⟩)

end Schema
end TypeFiles
