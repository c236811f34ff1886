/-
# What a type is named after

The type of a place is named after what stands at the end of its arrays.  Going from a schema to its
items as long as it is an array leads to one of two ends:

| end | name |
| --- | --- |
| a reference to the schema under `key` | the name of the type of `key` |
| anything else | one of the built-in types |

and each array on the way puts `list[` and `]` around the name (`listed`).  `Schema.leaf?` is the
reference at the end, with the number of arrays in front of it; `typeName_of_leaf` and
`exists_builtin_of_leaf` say what the two ends make of a name.
-/

import TypeFiles.Derivation
import TypeFiles.Proofs.Success

namespace TypeFiles

namespace Schema

mutual

/-- The reference at the end of the arrays of a schema, and how many arrays there are. -/
def leaf? : Schema → Option (Nat × Target)
  | ⟨target, types, _, _, _, items, _, _, _, _, _⟩ =>
    match target with
    | some t => some (0, t)
    | none =>
      if (types.find? fun t => t != "null") = some "array" then
        (itemLeaf? items).map fun found => (found.1 + 1, found.2)
      else none

/-- The same for the items of an array, if it says what they are. -/
def itemLeaf? : Option Schema → Option (Nat × Target)
  | none => none
  | some s => leaf? s

end

/-- What holds of a schema if it holds of its items holds of every schema. -/
theorem induction_on_items {motive : Schema → Prop}
    (step : ∀ s, (∀ t, s.items = some t → motive t) → motive s) (s : Schema) : motive s :=
  step s fun t _ => induction_on_items step t
termination_by sizeOf s
decreasing_by
  rename_i h
  cases s
  simp only at h
  simp only [h, Schema.mk.sizeOf_spec, Option.some.sizeOf_spec]
  omega

variable {s t : Schema} {target : Target}

theorem leaf?_of_target (h : s.target = some target) : s.leaf? = some (0, target) := by
  cases s
  simp only at h
  rw [h, leaf?]

/-- An array is one array more around its items. -/
theorem leaf?_of_array (h : s.target = none) (harray : s.primaryType = some "array") :
    s.leaf? = (s.items.bind leaf?).map fun found => (found.1 + 1, found.2) := by
  obtain ⟨target, types, values, properties, required, items⟩ := s
  simp only at h
  have hfind : (types.find? fun t => t != "null") = some "array" := harray
  rw [h, leaf?, hfind]
  cases items <;> rfl

theorem leaf?_of_not_array (h : s.target = none) (harray : s.primaryType ≠ some "array") :
    s.leaf? = none := by
  obtain ⟨target, types⟩ := s
  simp only at h
  have hfind : (types.find? fun t => t != "null") ≠ some "array" := harray
  rw [h, leaf?]
  exact if_neg hfind

/-- Without an array in front of it, the reference at the end is the schema's own. -/
theorem target_of_leaf (h : s.leaf? = some (0, target)) : s.target = some target := by
  cases htarget : s.target with
  | some t =>
    rw [leaf?_of_target htarget, Option.some.injEq, Prod.mk.injEq] at h
    rw [h.2]
  | none =>
    by_cases harray : s.primaryType = some "array"
    · rw [leaf?_of_array htarget harray, Option.map_eq_some_iff] at h
      obtain ⟨found, -, hfound⟩ := h
      rw [Prod.mk.injEq] at hfound
      omega
    · rw [leaf?_of_not_array htarget harray] at h
      cases h

/-- Without a reference at the end, a schema has none of its own. -/
theorem target_eq_none_of_leaf (h : s.leaf? = none) : s.target = none := by
  cases htarget : s.target with
  | none => rfl
  | some t =>
    rw [leaf?_of_target htarget] at h
    cases h

end Schema

namespace Derivation

/-- A name with a number of lists around it. -/
def listed (n : Nat) (name : String) : String :=
  String.join (List.replicate n "list[") ++ name ++ String.join (List.replicate n "]")

theorem listed_zero (name : String) : listed 0 name = name := by
  simp [listed]

theorem listed_succ (n : Nat) (name : String) :
    listed (n + 1) name = "list[" ++ listed n name ++ "]" := by
  have hback : String.join (List.replicate (n + 1) "]") =
      String.join (List.replicate n "]") ++ "]" := by
    rw [List.replicate_succ']
    simp
  rw [listed, hback, List.replicate_succ, listed]
  simp [String.append_assoc]

/-- The types that are there without being declared. -/
def builtinTypes : List String :=
  ["dict[str, Any]", "int", "float", "bool", "datetime", "date", "UUID", "bytes", "str", "Any"]

theorem simpleType_mem (primary format : Option String) :
    simpleType primary format ∈ builtinTypes := by
  unfold simpleType textType
  split
  · decide
  · decide
  · decide
  · decide
  · split <;> decide
  · decide

/-- What a reference to a target is named. -/
def targetName (keys : List String) (context : String) : Target → Except Failure String
  | .pointer ref => resolve keys ref context
  | .unreadable => .error (.accident .unreadableReference)

variable {keys : List String} {context : String} {s : Schema}

/-! ## One step of naming -/

theorem typeName_of_target {target : Target} (h : s.target = some target) :
    typeName keys context s = targetName keys context target := by
  cases s
  simp only at h
  rw [h]
  cases target <;> rfl

theorem typeName_of_array (h : s.target = none) (harray : s.primaryType = some "array") :
    typeName keys context s =
      (itemType keys context s.items).map fun inner => "list[" ++ inner ++ "]" := by
  obtain ⟨target, types⟩ := s
  simp only at h
  have hfind : (types.find? fun t => t != "null") = some "array" := harray
  rw [h, typeName]
  simp only [hfind, if_true]

theorem typeName_of_not_array (h : s.target = none) (harray : s.primaryType ≠ some "array") :
    typeName keys context s = .ok (simpleType s.primaryType s.format) := by
  obtain ⟨target, types⟩ := s
  simp only at h
  have hfind : (types.find? fun t => t != "null") ≠ some "array" := harray
  rw [h, typeName]
  simp only [hfind, if_false]
  rfl

/-- Types are named the same if all that naming looks at is the same. -/
theorem typeName_congr {t : Schema} (htarget : s.target = t.target)
    (hprimary : s.primaryType = t.primaryType) (hformat : s.format = t.format)
    (hitems : itemType keys context s.items = itemType keys context t.items) :
    typeName keys context s = typeName keys context t := by
  cases hplain : s.target with
  | some target => rw [typeName_of_target hplain, typeName_of_target (htarget.symm.trans hplain)]
  | none =>
    have hplain' : t.target = none := htarget.symm.trans hplain
    by_cases harray : s.primaryType = some "array"
    · rw [typeName_of_array hplain harray, typeName_of_array hplain' (hprimary.symm.trans harray),
        hitems]
    · rw [typeName_of_not_array hplain harray, typeName_of_not_array hplain' (hprimary ▸ harray),
        hprimary, hformat]

/-! ## The whole way -/

/-- **With a reference at its end, a type is named after what is referred to.** -/
theorem typeName_of_leaf {n : Nat} {target : Target} (h : s.leaf? = some (n, target)) :
    typeName keys context s = (targetName keys context target).map (listed n) := by
  induction s using Schema.induction_on_items generalizing n with
  | step s ih =>
    cases htarget : s.target with
    | some t =>
      rw [Schema.leaf?_of_target htarget, Option.some.injEq, Prod.mk.injEq] at h
      obtain ⟨rfl, rfl⟩ := h
      rw [typeName_of_target htarget]
      cases targetName keys context t with
      | ok name => rw [Except.map, listed_zero]
      | error e => rfl
    | none =>
      by_cases harray : s.primaryType = some "array"
      · rw [Schema.leaf?_of_array htarget harray, Option.map_eq_some_iff] at h
        obtain ⟨⟨m, t⟩, hitems, heq⟩ := h
        rw [Prod.mk.injEq] at heq
        obtain ⟨rfl, rfl⟩ := heq
        obtain ⟨item, hitem, hleaf⟩ := Option.bind_eq_some_iff.1 hitems
        rw [typeName_of_array htarget harray, hitem, itemType, ih item hitem hleaf]
        cases targetName keys context t with
        | ok name => simp only [Except.map, listed_succ]
        | error e => rfl
      · rw [Schema.leaf?_of_not_array htarget harray] at h
        cases h

/-- **Without a reference at its end, a type is named after a built-in one.** -/
theorem exists_builtin_of_leaf (keys : List String) (context : String) (h : s.leaf? = none) :
    ∃ n, ∃ builtin ∈ builtinTypes, typeName keys context s = .ok (listed n builtin) := by
  induction s using Schema.induction_on_items with
  | step s ih =>
    have htarget := Schema.target_eq_none_of_leaf h
    by_cases harray : s.primaryType = some "array"
    · rw [Schema.leaf?_of_array htarget harray, Option.map_eq_none_iff] at h
      rw [typeName_of_array htarget harray]
      cases hitem : s.items with
      | none => exact ⟨1, "Any", by decide, by rw [itemType, listed_succ, listed_zero]; rfl⟩
      | some item =>
        rw [hitem] at h
        obtain ⟨n, builtin, hmem, hname⟩ := ih item hitem h
        refine ⟨n + 1, builtin, hmem, ?_⟩
        rw [itemType, hname, listed_succ]
        rfl
    · refine ⟨0, _, simpleType_mem s.primaryType s.format, ?_⟩
      rw [typeName_of_not_array htarget harray, listed_zero]

/-! ## References -/

/-- A reference names a key of the document if it is the key behind the fixed front. -/
theorem localKey?_eq_some_iff {ref key : String} :
    localKey? ref = some key ↔ ref = localFront ++ key := by
  have hlength : localFront.length = localFront.toList.length := String.length_toList.symm
  unfold localKey?
  split
  · rename_i hfront
    obtain ⟨rest, hrest⟩ := List.isPrefixOf_iff_prefix.1 hfront
    have hsplit : ref = localFront ++ String.ofList rest := by
      rw [← String.toList_inj, String.toList_append, String.toList_ofList, hrest]
    rw [← hrest, hlength, List.drop_left, Option.some.injEq, hsplit]
    constructor
    · rintro rfl
      rfl
    · intro h
      rw [← String.toList_inj, String.toList_append, String.toList_append] at h
      exact String.toList_inj.1 (List.append_cancel_left h)
  · rename_i hfront
    constructor
    · intro h
      cases h
    · rintro rfl
      rw [List.isPrefixOf_iff_prefix, String.toList_append] at hfront
      exact absurd (List.prefix_append _ _) hfront

/-- References to schemas of the document are told apart by their keys. -/
theorem localFront_append_inj {key other : String} (h : localFront ++ key = localFront ++ other) :
    key = other := by
  have hkey := localKey?_eq_some_iff.2 h
  rw [localKey?_eq_some_iff.2 rfl] at hkey
  exact Option.some.inj hkey

theorem head?_eq_hash_iff {ref : String} :
    ref.toList.head? = some '#' ↔ ∃ rest, ref = "#" ++ rest := by
  constructor
  · intro h
    obtain ⟨rest, hrest⟩ := List.head?_eq_some_iff.1 h
    have hback : (String.ofList rest).toList = rest := String.toList_ofList
    refine ⟨String.ofList rest, ?_⟩
    rw [← String.toList_inj, hrest, String.toList_append, hback]
    rfl
  · rintro ⟨rest, rfl⟩
    rw [String.toList_append]
    rfl

/-- **A reference succeeds exactly if it names a key of the document**, and gives the name of the
type of that key. -/
theorem resolve_eq_ok_iff {ref name : String} : resolve keys ref context = .ok name ↔
    ∃ key ∈ keys, ref = localFront ++ key ∧ Name.forType key = name := by
  have hhash : ∀ key, (localFront ++ key).toList.head? = some '#' := by
    intro key
    rw [String.toList_append]
    rfl
  unfold resolve
  constructor
  · intro h
    split at h
    · cases h
    · split at h
      · cases h
      · rename_i key hkey
        split at h
        · rename_i hmem
          exact ⟨key, List.contains_iff_mem.1 hmem, localKey?_eq_some_iff.1 hkey,
            Except.ok.inj h⟩
        · cases h
  · rintro ⟨key, hmem, rfl, rfl⟩
    have hlocal := localKey?_eq_some_iff.2 (rfl : localFront ++ key = localFront ++ key)
    rw [hhash, hlocal]
    simp [hmem]

/-! ## Members that name a type -/

/-- The name of the member of a property; an empty property name has none. -/
def memberName (property : String) : Except Failure String :=
  match Name.forMember? property with
  | some name => .ok name
  | none => .error (.accident .emptyName)

/-- A variable takes its name first, and then its type. -/
theorem variableOf_eq (required : List String) (property : String × Schema) :
    variableOf keys context required property = memberName property.1 >>= fun name =>
      (typeName keys (context ++ "." ++ property.1) property.2).map fun type =>
        ⟨name, some type, none, !required.contains property.1⟩ := by
  unfold variableOf memberName
  cases Name.forMember? property.1 with
  | none => rfl
  | some name => cases typeName keys (context ++ "." ++ property.1) property.2 <;> rfl

/-- A case of a union is made of the type of its alternative. -/
theorem alternativeCase_eq (alternative : Schema × Nat) :
    alternativeCase keys context alternative =
      (typeName keys context alternative.1).map fun payload =>
        ⟨if alternative.1.target.isSome then Name.forCase payload
          else "case" ++ toString (alternative.2 + 1), none, some payload⟩ := by
  unfold alternativeCase
  cases typeName keys context alternative.1 <;> rfl

end Derivation
end TypeFiles
