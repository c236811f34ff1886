/-
# What a declaration is made of

Under its remarks, the declaration of a schema is made of the parts of the schema, one by one:

| schema | declaration | each |
| --- | --- | --- |
| has a reference | an alias of its type | |
| has alternatives | an enum | case holds an alternative, and has its type as payload |
| has values and is a text or of no type | an enum | case holds a value but null, and has its text |
| is an object, or has properties | a struct | variable holds a property, and has its type |
| any other | an alias of its type | |

`MadeOf` is the table, the first row that fits being the one that counts.  Parts and members are two
lists side by side (`List.Forall₂`), so no part is lost, doubled or moved, whatever the members are
called: two properties with one name for their variables are two variables, and each is optional or
not by the name that its own property was written with.
-/

import TypeFiles.Proofs.Derivation.Members

namespace TypeFiles

open Declaration TypeFiles.Derivation

/-- The values of a schema make an enumeration of it. -/
def Schema.IsEnumeration (s : Schema) : Prop :=
  s.values ≠ [] ∧ (s.primaryType = none ∨ s.primaryType = some "string")

namespace Derivation

/-! ## Members and parts -/

/-- A variable holds a property: it has the type of the property, and is optional exactly if the
property is not required under the name that it is written with. -/
structure HoldsProperty (keys : List String) (key : String) (required : List String)
    (p : String × Schema) (v : Variable) : Prop where
  name : Name.forMember? p.1 = some v.name
  type : ∃ type, typeName keys (key ++ "." ++ p.1) p.2 = .ok type ∧ v.typeName = some type
  initial : v.initial = none
  optional : v.isOptional = true ↔ p.1 ∉ required

/-- A case holds an alternative: it has the type of the alternative as its payload. -/
structure HoldsAlternative (keys : List String) (key : String) (a : Schema) (c : EnumCase) :
    Prop where
  rawValue : c.rawValue = none
  payload : ∃ type, typeName keys key a = .ok type ∧ c.associatedValue = some type

/-- A case holds a value: it has the text of the value. -/
structure HoldsValue (v : Value) (c : EnumCase) : Prop where
  name : c.name = Name.forCase v.shown
  rawValue : c.rawValue = some v.shown
  associatedValue : c.associatedValue = none

/-- What the declaration of the schema under a key is made of, without the remarks around it. -/
inductive MadeOf (keys : List String) (key : String) (s : Schema) : Declaration → Prop where
  | reference {type : String} (refers : s.target ≠ none) (named : typeName keys key s = .ok type) :
      MadeOf keys key s (.typeAlias (Name.forType key) type)
  | union {cases : List EnumCase} (plain : s.target = none) (union : s.alternatives ≠ [])
      (held : List.Forall₂ (HoldsAlternative keys key) s.alternatives cases) :
      MadeOf keys key s (.enum (Name.forType key) (cases.map .case) [] defaultAccess)
  | values {cases : List EnumCase} (plain : s.target = none) (single : s.alternatives = [])
      (values : s.IsEnumeration)
      (held : List.Forall₂ HoldsValue (s.values.filter fun v => !v.isNull) cases) :
      MadeOf keys key s (.enum (Name.forType key) (cases.map .case) ["str"] defaultAccess)
  | object {fields : List Variable} (plain : s.target = none) (single : s.alternatives = [])
      (other : ¬ s.IsEnumeration) (object : s.primaryType = some "object" ∨ s.properties ≠ [])
      (held : List.Forall₂ (HoldsProperty keys key s.required) s.properties fields) :
      MadeOf keys key s
        (.struct (Name.forType key) (fields.map .stored) ["BaseModel"] defaultAccess)
  | simple {type : String} (plain : s.target = none) (single : s.alternatives = [])
      (other : ¬ s.IsEnumeration) (flat : s.primaryType ≠ some "object" ∧ s.properties = [])
      (named : typeName keys key s = .ok type) :
      MadeOf keys key s (.typeAlias (Name.forType key) type)

variable {keys : List String} {key : String} {s : Schema} {b d : Declaration}

theorem holdsProperty_of_variableOf {required : List String} {p : String × Schema} {v : Variable}
    (h : variableOf keys key required p = .ok v) : HoldsProperty keys key required p v := by
  rw [variableOf_eq] at h
  obtain ⟨name, hname, h⟩ := bind_eq_ok_iff.1 h
  obtain ⟨type, htype, rfl⟩ := map_eq_ok_iff.1 h
  refine ⟨?_, ⟨type, htype, rfl⟩, rfl, by simp⟩
  unfold memberName at hname
  split at hname
  · rename_i found hfound
    rw [hfound, Except.ok.inj hname]
  · cases hname

theorem holdsAlternative_of_alternativeCase {a : Schema × Nat} {c : EnumCase}
    (h : alternativeCase keys key a = .ok c) : HoldsAlternative keys key a.1 c := by
  rw [alternativeCase_eq] at h
  obtain ⟨payload, hpayload, rfl⟩ := map_eq_ok_iff.1 h
  exact ⟨rfl, payload, hpayload, rfl⟩

/-- The cases of an enumeration hold its values but null. -/
theorem forall₂_holdsValue (vs : List Value) :
    List.Forall₂ HoldsValue (vs.filter fun v => !v.isNull) (vs.filterMap valueCase?) := by
  induction vs with
  | nil => exact .nil
  | cons v rest ih =>
    rw [List.filterMap_cons, valueCase?_eq, List.filter_cons]
    cases v.isNull with
    | true => exact ih
    | false => exact .cons ⟨rfl, rfl, rfl⟩ ih

/-- Numbers do not matter to what the cases of a union hold. -/
theorem forall₂_holdsAlternative {alternatives : List Schema} {cases : List EnumCase}
    (h : List.Forall₂ (fun a c => alternativeCase keys key a = .ok c) alternatives.zipIdx cases) :
    List.Forall₂ (HoldsAlternative keys key) alternatives cases := by
  rw [← List.zipIdx_map_fst 0 alternatives, List.forall₂_map_left_iff]
  exact h.imp fun _ _ => holdsAlternative_of_alternativeCase

theorem isEnumeration_iff : s.IsEnumeration ↔
    (!s.values.isEmpty && (s.primaryType == none || s.primaryType == some "string")) = true := by
  simp only [Schema.IsEnumeration, Bool.and_eq_true, Bool.or_eq_true, Bool.not_eq_true', beq_iff_eq,
    List.isEmpty_eq_false_iff]

/-- **A body is made of the parts of its schema**, by the first rule that fits. -/
theorem madeOf_of_body (h : body keys (Name.forType key) key s = .ok b) : MadeOf keys key s b := by
  rw [body_eq_ok_iff] at h
  unfold Schema.shape at h
  by_cases htarget : s.target.isSome
  · rw [if_pos htarget] at h
    obtain ⟨type, htype, rfl⟩ := h
    exact .reference (Option.isSome_iff_ne_none.1 htarget) htype
  have hplain : s.target = none := Option.not_isSome_iff_eq_none.1 htarget
  rw [if_neg htarget] at h
  by_cases hunion : s.alternatives = []
  swap
  · rw [if_pos (by simp [hunion])] at h
    obtain ⟨cases, hcases, rfl⟩ := h
    exact .union hplain hunion (forall₂_holdsAlternative hcases)
  rw [if_neg (by simp [hunion])] at h
  by_cases hvalues : s.IsEnumeration
  · rw [if_pos (isEnumeration_iff.1 hvalues)] at h
    obtain ⟨-, rfl⟩ := h
    exact .values hplain hunion hvalues (forall₂_holdsValue s.values)
  rw [if_neg (mt isEnumeration_iff.2 hvalues)] at h
  by_cases hobject : s.primaryType = some "object" ∨ s.properties ≠ []
  · rw [if_pos (by simpa using hobject)] at h
    obtain ⟨fields, hfields, rfl⟩ := h
    exact .object hplain hunion hvalues hobject (hfields.imp fun _ _ => holdsProperty_of_variableOf)
  · rw [if_neg (by simpa using hobject)] at h
    obtain ⟨type, htype, rfl⟩ := h
    rw [not_or, not_not] at hobject
    exact .simple hplain hunion hvalues hobject htype

/-! ## Remarks -/

/-- What a schema says about itself, the comment before the deprecation. -/
def remarksOf (s : Schema) : List Remark :=
  (if s.description.isTruthy then [.comment s.description] else []) ++
    if s.deprecated then [.deprecation none none] else []

/-- **A comment stands outside of a deprecation**, and neither of them twice. -/
theorem remarks_remarked (s : Schema) (h : b.remarks = []) :
    (remarked s b).remarks.map (·.remark) = remarksOf s := by
  unfold remarked remarksOf
  dsimp only
  split_ifs <;> simp [Declaration.remarks, h]

theorem Becomes.remarks_eq_nil {name : String} (h : Becomes s name b) : b.remarks = [] := by
  cases h <;> rfl

/-! ## Declarations -/

/-- The declaration of the schema under a key keeps what the schema has. -/
structure Corresponds (keys : List String) (key : String) (s : Schema) (d : Declaration) :
    Prop where
  /-- It is made of the parts of the schema, one by one. -/
  madeOf : MadeOf keys key s d.bare
  /-- If the values of an enumeration are texts or null, its raw values are these texts. -/
  texts : ∀ texts : List String, s.target = none → s.alternatives = [] → s.IsEnumeration →
    (s.values.filter fun v => !v.isNull) = texts.map .text →
    (Declaration.cases d.bare.members).map (·.rawValue) = texts.map some
  /-- A union is no namespace: splitting makes a unit of it. -/
  unit : s.target = none → s.alternatives ≠ [] → d.bare.isNamespace = false ∧
    Reporting.Gives d.split [.ofDeclaration (Name.forType key) d.bare d.remarks] []
  /-- Its remarks are those of the schema, outermost first. -/
  remarks : d.remarks.map (·.remark) = remarksOf s

/-- The cases that hold texts have them as their raw values. -/
theorem rawValues_of_texts {texts : List String} {cases : List EnumCase}
    (h : List.Forall₂ HoldsValue (texts.map .text) cases) :
    cases.map (·.rawValue) = texts.map some := by
  rw [List.forall₂_map_left_iff] at h
  rw [eq_comm, ← List.forall₂_eq_eq_eq, List.forall₂_map_left_iff, List.forall₂_map_right_iff]
  exact h.imp fun text c hc => hc.rawValue.symm

namespace MadeOf

theorem texts (h : MadeOf keys key s b) {texts : List String} (hplain : s.target = none)
    (hsingle : s.alternatives = []) (hvalues : s.IsEnumeration)
    (htexts : (s.values.filter fun v => !v.isNull) = texts.map .text) :
    (Declaration.cases b.members).map (·.rawValue) = texts.map some := by
  cases h with
  | reference hrefers => exact absurd hplain hrefers
  | union _ hunion => exact absurd hsingle hunion
  | values _ _ _ hheld =>
    rw [htexts] at hheld
    rw [members, cases_map_case]
    exact rawValues_of_texts hheld
  | object _ _ hother => exact absurd hvalues hother
  | simple _ _ hother => exact absurd hvalues hother

/-- **A union has a case**, so it is no namespace. -/
theorem hasFile_of_union (h : MadeOf keys key s b) (hplain : s.target = none)
    (hunion : s.alternatives ≠ []) : b.isNamespace = false ∧ b.hasFile = true := by
  cases h with
  | reference hrefers => exact absurd hplain hrefers
  | @union cases _ _ hheld =>
    have hcases : cases ≠ [] := by
      rintro rfl
      exact hunion (List.forall₂_nil_right_iff.1 hheld)
    have hhas : hasCases (cases.map .case) = true := by
      rw [hasCases_map_case, Bool.not_eq_true', List.isEmpty_eq_false_iff]
      exact hcases
    exact ⟨congrArg not hhas, hhas⟩
  | values _ hsingle => exact absurd hsingle hunion
  | object _ hsingle => exact absurd hsingle hunion
  | simple _ hsingle => exact absurd hsingle hunion

end MadeOf

/-- **The declaration of a schema keeps all of it.** -/
theorem corresponds_of_declaration (h : declaration keys key s = .ok d) :
    Corresponds keys key s d := by
  have hbecomes := becomes_of_declaration h
  have hplain := isPlain_of_declaration h
  obtain ⟨b, hb, rfl⟩ := declaration_eq_ok_iff.1 h
  have hmade : MadeOf keys key s (remarked s b).bare := by
    rw [bare_remarked, (becomes_of_body hb).bare_eq]
    exact madeOf_of_body hb
  refine ⟨hmade, fun texts => hmade.texts, fun htarget hunion => ?_, ?_⟩
  · obtain ⟨hnamespace, hfile⟩ := hmade.hasFile_of_union htarget hunion
    have hunits := gives_split (remarked s b)
    rw [fileUnits_of_isPlain hplain, dropNotes_of_isPlain hplain, if_pos hfile, isDropped, hfile,
      Bool.not_true, Bool.and_false, if_neg Bool.false_ne_true, hbecomes.name_eq] at hunits
    exact ⟨hnamespace, hunits⟩
  · exact remarks_remarked s (becomes_of_body hb).remarks_eq_nil

end Derivation

/-- **A derivation loses, doubles and reorders nothing.**  A declaration that is derived, alone or
as one of a document, corresponds to its schema: member by member and in the order of the parts of
the schema.  The declarations of a document stand in the order of its schemas. -/
theorem schemas_carried_over (t : Deriver) (j : Journal) :
    (∀ key s d, ((t.declaration key s).run.run j).1 = .ok d → Corresponds t.keys key s d) ∧
      ∀ schemas b, ((t.derive schemas).run j).1.1 = .ok b →
        ∃ ds, b = Deriver.componentsBlock ds ∧
          List.Forall₂ (fun e d => Corresponds (schemas.map (·.1)) e.1 e.2 d) schemas ds := by
  constructor
  · intro key s d h
    rw [(Deriver.gives_declaration t key s).result j] at h
    exact corresponds_of_declaration h
  · intro schemas b h
    obtain ⟨ds, hds, rfl⟩ := Deriver.exists_declarations_of_derive h
    exact ⟨ds, rfl, hds.imp fun _ _ => corresponds_of_declaration⟩

/-- A pet with two properties whose variables have one name, only one of them required, and the
owner and the status of a pet. -/
theorem pets_carried_over :
    let text : Schema := { Schema.empty with types := ["string"] }
    let pet : Schema := { Schema.empty with
      properties := [("born-at", text), ("born_at", Schema.empty)], required := ["born_at"]
      description := .text "A pet", deprecated := true }
    let pets : Schema := { Schema.empty with
      target := some (.pointer ("#/components/schemas/" ++ "Pet")) }
    let owner : Schema := { Schema.empty with anyOf := [pets, text] }
    let status : Schema := { Schema.empty with values := [.text "sold", .null, .text "free"] }
    let schemas := [("Pet", pet), ("Owner", owner), ("Status", status)]
    Name.forMember? "born-at" = Name.forMember? "born_at" ∧
      (∃ d, ((Deriver.fresh.declaration "Status" status).run.run .collecting).1 = .ok d ∧
        Corresponds [] "Status" status d) ∧
      ∃ ds, ((Deriver.fresh.derive schemas).run .collecting).1.1 =
          .ok (Deriver.componentsBlock ds) ∧
        List.Forall₂ (fun e d => Corresponds (schemas.map (·.1)) e.1 e.2 d) schemas ds := by
  intro text pet pets owner status schemas
  have hall := schemas_carried_over Deriver.fresh .collecting
  obtain ⟨d, hd⟩ : ∃ d, ((Deriver.fresh.declaration "Status" status).run.run
      .collecting).1 = .ok d := ⟨_, rfl⟩
  obtain ⟨b, hb⟩ : ∃ b, ((Deriver.fresh.derive schemas).run .collecting).1.1 = .ok b := ⟨_, rfl⟩
  obtain ⟨ds, rfl, hds⟩ := hall.2 schemas b hb
  exact ⟨by decide +kernel, ⟨d, hd, hall.1 "Status" status d hd⟩, ds, hb, hds⟩

end TypeFiles
