/-
# The names of members, and which of them are the same

What the members of a declaration are named after depends on the rule that fits its schema:

| schema | names of its members |
| --- | --- |
| has a reference, or becomes an alias of its type | none |
| has alternatives | for each the case of a type: the one referred to, or `Case` and the number |
| has values and is a text or of no type | for each but null the case of its text |
| is an object, or has properties | for each property the member of its name |

`namesMembers_of_declaration` is the table.  Nothing looks at two of the names together, so members
have different names exactly if their texts do not share one, and `members_told_apart_iff` says so
of all the declarations of a document.
-/

import TypeFiles.Proofs.Derivation.Body
import TypeFiles.Proofs.Derivation.TypeName
import TypeFiles.Proofs.Name.Sharing

namespace TypeFiles

open TypeFiles.Derivation

namespace Declaration

/-- The declarations that stand directly in another one. -/
def members : Declaration → List Declaration
  | .struct _ members _ _ => members
  | .enum _ members _ _ => members
  | .protocol _ members _ _ => members
  | .extension _ members _ => members
  | _ => []

/-- The names of the members of a declaration. -/
def memberNames (d : Declaration) : List String := d.members.filterMap name?

theorem memberNames_struct (name : String) (fields : List Variable) (conformances : List String)
    (access : Option String) :
    (Declaration.struct name (fields.map .stored) conformances access).memberNames =
      fields.map (·.name) := by
  rw [memberNames, members, List.filterMap_map, ← List.filterMap_eq_map]
  rfl

theorem memberNames_enum (name : String) (cases : List EnumCase) (conformances : List String)
    (access : Option String) :
    (Declaration.enum name (cases.map .case) conformances access).memberNames =
      cases.map (·.name) := by
  rw [memberNames, members, List.filterMap_map, ← List.filterMap_eq_map]
  rfl

end Declaration

/-! ## What members are named after -/

namespace Derivation

/-- The case of an alternative is named after a type: the one it refers to, or that of its number.
Numbers start at 0 here, and at 1 in the name. -/
inductive NamesCase : Schema × Nat → String → Prop where
  | reference {a : Schema} {i : Nat} {key : String}
      (ha : a.target = some (.pointer ("#/components/schemas/" ++ key))) :
      NamesCase (a, i) (Name.forType key)
  | numbered {a : Schema} {i : Nat} (ha : a.target = none) :
      NamesCase (a, i) ("Case" ++ toString (i + 1))

/-- The names that a schema gives to the members of its declaration. -/
def NamesMembers (s : Schema) (names : List String) : Prop :=
  match s.shape with
  | .reference | .alias => names = []
  | .union alternatives => List.Forall₂
      (fun a name => ∃ type, NamesCase a type ∧ name = Name.forCase type) alternatives.zipIdx names
  | .values vs => names = (vs.filter fun v => !v.isNull).map fun v => Name.forCase v.shown
  | .object => names = s.properties.map fun p => String.ofList (Name.sanitized p.1)

variable {keys : List String} {key name context type other : String} {s : Schema}
  {a b : Schema × Nat} {d : Declaration}

namespace NamesCase

theorem isTypeName (h : NamesCase a type) : Name.IsTypeName type.toList := by
  cases h with
  | reference => exact Name.isTypeName_forType _
  | numbered => exact Name.isTypeName_numbered _

/-- A case is named after one type only. -/
theorem unique (h : NamesCase a type) (h' : NamesCase a other) : type = other := by
  cases h with
  | reference ha =>
    cases h' with
    | reference ha' =>
      rw [ha, Option.some.injEq, Target.pointer.injEq] at ha'
      rw [localFront_append_inj ha']
    | numbered ha' => rw [ha] at ha'; cases ha'
  | numbered ha =>
    cases h' with
    | reference ha' => rw [ha] at ha'; cases ha'
    | numbered => rfl

end NamesCase

/-- A case that is made is named after a type. -/
theorem exists_namesCase {c : EnumCase} (h : alternativeCase keys context a = .ok c) :
    ∃ type, NamesCase a type ∧ c.name = Name.forCase type := by
  rw [alternativeCase_eq] at h
  obtain ⟨payload, hpayload, rfl⟩ := map_eq_ok_iff.1 h
  obtain ⟨alternative, i⟩ := a
  cases htarget : alternative.target with
  | none =>
    refine ⟨_, .numbered htarget, ?_⟩
    rw [Name.forCase_numbered]
    rfl
  | some target =>
    rw [typeName_of_target htarget] at hpayload
    cases target with
    | unreadable => cases hpayload
    | pointer ref =>
      obtain ⟨key, -, rfl, rfl⟩ := resolve_eq_ok_iff.1 hpayload
      refine ⟨Name.forType key, .reference htarget, ?_⟩
      rw [Option.isSome_some, if_pos rfl]

/-- The variable of a property is named after it. -/
theorem name_of_variableOf {required : List String} {p : String × Schema} {v : Variable}
    (h : variableOf keys context required p = .ok v) :
    v.name = String.ofList (Name.sanitized p.1) := by
  rw [variableOf_eq] at h
  obtain ⟨name, hname, h⟩ := bind_eq_ok_iff.1 h
  obtain ⟨type, -, rfl⟩ := map_eq_ok_iff.1 h
  unfold memberName Name.forMember? at hname
  split_ifs at hname
  exact (Except.ok.inj hname).symm

theorem valueCase?_eq (v : Value) : valueCase? v =
    if v.isNull then none else some ⟨Name.forCase v.shown, some v.shown, none⟩ := by
  cases v <;> rfl

/-- The cases of an enumeration are named after its values but null. -/
theorem map_name_filterMap_valueCase? (vs : List Value) :
    (vs.filterMap valueCase?).map (·.name) =
      (vs.filter fun v => !v.isNull).map fun v => Name.forCase v.shown := by
  induction vs with
  | nil => rfl
  | cons v rest ih =>
    rw [List.filterMap_cons, valueCase?_eq, List.filter_cons]
    cases v.isNull with
    | true => exact ih
    | false => exact congrArg (Name.forCase v.shown :: ·) ih

/-- **A body has members with the names that its schema gives.** -/
theorem namesMembers_of_body (h : body keys name context s = .ok d) :
    NamesMembers s d.memberNames := by
  rw [body_eq_ok_iff] at h
  unfold NamesMembers
  cases hs : s.shape with
  | union alternatives =>
    rw [hs] at h
    obtain ⟨cases, hcases, rfl⟩ := h
    rw [Declaration.memberNames_enum]
    exact List.forall₂_map_right_iff.2 (hcases.imp fun _ _ => exists_namesCase)
  | values vs =>
    rw [hs] at h
    obtain ⟨-, rfl⟩ := h
    dsimp only
    rw [Declaration.memberNames_enum, map_name_filterMap_valueCase?]
  | object =>
    rw [hs] at h
    obtain ⟨fields, hfields, rfl⟩ := h
    dsimp only
    rw [Declaration.memberNames_struct, ← List.forall₂_eq_eq_eq, List.forall₂_map_left_iff,
      List.forall₂_map_right_iff]
    exact hfields.flip.imp fun _ _ => name_of_variableOf
  | _ =>
    rw [hs] at h
    obtain ⟨existingType, -, rfl⟩ := h
    rfl

theorem namesMembers_of_declaration (h : declaration keys key s = .ok d) :
    NamesMembers s d.bare.memberNames := by
  obtain ⟨b, hb, rfl⟩ := declaration_eq_ok_iff.1 h
  rw [bare_remarked, (becomes_of_body hb).bare_eq]
  exact namesMembers_of_body hb

/-! ## Members with one name -/

/-- Two alternatives, with their numbers, have one name for their cases: two references have it if
the types referred to have one name, and a reference has that of a number if the type is named so.
Two numbers make one name only if they are equal, which those of two alternatives of a union never
are. -/
inductive SharesCase : Schema × Nat → Schema × Nat → Prop where
  | references {a b : Schema} {i j : Nat} {key other : String}
      (ha : a.target = some (.pointer ("#/components/schemas/" ++ key)))
      (hb : b.target = some (.pointer ("#/components/schemas/" ++ other)))
      (h : Name.forType key = Name.forType other) : SharesCase (a, i) (b, j)
  | numbered {a b : Schema} {i j : Nat} {key : String}
      (ha : a.target = some (.pointer ("#/components/schemas/" ++ key))) (hb : b.target = none)
      (h : Name.forType key = "Case" ++ toString (j + 1)) : SharesCase (a, i) (b, j)
  | numbers {a b : Schema} {i : Nat} (ha : a.target = none) (hb : b.target = none) :
      SharesCase (a, i) (b, i)
  | symm {a b : Schema × Nat} (h : SharesCase a b) : SharesCase b a

theorem SharesCase.exists_namesCase (h : SharesCase a b) :
    ∃ type, NamesCase a type ∧ NamesCase b type := by
  induction h with
  | references ha hb h => exact ⟨_, .reference ha, h ▸ .reference hb⟩
  | numbered ha hb h => exact ⟨_, .reference ha, h ▸ .numbered hb⟩
  | numbers ha hb => exact ⟨_, .numbered ha, .numbered hb⟩
  | symm _ ih =>
    obtain ⟨type, ha, hb⟩ := ih
    exact ⟨type, hb, ha⟩

/-- Alternatives have one name for their cases if these are named after one type. -/
theorem sharesCase_iff (ha : NamesCase a type) (hb : NamesCase b other) :
    SharesCase a b ↔ type = other := by
  constructor
  · intro h
    obtain ⟨found, ha', hb'⟩ := h.exists_namesCase
    rw [ha.unique ha', hb.unique hb']
  · intro heq
    cases ha with
    | reference ha =>
      cases hb with
      | reference hb => exact .references ha hb heq
      | numbered hb => exact .numbered ha hb heq
    | numbered ha =>
      cases hb with
      | reference hb => exact .symm (.numbered hb ha heq.symm)
      | numbered hb =>
        obtain rfl := Nat.succ.inj ((Name.numbered_inj "Case").1 heq)
        exact .numbers ha hb

end Derivation

/-- The texts that a schema has names of members made of share none of those names. -/
def Schema.TellsMembersApart (s : Schema) : Prop :=
  match s.shape with
  | .reference | .alias => True
  | .union alternatives => alternatives.zipIdx.Pairwise fun a b => ¬ SharesCase a b
  | .values vs => (vs.filter fun v => !v.isNull).Pairwise fun v w =>
      ¬ Name.SharesMember (Name.caseText v.shown) (Name.caseText w.shown)
  | .object => s.properties.Pairwise fun p q => ¬ Name.SharesMember p.1 q.1

namespace Derivation

/-- Names are all different if what they are given to is told apart by the names. -/
theorem nodup_iff_of_forall₂ {α : Type} {R : α → String → Prop} {shares : α → α → Prop}
    (hshares : ∀ {x y name other}, R x name → R y other → (shares x y ↔ name = other))
    {l : List α} {names : List String} (h : List.Forall₂ R l names) :
    names.Nodup ↔ l.Pairwise fun x y => ¬ shares x y := by
  induction h with
  | nil => exact iff_of_true .nil .nil
  | @cons x name l names hx hrest ih =>
    rw [List.nodup_cons, List.pairwise_cons, ih]
    refine and_congr ?_ Iff.rfl
    -- The first name against all others is an induction of its own, on the rest of both lists.
    clear ih
    induction hrest with
    | nil => simp
    | cons hy _ ih =>
      rw [List.mem_cons, not_or, List.forall_mem_cons, ih, hshares hx hy]

/-- **The members of a declaration have different names exactly if the schema tells them apart.** -/
theorem nodup_iff_of_namesMembers {names : List String} (h : NamesMembers s names) :
    names.Nodup ↔ s.TellsMembersApart := by
  unfold NamesMembers at h
  unfold Schema.TellsMembersApart
  cases hs : s.shape with
  | union alternatives =>
    rw [hs] at h
    refine nodup_iff_of_forall₂ ?_ h
    rintro a b _ _ ⟨type, ha, rfl⟩ ⟨other, hb, rfl⟩
    rw [sharesCase_iff ha hb, ha.isTypeName.forCase_inj hb.isTypeName]
  | values vs =>
    rw [hs] at h
    obtain rfl : names = _ := h
    dsimp only
    rw [List.nodup_iff_pairwise_ne, List.pairwise_map]
    exact List.Pairwise.iff fun v w => not_congr Name.forCase_eq_iff
  | object =>
    rw [hs] at h
    obtain rfl : names = _ := h
    dsimp only
    rw [List.nodup_iff_pairwise_ne, List.pairwise_map]
    refine List.Pairwise.iff fun p q => not_congr ?_
    rw [← Name.sanitized_eq_iff]
    exact String.ofList_inj
  | _ =>
    rw [hs] at h
    obtain rfl : names = [] := h
    exact iff_of_true .nil trivial

end Derivation

/-- **When the members of the declarations of a document have different names.**  The members of
the declaration of a schema have different names exactly if what they are named after shares none:
the names of its properties, the texts of its values but null, or its alternatives. -/
theorem members_told_apart_iff (t : Deriver) (schemas : List (String × Schema)) (j : Journal)
    {b : Block} (h : ((t.derive schemas).run j).1.1 = .ok b) :
    ∃ ds, b = Deriver.componentsBlock ds ∧
      List.Forall₂ (fun e d => d.bare.memberNames.Nodup ↔ e.2.TellsMembersApart) schemas ds := by
  obtain ⟨ds, hds, rfl⟩ := Deriver.exists_declarations_of_derive h
  exact ⟨ds, rfl, hds.imp fun _ _ hd => nodup_iff_of_namesMembers (namesMembers_of_declaration hd)⟩

/-- A pet and its owner, each with two members that are told apart. -/
theorem pet_and_owner_told_apart :
    let pet : Schema := { Schema.empty with
      properties := [("born-at", Schema.empty), ("bornAt", Schema.empty)] }
    let pets : Schema := { Schema.empty with
      target := some (.pointer ("#/components/schemas/" ++ "pet")) }
    let text : Schema := { Schema.empty with types := ["string"] }
    let owner : Schema := { Schema.empty with oneOf := [pets, text] }
    ∃ ds, ((Deriver.fresh.derive [("pet", pet), ("owner", owner)]).run .collecting).1.1 =
        .ok (Deriver.componentsBlock ds) ∧
      ∀ d ∈ ds, d.bare.memberNames.Nodup := by
  intro pet pets text owner
  obtain ⟨b, h⟩ : ∃ b, ((Deriver.fresh.derive [("pet", pet), ("owner", owner)]).run
      .collecting).1.1 = .ok b := ⟨_, rfl⟩
  obtain ⟨ds, rfl, hall⟩ := members_told_apart_iff _ _ _ h
  refine ⟨ds, h, ?_⟩
  obtain ⟨first, rest, hpet, hrest, rfl⟩ := List.forall₂_cons_left_iff.1 hall
  obtain ⟨second, none, howner, hnone, rfl⟩ := List.forall₂_cons_left_iff.1 hrest
  obtain rfl := List.forall₂_nil_left_iff.1 hnone
  have hpet' : pet.TellsMembersApart := by
    have hapart : ¬ Name.SharesMember "born-at" "bornAt" := by decide +kernel
    exact .cons (List.forall_mem_singleton.2 hapart) (List.pairwise_singleton _ _)
  have howner' : owner.TellsMembersApart := by
    have hnamed : NamesCase (pets, 0) (Name.forType "pet") := .reference rfl
    have hnumbered : NamesCase (text, 1) ("Case" ++ toString (1 + 1)) := .numbered rfl
    have hapart : ¬ SharesCase (pets, 0) (text, 1) := by
      rw [sharesCase_iff hnamed hnumbered]
      decide +kernel
    exact .cons (List.forall_mem_singleton.2 hapart) (List.pairwise_singleton _ _)
  exact List.forall_mem_cons.2 ⟨hpet.2 hpet', List.forall_mem_singleton.2 (howner.2 howner')⟩

/-- In each of three declarations, two members of different origin have one name. -/
theorem shared_member_names :
    let pet : Schema := { Schema.empty with
      properties := [("born-at", Schema.empty), ("born_at", Schema.empty)] }
    let status : Schema := { Schema.empty with values := [.text "Sold", .text "sold"] }
    let owner : Schema := { Schema.empty with
      oneOf := [{ Schema.empty with target := some (.pointer "#/components/schemas/Case2") },
        { Schema.empty with types := ["string"] }] }
    let schemas := [("Pet", pet), ("Status", status), ("Owner", owner), ("Case2", Schema.empty)]
    ∃ ds, ((Deriver.fresh.derive schemas).run .collecting).1.1 =
        .ok (Deriver.componentsBlock ds) ∧
      ds.map (·.bare.memberNames) =
        [["born_at", "born_at"], ["sold", "sold"], ["case2", "case2"], []] := by
  intro pet status owner schemas
  refine ⟨_, rfl, ?_⟩
  decide +kernel

end TypeFiles
