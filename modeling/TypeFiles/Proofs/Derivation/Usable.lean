/-
# Which documents have names that can be used

A derived tree is full of names, and the code that is generated can use a name only if it is an
identifier and no reserved word.  Three kinds of text fail to give such a name:

| text | name | example |
| --- | --- | --- |
| a key, whose type has a reserved word with a capital for its name | that word | `none`: `None` |
| a property of whose name nothing remains | none at all | `名前` |
| a property or a value that hides a reserved word | that word | `clàss`: `class` |

`usable_names_iff` says that there is no other way: the names in the declaration of a schema can be
used exactly if none of its texts is one of these.  Alternatives are free of such texts, since the
name of a type is an identifier already.
-/

import TypeFiles.Proofs.Derivation.Members

namespace TypeFiles

open TypeFiles.Derivation

namespace Declaration

/-- A declaration stands in another one, at any depth; each of them stands in itself. -/
inductive Holds : Declaration → Declaration → Prop where
  | self (d : Declaration) : Holds d d
  | member {d m x : Declaration} (mem : m ∈ d.members) (below : Holds m x) : Holds d x
  | remark {remark : Remark} {d x : Declaration} (below : Holds d x) :
      Holds (.annotated remark d) x

/-- All names in a declaration can be used. -/
def HasUsableNames (d : Declaration) : Prop :=
  ∀ x name, d.Holds x → x.name? = some name → Name.IsUsable name

variable {d : Declaration} {name : String}

/-- A remark has no name. -/
theorem hasUsableNames_annotated {remark : Remark} :
    (annotated remark d).HasUsableNames ↔ d.HasUsableNames := by
  constructor
  · exact fun h x name hx => h x name (.remark hx)
  · intro h x name hx hname
    cases hx with
    | self => cases hname
    | member mem => cases mem
    | remark below => exact h x name below hname

theorem hasUsableNames_bare : ∀ {d : Declaration}, d.bare.HasUsableNames ↔ d.HasUsableNames
  | .annotated _ d => (hasUsableNames_bare (d := d)).trans hasUsableNames_annotated.symm
  | .unspecified | .case _ | .stored _ | .typeAlias _ _ | .function _ _ _ | .struct _ _ _ _
  | .enum _ _ _ _ | .protocol _ _ _ _ | .extension _ _ _ => Iff.rfl

/-- The names in a declaration with a name are its own and those in its members. -/
theorem hasUsableNames_iff (h : d.name? = some name) :
    d.HasUsableNames ↔ Name.IsUsable name ∧ ∀ m ∈ d.members, m.HasUsableNames := by
  constructor
  · exact fun hall => ⟨hall d name (.self d) h, fun m hm x n hx => hall x n (.member hm hx)⟩
  · rintro ⟨hown, hmembers⟩ x n hx hn
    cases hx with
    | self =>
      rw [h, Option.some.injEq] at hn
      exact hn ▸ hown
    | member mem below => exact hmembers _ mem x n below hn
    | remark => cases h

/-- If the members have a name each and nothing in them, the names are those of the members. -/
theorem hasUsableNames_iff_memberNames (h : d.name? = some name)
    (hleaf : ∀ m ∈ d.members, ∃ n, m.name? = some n ∧ m.members = []) :
    d.HasUsableNames ↔ Name.IsUsable name ∧ ∀ n ∈ d.memberNames, Name.IsUsable n := by
  rw [hasUsableNames_iff h]
  refine and_congr_right fun _ => ?_
  have hmember : ∀ m ∈ d.members, ∀ n, m.name? = some n → (m.HasUsableNames ↔ Name.IsUsable n) := by
    intro m hm n hn
    obtain ⟨-, -, hnone⟩ := hleaf m hm
    rw [hasUsableNames_iff hn, hnone]
    exact and_iff_left nofun
  constructor
  · intro hall n hn
    obtain ⟨m, hm, hn⟩ := List.mem_filterMap.1 hn
    exact (hmember m hm n hn).1 (hall m hm)
  · intro hall m hm
    obtain ⟨n, hn, -⟩ := hleaf m hm
    exact (hmember m hm n hn).2 (hall n (List.mem_filterMap.2 ⟨m, hm, hn⟩))

end Declaration

/-- The texts that a schema has the names of members made of give names that can be used. -/
def Schema.GivesUsableMembers (s : Schema) : Prop :=
  match s.shape with
  | .reference | .alias | .union _ => True
  | .values vs => ∀ v ∈ vs, v.isNull = false → ¬ Name.HidesReserved (Name.lowered v.shown)
  | .object => ∀ p ∈ s.properties, Name.remains p.1 ≠ [] ∧ ¬ Name.HidesReserved p.1

/-- The key of a schema and its texts give names that can be used. -/
def Schema.GivesUsableNames (key : String) (s : Schema) : Prop :=
  Name.forType key ∉ ["False", "None", "True"] ∧ s.GivesUsableMembers

namespace Derivation

variable {keys : List String} {key name : String} {s : Schema} {d : Declaration}

/-- In a body there are its own name and those of its members. -/
theorem Becomes.hasUsableNames_iff (h : Becomes s name d) :
    d.HasUsableNames ↔ Name.IsUsable name ∧ ∀ n ∈ d.memberNames, Name.IsUsable n := by
  refine Declaration.hasUsableNames_iff_memberNames h.name_eq ?_
  cases h with
  | typeAlias => exact nofun
  | struct fields => exact List.forall_mem_map.2 fun v _ => ⟨v.name, rfl, rfl⟩
  | enum cases => exact List.forall_mem_map.2 fun c _ => ⟨c.name, rfl, rfl⟩

/-- **The names of members can be used exactly if the texts of the schema allow it.** -/
theorem usable_iff_of_namesMembers {names : List String} (h : NamesMembers s names) :
    (∀ n ∈ names, Name.IsUsable n) ↔ s.GivesUsableMembers := by
  unfold NamesMembers at h
  unfold Schema.GivesUsableMembers
  cases hs : s.shape with
  | union alternatives =>
    rw [hs] at h
    refine iff_of_true (fun n hn => ?_) trivial
    obtain ⟨a, -, type, hnamed, rfl⟩ := exists_mem_zip_of_mem h.flip hn
    exact hnamed.isTypeName.isUsable_forCase
  | values vs =>
    rw [hs] at h
    obtain rfl : names = _ := h
    dsimp only
    rw [List.forall_mem_map]
    simp only [List.mem_filter, Bool.not_eq_true', and_imp]
    exact forall₃_congr fun v _ _ => Name.isUsable_forCase_iff
  | object =>
    rw [hs] at h
    obtain rfl : names = _ := h
    dsimp only
    rw [List.forall_mem_map]
    exact forall₂_congr fun p _ => Name.isUsable_sanitized_iff
  | _ =>
    rw [hs] at h
    obtain rfl : names = [] := h
    exact iff_of_true nofun trivial

/-- **The names in a declaration can be used exactly if the schema gives such names.** -/
theorem hasUsableNames_iff_of_declaration (h : declaration keys key s = .ok d) :
    d.HasUsableNames ↔ s.GivesUsableNames key := by
  rw [← Declaration.hasUsableNames_bare, (becomes_of_declaration h).hasUsableNames_iff,
    Name.isUsable_forType_iff, usable_iff_of_namesMembers (namesMembers_of_declaration h)]
  rfl

end Derivation

/-- **When the names in a derived document can be used.**  The names in the declaration of a schema,
its own and those below it at any depth, are identifiers and no reserved words exactly if the name
of its type is none of three reserved words, none of its values hides a reserved word in lower case,
and of the name of each of its properties something remains that hides no reserved word.  So the
names in the whole tree can be used exactly if this is so for all schemas. -/
theorem usable_names_iff (t : Deriver) (schemas : List (String × Schema)) (j : Journal)
    {b : Block} (h : ((t.derive schemas).run j).1.1 = .ok b) :
    ∃ ds, b = Deriver.componentsBlock ds ∧
      List.Forall₂ (fun e d => d.HasUsableNames ↔ e.2.GivesUsableNames e.1) schemas ds ∧
      ∀ tree, b.item = .declaration tree →
        (tree.HasUsableNames ↔ ∀ e ∈ schemas, e.2.GivesUsableNames e.1) := by
  obtain ⟨ds, hds, rfl⟩ := Deriver.exists_declarations_of_derive h
  have hall := hds.imp fun _ _ hd => hasUsableNames_iff_of_declaration hd
  refine ⟨ds, rfl, hall, fun tree htree => ?_⟩
  obtain rfl := Item.declaration.inj htree
  have hnames : Name.IsUsable "Components" ∧ Name.IsUsable "Schemas" :=
    ⟨⟨.of_letters (by decide) (by decide), by decide⟩,
      ⟨.of_letters (by decide) (by decide), by decide⟩⟩
  have hschemas : (Declaration.namespaceOf "Schemas" ds).HasUsableNames ↔
      ∀ d ∈ ds, d.HasUsableNames :=
    (Declaration.hasUsableNames_iff rfl).trans (and_iff_right hnames.2)
  have htree : (Declaration.namespaceOf "Components"
      [Declaration.namespaceOf "Schemas" ds]).HasUsableNames ↔
        (Declaration.namespaceOf "Schemas" ds).HasUsableNames :=
    (Declaration.hasUsableNames_iff rfl).trans
      ((and_iff_right hnames.1).trans List.forall_mem_singleton)
  exact htree.trans (hschemas.trans (forall_mem_iff_of_forall₂ hall))

/-- Reserved words, digits and a value without letters, none of which stand in the way. -/
theorem awkward_names_usable :
    let settings : Schema := { Schema.empty with
      properties := [("class", Schema.empty), ("2fa", Schema.empty)] }
    let answer : Schema := { Schema.empty with values := [.text "Yes!", .text "?", .null] }
    ∃ b, ((Deriver.fresh.derive [("if", settings), ("3d answer", answer)]).run
        .collecting).1.1 = .ok b ∧
      ∃ tree, b.item = .declaration tree ∧ tree.HasUsableNames := by
  intro settings answer
  obtain ⟨b, h⟩ : ∃ b, ((Deriver.fresh.derive [("if", settings), ("3d answer", answer)]).run
      .collecting).1.1 = .ok b := ⟨_, rfl⟩
  obtain ⟨ds, rfl, -, htree⟩ := usable_names_iff _ _ _ h
  refine ⟨_, h, _, rfl, (htree _ rfl).2 ?_⟩
  have hproperties : ∀ p ∈ settings.properties,
      Name.remains p.1 ≠ [] ∧ ¬ Name.HidesReserved p.1 := by decide +kernel
  have hvalues : ∀ v ∈ answer.values, v.isNull = false →
      ¬ Name.HidesReserved (Name.lowered v.shown) := by decide +kernel
  have htypes : ∀ key ∈ ["if", "3d answer"], Name.forType key ∉ ["False", "None", "True"] := by
    decide +kernel
  rw [List.forall_mem_cons, List.forall_mem_singleton] at htypes ⊢
  exact ⟨⟨htypes.1, hproperties⟩, ⟨htypes.2, hvalues⟩⟩

/-- Without any failure, a document gives the names `None`, `class`, nothing and `if`. -/
theorem unusable_names_derived :
    let nameless : Schema := { Schema.empty with
      properties := [("clàss", Schema.empty), ("名前", Schema.empty)] }
    let word : Schema := { Schema.empty with types := ["string"], values := [.text "if!"] }
    (∃ ds, ((Deriver.fresh.derive [("none", nameless), ("Word", word)]).run .collecting).1.1 =
        .ok (Deriver.componentsBlock ds) ∧
      ds.map (fun d => (d.bare.name?, d.bare.memberNames)) =
        [(some "None", ["class", ""]), (some "Word", ["if"])]) ∧
      ∀ name ∈ ["None", "class", "", "if"], ¬ Name.IsUsable name := by
  intro nameless word
  refine ⟨⟨_, rfl, by decide +kernel⟩, fun name hname h => ?_⟩
  have hcases : ∀ n ∈ ["None", "class", "", "if"], n = "" ∨ n ∈ Name.reservedWords := by decide
  rcases hcases name hname with rfl | hreserved
  · exact h.identifier.ne_nil rfl
  · exact h.notReserved hreserved

end TypeFiles
