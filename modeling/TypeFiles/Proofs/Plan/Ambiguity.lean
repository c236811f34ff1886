/-
# When two types have the same name

Keys are told apart by any character, the names of types only by letters and digits, and the names
of the types that a document declares share one room with those of the built-in types.  So two
places of a document can be given types of one name.  Files that share a name are reported;
`same_type_name` says how much that report is worth.  If a place refers to `key` and there is no
warning, a place with a type of the same name is one of these:

| the other place | further condition |
| --- | --- |
| refers to `key` | |
| refers to another key with the same name of a type | one of the two keys has no file of its own |
| is no reference | the name is `Any` or `UUID` |

Among keys with files the name of a type is thus told from every other one (`key_eq_of_hasFile`).
Nothing is reported on a key without a file, nor on a built-in type, and `shared_type_names` shows
all that comes of it in one document.
-/

import TypeFiles.Proofs.Derivation.References
import TypeFiles.Proofs.Name.Type
import TypeFiles.Proofs.Plan.Files
import TypeFiles.Proofs.Plan.Sequence

namespace TypeFiles

open Declaration TypeFiles.Derivation

/-- The places of a document whose type is named: the sites of its schemas, and the items of an
array whose type is named. -/
inductive IsNamed (schemas : List (String × Schema)) : Site → Prop where
  | site {key : String} {s : Schema} {site : Site} (mem : (key, s) ∈ schemas)
      (isSite : site ∈ s.sites key) : IsNamed schemas site
  | items {context : String} {s item : Schema} (array : IsNamed schemas ⟨context, s⟩)
      (noTarget : s.target = none) (isArray : s.primaryType = some "array")
      (items : s.items = some item) : IsNamed schemas ⟨context, item⟩

/-- A place is a reference to the schema under a key. -/
def Site.RefersTo (site : Site) (key : String) : Prop :=
  site.schema.target = some (.pointer ("#/components/schemas/" ++ key))

/-- A schema under the key becomes a struct or an enum with a case, so it has a file of its own. -/
def HasFile (schemas : List (String × Schema)) (key : String) : Prop :=
  ∃ s d, (key, s) ∈ schemas ∧ declaration (schemas.map (·.1)) key s = .ok d ∧ d.bare.isData = true

section

variable {keys : List String} {schemas : List (String × Schema)} {ds : List Declaration}

/-- **Every place has a name for its type** if the document is derived. -/
theorem exists_typeName_of_isNamed
    (h : List.Forall₂ (fun e d => declaration keys e.1 e.2 = .ok d) schemas ds) {site : Site}
    (hsite : IsNamed schemas site) : ∃ name, site.typeName keys = .ok name := by
  induction hsite with
  | site mem isSite =>
    obtain ⟨d, -, hd⟩ := exists_mem_zip_of_mem h mem
    obtain ⟨text, -, htext⟩ := exists_mem_zip_of_mem (typeTexts_of_declaration hd) isSite
    exact ⟨text, htext⟩
  | items array noTarget isArray items ih =>
    obtain ⟨name, hname⟩ := ih
    rw [Site.typeName, typeName_of_array noTarget isArray, items] at hname
    obtain ⟨inner, hinner, -⟩ := map_eq_ok_iff.1 hname
    exact ⟨inner, hinner⟩

/-! ## Names that are the name of a type -/

/-- No list has the name of the type of a key: it starts with a small letter. -/
theorem listed_ne_forType (n : Nat) (name key : String) :
    listed (n + 1) name ≠ Name.forType key := by
  intro h
  obtain ⟨c, rest, hhead, hcapital⟩ := Name.forType_head key
  rw [← h, listed_succ, String.append_assoc, String.toList_append] at hhead
  obtain ⟨rfl, -⟩ := List.cons.inj hhead
  revert hcapital
  decide

/-- Two of the built-in types alone can have the name of the type of a key. -/
theorem builtin_eq_forType {builtin key : String} (hmem : builtin ∈ builtinTypes)
    (h : builtin = Name.forType key) : builtin = "Any" ∨ builtin = "UUID" := by
  obtain ⟨c, rest, hhead, hcapital⟩ := Name.forType_head key
  rw [← h] at hhead
  have hall : ∀ b ∈ builtinTypes,
      (b.toList.head?.any fun c => c.isUpper || c == '_') = true → b = "Any" ∨ b = "UUID" := by
    decide
  refine hall builtin hmem ?_
  rw [hhead]
  simpa using hcapital

/-- A place with the name of the type of a key refers to a key with that name, or it has one of two
built-in types. -/
theorem reference_or_builtin {site : Site} {key : String}
    (h : site.typeName keys = .ok (Name.forType key)) :
    (∃ other ∈ keys, site.RefersTo other ∧ Name.forType other = Name.forType key) ∨
      site.schema.target = none ∧ (Name.forType key = "Any" ∨ Name.forType key = "UUID") := by
  cases hleaf : site.schema.leaf? with
  | some found =>
    obtain ⟨n, target⟩ := found
    cases target with
    | unreadable =>
      rw [Site.typeName, typeName_of_leaf hleaf] at h
      cases h
    | pointer ref =>
      obtain ⟨other, hmem, rfl, hname⟩ := exists_key_of_leaf hleaf h
      cases n with
      | zero =>
        rw [listed_zero] at hname
        exact .inl ⟨other, hmem, Schema.target_of_leaf hleaf, hname.symm⟩
      | succ n => exact absurd hname.symm (listed_ne_forType n _ key)
  | none =>
    obtain ⟨n, builtin, hbuiltin, hname⟩ := exists_builtin_of_leaf keys site.context hleaf
    rw [Site.typeName, hname, Except.ok.injEq] at h
    cases n with
    | zero =>
      rw [listed_zero] at h
      rw [← h]
      exact .inr ⟨Schema.target_eq_none_of_leaf hleaf, builtin_eq_forType hbuiltin h⟩
    | succ n => exact absurd h (listed_ne_forType n _ key)

/-! ## Keys with files -/

/-- **If no two files share a name, neither do the types of two keys with files.** -/
theorem key_eq_of_hasFile {s : Settings}
    (h : List.Forall₂ (fun e d => declaration (schemas.map (·.1)) e.1 e.2 = .ok d) schemas ds)
    (hquiet : Plan.warningsOf s ds = []) {key other : String} (hkey : HasFile schemas key)
    (hother : HasFile schemas other) (hname : Name.forType key = Name.forType other) :
    key = other := by
  have hfiles : ((Plan.filesOf s ds).map (·.name)).Nodup :=
    Assembly.collisions_eq_nil_iff.1 (List.map_eq_nil_iff.1 hquiet)
  rw [Plan.map_name_filesOf] at hfiles
  -- The name of a file is a function of that of the type, so types share no name either.
  have htypes : (((schemas.zip ds).filter fun e => e.2.bare.isData).map
      fun e => Name.forType e.1.1).Nodup := by
    have hunits := List.Nodup.of_map _ (List.nodup_append.1 hfiles).2.1
    rw [Plan.units_of_declarations h, List.map_map] at hunits
    simpa only [Function.comp_def, FileUnit.ofDeclaration] using hunits
  have hmem : ∀ {key}, HasFile schemas key →
      ∃ e ∈ (schemas.zip ds).filter fun e => e.2.bare.isData, e.1.1 = key := by
    rintro key ⟨s, d, hs, hd, hdata⟩
    obtain ⟨d', hzip, hd'⟩ := exists_mem_zip_of_mem h hs
    obtain rfl := Except.ok.inj (hd.symm.trans hd')
    exact ⟨((key, s), d), List.mem_filter.2 ⟨hzip, hdata⟩, rfl⟩
  obtain ⟨e, he, rfl⟩ := hmem hkey
  obtain ⟨e', he', rfl⟩ := hmem hother
  rw [List.inj_on_of_nodup_map htypes he he' hname]

end

/-- **Types of one name.**  Suppose that a document is planned and no warning is collected on it.
Then every place has a name for its type.  If a place that refers to `key` shares that name with
another place, the other one refers to `key` too; or to another key with the same name, not both
keys having a file; or to nothing, the name being that of one of two built-in types. -/
theorem same_type_name (p : Planner) (schemas : List (String × Schema)) (j : Journal)
    {old new : List Diagnostic} {files : List GeneratedFile} (hj : j.collector = some old)
    (hfiles : ((p.plan schemas).run j).1.1 = .ok files)
    (hnew : ((p.plan schemas).run j).2.collector = some (old ++ new))
    (hquiet : ∀ d ∈ new, d.severity ≠ .warning) :
    (∀ a, IsNamed schemas a → ∃ name, a.typeName (schemas.map (·.1)) = .ok name) ∧
    ∀ (a b : Site) (key : String), IsNamed schemas a → a.RefersTo key →
      a.typeName (schemas.map (·.1)) = b.typeName (schemas.map (·.1)) →
        b.RefersTo key ∨
        (∃ other ∈ schemas.map (·.1), other ≠ key ∧ b.RefersTo other ∧
          Name.forType other = Name.forType key ∧
          ¬(HasFile schemas key ∧ HasFile schemas other)) ∨
        b.schema.target = none ∧ (b.typeName (schemas.map (·.1)) = .ok "Any" ∨
          b.typeName (schemas.map (·.1)) = .ok "UUID") := by
  have hgives := p.gives_plan schemas
  rw [hgives.result] at hfiles
  obtain ⟨ds, hds, -⟩ := map_eq_ok_iff.1 hfiles
  have hall := mapM_eq_ok_iff.1 hds
  have hwarnings : Plan.warningsOf p.settings ds = [] := by
    rw [hgives.collector_of_some hj, hds, Option.some.injEq] at hnew
    obtain rfl := List.append_cancel_left hnew
    refine List.eq_nil_iff_forall_not_mem.2 fun d hd => ?_
    exact hquiet d (List.mem_append_right _ hd) (Plan.severity_of_mem_collisionWarnings hd)
  refine ⟨fun a ha => exists_typeName_of_isNamed hall ha, fun a b key ha href hsame => ?_⟩
  obtain ⟨name, hname⟩ := exists_typeName_of_isNamed hall ha
  obtain ⟨target, -, hpointer, rfl⟩ :=
    exists_key_of_leaf (n := 0) (Schema.leaf?_of_target href) hname
  obtain rfl : key = target := localFront_append_inj hpointer
  rw [listed_zero] at hname
  rw [hname] at hsame
  rw [← hsame]
  obtain ⟨other, hmem, hrefers, hother⟩ | ⟨hnone, hbuiltin⟩ := reference_or_builtin hsame.symm
  · by_cases heq : other = key
    · subst heq
      exact .inl hrefers
    · refine .inr (.inl ⟨other, hmem, heq, hrefers, hother, ?_⟩)
      rintro ⟨hkey, hother'⟩
      exact heq (key_eq_of_hasFile hall hwarnings hother' hkey hother)
  · exact .inr (.inr ⟨hnone, hbuiltin.imp (congrArg Except.ok) (congrArg Except.ok)⟩)

/-- Whatever has the type of a kitten is a cat. -/
theorem every_cat_is_one :
    let cat : Schema := { Schema.empty with target := some (.pointer "#/components/schemas/cat") }
    let cats : Schema := { Schema.empty with types := ["array"], items := some cat }
    let schemas := [("cat", { Schema.empty with properties :=
      [("mother", cat), ("kittens", cats)] })]
    (∃ files, (((Planner.fresh .default).plan schemas).run .collecting).1.1 = .ok files) ∧
      (((Planner.fresh .default).plan schemas).run .collecting).2.collector = some [] ∧
      IsNamed schemas ⟨"cat.kittens", cat⟩ ∧
      ∀ b : Site, b.typeName ["cat"] = .ok (Name.forType "cat") → b.RefersTo "cat" := by
  intro cat cats schemas
  obtain ⟨files, hfiles⟩ : ∃ files,
      (((Planner.fresh .default).plan schemas).run .collecting).1.1 = .ok files := by
    rw [(Planner.gives_plan _ _).result]
    exact ⟨_, rfl⟩
  have hquiet :
      (((Planner.fresh .default).plan schemas).run .collecting).2.collector = some [] := by
    decide +kernel
  have hkittens : IsNamed schemas ⟨"cat.kittens", cat⟩ :=
    .items (.site (.head _) (.tail _ (.head _))) rfl rfl rfl
  obtain ⟨-, hsame⟩ := same_type_name _ schemas .collecting rfl hfiles hquiet
    (List.forall_mem_nil _)
  refine ⟨⟨files, hfiles⟩, hquiet, hkittens, fun b hname => ?_⟩
  obtain h | ⟨other, hmem, hne, -⟩ | ⟨-, hbuiltin⟩ :=
    hsame _ b "cat" hkittens rfl (Eq.trans rfl hname.symm)
  · exact h
  · exact absurd (List.mem_singleton.1 hmem) hne
  · have hnot : Name.forType "cat" ≠ "Any" ∧ Name.forType "cat" ≠ "UUID" := by decide +kernel
    obtain h | h := hbuiltin
    · exact absurd (Except.ok.inj (hname.symm.trans h)) hnot.1
    · exact absurd (Except.ok.inj (hname.symm.trans h)) hnot.2

/-- Without any warning, two keys have one name for their types, and so have a key and a built-in
type. -/
theorem shared_type_names :
    let refersTo (key : String) : Schema :=
      { Schema.empty with target := some (.pointer ("#/components/schemas/" ++ key)) }
    let list : Schema := { Schema.empty with types := ["array"] }
    let uuid : Schema := { Schema.empty with types := ["string"], format := some "uuid" }
    let schemas := [("petList", { Schema.empty with properties :=
        [("first", refersTo "pet list"), ("rest", refersTo "petList"), ("owner", refersTo "any"),
          ("note", Schema.empty), ("id", refersTo "UUID"), ("tag", uuid)] }),
      ("pet list", list), ("any", list), ("UUID", uuid)]
    let first : Site := ⟨"petList.first", refersTo "pet list"⟩
    let rest : Site := ⟨"petList.rest", refersTo "petList"⟩
    let owner : Site := ⟨"petList.owner", refersTo "any"⟩
    let note : Site := ⟨"petList.note", Schema.empty⟩
    let id : Site := ⟨"petList.id", refersTo "UUID"⟩
    let tag : Site := ⟨"petList.tag", uuid⟩
    (∃ files, (((Planner.fresh .default).plan schemas).run .collecting).1.1 = .ok files) ∧
      (∀ d ∈ (((Planner.fresh .default).plan schemas).run .collecting).2.diagnostics,
        d.severity ≠ .warning) ∧
      (∀ site ∈ [first, rest, owner, note, id, tag], IsNamed schemas site) ∧
      (∀ site ∈ [first, rest], site.typeName (schemas.map (·.1)) = .ok "PetList") ∧
      (∀ site ∈ [owner, note], site.typeName (schemas.map (·.1)) = .ok "Any") ∧
      (∀ site ∈ [id, tag], site.typeName (schemas.map (·.1)) = .ok "UUID") ∧
      first.RefersTo "pet list" ∧ ¬rest.RefersTo "pet list" ∧
      owner.RefersTo "any" ∧ ¬note.RefersTo "any" ∧ id.RefersTo "UUID" ∧ ¬tag.RefersTo "UUID" := by
  intro refersTo list uuid schemas first rest owner note id tag
  refine ⟨?_, by decide +kernel, fun site hsite => .site (.head _) hsite, by decide +kernel,
    by decide +kernel, by decide +kernel, rfl, ?_, rfl, nofun, rfl, nofun⟩
  · rw [(Planner.gives_plan _ _).result]
    exact ⟨_, rfl⟩
  · intro h
    have hkey : "petList" = "pet list" :=
      localFront_append_inj (Target.pointer.inj (Option.some.inj h))
    revert hkey
    decide

end TypeFiles
