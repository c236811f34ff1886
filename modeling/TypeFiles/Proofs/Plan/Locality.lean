/-
# What a change of a document changes

The declarations of a document are derived schema by schema, and each depends on the others through
their keys alone (`declaration_congr`, `declaration_mono`).  `derivation_local` draws the
conclusions for a document that is derived:

| change of the document | declarations | files |
| --- | --- | --- |
| schemas in another order | in that order | in that order, behind the anchor |
| another schema under a key | the others stay | |
| one more schema | the others stay | |

A document in another order is also reported on alike: the same notes and the same warnings, each as
often, if not in the same order.
-/

import TypeFiles.Proofs.Assembly.Collision
import TypeFiles.Proofs.Derivation.Locality
import TypeFiles.Proofs.Plan.Document
import Mathlib.Data.List.Perm.Basic

namespace TypeFiles

open Declaration TypeFiles.Derivation

/-- What stands on the right of a relation between lists can follow a new order on the left. -/
theorem exists_zip_perm {α β : Type} {R : α → β → Prop} {l l' : List α} {found : List β}
    (h : List.Forall₂ R l found) (hperm : l.Perm l') :
    ∃ found', List.Forall₂ R l' found' ∧ (l.zip found).Perm (l'.zip found') := by
  induction hperm generalizing found with
  | nil => exact ⟨found, h, .refl _⟩
  | cons x _ ih =>
    obtain ⟨y, rest, hy, hrest, rfl⟩ := List.forall₂_cons_left_iff.1 h
    obtain ⟨found', h', hzip⟩ := ih hrest
    exact ⟨y :: found', .cons hy h', hzip.cons _⟩
  | swap x x' l =>
    obtain ⟨y', ys, hy', hys, rfl⟩ := List.forall₂_cons_left_iff.1 h
    obtain ⟨y, rest, hy, hrest, rfl⟩ := List.forall₂_cons_left_iff.1 hys
    exact ⟨y :: y' :: rest, .cons hy (.cons hy' hrest), .swap _ _ _⟩
  | trans _ _ ih₁ ih₂ =>
    obtain ⟨found₁, h₁, hzip₁⟩ := ih₁ h
    obtain ⟨found₂, h₂, hzip₂⟩ := ih₂ h₁
    exact ⟨found₂, h₂, hzip₁.trans hzip₂⟩

/-- The declaration of a schema under a key, as a deriver gives it that remembers a document, or the
failure. -/
def Deriver.declarationIn (schemas : List (String × Schema)) (key : String) (s : Schema)
    (j : Journal) : Except Failure Declaration :=
  (((⟨schemas⟩ : Deriver).declaration key s).run.run j).1

/-- A document is derived with these declarations, one for each schema, whatever the deriver
remembers and whatever the journal holds. -/
structure Derives (schemas : List (String × Schema)) (ds : List Declaration) : Prop where
  length_eq : ds.length = schemas.length
  derive (t : Deriver) (j : Journal) :
    ((t.derive schemas).run j).1.1 = .ok (Deriver.componentsBlock ds)

section

variable {schemas others : List (String × Schema)} {ds : List Declaration} {key : String}
  {s : Schema} {d : Declaration}

theorem Deriver.declarationIn_eq (j : Journal) :
    declarationIn schemas key s j = Derivation.declaration (schemas.map (·.1)) key s :=
  (gives_declaration ⟨schemas⟩ key s).result j

/-- A document is derived schema by schema. -/
theorem derives_iff : Derives schemas ds ↔
    List.Forall₂ (fun e d => declaration (schemas.map (·.1)) e.1 e.2 = .ok d) schemas ds := by
  constructor
  · intro h
    obtain ⟨found, hfound, heq⟩ :=
      Deriver.exists_declarations_of_derive (h.derive .fresh .collecting)
    simp only [Deriver.componentsBlock, namespaceOf, Block.mk.injEq, Item.declaration.injEq,
      Declaration.enum.injEq, List.cons.injEq, true_and, and_true] at heq
    rwa [heq]
  · intro h
    refine ⟨h.length_eq.symm, fun t j => ?_⟩
    rw [(t.gives_derive schemas).result, Derivation.declarations, mapM_eq_ok_iff.2 h]
    rfl

/-- The same declarations are those of a document with more keys. -/
theorem forall₂_declaration_mono {keys more : List String} (hsub : keys ⊆ more)
    (h : List.Forall₂ (fun e d => declaration keys e.1 e.2 = .ok d) schemas ds) :
    List.Forall₂ (fun e d => declaration more e.1 e.2 = .ok d) schemas ds :=
  h.imp fun _ _ => declaration_mono hsub

/-- A schema that has a declaration can be put anywhere into a document, if none of the keys gets
lost. -/
theorem Derives.insert {before after : List (String × Schema)} {front back : List Declaration}
    {keys : List String} (hsub : keys ⊆ (before ++ (key, s) :: after).map (·.1))
    (hbefore : List.Forall₂ (fun e d => declaration keys e.1 e.2 = .ok d) before front)
    (hafter : List.Forall₂ (fun e d => declaration keys e.1 e.2 = .ok d) after back) {j : Journal}
    (hd : Deriver.declarationIn (before ++ (key, s) :: after) key s j = .ok d) :
    Derives (before ++ (key, s) :: after) (front ++ d :: back) := by
  rw [Deriver.declarationIn_eq] at hd
  exact derives_iff.2 (List.rel_append (forall₂_declaration_mono hsub hbefore)
    (.cons hd (forall₂_declaration_mono hsub hafter)))

/-- The files of the units of a declaration. -/
def Plan.unitFiles (settings : Settings) (d : Declaration) : List GeneratedFile :=
  (d.fileUnits []).map (Assembly.unitFile settings (Assembly.header settings))

/-- The files of a document are those of its declarations, one after the other, behind the
anchor. -/
theorem Plan.filesOf_eq_flatMap (settings : Settings) (ds : List Declaration) :
    filesOf settings ds =
      (Assembly.anchorFile? settings).toList ++ ds.flatMap (unitFiles settings) := by
  rw [filesOf, Assembly.files, List.map_flatMap]
  rfl

theorem Derives.plan (h : Derives schemas ds) (p : Planner) (j : Journal) :
    ((p.plan schemas).run j).1.1 = .ok ((Assembly.anchorFile? p.settings).toList ++
      ds.flatMap (Plan.unitFiles p.settings)) := by
  rw [(p.gives_plan schemas).result, declarations, mapM_eq_ok_iff.2 (derives_iff.1 h),
    ← Plan.filesOf_eq_flatMap]
  rfl

theorem Derives.collector_plan (h : Derives schemas ds) (p : Planner) (j : Journal) :
    ((p.plan schemas).run j).2.collector =
      j.collector.map (· ++ (Plan.notesOf ds ++ Plan.warningsOf p.settings ds)) := by
  rw [(p.gives_plan schemas).collector, declarations, mapM_eq_ok_iff.2 (derives_iff.1 h)]
  rfl

/-! ## Another order -/

/-- The same names give the same warnings, in whichever order they come up. -/
theorem Assembly.perm_collisionWarnings {names names' : List String} (h : names.Perm names') :
    (collisionWarnings names).Perm (collisionWarnings names') := by
  have hrepeated := repeated_filter_eraseDups names
  have hrepeated' := repeated_filter_eraseDups names'
  have hcount : (fun name => (name, names.count name)) = fun name => (name, names'.count name) := by
    funext name
    rw [h.count_eq]
  rw [collisionWarnings, collisionWarnings, collisions_eq hrepeated, collisions_eq hrepeated',
    hcount]
  exact ((hrepeated.perm hrepeated' h).map _).map _

theorem Derives.perm (h : Derives schemas ds) (hperm : schemas.Perm others) :
    ∃ ds', Derives others ds' ∧ (schemas.zip ds).Perm (others.zip ds') := by
  obtain ⟨ds', hds', hzip⟩ := exists_zip_perm (derives_iff.1 h) hperm
  refine ⟨ds', derives_iff.2 ?_, hzip⟩
  exact forall₂_declaration_mono (hperm.map _).subset hds'

/-- The declarations in another order are reported on alike. -/
theorem Plan.perm_diagnostics (settings : Settings) {ds' : List Declaration} (h : ds.Perm ds') :
    (notesOf ds ++ warningsOf settings ds).Perm (notesOf ds' ++ warningsOf settings ds') := by
  refine (h.flatMap_right _).append (Assembly.perm_collisionWarnings (List.Perm.map _ ?_))
  rw [filesOf_eq_flatMap, filesOf_eq_flatMap]
  exact (h.flatMap_right _).append_left _

/-! ## Another document around the same schemas -/

/-- What stands in front of a place of a list and what stands behind it are related apart. -/
theorem exists_forall₂_of_append {α β : Type} {R : α → β → Prop} {before after : List α}
    {found : List β} (h : List.Forall₂ R (before ++ after) found) :
    ∃ front back, found = front ++ back ∧ List.Forall₂ R before front ∧
      List.Forall₂ R after back := by
  refine ⟨found.take before.length, found.drop before.length, (List.take_append_drop ..).symm,
    ?_, ?_⟩
  · simpa using List.forall₂_take before.length h
  · simpa using List.forall₂_drop before.length h

theorem Derives.replace {before after : List (String × Schema)} {s' : Schema} {d' : Declaration}
    {j : Journal} (h : Derives (before ++ (key, s) :: after) ds)
    (hd : Deriver.declarationIn (before ++ (key, s') :: after) key s' j = .ok d') :
    ∃ front d back, ds = front ++ d :: back ∧ front.length = before.length ∧
      Derives (before ++ (key, s') :: after) (front ++ d' :: back) := by
  obtain ⟨front, _, rfl, hbefore, hrest⟩ := exists_forall₂_of_append (derives_iff.1 h)
  obtain ⟨d, back, -, hafter, rfl⟩ := List.forall₂_cons_left_iff.1 hrest
  refine ⟨front, d, back, rfl, hbefore.length_eq.symm, .insert ?_ hbefore hafter hd⟩
  simp

theorem Derives.add {before after : List (String × Schema)} {d' : Declaration} {j : Journal}
    (h : Derives (before ++ after) ds)
    (hd : Deriver.declarationIn (before ++ (key, s) :: after) key s j = .ok d') :
    ∃ front back, ds = front ++ back ∧ front.length = before.length ∧
      Derives (before ++ (key, s) :: after) (front ++ d' :: back) := by
  obtain ⟨front, back, rfl, hbefore, hafter⟩ := exists_forall₂_of_append (derives_iff.1 h)
  refine ⟨front, back, rfl, hbefore.length_eq.symm, .insert ?_ hbefore hafter hd⟩
  simp only [List.map_append, List.map_cons]
  exact List.append_subset.2 ⟨List.subset_append_left .., fun k hk => by simp [hk]⟩

end

/-- **What the declarations of a document depend on.**  That of one schema, or its failure, depends
on the keys of the document as a set, and with more keys a declaration stays as it is.  So if a
document is derived, its schemas can be put in another order: the declarations follow it, the files
follow them, and nothing else changes but the order of what is reported.  If the schema under one
key is replaced, or one more is put anywhere, all other declarations stay as they are, as long as
the new schema has one itself. -/
theorem derivation_local :
    (∀ (schemas others : List (String × Schema)) (key : String) (s : Schema) (j j' : Journal),
      ((∀ k, k ∈ schemas.map (·.1) ↔ k ∈ others.map (·.1)) →
        Deriver.declarationIn schemas key s j = Deriver.declarationIn others key s j') ∧
      ∀ d, schemas.map (·.1) ⊆ others.map (·.1) →
        Deriver.declarationIn schemas key s j = .ok d →
          Deriver.declarationIn others key s j' = .ok d) ∧
    (∀ (t : Deriver) (schemas : List (String × Schema)) (j : Journal) (b : Block),
      ((t.derive schemas).run j).1.1 = .ok b →
        ∃ ds, Derives schemas ds ∧ b = Deriver.componentsBlock ds) ∧
    ∀ (schemas : List (String × Schema)) (ds : List Declaration), Derives schemas ds →
      (∀ others, schemas.Perm others → ∃ ds', Derives others ds' ∧
        (schemas.zip ds).Perm (others.zip ds') ∧
        ∀ (p : Planner) (j : Journal), ∃ found found' : List Diagnostic, found.Perm found' ∧
          ((p.plan schemas).run j).1.1 = .ok ((Assembly.anchorFile? p.settings).toList ++
            ds.flatMap (Plan.unitFiles p.settings)) ∧
          ((p.plan others).run j).1.1 = .ok ((Assembly.anchorFile? p.settings).toList ++
            ds'.flatMap (Plan.unitFiles p.settings)) ∧
          ((p.plan schemas).run j).2.collector = j.collector.map (· ++ found) ∧
          ((p.plan others).run j).2.collector = j.collector.map (· ++ found')) ∧
      (∀ before key s after s' d' j, schemas = before ++ (key, s) :: after →
        Deriver.declarationIn (before ++ (key, s') :: after) key s' j = .ok d' →
          ∃ front d back, ds = front ++ d :: back ∧ front.length = before.length ∧
            Derives (before ++ (key, s') :: after) (front ++ d' :: back)) ∧
      ∀ before key s after d' j, schemas = before ++ after →
        Deriver.declarationIn (before ++ (key, s) :: after) key s j = .ok d' →
          ∃ front back, ds = front ++ back ∧ front.length = before.length ∧
            Derives (before ++ (key, s) :: after) (front ++ d' :: back) := by
  refine ⟨fun schemas others key s j j' => ⟨fun h => ?_, fun d hsub hd => ?_⟩,
    fun t schemas j b h => ?_, fun schemas ds h => ⟨fun others hperm => ?_, ?_, ?_⟩⟩
  · rw [Deriver.declarationIn_eq, Deriver.declarationIn_eq]
    exact declaration_congr h key s
  · rw [Deriver.declarationIn_eq] at hd ⊢
    exact declaration_mono hsub hd
  · obtain ⟨ds, hds, heq⟩ := Deriver.exists_declarations_of_derive h
    exact ⟨ds, derives_iff.2 hds, heq⟩
  · obtain ⟨ds', h', hzip⟩ := h.perm hperm
    refine ⟨ds', h', hzip, fun p j => ⟨_, _, Plan.perm_diagnostics p.settings ?_, h.plan p j,
      h'.plan p j, h.collector_plan p j, h'.collector_plan p j⟩⟩
    have hsnd := hzip.map Prod.snd
    rwa [List.map_snd_zip h.length_eq.le, List.map_snd_zip h'.length_eq.le] at hsnd
  · rintro before key s after s' d' j rfl hd
    exact h.replace hd
  · rintro before key s after d' j rfl hd
    exact h.add hd

/-- The owner of a pet is put in front, is replaced by a list, and gets company: the pet, which
refers to it, stays as it is. -/
theorem pet_stays_as_it_is :
    let owner : Schema := { Schema.empty with types := ["object"] }
    let list : Schema := { Schema.empty with types := ["array"], items := some owner }
    let pet : Schema := { Schema.empty with
      types := ["object"]
      properties := [("owner", { Schema.empty with
        target := some (.pointer "#/components/schemas/Owner") })] }
    let d : Declaration :=
      .struct "Pet" [.stored ⟨"owner", some "Owner", none, true⟩] ["BaseModel"] (some "public")
    (∃ ds, Derives [("Owner", owner), ("Pet", pet)] ds ∧
        (("Pet", pet), d) ∈ [("Owner", owner), ("Pet", pet)].zip ds) ∧
      (∃ d', Derives [("Pet", pet), ("Owner", list)] [d, d']) ∧
      ∃ d' d'', Derives [("Pet", pet), ("Tag", list), ("Owner", owner)] [d, d', d''] := by
  intro owner list pet d
  obtain ⟨-, honce, hlocal⟩ := derivation_local
  obtain ⟨ds, h, heq⟩ := honce .fresh [("Pet", pet), ("Owner", owner)] .collecting _ rfl
  obtain ⟨d', rfl⟩ : ∃ d', ds = [d, d'] := by
    simp only [Deriver.componentsBlock, namespaceOf, Block.mk.injEq, Item.declaration.injEq,
      Declaration.enum.injEq, List.cons.injEq, true_and, and_true] at heq
    exact ⟨_, heq.symm⟩
  obtain ⟨hperm, hreplace, hadd⟩ := hlocal _ _ h
  refine ⟨?_, ?_, ?_⟩
  · obtain ⟨ds, hds, hzip, -⟩ := hperm [("Owner", owner), ("Pet", pet)] (.swap _ _ _)
    exact ⟨ds, hds, hzip.subset List.mem_cons_self⟩
  · obtain ⟨front, o, back, heq, hlength, hds⟩ :=
      hreplace [("Pet", pet)] "Owner" owner [] list _ .collecting rfl rfl
    obtain ⟨d₁, rfl⟩ := List.length_eq_one_iff.1 hlength
    obtain ⟨rfl, -, rfl⟩ : d = d₁ ∧ d' = o ∧ [] = back := by simpa using heq
    exact ⟨_, hds⟩
  · obtain ⟨front, back, heq, hlength, hds⟩ :=
      hadd [("Pet", pet)] "Tag" list [("Owner", owner)] _ .collecting rfl rfl
    obtain ⟨d₁, rfl⟩ := List.length_eq_one_iff.1 hlength
    obtain ⟨rfl, rfl⟩ : d = d₁ ∧ [d'] = back := by simpa using heq
    exact ⟨_, _, hds⟩

end TypeFiles
