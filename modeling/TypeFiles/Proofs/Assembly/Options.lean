/-
# What the options of a run decide

Four options are read when files are assembled, and each field of a file depends on some of them
only:

| field of a unit file | decided by |
| --- | --- |
| name | the name of the unit, the root namespace and the file extension |
| top comment | nothing |
| imports | the additional imports, behind the built-in ones |
| block | the unit, and whether annotations are preserved |

The anchor is there if there is a root namespace; it depends on the file extension too, and on
nothing else.

`options_orthogonal` says what the files are, and then compares two runs over the same units whose
settings differ in one of the options.  Where they differ in whether annotations are preserved, the
block with the remarks and the block without them are as far apart as the unit has wrappers: that
many remarks are taken off the one (`peeled`), and the other one is left.
-/

import TypeFiles.Proofs.Plan.Files
import TypeFiles.Proofs.Splitting.Flattening

namespace TypeFiles

open Declaration Splitting

/-- A unit that comes of a splitting. -/
def FileUnit.IsSplit (u : FileUnit) : Prop := ∃ (b : Block) (j : Journal), u ∈ (b.split.run j).1

/-- A declaration with a number of remarks taken off; `none` if it has fewer. -/
def Declaration.peeled : Nat → Declaration → Option Declaration
  | 0, d => some d
  | n + 1, .annotated _ d => d.peeled n
  | _ + 1, _ => none

/-- The remarks that were put around a declaration can be taken off again. -/
theorem Declaration.peeled_under (rs : List Remark) (d : Declaration) :
    (d.under rs).peeled rs.length = some d := by
  induction rs with
  | nil => rfl
  | cons r rs ih => exact ih

/-- **A unit that comes of a splitting is that of a visited node.** -/
theorem FileUnit.IsSplit.exists_visit {u : FileUnit} (h : u.IsSplit) :
    ∃ v : Visit, u = v.unit [] := by
  obtain ⟨⟨item, comment⟩, j, hu⟩ := h
  cases item with
  | declaration d =>
    have hresult : ((Block.mk (.declaration d) comment).split.run j).1 = d.fileUnits [] :=
      d.gives_split.result j
    rw [hresult] at hu
    obtain ⟨v, -, rfl⟩ := List.mem_map.1 hu
    exact ⟨v, rfl⟩
  | expression remarks source =>
    have hgives : Reporting.Gives (Block.mk (.expression remarks source) comment).split [] _ :=
      (gives_reportDrop [] .expression none).bind_pure (Reporting.gives_pure [])
    rw [hgives.result] at hu
    cases hu

namespace GeneratedFile

/-- The file of a unit, as the settings ask for it. -/
structure IsFileOf (s : Settings) (u : FileUnit) (f : GeneratedFile) : Prop where
  name : f.name = s.rootNamespace.elim "" (· ++ "_") ++ u.name ++ "." ++ s.fileExtension
  topComment : f.topComment = "Generated by apisplit, do not modify."
  imports : f.imports = ["typing", "pydantic"] ++ s.additionalImports
  blocks : ∃ d, f.blocks = [⟨.declaration d, none⟩] ∧
    .declaration d = if s.preserveAnnotations then u.annotatedItem else u.block.item
  isNamespace : f.isNamespace = false

/-- The one declaration in a file, less a number of remarks, is the one declaration in another. -/
def PeelsTo (n : Nat) (f g : GeneratedFile) : Prop :=
  ∃ d e, f.blocks = [⟨.declaration d, none⟩] ∧ g.blocks = [⟨.declaration e, none⟩] ∧
    d.peeled n = some e

end GeneratedFile

namespace Assembly

open GeneratedFile

/-- The files of units among those of a run. -/
def unitFiles (files : List GeneratedFile) : List GeneratedFile := files.filter (!·.isNamespace)

variable (s : Settings) (us : List FileUnit)

theorem unitFiles_files : unitFiles (files s us) = us.map (unitFile s (header s)) := by
  have hanchor : (anchorFile? s).toList.filter (!·.isNamespace) = [] := by
    unfold anchorFile?
    cases namespace? s <;> rfl
  rw [unitFiles, files, List.filter_append, hanchor, List.nil_append, List.filter_eq_self]
  intro f hf
  obtain ⟨u, -, rfl⟩ := List.mem_map.1 hf
  rfl

/-- The block of a unit, with the remarks put back or without them. -/
theorem block_unit (v : Visit) : block s (v.unit []) =
    ⟨.declaration (if s.preserveAnnotations then v.putBack else v.node), none⟩ := by
  have hback := v.annotatedItem_unit
  unfold block
  rw [hback]
  cases s.preserveAnnotations with
  | false => rfl
  | true =>
    cases hwrappers : (v.unit []).wrappers with
    | nil =>
      -- Without wrappers nothing is put back, and the node is what it would be put back to.
      rw [FileUnit.annotatedItem, hwrappers] at hback
      exact congrArg (Block.mk · none) hback
    | cons w rest => rfl

variable {s us}

/-- **One file for each unit**, with the fields that the settings ask for. -/
theorem isFileOf_unitFile (hs : namespace? s = s.rootNamespace) {u : FileUnit} (hu : u.IsSplit) :
    IsFileOf s u (unitFile s (header s) u) := by
  obtain ⟨w, rfl⟩ := hu.exists_visit
  have hblock := block_unit s w
  exact {
    name := Plan.fileName_eq hs _
    topComment := rfl
    imports := rfl
    blocks := by
      refine ⟨_, congrArg (fun b => [b]) hblock, ?_⟩
      rw [w.annotatedItem_unit, apply_ite Item.declaration]
      rfl
    isNamespace := rfl }

/-- **As many remarks as a unit has wrappers** lie between its file with them and without them. -/
theorem peelsTo_unitFile {t : Settings} (hs : s.preserveAnnotations = true)
    (ht : t.preserveAnnotations = false) {u : FileUnit} (hu : u.IsSplit) :
    PeelsTo u.wrappers.length (unitFile s (header s) u) (unitFile t (header t) u) := by
  obtain ⟨w, rfl⟩ := hu.exists_visit
  have hwith := block_unit s w
  have hwithout := block_unit t w
  rw [hs, if_pos rfl] at hwith
  rw [ht, if_neg Bool.false_ne_true] at hwithout
  refine ⟨_, _, congrArg (fun b => [b]) hwith, congrArg (fun b => [b]) hwithout, ?_⟩
  have hpeeled := peeled_under (w.wrappers.map (·.remark)) w.node
  rw [List.length_map] at hpeeled
  exact hpeeled

/-- Two runs over the same units are compared file by file. -/
theorem forall₂_files {s t : Settings} {R : GeneratedFile → GeneratedFile → Prop}
    (hanchor : List.Forall₂ R (anchorFile? s).toList (anchorFile? t).toList)
    (hunit : ∀ u, R (unitFile s (header s) u) (unitFile t (header t) u)) :
    List.Forall₂ R (files s us) (files t us) := by
  refine List.rel_append hanchor ?_
  rw [List.forall₂_map_left_iff, List.forall₂_map_right_iff, List.forall₂_same]
  exact fun u _ => hunit u

end Assembly

open GeneratedFile Assembly

/-- **Each option decides what it is there for, and nothing else.**  The files are that of the
namespace, if there is one, and then one for each unit in order.  Two runs over the same units give
files that differ in their blocks only, if their settings differ in whether annotations are
preserved; then a block with annotations has as many remarks more as the unit has wrappers.  They
give unit files that differ in their names only, if the settings differ in the namespace or the
extension; and files that differ in their imports only, if the settings do. -/
theorem options_orthogonal {v : Value} {s : Settings} (hs : Settings.read v = .ok s)
    {us : List FileUnit} (hus : ∀ u ∈ us, u.IsSplit) (j : Journal) :
    (∃ files, ((assemble s us).run j).1 =
        s.rootNamespace.toList.map (Plan.namespaceFile s) ++ files ∧
      List.Forall₂ (IsFileOf s) us files) ∧
    ∀ (w : Value) (t : Settings) (k : Journal), Settings.read w = .ok t →
      let files := ((assemble s us).run j).1
      let others := ((assemble t us).run k).1
      (t = { s with preserveAnnotations := t.preserveAnnotations } →
        List.Forall₂ (fun f g => g = { f with blocks := g.blocks }) files others ∧
        (s.preserveAnnotations = true → t.preserveAnnotations = false →
          List.Forall₂ (fun u pair => PeelsTo u.wrappers.length pair.1 pair.2) us
            ((unitFiles files).zip (unitFiles others)))) ∧
      (t = { s with rootNamespace := t.rootNamespace, fileExtension := t.fileExtension } →
        List.Forall₂ (fun f g => g = { f with name := g.name })
          (unitFiles files) (unitFiles others)) ∧
      (t = { s with additionalImports := t.additionalImports } →
        List.Forall₂ (fun f g => g = { f with imports := g.imports }) files others) := by
  have hresult : ∀ (t : Settings) (k : Journal), ((assemble t us).run k).1 = files t us :=
    fun t k => (gives_assemble t us).result k
  rw [hresult s j]
  constructor
  · refine ⟨us.map (unitFile s (header s)), ?_, ?_⟩
    · rw [files, Plan.anchorFile?_toList (Settings.namespace?_of_read hs)]
    · rw [List.forall₂_map_right_iff, List.forall₂_same]
      exact fun u hu => isFileOf_unitFile (Settings.namespace?_of_read hs) (hus u hu)
  intro w t k _
  rw [hresult t k]
  dsimp only
  rw [unitFiles_files, unitFiles_files]
  obtain ⟨root, imports, extension, preserve⟩ := t
  refine ⟨fun h => ⟨?_, fun hwith hwithout => ?_⟩, fun h => ?_, fun h => ?_⟩
  · obtain ⟨rfl, rfl, rfl, -⟩ := Settings.mk.inj h
    exact forall₂_files (List.forall₂_same.2 fun f _ => rfl) fun u => rfl
  · rw [List.zip_map', List.forall₂_map_right_iff, List.forall₂_same]
    exact fun u hu => peelsTo_unitFile hwith hwithout (hus u hu)
  · obtain ⟨-, rfl, -, rfl⟩ := Settings.mk.inj h
    rw [List.forall₂_map_left_iff, List.forall₂_map_right_iff, List.forall₂_same]
    exact fun u _ => rfl
  · obtain ⟨rfl, -, rfl, rfl⟩ := Settings.mk.inj h
    exact forall₂_files (List.forall₂_same.2 fun f _ => rfl) fun u => rfl

/-- A deprecated and commented struct has two remarks more in the one run than in the other, and all
else is the same. -/
theorem two_remarks_peeled :
    let pet : Declaration := .annotated (.deprecation none none)
      (.annotated (.comment (.text "A pet.")) (.struct "Pet" [] [] defaultAccess))
    let us := (pet.split.run .uncollected).1
    let files := ((assemble ⟨some "Api", [], "py", true⟩ us).run .uncollected).1
    let others := ((assemble ⟨some "Api", [], "py", false⟩ us).run .uncollected).1
    (∃ v, Settings.read v = .ok ⟨some "Api", [], "py", true⟩) ∧
      (∃ w, Settings.read w = .ok ⟨some "Api", [], "py", false⟩) ∧ (∀ u ∈ us, u.IsSplit) ∧
      List.Forall₂ (fun f g => g = { f with blocks := g.blocks }) files others ∧
      ∃ f g, unitFiles files = [f] ∧ unitFiles others = [g] ∧ PeelsTo 2 f g := by
  intro pet us files others
  have hs : Settings.read (.mapping [(.text "namespace", .text "Api"),
      (.text "preserve_annotations", .bool true)]) = .ok ⟨some "Api", [], "py", true⟩ := rfl
  have ht : Settings.read (.mapping [(.text "namespace", .text "Api")]) =
      .ok ⟨some "Api", [], "py", false⟩ := rfl
  have hus : ∀ u ∈ us, u.IsSplit := fun u hu => ⟨⟨.declaration pet, none⟩, .uncollected, hu⟩
  obtain ⟨hblocks, hpeels⟩ :=
    ((options_orthogonal hs hus .uncollected).2 _ _ .uncollected ht).1 rfl
  obtain ⟨pair, rest, hpair, -, hzip⟩ := List.forall₂_cons_left_iff.1 (hpeels rfl rfl)
  obtain ⟨rfl, rfl⟩ := List.cons.inj hzip
  exact ⟨⟨_, hs⟩, ⟨_, ht⟩, hus, hblocks, _, _, rfl, rfl, hpair⟩

end TypeFiles
