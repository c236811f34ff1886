/-
# Settings in normal form

What is read is not always what is written: a truth value may be written as a word, an extension
with dots in front of it, a document in a mapping with fields that mean nothing.  Settings that were
read are in a normal form, and written out as the fields they consist of they are read as themselves
(`validated_normal`).  So reading does all its work in the first round.

| field | in normal form |
| --- | --- |
| root namespace | none, or an identifier |
| imports | the texts that were listed, in their order and as often |
| extension | not empty, and without a dot in front |

Conversely, where every field is of the type it is meant to be, there are two reasons to be refused:
a root namespace that is no identifier, and an extension of nothing but dots.

The documents of a collection are those that it lists; if it has directions for a search, they are
those that the search finds.
-/

import Mathlib.Data.List.TakeWhile
import TypeFiles.Proofs.Settings.Reading

namespace TypeFiles

namespace Settings

/-- Settings as the fields that say them. -/
def fields (s : Settings) : List (String × Value) :=
  [("namespace", s.rootNamespace.elim .null .text),
    ("additional_imports", .list (s.additionalImports.map .text)),
    ("file_extension", .text s.fileExtension),
    ("preserve_annotations", .bool s.preserveAnnotations)]

/-- Settings as a mapping of their fields. -/
def value (s : Settings) : Value := .ofFields s.fields

/-- Settings that say everything in one way. -/
structure IsNormal (s : Settings) : Prop where
  isIdentifier : ∀ name, s.rootNamespace = some name → Text.isIdentifier name = true
  rootNamespace : s.rootNamespace ≠ some ""
  extension : s.fileExtension ≠ ""
  noDot : s.fileExtension.toList.head? ≠ some '.'

/-- The imports are the texts that the field lists, one by one, or none if there is no field. -/
inductive KeepsImports (v : Value) : List String → Prop
  | absent (h : v.get? "additional_imports" = none) : KeepsImports v []
  | listed (list : Value) (items : List Value) (imports : List String)
      (h : v.get? "additional_imports" = some list) (hitems : list.asItems? = some items)
      (hspelled : List.Forall₂ Spells items imports) : KeepsImports v imports

/-- A mapping in which every field that is there has the type it is meant to have. -/
structure HasFieldTypes (v : Value) : Prop where
  mapping : ∃ entries, v = .mapping entries
  rootNamespace : ∀ x, v.get? "namespace" = some x → x = .null ∨ ∃ name, x = .text name
  additionalImports : ∀ x, v.get? "additional_imports" = some x →
    ∃ imports : List String, x = .list (imports.map .text)
  fileExtension : ∀ x, v.get? "file_extension" = some x → ∃ extension, x = .text extension
  preserveAnnotations : ∀ x, v.get? "preserve_annotations" = some x → ∃ b, x = .bool b

variable {v : Value} {s : Settings}

/-! ## The single fields -/

theorem readImports_eq_ok_iff {imports : List String} : readImports v = .ok imports ↔
    ∃ items, v.asItems? = some items ∧ List.Forall₂ Spells items imports := by
  unfold readImports
  cases v.asItems? with
  | none => simp [Checked.fault]
  | some items => simp [Checked.all_eq_ok_iff, readText_eq_ok_iff]

theorem readExtension_eq_ok_iff {extension : String} : readExtension v = .ok extension ↔
    ∃ given, Spells v given ∧ extension ≠ "" ∧
      given.toList.dropWhile (fun c => c == '.') = extension.toList := by
  unfold readExtension
  rw [bind_eq_ok_iff]
  refine exists_congr fun given => ?_
  rw [readText_eq_ok_iff]
  refine and_congr_right fun _ => ?_
  dsimp only
  generalize given.toList.dropWhile (fun c => c == '.') = bare
  rw [Ne, ← String.toList_eq_nil_iff]
  cases bare with
  | nil =>
    refine iff_of_false nofun ?_
    rintro ⟨hne, hnil⟩
    exact hne hnil.symm
  | cons c rest =>
    rw [List.isEmpty_cons, if_neg Bool.false_ne_true, Except.ok.injEq]
    constructor
    · rintro rfl
      simp
    · rintro ⟨-, h⟩
      rw [h, String.ofList_toList]

/-! ## What was read -/

/-- **Settings that are read are normal**, whatever they are read from. -/
theorem isNormal_of_readFields (h : readFields v = .ok s) : s.IsNormal := by
  obtain ⟨-, -, hextension, -⟩ := readFields_eq_ok_iff.1 h
  have hbare : s.fileExtension ≠ "" ∧ s.fileExtension.toList.head? ≠ some '.' := by
    rcases readField_eq_ok_iff.1 hextension with ⟨-, hpy⟩ | ⟨x, -, hx⟩
    · rw [← Except.ok.inj hpy]
      exact ⟨by decide, by decide⟩
    · obtain ⟨given, -, hne, hdrop⟩ := readExtension_eq_ok_iff.1 hx
      refine ⟨hne, fun hdot => ?_⟩
      rw [← hdrop] at hdot
      have := List.head?_dropWhile_not (fun c => c == '.') given.toList
      rw [hdot] at this
      simp at this
  exact {
    isIdentifier := fun _ => isIdentifier_of_readFields h
    rootNamespace := fun hroot => absurd (isIdentifier_of_readFields h hroot) (by decide)
    extension := hbare.1
    noDot := hbare.2 }

theorem keepsImports_of_readFields (h : readFields v = .ok s) :
    KeepsImports v s.additionalImports := by
  obtain ⟨-, himports, -, -⟩ := readFields_eq_ok_iff.1 h
  rcases readField_eq_ok_iff.1 himports with ⟨habsent, hnone⟩ | ⟨list, hlist, hread⟩
  · rw [← Except.ok.inj hnone]
    exact .absent habsent
  · obtain ⟨items, hitems, hspelled⟩ := readImports_eq_ok_iff.1 hread
    exact .listed list items _ hlist hitems hspelled

/-- **Normal settings are read from their own fields**, and from more. -/
theorem readFields_fields (h : s.IsNormal) (more : List (String × Value)) :
    readFields (.ofFields (s.fields ++ more)) = .ok s := by
  have hnamespace : readNamespace (s.rootNamespace.elim .null .text) = .ok s.rootNamespace := by
    rw [readNamespace_eq_ok_iff]
    cases hroot : s.rootNamespace with
    | none => exact .inl ⟨rfl, rfl⟩
    | some name => exact .inr ⟨name, .text name, h.isIdentifier name hroot, rfl⟩
  have himports :
      readImports (.list (s.additionalImports.map .text)) = .ok s.additionalImports := by
    rw [readImports_eq_ok_iff]
    refine ⟨_, rfl, ?_⟩
    rw [List.forall₂_map_left_iff, List.forall₂_same]
    exact fun text _ => .text text
  have hextension : readExtension (.text s.fileExtension) = .ok s.fileExtension := by
    rw [readExtension_eq_ok_iff]
    refine ⟨_, .text _, h.extension, ?_⟩
    cases hchars : s.fileExtension.toList with
    | nil => rfl
    | cons c rest =>
      have hc : (c == '.') = false := by
        have := h.noDot
        rw [hchars] at this
        simpa using this
      rw [List.dropWhile_cons, hc, if_neg Bool.false_ne_true]
  rw [readFields_eq_ok_iff]
  simp only [readField_eq_ok_iff]
  exact ⟨.inr ⟨_, rfl, hnamespace⟩, .inr ⟨_, rfl, himports⟩, .inr ⟨_, rfl, hextension⟩,
    .inr ⟨_, rfl, rfl⟩⟩

/-! ## What is refused -/

/-- The root namespace is a text, but no identifier. -/
def HasStrayNamespace (v : Value) : Prop :=
  ∃ name, v.get? "namespace" = some (.text name) ∧ Text.isIdentifier name = false

/-- The extension is a text of nothing but dots, or of nothing at all. -/
def HasOnlyDots (v : Value) : Prop :=
  ∃ extension, v.get? "file_extension" = some (.text extension) ∧ ∀ c ∈ extension.toList, c = '.'

theorem exists_namespace_iff (h : HasFieldTypes v) :
    (∃ root, readField v "namespace" (.ok none) readNamespace = .ok root) ↔
      ¬ HasStrayNamespace v := by
  simp only [readField_eq_ok_iff, readNamespace_eq_ok_iff]
  constructor
  · rintro ⟨root, ⟨hnone, -⟩ | ⟨x, hx, hread⟩⟩ ⟨name, hname, hstray⟩
    · rw [hnone] at hname
      cases hname
    · obtain rfl := Option.some.inj (hx.symm.trans hname)
      rcases hread with ⟨⟨⟩, -⟩ | ⟨_, ⟨⟩, hname, -⟩
      rw [hstray] at hname
      cases hname
  · intro hfits
    cases hx : v.get? "namespace" with
    | none => exact ⟨none, .inl ⟨rfl, rfl⟩⟩
    | some x =>
      rcases h.rootNamespace x hx with rfl | ⟨name, rfl⟩
      · exact ⟨none, .inr ⟨_, rfl, .inl ⟨rfl, rfl⟩⟩⟩
      · have hname : Text.isIdentifier name = true :=
          Bool.of_not_eq_false fun hstray => hfits ⟨name, hx, hstray⟩
        exact ⟨some name, .inr ⟨_, rfl, .inr ⟨name, .text name, hname, rfl⟩⟩⟩

theorem exists_extension_iff (h : HasFieldTypes v) :
    (∃ extension, readField v "file_extension" (.ok "py") readExtension = .ok extension) ↔
      ¬ HasOnlyDots v := by
  simp only [readField_eq_ok_iff, readExtension_eq_ok_iff]
  constructor
  · rintro ⟨extension, ⟨hnone, -⟩ | ⟨x, hx, given, hspelled, hne, hdrop⟩⟩ ⟨dots, hdots, hall⟩
    · rw [hnone] at hdots
      cases hdots
    · obtain rfl := Option.some.inj (hx.symm.trans hdots)
      cases hspelled
      rw [List.dropWhile_eq_nil_iff.2 (by simpa using hall)] at hdrop
      exact hne (String.toList_eq_nil_iff.1 hdrop.symm)
  · intro hfits
    cases hx : v.get? "file_extension" with
    | none => exact ⟨_, .inl ⟨rfl, rfl⟩⟩
    | some x =>
      obtain ⟨given, rfl⟩ := h.fileExtension x hx
      refine ⟨String.ofList (given.toList.dropWhile fun c => c == '.'),
        .inr ⟨_, rfl, given, .text given, fun hempty => hfits ⟨given, hx, ?_⟩,
          String.toList_ofList.symm⟩⟩
      rw [← String.toList_eq_nil_iff, String.toList_ofList, List.dropWhile_eq_nil_iff] at hempty
      simpa using hempty

/-- **Where the types are right, there are two reasons to be refused.** -/
theorem exists_readFields_iff (h : HasFieldTypes v) :
    (∃ s, readFields v = .ok s) ↔ ¬ (HasStrayNamespace v ∨ HasOnlyDots v) := by
  have himports : ∃ imports,
      readField v "additional_imports" (.ok []) readImports = .ok imports := by
    simp only [readField_eq_ok_iff, readImports_eq_ok_iff]
    cases hx : v.get? "additional_imports" with
    | none => exact ⟨[], .inl ⟨rfl, rfl⟩⟩
    | some x =>
      obtain ⟨imports, rfl⟩ := h.additionalImports x hx
      refine ⟨imports, .inr ⟨_, rfl, _, rfl, ?_⟩⟩
      rw [List.forall₂_map_left_iff, List.forall₂_same]
      exact fun text _ => .text text
  have hpreserve : ∃ preserve,
      readField v "preserve_annotations" (.ok false) readTruth = .ok preserve := by
    simp only [readField_eq_ok_iff]
    cases hx : v.get? "preserve_annotations" with
    | none => exact ⟨false, .inl ⟨rfl, rfl⟩⟩
    | some x =>
      obtain ⟨preserve, rfl⟩ := h.preserveAnnotations x hx
      exact ⟨preserve, .inr ⟨_, rfl, rfl⟩⟩
  rw [not_or, ← exists_namespace_iff h, ← exists_extension_iff h]
  constructor
  · rintro ⟨s, hs⟩
    obtain ⟨hroot, -, hextension, -⟩ := readFields_eq_ok_iff.1 hs
    exact ⟨⟨_, hroot⟩, ⟨_, hextension⟩⟩
  · rintro ⟨⟨root, hroot⟩, ⟨extension, hextension⟩⟩
    obtain ⟨imports, himports⟩ := himports
    obtain ⟨preserve, hpreserve⟩ := hpreserve
    exact ⟨⟨root, imports, extension, preserve⟩,
      readFields_eq_ok_iff.2 ⟨hroot, himports, hextension, hpreserve⟩⟩

theorem validate_eq_rejected_iff : (∃ faults, validate v = .error (.rejected ⟨.run, faults⟩)) ↔
    ∀ s, validate v ≠ .ok s := by
  unfold validate
  cases read v with
  | ok s => exact iff_of_false nofun fun h => h s rfl
  | error faults => exact iff_of_true ⟨faults, rfl⟩ nofun

end Settings

/-! ## Documents -/

namespace DocumentSettings

/-- The settings of a document as the fields that say them. -/
def fields (d : DocumentSettings) : List (String × Value) :=
  d.settings.fields ++ [("source", .text d.source)]

/-- The settings of a document as a mapping of their fields. -/
def value (d : DocumentSettings) : Value := .ofFields d.fields

/-- The settings of documents as a collection. -/
def collection (ds : List DocumentSettings) : Value :=
  .ofFields [("documents", .list (ds.map value))]

variable {search : Search} {v : Value} {entries : List (Value × Value)} {d : DocumentSettings}
  {ds : List DocumentSettings}

theorem read_eq_ok_iff : read v = .ok d ↔ (∃ entries, v = .mapping entries) ∧
    Settings.readFields v = .ok d.settings ∧
      Settings.readField v "source" (Checked.fault .missing) Settings.readText = .ok d.source := by
  cases v with
  | mapping entries =>
    rw [read, map_eq_ok_iff]
    constructor
    · rintro ⟨p, hp, rfl⟩
      exact ⟨⟨entries, rfl⟩, Checked.both_eq_ok_iff.1 hp⟩
    · rintro ⟨-, hp⟩
      exact ⟨(d.settings, d.source), Checked.both_eq_ok_iff.2 hp, rfl⟩
  | _ => exact iff_of_false nofun nofun

theorem isNormal_of_read (h : read v = .ok d) : d.settings.IsNormal :=
  Settings.isNormal_of_readFields (read_eq_ok_iff.1 h).2.1

theorem read_value (h : d.settings.IsNormal) : read d.value = .ok d := by
  refine read_eq_ok_iff.2 ⟨⟨_, rfl⟩, Settings.readFields_fields h _, ?_⟩
  exact Settings.readField_eq_ok_iff.2 (.inr ⟨.text d.source, rfl, rfl⟩)

/-- The documents of a collection stand in a list under a key that names them. -/
theorem exists_items_of_readCollection (h : readCollection entries = .ok ds) :
    ∃ key list items, isDocumentsKey key = true ∧
      (Value.mapping entries).get? key = some list ∧ list.asItems? = some items ∧
      List.Forall₂ (fun item d => read item = .ok d) items ds := by
  obtain ⟨p, hp, rfl⟩ := map_eq_ok_iff.1 h
  rw [Checked.both_eq_ok_iff, Checked.under_eq_ok_iff] at hp
  obtain ⟨hdocuments, -⟩ := hp
  split at hdocuments
  · rename_i list hlist
    obtain ⟨key, hkey, hget⟩ := Option.bind_eq_some_iff.1 hlist
    refine ⟨key, list, ?_⟩
    unfold readDocuments at hdocuments
    split at hdocuments
    · rename_i items hitems
      exact ⟨items, List.find?_some hkey, hget, hitems, Checked.all_eq_ok_iff.1 hdocuments⟩
    · cases hdocuments
  · cases hdocuments

theorem validateCollection_collection (search : Search) (h : ∀ d ∈ ds, d.settings.IsNormal) :
    validateCollection search (collection ds) = .ok ds := by
  rw [collection, validateCollection_documents, collectionOf_eq_ok_iff, readCollection_documents,
    Checked.under_eq_ok_iff]
  refine Checked.all_eq_ok_iff.2 ?_
  rw [List.forall₂_map_left_iff, List.forall₂_same]
  exact fun d hd => read_value (h d hd)

end DocumentSettings

open Settings DocumentSettings

/-- **Settings that are accepted are in normal form.**  Whatever they are read from, their root
namespace is an identifier if there is one, their extension is neither empty nor starts with a dot,
their imports are those that were listed, and their fields are accepted as the same settings; all of
this holds of a run, of a document and of every document of a collection, whatever is found for one
that has directions.  A mapping whose fields have the types they are meant to have is refused
exactly for a root namespace that is no identifier, or an extension that is nothing but dots. -/
theorem validated_normal (search : Search) (v : Value) :
    (∀ s, Settings.validate v = .ok s →
      s.IsNormal ∧ KeepsImports v s.additionalImports ∧ Settings.validate s.value = .ok s) ∧
    (∀ d, DocumentSettings.validate v = .ok d →
      d.settings.IsNormal ∧ KeepsImports v d.settings.additionalImports ∧
        DocumentSettings.validate d.value = .ok d) ∧
    (∀ ds, validateCollection search v = .ok ds →
      (∃ given entries, v = .mapping given ∧ search.entries given = .ok entries ∧
        ∃ key list items, isDocumentsKey key = true ∧
          (Value.mapping entries).get? key = some list ∧ list.asItems? = some items ∧
          List.Forall₂ (fun item d =>
            d.settings.IsNormal ∧ KeepsImports item d.settings.additionalImports) items ds) ∧
        validateCollection search (collection ds) = .ok ds) ∧
    (HasFieldTypes v →
      ((∃ faults, Settings.validate v = .error (.rejected ⟨.run, faults⟩)) ↔
        HasStrayNamespace v ∨ HasOnlyDots v)) := by
  refine ⟨?_, ?_, ?_, ?_⟩
  · intro s h
    obtain ⟨-, hread⟩ := Settings.read_eq_ok_iff.1 (mapError_eq_ok_iff.1 h)
    have hnormal := isNormal_of_readFields hread
    have hagain : readFields s.value = .ok s := by
      simpa [Settings.value] using readFields_fields hnormal []
    exact ⟨hnormal, keepsImports_of_readFields hread,
      mapError_eq_ok_iff.2 (Settings.read_eq_ok_iff.2 ⟨⟨_, rfl⟩, hagain⟩)⟩
  · intro d h
    have hread : DocumentSettings.read v = .ok d := mapError_eq_ok_iff.1 h
    have hnormal := isNormal_of_read hread
    exact ⟨hnormal, keepsImports_of_readFields (read_eq_ok_iff.1 hread).2.1,
      mapError_eq_ok_iff.2 (read_value hnormal)⟩
  · intro ds h
    obtain ⟨given, entries, hv, -, hentries, hcollection⟩ := validateCollection_eq_ok_iff.1 h
    obtain ⟨key, list, items, hkey, hlist, hitems, hread⟩ :=
      exists_items_of_readCollection hcollection
    refine ⟨⟨given, entries, hv, hentries, key, list, items, hkey, hlist, hitems,
      hread.imp fun item d hd =>
        ⟨isNormal_of_read hd, keepsImports_of_readFields (read_eq_ok_iff.1 hd).2.1⟩⟩,
      validateCollection_collection search fun d hd => ?_⟩
    obtain ⟨item, -, hitem⟩ := exists_mem_zip_of_mem hread.flip hd
    exact isNormal_of_read hitem
  · intro h
    rw [Settings.validate_eq_rejected_iff, ← not_iff_not, ← exists_readFields_iff h]
    simp [Settings.validate, mapError_eq_ok_iff, Settings.read_eq_ok_iff, h.mapping]

/-- Dots in front of an extension and a truth value as a word are gone after the first reading; the
imports stay as they were listed. -/
theorem dotted_settings_normal :
    let v : Value := .ofFields [("namespace", .text "Api"),
      ("additional_imports", .list [.text "b", .text "a", .text "b"]),
      ("file_extension", .text "..swift"), ("preserve_annotations", .text "Yes")]
    let s : Settings := ⟨some "Api", ["b", "a", "b"], "swift", true⟩
    Settings.validate v = .ok s ∧ s.IsNormal ∧ KeepsImports v s.additionalImports ∧
      Settings.validate s.value = .ok s := by
  intro v s
  have h : Settings.validate v = .ok s :=
    mapError_eq_ok_iff.2 (by decide +kernel)
  exact ⟨h, (validated_normal Search.heedless v).1 s h⟩

end TypeFiles
