/-
# Settings that can be read

`readFields_eq_ok_iff` says what a mapping of settings must hold to be read: the reading of each
field succeeds, and the settings are made of what the fields give.  What is known of a field is then
known of the settings; a root namespace is an identifier, so it is never empty.  Where the faults of
the parts are known, those of the whole are all of them in order (`Checked.both_ofFaults`).

A collection is read from the entries that are listed or found; the search for them is the only part
that can fail in another way than by faults (`Search.entries_eq_error_iff`).
-/

import TypeFiles.Assembly
import TypeFiles.Proofs.Success
import TypeFiles.Settings.Read

namespace TypeFiles

/-- A value that is taken as a text: the text itself, or its bytes. -/
inductive Spells : Value → String → Prop
  | text (s : String) : Spells (.text s) s
  | bytes (b : List UInt8) (s : String) (h : Text.decodeUtf8? b = some s) : Spells (.bytes b) s

namespace Checked

variable {α β : Type}

theorem under_eq_ok_iff {step : PathStep} {r : Checked α} {a : α} :
    under step r = .ok a ↔ r = .ok a := mapError_eq_ok_iff

/-- Two readings succeed together if each of them does. -/
theorem both_eq_ok_iff {x : Checked α} {y : Checked β} {p : α × β} :
    both x y = .ok p ↔ x = .ok p.1 ∧ y = .ok p.2 := by
  obtain ⟨a, b⟩ := p
  cases x with
  | ok x => cases y <;> simp [both]
  | error f => cases y <;> simp [both]

variable {faults others : List Fault} {a : α} {b : β}

/-- The reading of something that has these faults, and is `a` if there are none. -/
def ofFaults (faults : List Fault) (a : α) : Checked α :=
  if faults.isEmpty then .ok a else .error faults

theorem ofFaults_of_ne_nil (h : faults ≠ []) : ofFaults faults a = .error faults := by
  rw [ofFaults, if_neg (by simpa using h)]

theorem map_ofFaults (f : α → β) : (ofFaults faults a).map f = ofFaults faults (f a) := by
  unfold ofFaults
  split <;> rfl

theorem under_ofFaults (step : PathStep) :
    under step (ofFaults faults a) = ofFaults (faults.map (Fault.under step)) a := by
  cases faults <;> rfl

theorem both_ofFaults :
    both (ofFaults faults a) (ofFaults others b) = ofFaults (faults ++ others) (a, b) := by
  cases faults <;> cases others <;> simp [ofFaults, both]

/-- A list is read item by item. -/
theorem all_eq_ok_iff {read : Value → Checked α} {items : List Value} {l : List α} {n : Nat} :
    all read n items = .ok l ↔ List.Forall₂ (fun v a => read v = .ok a) items l := by
  induction items generalizing l n with
  | nil =>
    rw [all, List.forall₂_nil_left_iff]
    exact ⟨fun h => (Except.ok.inj h).symm, fun h => h ▸ rfl⟩
  | cons v items ih =>
    rw [all, map_eq_ok_iff, List.forall₂_cons_left_iff]
    constructor
    · rintro ⟨⟨a, rest⟩, h, rfl⟩
      rw [both_eq_ok_iff, under_eq_ok_iff] at h
      exact ⟨a, rest, h.1, ih.1 h.2, rfl⟩
    · rintro ⟨a, rest, ha, hrest, rfl⟩
      exact ⟨(a, rest), both_eq_ok_iff.2 ⟨under_eq_ok_iff.2 ha, ih.2 hrest⟩, rfl⟩

theorem all_eq_ok {read : Value → Checked α} {make : α → Value} (h : ∀ a, read (make a) = .ok a)
    (l : List α) (n : Nat) : all read n (l.map make) = .ok l := by
  rw [all_eq_ok_iff, List.forall₂_map_left_iff, List.forall₂_same]
  exact fun a _ => h a

end Checked

namespace Settings

variable {v : Value} {s : Settings} {name : String}

/-- A field that is not there is read as the value that stands for it. -/
theorem readField_eq {α : Type} {standIn : Value} {name : String} {default : Checked α}
    {read : Value → Checked α} (h : read standIn = default) :
    readField v name default read =
      Checked.under (.field name) (read ((v.get? name).getD standIn)) := by
  subst h
  unfold readField
  cases v.get? name <;> rfl

/-- A field is read as what stands there, or as its default. -/
theorem readField_eq_ok_iff {α : Type} {default : Checked α} {read : Value → Checked α} {a : α} :
    readField v name default read = .ok a ↔
      v.get? name = none ∧ default = .ok a ∨ ∃ x, v.get? name = some x ∧ read x = .ok a := by
  rw [readField, Checked.under_eq_ok_iff]
  cases v.get? name <;> simp

theorem readFields_eq_ok_iff : readFields v = .ok s ↔
    readField v "namespace" (.ok none) readNamespace = .ok s.rootNamespace ∧
    readField v "additional_imports" (.ok []) readImports = .ok s.additionalImports ∧
    readField v "file_extension" (.ok "py") readExtension = .ok s.fileExtension ∧
    readField v "preserve_annotations" (.ok false) readTruth = .ok s.preserveAnnotations := by
  unfold readFields
  rw [map_eq_ok_iff]
  constructor
  · rintro ⟨⟨root, imports, extension, preserve⟩, h, rfl⟩
    simpa only [Checked.both_eq_ok_iff] using h
  · rintro ⟨hroot, himports, hextension, hpreserve⟩
    refine ⟨⟨s.rootNamespace, s.additionalImports, s.fileExtension, s.preserveAnnotations⟩, ?_, rfl⟩
    simp only [Checked.both_eq_ok_iff]
    exact ⟨hroot, himports, hextension, hpreserve⟩

theorem readText_eq_ok_iff : readText v = .ok name ↔ Spells v name := by
  rw [readText, mapError_eq_ok_iff]
  cases v with
  | text t =>
    rw [Value.asText, Except.ok.injEq]
    constructor
    · rintro rfl
      exact .text t
    · rintro ⟨⟩
      rfl
  | bytes b =>
    rw [Value.asText]
    constructor
    · intro h
      cases hdecode : Text.decodeUtf8? b with
      | none =>
        rw [hdecode] at h
        cases h
      | some t =>
        rw [hdecode] at h
        obtain rfl := Except.ok.inj h
        exact .bytes b t hdecode
    · rintro (_ | ⟨_, _, h⟩)
      rw [h]
      rfl
  | _ => exact iff_of_false nofun nofun

theorem readNamespace_eq_ok_iff {root : Option String} : readNamespace v = .ok root ↔
    v = .null ∧ root = none ∨
      ∃ name, Spells v name ∧ Text.isIdentifier name = true ∧ root = some name := by
  have htext : ∀ v, (readText v >>= fun name => if Text.isIdentifier name then .ok (some name)
      else Checked.fault (.namespaceNoIdentifier name)) = .ok root ↔
        ∃ name, Spells v name ∧ Text.isIdentifier name = true ∧ root = some name := by
    intro v
    rw [bind_eq_ok_iff]
    refine exists_congr fun name => ?_
    rw [readText_eq_ok_iff]
    refine and_congr_right fun _ => ?_
    cases Text.isIdentifier name with
    | true => simp [eq_comm]
    | false => simp [Checked.fault]
  cases v with
  | null =>
    simp only [readNamespace, Except.ok.injEq, true_and]
    refine ⟨fun h => .inl h.symm, ?_⟩
    rintro (rfl | ⟨_, ⟨⟩, -⟩)
    rfl
  | _ => exact (htext _).trans (by simp)

theorem isIdentifier_of_readFields (h : readFields v = .ok s)
    (hname : s.rootNamespace = some name) : Text.isIdentifier name = true := by
  obtain ⟨hroot, -⟩ := readFields_eq_ok_iff.1 h
  rw [hname, readField_eq_ok_iff] at hroot
  rcases hroot with ⟨-, ⟨⟩⟩ | ⟨x, -, hx⟩
  rcases readNamespace_eq_ok_iff.1 hx with ⟨-, ⟨⟩⟩ | ⟨_, -, hname, ⟨⟩⟩
  exact hname

theorem read_eq_ok_iff :
    read v = .ok s ↔ (∃ entries, v = .mapping entries) ∧ readFields v = .ok s := by
  cases v with
  | mapping entries => exact (and_iff_right ⟨entries, rfl⟩).symm
  | _ => exact iff_of_false nofun nofun

/-- **The root namespace of settings that can be read is an identifier.** -/
theorem isIdentifier_of_read (h : read v = .ok s) (hname : s.rootNamespace = some name) :
    Text.isIdentifier name = true :=
  isIdentifier_of_readFields (read_eq_ok_iff.1 h).2 hname

/-- Settings that can be read do not spell the lack of a root namespace as an empty one. -/
theorem rootNamespace_ne_empty (h : read v = .ok s) : s.rootNamespace ≠ some "" := by
  intro hroot
  have hname := isIdentifier_of_read h hroot
  simp [Text.isIdentifier] at hname

theorem namespace?_of_read (h : read v = .ok s) : Assembly.namespace? s = s.rootNamespace := by
  unfold Assembly.namespace?
  cases hroot : s.rootNamespace with
  | none => rfl
  | some name =>
    have hne : name ≠ "" :=
      fun hname => rootNamespace_ne_empty h (hroot.trans (congrArg some hname))
    simp [Option.filter, hne]

end Settings

/-! ## A collection -/

namespace Search

variable {search : Search} {given found : List (Value × Value)} {f : Failure}

/-- A collection is read from what is listed, or from what is found by directions. -/
theorem entries_eq_ok_iff : search.entries given = .ok found ↔
    isDirected given = false ∧ found = given ∨
      isDirected given = true ∧ search given = .found found := by
  unfold entries
  cases isDirected given with
  | false => simp [eq_comm]
  | true => cases search given <;> simp

/-- A search with directions fails as it objects, is broken off, or is left. -/
theorem entries_eq_error_iff : search.entries given = .error f ↔ isDirected given = true ∧
    ((∃ faults, search given = .refused faults ∧ f = .rejected ⟨.collection, faults⟩) ∨
      (∃ a, search given = .broken a ∧ f = .accident a) ∨
      ∃ code, search given = .left code ∧ f = .left code) := by
  unfold entries
  cases isDirected given with
  | false => simp
  | true => cases search given <;> simp [eq_comm]

end Search

namespace DocumentSettings

variable {search : Search} {v : Value} {given : List (Value × Value)} {ds : List DocumentSettings}

/-- What is read of entries, or the rejection for its faults. -/
def collectionOf (entries : List (Value × Value)) : Except Failure (List DocumentSettings) :=
  (readCollection entries).mapError fun faults => .rejected ⟨.collection, faults⟩

theorem collectionOf_eq_ok_iff : collectionOf given = .ok ds ↔ readCollection given = .ok ds :=
  mapError_eq_ok_iff

/-- A collection whose keys all name fields is searched for and then read. -/
theorem validateCollection_eq (h : ∀ e ∈ given, namesField e.1 = true) :
    validateCollection search (.mapping given) = search.entries given >>= collectionOf := by
  unfold validateCollection
  dsimp only
  rw [if_pos (List.all_eq_true.2 h)]
  rfl

/-- A key that names no field is not looked out for. -/
theorem validateCollection_of_stray (h : ¬ ∀ e ∈ given, namesField e.1 = true) :
    validateCollection search (.mapping given) = .error (.accident .wrongType) := by
  unfold validateCollection
  dsimp only
  rw [if_neg (mt List.all_eq_true.1 h)]

/-- **A collection that is accepted** is read from the entries that are listed or found. -/
theorem validateCollection_eq_ok_iff : validateCollection search v = .ok ds ↔
    ∃ given found, v = .mapping given ∧ (∀ e ∈ given, namesField e.1 = true) ∧
      search.entries given = .ok found ∧ readCollection found = .ok ds := by
  constructor
  · intro h
    cases v with
    | mapping given =>
      by_cases hnames : ∀ e ∈ given, namesField e.1 = true
      · rw [validateCollection_eq hnames] at h
        obtain ⟨found, hfound, hread⟩ := bind_eq_ok_iff.1 h
        exact ⟨given, found, rfl, hnames, hfound, collectionOf_eq_ok_iff.1 hread⟩
      · rw [validateCollection_of_stray hnames] at h
        cases h
    | _ => cases h
  · rintro ⟨given, found, rfl, hnames, hfound, hread⟩
    rw [validateCollection_eq hnames]
    exact bind_eq_ok_iff.2 ⟨found, hfound, collectionOf_eq_ok_iff.2 hread⟩

/-- A mapping with nothing but a list of documents is read as that list. -/
theorem readCollection_documents (list : Value) :
    readCollection [(.text "documents", list)] =
      Checked.under (.field "documents") (readDocuments list) := by
  have hkey : ["documents"].find? isDocumentsKey = some "documents" := by
    decide +kernel
  have hunknown : unknownKeys ["documents"] = [] := by
    decide +kernel
  unfold readCollection
  dsimp only [List.map, Value.shown]
  rw [hkey, hunknown]
  change (Checked.both (Checked.under _ (readDocuments list)) (.ok PUnit.unit)).map _ = _
  cases readDocuments list <;> rfl

/-- There is nothing to search for beside a list of documents. -/
theorem validateCollection_documents (search : Search) (list : Value) :
    validateCollection search (.ofFields [("documents", list)]) =
      collectionOf [(.text "documents", list)] := by
  have hnames : ∀ e ∈ [(Value.text "documents", list)], namesField e.1 = true := by
    rw [List.forall_mem_singleton]
    rfl
  have hentries : search.entries [(.text "documents", list)] = .ok [(.text "documents", list)] :=
    Search.entries_eq_ok_iff.2 (.inl ⟨rfl, rfl⟩)
  rw [Value.ofFields, List.map_singleton, validateCollection_eq hnames, hentries]
  rfl

end DocumentSettings
end TypeFiles
