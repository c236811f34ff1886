/-
# Settings that are not found

A collection of documents is looked for at the path that is given, or at the first of three places
at which there is something.  One place decides, and nothing else is looked at.

| outcome | the place that decides |
| --- | --- |
| documents | holds a collection that fits |
| a rejection | holds a collection that does not fit |
| a configuration problem | is none, is not read, or lists no documents |
| an accident, or an exit | is met by a `Mishap` |

The first three are what a run is promised.  They come about exactly if there is no mishap
(`settings_foreseen_iff`).  Four things are not looked out for: that the file is misread, that the
tools of a project cannot be searched, that a key of a collection names no field, and that the
search which a collection directs is broken off or left (`latin_settings_escape`).
-/

import TypeFiles.Directory
import TypeFiles.Proofs.Loading.Files
import TypeFiles.Proofs.Loading.Limits
import TypeFiles.Proofs.Settings.Reading
import TypeFiles.Settings.Discovery

namespace TypeFiles

/-- A failure to find settings that is looked out for. -/
inductive Failure.IsOfSettings : Failure → Prop
  | configuration (message path : String) :
      IsOfSettings (.problem (.configuration message (some path) none))
  | rejected (faults : List Fault) : IsOfSettings (.rejected ⟨.collection, faults⟩)

namespace Discovery

/-- What the file at a place holds: settings only, or a project with settings among others. -/
inductive Role where
  | settings
  | project
  deriving DecidableEq, Repr

/-- The places at which settings are looked for, in order: some files, and that of the project. -/
def placesOf (names : List String) : List (Role × Path) :=
  names.map (fun name => (.settings, pathOf name)) ++ [(.project, pathOf projectFile)]

/-- Whether there is something at a place, or a name that is too long to tell. -/
def isTaken (s : Surroundings) (place : Role × Path) : Bool :=
  match s.find place.2 with
  | .missing | .blocked => false
  | _ => true

/-- The place that decides which documents are planned: the one that is given, or the first that is
taken. -/
inductive Decides (s : Surroundings) : Option String → Role → Path → Prop
  | given (path : String) (h : path ≠ "") : Decides s (some path) .settings (.read path)
  | found (path : Option String) (role : Role) (p : Path) (h : path.getD "" = "")
      (first : (placesOf fileNames).find? (isTaken s) = some (role, p)) : Decides s path role p

/-- The file at a path holds a value. -/
def HasValue (s : Surroundings) (p : Path) (v : Value) : Prop :=
  ∃ text, s.HasText p text ∧ (Format.ofSettings p.suffix).read s.yaml text = .ok v

/-- The value that a file lists as a collection. -/
inductive Lists (s : Surroundings) : Role → Path → Value → Prop
  | whole (p : Path) (v : Value) (h : HasValue s p v) : Lists s .settings p v
  | table (p : Path) (project tools v : Value) (h : HasValue s p project)
      (tool : project.get? "tool" = some tools) (table : tools.get? tableName = some v) :
      Lists s .project p v

/-- Tools in which no table can be looked up: they are no mapping, and not a list or a text without
the name of the table either. -/
inductive Unsearchable : Value → Prop
  | list (items : List Value) (h : .text tableName ∈ items) : Unsearchable (.list items)
  | text (t : String) (h : Text.occursIn tableName.toList t.toList = true) : Unsearchable (.text t)
  | other (v : Value) (mapping : ∀ entries, v ≠ .mapping entries) (list : ∀ items, v ≠ .list items)
      (text : ∀ t, v ≠ .text t) : Unsearchable v

/-- A collection with a key that names no field. -/
def HasStrayKey (v : Value) : Prop :=
  ∃ entries, v = .mapping entries ∧ ∃ e ∈ entries, DocumentSettings.namesField e.1 = false

/-- A collection with directions, which are followed, since each key names a field or is one. -/
structure IsDirected (v : Value) (given : List (Value × Value)) : Prop where
  mapping : v = .mapping given
  named : ∀ e ∈ given, DocumentSettings.namesField e.1 = true
  directed : Search.isDirected given = true

/-- The ways in which a collection is lost. -/
inductive Lost (search : Search) (v : Value) : Failure → Prop
  | strayKey (h : HasStrayKey v) : Lost search v (.accident .wrongType)
  | broken (given : List (Value × Value)) (a : Accident) (directed : IsDirected v given)
      (h : search given = .broken a) : Lost search v (.accident a)
  | left (given : List (Value × Value)) (code : Nat) (directed : IsDirected v given)
      (h : search given = .left code) : Lost search v (.left code)

/-- The ways in which settings are lost, and nothing looks out for it. -/
inductive Mishap (s : Surroundings) (path : Option String) : Failure → Prop
  | misread (role : Role) (p : Path) (a : Accident) (decides : Decides s path role p)
      (misread : s.MisreadAt (.ofSettings p.suffix) p a) : Mishap s path (.accident a)
  | unsearchable (p : Path) (project tools : Value) (decides : Decides s path .project p)
      (h : HasValue s p project) (tool : project.get? "tool" = some tools)
      (unsearchable : Unsearchable tools) : Mishap s path (.accident .wrongType)
  | collection (role : Role) (p : Path) (v : Value) (f : Failure) (decides : Decides s path role p)
      (lists : Lists s role p v) (lost : Lost s.search v f) : Mishap s path f

/-- The failures that settings can be lost by. -/
inductive Loses (s : Surroundings) : Failure → Prop
  | nameTooLong : Loses s (.accident .nameTooLong)
  | undecodableFile : Loses s (.accident .undecodableFile)
  | ofText (a : Accident) (h : a.IsOfText s.yaml) : Loses s (.accident a)
  | wrongType : Loses s (.accident .wrongType)
  | broken (given : List (Value × Value)) (a : Accident) (h : s.search given = .broken a) :
      Loses s (.accident a)
  | left (given : List (Value × Value)) (code : Nat) (h : s.search given = .left code) :
      Loses s (.left code)

variable {s : Surroundings} {path : Option String} {p : Path} {role : Role} {v tools : Value}
  {search : Search} {a : Accident} {f : Failure}

/-! ## The place that decides -/

/-- The documents that the file at a place lists. -/
def documentsAt (s : Surroundings) : Role → Path → Except Failure (List DocumentSettings)
  | .settings, p => documentsIn s p
  | .project, p => documentsOfProject s p

/-- At a place that is taken the search ends, also if its name is too long. -/
theorem exists?_eq (role : Role) (p : Path) (others : Except Failure (List DocumentSettings)) :
    (match (s.find p).exists? with
      | .error a => .error (.accident a)
      | .ok true => documentsAt s role p
      | .ok false => others) = if isTaken s (role, p) then documentsAt s role p else others := by
  unfold isTaken
  cases hfind : s.find p with
  | nameTooLong =>
    have hload : load s p = .error (.accident .nameTooLong) := by
      simp [load, Surroundings.valueAt, Surroundings.textAt, hfind, bind, Except.bind]
    cases role <;> simp [Found.exists?, documentsAt, documentsIn, documentsOfProject, hload, bind,
      Except.bind]
  | _ => rfl

/-- **Looking for settings ends at the first place that is taken.** -/
theorem discover_eq (s : Surroundings) (names : List String) : discover s names =
    match (placesOf names).find? (isTaken s) with
    | some (role, p) => documentsAt s role p
    | none => nothingFound s := by
  induction names with
  | nil =>
    refine (exists?_eq .project (pathOf projectFile) (nothingFound s)).trans ?_
    rw [placesOf, List.map_nil, List.nil_append, List.find?_singleton]
    split <;> rfl
  | cons name names ih =>
    refine (exists?_eq .settings (pathOf name) (discover s names)).trans ?_
    rw [placesOf, List.map_cons, List.cons_append, List.find?_cons, ih, placesOf]
    cases isTaken s (.settings, pathOf name) <;> rfl

theorem documents_of_ne_empty (s : Surroundings) {path : String} (h : path ≠ "") :
    documents s (some path) = documentsIn s (.read path) := by
  unfold documents
  split <;> simp_all

theorem documents_of_empty (s : Surroundings) (h : path.getD "" = "") :
    documents s path = discover s fileNames := by
  cases path with
  | none => rfl
  | some path =>
    obtain rfl : path = "" := h
    rfl

/-- The place that decides lists the documents. -/
theorem documents_of_decides (h : Decides s path role p) :
    documents s path = documentsAt s role p := by
  cases h with
  | given path h => exact documents_of_ne_empty s h
  | found _ _ _ h first => rw [documents_of_empty s h, discover_eq, first]

/-- If no place decides, there are no settings. -/
theorem documents_of_not_decides (h : ∀ role p, ¬ Decides s path role p) :
    documents s path = nothingFound s := by
  have hempty : path.getD "" = "" := by
    by_contra hne
    cases path with
    | none => exact hne rfl
    | some path => exact h _ _ (.given path hne)
  rw [documents_of_empty s hempty, discover_eq]
  cases hfirst : (placesOf fileNames).find? (isTaken s) with
  | none => rfl
  | some place => exact absurd (.found path place.1 place.2 hempty hfirst) (h _ _)

/-! ## What is not looked out for -/

/-- A step fails, and nothing looks out for how it does. -/
def Escapes {α : Type} (x : Except Failure α) (f : Failure) : Prop :=
  x = .error f ∧ ¬ f.IsOfSettings

section

variable {α β : Type}

theorem not_isOfSettings_accident : ¬ (Failure.accident a).IsOfSettings := nofun

theorem not_escapes_ok (x : α) : ¬ Escapes (.ok x) f := fun h => by cases h.1

theorem not_escapes_error (h : f.IsOfSettings) {g : Failure} :
    ¬ Escapes (.error f : Except Failure α) g := by
  rintro ⟨⟨⟩, hg⟩
  exact hg h

theorem escapes_accident_iff :
    Escapes (.error (.accident a) : Except Failure α) f ↔ f = .accident a := by
  constructor
  · rintro ⟨⟨⟩, -⟩
    rfl
  · rintro rfl
    exact ⟨rfl, not_isOfSettings_accident⟩

/-- Of two steps one after the other, one escapes. -/
theorem escapes_bind_iff {x : Except Failure α} {g : α → Except Failure β} :
    Escapes (x >>= g) f ↔ Escapes x f ∨ ∃ y, x = .ok y ∧ Escapes (g y) f := by
  unfold Escapes
  rw [bind_eq_error_iff, or_and_right]
  simp only [← and_assoc, exists_and_right]

end

/-! ## The file at a place -/

theorem load_eq_ok_iff : load s p = .ok v ↔ HasValue s p v := by
  unfold HasValue
  rw [← Surroundings.valueAt_eq_ok_iff, load]
  split <;> simp_all [problem]

theorem escapes_load_iff : Escapes (load s p) f ↔
    ∃ a, f = .accident a ∧ s.MisreadAt (.ofSettings p.suffix) p a := by
  have hproblem : ∀ message path, ¬ Escapes (problem message path : Except Failure Value) f :=
    fun message path => not_escapes_error (.configuration message path)
  simp only [← Surroundings.valueAt_eq_accident_iff]
  unfold load
  dsimp only
  cases s.valueAt (.ofSettings p.suffix) p with
  | ok v => simp [not_escapes_ok]
  | error fault =>
    cases fault with
    | accident a => simp [escapes_accident_iff]
    | _ => simp [hproblem]

/-! ## A collection -/

theorem not_escapes_collectionOf (entries : List (Value × Value)) :
    ¬ Escapes (DocumentSettings.collectionOf entries) f := by
  unfold DocumentSettings.collectionOf
  cases DocumentSettings.readCollection entries with
  | ok ds => exact not_escapes_ok ds
  | error faults => exact not_escapes_error (.rejected faults)

/-- A collection whose keys all name fields is lost by the search that it directs. -/
theorem escapes_entries_iff {given : List (Value × Value)}
    (hnames : ∀ e ∈ given, DocumentSettings.namesField e.1 = true) :
    Escapes (search.entries given) f ↔ Lost search (.mapping given) f := by
  constructor
  · rintro ⟨h, hf⟩
    obtain ⟨hdirected, ⟨faults, -, rfl⟩ | ⟨a, ha, rfl⟩ | ⟨code, hcode, rfl⟩⟩ :=
      Search.entries_eq_error_iff.1 h
    · exact absurd (.rejected faults) hf
    · exact .broken given a ⟨rfl, hnames, hdirected⟩ ha
    · exact .left given code ⟨rfl, hnames, hdirected⟩ hcode
  · rintro (⟨_, ⟨⟩, e, he, hstray⟩ | ⟨_, a, ⟨⟨⟩, -, hdirected⟩, ha⟩ |
      ⟨_, code, ⟨⟨⟩, -, hdirected⟩, hcode⟩)
    · rw [hnames e he] at hstray
      cases hstray
    · exact ⟨Search.entries_eq_error_iff.2 ⟨hdirected, .inr (.inl ⟨a, ha, rfl⟩)⟩, nofun⟩
    · exact ⟨Search.entries_eq_error_iff.2 ⟨hdirected, .inr (.inr ⟨code, hcode, rfl⟩)⟩, nofun⟩

/-- With a stray key a collection is lost in one way, since no search is made then. -/
theorem lost_iff_of_stray {given : List (Value × Value)}
    (hnames : ¬ ∀ e ∈ given, DocumentSettings.namesField e.1 = true) :
    Lost search (.mapping given) f ↔ f = .accident .wrongType := by
  constructor
  · rintro (- | ⟨_, _, ⟨⟨⟩, hnamed, -⟩, -⟩ | ⟨_, _, ⟨⟨⟩, hnamed, -⟩, -⟩)
    · rfl
    all_goals exact absurd hnamed hnames
  · rintro rfl
    exact .strayKey ⟨given, rfl, by simpa using hnames⟩

/-- **A collection escapes exactly if it is lost**: by a stray key, or by the search it directs. -/
theorem escapes_validateCollection_iff :
    Escapes (DocumentSettings.validateCollection search v) f ↔ Lost search v f := by
  cases v with
  | mapping given =>
    by_cases hnames : ∀ e ∈ given, DocumentSettings.namesField e.1 = true
    · rw [DocumentSettings.validateCollection_eq hnames, escapes_bind_iff,
        or_iff_left fun ⟨entries, _, h⟩ => not_escapes_collectionOf entries h,
        escapes_entries_iff hnames]
    · rw [DocumentSettings.validateCollection_of_stray hnames, escapes_accident_iff,
        lost_iff_of_stray hnames]
  | _ =>
    refine iff_of_false (not_escapes_error (.rejected _)) ?_
    rintro (⟨_, ⟨⟩, -⟩ | ⟨_, _, ⟨⟨⟩, -, -⟩, -⟩ | ⟨_, _, ⟨⟨⟩, -, -⟩, -⟩)

/-! ## The tools of a project -/

theorem not_unsearchable_mapping (entries : List (Value × Value)) :
    ¬ Unsearchable (.mapping entries) := by
  rintro (_ | _ | ⟨_, h, -⟩)
  exact h entries rfl

theorem unsearchable_list_iff {items : List Value} : Unsearchable (.list items) ↔
    items.any (fun v => Value.sameKey v (.text tableName)) = true := by
  rw [List.any_eq_true]
  constructor
  · rintro (⟨_, h⟩ | _ | ⟨_, -, h, -⟩)
    · exact ⟨_, h, Value.sameKey_text_iff.2 rfl⟩
    · exact absurd rfl (h items)
  · rintro ⟨v, hv, h⟩
    obtain rfl := Value.sameKey_text_iff.1 h
    exact .list items hv

theorem unsearchable_text_iff {t : String} : Unsearchable (.text t) ↔
    Text.occursIn tableName.toList t.toList = true := by
  constructor
  · rintro (_ | ⟨_, h⟩ | ⟨_, -, -, h⟩)
    · exact h
    · exact absurd rfl (h t)
  · exact .text t

theorem not_escapes_nothingFound :
    ¬ Escapes (nothingFound s : Except Failure (List DocumentSettings)) f :=
  not_escapes_error (.configuration _ _)

/-- The tools of a project escape exactly if they cannot be searched, or if their table does. -/
theorem escapes_documentsOfTools_iff : Escapes (documentsOfTools s tools) f ↔
    f = .accident .wrongType ∧ Unsearchable tools ∨
      ∃ v, tools.get? tableName = some v ∧ Lost s.search v f := by
  unfold documentsOfTools
  cases tools with
  | mapping entries =>
    simp only [mentions?, not_unsearchable_mapping, and_false, false_or]
    cases hget : (Value.mapping entries).get? tableName with
    | none => simp [not_escapes_nothingFound]
    | some table => simp [escapes_validateCollection_iff]
  | list items =>
    simp only [mentions?, unsearchable_list_iff]
    cases items.any fun v => Value.sameKey v (.text tableName) with
    | false => simp [not_escapes_nothingFound, Value.get?]
    | true => simp [escapes_accident_iff, Value.get?]
  | text t =>
    simp only [mentions?, unsearchable_text_iff]
    cases Text.occursIn tableName.toList t.toList with
    | false => simp [not_escapes_nothingFound, Value.get?]
    | true => simp [escapes_accident_iff, Value.get?]
  | _ =>
    simp only [mentions?, escapes_accident_iff, Value.get?, false_and, exists_false, or_false,
      reduceCtorEq]
    exact ⟨fun h => ⟨h, .other _ (by simp) (by simp) (by simp)⟩, fun h => h.1⟩

/-! ## All failures -/

theorem escapes_documentsIn_iff : Escapes (documentsIn s p) f ↔
    (∃ a, f = .accident a ∧ s.MisreadAt (.ofSettings p.suffix) p a) ∨
      ∃ v, HasValue s p v ∧ Lost s.search v f := by
  change Escapes (load s p >>= DocumentSettings.validateCollection s.search) f ↔ _
  rw [escapes_bind_iff, escapes_load_iff]
  simp only [load_eq_ok_iff, escapes_validateCollection_iff]

/-- A project without tools is not lost, since it is read as one with none. -/
theorem escapes_documentsOfProject_iff : Escapes (documentsOfProject s p) f ↔
    (∃ a, f = .accident a ∧ s.MisreadAt (.ofSettings p.suffix) p a) ∨
      ∃ project tools, HasValue s p project ∧ project.get? "tool" = some tools ∧
        (f = .accident .wrongType ∧ Unsearchable tools ∨
          ∃ v, tools.get? tableName = some v ∧ Lost s.search v f) := by
  change Escapes (load s p >>= fun project =>
    documentsOfTools s ((project.get? "tool").getD (.mapping []))) f ↔ _
  rw [escapes_bind_iff, escapes_load_iff]
  simp only [load_eq_ok_iff, escapes_documentsOfTools_iff]
  refine or_congr_right (exists_congr fun project => ?_)
  rw [exists_and_left]
  refine and_congr_right fun _ => ?_
  cases project.get? "tool" with
  | none =>
    refine iff_of_false ?_ nofun
    rintro (⟨-, h⟩ | ⟨_, ⟨⟩, -⟩)
    exact not_unsearchable_mapping [] h
  | some tools => simp

/-- What escapes at the place that decides. -/
theorem escapes_documentsAt_iff : Escapes (documentsAt s role p) f ↔
    (∃ a, f = .accident a ∧ s.MisreadAt (.ofSettings p.suffix) p a) ∨
    (f = .accident .wrongType ∧ ∃ project tools, role = .project ∧ HasValue s p project ∧
      project.get? "tool" = some tools ∧ Unsearchable tools) ∨
    ∃ v, Lists s role p v ∧ Lost s.search v f := by
  cases role with
  | settings =>
    refine escapes_documentsIn_iff.trans (or_congr_right ⟨?_, ?_⟩)
    · rintro ⟨v, hv, hlost⟩
      exact .inr ⟨v, .whole p v hv, hlost⟩
    · rintro (⟨-, _, _, ⟨⟩, -⟩ | ⟨v, ⟨_, _, hv⟩, hlost⟩)
      exact ⟨v, hv, hlost⟩
  | project =>
    refine escapes_documentsOfProject_iff.trans (or_congr_right ⟨?_, ?_⟩)
    · rintro ⟨project, tools, hproject, htool, ⟨hf, h⟩ | ⟨v, htable, hlost⟩⟩
      · exact .inl ⟨hf, project, tools, rfl, hproject, htool, h⟩
      · exact .inr ⟨v, .table p project tools v hproject htool htable, hlost⟩
    · rintro (⟨hf, project, tools, -, hproject, htool, h⟩ | ⟨v, hlists, hlost⟩)
      · exact ⟨project, tools, hproject, htool, .inl ⟨hf, h⟩⟩
      · cases hlists with
        | table _ project tools _ hproject htool htable =>
          exact ⟨project, tools, hproject, htool, .inr ⟨v, htable, hlost⟩⟩

/-- **Finding settings escapes exactly by a mishap.** -/
theorem escapes_documents_iff : Escapes (documents s path) f ↔ Mishap s path f := by
  constructor
  · intro h
    by_cases hdecides : ∃ role p, Decides s path role p
    · obtain ⟨role, p, hdecides⟩ := hdecides
      rw [documents_of_decides hdecides, escapes_documentsAt_iff] at h
      rcases h with ⟨a, rfl, h⟩ | ⟨rfl, project, tools, rfl, hproject, htool, h⟩ | ⟨v, hlists, h⟩
      · exact .misread role p a hdecides h
      · exact .unsearchable p project tools hdecides hproject htool h
      · exact .collection role p v f hdecides hlists h
    · rw [documents_of_not_decides fun role p h => hdecides ⟨role, p, h⟩] at h
      exact absurd h not_escapes_nothingFound
  · rintro (⟨role, p, a, hdecides, h⟩ | ⟨p, project, tools, hdecides, hproject, htool, h⟩ |
      ⟨role, p, v, _, hdecides, hlists, h⟩)
    all_goals rw [documents_of_decides hdecides, escapes_documentsAt_iff]
    · exact .inl ⟨a, rfl, h⟩
    · exact .inr (.inl ⟨rfl, project, tools, rfl, hproject, htool, h⟩)
    · exact .inr (.inr ⟨v, hlists, h⟩)

theorem Mishap.loses (h : Mishap s path f) : Loses s f := by
  cases h with
  | misread _ _ _ _ misread =>
    cases misread with
    | nameTooLong => exact .nameTooLong
    | undecodable => exact .undecodableFile
    | unread _ _ _ read => exact .ofText _ (Format.isOfText_of_read read)
  | unsearchable => exact .wrongType
  | collection _ _ _ _ _ _ lost =>
    cases lost with
    | strayKey => exact .wrongType
    | broken given a _ h => exact .broken given a h
    | left given code _ h => exact .left given code h

end Discovery

open Discovery

/-- **Settings are found or it is said why not, but for mishaps.**  Whatever path is given, whatever
the files are and whatever a search comes to, a run gets its documents, a problem with the
configuration, which names a path, or a rejection of the collection, exactly if there is no mishap;
each mishap passes through as its own failure, and but for those of the search and of the reader of
YAML there are few kinds of them. -/
theorem settings_foreseen_iff (s : Surroundings) (path : Option String) :
    ((∃ ds, documents s path = .ok ds) ∨
        (∃ f, documents s path = .error f ∧ f.IsOfSettings) ↔
      ∀ f, ¬ Mishap s path f) ∧
    (∀ f, documents s path = .error f ∧ ¬ f.IsOfSettings ↔ Mishap s path f) ∧
    ∀ f, Mishap s path f → Loses s f := by
  refine ⟨?_, fun f => escapes_documents_iff, fun f h => h.loses⟩
  simp only [← escapes_documents_iff]
  cases hdocuments : documents s path with
  | ok ds => exact iff_of_true (.inl ⟨ds, rfl⟩) fun _ => not_escapes_ok ds
  | error f =>
    by_cases hf : f.IsOfSettings
    · exact iff_of_true (.inr ⟨f, rfl, hf⟩) fun _ => not_escapes_error hf
    · refine iff_of_false ?_ fun hnone => hnone f ⟨rfl, hf⟩
      rintro (⟨_, ⟨⟩⟩ | ⟨_, ⟨⟩, h⟩)
      exact hf h

/-- A file of settings that is not UTF-8 is neither read nor reported. -/
theorem latin_settings_escape :
    let s : Surroundings :=
      (Directory.mk [(["apisplit.yaml".toList], .file [0xFF])]).surroundings "/home"
    documents s none = .error (.accident .undecodableFile) ∧
      ¬ ((∃ ds, documents s none = .ok ds) ∨
        ∃ f, documents s none = .error f ∧ f.IsOfSettings) := by
  intro s
  have hmishap : Mishap s none (.accident .undecodableFile) :=
    .misread .settings (pathOf "apisplit.yaml") _ (.found none _ _ rfl (by decide +kernel))
      (.undecodable [0xFF] rfl (by decide +kernel))
  obtain ⟨hiff, hescapes, -⟩ := settings_foreseen_iff s none
  exact ⟨((hescapes _).2 hmishap).1, fun h => hiff.1 h _ hmishap⟩

end TypeFiles
