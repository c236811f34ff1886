/-
# The precedence of settings

Of all the files in a current directory one decides which documents are planned, and what it holds
is the whole outcome: if it cannot be read, is malformed or lists what does not fit, the run fails
with that and does not go on to another one.  What is said of it here compares two surroundings.  If
the file that decides is the same in both, and the places in front of it are free in both, so is the
outcome, whatever else there is (`settings_precedence`).

There is one way past this rule.  What the file that decides lists may direct a search, to a
directory with a file for each field, say, or to another file of settings.  Then the outcome depends
on what that search comes to as well, and so on what lies elsewhere (`secrets_decide`).  A search
that is directed has to come to the same in both surroundings (`SearchedAlike`); without directions
there is none.

| deciding | what the outcome depends on |
| --- | --- |
| the file that is given | what is at its path |
| the first place that is taken | what is there, and that the places in front are free |
| the file of a project, with tools that are a mapping or not there | its entry `apisplit` |
| nothing | nothing |

The text of the current directory, which messages show, and the reader of YAML are taken to be the
same.
-/

import TypeFiles.Proofs.Settings.Discovery

namespace TypeFiles
namespace Discovery

/-- The entry of the table of settings in the file of a project whose tools are not there, or are a
mapping. -/
inductive HasEntry (project : Value) : Option Value → Prop
  | noTools (h : project.get? "tool" = none) : HasEntry project none
  | tools (entries : List (Value × Value)) (h : project.get? "tool" = some (.mapping entries)) :
      HasEntry project ((Value.mapping entries).get? tableName)

/-- The problem that there are no settings, in full. -/
def notFound (home : String) : Failure :=
  .problem (.configuration ("No configuration found; expected one of apisplit.yaml, apisplit.yml" ++
    " or a [tool.apisplit] table in pyproject.toml") (some home) none)

/-- What a place lists directs no search, or one that comes to the same in two surroundings. -/
def SearchedAlike (s t : Surroundings) (role : Role) (p : Path) : Prop :=
  ∀ v given, Lists s role p v → IsDirected v given → s.search given = t.search given

variable {s t : Surroundings} {path : Option String} {p : Path} {role : Role}
  {before after : List (Role × Path)}

theorem nothingFound_eq {α : Type} (s : Surroundings) :
    (nothingFound s : Except Failure α) = .error (notFound s.home) := by
  have hmessage : "No configuration found; expected one of " ++ ", ".intercalate fileNames ++
      " or a [tool.apisplit] table in pyproject.toml" =
      "No configuration found; expected one of apisplit.yaml, apisplit.yml" ++
        " or a [tool.apisplit] table in pyproject.toml" := by
    decide +kernel
  rw [nothingFound, hmessage]
  rfl

/-! ## One place in two surroundings -/

/-- The path that a text names does not show the current directory. -/
theorem text_read (path home home' : String) :
    (Path.read path).text home = (Path.read path).text home' := by
  have hstart : (Path.read path).start ≠ .home := by
    change Path.readStart path.toList ≠ .home
    unfold Path.readStart
    split <;> exact nofun
  unfold Path.text
  cases h : (Path.read path).start with
  | home => exact absurd h hstart
  | _ => rfl

theorem isTaken_congr (h : s.find p = t.find p) : isTaken s (role, p) = isTaken t (role, p) := by
  simp only [isTaken, h]

/-- What a file of settings holds depends on what is at its path. -/
theorem load_congr (h : s.find p = t.find p) (yaml : s.yaml = t.yaml)
    (shown : p.text s.home = p.text t.home) : load s p = load t p := by
  have hvalue : s.valueAt (.ofSettings p.suffix) p = t.valueAt (.ofSettings p.suffix) p := by
    simp only [Surroundings.valueAt, Surroundings.textAt, h, yaml]
  rw [load, load, hvalue, shown]

/-- A collection depends on the search that it directs. -/
theorem validateCollection_congr {search search' : Search} {v : Value}
    (h : ∀ given, IsDirected v given → search given = search' given) :
    DocumentSettings.validateCollection search v =
      DocumentSettings.validateCollection search' v := by
  cases v with
  | mapping given =>
    by_cases hnames : ∀ e ∈ given, DocumentSettings.namesField e.1 = true
    · have hentries : search.entries given = search'.entries given := by
        unfold Search.entries
        cases hdirected : Search.isDirected given with
        | false => rfl
        | true => rw [h given ⟨rfl, hnames, hdirected⟩]
      rw [DocumentSettings.validateCollection_eq hnames,
        DocumentSettings.validateCollection_eq hnames, hentries]
    · rw [DocumentSettings.validateCollection_of_stray hnames,
        DocumentSettings.validateCollection_of_stray hnames]
  | _ => rfl

theorem documentsIn_congr (h : load s p = load t p) (search : SearchedAlike s t .settings p) :
    documentsIn s p = documentsIn t p := by
  rw [documentsIn, documentsIn, ← h]
  cases hload : load s p with
  | error f => rfl
  | ok v =>
    exact validateCollection_congr fun given =>
      search v given (.whole p v (load_eq_ok_iff.1 hload))

theorem documentsOfProject_congr (h : load s p = load t p) (home : s.home = t.home)
    (search : SearchedAlike s t .project p) : documentsOfProject s p = documentsOfProject t p := by
  rw [documentsOfProject, documentsOfProject, ← h]
  cases hload : load s p with
  | error f => rfl
  | ok project =>
    change documentsOfTools s ((project.get? "tool").getD (.mapping [])) = documentsOfTools t _
    unfold documentsOfTools
    rw [nothingFound_eq, nothingFound_eq, home]
    cases htool : project.get? "tool" with
    | none => rfl
    | some tools =>
      rw [Option.getD_some]
      cases htable : tools.get? tableName with
      | none => rfl
      | some table =>
        have hvalidate : DocumentSettings.validateCollection s.search table =
            DocumentSettings.validateCollection t.search table :=
          validateCollection_congr fun given => search table given
            (.table p project tools table (load_eq_ok_iff.1 hload) htool htable)
        dsimp only
        rw [hvalidate]

theorem documentsAt_congr (h : s.find p = t.find p) (home : s.home = t.home)
    (yaml : s.yaml = t.yaml) (search : SearchedAlike s t role p) :
    documentsAt s role p = documentsAt t role p := by
  have hload : load s p = load t p := load_congr h yaml (by rw [home])
  cases role with
  | settings => exact documentsIn_congr hload search
  | project => exact documentsOfProject_congr hload home search

/-! ## The first place that is taken -/

/-- Behind free places a taken one decides. -/
theorem decides_of_first (hempty : path.getD "" = "")
    (places : placesOf fileNames = before ++ (role, p) :: after)
    (free : ∀ place ∈ before, isTaken s place = false) (taken : isTaken s (role, p) = true) :
    Decides s path role p := by
  refine .found path role p hempty ?_
  have hbefore : before.find? (isTaken s) = none := by
    simpa [List.find?_eq_none] using free
  rw [places, List.find?_append, hbefore, List.find?_cons, taken]
  rfl

example : placesOf fileNames = [(.settings, pathOf "apisplit.yaml"),
    (.settings, pathOf "apisplit.yml"), (.project, pathOf "pyproject.toml")] := rfl

theorem documents_of_free (hempty : path.getD "" = "")
    (free : ∀ place ∈ placesOf fileNames, isTaken s place = false) :
    documents s path = .error (notFound s.home) := by
  have hnone : (placesOf fileNames).find? (isTaken s) = none := by
    simpa [List.find?_eq_none] using free
  rw [documents_of_empty s hempty, discover_eq, hnone, nothingFound_eq]

/-- **Of a project whose tools can be searched, only the table of settings counts.** -/
theorem documentsOfProject_eq {project : Value} {entry : Option Value} (h : HasValue s p project)
    (hentry : HasEntry project entry) : documentsOfProject s p =
      entry.elim (.error (notFound s.home)) (DocumentSettings.validateCollection s.search) := by
  have hload : documentsOfProject s p =
      documentsOfTools s ((project.get? "tool").getD (.mapping [])) := by
    rw [documentsOfProject, load_eq_ok_iff.2 h]
    rfl
  rw [hload]
  cases hentry with
  | noTools hnone =>
    rw [hnone]
    exact nothingFound_eq s
  | tools entries hsome =>
    rw [hsome, Option.getD_some, documentsOfTools, mentions?]
    cases (Value.mapping entries).get? tableName with
    | none => exact nothingFound_eq s
    | some table => rfl

end Discovery

open Discovery

/-- **One file decides, and its outcome is never passed over.**  A path that is given is all that
the outcome depends on.  Without one, the first place that is taken decides with all it holds, in
another directory as well if the same is there and as many places in front of it are free.  If that
is the file of a project whose tools are a mapping or not there, its table of settings is the
outcome, or the problem that there are none; that is also the outcome where nothing is found.  Of
the rest of the surroundings only a search counts that the deciding file directs. -/
theorem settings_precedence (s t : Surroundings) (path : Option String)
    (yaml : s.yaml = t.yaml) :
    (∀ file, path = some file → file ≠ "" → s.find (.read file) = t.find (.read file) →
      SearchedAlike s t .settings (.read file) → documents s path = documents t path) ∧
    (path.getD "" = "" →
      (∀ before role p after, placesOf fileNames = before ++ (role, p) :: after →
        (∀ place ∈ before, isTaken s place = false) → isTaken s (role, p) = true →
          documents s path = documentsAt s role p ∧
          (s.home = t.home → (∀ place ∈ before, isTaken s place = isTaken t place) →
            s.find p = t.find p → SearchedAlike s t role p →
              documents s path = documents t path)) ∧
      ((∀ place ∈ placesOf fileNames, isTaken s place = false) →
        documents s path = .error (notFound s.home)) ∧
      (∀ project entry, (∀ name ∈ fileNames, isTaken s (.settings, pathOf name) = false) →
        HasValue s (pathOf projectFile) project → HasEntry project entry →
          documents s path = entry.elim (.error (notFound s.home))
            (DocumentSettings.validateCollection s.search))) := by
  refine ⟨?_, fun hempty => ⟨?_, documents_of_free hempty, ?_⟩⟩
  · rintro file rfl hfile hfind hsearch
    rw [documents_of_ne_empty s hfile, documents_of_ne_empty t hfile]
    exact documentsIn_congr (load_congr hfind yaml (text_read file _ _)) hsearch
  · intro before role p after hplaces hfree htaken
    have hdecides := documents_of_decides (decides_of_first hempty hplaces hfree htaken)
    refine ⟨hdecides, fun hhome hsame hfind hsearch => ?_⟩
    have hfree' : ∀ place ∈ before, isTaken t place = false :=
      fun place hplace => hsame place hplace ▸ hfree place hplace
    rw [hdecides, documents_of_decides
      (decides_of_first hempty hplaces hfree' (isTaken_congr hfind ▸ htaken))]
    exact documentsAt_congr hfind hhome yaml hsearch
  · intro project entry hfree hproject hentry
    have htaken : isTaken s (.project, pathOf projectFile) = true := by
      obtain ⟨text, ⟨bytes, -, hfind, -, -⟩, -⟩ := hproject
      rw [isTaken, hfind]
    have hplaces : ∀ place ∈ fileNames.map fun name => (Role.settings, pathOf name),
        isTaken s place = false := by
      simpa using hfree
    rw [documents_of_decides (decides_of_first hempty rfl hplaces htaken)]
    exact documentsOfProject_eq hproject hentry

/-- A file of settings that is malformed is the outcome, with a good one beside it and without. -/
theorem malformed_settings_not_masked :
    let bytes (text : String) : List UInt8 := text.toUTF8.toList
    let malformed := (["apisplit.yaml".toList], Entry.file (bytes "["))
    let good := (["apisplit.yml".toList], Entry.file (bytes "documents: []"))
    let s : Surroundings := (Directory.mk [malformed, good]).surroundings "/home"
    let t : Surroundings := (Directory.mk [malformed]).surroundings "/home"
    documents s none = .error (.problem (.configuration
      "Malformed configuration file: <YAMLError>" (some "/home/apisplit.yaml") none)) ∧
      documents s none = documents t none := by
  intro bytes malformed good s t
  have hsearch : SearchedAlike s t .settings (pathOf "apisplit.yaml") := by
    rintro v given ⟨_, _, hvalue⟩
    have hload : (load s (pathOf "apisplit.yaml")).toOption.isSome = false := by
      decide +kernel
    rw [load_eq_ok_iff.2 hvalue] at hload
    cases hload
  obtain ⟨hdecides, hsame⟩ := ((settings_precedence s t none rfl).2 rfl).1 [] .settings
    (pathOf "apisplit.yaml") _ rfl nofun (by decide +kernel)
  exact ⟨hdecides.trans (by decide +kernel), hsame rfl nofun (by decide +kernel) hsearch⟩

/-- A file of settings that names a directory for its fields is the same in two surroundings, and
the path of it is given in both; the outcome is what lies in that directory. -/
theorem secrets_decide :
    let bytes (text : String) : List UInt8 := text.toUTF8.toList
    let settings := (["apisplit.json".toList],
      Entry.file (bytes "\x7b\"_secrets_dir\": \"secrets\"\x7d"))
    let secret := (["secrets".toList, "apisplit_documents".toList], Entry.file (bytes "[]"))
    let s : Surroundings := (Directory.mk [settings, secret]).surroundings "/home"
    let t : Surroundings := (Directory.mk [settings]).surroundings "/home"
    let path := "apisplit.json"
    s.find (.read path) = t.find (.read path) ∧ documents s (some path) = .ok [] ∧
      documents t (some path) =
        .error (.rejected ⟨.collection, [⟨[.field "documents"], .missing⟩]⟩) := by
  intro bytes settings secret s t path
  exact ⟨by decide +kernel, by decide +kernel, by decide +kernel⟩

end TypeFiles
