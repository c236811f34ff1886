/-
# Planning documents apart from each other

The loader, the planner and the collector of one document are never those of another one, and
nothing of a document is printed before all of it is known.  So a run over several documents is made
of runs over one: what `alone` prints for each document stands in the order of the documents, up to
the first one whose run does not end well.

| a document alone | prints | the run |
| --- | --- | --- |
| has its files planned | table, diagnostics if asked for, number of files | goes on |
| fails with a problem | one line on the problem | ends |
| is lost by accident | nothing | ends |
| has its files planned, in a table whose marks do not fit | nothing | ends |

The last two rows are where a run is not what it should be: an accident is no failure that is
reported, but it ends the run all the same (`documents_planned_apart`, `latin_document_unreported`).
-/

import TypeFiles.CommandLine
import TypeFiles.Directory
import TypeFiles.Proofs.Derivation.Checks
import TypeFiles.Proofs.Plan.Sequence

namespace TypeFiles

open Reporting

section UpTo

variable {α : Type} {p : α → Bool} {a : α} {l : List α}

/-- A list up to the first item for which `p` holds, that one included. -/
def upTo (p : α → Bool) (l : List α) : List α :=
  l.takeWhile (fun a => !p a) ++ (l.find? p).toList

theorem upTo_cons_of_pos (h : p a = true) : upTo p (a :: l) = [a] := by
  simp [upTo, h]

theorem upTo_cons_of_neg (h : p a = false) : upTo p (a :: l) = a :: upTo p l := by
  simp [upTo, h]

/-- If `p` holds for an item at all, it holds for one up to which the list goes. -/
theorem exists_mem_upTo (hmem : a ∈ l) (h : p a = true) : ∃ b ∈ upTo p l, p b = true := by
  obtain ⟨b, hb⟩ := Option.isSome_iff_exists.1 (List.find?_isSome.2 ⟨a, hmem, h⟩)
  refine ⟨b, List.mem_append_right _ ?_, List.find?_some hb⟩
  rw [hb]
  exact List.mem_singleton_self b

end UpTo

/-- What a step gives can be decided where its failures cannot. -/
theorem eq_ok_of_toOption {ε α : Type} {x : Except ε α} {a : α} (h : x.toOption = some a) :
    x = .ok a := by
  cases x with
  | ok b => exact congrArg Except.ok (Option.some.inj h)
  | error e => cases h

/-- Two surroundings in which a source is loaded and shown alike: the same current directory, the
same servers, the same reader of YAML, the same console, and the same at the path that the source
names. -/
structure Surroundings.Alike (source : String) (s s' : Surroundings) : Prop where
  home : s.home = s'.home
  servers : s.servers = s'.servers
  yaml : s.yaml = s'.yaml
  marks : s.marks = s'.marks
  find : s.find (Loader.usual.path source) = s'.find (Loader.usual.path source)

/-- A failure of one document: a problem, or an accident. -/
inductive Failure.IsOfDocument : Failure → Prop
  | problem (p : Problem) : IsOfDocument (.problem p)
  | accident (a : Accident) : IsOfDocument (.accident a)

/-- A failure to read a source: a problem with it, or an accident. -/
inductive Failure.IsOfSource (source : String) : Failure → Prop
  | problem (cause : Cause) : IsOfSource source (.problem (.load source (some cause)))
  | accident (a : Accident) : IsOfSource source (.accident a)

theorem Failure.IsOfSource.isOfDocument {source : String} {f : Failure} (h : f.IsOfSource source) :
    f.IsOfDocument := by
  cases h with
  | problem cause => exact .problem _
  | accident a => exact .accident a

namespace Loader

/-- The document that a source names, or why there is none. -/
def document (l : Loader) (s : Surroundings) (source : String) : Except Failure OpenApi.Document :=
  (if Address.isOnServer source then l.loadPage s source else l.loadFile s source).bind
    (OpenApi.validate source)

/-- Loading collects nothing, whether a page is fetched or a file is read. -/
theorem gives_load (l : Loader) (s : Surroundings) (source : String) :
    Gives (l.load s source) (l.document s source) [] := by
  unfold load document
  split
  · exact ((gives_write _ _ _).pure_bind (gives_pure _)).pure_bind (gives_pure _)
  · exact (gives_pure _).pure_bind (gives_pure _)

theorem document_congr {s s' : Surroundings} {source : String} (h : s.Alike source s') :
    usual.document s source = usual.document s' source := by
  have hvalue : ∀ f, s.valueAt f (usual.path source) = s'.valueAt f (usual.path source) := by
    intro f
    unfold Surroundings.valueAt Surroundings.textAt
    rw [h.find, h.yaml]
  have hfile : usual.loadFile s source = usual.loadFile s' source := by
    rw [loadFile, loadFile, hvalue, h.home]
  rw [document, document, hfile, loadPage, loadPage, h.servers, h.yaml]

theorem failsOnly_loadPage (l : Loader) (s : Surroundings) (source : String) :
    FailsOnly (Failure.IsOfSource source) (l.loadPage s source) := by
  unfold loadPage problem
  dsimp only
  repeat' split
  all_goals
    first
    | exact failsOnly_ok _
    | exact failsOnly_error (.problem _)
    | exact failsOnly_error (.accident _)

theorem failsOnly_loadFile (l : Loader) (s : Surroundings) (source : String) :
    FailsOnly (Failure.IsOfSource source) (l.loadFile s source) := by
  unfold loadFile problem
  dsimp only
  split
  all_goals
    first
    | exact failsOnly_ok _
    | exact failsOnly_error (.problem _)
    | exact failsOnly_error (.accident _)

/-- A value that is no document is a validation problem of the source. -/
theorem validate_cases (source : String) (v : Value) :
    (∃ document, OpenApi.validate source v = .ok document) ∨
      ∃ errors, OpenApi.validate source v = .error (.problem (.validation source errors)) := by
  unfold OpenApi.validate
  cases v with
  | mapping entries =>
    cases OpenApi.read (.mapping entries) with
    | some document => exact .inl ⟨document, rfl⟩
    | none => exact .inr ⟨_, rfl⟩
  | _ => exact .inr ⟨_, rfl⟩

/-- Loading a document reads no settings, so it fails with a problem or in an accident. -/
theorem failsOnly_document (l : Loader) (s : Surroundings) (source : String) :
    FailsOnly Failure.IsOfDocument (l.document s source) := by
  have hread : FailsOnly (Failure.IsOfSource source)
      (if Address.isOnServer source then l.loadPage s source else l.loadFile s source) := by
    split
    · exact l.failsOnly_loadPage s source
    · exact l.failsOnly_loadFile s source
  refine (hread.imp fun _ h => h.isOfDocument).bind fun v => ?_
  rcases validate_cases source v with ⟨document, h⟩ | ⟨errors, h⟩
  · rw [h]
    exact failsOnly_ok document
  · rw [h]
    exact failsOnly_error (.problem _)

end Loader

namespace CommandLine

variable (s : Surroundings) (verbose : Bool) (d : DocumentSettings) {ds : List DocumentSettings}

/-! ## One document -/

/-- The files of a document and what is collected on them, or the failure that ends the run. -/
def planned (s : Surroundings) (d : DocumentSettings) :
    Except Failure (List GeneratedFile × List Diagnostic) := do
  let document ← Loader.usual.document s d.source
  let files ← Planner.filesAlone d.settings document.schemas .collecting
  return (files, Planner.diagnosticsAlone d.settings document.schemas)

/-- What is printed for a document, or the failure that ends the run. -/
def reported (s : Surroundings) (verbose : Bool) (d : DocumentSettings) :
    Except Failure (List Printed) :=
  planned s d >>= fun found => report s.marks verbose d.source found.1 found.2

/-- What a document prints and how it ends. -/
def outcomeOf : Except Failure (List Printed) → Outcome
  | .ok printed => ⟨printed, .done⟩
  | .error e => failed e

/-- The run over a document that is the only one. -/
def alone (s : Surroundings) (verbose : Bool) (d : DocumentSettings) : Outcome :=
  ((planDocuments s verbose [d]).run .uncollected).1

/-- What a document prints comes from its own collector, and the former one stays as it was. -/
theorem gives_planDocument : Gives (planDocument s verbose d) (reported s verbose d) [] := by
  refine (Loader.usual.gives_load s d.source).pure_bind ?_
  unfold reported planned
  cases Loader.usual.document s d.source with
  | error e => exact gives_pure _
  | ok document =>
    have hplan := ((Planner.fresh d.settings).gives_plan document.schemas).isolated
    refine hplan.pure_bind ?_
    -- A planner of its own has not seen another document, so its files are those of `planned`.
    change Gives _ (((Planner.filesAlone d.settings document.schemas .collecting) >>= fun files =>
      pure (files, Planner.diagnosticsAlone d.settings document.schemas)) >>= _) []
    rw [Planner.filesAlone_eq, Planner.diagnosticsAlone_eq]
    cases Derivation.declarations document.schemas <;> exact gives_pure _

theorem gives_planDocuments_singleton :
    Gives (planDocuments s verbose [d]) (outcomeOf (reported s verbose d)) [] := by
  refine (gives_planDocument s verbose d).pure_bind ?_
  cases reported s verbose d with
  | error e => exact gives_pure _
  | ok printed =>
    refine (gives_pure (⟨[], .done⟩ : Outcome)).pure_bind ?_
    simp only [List.append_nil]
    exact gives_pure _

theorem alone_eq : alone s verbose d = outcomeOf (reported s verbose d) :=
  (gives_planDocuments_singleton s verbose d).result _

theorem alone_of_error {e : Failure} (h : reported s verbose d = .error e) :
    alone s verbose d = failed e := by
  rw [alone_eq, h, outcomeOf]

theorem reported_of_error {e : Failure} (h : planned s d = .error e) :
    reported s verbose d = .error e :=
  bind_eq_error_iff.2 (.inl h)

/-- A document fails as it is loaded, or as its files are planned. -/
def FailsAs (s : Surroundings) (d : DocumentSettings) (f : Failure) : Prop :=
  (∀ j, ((Loader.usual.load s d.source).run j).1 = .error f) ∨
    ∃ document, (∀ j, ((Loader.usual.load s d.source).run j).1 = .ok document) ∧
      ∀ j, Planner.filesAlone d.settings document.schemas j = .error f

theorem failsAs_of_error {f : Failure} (h : planned s d = .error f) : FailsAs s d f := by
  have hload : ∀ j, ((Loader.usual.load s d.source).run j).1 = Loader.usual.document s d.source :=
    (Loader.usual.gives_load s d.source).result
  rcases bind_eq_error_iff.1 h with hdocument | ⟨document, hdocument, hrest⟩
  · exact .inl fun j => (hload j).trans hdocument
  · refine .inr ⟨document, fun j => (hload j).trans hdocument, fun j => ?_⟩
    rcases bind_eq_error_iff.1 hrest with hfiles | ⟨files, -, hpure⟩
    · rwa [Planner.filesAlone_eq] at hfiles ⊢
    · cases hpure

/-- Neither loading nor planning a document reads settings. -/
theorem failsOnly_planned : FailsOnly Failure.IsOfDocument (planned s d) := by
  refine (Loader.usual.failsOnly_document s d.source).bind fun document => ?_
  refine FailsOnly.bind (fun e h => ?_) fun files => failsOnly_ok _
  rw [Planner.filesAlone_eq, map_eq_error_iff] at h
  have hfault := ((Derivation.decides_declarations document.schemas).error_iff _).1 h
  obtain ⟨c, -, hc⟩ := hfault.exists_fails
  cases hc
  all_goals
    first
    | exact .problem _
    | exact .accident _

/-- What a document does alone. -/
inductive DoneAlone (s : Surroundings) (d : DocumentSettings) : Prop
  /-- Its files are planned, and the diagnostics stand between their table and their number. -/
  | planned (document : OpenApi.Document) (files : List GeneratedFile) (table : Printed)
      (loaded : ∀ j, ((Loader.usual.load s d.source).run j).1 = .ok document)
      (planned : ∀ j, Planner.filesAlone d.settings document.schemas j = .ok files)
      (shown : fileTable? s.marks d.source files = some table)
      (quiet : alone s false d = ⟨[table,
        Console.styledLine "green" (toString files.length ++ " files planned")], .done⟩)
      (verbose : alone s true d = ⟨table ::
        (Planner.diagnosticsAlone d.settings document.schemas).map
          (fun n => Console.styledLine "yellow" n.text) ++
        [Console.styledLine "green" (toString files.length ++ " files planned")], .done⟩)
  /-- It cannot be loaded or derived, and one line says so. -/
  | problem (p : Problem) (why : FailsAs s d (.problem p))
      (failed : ∀ verbose, alone s verbose d = ⟨[Console.failureLine p.message], .failed⟩)
  /-- Something happens that is not looked out for, and nothing is printed. -/
  | accident (a : Accident) (why : FailsAs s d (.accident a))
      (unreported : ∀ verbose, alone s verbose d = ⟨[], .accident a⟩)
  /-- Its files are planned, but their table has marks that do not fit, and nothing is printed. -/
  | unshown (document : OpenApi.Document) (files : List GeneratedFile)
      (loaded : ∀ j, ((Loader.usual.load s d.source).run j).1 = .ok document)
      (planned : ∀ j, Planner.filesAlone d.settings document.schemas j = .ok files)
      (unfit : fileTable? s.marks d.source files = none)
      (unreported : ∀ verbose, alone s verbose d = ⟨[], .accident .unfitMarks⟩)

theorem doneAlone : DoneAlone s d := by
  cases hplanned : planned s d with
  | ok found =>
    obtain ⟨document, hdocument, hrest⟩ := bind_eq_ok_iff.1 hplanned
    obtain ⟨files, hfiles, hfound⟩ := bind_eq_ok_iff.1 hrest
    obtain rfl := Except.ok.inj hfound
    have hload : ∀ j, ((Loader.usual.load s d.source).run j).1 = .ok document := by
      intro j
      rw [(Loader.usual.gives_load s d.source).result, hdocument]
    have hfiles' : ∀ j, Planner.filesAlone d.settings document.schemas j = .ok files := by
      intro j
      rw [Planner.filesAlone_eq] at hfiles ⊢
      exact hfiles
    have halone : ∀ verbose, alone s verbose d = outcomeOf (report s.marks verbose d.source files
        (Planner.diagnosticsAlone d.settings document.schemas)) := by
      intro verbose
      rw [alone_eq, reported, hplanned]
      rfl
    cases htable : fileTable? s.marks d.source files with
    | some table =>
      refine .planned document files table hload hfiles' htable ?_ ?_
      all_goals
        rw [halone, report, htable]
        rfl
    | none =>
      refine .unshown document files hload hfiles' htable fun verbose => ?_
      rw [halone, report, htable]
      rfl
  | error e =>
    have halone : ∀ verbose, alone s verbose d = failed e :=
      fun verbose => alone_of_error s verbose d (reported_of_error s verbose d hplanned)
    have hwhy := failsAs_of_error s d hplanned
    cases failsOnly_planned s d e hplanned with
    | problem p => exact .problem p hwhy halone
    | accident a => exact .accident a hwhy halone

/-- How a document ends alone. -/
theorem ending_cases : (alone s false d).ending = .done ∨ (alone s false d).ending = .failed ∨
    ∃ a, (alone s false d).ending = .accident a := by
  cases doneAlone s d with
  | planned _ _ _ _ _ _ hquiet => exact .inl (by rw [hquiet])
  | problem _ _ hfailed => exact .inr (.inl (by rw [hfailed]))
  | accident a _ hunreported => exact .inr (.inr ⟨a, by rw [hunreported]⟩)
  | unshown _ _ _ _ _ hunreported => exact .inr (.inr ⟨_, by rw [hunreported]⟩)

theorem printed_eq_nil_of_accident {a : Accident} (h : (alone s false d).ending = .accident a) :
    (alone s verbose d).printed = [] := by
  cases doneAlone s d with
  | accident _ _ hunreported => rw [hunreported]
  | unshown _ _ _ _ _ hunreported => rw [hunreported]
  | planned _ _ _ _ _ _ hquiet => simp [hquiet] at h
  | problem _ _ hfailed => simp [hfailed] at h

/-- A document does the same where it is loaded and shown alike. -/
theorem alone_congr {s' : Surroundings} (h : s.Alike d.source s') :
    alone s verbose d = alone s' verbose d := by
  rw [alone_eq, alone_eq, reported, reported, planned, planned, Loader.document_congr h, h.marks]

/-- A document ends alike, whether the diagnostics are asked for or not. -/
theorem ending_alone : (alone s verbose d).ending = (alone s false d).ending := by
  cases doneAlone s d with
  | planned _ _ _ _ _ _ hquiet hverbose => cases verbose <;> simp only [hquiet, hverbose]
  | problem _ _ hfailed => simp only [hfailed]
  | accident _ _ hunreported => simp only [hunreported]
  | unshown _ _ _ _ _ hunreported => simp only [hunreported]

/-! ## A run over several -/

/-- Whether the run ends with a document. -/
def stops (s : Surroundings) (d : DocumentSettings) : Bool := (alone s false d).ending != .done

/-- Whether a document fails, and the run says why. -/
def fails (s : Surroundings) (d : DocumentSettings) : Bool := (alone s false d).ending == .failed

@[simp]
theorem stops_eq_false_iff : stops s d = false ↔ (alone s false d).ending = .done := by
  simp [stops]

@[simp]
theorem stops_eq_true_iff : stops s d = true ↔ (alone s false d).ending ≠ .done := by
  simp [stops]

@[simp]
theorem fails_eq_true_iff : fails s d = true ↔ (alone s false d).ending = .failed := by
  simp [fails]

theorem stops_of_error {e : Failure} (h : reported s verbose d = .error e) :
    stops s d = true := by
  rw [stops, ← ending_alone s verbose, alone_of_error s verbose d h]
  cases e <;> rfl

theorem printed_ne_nil_of_fails (h : fails s d = true) : (alone s verbose d).printed ≠ [] := by
  cases doneAlone s d with
  | problem _ _ hfailed => simp [hfailed]
  | planned _ _ _ _ _ _ hquiet => simp [fails, hquiet] at h
  | accident _ _ hunreported => simp [fails, hunreported] at h
  | unshown _ _ _ _ _ hunreported => simp [fails, hunreported] at h

/-- What is printed for the documents up to the one that the run ends with, and how that ends. -/
def sequence (s : Surroundings) (verbose : Bool) (ds : List DocumentSettings) : Outcome where
  printed := (upTo (stops s) ds).flatMap fun d => (alone s verbose d).printed
  ending := (ds.find? (stops s)).elim .done fun d => (alone s false d).ending

theorem sequence_cons_of_stops (h : stops s d = true) :
    sequence s verbose (d :: ds) = alone s verbose d := by
  rw [sequence, upTo_cons_of_pos h, List.find?_cons_of_pos h, List.flatMap_singleton,
    Option.elim_some, ← ending_alone s verbose]

theorem sequence_cons_of_done (h : stops s d = false) :
    sequence s verbose (d :: ds) =
      ⟨(alone s verbose d).printed ++ (sequence s verbose ds).printed,
        (sequence s verbose ds).ending⟩ := by
  rw [sequence, upTo_cons_of_neg h, List.find?_cons_of_neg (by simp [h]), List.flatMap_cons]
  rfl

/-- A document that the run ends with stands behind others that end well. -/
theorem sequence_append_of_done {before after : List DocumentSettings}
    (hbefore : ∀ b ∈ before, (alone s false b).ending = .done) (h : stops s d = true) :
    sequence s verbose (before ++ d :: after) =
      ⟨(before.flatMap fun b => (alone s verbose b).printed) ++ (alone s verbose d).printed,
        (alone s verbose d).ending⟩ := by
  induction before with
  | nil =>
    rw [List.nil_append, sequence_cons_of_stops _ _ _ h, List.flatMap_nil, List.nil_append]
  | cons b before ih =>
    rw [List.forall_mem_cons] at hbefore
    rw [List.cons_append, sequence_cons_of_done _ _ _ ((stops_eq_false_iff s b).2 hbefore.1),
      ih hbefore.2, List.flatMap_cons, List.append_assoc]

theorem gives_planDocuments (ds : List DocumentSettings) :
    Gives (planDocuments s verbose ds) (sequence s verbose ds) [] := by
  induction ds with
  | nil => exact gives_pure _
  | cons d rest ih =>
    refine (gives_planDocument s verbose d).pure_bind ?_
    cases hreported : reported s verbose d with
    | error e =>
      rw [sequence_cons_of_stops _ _ _ (stops_of_error s verbose d hreported),
        alone_of_error s verbose d hreported]
      exact gives_pure _
    | ok printed =>
      have hstops : stops s d = false := by
        rw [stops, ← ending_alone s verbose, alone_eq, hreported]
        rfl
      rw [sequence_cons_of_done _ _ _ hstops, alone_eq, hreported]
      exact ih.pure_bind (gives_pure _)

theorem gives_plan {request : PlanRequest} (h : documents s request = .ok ds) :
    Gives (plan s request) (sequence s request.verbose ds) [] := by
  rw [plan, h]
  exact gives_planDocuments s request.verbose ds

/-- What is expected of a run over several documents: what they print alone stands side by side, up
to the first one that fails, and the exit code tells whether there is one. -/
@[mk_iff]
structure PlansApart (s : Surroundings) (verbose : Bool) (ds : List DocumentSettings)
    (o : Outcome) : Prop where
  printed : o.printed = (upTo (fails s) ds).flatMap fun d => (alone s verbose d).printed
  exitCode : o.ending.exitCode = 0 ↔ ∀ d ∈ ds, (alone s false d).ending ≠ .failed

/-- None of the documents up to the one that the run ends with ends in an accident. -/
def Unhurt (s : Surroundings) (ds : List DocumentSettings) : Prop :=
  ∀ d ∈ upTo (stops s) ds, ∀ a, (alone s false d).ending ≠ .accident a

theorem exitCode_sequence : (sequence s verbose ds).ending.exitCode = 0 ↔
    ∀ d ∈ ds, (alone s false d).ending = .done := by
  induction ds with
  | nil => simp [sequence, Ending.exitCode]
  | cons d rest ih =>
    cases hstops : stops s d with
    | false =>
      rw [sequence_cons_of_done _ _ _ hstops, ih, List.forall_mem_cons]
      exact (and_iff_right ((stops_eq_false_iff s d).1 hstops)).symm
    | true =>
      have hne := (stops_eq_true_iff s d).1 hstops
      have hcode : (alone s verbose d).ending.exitCode ≠ 0 := by
        rw [ending_alone]
        rcases ending_cases s d with hdone | hfailed | ⟨a, haccident⟩
        · exact absurd hdone hne
        · simp [hfailed, Ending.exitCode]
        · simp [haccident, Ending.exitCode]
      rw [sequence_cons_of_stops _ _ _ hstops, List.forall_mem_cons]
      exact iff_of_false hcode fun h => hne h.1

theorem unhurt_cons_of_done (h : (alone s false d).ending = .done) :
    Unhurt s (d :: ds) ↔ Unhurt s ds := by
  rw [Unhurt, Unhurt, upTo_cons_of_neg ((stops_eq_false_iff s d).2 h), List.forall_mem_cons]
  simp [h]

theorem unhurt_cons_of_stops (h : stops s d = true) :
    Unhurt s (d :: ds) ↔ ∀ a, (alone s false d).ending ≠ .accident a := by
  rw [Unhurt, upTo_cons_of_pos h, List.forall_mem_singleton]

theorem plansApart_cons_of_done (h : (alone s false d).ending = .done) :
    PlansApart s verbose (d :: ds) (sequence s verbose (d :: ds)) ↔
      PlansApart s verbose ds (sequence s verbose ds) := by
  have hfails : fails s d = false := by simp [fails, h]
  rw [plansApart_iff, plansApart_iff, sequence_cons_of_done _ _ _ ((stops_eq_false_iff s d).2 h),
    upTo_cons_of_neg hfails, List.flatMap_cons, List.append_right_inj, List.forall_mem_cons]
  simp [h]

theorem plansApart_cons_of_failed (h : (alone s false d).ending = .failed) :
    PlansApart s verbose (d :: ds) (sequence s verbose (d :: ds)) := by
  have hstops : stops s d = true := by simp [h]
  rw [sequence_cons_of_stops _ _ _ hstops]
  refine ⟨?_, iff_of_false ?_ ?_⟩
  · rw [upTo_cons_of_pos ((fails_eq_true_iff s d).2 h), List.flatMap_singleton]
  · rw [ending_alone, h]
    decide
  · exact fun hall => hall d List.mem_cons_self h

/-- Behind an accident, either nothing fails, and then the exit code is wrong, or something does,
and then a line is missing. -/
theorem not_plansApart_cons_of_accident {a : Accident}
    (h : (alone s false d).ending = .accident a) :
    ¬ PlansApart s verbose (d :: ds) (sequence s verbose (d :: ds)) := by
  have hstops : stops s d = true := by simp [h]
  rw [sequence_cons_of_stops _ _ _ hstops]
  rintro ⟨hprinted, hcode⟩
  rw [ending_alone, h] at hcode
  have hfailing : ∃ f ∈ d :: ds, (alone s false f).ending = .failed := by
    by_contra hnone
    exact absurd (hcode.2 fun f hf hending => hnone ⟨f, hf, hending⟩) Nat.one_ne_zero
  obtain ⟨f, hf, hending⟩ := hfailing
  obtain ⟨g, hg, hfails⟩ := exists_mem_upTo hf ((fails_eq_true_iff s f).2 hending)
  rw [printed_eq_nil_of_accident s verbose d h, eq_comm, List.flatMap_eq_nil_iff] at hprinted
  exact printed_ne_nil_of_fails s verbose g hfails (hprinted g hg)

/-- **A run is what is expected exactly if no accident ends it.** -/
theorem plansApart_sequence_iff :
    PlansApart s verbose ds (sequence s verbose ds) ↔ Unhurt s ds := by
  induction ds with
  | nil => simp [plansApart_iff, Unhurt, upTo, sequence, Ending.exitCode]
  | cons d rest ih =>
    rcases ending_cases s d with hdone | hfailed | ⟨a, haccident⟩
    · rw [plansApart_cons_of_done _ _ _ hdone, ih, unhurt_cons_of_done s d hdone]
    · refine iff_of_true (plansApart_cons_of_failed _ _ _ hfailed) ?_
      rw [unhurt_cons_of_stops s d (by simp [hfailed])]
      simp [hfailed]
    · refine iff_of_false (not_plansApart_cons_of_accident _ _ _ haccident) ?_
      rw [unhurt_cons_of_stops s d (by simp [haccident])]
      exact fun h => h a haccident

end CommandLine

open CommandLine

/-- **Documents are planned apart from each other.**  With the diagnostics or without, a run prints
what each document prints alone, in their order, up to the first one whose run does not end well; it
ends as that one does, and adds nothing to the collector.  So its exit code is 0 exactly if all end
well.  What a document prints alone is all that is printed where it is the only one and is loaded
and shown alike; it is its table, the diagnostics that a collector of its own gets on it, if they
are asked for, and the number of its files; or else one line on the problem; or else nothing.  That
is what is expected exactly if no accident ends the run. -/
theorem documents_planned_apart (s : Surroundings) (request : PlanRequest)
    (ds : List DocumentSettings) (h : documents s request = .ok ds) :
    (∀ verbose j,
      (((plan s { request with verbose }).run j).1.printed =
          (upTo (stops s) ds).flatMap fun d => (alone s verbose d).printed) ∧
      (((plan s { request with verbose }).run j).1.ending =
          (ds.find? (stops s)).elim .done fun d => (alone s false d).ending) ∧
      (((plan s { request with verbose }).run j).1.ending.exitCode = 0 ↔
          ∀ d ∈ ds, (alone s false d).ending = .done) ∧
      ((plan s { request with verbose }).run j).2.collector = j.collector) ∧
    (∀ d ∈ ds, DoneAlone s d ∧ ∀ s' request' j, s.Alike d.source s' →
      documents s' request' = .ok [d] →
        ((plan s' request').run j).1 = alone s request'.verbose d) ∧
    ∀ verbose j, PlansApart s verbose ds ((plan s { request with verbose }).run j).1 ↔
      Unhurt s ds := by
  have hgives : ∀ verbose,
      Gives (plan s { request with verbose }) (sequence s verbose ds) [] := fun _ => gives_plan s h
  refine ⟨fun verbose j => ?_, fun d _ => ⟨doneAlone s d, fun s' request' j halike hone => ?_⟩,
    fun verbose j => ?_⟩
  · rw [(hgives verbose).result]
    refine ⟨rfl, rfl, exitCode_sequence s verbose, ?_⟩
    rw [(hgives verbose).collector]
    simp
  · rw [plan, hone, alone_congr s request'.verbose d halike, alone_eq]
    exact (gives_planDocuments_singleton s' request'.verbose d).result j
  · rw [(hgives verbose).result]
    exact plansApart_sequence_iff s verbose

/-- A document with a list of tags is planned, and the next one is not there. -/
theorem tags_planned_then_nothing_found :
    let bytes (text : String) : List UInt8 := text.toUTF8.toList
    let s : Surroundings := (Directory.mk [
      (["apisplit.toml".toList], .file (bytes
        "[[documents]]\nsource = 'tags.json'\n[[documents]]\nsource = 'lost.json'\n")),
      (["tags.json".toList], .file (bytes
        ("\x7b\"openapi\": \"3.1.0\", \"info\": \x7b\"title\": \"\", \"version\": \"\"\x7d, " ++
          "\"components\": \x7b\"schemas\": \x7b\"Tags\": \x7b\x7d\x7d\x7d\x7d")))]).surroundings "/home"
    let request : PlanRequest := ⟨none, some "apisplit.toml", none, [], none, true⟩
    let tags : DocumentSettings := ⟨.default, "tags.json"⟩
    let lost : DocumentSettings := ⟨.default, "lost.json"⟩
    documents s request = .ok [tags, lost] ∧
      ((plan s request).run .uncollected).1.ending = .failed ∧
      PlansApart s true [tags, lost] ((plan s request).run .uncollected).1 := by
  intro bytes s request tags lost
  have hds : documents s request = .ok [tags, lost] :=
    eq_ok_of_toOption (by decide +kernel)
  have htags : (alone s false tags).ending = .done := by decide +kernel
  have hlost : (alone s false lost).ending = .failed := by decide +kernel
  obtain ⟨hrun, -, hiff⟩ := documents_planned_apart s request [tags, lost] hds
  refine ⟨hds, (hrun true .uncollected).2.1.trans ?_, (hiff true .uncollected).2 ?_⟩
  · simp [stops, htags, hlost]
  · simp [Unhurt, upTo, stops, htags, hlost]

/-- A document that is not UTF-8 is named first: nothing is printed, not even for the other one, and
no document fails, but the exit code says so. -/
theorem latin_document_unreported :
    let bytes (text : String) : List UInt8 := text.toUTF8.toList
    let s : Surroundings := (Directory.mk [
      (["apisplit.toml".toList], .file (bytes
        "[[documents]]\nsource = 'latin.json'\n[[documents]]\nsource = 'tags.json'\n")),
      (["latin.json".toList], .file [0xFF]),
      (["tags.json".toList], .file (bytes
        ("\x7b\"openapi\": \"3.1.0\", \"info\": \x7b\"title\": \"\", \"version\": \"\"\x7d, " ++
          "\"components\": \x7b\"schemas\": \x7b\"Tags\": \x7b\x7d\x7d\x7d\x7d")))]).surroundings "/home"
    let request : PlanRequest := ⟨none, some "apisplit.toml", none, [], none, false⟩
    let latin : DocumentSettings := ⟨.default, "latin.json"⟩
    let tags : DocumentSettings := ⟨.default, "tags.json"⟩
    documents s request = .ok [latin, tags] ∧
      ((plan s request).run .uncollected).1 = ⟨[], .accident .undecodableFile⟩ ∧
      (∀ d ∈ [latin, tags], (alone s false d).ending ≠ .failed) ∧
      ¬ PlansApart s false [latin, tags] ((plan s request).run .uncollected).1 := by
  intro bytes s request latin tags
  have hds : documents s request = .ok [latin, tags] :=
    eq_ok_of_toOption (by decide +kernel)
  have hlatin : alone s false latin = ⟨[], .accident .undecodableFile⟩ := by decide +kernel
  have htags : (alone s false tags).ending = .done := by decide +kernel
  have hrun : ((plan s request).run .uncollected).1 = sequence s false [latin, tags] :=
    (gives_plan s hds).result .uncollected
  refine ⟨hds, ?_, ?_, ?_⟩
  · rw [hrun, sequence_cons_of_stops s false latin (by simp [hlatin]), hlatin]
  · simp [hlatin, htags]
  · rw [hrun]
    exact not_plansApart_cons_of_accident s false latin (by rw [hlatin])

end TypeFiles
