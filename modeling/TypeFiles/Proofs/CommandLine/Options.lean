/-
# Options, and the same in a file

What a document is told can stand behind its source on the command line, or in a file of settings as
the fields of the only document that is listed there.  Both are read by the same reading of fields;
what differs is which fields the options make.

| option | on the command line | in a file |
| --- | --- | --- |
| namespace, not given | null | absent, or null |
| imports, none given | an empty list | absent, or an empty list |
| extension, not given | absent | absent |
| extension, empty | absent | an empty text |
| any option, otherwise | its value | its value |

The last row but one is where the two part: an empty extension is refused in a file, as an empty
namespace is in both places, and passed over on the command line.  So the two come to the same
exactly if the extension is not empty or the namespace is refused anyway
(`options_as_in_file_iff`, `empty_extension_passed_over`).
-/

import TypeFiles.Proofs.CommandLine.Documents
import TypeFiles.Proofs.Settings.Discovery
import TypeFiles.Proofs.Settings.Reading

namespace TypeFiles

open CommandLine

/-- What a document is told: where it is, and the options that are given. -/
structure DocumentOptions where
  source : String
  rootNamespace : Option String
  additionalImports : List String
  extension : Option String
  deriving DecidableEq, Repr

namespace DocumentOptions

variable (o : DocumentOptions)

/-! ## Options that fit -/

/-- What is wrong with the root namespace. -/
def namespaceFaults : List Fault :=
  match o.rootNamespace with
  | none => []
  | some name =>
    if Text.isIdentifier name then [] else [⟨[.field "namespace"], .namespaceNoIdentifier name⟩]

/-- An extension without the dots in front of it. -/
def bareExtension (extension : String) : String :=
  String.ofList (extension.toList.dropWhile fun c => c == '.')

/-- What is wrong with the extension. -/
def extensionFaults : List Fault :=
  match o.extension with
  | none => []
  | some extension =>
    if bareExtension extension = "" then [⟨[.field "file_extension"], .emptyExtension⟩] else []

/-- What is wrong with the options.  Any text will do as a source or an import. -/
def faults : List Fault := o.namespaceFaults ++ o.extensionFaults

/-- The settings that the options come to if nothing is wrong with them. -/
def settings : DocumentSettings where
  settings := {
    rootNamespace := o.rootNamespace
    additionalImports := o.additionalImports
    fileExtension := (o.extension.map bareExtension).getD "py"
    preserveAnnotations := false }
  source := o.source

/-- The options without an extension that is empty. -/
def withoutEmpty : DocumentOptions := { o with extension := o.extension.filter (· != "") }

/-- The fields of a mapping say what the options say.  An option that is not given is a field that
is not there, or one with the value that stands for it. -/
structure SaidBy (document : Value) : Prop where
  mapping : ∃ entries, document = .mapping entries
  source : document.get? "source" = some (.text o.source)
  rootNamespace : (document.get? "namespace").getD .null = o.rootNamespace.elim .null .text
  additionalImports : (document.get? "additional_imports").getD (.list []) =
    .list (o.additionalImports.map .text)
  extension : document.get? "file_extension" = o.extension.map .text
  preserveAnnotations : document.get? "preserve_annotations" = none

variable {o} {document : Value}

open Settings

theorem readNamespace_eq : Checked.under (.field "namespace")
    (readNamespace (o.rootNamespace.elim .null .text)) =
      Checked.ofFaults o.namespaceFaults o.rootNamespace := by
  unfold namespaceFaults
  cases o.rootNamespace with
  | none => rfl
  | some name =>
    change Checked.under _ (if Text.isIdentifier name then .ok (some name)
      else Checked.fault (.namespaceNoIdentifier name)) = _
    dsimp only
    split <;> rfl

theorem readExtension_eq (h : document.get? "file_extension" = o.extension.map .text) :
    readField document "file_extension" (.ok "py") readExtension =
      Checked.ofFaults o.extensionFaults ((o.extension.map bareExtension).getD "py") := by
  unfold readField extensionFaults
  rw [h]
  cases o.extension with
  | none => rfl
  | some extension =>
    have hempty : (extension.toList.dropWhile fun c => c == '.').isEmpty = true ↔
        bareExtension extension = "" := by
      rw [List.isEmpty_iff, bareExtension, ← String.toList_eq_nil_iff, String.toList_ofList]
    change Checked.under _ (if (extension.toList.dropWhile fun c => c == '.').isEmpty
      then Checked.fault .emptyExtension else .ok (bareExtension extension)) = _
    dsimp only [Option.map_some, Option.getD_some]
    simp only [hempty]
    split <;> rfl

/-- **What options come to is settled by what they say**, whichever mapping says it. -/
theorem read_of_saidBy (h : o.SaidBy document) :
    DocumentSettings.read document = Checked.ofFaults o.faults o.settings := by
  have hnamespace : readField document "namespace" (.ok none) readNamespace =
      Checked.ofFaults o.namespaceFaults o.rootNamespace := by
    rw [← readNamespace_eq, ← h.rootNamespace]
    exact readField_eq rfl
  have himports : readField document "additional_imports" (.ok []) readImports =
      Checked.ofFaults [] o.additionalImports := by
    have hnone : readImports (.list []) = .ok [] := rfl
    have htext : ∀ text, readText (.text text) = .ok text := fun _ => rfl
    rw [readField_eq hnone, h.additionalImports]
    exact congrArg (Checked.under _) (Checked.all_eq_ok htext o.additionalImports 0)
  have hpreserve : readField document "preserve_annotations" (.ok false) readTruth =
      Checked.ofFaults [] false := by
    rw [readField, h.preserveAnnotations]
    rfl
  have hsource : readField document "source" (Checked.fault .missing) readText =
      Checked.ofFaults [] o.source := by
    rw [readField, h.source]
    rfl
  have hfields : readFields document = Checked.ofFaults o.faults o.settings.settings := by
    unfold readFields
    rw [hnamespace, himports, readExtension_eq h.extension, hpreserve]
    simp only [Checked.both_ofFaults, Checked.map_ofFaults, List.nil_append, List.append_nil]
    rfl
  obtain ⟨entries, rfl⟩ := h.mapping
  rw [DocumentSettings.read, hfields, hsource, Checked.both_ofFaults, Checked.map_ofFaults,
    List.append_nil]
  rfl

/-! ## On the command line -/

/-- The request that has the options behind the source. -/
def request (o : DocumentOptions) (verbose : Bool) : PlanRequest :=
  ⟨some o.source, none, o.rootNamespace, o.additionalImports, o.extension, verbose⟩

/-- The options that are given, with their values. -/
def given (o : DocumentOptions) : List (ProgramOption × String) :=
  (o.rootNamespace.toList.map (.rootNamespace, ·)) ++
    (o.additionalImports.map (.additionalImport, ·)) ++ (o.extension.toList.map (.extension, ·))

end DocumentOptions

/-- The long name of an option. -/
def ProgramOption.longName : ProgramOption → String
  | .config => "--config"
  | .rootNamespace => "--namespace"
  | .additionalImport => "--import"
  | .extension => "--ext"
  | .verbose => "--verbose"
  | .help => "--help"

namespace Arguments

/-- Behind the long name of an option that takes a value, the next argument is that value, whatever
it looks like. -/
theorem readFrom_longName (option : ProgramOption) (h : option.takesValue = true) (value : String)
    (rest : List String) :
    readFrom (fun _ => true) true none (option.longName :: value :: rest) =
      (readFrom (fun _ => true) true none rest).map (withOption option value) := by
  have hgroup : group? (fun _ => true) option.longName.toList = some ⟨[], some option⟩ := by
    cases option <;> first | rfl | cases h
  have hdashes : (option.longName == "--") = false := by
    cases option <;> rfl
  have hgives : givesOptions option.longName.toList = true := by
    cases option <;> rfl
  rw [readFrom, hdashes, hgives, hgroup]
  simp only [Bool.false_eq_true, if_false, if_true, Option.bind_eq_bind, Option.bind_some,
    List.nil_append]
  rw [readFrom]
  cases readFrom (fun _ => true) true none rest <;> rfl

/-- Options that take a value stand in front of the others that are read. -/
theorem readFrom_valued (given : List (ProgramOption × String))
    (h : ∀ g ∈ given, g.1.takesValue = true) (rest : List String) :
    readFrom (fun _ => true) true none (given.flatMap (fun g => [g.1.longName, g.2]) ++ rest) =
      (readFrom (fun _ => true) true none rest).map fun a =>
        { a with options := given ++ a.options } := by
  induction given with
  | nil => simp
  | cons g given ih =>
    rw [List.forall_mem_cons] at h
    rw [List.flatMap_cons, List.append_assoc, List.cons_append, List.cons_append, List.nil_append,
      readFrom_longName g.1 h.1, ih h.2, Option.map_map]
    rfl

theorem values_append (first second : List (ProgramOption × String)) (operands : List String)
    (option : ProgramOption) : (⟨first ++ second, operands⟩ : Arguments).values option =
      (⟨first, operands⟩ : Arguments).values option ++
        (⟨second, operands⟩ : Arguments).values option := by
  simp [values]

/-- Where one option has all the values, another one has none. -/
theorem values_map (given option : ProgramOption) (values operands : List String) :
    (⟨values.map (given, ·), operands⟩ : Arguments).values option =
      if given = option then values else [] := by
  unfold Arguments.values
  split <;> simp_all [List.filter_map, Function.comp_def]

end Arguments

namespace DocumentOptions

/-- Arguments that ask for a plan with the options. -/
def arguments (o : DocumentOptions) (verbose : Bool) : List String :=
  "plan" :: o.given.flatMap (fun g => [g.1.longName, g.2]) ++
    ((if verbose then ["--verbose"] else []) ++ ["--", o.source])

/-- Every combination of options can be asked for, whatever the texts are. -/
theorem read_arguments (o : DocumentOptions) (verbose : Bool) :
    Command.read (o.arguments verbose) = .plan (o.request verbose) := by
  have hgiven : ∀ g ∈ o.given, g.1.takesValue = true := by
    simp only [given, List.mem_append, List.mem_map]
    rintro g ((⟨_, _, rfl⟩ | ⟨_, _, rfl⟩) | ⟨_, _, rfl⟩) <;> rfl
  have hbehind : Arguments.readFrom (fun _ => true) true none
      ((if verbose then ["--verbose"] else []) ++ ["--", o.source]) =
        some ⟨if verbose then [(.verbose, "")] else [], [o.source]⟩ := by
    cases verbose <;> rfl
  have hread : Arguments.read (fun _ => true) true
      (o.given.flatMap (fun g => [g.1.longName, g.2]) ++
        ((if verbose then ["--verbose"] else []) ++ ["--", o.source])) =
      some ⟨o.given ++ if verbose then [(.verbose, "")] else [], [o.source]⟩ := by
    rw [Arguments.read, Arguments.readFrom_valued _ hgiven, hbehind]
    rfl
  unfold Command.read arguments
  rw [List.cons_append]
  change ((Arguments.read (fun _ => true) true _).map Command.planOf).getD .misuse = _
  rw [hread]
  have hlast : ∀ x : Option String, x.toList.getLast? = x := fun x => by cases x <;> rfl
  have hflag : ∀ option, (⟨[(.verbose, "")], [o.source]⟩ : Arguments).values option =
      if .verbose = option then [""] else [] :=
    fun option => Arguments.values_map .verbose option [""] [o.source]
  cases verbose
  all_goals
    simp [Command.planOf, Arguments.has, Arguments.value?, given, request, hlast, hflag,
      Arguments.values_append, Arguments.values_map]

/-! ## The same documents -/

/-- A collection that lists one document. -/
def listing (document : Value) : Value := .ofFields [("documents", .list [document])]

/-- The request that has the options in a file. -/
def fileRequest (path : String) (verbose : Bool) : PlanRequest :=
  ⟨none, some path, none, [], none, verbose⟩

variable {o : DocumentOptions} {document : Value}

/-- On the command line an empty extension is not said. -/
theorem saidBy_fieldsOf (o : DocumentOptions) (verbose : Bool) :
    o.withoutEmpty.SaidBy (fieldsOf (o.request verbose) o.source) := by
  obtain ⟨source, root, imports, extension⟩ := o
  cases extension with
  | none => exact ⟨⟨_, rfl⟩, rfl, rfl, rfl, rfl, rfl⟩
  | some e =>
    by_cases h : e = ""
    · subst h
      exact ⟨⟨_, rfl⟩, rfl, rfl, rfl, rfl, rfl⟩
    · have hfields : fieldsOf (request ⟨source, root, imports, some e⟩ verbose) source =
          .ofFields [("source", .text source), ("namespace", root.elim .null .text),
            ("additional_imports", .list (imports.map .text)), ("file_extension", .text e)] := by
        simp [fieldsOf, request, h]
      have hkept : withoutEmpty ⟨source, root, imports, some e⟩ =
          ⟨source, root, imports, some e⟩ := by
        simp [withoutEmpty, h]
      rw [hfields, hkept]
      exact ⟨⟨_, rfl⟩, rfl, rfl, rfl, rfl, rfl⟩

/-- What the command line makes of the options. -/
theorem documents_request (s : Surroundings) (o : DocumentOptions) (verbose : Bool) :
    documents s (o.request verbose) =
      (Checked.ofFaults o.withoutEmpty.faults [o.withoutEmpty.settings]).mapError
        fun faults => .rejected ⟨.document, faults⟩ := by
  change (DocumentSettings.validate (fieldsOf (o.request verbose) o.source)).map _ = _
  rw [DocumentSettings.validate, read_of_saidBy (saidBy_fieldsOf o verbose)]
  cases o.withoutEmpty.faults <;> rfl

/-- A collection that lists one document has the faults of that document. -/
theorem readCollection_listing (h : o.SaidBy document) :
    DocumentSettings.readCollection [(.text "documents", .list [document])] =
      Checked.ofFaults (o.faults.map fun f => (f.under (.index 0)).under (.field "documents"))
        [o.settings] := by
  have hitems : DocumentSettings.readDocuments (.list [document]) =
      Checked.ofFaults (o.faults.map (Fault.under (.index 0))) [o.settings] := by
    change (Checked.both (Checked.under (.index 0) (DocumentSettings.read document))
      (Checked.ofFaults [] [])).map _ = _
    rw [read_of_saidBy h, Checked.under_ofFaults, Checked.both_ofFaults, Checked.map_ofFaults,
      List.append_nil]
  rw [DocumentSettings.readCollection_documents, hitems, Checked.under_ofFaults, List.map_map]
  rfl

/-- What a file makes of the options. -/
theorem documents_fileRequest {s : Surroundings} {path : String} (verbose : Bool)
    (hpath : path ≠ "") (hload : Discovery.load s (.read path) = .ok (listing document))
    (h : o.SaidBy document) :
    documents s (fileRequest path verbose) =
      (Checked.ofFaults (o.faults.map fun f => (f.under (.index 0)).under (.field "documents"))
        [o.settings]).mapError fun faults => .rejected ⟨.collection, faults⟩ := by
  change Discovery.documents s (some path) = _
  rw [Discovery.documents_of_ne_empty s hpath, Discovery.documentsIn, hload]
  change DocumentSettings.validateCollection s.search (listing document) = _
  rw [listing, DocumentSettings.validateCollection_documents, DocumentSettings.collectionOf,
    readCollection_listing h]

theorem withoutEmpty_of_ne (h : o.extension ≠ some "") : o.withoutEmpty = o := by
  obtain ⟨source, root, imports, extension⟩ := o
  cases extension with
  | none => rfl
  | some e =>
    have he : e ≠ "" := fun he => h (congrArg some he)
    simp [withoutEmpty, he]

theorem faults_of_empty (h : o.extension = some "") :
    o.faults = o.namespaceFaults ++ [⟨[.field "file_extension"], .emptyExtension⟩] ∧
      o.withoutEmpty.faults = o.namespaceFaults := by
  obtain ⟨source, root, imports, extension⟩ := o
  obtain rfl : extension = some "" := h
  exact ⟨rfl, List.append_nil _⟩

end DocumentOptions

open DocumentOptions

/-- Two ways to ask for a plan come to the same: both are refused for settings that do not fit, and
exit with 1, or both are for one document with the same settings, and then they print the same and
end alike. -/
inductive SamePlan (s : Surroundings) (argv argv' : List String) : Prop
  | refused (request request' : PlanRequest) (r r' : Rejection)
      (asked : Command.read argv = .plan request) (asked' : Command.read argv' = .plan request')
      (rejected : documents s request = .error (.rejected r))
      (rejected' : documents s request' = .error (.rejected r'))
      (exitCode : ∀ j, ((run s argv).run j).1.ending.exitCode = 1)
      (exitCode' : ∀ j, ((run s argv').run j).1.ending.exitCode = 1)
  | planned (request request' : PlanRequest) (d : DocumentSettings)
      (asked : Command.read argv = .plan request) (asked' : Command.read argv' = .plan request')
      (settled : documents s request = .ok [d]) (settled' : documents s request' = .ok [d])
      (run_eq : ∀ j, (run s argv).run j = (run s argv').run j)

section

variable {s : Surroundings} {argv argv' : List String} {request request' : PlanRequest}

theorem run_of_plan (h : Command.read argv = .plan request) : run s argv = plan s request := by
  rw [run, h]

theorem exitCode_of_rejected {r : Rejection} (h : Command.read argv = .plan request)
    (hrejected : documents s request = .error (.rejected r)) (j : Journal) :
    ((run s argv).run j).1.ending.exitCode = 1 := by
  rw [run_of_plan h, plan, hrejected]
  rfl

/-- Settings that are there for one of two requests and refused for the other are not the same. -/
theorem not_samePlan_of_rejected {ds : List DocumentSettings} {r : Rejection}
    (h : Command.read argv = .plan request) (h' : Command.read argv' = .plan request')
    (hsettled : documents s request = .ok ds)
    (hrejected : documents s request' = .error (.rejected r)) : ¬ SamePlan s argv argv' := by
  rintro (⟨request₁, request₂, _, _, asked, asked', rejected, -⟩ |
    ⟨request₁, request₂, d, asked, asked', -, settled'⟩)
  · obtain rfl := Command.plan.inj (h.symm.trans asked)
    rw [hsettled] at rejected
    cases rejected
  · obtain rfl := Command.plan.inj (h'.symm.trans asked')
    rw [hrejected] at settled'
    cases settled'

end

/-- **Options mean the same on the command line and in a file, but for an empty extension.**  A plan
of a source with options, and one with a file that lists this document with the same options as its
fields, come to the same exactly if the extension is not empty or the namespace is refused anyway.
In the file every fault of the options is found, at its field of the first document; on the command
line an empty extension is no option at all.  What has no faults comes to its settings. -/
theorem options_as_in_file_iff (s : Surroundings) (o : DocumentOptions) (verbose : Bool)
    (argv argv' : List String) (path : String) (document : Value)
    (hargv : Command.read argv = .plan (o.request verbose))
    (hargv' : Command.read argv' = .plan (fileRequest path verbose))
    (hpath : path ≠ "") (hload : Discovery.load s (.read path) = .ok (listing document))
    (hsaid : o.SaidBy document) :
    (SamePlan s argv argv' ↔ (o.extension = some "" → o.namespaceFaults ≠ [])) ∧
    documents s (o.request verbose) =
      (Checked.ofFaults o.withoutEmpty.faults [o.withoutEmpty.settings]).mapError
        (fun faults => .rejected ⟨.document, faults⟩) ∧
    documents s (fileRequest path verbose) =
      (Checked.ofFaults (o.faults.map fun f => (f.under (.index 0)).under (.field "documents"))
        [o.settings]).mapError (fun faults => .rejected ⟨.collection, faults⟩) := by
  have hline := documents_request s o verbose
  have hfile := documents_fileRequest verbose hpath hload hsaid
  refine ⟨⟨?_, ?_⟩, hline, hfile⟩
  · -- An empty extension alone is no fault on the command line, and one in the file.
    intro hsame hempty hfits
    obtain ⟨hfaults, hkept⟩ := faults_of_empty hempty
    rw [hkept, hfits] at hline
    rw [hfaults, hfits] at hfile
    exact not_samePlan_of_rejected hargv hargv' hline hfile hsame
  · intro h
    by_cases hempty : o.extension = some ""
    · obtain ⟨hfaults, hkept⟩ := faults_of_empty hempty
      rw [hkept, Checked.ofFaults_of_ne_nil (h hempty)] at hline
      rw [hfaults, Checked.ofFaults_of_ne_nil (by simp)] at hfile
      exact .refused _ _ _ _ hargv hargv' hline hfile (exitCode_of_rejected hargv hline)
        (exitCode_of_rejected hargv' hfile)
    · rw [withoutEmpty_of_ne hempty] at hline
      cases hfaults : o.faults with
      | nil =>
        rw [hfaults] at hline hfile
        refine .planned _ _ o.settings hargv hargv' hline hfile fun j => ?_
        rw [run_of_plan hargv, run_of_plan hargv', plan, plan, hline, hfile]
        rfl
      | cons fault others =>
        rw [hfaults] at hline hfile
        exact .refused _ _ _ _ hargv hargv' hline hfile (exitCode_of_rejected hargv hline)
          (exitCode_of_rejected hargv' hfile)

/-- The fields of a mapping, if all of them are texts. -/
def textFields? : List (Value × Value) → Option (List (String × String))
  | [] => some []
  | (.text name, .text text) :: rest => (textFields? rest).map ((name, text) :: ·)
  | _ => none

/-- The fields of the only document that a value lists, if all of them are texts. -/
def listedTexts? : Value → Option (List (String × String))
  | .mapping [(.text "documents", .list [.mapping entries])] => textFields? entries
  | _ => none

theorem eq_of_textFields? {entries : List (Value × Value)} {fields : List (String × String)}
    (h : textFields? entries = some fields) :
    entries = fields.map fun field => (.text field.1, .text field.2) := by
  fun_induction textFields? entries generalizing fields with
  | case1 =>
    obtain rfl := Option.some.inj h
    rfl
  | case2 name text rest ih =>
    obtain ⟨others, hothers, rfl⟩ := Option.map_eq_some_iff.1 h
    rw [ih hothers]
    rfl
  | case3 => cases h

/-- A file that lists one document is known by the texts of its fields. -/
theorem load_of_listedTexts {s : Surroundings} {path : String} (fields : List (String × String))
    (h : (Discovery.load s (.read path)).toOption.bind listedTexts? = some fields) :
    Discovery.load s (.read path) =
      .ok (listing (.ofFields (fields.map fun field => (field.1, .text field.2)))) := by
  obtain ⟨v, hv, hlisted⟩ := Option.bind_eq_some_iff.1 h
  rw [eq_ok_of_toOption hv]
  unfold listedTexts? at hlisted
  split at hlisted
  · rw [eq_of_textFields? hlisted, listing, Value.ofFields, Value.ofFields, List.map_map]
    rfl
  · cases hlisted

/-- A root namespace means the same in both places, where no other option is given. -/
theorem namespace_in_one_file :
    let bytes (text : String) : List UInt8 := text.toUTF8.toList
    let s : Surroundings := (Directory.mk [
      (["one.toml".toList], .file (bytes
        "documents=[\x7bsource='tags.json',namespace='API'\x7d]"))]).surroundings "/home"
    SamePlan s ["plan", "tags.json", "-nAPI"] ["plan", "--config=one.toml"] := by
  intro bytes s
  let o : DocumentOptions := ⟨"tags.json", some "API", [], none⟩
  let document : Value := .ofFields [("source", .text "tags.json"), ("namespace", .text "API")]
  have hload : Discovery.load s (.read "one.toml") = .ok (listing document) :=
    load_of_listedTexts [("source", "tags.json"), ("namespace", "API")] (by decide +kernel)
  exact (options_as_in_file_iff s o false _ _ "one.toml" document rfl rfl (by decide) hload
    ⟨⟨_, rfl⟩, rfl, rfl, rfl, rfl, rfl⟩).1.2 nofun

/-- An empty extension is passed over on the command line, and refused in a file. -/
theorem empty_extension_passed_over :
    let bytes (text : String) : List UInt8 := text.toUTF8.toList
    let s : Surroundings := (Directory.mk [
      (["one.toml".toList], .file (bytes
        "documents=[\x7bsource='tags.json',file_extension=''\x7d]")),
      (["tags.json".toList], .file (bytes
        ("\x7b\"openapi\": \"3.1.0\", \"info\": \x7b\"title\": \"\", \"version\": \"\"\x7d, " ++
          "\"components\": \x7b\"schemas\": \x7b\"Tags\": \x7b\x7d\x7d\x7d\x7d")))]).surroundings "/home"
    let o : DocumentOptions := ⟨"tags.json", none, [], some ""⟩
    let argv := ["plan", "tags.json", "--ext", ""]
    let argv' := ["plan", "--config", "one.toml"]
    let document : Value := .ofFields [("source", .text "tags.json"), ("file_extension", .text "")]
    Command.read argv = .plan (o.request false) ∧
      Command.read argv' = .plan (fileRequest "one.toml" false) ∧
      Discovery.load s (.read "one.toml") = .ok (listing document) ∧ o.SaidBy document ∧
      ((run s argv).run .uncollected).1.ending = .done ∧
      ((run s argv').run .uncollected).1.ending = .failed ∧ ¬ SamePlan s argv argv' := by
  intro bytes s o argv argv' document
  have hload : Discovery.load s (.read "one.toml") = .ok (listing document) :=
    load_of_listedTexts [("source", "tags.json"), ("file_extension", "")] (by decide +kernel)
  have hsaid : o.SaidBy document := ⟨⟨_, rfl⟩, rfl, rfl, rfl, rfl, rfl⟩
  refine ⟨rfl, rfl, hload, hsaid, by decide +kernel, by decide +kernel, ?_⟩
  exact fun hsame => (options_as_in_file_iff s o false argv argv' "one.toml" document rfl rfl
    (by decide) hload hsaid).1.1 hsame rfl rfl

end TypeFiles
