/-
# Failures that are reported, and those that are not

Deriving a document fails as the first of its checks that does not pass.  A reference with a text
fails with a problem, which has a line for the user.  The other checks have none: what they run into
is not looked out for anywhere, and passes through to the end of the run.

| check | fails as |
| --- | --- |
| a reference with a text names a schema of the document | a problem |
| a reference has a text | an accident |
| a property has a name | an accident |
| a value can be written | an accident |

So a document that is not derived is reported exactly if none of the last three is the first check
that fails (`failures_foreseen_iff`).  A valid document can have any of them
(`unnamed_property_escapes`).
-/

import TypeFiles.Proofs.CommandLine.Documents
import TypeFiles.Proofs.Derivation.Checks

namespace TypeFiles

open TypeFiles.Derivation

/-- A failure to derive a document that is a problem with a line for the user. -/
def Failure.IsForeseen (f : Failure) : Prop :=
  ∃ p : Problem, f = .problem p ∧ Category.derivation ∈ p.category.lineage

/-- The accidents that deriving a document can end in. -/
def Accident.ofDerivation : List Accident :=
  [.emptyName, .unreadableReference, .tooManyDigits none]

/-- A check that has no problem to fail with. -/
def Check.IsUnguarded : Check → Prop
  | .reference (.pointer _) _ => False
  | .reference .unreadable _ | .named _ | .written _ => True

/-- The first check that does not pass has no problem to fail with. -/
def UnguardedFirst (keys : List String) (cs : List Check) : Prop :=
  ∃ before c after, cs = before ++ c :: after ∧ (∀ d ∈ before, d.Passes keys) ∧
    c.IsUnguarded ∧ ¬ c.Passes keys

section

variable {keys : List String} {c : Check} {cs : List Check} {f : Failure}

theorem Check.Fails.not_passes (h : c.Fails keys f) : ¬ c.Passes keys := by
  cases h with
  | external other =>
    rintro ⟨key, -, rfl⟩
    exact other ⟨"/components/schemas/" ++ key, by rw [← String.append_assoc]; rfl⟩
  | foreign _ other => exact fun ⟨key, _, heq⟩ => other ⟨key, heq⟩
  | missing other =>
    rintro ⟨key, hkey, heq⟩
    rw [String.append_right_inj] at heq
    exact other (heq ▸ hkey)
  | unreadable => exact id
  | unnamed => exact fun h => h rfl
  | tooLong long => exact fun h => Bool.eq_false_iff.1 long h

/-- A check fails with a problem or in an accident, depending on what it is about. -/
theorem Check.Fails.foreseen_or_accident (h : c.Fails keys f) :
    (¬ c.IsUnguarded ∧ f.IsForeseen) ∨
      (c.IsUnguarded ∧ ∃ a ∈ Accident.ofDerivation, f = .accident a) := by
  cases h with
  | external => exact .inl ⟨id, _, rfl, .tail _ (.head _)⟩
  | foreign => exact .inl ⟨id, _, rfl, .tail _ (.head _)⟩
  | missing => exact .inl ⟨id, _, rfl, .head _⟩
  | unreadable => exact .inr ⟨trivial, .unreadableReference, by decide, rfl⟩
  | unnamed => exact .inr ⟨trivial, .emptyName, by decide, rfl⟩
  | tooLong => exact .inr ⟨trivial, .tooManyDigits none, by decide, rfl⟩

theorem unguardedFirst_cons_iff : UnguardedFirst keys (c :: cs) ↔
    (c.IsUnguarded ∧ ¬ c.Passes keys) ∨ (c.Passes keys ∧ UnguardedFirst keys cs) := by
  constructor
  · rintro ⟨before, c', after, heq, hbefore, hc'⟩
    cases before with
    | nil =>
      obtain ⟨rfl, -⟩ := List.cons.inj heq
      exact .inl hc'
    | cons first before =>
      obtain ⟨rfl, rfl⟩ := List.cons.inj heq
      rw [List.forall_mem_cons] at hbefore
      exact .inr ⟨hbefore.1, before, c', after, rfl, hbefore.2, hc'⟩
  · rintro (hc | ⟨hpasses, before, c', after, rfl, hbefore, hc'⟩)
    · exact ⟨[], c, cs, rfl, nofun, hc⟩
    · exact ⟨c :: before, c', after, rfl, List.forall_mem_cons.2 ⟨hpasses, hbefore⟩, hc'⟩

/-- **The first fault of some checks is a problem, or an accident that has no check before it.** -/
theorem FirstFault.foreseen_or_accident (h : FirstFault keys cs f) :
    (¬ UnguardedFirst keys cs ∧ f.IsForeseen) ∨
      (UnguardedFirst keys cs ∧ ∃ a ∈ Accident.ofDerivation, f = .accident a) := by
  induction h with
  | @here c cs f fails =>
    have hfirst : UnguardedFirst keys (c :: cs) ↔ c.IsUnguarded := by
      rw [unguardedFirst_cons_iff, and_iff_left fails.not_passes]
      exact or_iff_left fun h => fails.not_passes h.1
    rw [hfirst]
    exact fails.foreseen_or_accident
  | @later c cs f passes _ ih =>
    have hfirst : UnguardedFirst keys (c :: cs) ↔ UnguardedFirst keys cs := by
      rw [unguardedFirst_cons_iff, and_iff_right passes]
      exact or_iff_right fun h => h.2 passes
    rwa [hfirst]

theorem not_unguardedFirst_of_passes (h : ∀ c ∈ cs, c.Passes keys) : ¬ UnguardedFirst keys cs := by
  rintro ⟨before, c, after, rfl, -, -, hc⟩
  exact hc (h c (List.mem_append_right _ List.mem_cons_self))

/-- A step that is decided by checks is done or fails with a problem, or else it ends in an
accident. -/
theorem Decides.foreseen_iff {α : Type} {step : Except Failure α} (h : Decides keys cs step) :
    ((∃ a, step = .ok a) ∨ ∃ f, step = .error f ∧ f.IsForeseen) ↔ ¬ UnguardedFirst keys cs := by
  cases hstep : step with
  | ok a =>
    exact iff_of_true (.inl ⟨a, rfl⟩) (not_unguardedFirst_of_passes (h.ok_iff.1 ⟨a, hstep⟩))
  | error f =>
    rcases ((h.error_iff f).1 hstep).foreseen_or_accident with ⟨hnot, hf⟩ | ⟨hfirst, a, -, rfl⟩
    · exact iff_of_true (.inr ⟨f, rfl, hf⟩) hnot
    · refine iff_of_false ?_ (not_not_intro hfirst)
      rintro (⟨_, h⟩ | ⟨f, h, p, rfl, -⟩) <;> cases h

theorem Decides.accident_of_unguardedFirst {α : Type} {step : Except Failure α}
    (h : Decides keys cs step) (hfirst : UnguardedFirst keys cs) :
    ∃ a ∈ Accident.ofDerivation, step = .error (.accident a) := by
  cases hstep : step with
  | ok a => exact absurd hfirst (not_unguardedFirst_of_passes (h.ok_iff.1 ⟨a, hstep⟩))
  | error f =>
    rcases ((h.error_iff f).1 hstep).foreseen_or_accident with ⟨hnot, -⟩ | ⟨-, a, ha, rfl⟩
    · exact absurd hfirst hnot
    · exact ⟨a, ha, rfl⟩

end

/-- Planning a document is decided as deriving it is. -/
theorem decides_plan (p : Planner) (schemas : List (String × Schema)) (j : Journal) :
    Decides (schemas.map (·.1)) (fullChecks schemas) ((p.plan schemas).run j).1.1 := by
  rw [(p.gives_plan schemas).result]
  exact (decides_declarations schemas).map _

open CommandLine

/-- A document that is loaded and not planned ends the run, behind what the documents before it
print. -/
theorem run_of_failed {s : Surroundings} {request : PlanRequest} {d : DocumentSettings}
    {before after : List DocumentSettings} {document : OpenApi.Document} {f : Failure}
    {j₀ : Journal}
    (hds : documents s request = .ok (before ++ d :: after))
    (hbefore : ∀ b ∈ before, (alone s false b).ending = .done)
    (hload : ((Loader.usual.load s d.source).run j₀).1 = .ok document)
    (hfiles : Planner.filesAlone d.settings document.schemas j₀ = .error f) (j : Journal) :
    ((plan s request).run j).1 =
      ⟨(before.flatMap fun b => (alone s request.verbose b).printed) ++ (failed f).printed,
        (failed f).ending⟩ := by
  have hplanned : planned s d = .error f := by
    rw [(Loader.usual.gives_load s d.source).result] at hload
    rw [Planner.filesAlone_eq, ← Planner.filesAlone_eq _ _ .collecting] at hfiles
    rw [planned, hload]
    exact bind_eq_error_iff.2 (.inr ⟨document, rfl, bind_eq_error_iff.2 (.inl hfiles)⟩)
  have hreported := reported_of_error s request.verbose d hplanned
  rw [(gives_plan s hds).result, sequence_append_of_done s request.verbose d hbefore
    (stops_of_error s request.verbose d hreported), alone_of_error s request.verbose d hreported]

/-- **When a failure is one that is reported.**  A valid document is planned or
fails with a problem of its derivation exactly if no check without a problem to fail with is the
first that does not pass; otherwise it ends in one of three accidents.  In a run, a document that is
loaded and not planned ends it with exit code 1, behind what the documents before it print, and with
one line on the problem on the same condition; an accident has no line. -/
theorem failures_foreseen_iff (document : OpenApi.Document) :
    let checks := fullChecks document.schemas
    let keys := document.schemas.map (·.1)
    (∀ (p : Planner) (j : Journal),
      (((∃ files, ((p.plan document.schemas).run j).1.1 = .ok files) ∨
          ∃ f, ((p.plan document.schemas).run j).1.1 = .error f ∧ f.IsForeseen) ↔
        ¬ UnguardedFirst keys checks) ∧
      (UnguardedFirst keys checks →
        ∃ a ∈ Accident.ofDerivation,
          ((p.plan document.schemas).run j).1.1 = .error (.accident a))) ∧
    ∀ (s : Surroundings) (request : PlanRequest) (before after : List DocumentSettings)
      (d : DocumentSettings) (f : Failure) (j j₀ : Journal),
      documents s request = .ok (before ++ d :: after) →
      (∀ b ∈ before, (alone s false b).ending = .done) →
      ((Loader.usual.load s d.source).run j₀).1 = .ok document →
      Planner.filesAlone d.settings document.schemas j₀ = .error f →
        let earlier := before.flatMap fun b => (alone s request.verbose b).printed
        ((plan s request).run j).1.ending.exitCode = 1 ∧
        (¬ UnguardedFirst keys checks → ∃ p : Problem, f = .problem p ∧
          ((plan s request).run j).1 = ⟨earlier ++ [Console.failureLine p.message], .failed⟩) ∧
        (UnguardedFirst keys checks → ∃ a, f = .accident a ∧
          ((plan s request).run j).1 = ⟨earlier, .accident a⟩) := by
  intro checks keys
  refine ⟨fun p j => ?_, ?_⟩
  · have hdecides := decides_plan p document.schemas j
    exact ⟨hdecides.foreseen_iff, hdecides.accident_of_unguardedFirst⟩
  · intro s request before after d f j j₀ hds hbefore hload hfiles earlier
    have hfault : FirstFault keys checks f :=
      ((decides_plan (.fresh d.settings) document.schemas j₀).error_iff f).1 hfiles
    rw [run_of_failed hds hbefore hload hfiles]
    rcases hfault.foreseen_or_accident with ⟨hnot, p, rfl, -⟩ | ⟨hfirst, a, -, rfl⟩
    · exact ⟨rfl, fun _ => ⟨p, rfl, rfl⟩, fun hfirst => absurd hfirst hnot⟩
    · refine ⟨rfl, fun hnot => absurd hfirst hnot, fun _ => ⟨a, rfl, ?_⟩⟩
      rw [failed, List.append_nil]

/-- The owner of a pet is a schema that is not there, and the run says so in one line. -/
theorem lost_owner_reported :
    let bytes (text : String) : List UInt8 := text.toUTF8.toList
    let s : Surroundings := (Directory.mk [
      (["pets.json".toList], .file (bytes
        ("\x7b\"openapi\": \"3.1.0\", \"info\": \x7b\"title\": \"\", \"version\": \"\"\x7d, " ++
          "\"components\": \x7b\"schemas\": " ++
          "\x7b\"Pet\": \x7b\"properties\": \x7b\"owner\": " ++
          "\x7b\"$ref\": \"#/components/schemas/Owner\"\x7d\x7d\x7d\x7d\x7d\x7d")))]).surroundings "/home"
    let request : PlanRequest := ⟨some "pets.json", none, none, [], none, true⟩
    let p : Problem := .derivation "Referenced schema 'Owner' not found in components.schemas"
      (some "Pet.owner") none
    ((plan s request).run .uncollected).1 = ⟨[Console.failureLine p.message], .failed⟩ ∧
      ((plan s request).run .uncollected).1.ending.exitCode = 1 := by
  intro bytes s request p
  let pets : DocumentSettings := ⟨.default, "pets.json"⟩
  have hds : documents s request = .ok ([] ++ pets :: []) :=
    eq_ok_of_toOption (by decide +kernel)
  have hfails : (((Loader.usual.load s pets.source).run .uncollected).1.toOption.map fun document =>
      match Planner.filesAlone pets.settings document.schemas .uncollected with
      | .ok _ => none
      | .error f => some f) = some (some (.problem p)) := by
    decide +kernel
  obtain ⟨document, hdocument, hfailure⟩ := Option.map_eq_some_iff.1 hfails
  cases hfiles : Planner.filesAlone pets.settings document.schemas .uncollected with
  | ok files =>
    rw [hfiles] at hfailure
    cases hfailure
  | error f =>
    rw [hfiles] at hfailure
    obtain rfl := Option.some.inj hfailure
    obtain ⟨hcode, hreported, hunreported⟩ := (failures_foreseen_iff document).2 s request [] []
      pets (.problem p) .uncollected .uncollected hds nofun (eq_ok_of_toOption hdocument) hfiles
    refine ⟨?_, hcode⟩
    obtain ⟨q, hq, hrun⟩ := hreported fun hfirst => by
      obtain ⟨a, ha, -⟩ := hunreported hfirst
      cases ha
    obtain rfl := Failure.problem.inj hq
    exact hrun

/-- A valid document has a property with an empty name: no plan of it is done, and none fails with a
problem. -/
theorem unnamed_property_escapes :
    let pet : Value := .ofFields [("type", .text "object"),
      ("properties", .ofFields [("", .ofFields [("type", .text "string")])])]
    let pets : Value := .ofFields [("openapi", .text "3.1.0"),
      ("info", .ofFields [("title", .text "Pets"), ("version", .text "1")]),
      ("components", .ofFields [("schemas", .ofFields [("Pet", pet)])])]
    ∃ document, OpenApi.validate "pets.json" pets = .ok document ∧
      ∀ (p : Planner) (j : Journal),
        ((p.plan document.schemas).run j).1.1 = .error (.accident .emptyName) ∧
        ¬ ((∃ files, ((p.plan document.schemas).run j).1.1 = .ok files) ∨
          ∃ f, ((p.plan document.schemas).run j).1.1 = .error f ∧ f.IsForeseen) := by
  intro pet pets
  refine ⟨_, rfl, fun p j => ?_⟩
  have hdecides := decides_plan p
    [("Pet", { Schema.empty with
      types := ["object"]
      properties := [("", { Schema.empty with types := ["string"] })] })] j
  refine ⟨(hdecides.error_iff _).2 (.here .unnamed), hdecides.foreseen_iff.not.2 (not_not_intro ?_)⟩
  exact ⟨[], .named "", _, rfl, nofun, trivial, fun h => h rfl⟩

end TypeFiles
