/-
# Documents that are not loaded

A source names a page on a server or a file.  It is loaded in two steps: the value of the page or
the file is read, and the value has to be a document.

| outcome | the value | the document |
| --- | --- | --- |
| a document | is read | is valid |
| a validation problem | is read | is none: no mapping, or not valid |
| a loading problem | is not read | |
| an accident | is lost by a `Mishap` | |

The first three are what loading promises, and each problem names the source.  They come about
exactly if there is no mishap (`loading_foreseen_iff`); a file that is not UTF-8 is one
(`latin_file_escapes`).
-/

import TypeFiles.Proofs.CommandLine.Documents
import TypeFiles.Proofs.Loading.Files
import TypeFiles.Proofs.Loading.Limits
import TypeFiles.Proofs.Loading.Redirects

namespace TypeFiles

namespace Loader

variable {l : Loader} {s : Surroundings} {source : String} {v : Value} {a : Accident}
  {document : OpenApi.Document}

/-- The page or the file that a source names is read, and has a value. -/
inductive HasContent (l : Loader) (s : Surroundings) (source : String) : Value → Prop
  | file (text : String) (v : Value) (here : Address.isOnServer source = false)
      (found : s.HasText (l.path source) text)
      (read : (Format.ofDocument (l.path source).suffix).read s.yaml text = .ok v) :
      HasContent l s source v
  | page (page : Page) (text : String) (v : Value) (away : Address.isOnServer source = true)
      (found : Web.fetch s.servers l.follows source = .ok page) (decoded : page.text = .ok text)
      (read : (pageFormat source page).read s.yaml text = .ok v) : HasContent l s source v

/-- The ways in which the page or the file that a source names is lost, and nothing looks out for
it. -/
inductive Mishap (l : Loader) (s : Surroundings) (source : String) : Accident → Prop
  | misread (a : Accident) (here : Address.isOnServer source = false)
      (misread : s.MisreadAt (.ofDocument (l.path source).suffix) (l.path source) a) :
      Mishap l s source a
  | unfetched (a : Accident) (away : Address.isOnServer source = true)
      (unfetched : Web.Unfetched s.servers l.follows source a) : Mishap l s source a
  | undecodable (page : Page) (f : Charset.Fault) (away : Address.isOnServer source = true)
      (found : Web.fetch s.servers l.follows source = .ok page) (broken : page.text = .error f) :
      Mishap l s source (.undecodablePage f)
  | unread (page : Page) (text : String) (a : Accident) (away : Address.isOnServer source = true)
      (found : Web.fetch s.servers l.follows source = .ok page) (decoded : page.text = .ok text)
      (read : (pageFormat source page).read s.yaml text = .error (.accident a)) :
      Mishap l s source a

/-! ## The value -/

/-- The value that a source names. -/
def content (l : Loader) (s : Surroundings) (source : String) : Except Failure Value :=
  if Address.isOnServer source then l.loadPage s source else l.loadFile s source

theorem loadFile_eq_ok_iff : l.loadFile s source = .ok v ↔
    ∃ text, s.HasText (l.path source) text ∧
      (Format.ofDocument (l.path source).suffix).read s.yaml text = .ok v := by
  rw [← Surroundings.valueAt_eq_ok_iff, loadFile]
  split <;> simp_all [problem]

theorem loadFile_eq_accident_iff : l.loadFile s source = .error (.accident a) ↔
    s.MisreadAt (.ofDocument (l.path source).suffix) (l.path source) a := by
  rw [← Surroundings.valueAt_eq_accident_iff, loadFile]
  split <;> simp_all [problem]

theorem loadPage_eq_ok_iff : l.loadPage s source = .ok v ↔
    ∃ page text, Web.fetch s.servers l.follows source = .ok page ∧ page.text = .ok text ∧
      (pageFormat source page).read s.yaml text = .ok v := by
  unfold loadPage
  dsimp only
  repeat' split
  all_goals simp_all [problem]

theorem loadPage_eq_accident_iff : l.loadPage s source = .error (.accident a) ↔
    Web.fetch s.servers l.follows source = .error (.accident a) ∨
    ∃ page, Web.fetch s.servers l.follows source = .ok page ∧
      ((∃ f, page.text = .error f ∧ .undecodablePage f = a) ∨
        ∃ text, page.text = .ok text ∧
          (pageFormat source page).read s.yaml text = .error (.accident a)) := by
  unfold loadPage
  dsimp only
  repeat' split
  all_goals simp_all [problem]

theorem failsOnly_content : FailsOnly (Failure.IsOfSource source) (l.content s source) := by
  unfold content
  split
  · exact l.failsOnly_loadPage s source
  · exact l.failsOnly_loadFile s source

theorem content_eq_ok_iff : l.content s source = .ok v ↔ l.HasContent s source v := by
  unfold content
  cases haway : Address.isOnServer source with
  | false =>
    rw [if_neg Bool.false_ne_true, loadFile_eq_ok_iff]
    constructor
    · rintro ⟨text, hfound, hread⟩
      exact .file text v haway hfound hread
    · rintro (⟨text, _, -, hfound, hread⟩ | ⟨_, _, _, haway', -⟩)
      · exact ⟨text, hfound, hread⟩
      · rw [haway] at haway'
        cases haway'
  | true =>
    rw [if_pos rfl, loadPage_eq_ok_iff]
    constructor
    · rintro ⟨page, text, hfound, hdecoded, hread⟩
      exact .page page text v haway hfound hdecoded hread
    · rintro (⟨_, _, hhere, -⟩ | ⟨page, text, _, -, hfound, hdecoded, hread⟩)
      · rw [haway] at hhere
        cases hhere
      · exact ⟨page, text, hfound, hdecoded, hread⟩

theorem content_eq_accident_iff :
    l.content s source = .error (.accident a) ↔ l.Mishap s source a := by
  unfold content
  cases haway : Address.isOnServer source with
  | false =>
    rw [if_neg Bool.false_ne_true, loadFile_eq_accident_iff]
    constructor
    · exact .misread a haway
    · rintro (⟨_, -, h⟩ | ⟨_, h, -⟩ | ⟨_, _, h, -⟩ | ⟨_, _, _, h, -⟩)
      · exact h
      all_goals
        rw [haway] at h
        cases h
  | true =>
    rw [if_pos rfl, loadPage_eq_accident_iff, Web.fetch_eq_accident_iff]
    constructor
    · rintro (hfetch | ⟨page, hfound, ⟨f, hbroken, rfl⟩ | ⟨text, hdecoded, hread⟩⟩)
      · exact .unfetched a haway hfetch
      · exact .undecodable page f haway hfound hbroken
      · exact .unread page text a haway hfound hdecoded hread
    · rintro (⟨_, h, -⟩ | ⟨_, -, hfetch⟩ | ⟨page, f, -, hfound, hbroken⟩ |
        ⟨page, text, _, -, hfound, hdecoded, hread⟩)
      · rw [haway] at h
        cases h
      · exact .inl hfetch
      · exact .inr ⟨page, hfound, .inl ⟨f, hbroken, rfl⟩⟩
      · exact .inr ⟨page, hfound, .inr ⟨text, hdecoded, hread⟩⟩

/-- The accidents that a source can be lost by. -/
inductive Loses (s : Surroundings) : Accident → Prop
  | nameTooLong : Loses s .nameTooLong
  | undecodableFile : Loses s .undecodableFile
  | undecodablePage (f : Charset.Fault) : Loses s (.undecodablePage f)
  | ofText (a : Accident) (h : a.IsOfText s.yaml) : Loses s a
  | ofWeb (a : Accident) (h : a.IsOfWeb s.servers) : Loses s a

theorem Mishap.loses (h : l.Mishap s source a) : Loses s a := by
  cases h with
  | misread _ _ misread =>
    cases misread with
    | nameTooLong => exact .nameTooLong
    | undecodable => exact .undecodableFile
    | unread _ _ _ read => exact .ofText a (Format.isOfText_of_read read)
  | unfetched _ _ unfetched => exact .ofWeb a unfetched.isOfWeb
  | undecodable _ f => exact .undecodablePage f
  | unread _ _ _ _ _ _ read => exact .ofText a (Format.isOfText_of_read read)

/-! ## The document -/

/-- The value is a valid document: a mapping that can be read as one. -/
def IsDocument (v : Value) (document : OpenApi.Document) : Prop :=
  (∃ entries, v = .mapping entries) ∧ OpenApi.read v = some document

theorem validate_eq_ok_iff :
    OpenApi.validate source v = .ok document ↔ IsDocument v document := by
  unfold OpenApi.validate IsDocument
  cases v with
  | mapping entries => cases hread : OpenApi.read (.mapping entries) <;> simp
  | _ => simp

theorem document_eq (l : Loader) (s : Surroundings) (source : String) :
    l.document s source = l.content s source >>= OpenApi.validate source := rfl

theorem document_eq_ok_iff : l.document s source = .ok document ↔
    ∃ v, l.HasContent s source v ∧ IsDocument v document := by
  rw [document_eq, bind_eq_ok_iff]
  simp only [content_eq_ok_iff, validate_eq_ok_iff]

/-- A document is lost by accident exactly if its value is. -/
theorem document_eq_accident_iff :
    l.document s source = .error (.accident a) ↔ l.Mishap s source a := by
  rw [document_eq, bind_eq_error_iff, content_eq_accident_iff]
  refine or_iff_left ?_
  rintro ⟨v, -, h⟩
  rcases validate_cases source v with ⟨_, hvalidate⟩ | ⟨_, hvalidate⟩ <;>
    simp [hvalidate] at h

/-- A problem of the validation means that there is a value, and that it is no document. -/
theorem document_eq_validation_iff :
    (∃ errors, l.document s source = .error (.problem (.validation source errors))) ↔
      ∃ v, l.HasContent s source v ∧ ∀ document, ¬ IsDocument v document := by
  simp only [document_eq, bind_eq_error_iff, ← content_eq_ok_iff]
  constructor
  · rintro ⟨errors, hcontent | ⟨v, hcontent, hvalidate⟩⟩
    · cases failsOnly_content _ hcontent
    · refine ⟨v, hcontent, fun document h => ?_⟩
      rw [validate_eq_ok_iff.2 h] at hvalidate
      cases hvalidate
  · rintro ⟨v, hcontent, hnone⟩
    rcases validate_cases source v with ⟨document, h⟩ | ⟨errors, h⟩
    · exact absurd (validate_eq_ok_iff.1 h) (hnone document)
    · exact ⟨errors, .inr ⟨v, hcontent, h⟩⟩

/-- What becomes of a source is its document, a problem with it, or an accident. -/
theorem document_cases (l : Loader) (s : Surroundings) (source : String) :
    ((∃ document, l.document s source = .ok document) ∨
      (∃ cause, l.document s source = .error (.problem (.load source (some cause)))) ∨
      (∃ errors, l.document s source = .error (.problem (.validation source errors)))) ∨
      ∃ a, l.document s source = .error (.accident a) := by
  rw [document_eq]
  cases hcontent : l.content s source with
  | ok v =>
    rcases validate_cases source v with h | h
    · exact .inl (.inl h)
    · exact .inl (.inr (.inr h))
  | error e =>
    cases failsOnly_content e hcontent with
    | problem cause => exact .inl (.inr (.inl ⟨cause, rfl⟩))
    | accident a => exact .inr ⟨a, rfl⟩

end Loader

open Loader

/-- **Loading fails as it should, but for mishaps.**  Whatever the files and the pages are, a source
comes to its document, to a loading problem or to a validation problem, both of which name it,
exactly if there is no mishap; each mishap passes through as its accident, and but for those of the
servers and of the reader of YAML there are few kinds of them.  There is a document exactly if the
value that the source names is read and is a valid one, and a validation problem exactly if the
value is read and is none. -/
theorem loading_foreseen_iff (l : Loader) (s : Surroundings) (source : String) (j : Journal) :
    let found := ((l.load s source).run j).1
    ((∃ document, found = .ok document) ∨
        (∃ cause, found = .error (.problem (.load source (some cause)))) ∨
        (∃ errors, found = .error (.problem (.validation source errors))) ↔
      ∀ a, ¬ l.Mishap s source a) ∧
    (∀ a, found = .error (.accident a) ↔ l.Mishap s source a) ∧
    (∀ a, l.Mishap s source a → Loses s a) ∧
    (∀ document, found = .ok document ↔
      ∃ v, l.HasContent s source v ∧ IsDocument v document) ∧
    ((∃ errors, found = .error (.problem (.validation source errors))) ↔
      ∃ v, l.HasContent s source v ∧ ∀ document, ¬ IsDocument v document) := by
  intro found
  have hfound : found = l.document s source := (l.gives_load s source).result j
  rw [hfound]
  refine ⟨?_, fun _ => document_eq_accident_iff, fun _ h => h.loses,
    fun _ => document_eq_ok_iff, document_eq_validation_iff⟩
  simp only [← document_eq_accident_iff]
  constructor
  · rintro (⟨_, h⟩ | ⟨_, h⟩ | ⟨_, h⟩) a ha <;> simp [h] at ha
  · intro hnone
    rcases document_cases l s source with h | ⟨a, ha⟩
    · exact h
    · exact absurd ha (hnone a)

/-- A file that is not UTF-8 is neither loaded nor reported, whichever loader looks at it. -/
theorem latin_file_escapes :
    let s : Surroundings :=
      (Directory.mk [(["latin.json".toList], .file [0xFF])]).surroundings "/home"
    let found (j : Journal) := ((Loader.usual.load s "latin.json").run j).1
    ∀ j, found j = .error (.accident .undecodableFile) ∧
      ¬ ((∃ document, found j = .ok document) ∨
        (∃ cause, found j = .error (.problem (.load "latin.json" cause))) ∨
        (∃ errors, found j = .error (.problem (.validation "latin.json" errors)))) := by
  intro s found j
  have hfound : found j = .error (.accident .undecodableFile) := by
    refine ((loading_foreseen_iff .usual s "latin.json" j).2.1 _).2 (.misread _ ?_ ?_)
    · decide +kernel
    · exact .undecodable [0xFF] rfl (by decide +kernel)
  refine ⟨hfound, ?_⟩
  simp [hfound]

end TypeFiles
