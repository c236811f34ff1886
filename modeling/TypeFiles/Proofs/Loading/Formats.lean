/-
# A file and a page of the same name

A document may lie in a file, or on a page whose address ends in the name of the file.  If the text
is the same and the page is not said to be YAML, the format is all that the two outcomes depend on:
line ends, which are unified in a file only, make no difference.

| formats | outcomes |
| --- | --- |
| the same | the same, but that a problem names its own source |
| different | different for some text: nothing at all is a value in YAML, and none in JSON |

The two formats are found from the same name in different ways, so they do not agree for all names.
They agree exactly where the name does not part ways with what the address ends in
(`formats_agree_iff`); an extension in capitals is enough for that (`capitals_part_ways`).
-/

import TypeFiles.Proofs.Loading.Failing
import TypeFiles.Proofs.Loading.LineEnds
import TypeFiles.Proofs.Loading.YamlNames

namespace TypeFiles

/-- The name of a file, which is one segment of a path and of an address too. -/
structure IsFileName (name : String) : Prop where
  nonempty : name ≠ ""
  notHere : name ≠ "."
  segment : ∀ c ∈ name.toList, c ≠ '/' ∧ c ≠ '?' ∧ c ≠ '#'

/-- An address whose last segment is a name, with nothing behind it, a query or a fragment. -/
inductive NamesPage (name : String) : String → String → Prop
  | mk (scheme place behind : String) (hplace : ∀ c ∈ place.toList, c ≠ '?' ∧ c ≠ '#')
      (hbehind : behind = "" ∨ ∃ rest, behind = "?" ++ rest ∨ behind = "#" ++ rest) :
      NamesPage name behind (scheme ++ "://" ++ place ++ "/" ++ name ++ behind)

deriving instance DecidableEq for Page

/-- A failure with another source in place of the one that it names. -/
def Failure.named (source : String) : Failure → Failure
  | .problem (.load _ cause) => .problem (.load source cause)
  | .problem (.validation _ errors) => .problem (.validation source errors)
  | f => f

/-! ## Pages without their texts -/

namespace Web

variable {servers : Servers} {follows : Bool} {bound : Nat} {request : Request}
  {page : Page} {next? : Option Request} {address : String}

/-- A page without its text and without a content type. -/
def emptiedPage (page : Page) : Page := { page with text := .ok "", contentType := none }

/-- Servers with nothing on their pages. -/
def emptied (servers : Servers) : Servers := fun request => (servers request).map emptiedPage

/-- Where a page leads on to is not a matter of its text, nor of its content type. -/
theorem turn_emptied (h : turn servers request = .ok (page, next?)) :
    turn (emptied servers) request = .ok (emptiedPage page, next?) := by
  rcases turn_cases servers request with ⟨_, hturn⟩ | ⟨_, hturn, -⟩ | ⟨found, hfound⟩
  · rw [hturn] at h
    cases h
  · rw [hturn] at h
    cases h
  · have hemptied : Answers (emptied servers) request (emptiedPage found) :=
      ⟨map_eq_ok_iff.2 ⟨found, hfound.served, rfl⟩, hfound.hasKind⟩
    have hleads : (emptiedPage found).leadsTo? = found.leadsTo? := rfl
    rw [turn_of_answers hfound] at h
    rw [turn_of_answers hemptied, hleads]
    cases hlocation : found.leadsTo? with
    | none =>
      rw [hlocation] at h
      cases h
      rfl
    | some location =>
      rw [hlocation] at h
      obtain ⟨next, hnext, heq⟩ := map_eq_ok_iff.1 h
      cases heq
      exact map_eq_ok_iff.2 ⟨next, hnext, rfl⟩

theorem fetchWithin_emptied (h : fetchWithin servers follows bound request = .ok page) :
    fetchWithin (emptied servers) follows bound request = .ok (emptiedPage page) := by
  induction bound generalizing request with
  | zero => cases h
  | succ bound ih =>
    rw [fetchWithin_succ] at h ⊢
    obtain ⟨⟨found, next?⟩, hturn, hrest⟩ := bind_eq_ok_iff.1 h
    refine bind_eq_ok_iff.2 ⟨_, turn_emptied hturn, ?_⟩
    cases next? with
    | none =>
      cases hrest
      rfl
    | some next =>
      dsimp only at hrest ⊢
      split at hrest
      · rename_i hfollows
        rw [if_pos hfollows]
        exact ih hrest
      · rename_i hfollows
        cases hrest
        rw [if_neg hfollows]

/-- What can be fetched can be fetched empty. -/
theorem fetch_emptied (h : fetch servers follows address = .ok page) :
    fetch (emptied servers) follows address = .ok (emptiedPage page) := by
  rw [fetch_eq] at h ⊢
  obtain ⟨request, hrequest, h⟩ := bind_eq_ok_iff.1 h
  obtain ⟨found, hfound, h⟩ := bind_eq_ok_iff.1 h
  refine bind_eq_ok_iff.2 ⟨request, hrequest, ?_⟩
  refine bind_eq_ok_iff.2 ⟨_, fetchWithin_emptied hfound, ?_⟩
  have hsuccess : (emptiedPage found).isSuccess = found.isSuccess := rfl
  split at h
  · rename_i hpage
    cases h
    rw [hsuccess, if_pos hpage]
  · cases h

end Web

namespace Loader

/-- The same text is in a file and on a page, the page is not said to be YAML, and what is YAML is
read as such. -/
structure Serves (l : Loader) (s : Surroundings) (name address text : String) (page : Page) :
    Prop where
  file : ∃ bytes, s.find (l.path name) = .file bytes ∧ Text.decodeUtf8? bytes = some text
  fetched : Web.fetch s.servers l.follows address = .ok page
  decoded : page.text = .ok text
  kind : page.isYaml = false
  reads : s.yaml = Yaml.read

variable {l : Loader} {s : Surroundings} {name behind address source text : String} {page : Page}

/-! ## The two formats -/

/-- An address on a server has slashes in it. -/
theorem isOnServer_of_not_mem (h : '/' ∉ name.toList) : Address.isOnServer name = false := by
  have hignored : '/' ∉ Address.withoutIgnored name.toList := by
    intro hmem
    exact h ((List.dropWhile_sublist _).subset (List.mem_filter.1 hmem).1)
  have hrest : ∀ s, '/' ∉ s → '/' ∉ (Address.splitScheme s).2 := by
    intro s hs
    unfold Address.splitScheme
    split
    · rename_i c scheme rest hcut
      have hback : '/' ∉ rest := by
        intro hmem
        rw [Text.eq_of_cut? hcut] at hs
        exact hs (List.mem_append_right _ (List.mem_cons_of_mem _ hmem))
      split
      · exact hback
      · exact hs
    · exact hs
  have hauthority : ∀ s, '/' ∉ s → Address.authority s = [] := by
    intro s hs
    unfold Address.authority
    split
    · exact absurd List.mem_cons_self hs
    · rfl
  unfold Address.isOnServer
  dsimp only
  rw [hauthority _ (hrest _ hignored)]
  simp

/-- The path of a file name has one step more than what it starts from. -/
theorem suffix_path (h : IsFileName name) :
    (l.path name).suffix = String.ofList (Path.suffixOf name.toList) := by
  have hslash : '/' ∉ name.toList := fun hmem => (h.segment _ hmem).1 rfl
  have hstart : Path.readStart name.toList = .here := by
    unfold Path.readStart
    split
    · rename_i heq
      exact absurd (heq ▸ List.mem_cons_self) hslash
    · rename_i heq
      exact absurd (heq ▸ List.mem_cons_self) hslash
    · rename_i heq
      exact absurd (heq ▸ List.mem_cons_self) hslash
    · rfl
  have hsteps : Path.readSteps name.toList = [name.toList] := by
    have hempty : name.toList ≠ [] := by simpa using h.nonempty
    have hhere : name.toList ≠ ['.'] := fun heq => h.notHere (String.toList_inj.1 heq)
    rw [Path.readSteps, List.splitOn_eq_singleton hslash]
    simp [hempty, hhere]
  have hpath : l.path name = ⟨l.base.start, l.base.steps ++ [name.toList]⟩ := by
    rw [path, Path.join, Path.read, hstart, hsteps]
  rw [hpath, Path.suffix, List.getLast?_concat, Option.getD_some]

/-- The end of an address is that of its last part. -/
theorem endsInYaml_address (haddress : NamesPage name behind address) :
    EndsInYaml address ↔ EndsInYaml (if behind = "" then name else behind) := by
  have hends : ∀ (front : String) (mark : Char) (behind : String),
      mark ∉ ".yaml".toList → mark ∉ ".yml".toList →
        (EndsInYaml (front ++ String.singleton mark ++ behind) ↔ EndsInYaml behind) := by
    intro front mark behind hyaml hyml
    simp only [EndsInYaml, String.toList_append, String.toList_singleton, List.append_assoc,
      List.singleton_append]
    exact or_congr (Text.isSuffix_append_cons_iff hyaml) (Text.isSuffix_append_cons_iff hyml)
  obtain ⟨scheme, place, _, -, rfl | ⟨rest, rfl | rfl⟩⟩ := haddress
  · rw [if_pos rfl, String.append_empty]
    exact hends _ '/' name (by decide) (by decide)
  · rw [if_neg (by simp), ← String.append_assoc]
    exact (hends _ '?' rest (by decide) (by decide)).trans
      (hends "" '?' rest (by decide) (by decide)).symm
  · rw [if_neg (by simp), ← String.append_assoc]
    exact (hends _ '#' rest (by decide) (by decide)).trans
      (hends "" '#' rest (by decide) (by decide)).symm

/-- **A file and a page have the same format** exactly if the name does not part ways. -/
theorem format_eq_iff (h : IsFileName name) (haddress : NamesPage name behind address)
    (hkind : page.isYaml = false) :
    Format.ofDocument (l.path name).suffix = pageFormat address page ↔
      ¬ PartsWays name behind := by
  have hfile : Format.isYamlSuffix (l.path name).suffix = true ↔ NamesYaml name := by
    rw [suffix_path h]
    exact Path.isYamlSuffix_suffixOf_iff
  rw [partsWays_iff, not_not, ← endsInYaml_address haddress, ← hasYamlEnd_iff, ← hfile,
    ← Bool.eq_iff_iff, Format.ofDocument, pageFormat, hkind, Bool.false_or]
  cases Format.isYamlSuffix (l.path name).suffix <;> cases hasYamlEnd address <;> decide

/-- Of two formats that differ, one is YAML and the other JSON. -/
theorem formats_of_ne {suffix : String}
    (h : Format.ofDocument suffix ≠ pageFormat address page) :
    Format.ofDocument suffix = .json ∧ pageFormat address page = .yaml ∨
      Format.ofDocument suffix = .yaml ∧ pageFormat address page = .json := by
  unfold Format.ofDocument pageFormat at h ⊢
  split
  · split
    · simp_all
    · exact .inr ⟨rfl, rfl⟩
  · split
    · exact .inl ⟨rfl, rfl⟩
    · simp_all

/-! ## The two outcomes -/

/-- What is loaded does not depend on what was reported before. -/
theorem run_load (l : Loader) (s : Surroundings) (source : String) (j : Journal) :
    ((l.load s source).run j).1 = l.document s source := (l.gives_load s source).result j

/-- What a text of a source comes to in a format. -/
def valueOf (source : String) (f : Format) (text : String) : Except Failure Value :=
  match f.read Yaml.read text with
  | .ok v => .ok v
  | .error .malformed => problem source f.cause
  | .error (.accident a) => .error (.accident a)

/-- The value of a file is that of its text, whichever line ends it has. -/
theorem valueAt_eq {f : Format} (hf : f ≠ .toml) (h : l.Serves s name address text page) :
    s.valueAt f (l.path name) =
      match f.read Yaml.read text with
      | .ok v => .ok v
      | .error .malformed => .error (.malformed f)
      | .error (.accident a) => .error (.accident a) := by
  obtain ⟨bytes, hfind, hdecode⟩ := h.file
  have htext : s.textAt (l.path name) = .ok (String.ofList (Text.unifyLineEnds text.toList)) :=
    Surroundings.textAt_eq_ok_iff.2 ⟨bytes, text, hfind, hdecode, rfl⟩
  rw [Surroundings.valueAt, htext, h.reads, ← Format.read_unifyLineEnds hf text]
  rfl

theorem ofDocument_ne_toml (suffix : String) : Format.ofDocument suffix ≠ .toml := by
  unfold Format.ofDocument
  split <;> decide

theorem content_file (hname : IsFileName name) (h : l.Serves s name address text page) :
    l.content s name = valueOf name (.ofDocument (l.path name).suffix) text := by
  have hhere : Address.isOnServer name = false :=
    isOnServer_of_not_mem fun hslash => (hname.segment _ hslash).1 rfl
  rw [content, hhere, if_neg Bool.false_ne_true, loadFile, valueOf,
    valueAt_eq (ofDocument_ne_toml _) h]
  cases (Format.ofDocument (l.path name).suffix).read Yaml.read text with
  | ok v => rfl
  | error e => cases e <;> rfl

theorem content_page (haway : Address.isOnServer address = true)
    (h : l.Serves s name address text page) :
    l.content s address = valueOf address (pageFormat address page) text := by
  rw [content, if_pos haway, loadPage, h.fetched, h.reads]
  dsimp only
  rw [h.decoded]
  rfl

theorem mapError_named_validate (v : Value) :
    (OpenApi.validate name v).mapError (Failure.named address) = OpenApi.validate address v := by
  unfold OpenApi.validate
  split
  · split <;> rfl
  · rfl

theorem mapError_named_valueOf (f : Format) :
    (valueOf name f text).mapError (Failure.named address) = valueOf address f text := by
  unfold valueOf
  split <;> rfl

/-- **In the same format a text comes to the same**, but that a problem names its own source. -/
theorem document_named (hname : IsFileName name) (haway : Address.isOnServer address = true)
    (hformat : Format.ofDocument (l.path name).suffix = pageFormat address page)
    (h : l.Serves s name address text page) :
    (l.document s name).mapError (Failure.named address) = l.document s address := by
  have hcontent : (l.content s name).mapError (Failure.named address) = l.content s address := by
    rw [content_file hname h, content_page haway h, hformat]
    exact mapError_named_valueOf _
  rw [document_eq, document_eq, ← hcontent]
  cases l.content s name with
  | ok v => exact mapError_named_validate v
  | error e => rfl

/-! ## An empty text -/

/-- The surroundings with nothing in every file and on every page. -/
def emptied (s : Surroundings) : Surroundings :=
  { s with find := fun _ => .file [], servers := Web.emptied s.servers }

/-- If a text can be served in both places, an empty one can. -/
theorem serves_emptied (h : l.Serves s name address text page) :
    l.Serves (emptied s) name address "" (Web.emptiedPage page) where
  file := ⟨[], rfl, by decide +kernel⟩
  fetched := Web.fetch_emptied h.fetched
  decoded := rfl
  kind := rfl
  reads := h.reads

/-- **An empty text comes to different things in different formats.**  In YAML it has a value, which
is no document; in JSON it has none. -/
theorem document_of_empty (hname : IsFileName name) (haway : Address.isOnServer address = true)
    (hformat : Format.ofDocument (l.path name).suffix ≠ pageFormat address page)
    (h : l.Serves s name address "" page) :
    (l.document s name).mapError (Failure.named address) ≠ l.document s address := by
  have hvalue : ∀ source, valueOf source .json "" = problem source .malformedJson := fun _ => rfl
  have hvalue' : ∀ source, valueOf source .yaml "" = .ok .null := fun _ => rfl
  rw [document_eq, document_eq, content_file hname h, content_page haway h]
  rcases formats_of_ne hformat with ⟨hfile, hpage⟩ | ⟨hfile, hpage⟩
  all_goals
    rw [hfile, hpage, hvalue, hvalue']
    exact nofun

/-- What is read as YAML is never malformed JSON. -/
theorem yaml_ne_malformedJson :
    (valueOf name .yaml text >>= OpenApi.validate name).mapError (Failure.named address) ≠
      .error (.problem (.load source (some .malformedJson))) := by
  rw [valueOf]
  split
  · rename_i v _
    change (OpenApi.validate name v).mapError _ ≠ _
    rw [mapError_named_validate]
    rcases validate_cases address v with ⟨_, h⟩ | ⟨_, h⟩ <;> rw [h] <;> exact nofun
  · exact nofun
  · exact nofun

end Loader

open Loader

/-- **A file and a page of the same name agree exactly where the name does not part ways.**  The
name is any that a file can have, the address any whose last segment it is, the text the same in
both places, and the page not said to be YAML.  If the name does not part ways with what stands
behind it, both are read in the same format and come to the same, but that a problem names its own
source; if it does, they are read in different formats, and there is a text for which they come to
different things. -/
theorem formats_agree_iff (l : Loader) (name behind address : String) (hname : IsFileName name)
    (haddress : NamesPage name behind address) (haway : Address.isOnServer address = true) :
    (∀ s text page, l.Serves s name address text page →
      (Format.ofDocument (l.path name).suffix = pageFormat address page ↔
        ¬ PartsWays name behind)) ∧
    (¬ PartsWays name behind → ∀ s text page, l.Serves s name address text page → ∀ j j',
      ((l.load s name).run j).1.mapError (Failure.named address) =
        ((l.load s address).run j').1) ∧
    (PartsWays name behind → (∃ s text page, l.Serves s name address text page) →
      ∃ s text page, l.Serves s name address text page ∧ ∀ j j',
        ((l.load s name).run j).1.mapError (Failure.named address) ≠
          ((l.load s address).run j').1) := by
  simp only [run_load]
  refine ⟨fun s text page h => format_eq_iff hname haddress h.kind, ?_, ?_⟩
  · intro hagree s text page h _ _
    exact document_named hname haway ((format_eq_iff hname haddress h.kind).2 hagree) h
  · rintro hparts ⟨s, text, page, h⟩
    have hempty := serves_emptied h
    refine ⟨emptied s, "", _, hempty, fun _ _ => document_of_empty hname haway ?_ hempty⟩
    exact fun hformat => (format_eq_iff hname haddress hempty.kind).1 hformat hparts

/-- The same document in a file and on a page, the address of which has nothing behind the name. -/
theorem openapi_yaml_agrees :
    let address := "http://api/openapi.yaml"
    let text := "openapi: 3.1.0\ninfo:\n  title: T\n  version: V\n"
    let page : Page := .received 200 text.toUTF8.toList none none
    let s : Surroundings :=
      (Directory.mk [(["openapi.yaml".toList], .file text.toUTF8.toList)]).surroundings "/home"
        fun request => if request = address then .ok page else Web.unreachable request
    Loader.usual.Serves s "openapi.yaml" address text page ∧
      ¬ PartsWays "openapi.yaml" "" ∧
      ∀ j j', ((Loader.usual.load s "openapi.yaml").run j).1.mapError (Failure.named address) =
        ((Loader.usual.load s address).run j').1 := by
  intro address text page s
  have hserves : Loader.usual.Serves s "openapi.yaml" address text page :=
    ⟨⟨text.toUTF8.toList, by decide +kernel, by decide +kernel⟩, by decide +kernel,
      by decide +kernel, rfl, rfl⟩
  have hname : IsFileName "openapi.yaml" :=
    ⟨by decide, by decide, List.forall_iff_forall_mem.1 (by decide)⟩
  have haddress : NamesPage "openapi.yaml" "" address :=
    .mk "http" "api" "" (List.forall_iff_forall_mem.1 (by decide)) (.inl rfl)
  obtain ⟨hformat, hsame, -⟩ := formats_agree_iff .usual "openapi.yaml" "" address hname haddress
    (by decide +kernel)
  have hagree := (hformat s text page hserves).1 (by decide +kernel)
  exact ⟨hserves, hagree, hsame hagree s text page hserves⟩

/-- With an extension in capitals, a text is read as YAML in the file and as JSON on the page, where
it is malformed. -/
theorem capitals_part_ways :
    let address := "http://api/openapi.YAML"
    let text := "openapi: 3.1.0\ninfo:\n  title: T\n  version: V\n"
    let page : Page := .received 200 text.toUTF8.toList none none
    let s : Surroundings :=
      (Directory.mk [(["openapi.YAML".toList], .file text.toUTF8.toList)]).surroundings "/home"
        fun request => if request = address then .ok page else Web.unreachable request
    IsFileName "openapi.YAML" ∧ NamesPage "openapi.YAML" "" address ∧
      Loader.usual.Serves s "openapi.YAML" address text page ∧
      Format.ofDocument (Loader.usual.path "openapi.YAML").suffix = .yaml ∧
      pageFormat address page = .json ∧
      ∀ j, ((Loader.usual.load s address).run j).1 =
          .error (.problem (.load address (some .malformedJson))) ∧
        ((Loader.usual.load s "openapi.YAML").run j).1.mapError (Failure.named address) ≠
          .error (.problem (.load address (some .malformedJson))) := by
  intro address text page s
  have hname : IsFileName "openapi.YAML" :=
    ⟨by decide, by decide, List.forall_iff_forall_mem.1 (by decide)⟩
  have haddress : NamesPage "openapi.YAML" "" address :=
    .mk "http" "api" "" (List.forall_iff_forall_mem.1 (by decide)) (.inl rfl)
  have hserves : Loader.usual.Serves s "openapi.YAML" address text page :=
    ⟨⟨text.toUTF8.toList, by decide +kernel, by decide +kernel⟩, by decide +kernel,
      by decide +kernel, rfl, rfl⟩
  have hfile : Format.ofDocument (Loader.usual.path "openapi.YAML").suffix = .yaml := by
    decide +kernel
  have hpage : pageFormat address page = .json := by
    decide +kernel
  refine ⟨hname, haddress, hserves, hfile, hpage, fun j => ⟨?_, ?_⟩⟩
  · have hread : Json.read text = .error .malformed := by
      dsimp only [text]
      rfl
    rw [run_load, document_eq, content_page (by decide +kernel) hserves, hpage, valueOf,
      Format.read, hread]
    rfl
  · rw [run_load, document_eq, content_file hname hserves, hfile]
    exact yaml_ne_malformedJson

end TypeFiles
