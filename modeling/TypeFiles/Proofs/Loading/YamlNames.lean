/-
# Names of YAML files

Whether a document is YAML is told from its name, from a file by the suffix of its path and from a
page by the end of its address.

| name | the suffix of a path | the end of an address |
| --- | --- | --- |
| `api.yaml`, `v1.api.yml` | YAML | YAML |
| `api.YAML`, `api.Yml` | YAML | other |
| `.yaml`, `.yml` | other | YAML |
| any, with a query or a fragment behind it | as the name | as the query or the fragment |

A suffix is folded into lower case, and has to have something in front; an address is taken as it
is, up to its very end.
-/

import Mathlib.Data.List.TakeWhile
import TypeFiles.Loading
import TypeFiles.Proofs.Name.Case
import TypeFiles.Proofs.Text.Cut

namespace TypeFiles

namespace Text

/-- The letters that the extensions of YAML are written with. -/
def yamlLetters : List Char := ['y', 'a', 'm', 'l']

variable {c d : Char} {s rest : List Char}

/-- Only a letter of ASCII has one of these letters as its lower case. -/
theorem toLower_of_lower (hd : d ∈ yamlLetters) (h : lower c = d :: rest) :
    c.toLower = d ∧ rest = [] := by
  -- The number of the character that a row maps to the letter is that of the capital.
  have hruns : ∀ run ∈ lowerRuns, yamlLetters.Forall fun d => run.image ≤ d.toNat →
      d.toNat - run.image ≤ run.last - run.first →
        run.first + (d.toNat - run.image) = d.toNat - 32 := by
    decide +kernel
  have hexpansions : ∀ e ∈ lowerExpansions, yamlLetters.Forall fun d =>
      (e.image.map Char.ofNat).head? ≠ some d := by
    decide +kernel
  have hletters : yamlLetters.Forall fun d => d.toNat ≠ 0 ∧ d.toLower = d ∧
      (Char.ofNat (d.toNat - 32)).toLower = d := by
    decide
  simp only [List.forall_iff_forall_mem] at hruns hexpansions hletters
  unfold lower caseImage at h
  split at h
  · rename_i e he
    have hhead := hexpansions e (List.mem_of_find?_eq_some he) d hd
    rw [h] at hhead
    exact absurd rfl hhead
  · split at h
    · rename_i run hrun
      obtain ⟨hchar, rfl⟩ := List.cons.inj h
      refine ⟨?_, rfl⟩
      have hcovers := List.find?_some hrun
      simp only [CaseRun.covers, Bool.and_eq_true, decide_eq_true_eq] at hcovers
      have hnumber := eq_toNat_of_ofNat (hletters d hd).1 hchar
      have hcapital := hruns run (List.mem_of_find?_eq_some hrun) d hd (by omega) (by omega)
      have hc : c = Char.ofNat (d.toNat - 32) := by
        rw [← Char.ofNat_toNat c]
        congr 1
        omega
      rw [hc]
      exact (hletters d hd).2.2
    · obtain ⟨rfl, rfl⟩ := List.cons.inj h
      exact ⟨(hletters c hd).2.1, rfl⟩

theorem lower_of_toLower (hd : d ∈ yamlLetters) (h : c.toLower = d) : lower c = [d] := by
  have hletters : ∀ d ∈ yamlLetters, d.isAlphanum = true :=
    List.forall_iff_forall_mem.1 (by decide)
  have hc : c.isAlphanum = true := by
    by_cases hupper : c.isUpper = true
    · exact isAlphanum_of_isUpper hupper
    · have hsame : c.toLower = c := by
        unfold Char.toLower
        exact dif_neg fun h => hupper (decide_eq_true h)
      rw [← hsame, h]
      exact hletters d hd
  rw [lower_of_isAlphanum hc, h]

/-- **A word of these letters is the lower case of its spellings in ASCII**, and of nothing else. -/
theorem flatMap_lower_eq_iff {word : List Char} (hword : ∀ d ∈ word, d ∈ yamlLetters) :
    s.flatMap lower = word ↔ s.map Char.toLower = word := by
  induction s generalizing word with
  | nil => rfl
  | cons c s ih =>
    rw [List.flatMap_cons, List.map_cons]
    cases word with
    | nil =>
      refine iff_of_false (fun h => ?_) (List.cons_ne_nil _ _)
      exact lower_ne_nil c (List.append_eq_nil_iff.1 h).1
    | cons d word =>
      rw [List.forall_mem_cons] at hword
      constructor
      · intro h
        obtain ⟨e, rest, hlower⟩ := List.exists_cons_of_ne_nil (lower_ne_nil c)
        rw [hlower, List.cons_append] at h
        obtain ⟨rfl, hrest⟩ := List.cons.inj h
        obtain ⟨hc, rfl⟩ := toLower_of_lower hword.1 hlower
        rw [hc, (ih hword.2).1 hrest]
      · intro h
        obtain ⟨hc, hrest⟩ := List.cons.inj h
        rw [lower_of_toLower hword.1 hc, (ih hword.2).2 hrest]
        rfl

end Text

/-! ## The end of a name -/

/-- An extension of YAML, its letters in either case. -/
def IsYamlExtension (extension : String) : Prop :=
  extension.toList.map Char.toLower = "yaml".toList ∨
    extension.toList.map Char.toLower = "yml".toList

/-- A name that ends in an extension of YAML, with something in front of the dot. -/
inductive NamesYaml : String → Prop
  | mk (stem extension : String) (hstem : stem ≠ "") (h : IsYamlExtension extension) :
      NamesYaml (stem ++ "." ++ extension)

/-- A text that ends like the name of a YAML file. -/
def EndsInYaml (s : String) : Prop := ".yaml".toList <:+ s.toList ∨ ".yml".toList <:+ s.toList

/-- The ways in which a name, and an address with the name and something behind it, are taken to be
of different formats. -/
inductive PartsWays (name behind : String) : Prop
  /-- The name is nothing but an end. -/
  | dotFile (h : name = ".yaml" ∨ name = ".yml") (nothing : behind = "")
  /-- The extension has a capital in it. -/
  | capitals (stem extension : String) (hname : name = stem ++ "." ++ extension) (hstem : stem ≠ "")
      (h : IsYamlExtension extension) (hyaml : extension ≠ "yaml") (hyml : extension ≠ "yml")
      (nothing : behind = "")
  /-- What stands behind the name hides that it is one of YAML. -/
  | hidden (h : NamesYaml name) (something : behind ≠ "") (hbehind : ¬ EndsInYaml behind)
  /-- What stands behind the name ends like one of YAML. -/
  | pretended (h : ¬ NamesYaml name) (something : behind ≠ "") (hbehind : EndsInYaml behind)

variable {name behind : String}

theorem Loader.hasYamlEnd_iff {address : String} :
    hasYamlEnd address = true ↔ EndsInYaml address := by
  simp [hasYamlEnd, EndsInYaml]

theorem IsYamlExtension.not_mem {extension : String} (h : IsYamlExtension extension) :
    '.' ∉ extension.toList := by
  intro hmem
  have hdot : '.' ∈ extension.toList.map Char.toLower := List.mem_map.2 ⟨'.', hmem, rfl⟩
  rcases h with h | h
  all_goals
    rw [h] at hdot
    revert hdot
    decide

theorem NamesYaml.iff_toList : NamesYaml name ↔ ∃ stem extension : List Char,
    name.toList = stem ++ '.' :: extension ∧ stem ≠ [] ∧
      IsYamlExtension (String.ofList extension) := by
  constructor
  · rintro ⟨stem, extension, hstem, h⟩
    refine ⟨stem.toList, extension.toList, ?_, ?_, ?_⟩
    · simp
    · simpa using hstem
    · rwa [String.ofList_toList]
  · rintro ⟨stem, extension, hname, hstem, h⟩
    have heq : name = String.ofList stem ++ "." ++ String.ofList extension := by
      rw [← String.toList_inj, hname]
      simp
    rw [heq]
    exact .mk _ _ (by simpa using hstem) h

namespace Path

theorem suffixOf_of_not_mem {s : List Char} (h : '.' ∉ s) : suffixOf s = [] := by
  have hall : ∀ c ∈ s.reverse, (c != '.') = true := by
    intro c hc
    rw [bne_iff_ne]
    rintro rfl
    exact h (List.mem_reverse.1 hc)
  unfold suffixOf
  rw [List.takeWhile_eq_self_iff.2 hall]
  simp

/-- What stands behind the last dot is the suffix, if there is something on either side. -/
theorem suffixOf_append {stem extension : List Char} (h : '.' ∉ extension) :
    suffixOf (stem ++ '.' :: extension) =
      if extension = [] ∨ stem = [] then [] else ('.' :: extension).flatMap Text.lower := by
  have hbehind : (stem ++ '.' :: extension).reverse.takeWhile (· != '.') = extension.reverse := by
    have hreverse : (stem ++ '.' :: extension).reverse =
        extension.reverse ++ '.' :: stem.reverse := by
      simp
    rw [hreverse]
    exact Text.takeWhile_append_cons (by simpa using h) stem.reverse
  have hempty : (extension.reverse.isEmpty ||
      decide ((stem ++ '.' :: extension).length - extension.reverse.length ≤ 1)) = true ↔
        extension = [] ∨ stem = [] := by
    rw [Bool.or_eq_true, List.isEmpty_iff, List.reverse_eq_nil_iff, decide_eq_true_iff,
      ← List.length_eq_zero_iff (l := stem)]
    simp only [List.length_append, List.length_cons, List.length_reverse]
    refine or_congr_right ?_
    omega
  unfold suffixOf
  dsimp only
  rw [hbehind, List.reverse_reverse]
  simp only [hempty]

/-- **The suffix of a name is one of YAML** exactly if the name ends in an extension of YAML. -/
theorem isYamlSuffix_suffixOf_iff :
    Format.isYamlSuffix (String.ofList (suffixOf name.toList)) = true ↔ NamesYaml name := by
  have hword : ∀ extension : List Char,
      Format.isYamlSuffix (String.ofList (('.' :: extension).flatMap Text.lower)) = true ↔
        IsYamlExtension (String.ofList extension) := by
    intro extension
    have hdot : Text.lower '.' = ['.'] := by
      decide +kernel
    have hyaml : ∀ word : String, (∀ d ∈ word.toList, d ∈ Text.yamlLetters) →
        (String.ofList (('.' :: extension).flatMap Text.lower) = "." ++ word ↔
          extension.map Char.toLower = word.toList) := by
      intro word hword
      rw [← Text.flatMap_lower_eq_iff hword, ← String.toList_inj, String.toList_ofList,
        List.flatMap_cons, hdot, String.toList_append]
      exact List.cons_inj_right '.'
    rw [Format.isYamlSuffix, Bool.or_eq_true, beq_iff_eq, beq_iff_eq, IsYamlExtension,
      String.toList_ofList]
    exact or_congr (hyaml "yaml" (List.forall_iff_forall_mem.1 (by decide)))
      (hyaml "yml" (List.forall_iff_forall_mem.1 (by decide)))
  rw [NamesYaml.iff_toList]
  by_cases hdot : '.' ∈ name.toList
  · obtain ⟨stem, extension, hname, hlast⟩ : ∃ stem extension : List Char,
        name.toList = stem ++ '.' :: extension ∧ '.' ∉ extension := by
      obtain ⟨behind, before, hreverse, hbehind⟩ :=
        List.eq_append_cons_of_mem (List.mem_reverse.2 hdot)
      refine ⟨before.reverse, behind.reverse, ?_, by simpa using hbehind⟩
      simpa using congrArg List.reverse hreverse
    rw [hname, suffixOf_append hlast]
    constructor
    · intro h
      split at h
      · exact absurd h (by decide)
      · rename_i hneither
        exact ⟨stem, extension, rfl, (not_or.1 hneither).2, (hword extension).1 h⟩
    · rintro ⟨stem', extension', hname', hstem, h⟩
      have hnone := h.not_mem
      rw [String.toList_ofList] at hnone
      obtain ⟨rfl, rfl⟩ := Text.append_cons_inj_of_last hlast hnone hname'
      have hextension : extension ≠ [] := by
        rintro rfl
        revert h
        unfold IsYamlExtension
        decide
      rw [if_neg (not_or.2 ⟨hextension, hstem⟩)]
      exact (hword extension).2 h
  · rw [suffixOf_of_not_mem hdot]
    refine iff_of_false (by decide) ?_
    rintro ⟨stem, extension, hname, -⟩
    exact hdot (hname ▸ List.mem_append_right _ List.mem_cons_self)

end Path

/-- The last dot of a name tells the extension from the stem. -/
theorem eq_of_append_dot {stem stem' extension extension' : String} (h : '.' ∉ extension.toList)
    (h' : '.' ∉ extension'.toList) (heq : stem ++ "." ++ extension = stem' ++ "." ++ extension') :
    stem = stem' ∧ extension = extension' := by
  have htoList := congrArg String.toList heq
  simp only [String.toList_append, List.append_assoc] at htoList
  obtain ⟨hstem, hextension⟩ := Text.append_cons_inj_of_last h h' htoList
  exact ⟨String.toList_inj.1 hstem, String.toList_inj.1 hextension⟩

theorem isSuffix_toList_iff {word s : String} :
    word.toList <:+ s.toList ↔ ∃ front, s = front ++ word := by
  constructor
  · rintro ⟨front, hfront⟩
    refine ⟨String.ofList front, ?_⟩
    rw [← String.toList_inj, String.toList_append, String.toList_ofList, hfront]
  · rintro ⟨front, rfl⟩
    rw [String.toList_append]
    exact List.suffix_append _ _

/-- The lower-case spellings are those that the end of an address is compared with. -/
theorem endsInYaml_iff {s : String} : EndsInYaml s ↔
    ∃ stem extension, s = stem ++ "." ++ extension ∧ (extension = "yaml" ∨ extension = "yml") := by
  have hdot : ∀ stem word : String, stem ++ ("." ++ word) = stem ++ "." ++ word :=
    fun stem word => String.append_assoc.symm
  rw [EndsInYaml, isSuffix_toList_iff, isSuffix_toList_iff]
  constructor
  · rintro (⟨stem, h⟩ | ⟨stem, h⟩)
    · exact ⟨stem, "yaml", h.trans (hdot stem "yaml"), .inl rfl⟩
    · exact ⟨stem, "yml", h.trans (hdot stem "yml"), .inr rfl⟩
  · rintro ⟨stem, _, rfl, rfl | rfl⟩
    · exact .inl ⟨stem, (hdot stem "yaml").symm⟩
    · exact .inr ⟨stem, (hdot stem "yml").symm⟩

theorem isYamlExtension_of_eq {extension : String} (h : extension = "yaml" ∨ extension = "yml") :
    IsYamlExtension extension := by
  rcases h with rfl | rfl
  · exact .inl (by decide)
  · exact .inr (by decide)

/-- The end of a name hides that it is one of YAML exactly if there is a capital in it. -/
theorem namesYaml_and_not_endsInYaml_iff : NamesYaml name ∧ ¬ EndsInYaml name ↔
    ∃ stem extension, name = stem ++ "." ++ extension ∧ stem ≠ "" ∧ IsYamlExtension extension ∧
      extension ≠ "yaml" ∧ extension ≠ "yml" := by
  rw [endsInYaml_iff]
  constructor
  · rintro ⟨⟨stem, extension, hstem, h⟩, hend⟩
    refine ⟨stem, extension, rfl, hstem, h, ?_, ?_⟩
    · exact fun hyaml => hend ⟨stem, extension, rfl, .inl hyaml⟩
    · exact fun hyml => hend ⟨stem, extension, rfl, .inr hyml⟩
  · rintro ⟨stem, extension, rfl, hstem, h, hyaml, hyml⟩
    refine ⟨.mk stem extension hstem h, ?_⟩
    rintro ⟨stem', word, hname, hword⟩
    obtain ⟨-, rfl⟩ := eq_of_append_dot h.not_mem (isYamlExtension_of_eq hword).not_mem hname
    exact hword.elim hyaml hyml

/-- A name that ends like one of YAML is none exactly if there is nothing in front. -/
theorem endsInYaml_and_not_namesYaml_iff : EndsInYaml name ∧ ¬ NamesYaml name ↔
    name = ".yaml" ∨ name = ".yml" := by
  rw [endsInYaml_iff]
  constructor
  · rintro ⟨⟨stem, word, rfl, hword⟩, hname⟩
    have hstem : stem = "" :=
      by_contra fun hstem => hname (.mk stem word hstem (isYamlExtension_of_eq hword))
    rw [hstem]
    exact hword.imp (by rintro rfl; rfl) (by rintro rfl; rfl)
  · intro h
    obtain ⟨word, hname, hword⟩ :
        ∃ word, name = "" ++ "." ++ word ∧ (word = "yaml" ∨ word = "yml") := by
      rcases h with rfl | rfl
      · exact ⟨"yaml", rfl, .inl rfl⟩
      · exact ⟨"yml", rfl, .inr rfl⟩
    refine ⟨⟨"", word, hname, hword⟩, ?_⟩
    rintro ⟨stem, extension, hstem, hextension⟩
    exact hstem (eq_of_append_dot hextension.not_mem (isYamlExtension_of_eq hword).not_mem hname).1

/-- **Where formats part ways**: the name says one thing, and what the address ends in another. -/
theorem partsWays_iff : PartsWays name behind ↔
    ¬ (NamesYaml name ↔ EndsInYaml (if behind = "" then name else behind)) := by
  rw [← xor_iff_not_iff]
  constructor
  · rintro (⟨h, rfl⟩ | ⟨stem, extension, rfl, hstem, h, hyaml, hyml, rfl⟩ | ⟨h, hne, hbehind⟩ |
      ⟨h, hne, hbehind⟩)
    · rw [if_pos rfl]
      exact .inr (endsInYaml_and_not_namesYaml_iff.2 h)
    · rw [if_pos rfl]
      exact .inl (namesYaml_and_not_endsInYaml_iff.2 ⟨stem, extension, rfl, hstem, h, hyaml, hyml⟩)
    · rw [if_neg hne]
      exact .inl ⟨h, hbehind⟩
    · rw [if_neg hne]
      exact .inr ⟨hbehind, h⟩
  · by_cases hnothing : behind = ""
    · rw [if_pos hnothing]
      rintro (hhides | hends)
      · obtain ⟨stem, extension, hname, hstem, h, hyaml, hyml⟩ :=
          namesYaml_and_not_endsInYaml_iff.1 hhides
        exact .capitals stem extension hname hstem h hyaml hyml hnothing
      · exact .dotFile (endsInYaml_and_not_namesYaml_iff.1 hends) hnothing
    · rw [if_neg hnothing]
      rintro (⟨hname, hend⟩ | ⟨hend, hname⟩)
      · exact .hidden hname hnothing hend
      · exact .pretended hname hnothing hend

end TypeFiles
