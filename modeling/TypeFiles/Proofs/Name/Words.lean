/-
# The words of a schema key

The name of a type is made of the words of its key and of nothing else (`toList_forType`).  The words
are the maximal runs of ASCII letters and digits that are left once the accents are off.

| key | words | name |
| --- | --- | --- |
| `pet-store item` | `pet`, `store`, `item` | `PetStoreItem` |
| `Café` | `Cafe` | `Cafe` |
| `3d model` | `3d`, `model` | `_3dModel` |
| `---` | | `UnnamedType` |

A name of one of the two forms is the name of itself, and no other text is (`forType_eq_self_iff`).
So a key is named in one step: the name of a name is that name.
-/

import TypeFiles.Proofs.Name.Case
import TypeFiles.Proofs.Text.Runs

namespace TypeFiles
namespace Name

variable {c : Char} {s run rest part : List Char} {others : List (List Char)} {name : String}

/-- The maximal runs of ASCII letters and digits in a text. -/
def wordsOf (s : List Char) : List (List Char) :=
  (Text.runsBy Char.isAlphanum s).filter fun run => run.all Char.isAlphanum

/-- The words of a schema key. -/
def keyWords (key : String) : List (List Char) := wordsOf (Text.withoutMarks key.toList)

/-- What words are put together to: each with its first letter as a capital, one behind the other. -/
def runTogether (words : List (List Char)) : List Char :=
  words.flatMap (List.modifyHead Char.toUpper)

/-- The name that words make. -/
def ofWords (words : List (List Char)) : List Char :=
  if words = [] then "UnnamedType".toList
  else if (runTogether words).head?.any Char.isDigit then '_' :: runTogether words
  else runTogether words

/-! ## Words and parts -/

theorem wordsOf_append (hne : run ≠ []) (hrun : ∀ c ∈ run, c.isAlphanum = true)
    (hrest : ∀ d ∈ rest.head?, d.isAlphanum = false) :
    wordsOf (run ++ rest) = run :: wordsOf rest := by
  rw [wordsOf, Text.runsBy_append hne hrun hrest, List.filter_cons, if_pos (List.all_eq_true.2 hrun)]
  rfl

theorem wordsOf_gap_append (hne : run ≠ []) (hrun : ∀ c ∈ run, c.isAlphanum = false)
    (hrest : ∀ d ∈ rest.head?, d.isAlphanum = true) : wordsOf (run ++ rest) = wordsOf rest := by
  obtain ⟨c, more, rfl⟩ := List.exists_cons_of_ne_nil hne
  have hgap : ¬ (c :: more).all Char.isAlphanum = true := by
    rw [List.all_cons, hrun c List.mem_cons_self]
    exact Bool.false_ne_true
  rw [wordsOf, Text.runsBy_append hne hrun hrest, List.filter_cons, if_neg hgap]
  rfl

theorem parts_cons_gap (h : c.isAlphanum = false) : parts (c :: s) = [] :: parts s := by
  rw [parts, List.foldr_cons, h, if_neg Bool.false_ne_true]
  rfl

theorem parts_cons_letter (h : c.isAlphanum = true) (hs : parts s = part :: others) :
    parts (c :: s) = (c :: part) :: others := by
  rw [parts] at hs
  rw [parts, List.foldr_cons, hs, if_pos h]

theorem parts_append (hrun : ∀ c ∈ run, c.isAlphanum = true) (hs : parts s = part :: others) :
    parts (run ++ s) = (run ++ part) :: others := by
  induction run with
  | nil => exact hs
  | cons c run ih =>
    rw [List.forall_mem_cons] at hrun
    exact parts_cons_letter hrun.1 (ih hrun.2)

/-- A text that does not start with a word has an empty part in front. -/
theorem exists_parts_eq (h : ∀ d ∈ s.head?, d.isAlphanum = false) :
    ∃ others, parts s = [] :: others := by
  cases s with
  | nil => exact ⟨[], rfl⟩
  | cons c s => exact ⟨parts s, parts_cons_gap (h c rfl)⟩

/-- **The parts of a text that are not empty are its words.** -/
theorem filter_parts (s : List Char) :
    (parts s).filter (fun part => !part.isEmpty) = wordsOf s := by
  induction s using Text.runs_induction Char.isAlphanum with
  | nil => rfl
  | append kind run rest hne hrun hrest ih =>
    cases kind with
    | true =>
      obtain ⟨others, hothers⟩ := exists_parts_eq hrest
      rw [hothers] at ih
      rw [parts_append hrun hothers, wordsOf_append hne hrun hrest, ← ih, List.append_nil]
      simp [hne]
    | false =>
      rw [wordsOf_gap_append hne hrun hrest, ← ih]
      clear hne
      induction run with
      | nil => rfl
      | cons c run ihrun =>
        rw [List.forall_mem_cons] at hrun
        rw [List.cons_append, parts_cons_gap hrun.1, ← ihrun hrun.2]
        rfl

/-! ## Words put together -/

theorem isAlphanum_of_mem_wordsOf {word : List Char} (h : word ∈ wordsOf s) (hc : c ∈ word) :
    c.isAlphanum = true :=
  List.all_eq_true.1 (List.mem_filter.1 h).2 c hc

theorem ne_nil_of_mem_wordsOf {word : List Char} (h : word ∈ wordsOf s) : word ≠ [] := by
  rw [← filter_parts] at h
  simpa using (List.mem_filter.1 h).2

/-- The words of a text are capitalized as ASCII letters are. -/
theorem flatMap_capitalized (s : List Char) :
    (wordsOf s).flatMap capitalized = runTogether (wordsOf s) := by
  refine List.flatMap_congr fun word hword => ?_
  obtain ⟨c, rest, rfl⟩ := List.exists_cons_of_ne_nil (ne_nil_of_mem_wordsOf hword)
  have hc := isAlphanum_of_mem_wordsOf hword List.mem_cons_self
  rw [capitalized, Text.upper_of_isAlphanum hc, List.singleton_append, List.modifyHead_cons]

theorem runTogether_eq_nil_iff : runTogether (wordsOf s) = [] ↔ wordsOf s = [] := by
  cases h : wordsOf s with
  | nil => exact iff_of_true rfl rfl
  | cons word words =>
    have hword : word ≠ [] := ne_nil_of_mem_wordsOf (h ▸ List.mem_cons_self)
    simp [runTogether, hword]

theorem guardDigit_eq_ite (l : List Char) :
    guardDigit l = if l.head?.any Char.isDigit then '_' :: l else l := by
  cases l <;> rfl

/-- **The name of a type is made of the words of its key.** -/
theorem toList_forType (key : String) :
    (forType key).toList = ofWords (keyWords key) := by
  unfold forType ofWords keyWords
  dsimp only
  rw [filter_parts, ← guardDigit_eq_ite, flatMap_capitalized]
  by_cases hwords : wordsOf (Text.withoutMarks key.toList) = []
  · rw [if_pos hwords, hwords]
    rfl
  · rw [if_neg hwords]
    split
    · rename_i hnil
      exact absurd (runTogether_eq_nil_iff.1 (guardDigit_eq_nil_iff.1 hnil)) hwords
    · exact String.toList_ofList

/-! ## Names of names -/

/-- A text of letters and digits is its only word. -/
theorem wordsOf_eq_singleton (hne : s ≠ []) (h : ∀ c ∈ s, c.isAlphanum = true) :
    wordsOf s = [s] := by
  have hwords : wordsOf (s ++ []) = [s] := wordsOf_append hne h nofun
  rwa [List.append_nil] at hwords

/-- A capital or a digit is its own capital. -/
theorem toUpper_eq_self (h : c.isUpper = true ∨ c.isDigit = true) : c.toUpper = c :=
  Text.forall_alphanum (p := fun c => c.isUpper = true ∨ c.isDigit = true → c.toUpper = c)
    (by decide +kernel) (h.elim Text.isAlphanum_of_isUpper Text.isAlphanum_of_isDigit) h

/-- A word that starts with a capital or a digit is its name, but for the guard of the digit. -/
theorem ofWords_wordsOf_cons (hc : c.isUpper = true ∨ c.isDigit = true)
    (hrest : ∀ d ∈ rest, d.isAlphanum = true) :
    ofWords (wordsOf (c :: rest)) = guardDigit (c :: rest) := by
  have halnum := hc.elim Text.isAlphanum_of_isUpper Text.isAlphanum_of_isDigit
  have hwords : wordsOf (c :: rest) = [c :: rest] :=
    wordsOf_eq_singleton (List.cons_ne_nil c rest) (List.forall_mem_cons.2 ⟨halnum, hrest⟩)
  have htext : runTogether [c :: rest] = c :: rest := by
    simp [runTogether, toUpper_eq_self hc]
  rw [hwords, ofWords, if_neg (List.cons_ne_nil _ _), htext, guardDigit_eq_ite]

/-- What has one of the two forms is the name of its words. -/
theorem IsTypeName.ofWords_eq {l : List Char} (h : IsTypeName l) : ofWords (wordsOf l) = l := by
  cases h with
  | @capital c rest hc hrest =>
    rw [ofWords_wordsOf_cons (.inl hc) hrest]
    exact (IsTypeName.capital hc hrest).isIdentifier.guardDigit_eq
  | @digit c rest hc hrest =>
    -- The underscore that guards the digit is a gap, and comes back as the guard.
    have hstart : ∀ d ∈ (c :: rest).head?, d.isAlphanum = true := fun d hd => by
      rw [← Option.some.inj hd]
      exact Text.isAlphanum_of_isDigit hc
    have hguard : ∀ d ∈ ['_'], d.isAlphanum = false := List.forall_mem_singleton.2 rfl
    have hgap : wordsOf (['_'] ++ c :: rest) = wordsOf (c :: rest) :=
      wordsOf_gap_append (List.cons_ne_nil _ _) hguard hstart
    rw [List.singleton_append] at hgap
    rw [hgap, ofWords_wordsOf_cons (.inr hc) hrest, guardDigit, if_pos hc]

/-- **The texts with one of the two forms are the names of themselves.** -/
theorem forType_eq_self_iff : forType name = name ↔ IsTypeName name.toList := by
  constructor
  · intro h
    rw [← h]
    exact isTypeName_forType name
  · intro h
    rw [← String.toList_inj, toList_forType, keyWords, h.isIdentifier.withoutMarks_eq, h.ofWords_eq]

/-! ## The word in reserve -/

/-- The word in reserve is the name of a key without words, and of a key that spells it. -/
theorem forType_eq_reserve_iff :
    forType name = "UnnamedType" ↔
      keyWords name = [] ∨ runTogether (keyWords name) = "UnnamedType".toList := by
  rw [← String.toList_inj, toList_forType, ofWords]
  by_cases hwords : keyWords name = []
  · rw [if_pos hwords]
    exact iff_of_true rfl (.inl hwords)
  · rw [if_neg hwords, or_iff_right hwords, ← guardDigit_eq_ite]
    have hreserve : IsIdentifier "UnnamedType".toList := .of_letters (by decide) (by decide)
    constructor
    · intro h
      cases htext : runTogether (keyWords name) with
      | nil => rw [htext] at h; exact h
      | cons c rest =>
        rw [htext, guardDigit] at h
        split at h
        · exact absurd (List.cons.inj h).1 (by decide)
        · exact h
    · intro h
      rw [h, hreserve.guardDigit_eq]

/-- A text of letters and digits is capitalized as a whole. -/
theorem flatMap_capitalized_of_alphanum (h : ∀ c ∈ s, c.isAlphanum = true) :
    (wordsOf s).flatMap capitalized = capitalized s := by
  cases s with
  | nil => rfl
  | cons c rest =>
    rw [wordsOf_eq_singleton (List.cons_ne_nil c rest) h, List.flatMap_cons, List.flatMap_nil,
      List.append_nil]

/-- **The name of a type is a normal form of its key.**  It has one of the two forms, and is made of
the words of the key and of nothing else: put together, with an underscore in front of a digit, or
the word in reserve if there is none.  A key that is one word is capitalized as a whole.  The name of
a name is that name, and only such a text is its own name. -/
theorem forType_normal_form (key : String) :
    IsTypeName (forType key).toList ∧
    (forType key).toList = ofWords (keyWords key) ∧
    (forType key = "UnnamedType" ↔
      keyWords key = [] ∨ runTogether (keyWords key) = "UnnamedType".toList) ∧
    ((∀ c ∈ Text.withoutMarks key.toList, c.isAlphanum = true) →
      (keyWords key).flatMap capitalized = capitalized (Text.withoutMarks key.toList)) ∧
    forType (forType key) = forType key ∧
    (forType key = key ↔ IsTypeName key.toList) :=
  ⟨isTypeName_forType key, toList_forType key, forType_eq_reserve_iff,
    flatMap_capitalized_of_alphanum, forType_eq_self_iff.2 (isTypeName_forType key),
    forType_eq_self_iff⟩

/-- A name that starts with a digit is one word, and its name is guarded once. -/
theorem guarded_once : (∀ c ∈ Text.withoutMarks "3dModèle".toList, c.isAlphanum = true) ∧
    (keyWords "3dModèle").flatMap capitalized = "3dModele".toList ∧
    forType (forType "3dModèle") = "_3dModele" := by
  have hword : ∀ c ∈ Text.withoutMarks "3dModèle".toList, c.isAlphanum = true :=
    List.all_eq_true.1 (by decide +kernel)
  obtain ⟨-, -, -, hwhole, htwice, -⟩ := forType_normal_form "3dModèle"
  refine ⟨hword, (hwhole hword).trans (by decide +kernel), htwice.trans (by decide +kernel)⟩

end Name
end TypeFiles
