/-
# What a name keeps of a text

The name of a member is made of a text that the document chose: the name of a property, or a value
with its first letter in lower case.  Of that text it keeps the ASCII letters, the digits and the
underscores, and one underscore for each run of blanks and hyphens (`kept`).  Two things are added:
an underscore in front of a leading digit, and one behind a reserved word.

| text | kept | name |
| --- | --- | --- |
| `born-at` | `born_at` | `born_at` |
| `2fa` | `2fa` | `_2fa` |
| `class` | `class` | `class_` |
| `clàss` | `class` | `class` |
| `名前` | | |

A reserved word is looked for in the text before anything is left out of it.  So a name is no
identifier if nothing is left of its text, and it is a reserved word if leaving out makes one of its
text.  In all other cases the name can be used (`isUsable_sanitized_iff`).
-/

import TypeFiles.Proofs.Name.Type
import TypeFiles.Proofs.Text.Marks

namespace TypeFiles
namespace Name

/-! ## Identifiers -/

/-- A letter or an underscore, and then letters, digits and underscores. -/
inductive IsIdentifier : List Char → Prop where
  | mk {c : Char} {rest : List Char} (hc : c.isAlpha = true ∨ c = '_')
      (hrest : ∀ d ∈ rest, d.isAlphanum = true ∨ d = '_') : IsIdentifier (c :: rest)

/-- A name that the generated code can use: an identifier, and no reserved word. -/
structure IsUsable (name : String) : Prop where
  identifier : IsIdentifier name.toList
  notReserved : name ∉ reservedWords

variable {c : Char} {s t : String} {l : List Char}

theorem isNameChar_iff : isNameChar c = true ↔ c.isAlphanum = true ∨ c = '_' := by
  rw [isNameChar, Bool.or_eq_true, beq_iff_eq]

theorem isNameChar_of_isAlphanum (h : c.isAlphanum = true) : isNameChar c = true :=
  isNameChar_iff.2 (.inl h)

namespace IsIdentifier

theorem ne_nil (h : IsIdentifier l) : l ≠ [] := by
  cases h
  exact List.cons_ne_nil _ _

theorem isNameChar_of_mem (h : IsIdentifier l) (hc : c ∈ l) : isNameChar c = true := by
  cases h with
  | mk hfirst hrest =>
    rw [isNameChar_iff]
    rcases List.mem_cons.1 hc with rfl | hc
    · exact hfirst.imp_left Text.isAlphanum_of_isAlpha
    · exact hrest c hc

/-- A word is an identifier. -/
theorem of_letters (hne : l ≠ []) (h : l.all Char.isAlpha = true) : IsIdentifier l := by
  obtain ⟨c, rest, rfl⟩ := List.exists_cons_of_ne_nil hne
  rw [List.all_eq_true, List.forall_mem_cons] at h
  exact .mk (.inl h.1) fun d hd => .inl (Text.isAlphanum_of_isAlpha (h.2 d hd))

/-- What can stand in a name is an identifier once a digit in front is guarded. -/
theorem of_guardDigit (hne : l ≠ []) (h : ∀ c ∈ l, isNameChar c = true) :
    IsIdentifier (guardDigit l) := by
  obtain ⟨c, rest, rfl⟩ := List.exists_cons_of_ne_nil hne
  rw [List.forall_mem_cons, isNameChar_iff] at h
  simp only [isNameChar_iff] at h
  rw [guardDigit]
  split
  · exact .mk (.inr rfl) (List.forall_mem_cons.2 h)
  · rename_i hdigit
    refine .mk (h.1.imp_left fun halnum => ?_) h.2
    exact (Bool.or_eq_true_iff.1 halnum).resolve_right hdigit

/-- An identifier does not start with a digit. -/
theorem guardDigit_eq (h : IsIdentifier l) : guardDigit l = l := by
  cases h with
  | @mk c rest hfirst hrest =>
    have hdigit : c.isDigit = false := by
      rcases hfirst with hc | rfl
      · exact Text.not_isDigit_of_isAlpha hc
      · rfl
    rw [guardDigit, hdigit, if_neg Bool.false_ne_true]

/-- An identifier is one with an underscore behind it. -/
theorem append_underscore (h : IsIdentifier l) : IsIdentifier (l ++ ['_']) := by
  cases h with
  | mk hfirst hrest =>
    refine .mk hfirst fun d hd => ?_
    rcases List.mem_append.1 hd with hd | hd
    · exact hrest d hd
    · exact .inr (List.mem_singleton.1 hd)

end IsIdentifier

/-! ## Reserved words -/

/-- A reserved word is made of letters. -/
theorem reserved_letters (h : s ∈ reservedWords) :
    ∃ c rest, s.toList = c :: rest ∧ ∀ d ∈ c :: rest, d.isAlpha = true := by
  have hall : ∀ w ∈ reservedWords, w.toList ≠ [] ∧ w.toList.all Char.isAlpha = true := by
    decide +kernel
  obtain ⟨hne, hletters⟩ := hall s h
  obtain ⟨c, rest, heq⟩ := List.exists_cons_of_ne_nil hne
  rw [heq, List.all_eq_true] at hletters
  exact ⟨c, rest, heq, hletters⟩

theorem isAlphanum_of_reserved (h : s ∈ reservedWords) (hc : c ∈ s.toList) :
    c.isAlphanum = true := by
  obtain ⟨d, rest, heq, hletters⟩ := reserved_letters h
  rw [heq] at hc
  exact Text.isAlphanum_of_isAlpha (hletters c hc)

theorem isIdentifier_of_reserved (h : s ∈ reservedWords) : IsIdentifier s.toList := by
  obtain ⟨c, rest, heq, hletters⟩ := reserved_letters h
  rw [heq]
  exact .of_letters (List.cons_ne_nil c rest) (List.all_eq_true.2 hletters)

/-- A text with an underscore behind it is no reserved word. -/
theorem append_underscore_not_reserved (s : String) : s ++ "_" ∉ reservedWords := by
  intro h
  have hmem : '_' ∈ (s ++ "_").toList := by simp
  exact absurd (isAlphanum_of_reserved h hmem) (by decide)

theorem avoidReserved_of_mem (h : s ∈ reservedWords) : avoidReserved s = s ++ "_" :=
  if_pos (List.contains_iff_mem.2 h)

theorem avoidReserved_of_not_mem (h : s ∉ reservedWords) : avoidReserved s = s :=
  if_neg fun hmem => h (List.contains_iff_mem.1 hmem)

theorem avoidReserved_not_reserved (s : String) : avoidReserved s ∉ reservedWords := by
  by_cases h : s ∈ reservedWords
  · rw [avoidReserved_of_mem h]
    exact append_underscore_not_reserved s
  · rw [avoidReserved_of_not_mem h]
    exact h

theorem isIdentifier_avoidReserved (h : IsIdentifier s.toList) :
    IsIdentifier (avoidReserved s).toList := by
  by_cases hmem : s ∈ reservedWords
  · rw [avoidReserved_of_mem hmem, String.toList_append]
    exact h.append_underscore
  · rw [avoidReserved_of_not_mem hmem]
    exact h

/-! ## What is kept -/

/-- The characters that a name keeps of a text, each run of separators being one underscore. -/
def kept (s : String) : List Char :=
  (underscored false (Text.withoutMarks s.toList)).filter isNameChar

/-- What is left of a text without its marks and without the characters that leave no trace. -/
def remains (s : String) : List Char :=
  (Text.withoutMarks s.toList).filter fun c => isNameChar c || isSeparator c

theorem toNat_lt_of_isNameChar (h : isNameChar c = true) : c.toNat < 128 := by
  rcases isNameChar_iff.1 h with h | rfl
  · exact Text.toNat_lt_of_isAlphanum h
  · decide

/-- An identifier has no accents. -/
theorem IsIdentifier.withoutMarks_eq (h : IsIdentifier l) : Text.withoutMarks l = l :=
  Text.withoutMarks_of_ascii fun _ hc => toNat_lt_of_isNameChar (h.isNameChar_of_mem hc)

/-- No character of a name is a separator. -/
theorem not_isSeparator_of_isNameChar (h : isNameChar c = true) : isSeparator c = false := by
  rcases isNameChar_iff.1 h with h | rfl
  · exact Text.forall_alphanum (p := fun c => isSeparator c = false) (by decide +kernel) h
  · decide +kernel

theorem isNameChar_of_mem_kept (h : c ∈ kept s) : isNameChar c = true :=
  (List.mem_filter.1 h).2

/-- A text with a separator gets an underscore, and one without stays as it is. -/
theorem underscored_cases (t : List Char) :
    (∃ c ∈ t, isSeparator c = true) ∧ '_' ∈ underscored false t ∨
      (∀ c ∈ t, isSeparator c = false) ∧ underscored false t = t := by
  induction t with
  | nil => exact .inr ⟨nofun, rfl⟩
  | cons c rest ih =>
    rw [underscored]
    cases hc : isSeparator c with
    | true => exact .inl ⟨⟨c, List.mem_cons_self, hc⟩, by simp⟩
    | false =>
      rw [if_neg Bool.false_ne_true]
      rcases ih with ⟨⟨d, hd, hsep⟩, hmem⟩ | ⟨hnone, heq⟩
      · exact .inl ⟨⟨d, List.mem_cons_of_mem _ hd, hsep⟩, List.mem_cons_of_mem _ hmem⟩
      · refine .inr ⟨?_, by rw [heq]⟩
        rw [List.forall_mem_cons]
        exact ⟨hc, hnone⟩

/-- **A text that is kept without underscores is all that remains.** -/
theorem kept_eq_iff {w : List Char} (hw : ∀ c ∈ w, c.isAlphanum = true) :
    kept s = w ↔ remains s = w := by
  unfold kept remains
  -- A separator shows on both sides: as an underscore in what is kept, as itself in what remains.
  rcases underscored_cases (Text.withoutMarks s.toList) with ⟨⟨c, hc, hsep⟩, hmem⟩ | ⟨hnone, heq⟩
  · constructor
    · intro h
      have : '_' ∈ w := h ▸ List.mem_filter.2 ⟨hmem, rfl⟩
      exact absurd (hw _ this) (by decide)
    · intro h
      have : c ∈ w := h ▸ List.mem_filter.2 ⟨hc, by rw [hsep, Bool.or_true]⟩
      rw [not_isSeparator_of_isNameChar (isNameChar_of_isAlphanum (hw c this))] at hsep
      cases hsep
  · have hfilter : (Text.withoutMarks s.toList).filter isNameChar =
        (Text.withoutMarks s.toList).filter fun c => isNameChar c || isSeparator c := by
      refine List.filter_congr fun c hc => ?_
      rw [hnone c hc, Bool.or_false]
    rw [heq, hfilter]

theorem kept_eq_nil_iff : kept s = [] ↔ remains s = [] := kept_eq_iff nofun

/-- Of an identifier everything is kept. -/
theorem kept_of_isIdentifier (h : IsIdentifier s.toList) : kept s = s.toList := by
  rw [kept, h.withoutMarks_eq]
  rcases underscored_cases s.toList with ⟨⟨c, hc, hsep⟩, -⟩ | ⟨-, heq⟩
  · rw [not_isSeparator_of_isNameChar (h.isNameChar_of_mem hc)] at hsep
    cases hsep
  · rw [heq, List.filter_eq_self]
    exact fun c hc => h.isNameChar_of_mem hc

/-! ## The name of a member -/

theorem sanitized_eq (s : String) : sanitized s = guardDigit (kept (avoidReserved s)) := rfl

theorem sanitized_of_not_reserved (h : s ∉ reservedWords) : sanitized s = guardDigit (kept s) := by
  rw [sanitized_eq, avoidReserved_of_not_mem h]

/-- The name made of an identifier is that identifier, unless it is reserved. -/
theorem sanitized_of_isIdentifier (h : IsIdentifier s.toList) :
    sanitized s = (avoidReserved s).toList := by
  have havoid := isIdentifier_avoidReserved h
  rw [sanitized_eq, kept_of_isIdentifier havoid, havoid.guardDigit_eq]

theorem sanitized_of_reserved (h : s ∈ reservedWords) : sanitized s = s.toList ++ ['_'] := by
  rw [sanitized_of_isIdentifier (isIdentifier_of_reserved h), avoidReserved_of_mem h,
    String.toList_append]
  rfl

/-- A text becomes a reserved word without being one: leaving out makes the word of it. -/
def HidesReserved (s : String) : Prop :=
  s ∉ reservedWords ∧ String.ofList (remains s) ∈ reservedWords

instance : Decidable (HidesReserved s) := inferInstanceAs (Decidable (_ ∧ _))

theorem guardDigit_eq_nil_iff : guardDigit l = [] ↔ l = [] := by
  cases l with
  | nil => rfl
  | cons c rest =>
    rw [guardDigit]
    split <;> simp

/-- A name that is not empty is an identifier. -/
theorem isIdentifier_sanitized (h : sanitized s ≠ []) : IsIdentifier (sanitized s) := by
  rw [sanitized_eq] at h ⊢
  exact .of_guardDigit (mt guardDigit_eq_nil_iff.2 h) fun c hc => isNameChar_of_mem_kept hc

/-- **A name is empty exactly if nothing remains of its text.** -/
theorem sanitized_eq_nil_iff : sanitized s = [] ↔ remains s = [] := by
  by_cases h : s ∈ reservedWords
  · have hremains : remains s = s.toList :=
      (kept_eq_iff fun c hc => isAlphanum_of_reserved h hc).1
        (kept_of_isIdentifier (isIdentifier_of_reserved h))
    obtain ⟨c, rest, heq, -⟩ := reserved_letters h
    rw [sanitized_of_reserved h, hremains, heq]
    simp
  · rw [sanitized_of_not_reserved h, guardDigit_eq_nil_iff, kept_eq_nil_iff]

/-- Guarding a digit makes no reserved word. -/
theorem guardDigit_eq_reserved_iff (h : s ∈ reservedWords) :
    guardDigit l = s.toList ↔ l = s.toList := by
  have hword := isIdentifier_of_reserved h
  constructor
  · intro heq
    cases l with
    | nil => exact heq
    | cons c rest =>
      rw [guardDigit] at heq
      split at heq
      · have hmem : '_' ∈ s.toList := heq ▸ List.mem_cons_self
        exact absurd (isAlphanum_of_reserved h hmem) (by decide)
      · exact heq
  · rintro rfl
    exact hword.guardDigit_eq

/-- **A name is a reserved word exactly if its text hides one.** -/
theorem sanitized_reserved_iff : String.ofList (sanitized s) ∈ reservedWords ↔ HidesReserved s := by
  by_cases h : s ∈ reservedWords
  · have hname : String.ofList (sanitized s) = s ++ "_" := by
      rw [← String.toList_inj, String.toList_ofList, sanitized_of_reserved h, String.toList_append]
      rfl
    rw [hname]
    exact ⟨fun hmem => absurd hmem (append_underscore_not_reserved s),
      fun hhides => absurd h hhides.1⟩
  · have hword : ∀ w ∈ reservedWords, sanitized s = w.toList ↔ remains s = w.toList := by
      intro w hw
      rw [sanitized_of_not_reserved h, guardDigit_eq_reserved_iff hw,
        kept_eq_iff fun c hc => isAlphanum_of_reserved hw hc]
    have hlist : ∀ l : List Char, String.ofList l ∈ reservedWords ↔
        ∃ w ∈ reservedWords, l = w.toList := by
      intro l
      constructor
      · exact fun hmem => ⟨_, hmem, String.toList_ofList.symm⟩
      · rintro ⟨w, hw, rfl⟩
        rwa [String.ofList_toList]
    rw [HidesReserved, hlist, hlist]
    constructor
    · rintro ⟨w, hw, heq⟩
      exact ⟨h, w, hw, (hword w hw).1 heq⟩
    · rintro ⟨-, w, hw, heq⟩
      exact ⟨w, hw, (hword w hw).2 heq⟩

/-- **A name can be used exactly if something remains of its text and hides no reserved word.** -/
theorem isUsable_sanitized_iff :
    IsUsable (String.ofList (sanitized s)) ↔ remains s ≠ [] ∧ ¬ HidesReserved s := by
  rw [← sanitized_reserved_iff]
  constructor
  · intro h
    refine ⟨fun hnil => h.identifier.ne_nil ?_, h.notReserved⟩
    rw [String.toList_ofList, sanitized_eq_nil_iff.2 hnil]
  · rintro ⟨hne, hreserved⟩
    refine ⟨?_, hreserved⟩
    rw [String.toList_ofList]
    exact isIdentifier_sanitized fun hnil => hne (sanitized_eq_nil_iff.1 hnil)

end Name
end TypeFiles
