/-
# The spelling of the names of members and cases

Of its text, once the accents are off, the name of a member keeps every ASCII letter and every digit,
in the order they stand in (`filter_isAlphanum_sanitized`).  What else it holds are underscores.

| text | left without accents | member | case |
| --- | --- | --- | --- |
| `Born-at` | `Born-at` | `Born_at` | `born_at` |
| `2fa` | `2fa` | `_2fa` | `_2fa` |
| `名前` | `名前` | | `empty` |
| `--` | `--` | `_` | `_` |
| (none) | | no name | `empty` |

So the name of a member is an identifier or empty, and which of them can be seen from the characters
of the text.  A text without characters has no name, and that is the one thing that can go wrong with
a name; it does not with that of a case, since a value that has characters has some in lower case.
The name of a case is always an identifier.
-/

import TypeFiles.Proofs.Name.Case
import TypeFiles.Proofs.Text.Order

namespace TypeFiles
namespace Name

variable {s value : String} {l : List Char}

/-! ## Letters and digits -/

theorem not_isAlphanum_of_isSeparator {c : Char} (h : isSeparator c = true) :
    c.isAlphanum = false := by
  rw [Bool.eq_false_iff]
  intro hc
  rw [not_isSeparator_of_isNameChar (isNameChar_of_isAlphanum hc)] at h
  cases h

/-- The underscore for a run of separators is no letter, and no separator is one. -/
theorem filter_isAlphanum_underscored (inside : Bool) (l : List Char) :
    (underscored inside l).filter Char.isAlphanum = l.filter Char.isAlphanum := by
  fun_induction underscored inside l with
  | case1 => rfl
  | case2 rest c hsep ih =>
    rw [ih, List.filter_cons, not_isAlphanum_of_isSeparator hsep, if_neg Bool.false_ne_true]
  | case3 inside c rest hsep hout ih =>
    rw [List.filter_cons, if_neg (by decide), ih, List.filter_cons,
      not_isAlphanum_of_isSeparator hsep, if_neg Bool.false_ne_true]
  | case4 inside c rest hsep ih => rw [List.filter_cons, ih, List.filter_cons]

theorem filter_isAlphanum_guardDigit (l : List Char) :
    (guardDigit l).filter Char.isAlphanum = l.filter Char.isAlphanum := by
  cases l with
  | nil => rfl
  | cons c rest =>
    rw [guardDigit]
    split
    · rw [List.filter_cons, if_neg (by decide)]
    · rfl

theorem filter_isAlphanum_kept (s : String) :
    (kept s).filter Char.isAlphanum = (Text.withoutMarks s.toList).filter Char.isAlphanum := by
  have hname : ∀ c : Char, (c.isAlphanum && isNameChar c) = c.isAlphanum := fun c => by
    cases hc : c.isAlphanum with
    | true => exact isNameChar_of_isAlphanum hc
    | false => rfl
  rw [kept, List.filter_filter]
  simp only [hname]
  exact filter_isAlphanum_underscored false _

/-- The underscore behind a reserved word is no letter. -/
theorem filter_isAlphanum_avoidReserved (s : String) :
    (Text.withoutMarks (avoidReserved s).toList).filter Char.isAlphanum =
      (Text.withoutMarks s.toList).filter Char.isAlphanum := by
  by_cases h : s ∈ reservedWords
  · have hunderscore : (Text.withoutMarks "_".toList).filter Char.isAlphanum = [] := by
      decide +kernel
    rw [avoidReserved_of_mem h, String.toList_append, Text.withoutMarks_append, List.filter_append,
      hunderscore, List.append_nil]
  · rw [avoidReserved_of_not_mem h]

/-- **Every letter and every digit is kept, in order.** -/
theorem filter_isAlphanum_sanitized (s : String) :
    (sanitized s).filter Char.isAlphanum =
      (Text.withoutMarks s.toList).filter Char.isAlphanum := by
  rw [sanitized_eq, filter_isAlphanum_guardDigit, filter_isAlphanum_kept,
    filter_isAlphanum_avoidReserved]

/-! ## Names that are there -/

theorem remains_eq_nil_iff : remains s = [] ↔ ∀ c ∈ Text.withoutMarks s.toList,
    ¬ (c.isAlphanum = true ∨ c = '_' ∨ c = '-' ∨ Text.isBlank c = true) := by
  rw [remains, List.filter_eq_nil_iff]
  simp only [isNameChar, isSeparator, Bool.or_eq_true, beq_iff_eq, or_assoc]

theorem forMember?_of_ne_empty (h : s ≠ "") :
    forMember? s = some (String.ofList (sanitized s)) := by
  rw [forMember?, if_neg (by rwa [String.isEmpty_iff])]

/-- A value with characters has some in lower case. -/
theorem lowered_ne_empty (h : value ≠ "") : lowered value ≠ "" := by
  rw [ne_eq, ← String.toList_inj] at h ⊢
  unfold lowered
  cases hvalue : value.toList with
  | nil => exact absurd hvalue h
  | cons c rest =>
    dsimp only
    rw [String.toList_ofList]
    exact fun hnil => Text.lower_ne_nil c (List.append_eq_nil_iff.1 hnil).1

theorem isIdentifier_forCase (value : String) : IsIdentifier (forCase value).toList := by
  rw [forCase_eq]
  split
  · exact .of_letters (by decide) (by decide)
  · rename_i hne
    rw [String.toList_ofList]
    exact isIdentifier_sanitized hne

/-- **How members and cases are named.**  A text with characters gives a member a name: an
identifier, or the empty text exactly if it has no letter, digit, underscore, hyphen or blank once
the accents are off; all its letters and digits are in the name, in order.  A value names its case as
its text in lower case names a member, which has characters if the value has, with a word in reserve
for the empty name and the empty value; that is an identifier always. -/
theorem names_of_members_and_cases (s value : String) :
    (s ≠ "" → ∃ name, forMember? s = some name ∧ (name = "" ∨ IsIdentifier name.toList) ∧
      (name = "" ↔ ∀ c ∈ Text.withoutMarks s.toList,
        ¬ (c.isAlphanum = true ∨ c = '_' ∨ c = '-' ∨ Text.isBlank c = true)) ∧
      name.toList.filter Char.isAlphanum =
        (Text.withoutMarks s.toList).filter Char.isAlphanum) ∧
    (value ≠ "" → ∃ name, forMember? (lowered value) = some name ∧
      forCase value = if name = "" then "empty" else name) ∧
    forCase "" = "empty" ∧ IsIdentifier (forCase value).toList := by
  have hempty : ∀ s, String.ofList (sanitized s) = "" ↔ sanitized s = [] := fun s => by
    rw [← String.toList_inj, String.toList_ofList]
    rfl
  refine ⟨fun hs => ?_, fun hvalue => ?_, rfl, isIdentifier_forCase value⟩
  · refine ⟨_, forMember?_of_ne_empty hs, ?_, ?_, ?_⟩
    · rw [hempty, String.toList_ofList]
      exact Decidable.or_iff_not_imp_left.2 isIdentifier_sanitized
    · rw [hempty, sanitized_eq_nil_iff, remains_eq_nil_iff]
    · rw [String.toList_ofList, filter_isAlphanum_sanitized]
  · refine ⟨_, forMember?_of_ne_empty (lowered_ne_empty hvalue), ?_⟩
    simp only [forCase_eq, hempty]

/-- The dot that a capital `İ` has left in lower case goes with the accents. -/
theorem dotted_capital_named :
    (∃ name, forMember? "İd-2" = some name ∧
      name.toList.filter Char.isAlphanum = ['I', 'd', '2']) ∧
    lowered "İd-2" = "i\u0307d-2" ∧ forCase "İd-2" = "id_2" := by
  have hplain : (Text.withoutMarks "İd-2".toList).filter Char.isAlphanum = ['I', 'd', '2'] := by
    decide +kernel
  have hlow : forMember? (lowered "İd-2") = some "id_2" := by decide +kernel
  obtain ⟨hmember, hcase, -, -⟩ := names_of_members_and_cases "İd-2" "İd-2"
  obtain ⟨member, hname, -, -, hletters⟩ := hmember (by decide)
  obtain ⟨name, hsome, hforCase⟩ := hcase (by decide)
  obtain rfl := Option.some.inj (hlow.symm.trans hsome)
  exact ⟨⟨member, hname, hletters.trans hplain⟩, by decide +kernel, hforCase⟩

end Name
end TypeFiles
