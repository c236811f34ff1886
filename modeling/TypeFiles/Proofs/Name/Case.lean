/-
# The names of cases

A case is named after the value it stands for, as a member is after a property, but with the first
letter of the value in lower case, and with a word in reserve if nothing remains of it
(`forCase_eq`).  So there is only one way left for its name to be of no use
(`isUsable_forCase_iff`).

The cases of a union are named after types, or numbered:

| alternative | name of its case | example |
| --- | --- | --- |
| refers to a type | that of the type, its first letter in lower case | `PetStore`: `petStore` |
| stands by itself | `case` and its number | `case2` |

The name of a type is an identifier already, so no two types share the name of a case
(`forCase_inj`).  But a number can: the name of the second case is that of the type `Case2`
(`forCase_numbered`).
-/

import TypeFiles.Proofs.Name.Member

namespace TypeFiles

namespace Text

/-- The lower case of an ASCII letter is its small letter; a digit is its own. -/
theorem lower_of_isAlphanum {c : Char} (h : c.isAlphanum = true) : lower c = [c.toLower] :=
  forall_alphanum (p := fun c => lower c = [c.toLower]) (by decide +kernel) h

/-- A character does not vanish in lower case. -/
theorem lower_ne_nil (c : Char) : lower c ≠ [] := by
  have hexpansions : ∀ e ∈ lowerExpansions, e.image.map Char.ofNat ≠ [] := by
    decide +kernel
  unfold lower caseImage
  split
  · rename_i e he
    exact hexpansions e (List.mem_of_find?_eq_some he)
  · split <;> exact List.cons_ne_nil _ _

theorem isAlpha_toLower_of_isUpper {c : Char} (h : c.isUpper = true) : c.toLower.isAlpha = true :=
  forall_alphanum (p := fun c => c.isUpper = true → c.toLower.isAlpha = true) (by decide +kernel)
    (isAlphanum_of_isUpper h) h

/-- A capital can be told from its small letter. -/
theorem toUpper_toLower_of_isUpper {c : Char} (h : c.isUpper = true) : c.toLower.toUpper = c :=
  forall_alphanum (p := fun c => c.isUpper = true → c.toLower.toUpper = c) (by decide +kernel)
    (isAlphanum_of_isUpper h) h

end Text

namespace Name

/-- A value with its first letter in lower case. -/
def lowered (value : String) : String :=
  match value.toList with
  | [] => ""
  | c :: rest => String.ofList (Text.lower c ++ rest)

variable {value name other key : String} {n m : Nat}

theorem forCase_eq (value : String) : forCase value =
    if sanitized (lowered value) = [] then "empty"
    else String.ofList (sanitized (lowered value)) := by
  unfold forCase lowered
  cases value.toList with
  | nil => decide +kernel
  | cons c rest =>
    dsimp only
    cases sanitized (String.ofList (Text.lower c ++ rest)) <;> simp

/-- **The name of a case can be used exactly if its value hides no reserved word.** -/
theorem isUsable_forCase_iff : IsUsable (forCase value) ↔ ¬ HidesReserved (lowered value) := by
  rw [forCase_eq]
  by_cases hnil : sanitized (lowered value) = []
  · rw [if_pos hnil]
    have hempty : IsUsable "empty" := ⟨.of_letters (by decide) (by decide), by decide⟩
    refine iff_of_true hempty fun hhides => ?_
    rw [← sanitized_reserved_iff, hnil] at hhides
    revert hhides
    decide
  · rw [if_neg hnil, isUsable_sanitized_iff]
    exact and_iff_right fun hremains => hnil (sanitized_eq_nil_iff.2 hremains)

/-! ## Cases named after types -/

namespace IsTypeName

/-- The name of a type is an identifier. -/
theorem isIdentifier {l : List Char} (h : IsTypeName l) : IsIdentifier l := by
  cases h with
  | capital hc hrest =>
    exact .mk (.inl (Text.isAlpha_of_isUpper hc)) fun d hd => .inl (hrest d hd)
  | digit hc hrest =>
    have halnum := Text.isAlphanum_of_isDigit hc
    exact .mk (.inr rfl) (List.forall_mem_cons.2 ⟨.inl halnum, fun d hd => .inl (hrest d hd)⟩)

/-- In lower case, a capital in front becomes a small letter, and an underscore stays. -/
theorem lowered_cases (h : IsTypeName name.toList) :
    (∃ c rest, c.isUpper = true ∧ (∀ d ∈ rest, d.isAlphanum = true) ∧ name.toList = c :: rest ∧
      (lowered name).toList = c.toLower :: rest) ∨
    ∃ rest, name.toList = '_' :: rest ∧ lowered name = name := by
  unfold lowered
  cases hname : name.toList with
  | nil => rw [hname] at h; cases h
  | cons c rest =>
    rw [hname] at h
    cases h with
    | capital hc hrest =>
      refine .inl ⟨c, rest, hc, hrest, rfl, ?_⟩
      dsimp only
      rw [Text.lower_of_isAlphanum (Text.isAlphanum_of_isUpper hc)]
      exact String.toList_ofList
    | digit hc hrest =>
      refine .inr ⟨_, rfl, ?_⟩
      have hlower : Text.lower '_' = ['_'] := by decide +kernel
      dsimp only
      rw [hlower, List.singleton_append, ← hname, String.ofList_toList]

theorem isIdentifier_lowered (h : IsTypeName name.toList) : IsIdentifier (lowered name).toList := by
  rcases h.lowered_cases with ⟨c, rest, hc, hrest, -, heq⟩ | ⟨-, -, heq⟩
  · rw [heq]
    exact .mk (.inl (Text.isAlpha_toLower_of_isUpper hc)) fun d hd => .inl (hrest d hd)
  · rw [heq]
    exact h.isIdentifier

/-- **The case of a type has its name in lower case**, and an underscore behind that if it is
reserved. -/
theorem forCase_eq (h : IsTypeName name.toList) : forCase name = avoidReserved (lowered name) := by
  have hidentifier := h.isIdentifier_lowered
  have hne := (isIdentifier_avoidReserved hidentifier).ne_nil
  rw [Name.forCase_eq, sanitized_of_isIdentifier hidentifier, if_neg hne, String.ofList_toList]

theorem isUsable_forCase (h : IsTypeName name.toList) : IsUsable (forCase name) := by
  rw [h.forCase_eq]
  exact ⟨isIdentifier_avoidReserved h.isIdentifier_lowered, avoidReserved_not_reserved _⟩

/-- In lower case, two types have different names still. -/
theorem lowered_inj (h : IsTypeName name.toList) (hother : IsTypeName other.toList)
    (heq : lowered name = lowered other) : name = other := by
  rw [← String.toList_inj] at heq ⊢
  rcases h.lowered_cases with ⟨c, rest, hc, -, hname, hlow⟩ | ⟨rest, hname, hlow⟩ <;>
    rcases hother.lowered_cases with ⟨c', rest', hc', -, hname', hlow'⟩ | ⟨rest', hname', hlow'⟩
  · rw [hlow, hlow', List.cons.injEq] at heq
    rw [hname, hname', heq.2, ← Text.toUpper_toLower_of_isUpper hc, heq.1,
      Text.toUpper_toLower_of_isUpper hc']
  · rw [hlow, hlow', hname', List.cons.injEq] at heq
    exact absurd (heq.1 ▸ Text.isAlpha_toLower_of_isUpper hc) (by decide : ¬ '_'.isAlpha = true)
  · rw [hlow, hlow', hname, List.cons.injEq] at heq
    exact absurd (heq.1 ▸ Text.isAlpha_toLower_of_isUpper hc') (by decide : ¬ '_'.isAlpha = true)
  · rw [← hlow, ← hlow', heq]

/-- The name of a type in lower case is no reserved word with an underscore behind it. -/
theorem lowered_ne_append (h : IsTypeName name.toList) (hword : other ∈ reservedWords) :
    lowered name ≠ other ++ "_" := by
  intro heq
  obtain ⟨w, ws, hletters, hall⟩ := reserved_letters hword
  rw [← String.toList_inj, String.toList_append, hletters] at heq
  rcases h.lowered_cases with ⟨c, rest, hc, hrest, -, hlow⟩ | ⟨rest, hname, hlow⟩
  · rw [hlow, List.cons_append, List.cons.injEq] at heq
    have hmem : '_' ∈ rest := by rw [heq.2]; simp
    exact absurd (hrest _ hmem) (by decide)
  · rw [hlow, hname, List.cons_append, List.cons.injEq] at heq
    exact absurd (hall w List.mem_cons_self) (by rw [← heq.1]; decide)

/-- **No two types share the name of a case.** -/
theorem forCase_inj (h : IsTypeName name.toList) (hother : IsTypeName other.toList) :
    forCase name = forCase other ↔ name = other := by
  refine ⟨fun heq => ?_, congrArg forCase⟩
  rw [h.forCase_eq, hother.forCase_eq] at heq
  -- Only a reserved word gets an underscore behind it, and the name of a type has none there.
  by_cases hword : lowered name ∈ reservedWords <;> by_cases hword' : lowered other ∈ reservedWords
  · rw [avoidReserved_of_mem hword, avoidReserved_of_mem hword', ← String.toList_inj,
      String.toList_append, String.toList_append] at heq
    exact h.lowered_inj hother (String.toList_inj.1 (List.append_cancel_right heq))
  · rw [avoidReserved_of_mem hword, avoidReserved_of_not_mem hword'] at heq
    exact absurd heq.symm (hother.lowered_ne_append hword)
  · rw [avoidReserved_of_not_mem hword, avoidReserved_of_mem hword'] at heq
    exact absurd heq (h.lowered_ne_append hword')
  · rw [avoidReserved_of_not_mem hword, avoidReserved_of_not_mem hword'] at heq
    exact h.lowered_inj hother heq

end IsTypeName

/-- The name of a type can be used unless it is one of the three reserved words with a capital. -/
theorem isUsable_forType_iff :
    IsUsable (forType key) ↔ forType key ∉ ["False", "None", "True"] := by
  have hcapital : ∀ w ∈ reservedWords,
      (w.toList.head?.any fun c => c.isUpper || c == '_') = true →
        w ∈ ["False", "None", "True"] := by
    decide
  have hreserved : ∀ w ∈ ["False", "None", "True"], w ∈ reservedWords := by decide
  constructor
  · exact fun h hmem => h.notReserved (hreserved _ hmem)
  · refine fun h => ⟨(isTypeName_forType key).isIdentifier, fun hmem => h (hcapital _ hmem ?_)⟩
    obtain ⟨c, rest, heq, hhead⟩ := forType_head key
    rw [heq]
    simpa using hhead

/-! ## Numbered cases -/

theorem isAlphanum_of_mem_digits {c : Char} (h : c ∈ Nat.toDigits 10 n) : c.isAlphanum = true :=
  Text.isAlphanum_of_isDigit (Nat.isDigit_of_mem_toDigits (by decide) (by decide) h)

/-- The type whose case has the name of a numbered one. -/
theorem isTypeName_numbered (n : Nat) : IsTypeName ("Case" ++ toString n).toList := by
  have hname : ("Case" ++ toString n).toList =
      'C' :: (['a', 's', 'e'] ++ Nat.toDigits 10 n) := by
    simp
  rw [hname]
  refine .capital rfl (List.forall_mem_append.2 ⟨List.all_eq_true.1 (by decide), fun c hc => ?_⟩)
  exact isAlphanum_of_mem_digits hc

/-- **A number makes the name that a type makes.** -/
theorem forCase_numbered (n : Nat) : forCase ("Case" ++ toString n) = "case" ++ toString n := by
  have hlowered : lowered ("Case" ++ toString n) = "case" ++ toString n := by
    have hname : ("Case" ++ toString n).toList = 'C' :: ("ase" ++ toString n).toList := by simp
    have hlower : Text.lower 'C' = ['c'] := by decide +kernel
    rw [lowered, hname]
    dsimp only
    rw [hlower, ← String.toList_inj, String.toList_ofList]
    simp
  have hnot : "case" ++ toString n ∉ reservedWords := by
    have hfront : ∀ w ∈ reservedWords, ¬ "case".toList <+: w.toList := by decide
    intro hmem
    refine hfront _ hmem ?_
    rw [String.toList_append]
    exact List.prefix_append _ _
  rw [(isTypeName_numbered n).forCase_eq, hlowered, avoidReserved_of_not_mem hnot]

/-- Numbers are told apart by their digits. -/
theorem numbered_inj (front : String) : front ++ toString n = front ++ toString m ↔ n = m := by
  refine ⟨fun h => ?_, fun h => by rw [h]⟩
  rw [← String.toList_inj, String.toList_append, String.toList_append] at h
  have hdigits := congrArg (Nat.ofDigitChars 10 · 0) (List.append_cancel_left h)
  simpa [Nat.toString_eq_ofList_toDigits] using hdigits

end Name
end TypeFiles
