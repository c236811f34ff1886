/-
# When two texts have one name

The names of the members of a declaration keep less than the texts they are made of, and add
something that a text may hold by itself.  So two texts can have one name, and in three ways:

| texts | name | why |
| --- | --- | --- |
| `born-at`, `born_at` | `born_at` | the same is kept of both |
| `2fa`, `_2fa` | `_2fa` | one keeps the underscore that guards the digit of the other |
| `class`, `class_` | `class_` | one keeps the underscore behind the reserved word |

`sanitized_eq_iff` says that there is no other, and `forCase_eq_iff` says the same of the names of
cases, which are made of the text in `caseText`.
-/

import TypeFiles.Proofs.Name.Case

namespace TypeFiles
namespace Name

/-- Two texts have one name for their members. -/
inductive SharesMember : String → String → Prop where
  | same (s : String) : SharesMember s s
  | alike {s t : String} (hs : s ∉ reservedWords) (ht : t ∉ reservedWords)
      (h : kept s = kept t) : SharesMember s t
  | digit {s t : String} {c : Char} {rest : List Char} (hc : c.isDigit = true)
      (hs : kept s = c :: rest) (ht : kept t = '_' :: c :: rest) : SharesMember s t
  | reserved {s t : String} (hs : s ∈ reservedWords) (ht : kept t = s.toList ++ ['_']) :
      SharesMember s t
  | symm {s t : String} (h : SharesMember s t) : SharesMember t s

variable {s t value other : String} {l : List Char}

/-- What is kept of a reserved word is the word. -/
theorem kept_of_reserved (h : s ∈ reservedWords) : kept s = s.toList :=
  kept_of_isIdentifier (isIdentifier_of_reserved h)

/-- A text of which something other than letters and digits is kept is no reserved word. -/
theorem not_reserved_of_mem_kept {c : Char} (hmem : c ∈ kept s) (hc : c.isAlphanum = false) :
    s ∉ reservedWords := by
  intro h
  rw [kept_of_reserved h] at hmem
  rw [isAlphanum_of_reserved h hmem] at hc
  cases hc

theorem not_reserved_of_kept_digit {c : Char} (hmem : c ∈ kept s) (hc : c.isDigit = true) :
    s ∉ reservedWords := by
  intro h
  obtain ⟨first, rest, heq, hletters⟩ := reserved_letters h
  rw [kept_of_reserved h, heq] at hmem
  rw [Text.not_isDigit_of_isAlpha (hletters c hmem)] at hc
  cases hc

theorem guardDigit_of_digit {c : Char} {rest : List Char} (hc : c.isDigit = true) :
    guardDigit (c :: rest) = '_' :: c :: rest := if_pos hc

/-- Two texts that are equal once a digit in front is guarded are equal before, or one of them has
the guard of the other already. -/
theorem guardDigit_eq_cases {k : List Char} (h : guardDigit l = guardDigit k) :
    l = k ∨ (∃ c rest, c.isDigit = true ∧ l = c :: rest ∧ k = '_' :: c :: rest) ∨
      ∃ c rest, c.isDigit = true ∧ k = c :: rest ∧ l = '_' :: c :: rest := by
  have hcases : ∀ l : List Char, guardDigit l = l ∨
      ∃ c rest, c.isDigit = true ∧ l = c :: rest ∧ guardDigit l = '_' :: l := by
    intro l
    cases l with
    | nil => exact .inl rfl
    | cons c rest =>
      by_cases hc : c.isDigit = true
      · exact .inr ⟨c, rest, hc, rfl, guardDigit_of_digit hc⟩
      · exact .inl (if_neg hc)
  rcases hcases l with hl | ⟨c, rest, hc, hl, hguard⟩ <;>
    rcases hcases k with hk | ⟨c', rest', hc', hk, hguard'⟩
  · exact .inl (by rw [← hl, h, hk])
  · exact .inr (.inr ⟨c', rest', hc', hk, by rw [← hl, h, hguard', hk]⟩)
  · exact .inr (.inl ⟨c, rest, hc, hl, by rw [← hk, ← h, hguard, hl]⟩)
  · -- Both have a digit in front, and the guards cancel.
    rw [hguard, hguard', List.cons.injEq] at h
    exact .inl h.2

/-- The guard of a digit does not make the name that a reserved word gets. -/
theorem guardDigit_eq_reserved_append (h : s ∈ reservedWords)
    (heq : guardDigit l = s.toList ++ ['_']) : l = s.toList ++ ['_'] := by
  obtain ⟨c, rest, hletters, hall⟩ := reserved_letters h
  have hc := hall c List.mem_cons_self
  cases l with
  | nil => simp [guardDigit] at heq
  | cons d others =>
    by_cases hd : d.isDigit = true
    · rw [guardDigit_of_digit hd, hletters, List.cons_append, List.cons.injEq] at heq
      rw [← heq.1] at hc
      exact absurd hc (by decide)
    · rwa [guardDigit, if_neg hd] at heq

/-- **Two texts have one name in these ways only.** -/
theorem sanitized_eq_iff : sanitized s = sanitized t ↔ SharesMember s t := by
  constructor
  · intro h
    by_cases hs : s ∈ reservedWords <;> by_cases ht : t ∈ reservedWords
    · rw [sanitized_of_reserved hs, sanitized_of_reserved ht] at h
      rw [String.toList_inj.1 (List.append_cancel_right h)]
      exact .same t
    · rw [sanitized_of_reserved hs, sanitized_of_not_reserved ht] at h
      exact .reserved hs (guardDigit_eq_reserved_append hs h.symm)
    · rw [sanitized_of_not_reserved hs, sanitized_of_reserved ht] at h
      exact .symm (.reserved ht (guardDigit_eq_reserved_append ht h))
    · rw [sanitized_of_not_reserved hs, sanitized_of_not_reserved ht] at h
      rcases guardDigit_eq_cases h with h | ⟨c, rest, hc, hs, ht⟩ | ⟨c, rest, hc, ht, hs⟩
      · exact .alike hs ht h
      · exact .digit hc hs ht
      · exact .symm (.digit hc ht hs)
  · intro h
    induction h with
    | same => rfl
    | alike hs ht h => rw [sanitized_of_not_reserved hs, sanitized_of_not_reserved ht, h]
    | digit hc hs ht =>
      have hs' := not_reserved_of_kept_digit (hs ▸ List.mem_cons_self) hc
      have ht' := not_reserved_of_mem_kept (ht ▸ List.mem_cons_self) (by decide)
      rw [sanitized_of_not_reserved hs', sanitized_of_not_reserved ht', hs, ht,
        guardDigit_of_digit hc]
      rfl
    | @reserved s t hs ht =>
      have hmem : '_' ∈ kept t := by rw [ht]; simp
      rw [sanitized_of_reserved hs,
        sanitized_of_not_reserved (not_reserved_of_mem_kept hmem (by decide)), ht]
      have hword := (isIdentifier_of_reserved hs).append_underscore
      exact hword.guardDigit_eq.symm
    | symm _ ih => exact ih.symm

instance : Decidable (SharesMember s t) := decidable_of_iff _ sanitized_eq_iff

/-- The text that the name of the case of a value is made of. -/
def caseText (value : String) : String :=
  if remains (lowered value) = [] then "empty" else lowered value

theorem forCase_eq_ofList (value : String) :
    forCase value = String.ofList (sanitized (caseText value)) := by
  rw [forCase_eq, caseText]
  simp only [sanitized_eq_nil_iff]
  split
  · have hempty : IsIdentifier "empty".toList := .of_letters (by decide) (by decide)
    rw [sanitized_of_isIdentifier hempty, avoidReserved_of_not_mem (by decide),
      String.ofList_toList]
  · rfl

/-- **Two values have one name for their cases** exactly if those texts have. -/
theorem forCase_eq_iff :
    forCase value = forCase other ↔ SharesMember (caseText value) (caseText other) := by
  rw [forCase_eq_ofList, forCase_eq_ofList, ← sanitized_eq_iff]
  exact String.ofList_inj

end Name
end TypeFiles
