/-
# Line ends

Where every line end becomes a line feed (`unifyLineEnds`), the characters that are no line ends
stay where they are.  So what is read from the front of a text without a line end is read from the
unified text as well, and what is left behind it is unified too.
-/

import TypeFiles.Text.Utf8

namespace TypeFiles
namespace Text

variable {c : Char} {s front rest : List Char} {p : Char → Bool}

theorem unifyLineEnds_cons (h : c ≠ '\x0d') : unifyLineEnds (c :: s) = c :: unifyLineEnds s := by
  rw [unifyLineEnds]
  · rintro _ rfl
    exact fun _ => absurd rfl h
  · exact fun hc => absurd hc h

/-- A carriage return becomes a line feed, with the line feed behind it or alone. -/
theorem unifyLineEnds_return (s : List Char) :
    ∃ rest, unifyLineEnds ('\x0d' :: s) = '\n' :: unifyLineEnds rest ∧
      (s = rest ∨ s = '\n' :: rest) := by
  by_cases h : ∃ rest, s = '\n' :: rest
  · obtain ⟨rest, rfl⟩ := h
    exact ⟨rest, rfl, .inr rfl⟩
  · refine ⟨s, ?_, .inl rfl⟩
    rw [unifyLineEnds]
    exact fun rest hs => h ⟨rest, hs⟩

theorem unifyLineEnds_append (h : '\x0d' ∉ front) :
    unifyLineEnds (front ++ rest) = front ++ unifyLineEnds rest := by
  induction front with
  | nil => rfl
  | cons c front ih =>
    rw [List.mem_cons, not_or] at h
    rw [List.cons_append, unifyLineEnds_cons (Ne.symm h.1), ih h.2, List.cons_append]

/-- What is no line end stands in front of both texts or of none. -/
theorem exists_of_unifyLineEnds (h : unifyLineEnds s = front ++ rest) (hfeed : '\n' ∉ front) :
    ∃ behind, s = front ++ behind ∧ unifyLineEnds behind = rest := by
  induction front generalizing s with
  | nil => exact ⟨s, rfl, h⟩
  | cons d front ih =>
    rw [List.mem_cons, not_or] at hfeed
    cases s with
    | nil => cases h
    | cons c s =>
      by_cases hc : c = '\x0d'
      · subst hc
        obtain ⟨_, hunified, -⟩ := unifyLineEnds_return s
        rw [hunified] at h
        exact absurd (List.cons.inj h).1 hfeed.1
      · rw [unifyLineEnds_cons hc] at h
        obtain ⟨rfl, hs⟩ := List.cons.inj h
        obtain ⟨behind, rfl, hbehind⟩ := ih hs hfeed.2
        exact ⟨behind, rfl, hbehind⟩

/-- Another character that is not in front stays out of there. -/
theorem head?_unifyLineEnds (hfeed : c ≠ '\n') (h : s.head? ≠ some c) :
    (unifyLineEnds s).head? ≠ some c := by
  intro hunified
  obtain ⟨rest, hrest⟩ := List.head?_eq_some_iff.1 hunified
  have hfront : '\n' ∉ [c] := by simpa using hfeed.symm
  obtain ⟨_, rfl, -⟩ := exists_of_unifyLineEnds hrest hfront
  exact h rfl

/-- A character that is no line end is in front of both texts, or of neither. -/
theorem front_cases (c : Char) (hreturn : c ≠ '\x0d') (hfeed : c ≠ '\n') (s : List Char) :
    (∃ rest, s = c :: rest ∧ unifyLineEnds s = c :: unifyLineEnds rest) ∨
      s.head? ≠ some c ∧ (unifyLineEnds s).head? ≠ some c := by
  by_cases hs : s.head? = some c
  · obtain ⟨rest, rfl⟩ := List.head?_eq_some_iff.1 hs
    exact .inl ⟨rest, rfl, unifyLineEnds_cons hreturn⟩
  · exact .inr ⟨hs, head?_unifyLineEnds hfeed hs⟩

section

variable (hreturn : p '\x0d' = false) (hfeed : p '\n' = false)

include hreturn hfeed

theorem takeWhile_unifyLineEnds (s : List Char) :
    (unifyLineEnds s).takeWhile p = s.takeWhile p := by
  induction s with
  | nil => rfl
  | cons c s ih =>
    by_cases hc : c = '\x0d'
    · subst hc
      obtain ⟨_, hunified, -⟩ := unifyLineEnds_return s
      rw [hunified, List.takeWhile_cons, List.takeWhile_cons, hreturn, hfeed,
        if_neg Bool.false_ne_true, if_neg Bool.false_ne_true]
    · rw [unifyLineEnds_cons hc, List.takeWhile_cons, List.takeWhile_cons, ih]

theorem dropWhile_unifyLineEnds (s : List Char) :
    (unifyLineEnds s).dropWhile p = unifyLineEnds (s.dropWhile p) := by
  induction s with
  | nil => rfl
  | cons c s ih =>
    by_cases hc : c = '\x0d'
    · subst hc
      obtain ⟨_, hunified, -⟩ := unifyLineEnds_return s
      rw [List.dropWhile_cons, hreturn, if_neg Bool.false_ne_true, hunified, List.dropWhile_cons,
        hfeed, if_neg Bool.false_ne_true]
    · rw [unifyLineEnds_cons hc, List.dropWhile_cons, List.dropWhile_cons, ih]
      split
      · rfl
      · rw [unifyLineEnds_cons hc]

end

/-- Where both line ends are dropped, as many characters are dropped in front of either text. -/
theorem dropWhile_unifyLineEnds_of_pos (hreturn : p '\x0d' = true) (hfeed : p '\n' = true)
    (s : List Char) : (unifyLineEnds s).dropWhile p = unifyLineEnds (s.dropWhile p) := by
  fun_induction unifyLineEnds s with
  | case1 rest ih => simp [hreturn, hfeed, ih]
  | case2 rest _ ih => simp [hreturn, hfeed, ih]
  | case3 c rest _ hc ih =>
    rw [List.dropWhile_cons, List.dropWhile_cons, ih]
    split
    · rfl
    · rw [unifyLineEnds_cons hc]
  | case4 => rfl

theorem length_unifyLineEnds_le (s : List Char) : (unifyLineEnds s).length ≤ s.length := by
  fun_induction unifyLineEnds s with
  | case4 => exact Nat.le_refl 0
  | _ => simp only [List.length_cons]; omega

end Text
end TypeFiles
