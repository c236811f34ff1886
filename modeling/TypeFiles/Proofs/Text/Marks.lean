/-
# Texts without their marks

Taking the marks off a text decomposes it, puts the marks in order and leaves them out.  The order
is lost with them (`filter_orderMarks`), so each character can be looked at on its own
(`withoutMarks_eq`).  ASCII characters have neither a decomposition nor a mark, so a text made of
them stays as it is (`withoutMarks_of_ascii`).
-/

import TypeFiles.Text.Decomposition

namespace TypeFiles
namespace Text

variable {c : Char} {s : List Char}

theorem combiningClass_eq_zero (h : isMark c = false) : combiningClass c = 0 := by
  simpa [isMark] using h

/-- A character that is no mark stays in front of the marks behind it. -/
theorem insertMark_of_not_isMark (h : isMark c = false) (s : List Char) :
    insertMark c s = c :: s := by
  cases s with
  | nil => rfl
  | cons d rest => simp [insertMark, combiningClass_eq_zero h]

/-- Where a mark is put makes no difference once the marks are left out. -/
theorem filter_insertMark (c : Char) (s : List Char) :
    (insertMark c s).filter (fun d => !isMark d) = (c :: s).filter fun d => !isMark d := by
  cases hc : isMark c with
  | false => rw [insertMark_of_not_isMark hc]
  | true =>
    induction s with
    | nil => rfl
    | cons d rest ih =>
      rw [insertMark]
      split
      · rw [List.filter_cons, ih]
        simp [List.filter_cons, hc]
      · rfl

theorem orderMarks_cons (c : Char) (s : List Char) :
    orderMarks (c :: s) = insertMark c (orderMarks s) := rfl

theorem filter_orderMarks (s : List Char) :
    (orderMarks s).filter (fun c => !isMark c) = s.filter fun c => !isMark c := by
  induction s with
  | nil => rfl
  | cons c rest ih =>
    rw [orderMarks_cons, filter_insertMark, List.filter_cons, ih, List.filter_cons]

/-- **Taking the marks off a text takes them off each character.** -/
theorem withoutMarks_eq (s : List Char) :
    withoutMarks s = (s.flatMap decompose).filter fun c => !isMark c :=
  filter_orderMarks _

/-- An ASCII character is its own decomposition. -/
theorem decompose_of_ascii (h : c.toNat < 128) : decompose c = [c] := by
  have hlow : c.toNat < 0xA0 := by omega
  rw [decompose, decomposition?, if_pos hlow]

/-- No ASCII character is a mark. -/
theorem not_isMark_of_ascii (h : c.toNat < 128) : isMark c = false := by
  have hruns : ∀ run ∈ markRuns, 128 ≤ run.first := by decide +kernel
  have hnone : (markRuns.find? fun run => run.first ≤ c.toNat && c.toNat ≤ run.last) = none := by
    rw [List.find?_eq_none]
    intro run hrun
    have := hruns run hrun
    simp only [Bool.and_eq_true, decide_eq_true_eq, not_and]
    omega
  rw [isMark, combiningClass, hnone]
  rfl

/-- **An ASCII text has no marks to take off.** -/
theorem withoutMarks_of_ascii (h : ∀ c ∈ s, c.toNat < 128) : withoutMarks s = s := by
  have hdecomposed : s.flatMap decompose = s := by
    induction s with
    | nil => rfl
    | cons c rest ih =>
      rw [List.forall_mem_cons] at h
      rw [List.flatMap_cons, decompose_of_ascii h.1, ih h.2, List.singleton_append]
  rw [withoutMarks_eq, hdecomposed, List.filter_eq_self]
  intro c hc
  rw [not_isMark_of_ascii (h c hc)]
  rfl

end Text
end TypeFiles
