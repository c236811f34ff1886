/-
# Marks in order

The marks of a decomposed text are put in order one at a time, from the last to the first.  What
comes of it is what the order is meant to be (`orderMarks_eq`): each maximal run of marks is sorted
by combining class, marks of equal class stay in the order they came in, and what stands between the
runs stays where it is.

| text | runs of marks | in order |
| --- | --- | --- |
| `a`, acute (230), dot below (220), `b` | acute, dot below | `a`, dot below, acute, `b` |
| `a`, acute (230), grave (230) | acute, grave | as it was |

So a text is not decomposed part by part: a mark at the front of one part moves in front of a mark of
higher class at the end of the part before.  Once the marks are left out, that makes no difference:
taking them off goes part by part, and there is nothing left to take off a second time
(`withoutMarks_projection`).
-/

import TypeFiles.Proofs.Text.Closure
import TypeFiles.Proofs.Text.Marks
import TypeFiles.Proofs.Text.Runs

namespace TypeFiles
namespace Text

variable {c d : Char} {s front rest run : List Char}

/-! ## The order of marks -/

/-- Whether two characters may stand in this order behind one base. -/
def inClassOrder (c d : Char) : Bool := combiningClass c ≤ combiningClass d

theorem inClassOrder_trans (c d e : Char) (hcd : inClassOrder c d = true)
    (hde : inClassOrder d e = true) : inClassOrder c e = true :=
  decide_eq_true ((of_decide_eq_true hcd).trans (of_decide_eq_true hde))

theorem inClassOrder_total (c d : Char) : (inClassOrder c d || inClassOrder d c) = true := by
  simp only [inClassOrder, Bool.or_eq_true, decide_eq_true_eq]
  exact Nat.le_total _ _

/-- A mark moves behind the marks of lower class in front, and no further. -/
theorem insertMark_append (hfront : ∀ d ∈ front, isMark d = true ∧ inClassOrder c d = false)
    (hrest : ∀ d ∈ rest.head?, isMark d = true → inClassOrder c d = true) :
    insertMark c (front ++ rest) = front ++ c :: rest := by
  induction front with
  | nil =>
    cases rest with
    | nil => rfl
    | cons d rest =>
      have hstop : ¬ (isMark d && combiningClass d < combiningClass c) = true := by
        simpa [inClassOrder] using hrest d rfl
      rw [List.nil_append, insertMark, if_neg hstop, List.nil_append]
  | cons d front ih =>
    rw [List.forall_mem_cons] at hfront
    have hmove : (isMark d && combiningClass d < combiningClass c) = true := by
      simpa [inClassOrder] using hfront.1
    rw [List.cons_append, insertMark, if_pos hmove, ih hfront.2, List.cons_append]

/-- What is in front of a text is no mark if it was none before. -/
theorem head?_orderMarks (h : ∀ d ∈ rest.head?, isMark d = false) :
    ∀ d ∈ (orderMarks rest).head?, isMark d = false := by
  cases rest with
  | nil => exact nofun
  | cons c rest =>
    rw [orderMarks_cons, insertMark_of_not_isMark (h c rfl)]
    exact h

/-- A run of marks that ends there is sorted. -/
theorem orderMarks_marks_append (hrun : ∀ c ∈ run, isMark c = true)
    (hrest : ∀ d ∈ rest.head?, isMark d = false) :
    orderMarks (run ++ rest) = run.mergeSort inClassOrder ++ orderMarks rest := by
  induction run with
  | nil => simp
  | cons c run ih =>
    rw [List.forall_mem_cons] at hrun
    obtain ⟨lower, others, hsorted, hsplit, hlower⟩ :=
      List.mergeSort_cons inClassOrder_trans inClassOrder_total c run
    have hmarks : ∀ d ∈ lower ++ others, isMark d = true := by
      rw [← hsplit]
      exact fun d hd => hrun.2 d (List.mem_mergeSort.1 hd)
    have hpairwise := List.pairwise_mergeSort inClassOrder_trans inClassOrder_total (c :: run)
    rw [hsorted, List.pairwise_append, List.pairwise_cons] at hpairwise
    have hstart : ∀ d ∈ (others ++ orderMarks rest).head?, isMark d = true →
        inClassOrder c d = true := by
      intro d hd hmark
      cases others with
      | nil => exact absurd hmark (by simpa using head?_orderMarks hrest d hd)
      | cons e others =>
        obtain rfl := Option.some.inj hd
        exact hpairwise.2.1.1 e List.mem_cons_self
    have hfront : ∀ d ∈ lower, isMark d = true ∧ inClassOrder c d = false := fun d hd =>
      ⟨hmarks d (List.mem_append_left _ hd), by simpa using hlower d hd⟩
    calc orderMarks (c :: run ++ rest)
        = insertMark c (orderMarks (run ++ rest)) := orderMarks_cons c (run ++ rest)
      _ = insertMark c (lower ++ (others ++ orderMarks rest)) := by
        rw [ih hrun.2, hsplit, List.append_assoc]
      _ = lower ++ c :: (others ++ orderMarks rest) := insertMark_append hfront hstart
      _ = (c :: run).mergeSort inClassOrder ++ orderMarks rest := by
        rw [hsorted, List.append_assoc, List.cons_append]

/-- A run of other characters stays as it is. -/
theorem orderMarks_others_append (hrun : ∀ c ∈ run, isMark c = false) :
    orderMarks (run ++ rest) = run ++ orderMarks rest := by
  induction run with
  | nil => rfl
  | cons c run ih =>
    rw [List.forall_mem_cons] at hrun
    rw [List.cons_append, orderMarks_cons, ih hrun.2, insertMark_of_not_isMark hrun.1,
      List.cons_append]

/-- Sorting does not change it either. -/
theorem mergeSort_others (hrun : ∀ c ∈ run, isMark c = false) :
    run.mergeSort inClassOrder = run := by
  refine List.mergeSort_of_pairwise (List.pairwise_of_forall_mem_list fun c hc d _ => ?_)
  rw [inClassOrder, combiningClass_eq_zero (hrun c hc)]
  exact decide_eq_true (Nat.zero_le _)

/-- **The marks of a text are sorted run by run.** -/
theorem orderMarks_eq (s : List Char) :
    orderMarks s = (runsBy isMark s).flatMap fun run => run.mergeSort inClassOrder := by
  induction s using runs_induction isMark with
  | nil => rfl
  | append kind run rest hne hrun hrest ih =>
    rw [runsBy_append hne hrun hrest, List.flatMap_cons, ← ih]
    cases kind with
    | true => exact orderMarks_marks_append hrun hrest
    | false => rw [orderMarks_others_append hrun, mergeSort_others hrun]

/-! ## Texts without marks -/

theorem withoutMarks_append (s t : List Char) :
    withoutMarks (s ++ t) = withoutMarks s ++ withoutMarks t := by
  simp only [withoutMarks_eq, List.flatMap_append, List.filter_append]

theorem not_isMark_of_mem_withoutMarks (h : c ∈ withoutMarks s) : isMark c = false := by
  simpa using (List.mem_filter.1 h).2

/-- Nothing of a text without its marks is decomposed further. -/
theorem flatMap_decompose_withoutMarks (s : List Char) :
    (withoutMarks s).flatMap decompose = withoutMarks s := by
  have hself : ∀ c ∈ withoutMarks s, decompose c = [c] := by
    intro c hc
    rw [withoutMarks_eq] at hc
    obtain ⟨d, -, hd⟩ := List.mem_flatMap.1 (List.mem_filter.1 hc).1
    exact decompose_of_mem_decompose hd
  rw [List.flatMap_congr hself, List.flatMap_singleton']

theorem withoutMarks_withoutMarks (s : List Char) :
    withoutMarks (withoutMarks s) = withoutMarks s := by
  rw [withoutMarks_eq (withoutMarks s), flatMap_decompose_withoutMarks, List.filter_eq_self]
  intro c hc
  rw [not_isMark_of_mem_withoutMarks hc, Bool.not_false]

/-- **Taking the marks off a text is a projection that goes part by part.**  A text is decomposed
character by character and all the way, and then each run of its marks is sorted by class, so it is
not decomposed part by part.  Its marks are taken off so, none is left, and nothing comes off a
second time. -/
theorem withoutMarks_projection :
    (∀ s, decomposed s =
      (runsBy isMark (s.flatMap decompose)).flatMap fun run => run.mergeSort inClassOrder) ∧
    (∀ c, ∀ d ∈ decompose c, decompose d = [d]) ∧
    (∃ s t, decomposed (s ++ t) ≠ decomposed s ++ decomposed t) ∧
    (∀ s t, withoutMarks (s ++ t) = withoutMarks s ++ withoutMarks t) ∧
    (∀ s, withoutMarks (withoutMarks s) = withoutMarks s) ∧
    ∀ s, ∀ c ∈ withoutMarks s, combiningClass c = 0 := by
  have hacross : decomposed (['a', '\u0301'] ++ ['\u0323']) ≠
      decomposed ['a', '\u0301'] ++ decomposed ['\u0323'] := by
    decide +kernel
  have hclass : ∀ s, ∀ c ∈ withoutMarks s, combiningClass c = 0 :=
    fun s c hc => combiningClass_eq_zero (not_isMark_of_mem_withoutMarks hc)
  exact ⟨fun s => orderMarks_eq _, fun c d hd => decompose_of_mem_decompose hd, ⟨_, _, hacross⟩,
    withoutMarks_append, withoutMarks_withoutMarks, hclass⟩

/-- The accent of `é`, taken apart from it, is not left behind. -/
theorem accent_taken_off :
    ('\u0301' ∈ decompose 'é' ∧ decompose '\u0301' = ['\u0301']) ∧
      'e' ∈ withoutMarks ['é', '\u0323'] ∧ combiningClass 'e' = 0 := by
  have hmark : '\u0301' ∈ decompose 'é' := by decide +kernel
  have hletter : 'e' ∈ withoutMarks ['é', '\u0323'] := by decide +kernel
  obtain ⟨-, hself, -, -, -, hclass⟩ := withoutMarks_projection
  exact ⟨⟨hmark, hself 'é' _ hmark⟩, hletter, hclass _ _ hletter⟩

end Text
end TypeFiles
