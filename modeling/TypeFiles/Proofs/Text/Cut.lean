/-
# Texts cut at a mark

Where a mark stands in a text, the first one and the last one tell what is in front of them from
what is behind them.
-/

import Mathlib.Data.List.Basic

namespace TypeFiles
namespace Text

/-- The part of a text in front of a mark is what comes before the first mark. -/
theorem takeWhile_append_cons {mark : Char} {x : List Char} (hx : mark ∉ x) (rest : List Char) :
    (x ++ mark :: rest).takeWhile (· != mark) = x := by
  have hall : ∀ c ∈ x, (c != mark) = true := fun c hc => by
    rw [bne_iff_ne]
    rintro rfl
    exact hx hc
  rw [List.takeWhile_append_of_pos hall, List.takeWhile_cons_of_neg (by simp), List.append_nil]

/-- The first mark tells what is in front of it from what is behind it. -/
theorem append_cons_inj {mark : Char} {x y a b : List Char} (hx : mark ∉ x) (hy : mark ∉ y)
    (h : x ++ mark :: a = y ++ mark :: b) : x = y ∧ a = b := by
  have hfront : x = y := by
    rw [← takeWhile_append_cons hx a, h, takeWhile_append_cons hy b]
  subst hfront
  exact ⟨rfl, (List.cons.inj (List.append_cancel_left h)).2⟩

/-- The last mark does so as well. -/
theorem append_cons_inj_of_last {mark : Char} {x y a b : List Char} (ha : mark ∉ a) (hb : mark ∉ b)
    (h : x ++ mark :: a = y ++ mark :: b) : x = y ∧ a = b := by
  have hreverse : a.reverse ++ mark :: x.reverse = b.reverse ++ mark :: y.reverse := by
    simpa using congrArg List.reverse h
  obtain ⟨hback, hfront⟩ := append_cons_inj (by simpa using ha) (by simpa using hb) hreverse
  exact ⟨List.reverse_injective hfront, List.reverse_injective hback⟩

/-- What ends a text and does not have a mark in it ends what stands behind the mark. -/
theorem isSuffix_append_cons_iff {mark : Char} {word front behind : List Char} (h : mark ∉ word) :
    word <:+ front ++ mark :: behind ↔ word <:+ behind := by
  constructor
  · intro hword
    have hbehind : mark :: behind <:+ front ++ mark :: behind := List.suffix_append front _
    rcases List.suffix_or_suffix_of_suffix hword hbehind with hsuffix | hsuffix
    · rcases List.suffix_cons_iff.1 hsuffix with rfl | hsuffix
      · exact absurd List.mem_cons_self h
      · exact hsuffix
    · exact absurd (hsuffix.subset List.mem_cons_self) h
  · intro hword
    exact hword.trans ((List.suffix_cons mark behind).trans (List.suffix_append front _))

end Text
end TypeFiles
