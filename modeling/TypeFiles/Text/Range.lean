/-
# Sets of characters as ranges

The properties of characters that names and quoted texts depend on are tables of code point
ranges, both ends included, in increasing order.
-/

namespace TypeFiles
namespace Text

/-- Whether a character lies in one of the ranges. -/
def inRanges (ranges : List (Nat × Nat)) (c : Char) : Bool :=
  ranges.any fun range => range.1 ≤ c.toNat && c.toNat ≤ range.2

theorem inRanges_iff {ranges : List (Nat × Nat)} {c : Char} :
    inRanges ranges c = true ↔ ∃ range ∈ ranges, range.1 ≤ c.toNat ∧ c.toNat ≤ range.2 := by
  simp only [inRanges, List.any_eq_true, Bool.and_eq_true, decide_eq_true_eq]

/-- A table is the union of its parts. -/
theorem inRanges_append (xs ys : List (Nat × Nat)) (c : Char) :
    inRanges (xs ++ ys) c = (inRanges xs c || inRanges ys c) :=
  List.any_append

/-- A number that names a character other than the first one is its number. -/
theorem eq_toNat_of_ofNat {n : Nat} {d : Char} (hd : d.toNat ≠ 0) (h : Char.ofNat n = d) :
    n = d.toNat := by
  subst h
  by_cases hvalid : n.isValidChar
  · have hchar : Char.ofNat n = Char.ofNatAux n hvalid := dif_pos hvalid
    exact (congrArg Char.toNat hchar).symm
  · have hfirst : (Char.ofNat n).toNat = 0 := congrArg Char.toNat (dif_neg hvalid)
    exact absurd hfirst hd

end Text
end TypeFiles
