/-
# Decompositions go all the way

The tables give each character the whole sequence it stands for, so a character of a decomposition
stands for itself (`decompose_of_mem_decompose`), and a text that is decomposed once is not
decomposed further.

The tables are compared at once, as two sets of characters: those that have a decomposition
(`sources`) and those that occur in one (`images`).

| part of the table | sources | images |
| --- | --- | --- |
| syllables of Hangul | `U+AC00` to `U+D7A3` | the three ranges of letters |
| a row of `alignedRuns` | the run | the image run |
| a row of `expansions` | the character | each character of the sequence |

A set is written as a number with one bit for each code point, and two sets without a common element
have no common bit.
-/

import TypeFiles.Text.Decomposition
import TypeFiles.Text.Range

namespace TypeFiles
namespace Text

/-! ## Sets of code points -/

/-- The set of the code points in some ranges, one bit for each. -/
def bits (ranges : List (Nat × Nat)) : Nat :=
  ranges.foldr (fun range set => ((1 <<< (range.2 + 1 - range.1)) - 1) <<< range.1 ||| set) 0

/-- The same for a table of some hundreds of rows.  Taken in pieces, it does not nest the numbers
as deep as the table is long. -/
def tableBits : Nat → List (Nat × Nat) → Nat
  | 0, ranges => bits ranges
  | hundreds + 1, ranges => bits (ranges.take 100) ||| tableBits hundreds (ranges.drop 100)

variable {c d : Char} {n m k : Nat} {image : List Nat} {ranges others : List (Nat × Nat)}

theorem testBit_bits (h : inRanges ranges c = true) : (bits ranges).testBit c.toNat = true := by
  obtain ⟨range, hrange, hc⟩ := inRanges_iff.1 h
  have hbit :
      (((1 <<< (range.2 + 1 - range.1)) - 1) <<< range.1).testBit c.toNat = true := by
    rw [Nat.one_shiftLeft, Nat.testBit_shiftLeft, Nat.testBit_two_pow_sub_one, Bool.and_eq_true,
      decide_eq_true_eq, decide_eq_true_eq]
    omega
  clear h
  induction ranges with
  | nil => cases hrange
  | cons first ranges ih =>
    rw [bits, List.foldr_cons, Nat.testBit_or, Bool.or_eq_true]
    rcases List.mem_cons.1 hrange with rfl | hrange
    · exact .inl hbit
    · exact .inr (ih hrange)

theorem testBit_tableBits (h : inRanges ranges c = true) :
    (tableBits k ranges).testBit c.toNat = true := by
  induction k generalizing ranges with
  | zero => exact testBit_bits h
  | succ k ih =>
    rw [← List.take_append_drop 100 ranges, inRanges_append, Bool.or_eq_true] at h
    rw [tableBits, Nat.testBit_or, Bool.or_eq_true]
    exact h.imp testBit_bits ih

/-- Sets without a common bit have no common element. -/
theorem not_inRanges_of_land_eq_zero (h : tableBits k ranges &&& tableBits m others = 0)
    (hc : inRanges ranges c = true) : inRanges others c = false := by
  refine Bool.eq_false_iff.2 fun hother => ?_
  have hbit : (tableBits k ranges &&& tableBits m others).testBit c.toNat = true := by
    rw [Nat.testBit_and, testBit_tableBits hc, testBit_tableBits hother, Bool.and_self]
  rw [h, Nat.zero_testBit] at hbit
  cases hbit

/-! ## Both sides of the tables -/

/-- The characters that have a decomposition. -/
def sources : List (Nat × Nat) :=
  [(0xAC00, 0xD7A3)] ++ ((alignedRuns.map fun run => (run.first, run.last)) ++
    expansions.map fun e => (e.char, e.char))

/-- The leading consonants, the vowels and the trailing consonants of Hangul. -/
def hangulRanges : List (Nat × Nat) := [(0x1100, 0x1112), (0x1161, 0x1175), (0x11A8, 0x11C2)]

/-- The characters that occur in a decomposition. -/
def images : List (Nat × Nat) :=
  hangulRanges ++ ((alignedRuns.map fun run => (run.image, run.image + (run.last - run.first))) ++
    expansions.flatMap fun e => e.image.map fun n => (n, n))

/-- **No character of a decomposition has one.** -/
theorem not_source_of_image (h : inRanges images c = true) : inRanges sources c = false := by
  have hcommon : tableBits 80 images &&& tableBits 80 sources = 0 := by decide +kernel
  exact not_inRanges_of_land_eq_zero hcommon h

/-- The part of the tables that a decomposition comes from. -/
theorem decomposition?_cases (h : decomposition? n = some image) :
    (0xAC00 ≤ n ∧ n ≤ 0xD7A3 ∧ image = hangulLetters (n - 0xAC00)) ∨
      (∃ run ∈ alignedRuns, run.first ≤ n ∧ n ≤ run.last ∧
        image = [run.image + (n - run.first)]) ∨
      ∃ e ∈ expansions, e.char = n ∧ image = e.image := by
  unfold decomposition? at h
  split at h
  · cases h
  · split at h
    · rename_i hhangul
      exact .inl ⟨hhangul.1, hhangul.2, (Option.some.inj h).symm⟩
    · split at h
      · rename_i run hrun
        have hcovers := List.find?_some hrun
        rw [Bool.and_eq_true, decide_eq_true_eq, decide_eq_true_eq] at hcovers
        exact .inr (.inl ⟨run, List.mem_of_find?_eq_some hrun, hcovers.1, hcovers.2,
          (Option.some.inj h).symm⟩)
      · obtain ⟨e, he, rfl⟩ := Option.map_eq_some_iff.1 h
        have hchar : e.char = n := by simpa using List.find?_some he
        exact .inr (.inr ⟨e, List.mem_of_find?_eq_some he, hchar, rfl⟩)

theorem isSource (h : decomposition? c.toNat = some image) : inRanges sources c = true := by
  rw [inRanges_iff]
  rcases decomposition?_cases h with ⟨hfirst, hlast, -⟩ | ⟨run, hrun, hfirst, hlast, -⟩ |
    ⟨e, he, hchar, -⟩
  · exact ⟨_, List.mem_append_left _ (List.mem_singleton.2 rfl), hfirst, hlast⟩
  · have hrow := List.mem_map_of_mem (f := fun run => (run.first, run.last)) hrun
    exact ⟨_, List.mem_append_right _ (List.mem_append_left _ hrow), hfirst, hlast⟩
  · have hrow := List.mem_map_of_mem (f := fun e => (e.char, e.char)) he
    exact ⟨_, List.mem_append_right _ (List.mem_append_right _ hrow), Nat.le_of_eq hchar,
      Nat.le_of_eq hchar.symm⟩

/-- The letters of a syllable lie in three ranges. -/
theorem hangulLetters_bounds (hn : n < 11172) (h : m ∈ hangulLetters n) :
    ∃ range ∈ hangulRanges, range.1 ≤ m ∧ m ≤ range.2 := by
  have hcases : m = 0x1100 + n / 588 ∨ m = 0x1161 + n % 588 / 28 ∨
      n % 28 ≠ 0 ∧ m = 0x11A7 + n % 28 := by
    unfold hangulLetters at h
    split at h <;> simp at h <;> omega
  rcases hcases with h | h | h
  · exact ⟨(0x1100, 0x1112), by simp [hangulRanges], by dsimp only; omega⟩
  · exact ⟨(0x1161, 0x1175), by simp [hangulRanges], by dsimp only; omega⟩
  · exact ⟨(0x11A8, 0x11C2), by simp [hangulRanges], by dsimp only; omega⟩

theorem isImage (h : decomposition? n = some image) (hd : d.toNat ∈ image) :
    inRanges images d = true := by
  rw [inRanges_iff]
  rcases decomposition?_cases h with ⟨hfirst, hlast, himage⟩ | ⟨run, hrun, hfirst, hlast, himage⟩ |
    ⟨e, he, -, himage⟩ <;> rw [himage] at hd
  · have hindex : n - 0xAC00 < 11172 := by omega
    obtain ⟨range, hrange, hletter⟩ := hangulLetters_bounds hindex hd
    exact ⟨range, List.mem_append_left _ hrange, hletter⟩
  · have hd := List.mem_singleton.1 hd
    refine ⟨(run.image, run.image + (run.last - run.first)), ?_, by dsimp only; omega⟩
    refine List.mem_append_right _ (List.mem_append_left _ ?_)
    exact List.mem_map.2 ⟨run, hrun, rfl⟩
  · refine ⟨(d.toNat, d.toNat), ?_, Nat.le_refl _, Nat.le_refl _⟩
    refine List.mem_append_right _ (List.mem_append_right _ ?_)
    exact List.mem_flatMap.2 ⟨e, he, List.mem_map.2 ⟨d.toNat, hd, rfl⟩⟩

/-! ## Decomposed characters -/

theorem decompose_eq_self (h : decomposition? c.toNat = none) : decompose c = [c] := by
  rw [decompose, h]

/-- **A character of a decomposition stands for itself.** -/
theorem decompose_of_mem_decompose (h : d ∈ decompose c) : decompose d = [d] := by
  cases himage : decomposition? c.toNat with
  | none =>
    rw [decompose_eq_self himage] at h
    rw [List.mem_singleton.1 h, decompose_eq_self himage]
  | some image =>
    have hchars : decompose c = image.map Char.ofNat := by rw [decompose, himage]
    rw [hchars] at h
    obtain ⟨n, hn, hd⟩ := List.mem_map.1 h
    refine decompose_eq_self ?_
    by_cases hfirst : d.toNat = 0
    · rw [hfirst]
      rfl
    · rw [eq_toNat_of_ofNat hfirst hd] at hn
      refine Option.eq_none_iff_forall_ne_some.2 fun _ hsome => ?_
      have hsource := not_source_of_image (isImage himage hn)
      rw [isSource hsome] at hsource
      cases hsource

end Text
end TypeFiles
