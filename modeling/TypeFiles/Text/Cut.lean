/-
# Cutting texts

A text is cut at the first occurrence of a character; the character itself is dropped.
-/

namespace TypeFiles
namespace Text

/-- What stands before and what stands behind the first occurrence of a character; `none` if the
character does not occur. -/
def cut? (c : Char) (s : List Char) : Option (List Char × List Char) :=
  match s.dropWhile fun d => d != c with
  | [] => none
  | _ :: rest => some (s.takeWhile fun d => d != c, rest)

/-- A text cut before the first character of a kind. -/
def cutBefore (stop : Char → Bool) (s : List Char) : List Char × List Char :=
  (s.takeWhile fun c => !stop c, s.dropWhile fun c => !stop c)

/-- Whether a pattern occurs in a text. -/
def occursIn (pattern : List Char) : List Char → Bool
  | [] => pattern.isEmpty
  | c :: rest => pattern.isPrefixOf (c :: rest) || occursIn pattern rest

/-- Cutting loses nothing but the character. -/
theorem eq_of_cut? {c : Char} {s before behind : List Char} (h : cut? c s = some (before, behind)) :
    s = before ++ c :: behind := by
  unfold cut? at h
  split at h
  · simp at h
  · rename_i d rest hd
    have hc : (d != c) = false := by
      have := List.head?_dropWhile_not (fun d => d != c) s
      rw [hd] at this
      simpa using this
    obtain rfl : d = c := by simpa using hc
    simp only [Option.some.injEq, Prod.mk.injEq] at h
    obtain ⟨rfl, rfl⟩ := h
    rw [← hd, List.takeWhile_append_dropWhile]

end Text
end TypeFiles
