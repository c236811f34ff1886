/-
# Runs of a text

A property of characters divides a text into maximal runs: the characters of one run all have the
property, or none of them has it, and the next run is of the other kind.

| property | text | runs |
| --- | --- | --- |
| being a letter or a digit | `pet-store 2` | `pet`, `-`, `store`, ` `, `2` |
| being a mark | `a◌́◌̣b` | `a`, `◌́◌̣`, `b` |

What is done to a text run by run is looked at by `runs_induction`: one run in front, and a rest that
starts with the other kind.
-/

import Mathlib.Data.List.SplitBy

namespace TypeFiles
namespace Text

variable {p : Char → Bool} {kind : Bool} {run rest : List Char}

/-- The maximal runs of characters that agree on a property. -/
def runsBy (p : Char → Bool) (s : List Char) : List (List Char) := s.splitBy fun c d => p c == p d

/-- A run in front, with a rest that starts with the other kind, is the first one. -/
theorem runsBy_append (hne : run ≠ []) (hrun : ∀ c ∈ run, p c = kind)
    (hrest : ∀ d ∈ rest.head?, p d = !kind) : runsBy p (run ++ rest) = run :: runsBy p rest := by
  have hchain : run.IsChain fun c d => (p c == p d) = true := by
    refine (List.pairwise_of_forall_mem_list fun c hc d hd => ?_).isChain
    rw [hrun c hc, hrun d hd, beq_self_eq_true]
  have hborder : ∀ c ∈ run.getLast?, ∀ d ∈ rest.head?, (p c == p d) = false := by
    intro c hc d hd
    rw [hrun c (List.mem_of_getLast? hc), hrest d hd]
    cases kind <;> rfl
  rw [runsBy, List.splitBy_append hborder, List.splitBy_of_isChain hne hchain]
  rfl

/-- A text goes on with one kind of characters as far as it does. -/
theorem exists_run (p : Char → Bool) (kind : Bool) (s : List Char) :
    ∃ run rest, s = run ++ rest ∧ (∀ c ∈ run, p c = kind) ∧ ∀ d ∈ rest.head?, p d = !kind := by
  induction s with
  | nil => exact ⟨[], [], rfl, nofun, nofun⟩
  | cons c s ih =>
    by_cases hc : p c = kind
    · obtain ⟨run, rest, rfl, hrun, hrest⟩ := ih
      exact ⟨c :: run, rest, rfl, List.forall_mem_cons.2 ⟨hc, hrun⟩, hrest⟩
    · refine ⟨[], c :: s, rfl, nofun, fun d hd => ?_⟩
      rw [← Option.some.inj hd]
      exact Bool.eq_not_of_ne hc

/-- What holds of the empty text, and of a text if it holds behind its first run, holds always. -/
theorem runs_induction (p : Char → Bool) {motive : List Char → Prop} (nil : motive [])
    (append : ∀ kind run rest, run ≠ [] → (∀ c ∈ run, p c = kind) →
      (∀ d ∈ rest.head?, p d = !kind) → motive rest → motive (run ++ rest))
    (s : List Char) : motive s := by
  match s with
  | [] => exact nil
  | c :: behind =>
    obtain ⟨more, rest, rfl, hmore, hrest⟩ := exists_run p (p c) behind
    exact append (p c) (c :: more) rest (List.cons_ne_nil c more)
      (List.forall_mem_cons.2 ⟨rfl, hmore⟩) hrest (runs_induction p nil append rest)
termination_by s.length

end Text
end TypeFiles
