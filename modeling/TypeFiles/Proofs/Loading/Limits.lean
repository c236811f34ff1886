/-
# The limits of the readers

A text in JSON or TOML breaks the rules of its format, or it has a value, or it goes beyond what the
readers take: a whole number has too many digits, or lists and mappings are too deep in each other.
No other accident comes of such a text, however it is made (`Json.limited_read`,
`Toml.limited_read`).  YAML has others, since its texts can claim to be numbers and days; they are
its reader's own.

A reading is put together step by step, and is within these limits if each step is.
-/

import TypeFiles.Format
import TypeFiles.Proofs.Success

namespace TypeFiles

/-- The accidents that come of too much of something that is well-formed. -/
inductive Accident.IsLimit : Accident → Prop
  | tooDeep : IsLimit .tooDeep
  | tooManyDigits (n : Nat) (h : Decimal.mostDigits < n) : IsLimit (.tooManyDigits (some n))

/-- A text breaks the rules of its format, or goes beyond a limit. -/
def Unreadable.IsLimit : Unreadable → Prop
  | .malformed => True
  | .accident a => a.IsLimit

namespace Readable

variable {α : Type}

/-- A reading in which no accident happens but that a limit is reached. -/
abbrev Limited (x : Readable α) : Prop := FailsOnly Unreadable.IsLimit x

theorem limited_malformed : Limited (malformed : Readable α) := failsOnly_error trivial

theorem limited_ofOption (v? : Option α) : Limited (ofOption v?) := by
  cases v? with
  | some v => exact failsOnly_ok v
  | none => exact limited_malformed

theorem limited_tooDeep : Limited (accident .tooDeep : Readable α) :=
  failsOnly_error Accident.IsLimit.tooDeep

theorem limited_number (digits : List Char) : Limited (number digits) := by
  unfold number
  split
  · exact failsOnly_ok _
  · rename_i hlong
    exact failsOnly_error (Accident.IsLimit.tooManyDigits _ (Nat.lt_of_not_le hlong))

end Readable

open Readable

namespace Json

/-- A token whose value, if it has one, is read within the limits. -/
def Token.Limited : Token → Prop
  | .scalar v => v.Limited
  | _ => True

theorem limited_scanNumber {negative : Bool} {s rest : List Char} {v : Readable Value}
    (h : scanNumber negative s = some (v, rest)) : v.Limited := by
  unfold scanNumber at h
  dsimp only at h
  repeat' split at h
  all_goals
    first
    | cases h; done
    | obtain ⟨rfl, -⟩ := Prod.mk.inj (Option.some.inj h)
      first
      | exact (limited_number _).map _
      | exact failsOnly_ok _

theorem limited_scanWord {s rest : List Char} {v : Readable Value}
    (h : scanWord s = some (v, rest)) : v.Limited := by
  obtain ⟨⟨word, value⟩, -, hword⟩ := List.exists_of_findSome?_eq_some h
  dsimp only at hword
  split at hword
  · obtain ⟨rfl, -⟩ := Prod.mk.inj (Option.some.inj hword)
    exact failsOnly_ok _
  · cases hword

theorem limited_scanToken {s rest : List Char} {t : Token} (h : scanToken s = some (t, rest)) :
    t.Limited := by
  unfold scanToken at h
  split at h
  case h_7 =>
    obtain ⟨⟨units, after⟩, -, heq⟩ := Option.map_eq_some_iff.1 h
    obtain ⟨rfl, -⟩ := Prod.mk.inj heq
    exact failsOnly_ok _
  case h_8 =>
    obtain ⟨⟨v, after⟩, hfound, heq⟩ := Option.map_eq_some_iff.1 h
    obtain ⟨rfl, -⟩ := Prod.mk.inj heq
    rw [Option.orElse_eq_orElse, Option.orElse_eq_or, Option.or_eq_some_iff] at hfound
    rcases hfound with hnumber | ⟨-, hword⟩
    · split at hnumber <;> exact limited_scanNumber hnumber
    · exact limited_scanWord hword
  all_goals
    obtain ⟨rfl, -⟩ := Prod.mk.inj (Option.some.inj h)
    trivial

theorem limited_of_mem_tokensWithin {bound : Nat} {s : List Char} {t : Token}
    (h : t ∈ tokensWithin bound s) : t.Limited := by
  induction bound generalizing s with
  | zero =>
    obtain rfl := List.mem_singleton.1 h
    trivial
  | succ bound ih =>
    unfold tokensWithin at h
    split at h
    · cases h
    · split at h
      · rename_i htoken
        rcases List.mem_cons.1 h with rfl | h
        · exact limited_scanToken htoken
        · exact ih h
      · obtain rfl := List.mem_singleton.1 h
        trivial

namespace Reader

theorem limited_enter (frames : List Frame) (inner : Frame) (expects : Expectation) :
    (enter frames inner expects).Limited := by
  unfold enter
  split
  · exact failsOnly_ok _
  · exact limited_tooDeep

theorem limited_value (frames : List Frame) {t : Token} (h : t.Limited) :
    (value frames t).Limited := by
  unfold value
  split
  · exact h.map _
  · exact limited_enter _ _ _
  · exact limited_enter _ _ _
  · exact limited_malformed

theorem limited_key (frames : List Frame) (t : Token) : (key frames t).Limited := by
  unfold key
  split
  · exact failsOnly_ok _
  · exact limited_malformed

/-- One token goes beyond a limit at most. -/
theorem limited_step (r : Reader) {t : Token} (h : t.Limited) : (r.step t).Limited := by
  unfold step
  repeat' split
  all_goals
    first
    | exact limited_value _ h
    | exact limited_key _ _
    | exact failsOnly_ok _
    | exact limited_malformed

theorem limited_foldlM (r : Reader) {ts : List Token} (h : ∀ t ∈ ts, t.Limited) :
    (ts.foldlM step r : Readable Reader).Limited := by
  induction ts generalizing r with
  | nil => exact failsOnly_ok r
  | cons t ts ih =>
    rw [List.forall_mem_cons] at h
    exact (limited_step r h.1).bind fun r => ih r h.2

end Reader

/-- **What a JSON text comes to by accident is that it goes beyond a limit.** -/
theorem limited_read (s : String) : (read s).Limited := by
  refine (Reader.limited_foldlM _ fun t h => limited_of_mem_tokensWithin h).bind fun r => ?_
  split
  · exact failsOnly_ok _
  · exact limited_malformed

end Json

namespace Toml

theorem limited_decimal (negative : Bool) (s : List Char) : (decimal negative s).Limited := by
  unfold decimal
  refine (limited_ofOption _).bind fun ⟨whole, rest⟩ => ?_
  dsimp only
  split
  · exact (limited_number _).bind fun _ => failsOnly_ok _
  · exact failsOnly_ok _

theorem limited_scalarValue (s : List Char) : (scalarValue s).Limited := by
  unfold scalarValue number
  repeat' split
  all_goals
    first
    | exact failsOnly_ok _
    | exact limited_malformed
    | exact limited_decimal _ _

theorem limited_inside (room cost : Nat) : (inside room cost).Limited := by
  unfold inside
  split
  · exact failsOnly_ok _
  · exact limited_tooDeep

/-- Values, the items of a list and the entries of a table go beyond a limit at most, for every
bound on the number of steps. -/
theorem limited_within (bound : Nat) :
    (∀ room s, (value bound room s).Limited) ∧ (∀ room s, (items bound room s).Limited) ∧
      ∀ room found s, (entries bound room found s).Limited := by
  induction bound with
  | zero =>
    refine ⟨fun room s => ?_, fun room s => ?_, fun room found s => ?_⟩
    · rw [value]
      exact limited_malformed
    · rw [items]
      exact limited_malformed
    · rw [entries]
      exact limited_malformed
  | succ bound ih =>
    obtain ⟨hvalue, hitems, hentries⟩ := ih
    refine ⟨fun room s => ?_, fun room s => ?_, fun room found s => ?_⟩
    · unfold value
      split
      · exact (limited_ofOption _).bind fun _ => failsOnly_ok _
      · exact (limited_ofOption _).bind fun _ => failsOnly_ok _
      · exact (limited_inside _ _).bind fun _ => (limited_ofOption _).bind fun _ =>
          (hitems _ _).bind fun _ => failsOnly_ok _
      · refine (limited_inside _ _).bind fun _ => ?_
        dsimp only
        split
        · exact failsOnly_ok _
        · exact (hentries _ _ _).bind fun _ => failsOnly_ok _
      · exact limited_scalarValue _
    · unfold items
      split
      · exact failsOnly_ok _
      · refine (hvalue _ _).bind fun ⟨v, rest⟩ => (limited_ofOption _).bind fun _ => ?_
        split
        · exact failsOnly_ok _
        · exact (limited_ofOption _).bind fun _ => (hitems _ _).bind fun _ => failsOnly_ok _
        · exact limited_malformed
    · unfold entries
      refine (limited_ofOption _).bind fun ⟨key, rest⟩ => (hvalue _ _).bind fun ⟨v, rest⟩ =>
        (limited_ofOption _).bind fun _ => ?_
      split
      · exact failsOnly_ok _
      · exact hentries _ _ _
      · exact limited_malformed

namespace Document

theorem limited_statement (d : Document) (s : List Char) : (d.statement s).Limited := by
  unfold statement
  split
  · exact limited_ofOption _
  · exact failsOnly_ok _
  · exact failsOnly_ok _
  · exact (limited_ofOption _).bind fun _ => ((limited_within _).1 _ _).bind fun _ =>
      (limited_ofOption _).bind fun _ => failsOnly_ok _

theorem limited_statements (bound : Nat) (d : Document) (s : List Char) :
    (statements bound d s).Limited := by
  induction bound generalizing d s with
  | zero => exact limited_malformed
  | succ bound ih =>
    unfold statements
    split
    · exact failsOnly_ok _
    · exact (limited_statement _ _).bind fun _ => (limited_ofOption _).bind fun _ => ih _ _

end Document

/-- **What a TOML text comes to by accident is that it goes beyond a limit.** -/
theorem limited_read (s : String) : (read s).Limited :=
  (Document.limited_statements _ _ _).bind fun _ => failsOnly_ok _

end Toml

/-- The accidents that reading a text can end in: a limit is reached, or the reader of YAML does not
get over a text. -/
inductive Accident.IsOfText (yaml : String → Readable Value) : Accident → Prop
  | limit (a : Accident) (h : a.IsLimit) : IsOfText yaml a
  | yaml (text : String) (a : Accident) (h : yaml text = .error (.accident a)) : IsOfText yaml a

theorem Format.isOfText_of_read {yaml : String → Readable Value} {f : Format} {text : String}
    {a : Accident} (h : f.read yaml text = .error (.accident a)) : a.IsOfText yaml := by
  cases f with
  | json => exact .limit a (Json.limited_read text _ h)
  | toml => exact .limit a (Toml.limited_read text _ h)
  | yaml => exact .yaml text a h

end TypeFiles
