/-
# Line ends in documents

A file is read with every line end as a line feed, and a page as it is sent.  A reader of documents
does not tell the two apart.

| format | a carriage return is |
| --- | --- |
| YAML | a line end, which is unified before the text is looked at |
| JSON, between tokens | a blank, as a line feed is |
| JSON, inside a token | not allowed, as a line feed is not |

So a JSON text has the same tokens either way: each is scanned from characters that are no line
ends (`Json.scanToken_unifyLineEnds`), and what is left behind it are the two texts again.
-/

import Mathlib.Data.List.Basic
import TypeFiles.Format
import TypeFiles.Proofs.Text.LineEnds
import TypeFiles.Yaml

namespace TypeFiles

/-! ## YAML -/

namespace Yaml

open Text

theorem unifiedFrom_unifyLineEnds (found s : List Char) :
    unifiedFrom found (unifyLineEnds s) = unifiedFrom found s := by
  fun_induction unifyLineEnds s generalizing found with
  | case1 rest ih => simp [unifiedFrom, ih]
  | case2 rest hrest ih =>
    have hreturn : unifiedFrom found ('\x0d' :: rest) = unifiedFrom ('\n' :: found) rest := by
      rw [unifiedFrom]
      exact hrest
    rw [hreturn, ← ih]
    rfl
  | case3 c rest _ hc ih =>
    by_cases hnext : c = '\u0085'
    · subst hnext
      exact ih _
    · have hcons : ∀ s, unifiedFrom found (c :: s) = unifiedFrom (c :: found) s := by
        intro s
        rw [unifiedFrom]
        · exact fun _ h => absurd h hc
        · exact hc
        · exact hnext
      rw [hcons, hcons, ih]
  | case4 => rfl

theorem withoutMark_unifyLineEnds (s : List Char) :
    withoutMark (unifyLineEnds s) = unifyLineEnds (withoutMark s) := by
  have hother : ∀ {s}, s.head? ≠ some '\ufeff' → withoutMark s = s := by
    intro s hs
    unfold withoutMark
    split
    · exact absurd rfl hs
    · rfl
  rcases front_cases '\ufeff' (by decide) (by decide) s with ⟨s, rfl, hs⟩ | ⟨hs, hs'⟩
  · rw [hs]
    rfl
  · rw [hother hs, hother hs']

theorem all_isAllowed_unifyLineEnds (s : List Char) :
    (unifyLineEnds s).all isAllowed = s.all isAllowed := by
  have hreturn : isAllowed '\x0d' = true := by decide
  have hfeed : isAllowed '\n' = true := by decide
  fun_induction unifyLineEnds s with
  | case1 rest ih => simp [hreturn, hfeed, ih]
  | case2 rest _ ih => simp [hreturn, hfeed, ih]
  | case3 c rest _ _ ih => rw [List.all_cons, List.all_cons, ih]
  | case4 => rfl

/-- **A YAML text is read alike**, whichever line ends it has. -/
theorem read_unifyLineEnds (s : String) :
    read (String.ofList (unifyLineEnds s.toList)) = read s := by
  unfold read
  dsimp only
  rw [String.toList_ofList, all_isAllowed_unifyLineEnds, withoutMark_unifyLineEnds, unified,
    unifiedFrom_unifyLineEnds]
  rfl

end Yaml

/-! ## JSON -/

namespace Json

open Text

variable {found units : List Nat} {s after : List Char}

/-- Neither line end is a hexadecimal digit. -/
theorem noLineEnd_of_codeUnit? {a b c d : Char} {unit : Nat} (h : codeUnit? a b c d = some unit) :
    ∀ x ∈ [a, b, c, d], x ≠ '\x0d' ∧ x ≠ '\n' := by
  have hdigit : ∀ x ∈ [a, b, c, d], (Decimal.digitValue? x).isSome = true := by
    simp only [codeUnit?, Option.bind_eq_bind, Option.bind_eq_some_iff] at h
    obtain ⟨w, hw, x, hx, y, hy, z, hz, -⟩ := h
    simp [hw, hx, hy, hz]
  intro x hx
  constructor
  all_goals
    rintro rfl
    exact absurd (hdigit _ hx) (by decide)

/-- A text is scanned from characters that are no line ends, whatever follows it. -/
theorem scanText_eq_some (h : scanText found s = some (units, after)) :
    ∃ front, s = front ++ after ∧ (∀ c ∈ front, c ≠ '\x0d' ∧ c ≠ '\n') ∧
      ∀ other, scanText found (front ++ other) = some (units, other) := by
  fun_induction scanText found s with
  | case1 => cases h
  | case2 found rest =>
    cases h
    exact ⟨['"'], rfl, List.forall_iff_forall_mem.1 (by decide), fun _ => rfl⟩
  | case3 found a b c d rest unit hunit ih =>
    obtain ⟨front, rfl, hclean, hother⟩ := ih h
    refine ⟨'\\' :: 'u' :: ([a, b, c, d] ++ front), rfl, ?_, fun other => ?_⟩
    · simp only [List.forall_mem_cons, List.forall_mem_append]
      exact ⟨by decide, by decide, by simpa using noLineEnd_of_codeUnit? hunit, hclean⟩
    · simp only [List.cons_append, List.nil_append, scanText, hunit, hother]
  | case4 => cases h
  | case5 found e rest hne c hc ih =>
    obtain ⟨front, rfl, hclean, hother⟩ := ih h
    have he : e ≠ '\x0d' ∧ e ≠ '\n' ∧ e ≠ 'u' := by
      refine ⟨?_, ?_, ?_⟩
      all_goals
        rintro rfl
        cases hc
    refine ⟨'\\' :: e :: front, rfl, ?_, fun other => ?_⟩
    · simp only [List.forall_mem_cons]
      exact ⟨by decide, ⟨he.1, he.2.1⟩, hclean⟩
    · rw [List.cons_append, List.cons_append, scanText]
      · simp only [hc, hother]
      · exact fun _ _ _ _ _ hu => absurd hu he.2.2
  | case6 => cases h
  | case7 => cases h
  | case8 found c rest hquote _ _ hc ih =>
    obtain ⟨front, rfl, hclean, hother⟩ := ih h
    have hslash : c ≠ '\\' := by
      rintro rfl
      exact hc (by decide)
    refine ⟨c :: front, rfl, List.forall_mem_cons.2 ⟨⟨?_, ?_⟩, hclean⟩, fun other => ?_⟩
    · rintro rfl
      exact hc (by decide)
    · rintro rfl
      exact hc (by decide)
    · rw [List.cons_append, scanText, if_neg hc, hother]
      · exact hquote
      · exact fun _ _ _ _ _ h => absurd h hslash
      · exact fun _ _ h => absurd h hslash

/-- What a scanner finds, in front of the rest with its line ends unified. -/
def restUnified {α : Type} (p : α × List Char) : α × List Char := (p.1, unifyLineEnds p.2)

theorem scanText_unifyLineEnds (found : List Nat) (s : List Char) :
    scanText found (unifyLineEnds s) = (scanText found s).map restUnified := by
  cases h : scanText found s with
  | some p =>
    obtain ⟨units, after⟩ := p
    obtain ⟨front, rfl, hclean, hother⟩ := scanText_eq_some h
    rw [unifyLineEnds_append fun hmem => (hclean _ hmem).1 rfl, hother]
    rfl
  | none =>
    -- A text that is there with unified line ends has none in it, so it is there without as well.
    cases h' : scanText found (unifyLineEnds s) with
    | none => rfl
    | some p =>
      obtain ⟨units, after⟩ := p
      obtain ⟨front, hs, hclean, hother⟩ := scanText_eq_some h'
      obtain ⟨behind, rfl, -⟩ :=
        exists_of_unifyLineEnds hs fun hmem => (hclean _ hmem).2 rfl
      rw [hother behind] at h
      cases h

theorem spanDigits_unifyLineEnds (s : List Char) :
    Decimal.spanDigits (unifyLineEnds s) = restUnified (Decimal.spanDigits s) := by
  unfold Decimal.spanDigits
  rw [takeWhile_unifyLineEnds (by decide) (by decide),
    dropWhile_unifyLineEnds (by decide) (by decide)]
  rfl

theorem scanFraction_point (s : List Char) : scanFraction ('.' :: s) =
    match Decimal.spanDigits s with
    | ([], _) => ([], '.' :: s)
    | found => found := rfl

theorem scanFraction_unifyLineEnds (s : List Char) :
    scanFraction (unifyLineEnds s) = restUnified (scanFraction s) := by
  have hother : ∀ {s}, s.head? ≠ some '.' → scanFraction s = ([], s) := by
    intro s hs
    unfold scanFraction
    split
    · exact absurd rfl hs
    · rfl
  rcases front_cases '.' (by decide) (by decide) s with ⟨s, rfl, hs⟩ | ⟨hs, hs'⟩
  · rw [hs, scanFraction_point, scanFraction_point, spanDigits_unifyLineEnds]
    obtain ⟨digits, after⟩ := Decimal.spanDigits s
    cases digits with
    | nil => exact congrArg (Prod.mk []) hs.symm
    | cons => rfl
  · rw [hother hs, hother hs']
    rfl

/-- The sign of an exponent, and what follows it. -/
def scanSign (s : List Char) : Bool × List Char :=
  match s with
  | '-' :: r => (true, r)
  | '+' :: r => (false, r)
  | r => (false, r)

theorem scanSign_unifyLineEnds (s : List Char) :
    scanSign (unifyLineEnds s) = restUnified (scanSign s) := by
  have hother : ∀ {s}, s.head? ≠ some '-' → s.head? ≠ some '+' → scanSign s = (false, s) := by
    intro s hminus hplus
    unfold scanSign
    split
    · exact absurd rfl hminus
    · exact absurd rfl hplus
    · rfl
  rcases front_cases '-' (by decide) (by decide) s with ⟨s, rfl, hs⟩ | ⟨hminus, hminus'⟩
  · rw [hs]
    rfl
  · rcases front_cases '+' (by decide) (by decide) s with ⟨s, rfl, hs⟩ | ⟨hplus, hplus'⟩
    · rw [hs]
      rfl
    · rw [hother hminus hplus, hother hminus' hplus']
      rfl

theorem scanExponent_cons (c : Char) (s : List Char) : scanExponent (c :: s) =
    if c == 'e' || c == 'E' then
      match Decimal.spanDigits (scanSign s).2 with
      | ([], _) => (none, c :: s)
      | (found, after) =>
        (some (if (scanSign s).1 then -(Decimal.ofDigits 10 found : Int)
          else Decimal.ofDigits 10 found), after)
    else (none, c :: s) := rfl

theorem scanExponent_unifyLineEnds (s : List Char) :
    scanExponent (unifyLineEnds s) = restUnified (scanExponent s) := by
  cases s with
  | nil => rfl
  | cons c s =>
    by_cases hreturn : c = '\x0d'
    · subst hreturn
      obtain ⟨behind, hs, -⟩ := unifyLineEnds_return s
      rw [hs, scanExponent_cons, scanExponent_cons, if_neg (by decide), if_neg (by decide),
        restUnified, hs]
    · have hs : unifyLineEnds (c :: s) = c :: unifyLineEnds s := unifyLineEnds_cons hreturn
      rw [hs, scanExponent_cons, scanExponent_cons, scanSign_unifyLineEnds]
      obtain ⟨negative, behind⟩ := scanSign s
      dsimp only [restUnified]
      rw [spanDigits_unifyLineEnds]
      obtain ⟨digits, after⟩ := Decimal.spanDigits behind
      split
      · cases digits with
        | nil => exact congrArg _ hs.symm
        | cons => rfl
      · exact congrArg _ hs.symm

/-- The digits of a whole number, of which only the first may be a zero, and what follows them. -/
def scanWhole (s : List Char) : List Char × List Char :=
  match s with
  | '0' :: r => (['0'], r)
  | s => Decimal.spanDigits s

theorem scanNumber_eq (negative : Bool) (s : List Char) : scanNumber negative s =
    if (scanWhole s).1.isEmpty then none
    else
      if (scanFraction (scanWhole s).2).1.isEmpty &&
          (scanExponent (scanFraction (scanWhole s).2).2).1.isNone then
        some ((Readable.number (scanWhole s).1).map fun n => .int (Decimal.signed negative n),
          (scanExponent (scanFraction (scanWhole s).2).2).2)
      else
        some (.ok (.float (Decimal.toDouble negative
          (Decimal.ofDigits 10 ((scanWhole s).1 ++ (scanFraction (scanWhole s).2).1))
          ((scanExponent (scanFraction (scanWhole s).2).2).1.getD 0 -
            (scanFraction (scanWhole s).2).1.length))),
          (scanExponent (scanFraction (scanWhole s).2).2).2) := rfl

theorem scanWhole_unifyLineEnds (s : List Char) :
    scanWhole (unifyLineEnds s) = restUnified (scanWhole s) := by
  have hother : ∀ {s}, s.head? ≠ some '0' → scanWhole s = Decimal.spanDigits s := by
    intro s hs
    unfold scanWhole
    split
    · exact absurd rfl hs
    · rfl
  rcases front_cases '0' (by decide) (by decide) s with ⟨s, rfl, hs⟩ | ⟨hs, hs'⟩
  · rw [hs]
    rfl
  · rw [hother hs, hother hs', spanDigits_unifyLineEnds]

theorem scanNumber_unifyLineEnds (negative : Bool) (s : List Char) :
    scanNumber negative (unifyLineEnds s) = (scanNumber negative s).map restUnified := by
  simp only [scanNumber_eq, scanWhole_unifyLineEnds, restUnified, scanFraction_unifyLineEnds,
    scanExponent_unifyLineEnds]
  split
  · rfl
  · split <;> rfl

/-- A word without line ends stands in front of both texts or of none, and in front of the same. -/
theorem isPrefixOf_unifyLineEnds {word : List Char} (h : ∀ c ∈ word, c ≠ '\x0d' ∧ c ≠ '\n')
    (s : List Char) :
    word.isPrefixOf (unifyLineEnds s) = word.isPrefixOf s ∧
      (word.isPrefixOf s = true →
        (unifyLineEnds s).drop word.length = unifyLineEnds (s.drop word.length)) := by
  have happend : ∀ rest, unifyLineEnds (word ++ rest) = word ++ unifyLineEnds rest :=
    fun rest => unifyLineEnds_append fun hmem => (h _ hmem).1 rfl
  constructor
  · rw [Bool.eq_iff_iff, List.isPrefixOf_iff_prefix, List.isPrefixOf_iff_prefix]
    constructor
    · rintro ⟨rest, hrest⟩
      obtain ⟨behind, rfl, -⟩ := exists_of_unifyLineEnds hrest.symm fun hmem => (h _ hmem).2 rfl
      exact List.prefix_append word behind
    · rintro ⟨rest, rfl⟩
      rw [happend]
      exact List.prefix_append word _
  · rw [List.isPrefixOf_iff_prefix]
    rintro ⟨rest, rfl⟩
    rw [happend, List.drop_left, List.drop_left]

theorem scanWord_unifyLineEnds (s : List Char) :
    scanWord (unifyLineEnds s) = (scanWord s).map restUnified := by
  have hwords : ∀ w ∈ words, w.1.toList.Forall fun c => c ≠ '\x0d' ∧ c ≠ '\n' := by
    decide +kernel
  have hclean : ∀ w ∈ words, ∀ c ∈ w.1.toList, c ≠ '\x0d' ∧ c ≠ '\n' :=
    fun w hw => List.forall_iff_forall_mem.1 (hwords w hw)
  unfold scanWord
  generalize words = ws at hclean
  induction ws with
  | nil => rfl
  | cons w ws ih =>
    rw [List.forall_mem_cons] at hclean
    obtain ⟨hstarts, hdrop⟩ := isPrefixOf_unifyLineEnds hclean.1 s
    rw [List.findSome?_cons, List.findSome?_cons]
    dsimp only
    rw [hstarts]
    cases hw : w.1.toList.isPrefixOf s with
    | false => exact ih hclean.2
    | true =>
      rw [String.length_toList] at hdrop
      rw [if_pos rfl, if_pos rfl, hdrop hw]
      rfl

/-- The number a text starts with. -/
def scanSigned (s : List Char) : Option (Readable Value × List Char) :=
  match s with
  | '-' :: rest => scanNumber true rest
  | s => scanNumber false s

theorem scanSigned_unifyLineEnds (s : List Char) :
    scanSigned (unifyLineEnds s) = (scanSigned s).map restUnified := by
  have hother : ∀ {s}, s.head? ≠ some '-' → scanSigned s = scanNumber false s := by
    intro s hs
    unfold scanSigned
    split
    · exact absurd rfl hs
    · rfl
  rcases front_cases '-' (by decide) (by decide) s with ⟨s, rfl, hs⟩ | ⟨hs, hs'⟩
  · rw [hs]
    exact scanNumber_unifyLineEnds true s
  · rw [hother hs, hother hs', scanNumber_unifyLineEnds]

/-- The characters that tokens other than numbers and words start with. -/
def marks : List Char := ['[', ']', '\x7b', '\x7d', ',', ':', '"']

theorem scanToken_of_not_mem_marks {c : Char} (h : c ∉ marks) (s : List Char) :
    scanToken (c :: s) =
      (scanSigned (c :: s) <|> scanWord (c :: s)).map fun (v, after) => (.scalar v, after) := by
  unfold scanToken
  split
  case h_8 => rfl
  all_goals
    rename_i heq
    obtain ⟨rfl, -⟩ := List.cons.inj heq
    exact absurd (by decide) h

/-- **A token is scanned alike**, and what follows it has its line ends unified. -/
theorem scanToken_unifyLineEnds {c : Char} (h : c ≠ '\x0d') (s : List Char) :
    scanToken (unifyLineEnds (c :: s)) = (scanToken (c :: s)).map restUnified := by
  by_cases hmark : c ∈ marks
  · rw [unifyLineEnds_cons h]
    simp only [marks, List.mem_cons, List.not_mem_nil, or_false] at hmark
    rcases hmark with rfl | rfl | rfl | rfl | rfl | rfl | rfl
    case inr.inr.inr.inr.inr.inr =>
      change (scanText [] (unifyLineEnds s)).map _ = ((scanText [] s).map _).map _
      rw [scanText_unifyLineEnds, Option.map_map, Option.map_map]
      rfl
    all_goals rfl
  · rw [scanToken_of_not_mem_marks hmark, unifyLineEnds_cons h, scanToken_of_not_mem_marks hmark,
      ← unifyLineEnds_cons h, scanSigned_unifyLineEnds, scanWord_unifyLineEnds]
    cases scanSigned (c :: s) with
    | some _ => rfl
    | none => cases scanWord (c :: s) <;> rfl

/-! ### The number of tokens -/

theorem length_spanDigits_le (s : List Char) : (Decimal.spanDigits s).2.length ≤ s.length :=
  (List.dropWhile_sublist _).length_le

theorem length_scanFraction_le (s : List Char) : (scanFraction s).2.length ≤ s.length := by
  unfold scanFraction
  split
  · rename_i rest
    have := length_spanDigits_le rest
    split
    · exact Nat.le_refl _
    · exact Nat.le_succ_of_le this
  · exact Nat.le_refl _

theorem length_scanSign_le (s : List Char) : (scanSign s).2.length ≤ s.length := by
  unfold scanSign
  split
  · exact Nat.le_succ _
  · exact Nat.le_succ _
  · exact Nat.le_refl _

theorem length_scanExponent_le (s : List Char) : (scanExponent s).2.length ≤ s.length := by
  cases s with
  | nil => exact Nat.le_refl _
  | cons c s =>
    have hdigits := Nat.le_trans (length_spanDigits_le (scanSign s).2) (length_scanSign_le s)
    rw [scanExponent_cons]
    split
    · split
      · exact Nat.le_refl _
      · rename_i heq
        rw [heq] at hdigits
        exact Nat.le_succ_of_le hdigits
    · exact Nat.le_refl _

theorem length_scanWhole_lt (h : (scanWhole s).1.isEmpty = false) :
    (scanWhole s).2.length < s.length := by
  unfold scanWhole at h ⊢
  split at h
  · exact Nat.lt_succ_self _
  · have happend := congrArg List.length (Decimal.spanDigits_append s)
    rw [List.length_append] at happend
    rw [List.isEmpty_eq_false_iff, ← List.length_pos_iff] at h
    omega

theorem length_lt_of_scanNumber {negative : Bool} {v : Readable Value}
    (h : scanNumber negative s = some (v, after)) : after.length < s.length := by
  rw [scanNumber_eq] at h
  split at h
  · cases h
  · rename_i hwhole
    have hlt := length_scanWhole_lt (Bool.of_not_eq_true hwhole)
    have hfraction := length_scanFraction_le (scanWhole s).2
    have hexponent := length_scanExponent_le (scanFraction (scanWhole s).2).2
    split at h
    all_goals
      obtain ⟨-, rfl⟩ := Prod.mk.inj (Option.some.inj h)
      omega

theorem length_lt_of_scanWord {v : Readable Value} (h : scanWord s = some (v, after)) :
    after.length < s.length := by
  have hpos : ∀ w ∈ words, 0 < w.1.length := by
    decide +kernel
  obtain ⟨w, hw, hword⟩ := List.exists_of_findSome?_eq_some h
  dsimp only at hword
  split at hword
  · rename_i hprefix
    obtain ⟨-, rfl⟩ := Prod.mk.inj (Option.some.inj hword)
    have hle := (List.isPrefixOf_iff_prefix.1 hprefix).length_le
    rw [String.length_toList] at hle
    have := hpos w hw
    rw [List.length_drop]
    omega
  · cases hword

/-- Scanning a token takes something away. -/
theorem length_lt_of_scanToken {token : Token} (h : scanToken s = some (token, after)) :
    after.length < s.length := by
  cases s with
  | nil => cases h
  | cons c s =>
    by_cases hmark : c ∈ marks
    · simp only [marks, List.mem_cons, List.not_mem_nil, or_false] at hmark
      rcases hmark with rfl | rfl | rfl | rfl | rfl | rfl | rfl
      case inr.inr.inr.inr.inr.inr =>
        obtain ⟨⟨units, behind⟩, htext, heq⟩ := Option.map_eq_some_iff.1 h
        obtain ⟨-, rfl⟩ := Prod.mk.inj heq
        obtain ⟨front, rfl, -⟩ := scanText_eq_some htext
        simp only [List.length_cons, List.length_append]
        omega
      all_goals
        obtain ⟨-, rfl⟩ := Prod.mk.inj (Option.some.inj h)
        exact Nat.lt_succ_self _
    · rw [scanToken_of_not_mem_marks hmark] at h
      obtain ⟨⟨v, behind⟩, hfound, heq⟩ := Option.map_eq_some_iff.1 h
      obtain ⟨-, rfl⟩ := Prod.mk.inj heq
      rw [Option.orElse_eq_orElse, Option.orElse_eq_or, Option.or_eq_some_iff] at hfound
      rcases hfound with hnumber | ⟨-, hword⟩
      · unfold scanSigned at hnumber
        split at hnumber
        · rename_i heq
          rw [heq]
          exact Nat.lt_succ_of_lt (length_lt_of_scanNumber hnumber)
        · exact length_lt_of_scanNumber hnumber
      · exact length_lt_of_scanWord hword

theorem tokensWithin_unifyLineEnds (bound : Nat) (s : List Char) :
    tokensWithin bound (unifyLineEnds s) = tokensWithin bound s := by
  induction bound generalizing s with
  | zero => rfl
  | succ bound ih =>
    have hdrop : (unifyLineEnds s).dropWhile isSpace = unifyLineEnds (s.dropWhile isSpace) :=
      dropWhile_unifyLineEnds_of_pos rfl rfl s
    rw [tokensWithin, tokensWithin, hdrop]
    cases hs : s.dropWhile isSpace with
    | nil => rfl
    | cons c rest =>
      have hc : isSpace c = false := by
        have := List.head?_dropWhile_not isSpace s
        simpa [hs] using this
      have hreturn : c ≠ '\x0d' := by
        rintro rfl
        cases hc
      have htoken := scanToken_unifyLineEnds hreturn rest
      rw [unifyLineEnds_cons hreturn] at htoken ⊢
      dsimp only
      rw [htoken]
      cases scanToken (c :: rest) with
      | none => rfl
      | some found => exact congrArg _ (ih found.2)

/-- A bound beyond the number of characters is never reached. -/
theorem tokensWithin_eq {bound bound' : Nat} (h : s.length < bound) (h' : s.length < bound') :
    tokensWithin bound s = tokensWithin bound' s := by
  induction bound generalizing bound' s with
  | zero => cases h
  | succ bound ih =>
    cases bound' with
    | zero => cases h'
    | succ bound' =>
      have hle : (s.dropWhile isSpace).length ≤ s.length := (List.dropWhile_sublist _).length_le
      rw [tokensWithin, tokensWithin]
      cases hs : s.dropWhile isSpace with
      | nil => rfl
      | cons c rest =>
        rw [hs] at hle
        dsimp only
        cases htoken : scanToken (c :: rest) with
        | none => rfl
        | some found =>
          have hlt := length_lt_of_scanToken htoken
          exact congrArg _ (ih (by omega) (by omega))

/-- **A JSON text is read alike**, whichever line ends it has. -/
theorem read_unifyLineEnds (s : String) :
    read (String.ofList (unifyLineEnds s.toList)) = read s := by
  have htokens : tokens (unifyLineEnds s.toList) = tokens s.toList := by
    rw [tokens, tokens, ← tokensWithin_unifyLineEnds _ s.toList]
    exact tokensWithin_eq (Nat.lt_succ_self _) (Nat.lt_succ_of_le (length_unifyLineEnds_le _))
  unfold read
  rw [String.toList_ofList, htokens]

end Json

/-- **A document is read alike**, whichever line ends its text has. -/
theorem Format.read_unifyLineEnds {f : Format} (h : f ≠ .toml) (s : String) :
    f.read Yaml.read (String.ofList (Text.unifyLineEnds s.toList)) = f.read Yaml.read s := by
  cases f with
  | json => exact Json.read_unifyLineEnds s
  | yaml => exact Yaml.read_unifyLineEnds s
  | toml => exact absurd rfl h

end TypeFiles
