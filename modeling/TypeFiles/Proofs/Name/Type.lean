/-
# The form of the name of a type

The name of a type is put together from runs of ASCII letters and digits, each with its first
character in upper case, and gets an underscore in front if a digit would come first.  So it has one
of two forms (`isTypeName_forType`):

| form | example |
| --- | --- |
| a capital, then letters and digits | `PetStore` |
| an underscore, a digit, then letters and digits | `_3dModel` |

It starts with a capital or with an underscore (`forType_head`), which no other type in the
generated code does but two of the built-in ones, and an underscore stands nowhere else in it.
-/

import TypeFiles.Name

namespace TypeFiles

namespace Text

/-- What holds of the characters with the numbers below 128 holds of ASCII letters and digits. -/
theorem forall_alphanum {p : Char → Prop}
    (h : ∀ n < 128, (Char.ofNat n).isAlphanum = true → p (Char.ofNat n)) {c : Char}
    (hc : c.isAlphanum = true) : p c := by
  have hbelow : ∀ last : UInt32, last.toNat < 128 → c.val ≤ last → c.toNat < 128 :=
    fun last hlast hle => Nat.lt_of_le_of_lt (UInt32.le_iff_toNat_le.1 hle) hlast
  have hlt : c.toNat < 128 := by
    rcases Bool.or_eq_true_iff.1 hc with halpha | hdigit
    · rcases Bool.or_eq_true_iff.1 halpha with hupper | hlower
      · exact hbelow 'Z'.val (by decide) (of_decide_eq_true hupper).2
      · exact hbelow 'z'.val (by decide) (of_decide_eq_true (Bool.and_eq_true_iff.1 hlower).2)
    · exact hbelow '9'.val (by decide) (of_decide_eq_true (Bool.and_eq_true_iff.1 hdigit).2)
  have hback : Char.ofNat c.toNat = c := Char.ofNat_toNat c
  rw [← hback]
  exact h c.toNat hlt (by rw [hback]; exact hc)

theorem isAlpha_of_isUpper {c : Char} (h : c.isUpper = true) : c.isAlpha = true :=
  Bool.or_eq_true_iff.2 (.inl h)

theorem isAlphanum_of_isAlpha {c : Char} (h : c.isAlpha = true) : c.isAlphanum = true :=
  Bool.or_eq_true_iff.2 (.inl h)

theorem isAlphanum_of_isDigit {c : Char} (h : c.isDigit = true) : c.isAlphanum = true :=
  Bool.or_eq_true_iff.2 (.inr h)

theorem isAlphanum_of_isUpper {c : Char} (h : c.isUpper = true) : c.isAlphanum = true :=
  isAlphanum_of_isAlpha (isAlpha_of_isUpper h)

/-- No letter is a digit. -/
theorem not_isDigit_of_isAlpha {c : Char} (h : c.isAlpha = true) : c.isDigit = false :=
  forall_alphanum (p := fun c => c.isAlpha = true → c.isDigit = false) (by decide +kernel)
    (isAlphanum_of_isAlpha h) h

theorem toNat_lt_of_isAlphanum {c : Char} (h : c.isAlphanum = true) : c.toNat < 128 :=
  forall_alphanum (p := fun c => c.toNat < 128) (by decide +kernel) h

/-- The upper case of an ASCII letter is its capital; a digit is its own. -/
theorem upper_of_isAlphanum {c : Char} (h : c.isAlphanum = true) : upper c = [c.toUpper] :=
  forall_alphanum (p := fun c => upper c = [c.toUpper]) (by decide +kernel) h

theorem toUpper_of_isAlphanum {c : Char} (h : c.isAlphanum = true) :
    c.toUpper.isUpper = true ∨ c.toUpper.isDigit = true :=
  forall_alphanum (p := fun c => c.toUpper.isUpper = true ∨ c.toUpper.isDigit = true)
    (by decide +kernel) h

end Text

namespace Name

/-- The parts of a text hold letters and digits only. -/
theorem isAlphanum_of_mem_parts {s part : List Char} (h : part ∈ parts s) {c : Char}
    (hc : c ∈ part) : c.isAlphanum = true := by
  induction s generalizing part with
  | nil =>
    obtain rfl := List.mem_singleton.1 h
    cases hc
  | cons d rest ih =>
    simp only [parts, List.foldr_cons] at h ih
    split at h
    · rename_i hd
      split at h
      · obtain rfl := List.mem_singleton.1 h
        obtain rfl := List.mem_singleton.1 hc
        exact hd
      · rename_i first others hrest
        rcases List.mem_cons.1 h with rfl | h
        · rcases List.mem_cons.1 hc with rfl | hc
          · exact hd
          · exact ih (by rw [hrest]; exact List.mem_cons_self) hc
        · exact ih (by rw [hrest]; exact List.mem_cons_of_mem _ h) hc
    · rcases List.mem_cons.1 h with rfl | h
      · cases hc
      · exact ih h hc

/-- The two forms of the name of a type. -/
inductive IsTypeName : List Char → Prop where
  | capital {c : Char} {rest : List Char} (hc : c.isUpper = true)
      (hrest : ∀ d ∈ rest, d.isAlphanum = true) : IsTypeName (c :: rest)
  | digit {c : Char} {rest : List Char} (hc : c.isDigit = true)
      (hrest : ∀ d ∈ rest, d.isAlphanum = true) : IsTypeName ('_' :: c :: rest)

theorem IsTypeName.head {name : List Char} (h : IsTypeName name) :
    ∃ c rest, name = c :: rest ∧ (c.isUpper = true ∨ c = '_') := by
  cases h with
  | capital hc hrest => exact ⟨_, _, rfl, .inl hc⟩
  | digit hc hrest => exact ⟨_, _, rfl, .inr rfl⟩

/-- A capitalized part starts with a capital or a digit, and goes on with letters and digits. -/
theorem capitalized_of_alphanum {c : Char} {rest : List Char}
    (h : ∀ d ∈ c :: rest, d.isAlphanum = true) :
    ∃ d, capitalized (c :: rest) = d :: rest ∧ (d.isUpper = true ∨ d.isDigit = true) := by
  have hc := h c List.mem_cons_self
  refine ⟨c.toUpper, ?_, Text.toUpper_of_isAlphanum hc⟩
  rw [capitalized, Text.upper_of_isAlphanum hc, List.singleton_append]

/-- Capitalized parts hold letters and digits only. -/
theorem isAlphanum_of_mem_capitalized {part : List Char} (h : ∀ d ∈ part, d.isAlphanum = true)
    {c : Char} (hc : c ∈ capitalized part) : c.isAlphanum = true := by
  cases part with
  | nil => cases hc
  | cons first rest =>
    obtain ⟨d, hd, hstart⟩ := capitalized_of_alphanum h
    rw [hd] at hc
    rcases List.mem_cons.1 hc with rfl | hc
    · rcases hstart with hupper | hdigit
      · exact Text.isAlphanum_of_isUpper hupper
      · exact Text.isAlphanum_of_isDigit hdigit
    · exact h c (List.mem_cons_of_mem _ hc)

/-- Letters and digits behind a capital or a digit make the name of a type. -/
theorem isTypeName_guardDigit {c : Char} {rest : List Char}
    (hc : c.isUpper = true ∨ c.isDigit = true) (hrest : ∀ d ∈ rest, d.isAlphanum = true) :
    IsTypeName (guardDigit (c :: rest)) := by
  rw [guardDigit]
  by_cases hdigit : c.isDigit = true
  · rw [if_pos hdigit]
    exact .digit hdigit hrest
  · rw [if_neg hdigit]
    exact .capital (hc.resolve_right hdigit) hrest

/-- **The name of a type has one of the two forms**, whatever text the key is. -/
theorem isTypeName_forType (key : String) : IsTypeName (forType key).toList := by
  unfold forType
  dsimp only
  cases hwords : (parts (Text.withoutMarks key.toList)).filter fun part => !part.isEmpty with
  | nil =>
    have hrest : ∀ d ∈ "nnamedType".toList, d.isAlphanum = true := List.all_eq_true.1 (by decide)
    exact .capital rfl hrest
  | cons word words =>
    have hmem : ∀ part ∈ word :: words,
        part ∈ parts (Text.withoutMarks key.toList) ∧ !part.isEmpty := by
      intro part hpart
      rw [← hwords] at hpart
      exact List.mem_filter.1 hpart
    have hletters : ∀ part ∈ word :: words, ∀ d ∈ part, d.isAlphanum = true :=
      fun part hpart d hd => isAlphanum_of_mem_parts (hmem part hpart).1 hd
    cases word with
    | nil => simp at hmem
    | cons c letters =>
      obtain ⟨d, hd, hstart⟩ := capitalized_of_alphanum (hletters _ List.mem_cons_self)
      have hrest : ∀ e ∈ letters ++ words.flatMap capitalized, e.isAlphanum = true := by
        intro e he
        rcases List.mem_append.1 he with he | he
        · exact hletters _ List.mem_cons_self e (List.mem_cons_of_mem _ he)
        · obtain ⟨part, hpart, he⟩ := List.mem_flatMap.1 he
          exact isAlphanum_of_mem_capitalized (hletters part (List.mem_cons_of_mem _ hpart)) he
      have hname := isTypeName_guardDigit hstart hrest
      rw [List.flatMap_cons, hd, List.cons_append]
      obtain ⟨e, others, hguarded, -⟩ := hname.head
      rw [hguarded] at hname ⊢
      rw [String.toList_ofList]
      exact hname

/-- **The name of a type starts with a capital or an underscore.** -/
theorem forType_head (key : String) :
    ∃ c rest, (forType key).toList = c :: rest ∧ (c.isUpper = true ∨ c = '_') :=
  (isTypeName_forType key).head

/-- The name of a type is never empty. -/
theorem forType_ne_empty (key : String) : forType key ≠ "" := by
  intro h
  obtain ⟨c, rest, hname, -⟩ := forType_head key
  rw [h] at hname
  cases hname

end Name
end TypeFiles
