/-
# What a success says, and a failure

A step that may fail is put together from others.  Each lemma here says of one way to do so when the
whole succeeds and with what, or when it fails.  If the parts fail in some ways only (`FailsOnly`),
so does the whole.
-/

import Mathlib.Data.List.Forall2

namespace TypeFiles

variable {ε ε' α β : Type}

/-- A step that may fail is taken after another one if that succeeds. -/
theorem bind_eq_ok_iff {x : Except ε α} {f : α → Except ε β} {b : β} :
    x >>= f = .ok b ↔ ∃ a, x = .ok a ∧ f a = .ok b := by
  cases x with
  | ok a => simp [bind, Except.bind]
  | error e => simp [bind, Except.bind]

theorem map_eq_ok_iff {x : Except ε α} {f : α → β} {b : β} :
    x.map f = .ok b ↔ ∃ a, x = .ok a ∧ f a = b := by
  cases x with
  | ok a => simp [Except.map]
  | error e => simp [Except.map]

/-- Steps taken one after the other fail where the first of them does, or after it. -/
theorem bind_eq_error_iff {x : Except ε α} {f : α → Except ε β} {e : ε} :
    x >>= f = .error e ↔ x = .error e ∨ ∃ a, x = .ok a ∧ f a = .error e := by
  cases x with
  | ok a => simp [bind, Except.bind]
  | error e' => simp [bind, Except.bind]

theorem map_eq_error_iff {x : Except ε α} {f : α → β} {e : ε} :
    x.map f = .error e ↔ x = .error e := by
  cases x with
  | ok a => simp [Except.map]
  | error e' => simp [Except.map]

/-- What tells results apart tells steps apart. -/
theorem map_injective {f : α → β} (hf : Function.Injective f) :
    Function.Injective (Except.map f : Except ε α → Except ε β) := by
  intro x y h
  cases x with
  | ok a =>
    cases y with
    | ok b => rw [hf (Except.ok.inj h)]
    | error e => cases h
  | error e =>
    cases y with
    | ok b => cases h
    | error e' => exact congrArg Except.error (Except.error.inj h)

theorem mapError_eq_ok_iff {x : Except ε α} {f : ε → ε'} {a : α} :
    x.mapError f = .ok a ↔ x = .ok a := by
  cases x with
  | ok a => simp [Except.mapError]
  | error e => simp [Except.mapError]

/-- A step that may fail, and fails only in the ways for which `p` holds. -/
def FailsOnly (p : ε → Prop) (x : Except ε α) : Prop := ∀ e, x = .error e → p e

section

variable {p : ε → Prop} {x : Except ε α} {f : α → Except ε β}

theorem failsOnly_ok (a : α) : FailsOnly p (.ok a) := fun _ h => by cases h

theorem failsOnly_error {e : ε} (h : p e) : FailsOnly p (.error e : Except ε α) := by
  rintro _ ⟨⟩
  exact h

theorem FailsOnly.imp {q : ε → Prop} (hx : FailsOnly p x) (h : ∀ e, p e → q e) : FailsOnly q x :=
  fun e he => h e (hx e he)

theorem FailsOnly.bind (hx : FailsOnly p x) (hf : ∀ a, FailsOnly p (f a)) :
    FailsOnly p (x >>= f) := by
  intro e h
  rcases bind_eq_error_iff.1 h with h | ⟨a, -, h⟩
  · exact hx e h
  · exact hf a e h

theorem FailsOnly.map (hx : FailsOnly p x) (g : α → β) : FailsOnly p (x.map g) :=
  fun e h => hx e (map_eq_error_iff.1 h)

end

/-- A list of steps that may fail succeeds exactly if each of them does. -/
theorem mapM_eq_ok_iff {f : α → Except ε β} {l : List α} {found : List β} :
    l.mapM f = .ok found ↔ List.Forall₂ (fun x y => f x = .ok y) l found := by
  induction l generalizing found with
  | nil =>
    rw [List.mapM_nil, List.forall₂_nil_left_iff]
    exact ⟨fun h => (Except.ok.inj h).symm, fun h => h ▸ rfl⟩
  | cons x rest ih =>
    rw [List.mapM_cons, List.forall₂_cons_left_iff, bind_eq_ok_iff]
    refine exists_congr fun y => ?_
    rw [bind_eq_ok_iff]
    constructor
    · rintro ⟨hy, ys, hys, h⟩
      exact ⟨ys, hy, ih.1 hys, (Except.ok.inj h).symm⟩
    · rintro ⟨ys, hy, hys, rfl⟩
      exact ⟨hy, ys, ih.2 hys, rfl⟩

/-- What stands on the left of a relation between lists has a partner on the right. -/
theorem exists_mem_zip_of_mem {R : α → β → Prop} {l : List α} {found : List β}
    (h : List.Forall₂ R l found) {x : α} (hx : x ∈ l) : ∃ y, (x, y) ∈ l.zip found ∧ R x y := by
  induction h with
  | nil => cases hx
  | @cons x' y l found hxy _ ih =>
    rcases List.mem_cons.1 hx with rfl | hx
    · exact ⟨y, List.mem_cons_self, hxy⟩
    · obtain ⟨z, hz, hR⟩ := ih hx
      exact ⟨z, List.mem_cons_of_mem _ hz, hR⟩

/-- If each fact on the right of a relation between lists is one on the left, both hold everywhere
or neither does. -/
theorem forall_mem_iff_of_forall₂ {p : α → Prop} {q : β → Prop} {l : List α} {found : List β}
    (h : List.Forall₂ (fun x y => q y ↔ p x) l found) : (∀ y ∈ found, q y) ↔ ∀ x ∈ l, p x := by
  induction h with
  | nil => exact iff_of_true nofun nofun
  | cons hxy _ ih => rw [List.forall_mem_cons, List.forall_mem_cons, hxy, ih]

/-! ## Two lists of steps side by side -/

section

variable {γ δ : Type} {f : β → Except ε δ} {g : γ → Except ε δ} {left : List β} {right : List γ}

/-- Steps that are the same one by one are the same together. -/
theorem mapM_eq_of_forall₂ (h : List.Forall₂ (fun y z => f y = g z) left right) :
    left.mapM f = right.mapM g := by
  induction h with
  | nil => rfl
  | cons hxy _ ih => rw [List.mapM_cons, List.mapM_cons, hxy, ih]

/-- Steps that succeed together with the same results do so one by one. -/
theorem forall₂_of_mapM_eq_ok {found : List δ} (h : left.mapM f = .ok found)
    (h' : right.mapM g = .ok found) :
    List.Forall₂ (fun y z => ∃ d, f y = .ok d ∧ g z = .ok d) left right := by
  rw [mapM_eq_ok_iff] at h h'
  induction h generalizing right with
  | nil =>
    obtain rfl := List.forall₂_nil_right_iff.1 h'
    exact .nil
  | cons hy _ ih =>
    obtain ⟨z, rest, hz, hrest, rfl⟩ := List.forall₂_cons_right_iff.1 h'
    exact .cons ⟨_, hy, hz⟩ (ih hrest)

variable {P : α → β → Prop} {Q : α → γ → Prop} {R : β → γ → Prop} {l : List α}

/-- Two lists that are each related to a third one are related through its members. -/
theorem forall₂_through (h : List.Forall₂ P l left) (h' : List.Forall₂ Q l right) :
    List.Forall₂ (fun y z => ∃ x ∈ l, P x y ∧ Q x z) left right := by
  induction h generalizing right with
  | nil =>
    obtain rfl := List.forall₂_nil_left_iff.1 h'
    exact .nil
  | @cons x y l left hxy _ ih =>
    obtain ⟨z, rest, hz, hrest, rfl⟩ := List.forall₂_cons_left_iff.1 h'
    refine .cons ⟨x, List.mem_cons_self, hxy, hz⟩ ((ih hrest).imp fun _ _ => ?_)
    rintro ⟨x', hx', hP, hQ⟩
    exact ⟨x', List.mem_cons_of_mem _ hx', hP, hQ⟩

/-- A member of a list has a partner in each of two lists related to it, and these are partners of
each other if the two lists are related too. -/
theorem exists_partners_of_mem (h : List.Forall₂ P l left) (h' : List.Forall₂ Q l right)
    (hR : List.Forall₂ R left right) {x : α} (hx : x ∈ l) : ∃ y z, P x y ∧ Q x z ∧ R y z := by
  induction h generalizing right with
  | nil => cases hx
  | cons hxy _ ih =>
    obtain ⟨z, rest, hz, hrest, rfl⟩ := List.forall₂_cons_left_iff.1 h'
    obtain ⟨hyz, hR⟩ := List.forall₂_cons.1 hR
    rcases List.mem_cons.1 hx with rfl | hx
    · exact ⟨_, z, hxy, hz, hyz⟩
    · exact ih hrest hR hx

theorem isEmpty_eq_of_forall₂ (h : List.Forall₂ P l left) : l.isEmpty = left.isEmpty := by
  cases h <;> rfl

/-- Lists that are related stay so with their positions. -/
theorem forall₂_zipIdx (h : List.Forall₂ P l left) (start : Nat) :
    List.Forall₂ (fun x y => x.2 = y.2 ∧ P x.1 y.1) (l.zipIdx start) (left.zipIdx start) := by
  induction h generalizing start with
  | nil => exact .nil
  | cons hxy _ ih => exact .cons ⟨rfl, hxy⟩ (ih (start + 1))

end

/-- A condition makes two steps the same, and two steps that succeed with the same result meet it.
Steps may also fail alike without meeting it. -/
structure SameIf (C : Prop) (x y : Except ε α) : Prop where
  same : C → x = y
  back : ∀ a, x = .ok a → y = .ok a → C

namespace SameIf

variable {C D : Prop} {x y : Except ε α}

theorem of_iff (h : C ↔ x = y) : SameIf C x y where
  same := h.1
  back _ hx hy := h.2 (hx.trans hy.symm)

theorem congr (h : SameIf C x y) (hiff : D ↔ C) : SameIf D x y where
  same hD := h.same (hiff.1 hD)
  back a hx hy := hiff.2 (h.back a hx hy)

theorem map (h : SameIf C x y) {f : α → β} (hf : Function.Injective f) :
    SameIf C (x.map f) (y.map f) where
  same hC := by rw [h.same hC]
  back b hx hy := by
    obtain ⟨a, ha, rfl⟩ := map_eq_ok_iff.1 hx
    obtain ⟨a', ha', heq⟩ := map_eq_ok_iff.1 hy
    obtain rfl := hf heq
    exact h.back a' ha ha'

/-- After one step, two others. -/
theorem bind {f g : α → Except ε β} (h : ∀ a, SameIf C (f a) (g a)) :
    SameIf C (x >>= f) (x >>= g) where
  same hC := by rw [funext fun a => (h a).same hC]
  back b hf hg := by
    obtain ⟨a, ha, hfa⟩ := bind_eq_ok_iff.1 hf
    obtain ⟨a', ha', hga⟩ := bind_eq_ok_iff.1 hg
    obtain rfl := Except.ok.inj (ha.symm.trans ha')
    exact (h a).back b hfa hga

/-- **Two lists of steps** that go through the members of a third one, each with a condition of its
own. -/
theorem mapM {γ δ : Type} {P : α → β → Prop} {Q : α → γ → Prop} {A : α → Prop}
    {f : β → Except ε δ} {g : γ → Except ε δ} {l : List α} {left : List β} {right : List γ}
    (hleft : List.Forall₂ P l left) (hright : List.Forall₂ Q l right)
    (h : ∀ x ∈ l, ∀ y z, P x y → Q x z → SameIf (A x) (f y) (g z)) :
    SameIf (∀ x ∈ l, A x) (left.mapM f) (right.mapM g) where
  same hall := by
    refine mapM_eq_of_forall₂ ((forall₂_through hleft hright).imp fun y z => ?_)
    rintro ⟨x, hx, hP, hQ⟩
    exact (h x hx y z hP hQ).same (hall x hx)
  back found hf hg x hx := by
    obtain ⟨y, z, hP, hQ, d, hy, hz⟩ :=
      exists_partners_of_mem hleft hright (forall₂_of_mapM_eq_ok hf hg) hx
    exact (h x hx y z hP hQ).back d hy hz

end SameIf

end TypeFiles
