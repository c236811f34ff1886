/-
# Checks that decide a step

A step that can fail looks at one thing after the other and stops at the first one that is not
right.  A check is one such thing: a reference, the name of a property, or a value to be written.
It passes (`Check.Passes`) or fails with one failure (`Check.Fails`).

A list of checks decides a step (`Decides`) if the step succeeds exactly when all of them pass, and
otherwise fails as the first one that does not pass (`FirstFault`).  Lists of checks are put
together as the steps are: `Decides.bind` and `Decides.mapM` set them one after the other.
-/

import TypeFiles.Derivation
import TypeFiles.Proofs.Success

namespace TypeFiles

/-- What has to be right about a schema. -/
inductive Check where
  /-- A reference names a schema of the document. -/
  | reference (target : Target) (context : String)
  /-- A property has a name. -/
  | named (property : String)
  /-- A value can be written. -/
  | written (v : Value)

namespace Check

/-- A check passes, given the keys of the document. -/
def Passes (keys : List String) : Check → Prop
  | .reference (.pointer ref) _ => ∃ key ∈ keys, ref = "#/components/schemas/" ++ key
  | .reference .unreadable _ => False
  | .named property => property ≠ ""
  | .written v => v.hasText = true

/-- A check fails with a failure, given the keys of the document. -/
inductive Fails (keys : List String) : Check → Failure → Prop where
  | external {ref context : String} (other : ¬ ∃ rest, ref = "#" ++ rest) :
      Fails keys (.reference (.pointer ref) context)
        (.problem (.unsupported ("external reference '" ++ ref ++ "'")
          (some "Bundle the document into a single file first") (some context)))
  | foreign {ref context : String} (same : ∃ rest, ref = "#" ++ rest)
      (other : ¬ ∃ key, ref = "#/components/schemas/" ++ key) :
      Fails keys (.reference (.pointer ref) context)
        (.problem (.unsupported ("reference outside components.schemas '" ++ ref ++ "'") none
          (some context)))
  | missing {key context : String} (other : key ∉ keys) :
      Fails keys (.reference (.pointer ("#/components/schemas/" ++ key)) context)
        (.problem (.derivation
          ("Referenced schema '" ++ key ++ "' not found in components.schemas") (some context)
          none))
  | unreadable {context : String} :
      Fails keys (.reference .unreadable context) (.accident .unreadableReference)
  | unnamed : Fails keys (.named "") (.accident .emptyName)
  | tooLong {v : Value} (long : v.hasText = false) :
      Fails keys (.written v) (.accident (.tooManyDigits none))

variable {keys : List String} {c : Check} {f : Failure}

/-- Only a value that cannot be written has too many digits. -/
theorem Fails.exists_written (h : c.Fails keys (.accident (.tooManyDigits none))) :
    ∃ v, c = .written v := by
  cases h
  exact ⟨_, rfl⟩

end Check

/-- The first check of a list that does not pass fails with a failure. -/
inductive FirstFault (keys : List String) : List Check → Failure → Prop where
  | here {c : Check} {cs : List Check} {f : Failure} (fails : c.Fails keys f) :
      FirstFault keys (c :: cs) f
  | later {c : Check} {cs : List Check} {f : Failure} (passes : c.Passes keys)
      (rest : FirstFault keys cs f) : FirstFault keys (c :: cs) f

/-- The checks decide a step: it succeeds if all of them pass, and otherwise it fails as the first
one that does not pass. -/
structure Decides {α : Type} (keys : List String) (cs : List Check) (step : Except Failure α) :
    Prop where
  ok_iff : (∃ a, step = .ok a) ↔ ∀ c ∈ cs, c.Passes keys
  error_iff : ∀ f, step = .error f ↔ FirstFault keys cs f

namespace FirstFault

variable {keys : List String} {c : Check} {cs ds : List Check} {f : Failure}

theorem exists_fails (h : FirstFault keys cs f) : ∃ c ∈ cs, c.Fails keys f := by
  induction h with
  | here fails => exact ⟨_, List.mem_cons_self, fails⟩
  | later _ _ ih =>
    obtain ⟨c, hc, hfails⟩ := ih
    exact ⟨c, List.mem_cons_of_mem _ hc, hfails⟩

/-- The first fault is that of a check behind others that pass. -/
theorem exists_split (h : FirstFault keys cs f) :
    ∃ before c after, cs = before ++ c :: after ∧ (∀ d ∈ before, d.Passes keys) ∧
      c.Fails keys f := by
  induction h with
  | here fails => exact ⟨[], _, _, rfl, nofun, fails⟩
  | later passes _ ih =>
    obtain ⟨before, c, after, rfl, hbefore, hfails⟩ := ih
    exact ⟨_ :: before, c, after, rfl, List.forall_mem_cons.2 ⟨passes, hbefore⟩, hfails⟩

theorem not_nil : ¬ FirstFault keys [] f := nofun

theorem singleton_iff : FirstFault keys [c] f ↔ c.Fails keys f := by
  constructor
  · intro h
    cases h with
    | here fails => exact fails
    | later _ rest => exact absurd rest not_nil
  · exact .here

/-- In two lists, one after the other, the first fault is that of the first list, or that of the
second one if the first list passes. -/
theorem append_iff : FirstFault keys (cs ++ ds) f ↔
    FirstFault keys cs f ∨ (∀ c ∈ cs, c.Passes keys) ∧ FirstFault keys ds f := by
  induction cs with
  | nil => simp [not_nil]
  | cons c cs ih =>
    rw [List.cons_append, List.forall_mem_cons]
    constructor
    · intro h
      cases h with
      | here fails => exact .inl (.here fails)
      | later passes rest =>
        rcases ih.1 rest with hcs | ⟨hall, hds⟩
        · exact .inl (.later passes hcs)
        · exact .inr ⟨⟨passes, hall⟩, hds⟩
    · rintro (h | ⟨⟨passes, hall⟩, hds⟩)
      · cases h with
        | here fails => exact .here fails
        | later passes rest => exact .later passes (ih.2 (.inl rest))
      · exact .later passes (ih.2 (.inr ⟨hall, hds⟩))

/-- If nothing but values to be written can fail, the first fault is that of such a value. -/
theorem of_written (honly : ∀ c ∈ cs, c.Passes keys ∨ ∃ v, c = .written v)
    (hfail : ¬ ∀ c ∈ cs, c.Passes keys) : FirstFault keys cs (.accident (.tooManyDigits none)) := by
  induction cs with
  | nil => exact absurd (fun c hc => absurd hc List.not_mem_nil) hfail
  | cons c cs ih =>
    rw [List.forall_mem_cons] at honly hfail
    by_cases hc : c.Passes keys
    · exact .later hc (ih honly.2 fun h => hfail ⟨hc, h⟩)
    · rcases honly.1 with h | ⟨v, rfl⟩
      · exact absurd h hc
      · exact .here (.tooLong (Bool.eq_false_iff.2 hc))

end FirstFault

namespace Decides

variable {α β : Type} {keys : List String} {cs ds : List Check}

theorem pure (a : α) : Decides keys [] (.ok a : Except Failure α) where
  ok_iff := ⟨fun _ _ hc => absurd hc List.not_mem_nil, fun _ => ⟨a, rfl⟩⟩
  error_iff f := by
    constructor
    · intro h
      cases h
    · intro h
      exact absurd h FirstFault.not_nil

/-- One check decides a step that succeeds if it passes and fails as it does. -/
theorem singleton {c : Check} {x : Except Failure α} (hok : (∃ a, x = .ok a) ↔ c.Passes keys)
    (herror : ∀ f, x = .error f ↔ c.Fails keys f) : Decides keys [c] x where
  ok_iff := by rw [hok, List.forall_mem_singleton]
  error_iff f := by rw [herror, FirstFault.singleton_iff]

theorem map {x : Except Failure α} (hx : Decides keys cs x) (f : α → β) :
    Decides keys cs (x.map f) where
  ok_iff := by
    rw [← hx.ok_iff]
    constructor
    · rintro ⟨b, hb⟩
      obtain ⟨a, ha, -⟩ := map_eq_ok_iff.1 hb
      exact ⟨a, ha⟩
    · rintro ⟨a, rfl⟩
      exact ⟨f a, rfl⟩
  error_iff e := by rw [map_eq_error_iff, hx.error_iff]

/-- The checks of two steps, one after the other. -/
theorem bind {x : Except Failure α} {f : α → Except Failure β} (hx : Decides keys cs x)
    (hf : ∀ a, Decides keys ds (f a)) : Decides keys (cs ++ ds) (x >>= f) where
  ok_iff := by
    rw [List.forall_mem_append, ← hx.ok_iff]
    constructor
    · rintro ⟨b, hb⟩
      obtain ⟨a, ha, hb⟩ := bind_eq_ok_iff.1 hb
      exact ⟨⟨a, ha⟩, (hf a).ok_iff.1 ⟨b, hb⟩⟩
    · rintro ⟨⟨a, ha⟩, hds⟩
      obtain ⟨b, hb⟩ := (hf a).ok_iff.2 hds
      exact ⟨b, bind_eq_ok_iff.2 ⟨a, ha, hb⟩⟩
  error_iff e := by
    rw [FirstFault.append_iff, ← hx.error_iff, ← hx.ok_iff, bind_eq_error_iff]
    refine or_congr Iff.rfl ?_
    constructor
    · rintro ⟨a, ha, he⟩
      exact ⟨⟨a, ha⟩, ((hf a).error_iff e).1 he⟩
    · rintro ⟨⟨a, ha⟩, hds⟩
      exact ⟨a, ha, ((hf a).error_iff e).2 hds⟩

theorem mapM {f : α → Except Failure β} {checks : α → List Check}
    (hf : ∀ x, Decides keys (checks x) (f x)) (l : List α) :
    Decides keys (l.flatMap checks) (l.mapM f) := by
  induction l with
  | nil => exact .pure []
  | cons x rest ih =>
    rw [List.mapM_cons, List.flatMap_cons]
    refine (hf x).bind fun y => ?_
    have hrest := ih.bind fun ys => Decides.pure (y :: ys)
    rw [List.append_nil] at hrest
    exact hrest

/-- Checks that pass alike and fail alike decide the same steps. -/
theorem congr_checks {x : Except Failure α} (hx : Decides keys cs x)
    (hpass : (∀ c ∈ cs, c.Passes keys) ↔ ∀ c ∈ ds, c.Passes keys)
    (hfault : ∀ f, FirstFault keys cs f ↔ FirstFault keys ds f) : Decides keys ds x where
  ok_iff := hx.ok_iff.trans hpass
  error_iff f := (hx.error_iff f).trans (hfault f)

end Decides

end TypeFiles
