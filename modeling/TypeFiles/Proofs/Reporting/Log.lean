/-
# What a step adds to the log

A step writes behind what the log held before.  Which lines it writes may depend on one thing in the
journal, whether it collects diagnostics: without a collector some parts of a run write lines of
their own in place of diagnostics.  `Logs step lines` says so of one step; `lines` is given that one
thing.  Steps are put together as in `Gives`, which also says that no step turns collecting on or
off for the next one.
-/

import TypeFiles.Proofs.Reporting

namespace TypeFiles
namespace Reporting

variable {α β : Type} {a : α} {b : β} {ds : List Diagnostic}
  {x y : Reporting α} {f : α → Reporting β} {lines more : Bool → List LogLine}

/-- From every journal a step adds `lines` to the log, given whether diagnostics are collected. -/
def Logs (step : Reporting α) (lines : Bool → List LogLine) : Prop :=
  ∀ j, (step.run j).2.log = j.log ++ lines j.collector.isSome

theorem logs_pure (a : α) : Logs (pure a) fun _ => [] :=
  fun j => (List.append_nil j.log).symm

theorem logs_write (level : Level) (channel : Channel) (message : String) :
    Logs (write level channel message) fun _ => [⟨level, channel, message⟩] :=
  fun _ => rfl

/-- A diagnostic is logged as well, whether it is collected or not. -/
theorem logs_emit (d : Diagnostic) :
    Logs (emit d) fun _ => [⟨d.severity.level, .diagnostics, d.text⟩] :=
  fun _ => rfl

/-- A step leaves it as it was whether diagnostics are collected. -/
theorem Gives.isSome_collector (h : Gives x a ds) (j : Journal) :
    (x.run j).2.collector.isSome = j.collector.isSome := by
  rw [h.collector, Option.isSome_map]

theorem Logs.bind (hx : Logs x lines) (gives : Gives x a ds) (hf : Logs (f a) more) :
    Logs (x >>= f) fun collecting => lines collecting ++ more collecting := by
  intro j
  have hrun : (x >>= f).run j = (f a).run (x.run j).2 := by
    rw [StateT.run_bind, gives.run_eq j]
    rfl
  rw [hrun, hf, hx, gives.isSome_collector, List.append_assoc]

/-- **What a step leaves of a journal** is what was there, with its lines and its diagnostics behind
it. -/
theorem Logs.journal_eq (hx : Logs x lines) (gives : Gives x a ds) (j : Journal) :
    (x.run j).2 = ⟨j.log ++ lines j.collector.isSome, j.collector.map (· ++ ds)⟩ := by
  rw [← hx j, ← gives.collector j]

/-- A step after which nothing is written writes what it writes. -/
theorem Logs.bind_pure (hx : Logs x lines) (gives : Gives x a ds) (hf : Logs (f a) fun _ => []) :
    Logs (x >>= f) lines := by
  simpa using hx.bind gives hf

theorem logs_ite_isCollecting (hx : Logs x lines) (hy : Logs y more) :
    Logs (do if ← isCollecting then x else y) fun collecting =>
      if collecting then lines true else more false := by
  intro j
  cases h : j.collector with
  | none => simpa [isCollecting, h] using hy j
  | some old => simpa [isCollecting, h] using hx j

theorem Logs.forM {f : β → Reporting PUnit} {g : β → Bool → List LogLine}
    {found : β → List Diagnostic} (hf : ∀ x, Logs (f x) (g x))
    (gives : ∀ x, Gives (f x) ⟨⟩ (found x)) (l : List β) :
    Logs (l.forM f) fun collecting => l.flatMap (g · collecting) := by
  induction l with
  | nil => exact logs_pure _
  | cons x rest ih =>
    simp only [List.flatMap_cons]
    exact (hf x).bind (gives x) ih

end Reporting
end TypeFiles
