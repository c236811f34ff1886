/-
# What a step adds to the journal

Most steps of a run look at nothing in the journal but whether it collects diagnostics, and all they
do to it is to add.  `Gives step a ds` says so of one step: from every journal it gives `a` and adds
`ds` to the collector, if there is one.  The log is left open, since a step may write other lines
where nothing is collected.

A step that is put together from such steps is one again (`Gives.bind`, `Gives.forM`,
`Gives.isolated`), so what a whole run gives and collects is read off its parts.
-/

import TypeFiles.Journal

namespace TypeFiles
namespace Reporting

variable {α β : Type} {a : α} {b : β} {ds es : List Diagnostic}

/-- From every journal a step gives `a`, and adds `ds` to the collector if there is one. -/
structure Gives (step : Reporting α) (a : α) (ds : List Diagnostic) : Prop where
  result : ∀ j, (step.run j).1 = a
  collector : ∀ j, (step.run j).2.collector = j.collector.map (· ++ ds)

/-- A step that gives `a` from every journal has nothing else to give. -/
theorem Gives.run_eq {step : Reporting α} (h : Gives step a ds) (j : Journal) :
    step.run j = (a, (step.run j).2) :=
  Prod.ext (h.result j) rfl

/-- **With a collector, what a step adds stands behind what was there.** -/
theorem Gives.collector_of_some {step : Reporting α} (h : Gives step a ds) {j : Journal}
    {old : List Diagnostic} (hj : j.collector = some old) :
    (step.run j).2.collector = some (old ++ ds) := by
  rw [h.collector, hj, Option.map_some]

/-- A step that leaves the collector alone adds nothing. -/
theorem gives_nil {step : Reporting α} (result : ∀ j, (step.run j).1 = a)
    (collector : ∀ j, (step.run j).2.collector = j.collector) : Gives step a [] :=
  ⟨result, fun j => by rw [collector]; simp⟩

theorem gives_pure (a : α) : Gives (pure a) a [] :=
  gives_nil (fun _ => rfl) fun _ => rfl

theorem Gives.bind {x : Reporting α} {f : α → Reporting β} (hx : Gives x a ds)
    (hf : Gives (f a) b es) : Gives (x >>= f) b (ds ++ es) := by
  have hrun : ∀ j, (x >>= f).run j = (f a).run (x.run j).2 := by
    intro j
    rw [StateT.run_bind, hx.run_eq j]
    rfl
  refine ⟨fun j => ?_, fun j => ?_⟩
  · rw [hrun, hf.result]
  · rw [hrun, hf.collector, hx.collector, Option.map_map]
    congr 1
    funext old
    exact List.append_assoc old ds es

/-- A step after which nothing is added adds what it adds. -/
theorem Gives.bind_pure {x : Reporting α} {f : α → Reporting β} (hx : Gives x a ds)
    (hf : Gives (f a) b []) : Gives (x >>= f) b ds := by
  simpa using hx.bind hf

/-- A step that comes after one that adds nothing. -/
theorem Gives.pure_bind {x : Reporting α} {f : α → Reporting β} (hx : Gives x a [])
    (hf : Gives (f a) b es) : Gives (x >>= f) b es := by
  simpa using hx.bind hf

/-- A log line is no diagnostic. -/
theorem gives_write (level : Level) (channel : Channel) (message : String) :
    Gives (write level channel message) ⟨⟩ [] :=
  gives_nil (fun _ => rfl) fun _ => rfl

theorem gives_emit (d : Diagnostic) : Gives (emit d) ⟨⟩ [d] :=
  ⟨fun _ => rfl, fun _ => rfl⟩

/-- Only where something is collected it matters what a step adds. -/
theorem gives_ite_isCollecting {x y : Reporting α} (hx : Gives x a ds) (hy : Gives y a es) :
    Gives (do if ← isCollecting then x else y) a ds := by
  have hrun : ∀ j, (do if ← isCollecting then x else y : Reporting α).run j =
      if j.collector.isSome then x.run j else y.run j := by
    intro j
    cases h : j.collector <;> simp [isCollecting, h]
  refine ⟨fun j => ?_, fun j => ?_⟩
  · rw [hrun]
    split
    · exact hx.result j
    · exact hy.result j
  · rw [hrun]
    split
    · exact hx.collector j
    · rename_i h
      rw [Option.not_isSome_iff_eq_none] at h
      rw [hy.collector, h, Option.map_none, Option.map_none]

/-- A step for each item of a list, one after the other. -/
theorem Gives.forM {f : β → Reporting PUnit} {g : β → List Diagnostic}
    (hf : ∀ x, Gives (f x) ⟨⟩ (g x)) (l : List β) : Gives (l.forM f) ⟨⟩ (l.flatMap g) := by
  induction l with
  | nil => exact gives_pure _
  | cons x rest ih =>
    rw [List.flatMap_cons]
    exact (hf x).bind ih

/-- A step with a collector of its own adds nothing to the former one, and hands over what it
found. -/
theorem Gives.isolated {x : Reporting α} (hx : Gives x a ds) : Gives (isolated x) (a, ds) [] := by
  have hrun : ∀ j, ∃ log, (Reporting.isolated x).run j = ((a, ds), ⟨log, j.collector⟩) := by
    intro j
    have hc := hx.collector_of_some (j := { j with collector := some [] }) rfl
    refine ⟨(x.run { j with collector := some [] }).2.log, ?_⟩
    change (((x.run { j with collector := some [] }).1,
      (x.run { j with collector := some [] }).2.diagnostics),
      { (x.run { j with collector := some [] }).2 with collector := j.collector }) = _
    rw [hx.result, Journal.diagnostics, hc]
    rfl
  refine gives_nil (fun j => ?_) fun j => ?_ <;>
    · obtain ⟨log, h⟩ := hrun j
      rw [h]

end Reporting
end TypeFiles
