/-
# Deriving a document

`Derivation.declarations` is what a deriver gives for a document, with neither log nor memory: one
declaration per schema, in document order, or the failure of the first schema that fails.
`Deriver.gives_derive` says that deriving is just that, whatever the deriver remembers and whatever
the journal holds, and that it collects nothing.
-/

import TypeFiles.Derivation
import TypeFiles.Proofs.Reporting
import TypeFiles.Proofs.Success

namespace TypeFiles

namespace Reporting

variable {α β : Type}

/-- An attempt fails where its first part fails, and goes on where that succeeds. -/
theorem Gives.attempt_bind {x : Attempt α} {f : α → Attempt β} {r : Except Failure α}
    {g : α → Except Failure β} (hx : Gives x.run r []) (hf : ∀ a, Gives (f a).run (g a) []) :
    Gives (x >>= f).run (r >>= g) [] := by
  rw [ExceptT.run_bind]
  refine hx.pure_bind ?_
  cases r with
  | ok a => exact hf a
  | error e => exact gives_pure _

theorem Gives.attempt_mapM {f : α → Attempt β} {g : α → Except Failure β}
    (hf : ∀ x, Gives (f x).run (g x) []) (l : List α) : Gives (l.mapM f).run (l.mapM g) [] := by
  induction l with
  | nil => exact gives_pure _
  | cons x rest ih =>
    rw [List.mapM_cons, List.mapM_cons]
    refine (hf x).attempt_bind fun y => ?_
    exact ih.attempt_bind fun ys => gives_pure _

end Reporting

namespace Derivation

/-- The declarations of the schemas of a document, in document order. -/
def declarations (schemas : List (String × Schema)) : Except Failure (List Declaration) :=
  schemas.mapM fun e => declaration (schemas.map (·.1)) e.1 e.2

end Derivation

namespace Deriver

open Reporting

theorem gives_declaration (t : Deriver) (key : String) (s : Schema) :
    Gives (t.declaration key s).run (Derivation.declaration t.keys key s) [] := by
  have hlog : Gives (ExceptT.run (liftM (write .debug .derivation (Derivation.aliasLine key)) :
      Attempt PUnit)) (.ok ⟨⟩) [] := gives_nil (fun _ => rfl) fun _ => rfl
  have hend (r : Except Failure Declaration) :
      Gives (ExceptT.run (MonadExcept.ofExcept r : Attempt Declaration)) r [] := by
    cases r <;> exact gives_pure _
  unfold Deriver.declaration
  -- The match on the result stands behind the log line, so it is decided first.
  cases Derivation.declaration t.keys key s with
  | ok d =>
    cases s.shape with
    | reference | union | values | object => exact hend (.ok d)
    | _ => exact hlog.attempt_bind fun _ => hend (.ok d)
  | error e =>
    cases s.shape with
    | reference | union | values | object => exact hend (.error e)
    | _ => exact hlog.attempt_bind fun _ => hend (.error e)

/-- **Deriving a document gives its declarations**, whatever the deriver has seen before, and
collects nothing.  The deriver remembers the document even if it has no declarations. -/
theorem gives_derive (t : Deriver) (schemas : List (String × Schema)) :
    Gives (t.derive schemas)
      ((Derivation.declarations schemas).map componentsBlock, ⟨schemas⟩) [] := by
  have hmembers : Gives (ExceptT.run ((⟨schemas⟩ : Deriver).components))
      ((Derivation.declarations schemas).map componentsBlock) [] := by
    have hmap : (Derivation.declarations schemas).map componentsBlock =
        Derivation.declarations schemas >>= fun ds => .ok (componentsBlock ds) := by
      cases Derivation.declarations schemas <;> rfl
    rw [hmap]
    exact (Gives.attempt_mapM (fun e => gives_declaration ⟨schemas⟩ e.1 e.2) schemas).attempt_bind
      fun ds => gives_pure _
  exact hmembers.pure_bind (gives_pure _)

/-- A document that is derived is derived schema by schema. -/
theorem exists_declarations_of_derive {t : Deriver} {schemas : List (String × Schema)} {j : Journal}
    {b : Block} (h : ((t.derive schemas).run j).1.1 = .ok b) :
    ∃ ds, List.Forall₂
        (fun e d => Derivation.declaration (schemas.map (·.1)) e.1 e.2 = .ok d) schemas ds ∧
      b = componentsBlock ds := by
  rw [(gives_derive t schemas).result j] at h
  obtain ⟨ds, hds, rfl⟩ := map_eq_ok_iff.1 h
  exact ⟨ds, mapM_eq_ok_iff.1 hds, rfl⟩

end Deriver
end TypeFiles
