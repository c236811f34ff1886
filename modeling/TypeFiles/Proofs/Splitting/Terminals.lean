/-
# The terminal nodes of a tree

A node is terminal if splitting comes to it and looks no further: it is neither a namespace nor a
remark.  `split_terminals` describes the terminal nodes by the routes that lead to them, and says of
each what is made of it.

| terminal node | made of it |
| --- | --- |
| struct, protocol, enum with a value case | a unit with the wrappers on the way |
| any other | a note with the names of the namespaces on the way |
-/

import TypeFiles.Proofs.Splitting.Units
import Mathlib.Data.List.Forall2

namespace TypeFiles

open Declaration Splitting

namespace Declaration

theorem terminals_filter_hasFile (d : Declaration) :
    d.terminals.filter (·.node.hasFile) = d.visits.filter (·.node.hasFile) := by
  rw [terminals, List.filter_filter]
  refine List.filter_congr fun v _ => ?_
  cases h : v.node.hasFile with
  | true => rw [isTerminal_of_hasFile h]; rfl
  | false => rfl

theorem terminals_filter_not_hasFile (d : Declaration) :
    d.terminals.filter (!·.node.hasFile) = d.visits.filter (·.node.isDropped) := by
  rw [terminals, List.filter_filter]
  exact List.filter_congr fun v _ => Bool.and_comm _ _

end Declaration

/-- A unit as it is made of a visited declaration: named after it, with the declaration unchanged in
a block without a comment, and with the wrappers on the way to it. -/
structure FileUnit.IsUnitOf (u : FileUnit) (v : Visit) : Prop where
  name : v.node.name? = some u.name
  block : u.block = ⟨.declaration v.node, none⟩
  wrappers : u.wrappers = v.wrappers

/-- The names of the namespaces on the way to a node, and its own name unless that is empty, with
dots between them. -/
def Splitting.Visit.dottedPath (v : Visit) : String :=
  ".".intercalate (v.scope ++ (v.node.name?.filter (· ≠ "")).toList)

/-- A note as it is made on a visited declaration. -/
structure Diagnostic.IsNoteOn (n : Diagnostic) (v : Visit) : Prop where
  severity : n.severity = .note
  message : n.message = "Dropped " ++ v.node.kind.word ++ " without a file of its own"
  context : n.context = if v.dottedPath = "" then none else some v.dottedPath

theorem Declaration.name?_isSome_of_hasFile {d : Declaration} (h : d.hasFile = true) :
    ∃ name, d.name? = some name := by
  cases d <;> simp_all [hasFile, name?]

theorem Splitting.Visit.unit_isUnitOf {v : Visit} (h : v.node.hasFile = true) :
    (v.unit []).IsUnitOf v := by
  obtain ⟨name, hn⟩ := Declaration.name?_isSome_of_hasFile h
  refine ⟨?_, rfl, List.nil_append _⟩
  rw [unit, hn]
  rfl

theorem Splitting.Visit.note_isNoteOn (v : Visit) : (v.note []).IsNoteOn v := by
  have hown : v.node.name?.toList.filter (fun n => !n.isEmpty) =
      (v.node.name?.filter (· ≠ "")).toList := by
    cases v.node.name? with
    | none => rfl
    | some name => by_cases h : name = "" <;> simp [Option.filter, h]
  have hpath : path v.scope v.node.name? =
      if v.dottedPath = "" then none else some v.dottedPath := by
    unfold path dottedPath
    rw [hown]
    simp
  exact ⟨rfl, rfl, hpath⟩

/-- **What a splitting of a tree gives and reports.**  Its terminal nodes are what the routes from
the root lead to and what is neither a namespace nor a remark; listed in document order, each once,
they account for everything: those with a file have one unit each, and each of the others has one
note, which is all that a collector gets. -/
theorem split_terminals (d : Declaration) (log : List LogLine) (old : List Diagnostic) :
    ∃ terminals : List Visit,
      (∀ v, v ∈ terminals ↔ d.Leads v.route v.node ∧ v.node.isTerminal = true) ∧
      terminals.Pairwise (fun u v => Route.Before u.route v.route) ∧
      (terminals.map (·.route)).Nodup ∧
      List.Forall₂ FileUnit.IsUnitOf (d.split.run ⟨log, some old⟩).1
        (terminals.filter (·.node.hasFile)) ∧
      ∃ notes, (d.split.run ⟨log, some old⟩).2.collector = some (old ++ notes) ∧
        List.Forall₂ Diagnostic.IsNoteOn notes (terminals.filter (!·.node.hasFile)) := by
  refine ⟨d.terminals, fun _ => mem_terminals_iff, d.terminals_pairwise, ?_, ?_, d.dropNotes [],
    d.gives_split.collector_of_some rfl, ?_⟩
  · rw [List.Nodup, List.pairwise_map]
    refine d.terminals_pairwise.imp fun {u v} h heq => ?_
    rw [heq] at h
    exact Route.not_before_self _ h
  · rw [d.gives_split.result, d.terminals_filter_hasFile, fileUnits, List.forall₂_map_left_iff,
      List.forall₂_same]
    exact fun v hv => Visit.unit_isUnitOf (List.mem_filter.1 hv).2
  · rw [d.terminals_filter_not_hasFile, dropNotes, List.forall₂_map_left_iff, List.forall₂_same]
    exact fun v _ => v.note_isNoteOn

end TypeFiles
