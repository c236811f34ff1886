/-
# The schemas of a document and what is left of them

Deriving a document and splitting what was derived makes of every schema either a unit with the name
of its type, or a note under `Components.Schemas`.  Both come in document order, so the schemas are
the units and the notes, interleaved (`Accounts`).

One kind of schema is lost on the way.  An enumeration of nothing but null becomes an enum without a
case, which splitting takes for an empty namespace: there is neither a unit nor a note.
`accounts_iff` says that nothing else is lost.
-/

import TypeFiles.Proofs.Derivation.Body
import TypeFiles.Proofs.Name.Type

namespace TypeFiles

open Declaration

/-- The note on a schema without a file. -/
structure Diagnostic.IsDropOf (n : Diagnostic) (key : String) : Prop where
  severity : n.severity = .note
  message : n.message = "Dropped typealias without a file of its own"
  context : n.context = some ("Components.Schemas." ++ Name.forType key)

/-- The units and the notes account for the keys, each of them by one unit or by one note, and in
their order. -/
inductive Accounts : List String → List FileUnit → List Diagnostic → Prop where
  | nil : Accounts [] [] []
  | unit {key : String} {keys : List String} {u : FileUnit} {us : List FileUnit}
      {ns : List Diagnostic} (name : u.name = Name.forType key) (rest : Accounts keys us ns) :
      Accounts (key :: keys) (u :: us) ns
  | note {key : String} {keys : List String} {us : List FileUnit} {n : Diagnostic}
      {ns : List Diagnostic} (drop : n.IsDropOf key) (rest : Accounts keys us ns) :
      Accounts (key :: keys) us (n :: ns)

/-- As many units and notes as keys. -/
theorem Accounts.length_add_length {keys : List String} {us : List FileUnit} {ns : List Diagnostic}
    (h : Accounts keys us ns) : us.length + ns.length = keys.length := by
  induction h with
  | nil => rfl
  | unit _ _ ih => rw [List.length_cons, List.length_cons, ← ih]; omega
  | note _ _ ih => rw [List.length_cons, List.length_cons, ← ih]; omega

theorem isDropOf_dropNote (key : String) :
    (Splitting.dropNote .typeAlias (some (Name.forType key)) ["Components", "Schemas"]).IsDropOf
      key := by
  have hown : (some (Name.forType key)).toList.filter (fun n => !n.isEmpty) =
      [Name.forType key] := by
    simp [Name.forType_ne_empty key]
  have hjoined : ".".intercalate ["Components", "Schemas", Name.forType key] =
      "Components.Schemas." ++ Name.forType key := by
    rw [← String.toList_inj]
    simp
  have hpath : Splitting.path ["Components", "Schemas"] (some (Name.forType key)) =
      some ("Components.Schemas." ++ Name.forType key) := by
    rw [Splitting.path, hown, List.cons_append, List.cons_append, List.nil_append, hjoined]
    simp
  have hword : Kind.typeAlias.word = "typealias" := by
    rw [Kind.word, ← String.toList_inj, String.toList_map]
    rfl
  rw [Splitting.dropNote, hpath, hword]
  exact ⟨rfl, rfl, rfl⟩

variable {keys : List String}

/-- The units and notes of one declaration account for its schema, unless that is null only. -/
theorem accounts_cons {key : String} {s : Schema} {d : Declaration} {kept : List String}
    {us : List FileUnit} {ns : List Diagnostic}
    (h : Derivation.declaration keys key s = .ok d) (rest : Accounts kept us ns) :
    Accounts (if s.isNullEnumeration then kept else key :: kept) (d.fileUnits [] ++ us)
      (d.dropNotes ["Components", "Schemas"] ++ ns) := by
  have hbody := Derivation.becomes_of_declaration h
  have hplain := Derivation.isPlain_of_declaration h
  rw [fileUnits_of_isPlain hplain, dropNotes_of_isPlain hplain, hbody.name_eq]
  obtain ⟨hfile, hdrop, hnull⟩ | ⟨hfile, hdrop, hkind, hnull⟩ | ⟨hfile, hdrop, hnull⟩ :=
    hbody.unit_or_note
  · simp only [hfile, hdrop, hnull, Bool.false_eq_true, if_true, if_false, List.nil_append,
      List.singleton_append, Option.getD_some]
    refine .unit ?_ rest
    rw [FileUnit.ofDeclaration]
  · simp only [hfile, hdrop, hkind, hnull, Bool.false_eq_true, if_true, if_false, List.nil_append,
      List.singleton_append]
    exact .note (isDropOf_dropNote key) rest
  · simp only [hfile, hdrop, hnull, Bool.false_eq_true, if_true, if_false, List.nil_append]
    exact rest

/-- The units and notes of the declarations of a document account for its schemas, save those that
are null only. -/
theorem accounts_of_declarations {schemas : List (String × Schema)} {ds : List Declaration}
    (h : List.Forall₂ (fun e d => Derivation.declaration keys e.1 e.2 = .ok d) schemas ds) :
    Accounts ((schemas.filter fun e => !e.2.isNullEnumeration).map (·.1))
      (ds.flatMap (fileUnits [])) (ds.flatMap (dropNotes ["Components", "Schemas"])) := by
  induction h with
  | nil => exact .nil
  | @cons e d schemas ds hd _ ih =>
    have hkept : ((e :: schemas).filter fun e => !e.2.isNullEnumeration).map (·.1) =
        if e.2.isNullEnumeration then
          (schemas.filter fun e => !e.2.isNullEnumeration).map (·.1)
        else e.1 :: (schemas.filter fun e => !e.2.isNullEnumeration).map (·.1) := by
      cases hnull : e.2.isNullEnumeration <;> simp [hnull]
    rw [hkept, List.flatMap_cons, List.flatMap_cons]
    exact accounts_cons hd ih

/-- **Every schema is accounted for exactly if none of them is an enumeration of nothing but null.**
Splitting what was derived from a document gives units and adds notes that account for all other
schemas, so the numbers agree on the same condition. -/
theorem accounts_iff (t : Deriver) (schemas : List (String × Schema)) (j : Journal) {b : Block}
    (h : ((t.derive schemas).run j).1.1 = .ok b) (log : List LogLine) (old : List Diagnostic) :
    ∃ notes, (b.split.run ⟨log, some old⟩).2.collector = some (old ++ notes) ∧
      Accounts ((schemas.filter fun e => !e.2.isNullEnumeration).map (·.1))
        (b.split.run ⟨log, some old⟩).1 notes ∧
      (Accounts (schemas.map (·.1)) (b.split.run ⟨log, some old⟩).1 notes ↔
        ∀ e ∈ schemas, e.2.isNullEnumeration = false) ∧
      ((b.split.run ⟨log, some old⟩).1.length + notes.length = schemas.length ↔
        ∀ e ∈ schemas, e.2.isNullEnumeration = false) := by
  obtain ⟨ds, hds, rfl⟩ := Deriver.exists_declarations_of_derive h
  have hsplit := gives_split_componentsBlock (Derivation.hasCases_of_declarations hds)
  have haccounts := accounts_of_declarations hds
  refine ⟨_, hsplit.collector_of_some rfl, ?_⟩
  rw [hsplit.result]
  have hcount : (ds.flatMap (fileUnits [])).length +
      (ds.flatMap (dropNotes ["Components", "Schemas"])).length = schemas.length ↔
        ∀ e ∈ schemas, e.2.isNullEnumeration = false := by
    rw [haccounts.length_add_length, List.length_map, List.length_filter_eq_length_iff]
    simp only [Bool.not_eq_true']
  refine ⟨haccounts, ⟨fun hall => ?_, fun hnone => ?_⟩, hcount⟩
  · rw [← hcount, hall.length_add_length, List.length_map]
  · have hkept : (schemas.filter fun e => !e.2.isNullEnumeration) = schemas :=
      List.filter_eq_self.2 fun e he => by rw [hnone e he]; rfl
    rw [hkept] at haccounts
    exact haccounts

/-- An object has a unit and an array has a note, whatever the names of their types. -/
theorem object_and_array_accounted :
    ∃ b : Block, ∃ notes,
      ((Deriver.fresh.derive [("Pet", { Schema.empty with types := ["object"] }),
        ("Tags", { Schema.empty with types := ["array"] })]).run .collecting).1.1 = .ok b ∧
      (b.split.run .collecting).2.collector = some notes ∧
      Accounts ["Pet", "Tags"] (b.split.run .collecting).1 notes := by
  have h : ((Deriver.fresh.derive [("Pet", { Schema.empty with types := ["object"] }),
        ("Tags", { Schema.empty with types := ["array"] })]).run .collecting).1.1 =
      .ok (Deriver.componentsBlock [.struct (Name.forType "Pet") [] ["BaseModel"] defaultAccess,
        .typeAlias (Name.forType "Tags") "list[Any]"]) := rfl
  have hnull : ∀ e ∈ [("Pet", { Schema.empty with types := ["object"] }),
      ("Tags", { Schema.empty with types := ["array"] })], e.2.isNullEnumeration = false := by
    simp only [List.forall_mem_cons]
    exact ⟨rfl, rfl, nofun⟩
  obtain ⟨notes, hnotes, -, hall, -⟩ := accounts_iff _ _ _ h [] []
  exact ⟨_, notes, h, hnotes, hall.2 hnull⟩

/-- An enumeration of nothing but null has neither a unit nor a note. -/
theorem null_enumeration_unaccounted :
    ∃ b : Block,
      ((Deriver.fresh.derive
        [("Nothing", { Schema.empty with types := ["string", "null"], values := [.null] })]).run
          .collecting).1.1 = .ok b ∧
      (b.split.run .collecting).1 = [] ∧ (b.split.run .collecting).2.collector = some [] ∧
      ¬ Accounts ["Nothing"] [] [] :=
  ⟨Deriver.componentsBlock [.enum (Name.forType "Nothing") [] ["str"] defaultAccess],
    rfl, rfl, rfl, nofun⟩

end TypeFiles
