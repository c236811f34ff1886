/-
# Files that share a name

Assembling counts the names of files, the anchor among them, and reports each one that comes up more
than once.  What a reader of the report wants to know is which *units* share a name.  That is the
same, since nothing in the name of a file hides the name of its unit:

| two files | share a name |
| --- | --- |
| of two units | if the units do |
| the anchor and that of a unit | never: behind the namespace stands a dot, or an underscore |

So the names to report are those of the units that come up more than once, in the order in which
they first do (`Repeated`), however often and wherever they come up again.  The files are those that
the units have one by one, shared names or not (`collisions_reported`).
-/

import TypeFiles.Proofs.Plan.Document
import TypeFiles.Proofs.Reporting.Log
import Mathlib.Data.List.Count
import Mathlib.Data.List.Induction
import Mathlib.Data.List.Sort

namespace TypeFiles

open Reporting

/-- The names that come up more than once in a list, in the order in which they first do. -/
structure Repeated (names found : List String) : Prop where
  mem_iff : ∀ name, name ∈ found ↔ 2 ≤ names.count name
  inOrder : found.Pairwise fun a b => names.idxOf a < names.idxOf b

namespace Repeated

variable {names names' found found' : List String}

theorem nodup (h : Repeated names found) : found.Nodup := by
  refine h.inOrder.imp fun {a b} hlt heq => ?_
  rw [heq] at hlt
  exact Nat.lt_irrefl _ hlt

/-- In another order, the same names come up more than once. -/
theorem perm (h : Repeated names found) (h' : Repeated names' found') (hnames : names.Perm names') :
    found.Perm found' :=
  (List.perm_ext_iff_of_nodup h.nodup h'.nodup).2 fun name => by
    rw [h.mem_iff, h'.mem_iff, hnames.count_eq]

/-- There is one way only to list the names that come up more than once. -/
theorem unique (h : Repeated names found) (h' : Repeated names found') : found = found' := by
  refine (h.perm h' (.refl _)).eq_of_pairwise (fun a b _ _ hab hba => ?_) h.inOrder h'.inOrder
  exact absurd hab (Nat.lt_asymm hba)

theorem mem_names (h : Repeated names found) {name : String} (hname : name ∈ found) :
    name ∈ names := by
  have := (h.mem_iff name).1 hname
  exact List.count_pos_iff.1 (by omega)

end Repeated

/-- Without its repetitions, a list is in the order in which its items first come up. -/
theorem pairwise_idxOf_eraseDups (names : List String) :
    names.eraseDups.Pairwise fun a b => names.idxOf a < names.idxOf b := by
  induction names using List.reverseRecOn with
  | nil => exact .nil
  | append_singleton names last ih =>
    rw [List.eraseDups_append, List.pairwise_append]
    -- An item behind others that is not among them comes after them, and nothing else changes.
    have hkeeps : ∀ {a}, a ∈ names.eraseDups → (names ++ [last]).idxOf a = names.idxOf a :=
      fun ha => List.idxOf_append_of_mem (List.mem_eraseDups.1 ha)
    refine ⟨ih.imp_of_mem fun ha hb hlt => ?_, ?_, fun a ha b hb => ?_⟩
    · rwa [hkeeps ha, hkeeps hb]
    · rw [List.removeAll, List.filter_singleton]
      cases names.elem last with
      | true => exact .nil
      | false => exact List.pairwise_singleton _ _
    · have hnot : b ∉ names := by simpa using (List.mem_filter.1 (List.mem_eraseDups.1 hb)).2
      rw [hkeeps ha, List.idxOf_append_of_notMem hnot]
      exact Nat.lt_add_right _ (List.idxOf_lt_length_of_mem (List.mem_eraseDups.1 ha))

theorem repeated_filter_eraseDups (names : List String) :
    Repeated names (names.eraseDups.filter fun name => 2 ≤ names.count name) := by
  refine ⟨fun name => ?_, (pairwise_idxOf_eraseDups names).filter _⟩
  rw [List.mem_filter, List.mem_eraseDups, decide_eq_true_eq, and_iff_right_iff_imp]
  intro hcount
  exact List.count_pos_iff.1 (by omega)

namespace Assembly

variable (s : Settings) {names found : List String}

/-- **What is reported as a collision is what is repeated**, and how often it is. -/
theorem collisions_eq (h : Repeated names found) :
    collisions names = found.map fun name => (name, names.count name) := by
  have hfilter : collisions names = (names.eraseDups.filter fun name => 2 ≤ names.count name).map
      fun name => (name, names.count name) := List.filter_map
  rw [hfilter, (repeated_filter_eraseDups names).unique h]

/-- **The name of a file tells that of its unit.** -/
theorem fileName_injective : Function.Injective (fileName s) := by
  intro name other h
  have hlist := congrArg String.toList h
  simp only [fileName, String.toList_append, List.append_assoc, List.append_cancel_left_eq,
    List.append_cancel_right_eq] at hlist
  exact String.toList_inj.1 hlist

/-- **The anchor has the name of no unit file**, whatever the unit is named. -/
theorem anchor_name_ne {anchor : GeneratedFile} (h : anchorFile? s = some anchor) (name : String) :
    anchor.name ≠ fileName s name := by
  obtain ⟨root, hroot, rfl⟩ := Option.map_eq_some_iff.1 h
  intro heq
  have hlist := congrArg String.toList heq
  simp [fileName, hroot] at hlist

/-! ## The names of all files -/

/-- The names of the files of some units, behind that of the anchor. -/
def namesOfFiles (names : List String) : List String :=
  (anchorFile? s).toList.map (·.name) ++ names.map (fileName s)

theorem map_name_files (us : List FileUnit) :
    (files s us).map (·.name) = namesOfFiles s (us.map (·.name)) := by
  rw [files, namesOfFiles, List.map_append, List.map_map, List.map_map]
  rfl

theorem not_mem_anchor (name : String) :
    fileName s name ∉ (anchorFile? s).toList.map (·.name) := by
  intro hmem
  obtain ⟨anchor, hanchor, hname⟩ := List.mem_map.1 hmem
  exact anchor_name_ne s (Option.mem_toList.1 hanchor) name hname

theorem count_namesOfFiles (name : String) :
    (namesOfFiles s names).count (fileName s name) = names.count name := by
  rw [namesOfFiles, List.count_append, List.count_eq_zero_of_not_mem (not_mem_anchor s name),
    Nat.zero_add]
  exact List.count_map_of_injective _ _ (fileName_injective s) _

/-- The names of files come up in the order in which those of their units do. -/
theorem idxOf_namesOfFiles {name : String} (h : name ∈ names) :
    (namesOfFiles s names).idxOf (fileName s name) =
      (anchorFile? s).toList.length + names.idxOf name := by
  rw [namesOfFiles, List.idxOf_append_of_notMem (not_mem_anchor s name), List.length_map]
  congr 1
  induction names with
  | nil => cases h
  | cons first rest ih =>
    rw [List.map_cons]
    by_cases heq : first = name
    · rw [heq, List.idxOf_cons_self, List.idxOf_cons_self]
    · rw [List.idxOf_cons_ne _ heq,
        List.idxOf_cons_ne _ fun hname => heq (fileName_injective s hname),
        ih ((List.mem_cons.1 h).resolve_left (Ne.symm heq))]

/-- **The names of files that come up more than once are those of units that do.** -/
theorem repeated_namesOfFiles (h : Repeated names found) :
    Repeated (namesOfFiles s names) (found.map (fileName s)) where
  mem_iff file := by
    constructor
    · intro hmem
      obtain ⟨name, hname, rfl⟩ := List.mem_map.1 hmem
      rw [count_namesOfFiles]
      exact (h.mem_iff name).1 hname
    · intro hcount
      have hmem : file ∈ namesOfFiles s names := List.count_pos_iff.1 (by omega)
      rcases List.mem_append.1 hmem with hanchor | hunit
      · -- The anchor is one file, and no other has its name.
        have hother : file ∉ names.map (fileName s) := by
          intro hunit
          obtain ⟨name, -, rfl⟩ := List.mem_map.1 hunit
          exact not_mem_anchor s name hanchor
        have hone : ((anchorFile? s).toList.map (·.name)).length ≤ 1 := by
          cases anchorFile? s <;> simp
        rw [namesOfFiles, List.count_append, List.count_eq_zero_of_not_mem hother] at hcount
        exact absurd (hcount.trans List.count_le_length) (by omega)
      · obtain ⟨name, -, rfl⟩ := List.mem_map.1 hunit
        rw [count_namesOfFiles] at hcount
        exact List.mem_map_of_mem ((h.mem_iff name).2 hcount)
  inOrder := by
    rw [List.pairwise_map]
    refine h.inOrder.imp_of_mem fun ha hb hlt => ?_
    rw [idxOf_namesOfFiles s (h.mem_names ha), idxOf_namesOfFiles s (h.mem_names hb)]
    exact Nat.add_lt_add_left hlt _

/-- The warning on the files of the units that share a name. -/
def collisionWarning (names : List String) (name : String) : Diagnostic :=
  ⟨.warning, toString (names.count name) ++ " files share the name " ++ fileName s name,
    some (fileName s name)⟩

/-- **The warnings on files, told by the units that share a name.** -/
theorem collisionWarnings_eq (h : Repeated names found) :
    collisionWarnings (namesOfFiles s names) = found.map (collisionWarning s names) := by
  rw [collisionWarnings, collisions_eq (repeated_namesOfFiles s h), List.map_map, List.map_map]
  refine List.map_congr_left fun name _ => ?_
  simp only [Function.comp_def, count_namesOfFiles, collisionMessage, collisionWarning]

/-- The line of the log on a warning on files: where nothing is collected, its message alone. -/
def warningLine (collecting : Bool) (w : Diagnostic) : LogLine :=
  if collecting then ⟨.warning, .diagnostics, w.text⟩ else ⟨.warning, .assembly, w.message⟩

theorem logs_reportCollisions (names : List String) :
    Logs (reportCollisions names) fun collecting =>
      (collisionWarnings names).map (warningLine collecting) := by
  have hone : ∀ c : String × Nat, Logs (do
      if ← isCollecting then warn (collisionMessage c.1 c.2) (some c.1)
      else write .warning .assembly (collisionMessage c.1 c.2)) fun collecting =>
        [warningLine collecting ⟨.warning, collisionMessage c.1 c.2, some c.1⟩] := by
    intro c j
    refine (logs_ite_isCollecting (logs_emit _) (logs_write _ _ _) j).trans ?_
    cases j.collector <;> rfl
  have h := Logs.forM hone (fun c => gives_ite_isCollecting (gives_emit _) (gives_write _ _ _))
    (collisions names)
  simp only [← List.map_eq_flatMap] at h
  simp only [collisionWarnings, List.map_map]
  exact h

end Assembly

/-- Assembling writes no more than on the files that share a name. -/
theorem logs_assemble (s : Settings) (us : List FileUnit) :
    Logs (assemble s us) fun collecting =>
      (Assembly.collisionWarnings ((Assembly.files s us).map (·.name))).map
        (Assembly.warningLine collecting) :=
  (Assembly.logs_reportCollisions _).bind_pure (Assembly.gives_reportCollisions _) (logs_pure _)

open Assembly

/-- **What is reported on files that share a name.**  Two unit files share a name exactly if their
units do, and none shares that of the anchor.  There is one warning for each name that more than one
unit has, in the order in which the names first come up, and nothing else is collected, nor logged.
Shared names or not, each unit has the file that it has when it is assembled alone. -/
theorem collisions_reported (s : Settings) (us : List FileUnit) :
    ∃ (unitFiles : List GeneratedFile) (shared : List String),
      (∀ j, ((assemble s us).run j).1 = (anchorFile? s).toList ++ unitFiles) ∧
      List.Forall₂ (fun u f => f.name = fileName s u.name ∧
        ∀ j, ((assemble s [u]).run j).1 = (anchorFile? s).toList ++ [f]) us unitFiles ∧
      (∀ i k : Nat, unitFiles[i]?.map (·.name) = unitFiles[k]?.map (·.name) ↔
        us[i]?.map (·.name) = us[k]?.map (·.name)) ∧
      (∀ anchor ∈ anchorFile? s, ∀ f ∈ unitFiles, anchor.name ≠ f.name) ∧
      Repeated (us.map (·.name)) shared ∧
      ∀ j, ((assemble s us).run j).2 =
        ⟨j.log ++ (shared.map (collisionWarning s (us.map (·.name)))).map
            (warningLine j.collector.isSome),
          j.collector.map (· ++ shared.map (collisionWarning s (us.map (·.name))))⟩ := by
  have hgives : ∀ us, Gives (assemble s us) _ _ := gives_assemble s
  refine ⟨us.map (unitFile s (header s)), _, fun j => (hgives us).result j, ?_, ?_, ?_,
    repeated_filter_eraseDups _, fun j => ?_⟩
  · rw [List.forall₂_map_right_iff, List.forall₂_same]
    exact fun u _ => ⟨rfl, fun j => (hgives [u]).result j⟩
  · intro i k
    rw [List.getElem?_map, List.getElem?_map, Option.map_map, Option.map_map]
    have hnames : ∀ o : Option FileUnit, o.map ((·.name) ∘ unitFile s (header s)) =
        (o.map (·.name)).map (fileName s) := fun o => by
      rw [Option.map_map]
      rfl
    rw [hnames, hnames]
    exact (Option.map_injective (fileName_injective s)).eq_iff
  · intro anchor hanchor f hf
    obtain ⟨u, -, rfl⟩ := List.mem_map.1 hf
    exact anchor_name_ne s hanchor u.name
  · have hwarnings := collisionWarnings_eq s (repeated_filter_eraseDups (us.map (·.name)))
    rw [← map_name_files] at hwarnings
    rw [← hwarnings]
    exact congrArg₂ Journal.mk (logs_assemble s us j) ((hgives us).collector j)

/-- Two pets and a tag in a namespace: one warning, and none of the files has the anchor's name. -/
theorem two_pets_reported :
    let s : Settings := ⟨some "Api", [], "py", false⟩
    let unit (name : String) : FileUnit := .ofDeclaration name (.struct name [] [] none) []
    let assembled := (assemble s [unit "Pet", unit "Tag", unit "Pet"]).run .collecting
    assembled.2.collector =
        some [⟨.warning, "2 files share the name Api_Pet.py", some "Api_Pet.py"⟩] ∧
      ∃ anchor unitFiles, assembled.1 = anchor :: unitFiles ∧ unitFiles.length = 3 ∧
        ∀ f ∈ unitFiles, anchor.name ≠ f.name := by
  intro s unit assembled
  obtain ⟨unitFiles, shared, hfiles, hall, -, hanchor, hshared, hjournal⟩ :=
    collisions_reported s [unit "Pet", unit "Tag", unit "Pet"]
  obtain rfl : shared = ["Pet"] := hshared.unique (repeated_filter_eraseDups _)
  refine ⟨?_, _, unitFiles, hfiles .collecting, hall.length_eq.symm, hanchor _ rfl⟩
  rw [hjournal]
  decide +kernel

end TypeFiles
