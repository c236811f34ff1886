/-
# The files of a document

`plan_files` follows a document from its schemas to its files.  The declaration of a schema goes
into a file of its own if it is data under its remarks, a struct or an enum with a case:

| settings | block of the file |
| --- | --- |
| annotations preserved | the declaration as it was derived, remarks and all |
| annotations not preserved | the declaration under its remarks |

Splitting takes the remarks off one by one and assembling puts them back; in between they are a list
of wrappers, carried through two namespaces.  That the declaration comes back as it was is
`foldr_remarks`.
-/

import TypeFiles.Proofs.Plan.Document
import TypeFiles.Proofs.Settings.Reading

namespace TypeFiles

open Declaration

/-- Whether a declaration is data: a struct, or an enum with a case. -/
def Declaration.isData : Declaration → Bool
  | .struct _ _ _ _ => true
  | .enum _ members _ _ => hasCases members
  | _ => false

/-- A derived declaration has a file exactly if it is data. -/
theorem Derivation.Becomes.hasFile_eq_isData {s : Schema} {name : String} {b : Declaration}
    (h : Becomes s name b) : b.hasFile = b.isData := by
  cases h <;> rfl

namespace Plan

/-- The file that declares the empty root namespace. -/
def namespaceFile (s : Settings) (name : String) : GeneratedFile :=
  { name := name ++ "." ++ s.fileExtension
    topComment := "Generated by apisplit, do not modify."
    imports := []
    blocks := [⟨.declaration (namespaceOf name []), none⟩]
    isNamespace := true }

/-- The file of the declaration derived for a schema key. -/
def declarationFile (s : Settings) (key : String) (d : Declaration) : GeneratedFile :=
  { name := s.rootNamespace.elim "" (· ++ "_") ++ Name.forType key ++ "." ++ s.fileExtension
    topComment := "Generated by apisplit, do not modify."
    imports := ["typing", "pydantic"] ++ s.additionalImports
    blocks := [⟨.declaration (if s.preserveAnnotations then d else d.bare), none⟩]
    isNamespace := false }

variable {s : Settings}

theorem anchorFile?_toList (h : Assembly.namespace? s = s.rootNamespace) :
    (Assembly.anchorFile? s).toList = s.rootNamespace.toList.map (namespaceFile s) := by
  rw [Assembly.anchorFile?, h, Option.toList_map]
  rfl

theorem fileName_eq (h : Assembly.namespace? s = s.rootNamespace) (name : String) :
    Assembly.fileName s name =
      s.rootNamespace.elim "" (· ++ "_") ++ name ++ "." ++ s.fileExtension := by
  rw [Assembly.fileName, h]
  cases s.rootNamespace <;> rfl

/-- **The block of a file holds the declaration with all its remarks or with none of them.** -/
theorem block_ofDeclaration (name : String) (d : Declaration) :
    Assembly.block s (.ofDeclaration name d.bare d.remarks) =
      ⟨.declaration (if s.preserveAnnotations then d else d.bare), none⟩ := by
  have hback := foldr_remarks d
  unfold Assembly.block FileUnit.annotatedItem FileUnit.ofDeclaration
  dsimp only
  rw [hback]
  cases s.preserveAnnotations with
  | false => rfl
  | true =>
    cases hremarks : d.remarks with
    | nil =>
      -- Without remarks nothing is put back, so there the declaration is bare already.
      rw [hremarks, List.foldr_nil] at hback
      simp [hback]
    | cons w rest => simp

theorem unitFile_ofDeclaration (h : Assembly.namespace? s = s.rootNamespace) (key : String)
    (d : Declaration) :
    Assembly.unitFile s (Assembly.header s) (.ofDeclaration (Name.forType key) d.bare d.remarks) =
      declarationFile s key d := by
  rw [Assembly.unitFile, block_ofDeclaration, fileName_eq h, FileUnit.ofDeclaration,
    Assembly.header, Assembly.topComment, Assembly.builtinImports, declarationFile]

/-- The files are named after the units, behind that of the namespace. -/
theorem map_name_filesOf (s : Settings) (ds : List Declaration) :
    (filesOf s ds).map (·.name) = (Assembly.anchorFile? s).toList.map (·.name) ++
      ((ds.flatMap (fileUnits [])).map (·.name)).map (Assembly.fileName s) := by
  rw [filesOf, Assembly.files, List.map_append, List.map_map, List.map_map]
  rfl

/-- **One unit per declaration that is data**, in document order, named for the type of its key. -/
theorem units_of_declarations {keys : List String} {schemas : List (String × Schema)}
    {ds : List Declaration}
    (hds : List.Forall₂ (fun e d => Derivation.declaration keys e.1 e.2 = .ok d) schemas ds) :
    ds.flatMap (fileUnits []) = ((schemas.zip ds).filter fun e => e.2.bare.isData).map
      fun e => .ofDeclaration (Name.forType e.1.1) e.2.bare e.2.remarks := by
  induction hds with
  | nil => rfl
  | @cons e d schemas ds hd _ ih =>
    have hbody := Derivation.becomes_of_declaration hd
    rw [List.flatMap_cons, ih, fileUnits_of_isPlain (Derivation.isPlain_of_declaration hd),
      hbody.name_eq, Option.getD_some, hbody.hasFile_eq_isData, List.zip_cons_cons,
      List.filter_cons]
    split
    · rw [List.map_cons, List.singleton_append]
    · rw [List.nil_append]

/-- **One file per declaration that is data**, in document order, behind that of the namespace. -/
theorem filesOf_eq (h : Assembly.namespace? s = s.rootNamespace) {keys : List String}
    {schemas : List (String × Schema)} {ds : List Declaration}
    (hds : List.Forall₂ (fun e d => Derivation.declaration keys e.1 e.2 = .ok d) schemas ds) :
    filesOf s ds = s.rootNamespace.toList.map (namespaceFile s) ++
      ((schemas.zip ds).filter fun e => e.2.bare.isData).map
        fun e => declarationFile s e.1.1 e.2 := by
  rw [filesOf, Assembly.files, anchorFile?_toList h, units_of_declarations hds, List.map_map]
  congr 1
  exact List.map_congr_left fun e _ => unitFile_ofDeclaration h e.1.1 e.2

end Plan

/-- **The whole way from the schemas of a document to its files.**  Whatever was planned before, the
files are that of the namespace, if there is one, and then one for each declaration that is data. -/
theorem plan_files (p : Planner) {v : Value} (hs : Settings.read v = .ok p.settings)
    (schemas : List (String × Schema)) (j : Journal) {b : Block}
    (h : ((p.deriver.derive schemas).run j).1.1 = .ok b) :
    ∃ ds, List.Forall₂
        (fun e d => Derivation.declaration (schemas.map (·.1)) e.1 e.2 = .ok d) schemas ds ∧
      ((p.plan schemas).run j).1.1 = .ok
        (p.settings.rootNamespace.toList.map (Plan.namespaceFile p.settings) ++
          ((schemas.zip ds).filter fun e => e.2.bare.isData).map
            fun e => Plan.declarationFile p.settings e.1.1 e.2) := by
  obtain ⟨ds, hds, -⟩ := Deriver.exists_declarations_of_derive h
  refine ⟨ds, hds, ?_⟩
  have hok : Derivation.declarations schemas = .ok ds := mapM_eq_ok_iff.2 hds
  rw [(p.gives_plan schemas).result, hok,
    ← Plan.filesOf_eq (Settings.namespace?_of_read hs) hds]
  rfl

/-- A deprecated object in a namespace: two files, and the deprecation stays. -/
theorem deprecated_object_planned :
    ∃ v, Settings.read v = .ok ⟨some "Api", [], "py", true⟩ ∧
      (((Planner.fresh ⟨some "Api", [], "py", true⟩).plan
        [("Pet", { Schema.empty with types := ["object"], deprecated := true })]).run
          .uncollected).1.1 = .ok
        [Plan.namespaceFile ⟨some "Api", [], "py", true⟩ "Api",
          Plan.declarationFile ⟨some "Api", [], "py", true⟩ "Pet"
            (.annotated (.deprecation none none)
              (.struct (Name.forType "Pet") [] ["BaseModel"] defaultAccess))] := by
  have hread : Settings.read (.mapping [(.text "namespace", .text "Api"),
      (.text "preserve_annotations", .bool true)]) = .ok ⟨some "Api", [], "py", true⟩ := rfl
  have hderive : ((Deriver.fresh.derive
      [("Pet", { Schema.empty with types := ["object"], deprecated := true })]).run
        .uncollected).1.1 = .ok (Deriver.componentsBlock [.annotated (.deprecation none none)
          (.struct (Name.forType "Pet") [] ["BaseModel"] defaultAccess)]) := rfl
  obtain ⟨ds, hds, hfiles⟩ :=
    plan_files (.fresh ⟨some "Api", [], "py", true⟩) hread _ .uncollected hderive
  obtain ⟨d, rest, hd, hrest, rfl⟩ := List.forall₂_cons_left_iff.1 hds
  obtain rfl := List.forall₂_nil_left_iff.1 hrest
  obtain rfl : .annotated (.deprecation none none)
      (.struct (Name.forType "Pet") [] ["BaseModel"] defaultAccess) = d := Except.ok.inj hd
  exact ⟨_, hread, hfiles⟩

end TypeFiles
