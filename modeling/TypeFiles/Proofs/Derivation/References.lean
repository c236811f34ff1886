/-
# References point at declared types

Deriving a document writes down the type of a place in two steps that know nothing of each other:
the name of a declaration is made when its schema comes up, and the name that refers to it when the
reference does, which may be before, after or inside of it.  The places whose type is written are
the *sites* of a schema:

| declaration | sites | written as |
| --- | --- | --- |
| alias | the schema itself | the type behind the alias |
| union | its alternatives | the payload of a case |
| struct | the schemas of its properties | the type of a variable |

`typeTexts_of_declaration` says that each site has its text in the declaration, in the same order,
and `references_declared` that a text which comes of a reference is the name of a declaration of the
same document.
-/

import TypeFiles.Proofs.Derivation.Body
import TypeFiles.Proofs.Derivation.TypeName

namespace TypeFiles

open Declaration

/-- A place of a document whose type is written down, and what failures call it. -/
structure Site where
  context : String
  schema : Schema

/-- The type that is written down for a place. -/
def Site.typeName (keys : List String) (site : Site) : Except Failure String :=
  Derivation.typeName keys site.context site.schema

/-- The places that the schema under a key writes down the types of. -/
def Schema.sites (key : String) (s : Schema) : List Site :=
  match s.shape with
  | .reference | .alias => [⟨key, s⟩]
  | .union alternatives => alternatives.map fun alternative => ⟨key, alternative⟩
  | .values _ => []
  | .object => s.properties.map fun property => ⟨key ++ "." ++ property.1, property.2⟩

/-- The types that are written down in a declaration: what an alias stands for, the types of
variables, the payloads of cases. -/
def Declaration.typeTexts : Declaration → List String
  | .typeAlias _ existingType => [existingType]
  | .struct _ members _ _ => members.filterMap fun
    | .stored v => v.typeName
    | _ => none
  | .enum _ members _ _ => (cases members).filterMap (·.associatedValue)
  | _ => []

namespace Derivation

variable {keys : List String} {key name : String} {s : Schema} {b d : Declaration}

theorem typeTexts_struct (fields : List Variable) (conformances : List String)
    (access : Option String) :
    (Declaration.struct name (fields.map .stored) conformances access).typeTexts =
      fields.filterMap (·.typeName) := by
  rw [typeTexts, List.filterMap_map]
  rfl

theorem typeTexts_enum (cases : List EnumCase) (conformances : List String)
    (access : Option String) :
    (Declaration.enum name (cases.map .case) conformances access).typeTexts =
      cases.filterMap (·.associatedValue) := by
  rw [typeTexts, cases_map_case]

/-- If each step writes down the type of its site, the steps write down those of their sites. -/
theorem forall₂_texts_of_steps {α β : Type} {f : α → Except Failure β} {text? : β → Option String}
    {site : α → Site}
    (hf : ∀ x y, f x = .ok y → ∃ text, text? y = some text ∧ (site x).typeName keys = .ok text)
    {l : List α} {found : List β} (h : List.Forall₂ (fun x y => f x = .ok y) l found) :
    List.Forall₂ (fun site text => site.typeName keys = .ok text) (l.map site)
      (found.filterMap text?) := by
  induction h with
  | nil => exact .nil
  | cons hxy _ ih =>
    obtain ⟨text, htext, hname⟩ := hf _ _ hxy
    rw [List.map_cons, List.filterMap_cons_some htext]
    exact .cons hname ih

/-- **A body writes down the types of the places of its schema**, in their order. -/
theorem typeTexts_of_body (h : body keys name key s = .ok b) :
    List.Forall₂ (fun site text => site.typeName keys = .ok text) (s.sites key) b.typeTexts := by
  rw [body_eq_ok_iff] at h
  unfold Schema.sites
  cases hs : s.shape with
  | union alternatives =>
    rw [hs] at h
    obtain ⟨cases, hcases, rfl⟩ := h
    have hsites := congrArg (List.map fun alternative => (⟨key, alternative⟩ : Site))
      (List.zipIdx_map_fst 0 alternatives)
    rw [List.map_map] at hsites
    dsimp only
    rw [typeTexts_enum, ← hsites]
    refine forall₂_texts_of_steps (fun alternative case hcase => ?_) hcases
    rw [alternativeCase_eq] at hcase
    obtain ⟨payload, hpayload, rfl⟩ := map_eq_ok_iff.1 hcase
    exact ⟨payload, rfl, hpayload⟩
  | values vs =>
    rw [hs] at h
    obtain ⟨-, rfl⟩ := h
    have hnone : (vs.filterMap valueCase?).filterMap (·.associatedValue) = [] := by
      refine List.filterMap_eq_nil_iff.2 fun c hc => ?_
      obtain ⟨v, -, hv⟩ := List.mem_filterMap.1 hc
      cases v with
      | null => cases hv
      | _ =>
        obtain rfl := Option.some.inj hv
        rfl
    rw [typeTexts_enum, hnone]
    exact .nil
  | object =>
    rw [hs] at h
    obtain ⟨fields, hfields, rfl⟩ := h
    rw [typeTexts_struct]
    refine forall₂_texts_of_steps (fun property field hfield => ?_) hfields
    rw [variableOf_eq] at hfield
    obtain ⟨member, -, hfield⟩ := bind_eq_ok_iff.1 hfield
    obtain ⟨type, htype, rfl⟩ := map_eq_ok_iff.1 hfield
    exact ⟨type, rfl, htype⟩
  | _ =>
    rw [hs] at h
    obtain ⟨existingType, htype, rfl⟩ := h
    exact .cons htype .nil

/-- Remarks write down no types. -/
theorem typeTexts_of_declaration (h : declaration keys key s = .ok d) :
    List.Forall₂ (fun site text => site.typeName keys = .ok text) (s.sites key)
      d.bare.typeTexts := by
  obtain ⟨b, hb, rfl⟩ := declaration_eq_ok_iff.1 h
  rw [bare_remarked, (becomes_of_body hb).bare_eq]
  exact typeTexts_of_body hb

/-- A type that comes of a reference is the name of the type of a key, with lists around it. -/
theorem exists_key_of_leaf {context text ref : String} {n : Nat}
    (hleaf : s.leaf? = some (n, .pointer ref)) (h : typeName keys context s = .ok text) :
    ∃ target ∈ keys, ref = localFront ++ target ∧ text = listed n (Name.forType target) := by
  rw [typeName_of_leaf hleaf] at h
  obtain ⟨found, hfound, rfl⟩ := map_eq_ok_iff.1 h
  obtain ⟨target, hmem, href, rfl⟩ := resolve_eq_ok_iff.1 hfound
  exact ⟨target, hmem, href, rfl⟩

end Derivation

open TypeFiles.Derivation

/-- A document declares the type of a key: at the position of the key among the schemas stands,
under its remarks, a declaration with the name of that type. -/
def Declares (schemas : List (String × Schema)) (ds : List Declaration) (key : String) : Prop :=
  ∃ (i : Nat) (s : Schema) (d : Declaration), schemas[i]? = some (key, s) ∧ ds[i]? = some d ∧
    d.bare.name? = some (Name.forType key)

theorem declares_of_mem {keys : List String} {schemas : List (String × Schema)}
    {ds : List Declaration}
    (h : List.Forall₂ (fun e d => declaration keys e.1 e.2 = .ok d) schemas ds) {key : String}
    (hkey : key ∈ schemas.map (·.1)) : Declares schemas ds key := by
  obtain ⟨⟨_, s⟩, hmem, rfl⟩ := List.mem_map.1 hkey
  obtain ⟨i, hlt, hi⟩ := List.mem_iff_getElem.1 hmem
  have hlt' : i < ds.length := by
    rw [← h.length_eq]
    exact hlt
  have hd : declaration keys schemas[i].1 schemas[i].2 = .ok ds[i] := h.get hlt hlt'
  rw [hi] at hd
  refine ⟨i, s, ds[i], ?_, List.getElem?_eq_getElem hlt', (becomes_of_declaration hd).name_eq⟩
  rw [List.getElem?_eq_getElem hlt, hi]

/-- **Every reference that is written down points at a declared type.**  A document that is derived
has one declaration for each schema, and in it one text for each site of the schema.  If going down
the items of a site, through `n` arrays, ends in a reference, then the reference is to a key of the
document, the text is the name of the type of that key in `n` lists, and the document declares that
type.  The key may be that of the schema itself, or of any other one before or after it. -/
theorem references_declared (t : Deriver) (schemas : List (String × Schema)) (j : Journal)
    {b : Block} (h : ((t.derive schemas).run j).1.1 = .ok b) :
    ∃ ds, b = Deriver.componentsBlock ds ∧
      List.Forall₂ (fun e d =>
        List.Forall₂ (fun site text => ∀ n ref, site.schema.leaf? = some (n, .pointer ref) →
            ∃ key, ref = "#/components/schemas/" ++ key ∧
              text = String.join (List.replicate n "list[") ++ Name.forType key ++
                String.join (List.replicate n "]") ∧
              Declares schemas ds key)
          (e.2.sites e.1) d.bare.typeTexts)
        schemas ds := by
  obtain ⟨ds, hds, rfl⟩ := Deriver.exists_declarations_of_derive h
  refine ⟨ds, rfl, hds.imp fun e d hd => ?_⟩
  refine (typeTexts_of_declaration hd).imp fun site text htext n ref hleaf => ?_
  obtain ⟨key, hmem, href, hname⟩ := exists_key_of_leaf hleaf htext
  exact ⟨key, href, hname, declares_of_mem hds hmem⟩

/-- A tree refers to itself, and a list of lists of trees to the tree after it. -/
theorem forest_references_declared :
    let tree : Schema := { Schema.empty with
      properties := [("next", { Schema.empty with
        target := some (.pointer "#/components/schemas/tree") })] }
    let forest : Schema := { Schema.empty with
      types := ["array"]
      items := some { Schema.empty with
        types := ["null", "array"]
        items := some { Schema.empty with
          target := some (.pointer "#/components/schemas/tree") } } }
    ∃ ds, ((Deriver.fresh.derive [("forest", forest), ("tree", tree)]).run .collecting).1.1 =
        .ok (Deriver.componentsBlock ds) ∧
      ds.map (·.bare.typeTexts) =
        [["list[list[" ++ Name.forType "tree" ++ "]]"], [Name.forType "tree"]] ∧
      Declares [("forest", forest), ("tree", tree)] ds "tree" := by
  intro tree forest
  obtain ⟨b, h⟩ : ∃ b, ((Deriver.fresh.derive [("forest", forest), ("tree", tree)]).run
      .collecting).1.1 = .ok b := ⟨_, rfl⟩
  obtain ⟨ds, rfl, hall⟩ := references_declared _ _ _ h
  obtain ⟨first, rest, hforest, hrest, rfl⟩ := List.forall₂_cons_left_iff.1 hall
  obtain ⟨second, none, htree, hnone, rfl⟩ := List.forall₂_cons_left_iff.1 hrest
  obtain rfl := List.forall₂_nil_left_iff.1 hnone
  -- Each of the two schemas has one site, and so one text.
  have hone : ∀ {context : String} {s : Schema} {p : Site → String → Prop} {texts : List String},
      List.Forall₂ p [⟨context, s⟩] texts → ∃ text, texts = [text] ∧ p ⟨context, s⟩ text := by
    intro context s p texts h
    obtain ⟨text, others, htext, hothers, rfl⟩ := List.forall₂_cons_left_iff.1 h
    obtain rfl := List.forall₂_nil_left_iff.1 hothers
    exact ⟨text, rfl, htext⟩
  obtain ⟨text₁, hfirst, h₁⟩ := hone hforest
  obtain ⟨text₂, hsecond, h₂⟩ := hone htree
  have hkey : ∀ {key : String}, "#/components/schemas/tree" = "#/components/schemas/" ++ key →
      "tree" = key := fun {key} h =>
    localFront_append_inj (h : localFront ++ "tree" = localFront ++ key)
  obtain ⟨key₁, href₁, htext₁, -⟩ := h₁ 2 _ rfl
  obtain ⟨key₂, href₂, htext₂, hdeclares⟩ := h₂ 0 _ rfl
  obtain rfl := hkey href₁
  obtain rfl := hkey href₂
  refine ⟨_, h, ?_, hdeclares⟩
  rw [List.map_cons, List.map_cons, List.map_nil, hfirst, hsecond, htext₁, htext₂]
  simp [List.replicate_succ, String.append_assoc]

end TypeFiles
