/-
# One document in two versions

A document that is valid in both versions of the format is derived from two readings of it.  The
schemas stand under the same keys in both, and the readings differ at most where the versions choose
differently between a reference and a schema.

`outcomes_agree` says that the outcome is the same if the choices come to the same wherever they
differ, and that no declarations are the same otherwise.  They do differ: an alias of another schema
is no alias in version 3.1, and its reference is never looked up (`reference_under_key_unseen`).
-/

import TypeFiles.Proofs.OpenApi.Places

namespace TypeFiles
namespace OpenApi

open TypeFiles.Derivation

/-- The entries of an object with its version set. -/
def withVersion (entries : List (Value × Value)) (version : String) : List (Value × Value) :=
  Value.insertEntry entries (.text "openapi") (.text version)

/-- The reusable schemas of a document, as they are written. -/
def schemaTable (entries : List (Value × Value)) : List (Value × Value) :=
  ((objectUnder "components" entries).map (tableUnder "schemas")).getD []

/-- The places of a document that its declarations are derived from. -/
def IsPlaceOf (entries : List (Value × Value)) (p : Place) : Prop :=
  ∃ k key object, (k, .mapping object) ∈ schemaTable entries ∧ k.asText? = some key ∧
    Relation.ReflTransGen Place.LeadsTo ⟨.entry key, object⟩ p

theorem get?_cons (k v : Value) (rest : List (Value × Value)) (name : String) :
    (Value.mapping ((k, v) :: rest)).get? name =
      if Value.sameKey k (.text name) then some v else (Value.mapping rest).get? name := by
  unfold Value.get?
  cases k with
  | text key => by_cases h : key = name <;> simp [Value.sameKey, h]
  | _ => simp [Value.sameKey, Value.sameNumber, Value.whole?]

/-- An entry that is set is there. -/
theorem get?_insertEntry_self (entries : List (Value × Value)) (key : String) (v : Value) :
    (Value.mapping (Value.insertEntry entries (.text key) v)).get? key = some v := by
  unfold Value.insertEntry
  split
  · rename_i hany
    induction entries with
    | nil => cases hany
    | cons e rest ih =>
      obtain ⟨k, old⟩ := e
      rw [List.map_cons]
      dsimp only
      by_cases hkey : Value.sameKey k (.text key) = true
      · rw [if_pos hkey, get?_cons, if_pos hkey]
      · rw [if_neg hkey, get?_cons, if_neg hkey]
        rw [List.any_cons, Bool.or_eq_true] at hany
        exact ih (hany.resolve_left hkey)
  · rename_i hnone
    induction entries with
    | nil => rw [List.nil_append, get?_cons, if_pos (Value.sameKey_text_iff.2 rfl)]
    | cons e rest ih =>
      obtain ⟨k, old⟩ := e
      rw [List.any_cons, Bool.or_eq_true, not_or] at hnone
      rw [List.cons_append, get?_cons, if_neg hnone.1]
      exact ih hnone.2

/-- The other entries are as they were. -/
theorem get?_insertEntry_of_ne (entries : List (Value × Value)) {key name : String}
    (hne : key ≠ name) (v : Value) :
    (Value.mapping (Value.insertEntry entries (.text key) v)).get? name =
      (Value.mapping entries).get? name := by
  unfold Value.insertEntry
  split
  -- Whether the key was there is forgotten, so that the induction hypothesis does not ask for it.
  · clear * - hne
    induction entries with
    | nil => rfl
    | cons e rest ih =>
      obtain ⟨k, old⟩ := e
      rw [List.map_cons, get?_cons k old]
      dsimp only
      by_cases hkey : Value.sameKey k (.text key) = true
      · have hother : ¬ Value.sameKey k (.text name) = true := by
          rw [Value.sameKey_text_iff.1 hkey, Value.sameKey_text_iff, Value.text.injEq]
          exact hne
        rw [if_pos hkey, get?_cons, if_neg hother, if_neg hother]
        exact ih
      · rw [if_neg hkey, get?_cons, ih]
  · clear * - hne
    induction entries with
    | nil => simp [get?_cons, Value.sameKey_text_iff, hne]
    | cons e rest ih => rw [List.cons_append, get?_cons, get?_cons, ih]

/-- The schemas in the components of a document are read one by one, strictly in version 3.1. -/
theorem forall₂_of_readComponents {version : Version} {entries : List (Value × Value)}
    {schemas : List (String × Schema)}
    (h : readComponents version ((Value.mapping entries).get? "components") = some schemas) :
    List.Forall₂ (TakesNamed version (version == .v31)) (schemaTable entries) schemas := by
  unfold schemaTable objectUnder
  cases hcomponents : (Value.mapping entries).get? "components" with
  | none =>
    rw [hcomponents, readComponents, Option.some.injEq] at h
    subst h
    exact .nil
  | some v =>
    rw [hcomponents] at h
    cases v with
    | null =>
      rw [readComponents, Option.some.injEq] at h
      subst h
      exact .nil
    | mapping components =>
      rw [readComponents] at h
      obtain ⟨-, -, h⟩ := Option.bind_eq_some_iff.1 h
      simp only [Option.map_some, Option.getD_some, tableUnder]
      split at h
      · rename_i hnone
        rw [hnone]
        rw [← Option.some.inj h]
        exact .nil
      · rename_i hnull
        rw [hnull]
        rw [← Option.some.inj h]
        exact .nil
      · rename_i table htable
        rw [htable]
        obtain ⟨r, hr, h⟩ := Option.bind_eq_some_iff.1 h
        rw [← Option.some.inj h]
        exact forall₂_of_readTable hr
      · cases h
    | _ => cases h

/-- The schemas of a valid document are read one by one, strictly in version 3.1. -/
theorem forall₂_of_validate {source text : String} {version : Version}
    {entries : List (Value × Value)} {d : Document} (hversion : Version.ofText? text = some version)
    (hd : validate source (.mapping (withVersion entries text)) = .ok d) :
    List.Forall₂ (TakesNamed version (version == .v31)) (schemaTable entries) d.schemas := by
  have hread : read (.mapping (withVersion entries text)) = some d := by
    unfold validate at hd
    dsimp only at hd
    split at hd
    · rename_i hread
      rw [hread, Except.ok.inj hd]
    · cases hd
  have htext : (Value.mapping (withVersion entries text)).get? "openapi" = some (.text text) := by
    exact get?_insertEntry_self entries "openapi" _
  have hcomponents : (Value.mapping (withVersion entries text)).get? "components" =
      (Value.mapping entries).get? "components" := by
    exact get?_insertEntry_of_ne entries (by decide) _
  obtain ⟨v, hv, hread⟩ := Option.bind_eq_some_iff.1
    (hread : ((Value.mapping (withVersion entries text)).get? "openapi").bind _ = some d)
  obtain rfl := Option.some.inj (htext.symm.trans hv)
  obtain ⟨version', hversion', hread⟩ := Option.bind_eq_some_iff.1
    (hread : (Version.ofText? text).bind _ = some d)
  obtain rfl := Option.some.inj (hversion.symm.trans hversion')
  obtain ⟨-, -, hread⟩ := Option.bind_eq_some_iff.1 hread
  obtain ⟨info, -, hread⟩ := Option.bind_eq_some_iff.1 hread
  obtain ⟨⟨title, number⟩, -, hread⟩ := Option.bind_eq_some_iff.1 hread
  obtain ⟨schemas, hschemas, hread⟩ := Option.bind_eq_some_iff.1 hread
  rw [← Option.some.inj hread]
  rw [hcomponents] at hschemas
  exact forall₂_of_readComponents hschemas

/-- Every place of a document agrees, entry by entry. -/
theorem forall_isPlaceOf_iff {keys : List String} {entries : List (Value × Value)} :
    (∀ p, IsPlaceOf entries p → p.Differs → p.ComesToSame keys) ↔
      ∀ e ∈ schemaTable entries, ∀ key object, e.1.asText? = some key → e.2 = .mapping object →
        Place.Agrees keys ⟨.entry key, object⟩ := by
  constructor
  · rintro hall ⟨k, _⟩ hmem key object hkey rfl p hp
    exact hall p ⟨k, key, object, hmem, hkey, hp⟩
  · rintro hall p ⟨k, key, object, hmem, hkey, hp⟩
    exact hall (k, .mapping object) hmem key object hkey rfl p hp

/-- **The declarations of two readings of one table** are the same if all its entries agree. -/
theorem declarations_alike {table : List (Value × Value)} {older newer : List (String × Schema)}
    (hold : List.Forall₂ (TakesNamed .v30 false) table older)
    (hnew : List.Forall₂ (TakesNamed .v31 true) table newer) :
    SameIf (∀ e ∈ table, ∀ key object, e.1.asText? = some key → e.2 = .mapping object →
        Place.Agrees (older.map (·.1)) ⟨.entry key, object⟩)
      (declarations older) (declarations newer) := by
  have hkeys : newer.map (·.1) = older.map (·.1) := by
    rw [← List.forall₂_eq_eq_eq, List.forall₂_map_left_iff, List.forall₂_map_right_iff]
    refine (forall₂_through hnew hold).imp fun b a => ?_
    rintro ⟨e, -, hb, ha⟩
    exact Option.some.inj (hb.1.symm.trans ha.1)
  unfold declarations
  rw [hkeys]
  refine .mapM hold hnew ?_
  rintro ⟨k, _⟩ - ⟨key, a⟩ ⟨key', b⟩ ⟨hkey, object, rfl, ha⟩ ⟨hkey', object', heq, hb⟩
  obtain rfl := Value.mapping.inj heq
  obtain rfl : key = key' := Option.some.inj (hkey.symm.trans hkey')
  refine (Place.declaration_alike ha hb).congr ⟨fun hall => hall key object hkey rfl, ?_⟩
  rintro hone _ _ hother ⟨⟩
  obtain rfl := Option.some.inj (hkey.symm.trans hother)
  exact hone

theorem componentsBlock_injective : Function.Injective Deriver.componentsBlock := by
  intro ds ds' h
  simpa [Deriver.componentsBlock, Declaration.namespaceOf] using h

variable {source source' older newer : String} {entries : List (Value × Value)} {d d' : Document}

/-- **One document, valid in both versions of the format, has the same outcome in both if what the
versions choose differently comes to the same**, at every place that its declarations are derived
from; the failures are the same too, with their messages.  It has the same declarations in both
exactly if it has declarations in one of them and the choices come to the same. -/
theorem outcomes_agree (hold : Version.ofText? older = some .v30)
    (hnew : Version.ofText? newer = some .v31)
    (hd : validate source (.mapping (withVersion entries older)) = .ok d)
    (hd' : validate source' (.mapping (withVersion entries newer)) = .ok d') (t t' : Deriver)
    (j j' : Journal) :
    ((∀ p, IsPlaceOf entries p → p.Differs → p.ComesToSame (d.schemas.map (·.1))) →
        ((t.derive d.schemas).run j).1.1 = ((t'.derive d'.schemas).run j').1.1) ∧
      ((∃ block, ((t.derive d.schemas).run j).1.1 = .ok block ∧
          ((t'.derive d'.schemas).run j').1.1 = .ok block) ↔
        (∃ block, ((t.derive d.schemas).run j).1.1 = .ok block) ∧
          ∀ p, IsPlaceOf entries p → p.Differs → p.ComesToSame (d.schemas.map (·.1))) := by
  have hleft := forall₂_of_validate hold hd
  have hright := forall₂_of_validate hnew hd'
  have houtcome := (declarations_alike hleft hright).map componentsBlock_injective
  rw [(Deriver.gives_derive t d.schemas).result j, (Deriver.gives_derive t' d'.schemas).result j',
    forall_isPlaceOf_iff]
  refine ⟨houtcome.same, ?_⟩
  constructor
  · rintro ⟨block, hok, hok'⟩
    exact ⟨⟨block, hok⟩, houtcome.back block hok hok'⟩
  · rintro ⟨⟨block, hok⟩, hall⟩
    exact ⟨block, hok, (houtcome.same hall).symm.trans hok⟩

/-- An alias written with `ref` is taken for a reference in version 3.0 and for a schema in version
3.1, and comes to the same alias. -/
theorem plain_reference_agrees :
    let cat : List (Value × Value) := [(.text "ref", .text "#/components/schemas/Dog")]
    let dog : List (Value × Value) := [(.text "type", .text "object")]
    let pets : List (Value × Value) := [
      (.text "info", .ofFields [("title", .text "Pets"), ("version", .text "1")]),
      (.text "paths", .mapping []),
      (.text "components", .ofFields [
        ("schemas", .ofFields [("Cat", .mapping cat), ("Dog", .mapping dog)])])]
    Version.ofText? "3.0.3" = some .v30 ∧ Version.ofText? "3.1.0" = some .v31 ∧
      Place.Differs ⟨.entry "Cat", cat⟩ ∧
      ∃ older newer, validate "pets.json" (.mapping (withVersion pets "3.0.3")) = .ok older ∧
        validate "pets.json" (.mapping (withVersion pets "3.1.0")) = .ok newer ∧
        ∀ (t : Deriver) (j : Journal),
          ((t.derive older.schemas).run j).1.1 = ((t.derive newer.schemas).run j).1.1 := by
  intro cat dog pets
  let toDog : Schema := { Schema.empty with
    target := some (.pointer "#/components/schemas/Dog") }
  let object : Schema := { Schema.empty with types := ["object"] }
  have hold : validate "pets.json" (.mapping (withVersion pets "3.0.3")) =
      .ok ⟨"3.0.3", "Pets", "1", [("Cat", toDog), ("Dog", object)]⟩ := rfl
  have hnew : validate "pets.json" (.mapping (withVersion pets "3.1.0")) =
      .ok ⟨"3.1.0", "Pets", "1", [("Cat", toDog), ("Dog", object)]⟩ := rfl
  have hdiffers : Place.Differs ⟨.entry "Cat", cat⟩ := Place.differs_entry_iff.2 rfl
  have hcat : Place.Agrees ["Cat", "Dog"] ⟨.entry "Cat", cat⟩ := by
    rw [Place.agrees_iff_of_differs hdiffers,
      Place.comesToSame_iff (s := toDog) (t := toDog) rfl rfl]
    rfl
  have hdog : Place.Agrees ["Cat", "Dog"] ⟨.entry "Dog", dog⟩ := by
    have hread : Place.schema? .v30 ⟨.entry "Dog", dog⟩ = some object := rfl
    have hsame : ¬ Place.Differs ⟨.entry "Dog", dog⟩ := by
      rw [Place.differs_entry_iff]
      decide
    rw [Place.agrees_iff_of_not_differs hsame]
    intro next hnext
    rcases Place.next_of_leadsTo hread hnext with ⟨hunion, -⟩ | ⟨-, k, o, name, hmem, -⟩ | halias
    · cases hunion
    · cases hmem
    · cases halias
  refine ⟨rfl, rfl, hdiffers, _, _, hold, hnew, fun t j => ?_⟩
  refine (outcomes_agree rfl rfl hold hnew t t j j).1 (forall_isPlaceOf_iff.2 ?_)
  intro e he key o hkey ho
  have htable : schemaTable pets = [(.text "Cat", .mapping cat), (.text "Dog", .mapping dog)] := rfl
  rw [htable, List.mem_cons, List.mem_singleton] at he
  rcases he with rfl | rfl
  · obtain rfl := Option.some.inj hkey
    obtain rfl := Value.mapping.inj ho
    exact hcat
  · obtain rfl := Option.some.inj hkey
    obtain rfl := Value.mapping.inj ho
    exact hdog

/-- An alias of a schema that is not there: version 3.0 says so, and in version 3.1 the alias is one
of anything. -/
theorem reference_under_key_unseen :
    let cat : Value := .ofFields [("$ref", .text "#/components/schemas/Dog")]
    let pets : List (Value × Value) := [
      (.text "info", .ofFields [("title", .text "Pets"), ("version", .text "1")]),
      (.text "paths", .mapping []),
      (.text "components", .ofFields [("schemas", .ofFields [("Cat", cat)])])]
    ∃ older newer, validate "pets.json" (.mapping (withVersion pets "3.0.3")) = .ok older ∧
      validate "pets.json" (.mapping (withVersion pets "3.1.0")) = .ok newer ∧
      ∀ (t : Deriver) (j : Journal),
        ((t.derive older.schemas).run j).1.1 = .error (missingSchema "Dog" "Cat") ∧
        ((t.derive newer.schemas).run j).1.1 =
          .ok (Deriver.componentsBlock [.typeAlias "Cat" "Any"]) := by
  intro cat pets
  refine ⟨⟨"3.0.3", "Pets", "1", [("Cat", { Schema.empty with
      target := some (.pointer "#/components/schemas/Dog") })]⟩,
    ⟨"3.1.0", "Pets", "1", [("Cat", Schema.empty)]⟩, rfl, rfl, fun t j => ?_⟩
  rw [(Deriver.gives_derive t _).result j, (Deriver.gives_derive t _).result j]
  exact ⟨rfl, rfl⟩

end OpenApi
end TypeFiles
