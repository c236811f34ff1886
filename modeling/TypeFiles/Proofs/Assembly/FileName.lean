/-
# Reading a file name back

The name of the file of a unit is put together from the root namespace, if there is one, the name of
the type and the extension:

    Namespace_Type.ext        Type.ext

Nothing in it is escaped.  It can be read back all the same, because of what its parts cannot hold:

| part | holds | so it ends at |
| --- | --- | --- |
| namespace | the characters of an identifier | the last underscore, or the last but one |
| type | letters and digits, an underscore in front of a digit only | the first dot |
| extension | anything | the end |

A namespace may hold underscores too.  Which of the two it ends at shows behind the last one: a
capital belongs to a type without an underscore, a digit to one that has the underscore in front
(`front_inj`).
-/

import TypeFiles.Proofs.Name.Type
import TypeFiles.Proofs.Settings.Reading
import TypeFiles.Proofs.Text.Cut

namespace TypeFiles

namespace Text

theorem not_isDigit_of_isUpper {c : Char} (h : c.isUpper = true) : ¬ c.isDigit = true := by
  rw [not_isDigit_of_isAlpha (isAlpha_of_isUpper h)]
  exact Bool.false_ne_true

/-- An identifier holds no character that neither starts nor continues one. -/
theorem not_mem_of_isIdentifier {name : String} {c : Char} (h : isIdentifier name = true)
    (hstart : inRanges identifierStart c = false)
    (hcontinue : inRanges identifierContinue c = false) : c ∉ name.toList := by
  intro hmem
  unfold isIdentifier at h
  split at h
  · rename_i hnil
    rw [hnil] at hmem
    cases hmem
  · rename_i d rest hcons
    rw [Bool.and_eq_true, List.all_eq_true] at h
    rw [hcons] at hmem
    rcases List.mem_cons.1 hmem with rfl | hmem
    · rw [h.1] at hstart
      cases hstart
    · rw [h.2 c hmem] at hcontinue
      cases hcontinue

end Text

namespace Name

/-- Behind its first character, the name of a type holds letters and digits only. -/
theorem IsTypeName.isAlphanum_of_mem_tail {c d : Char} {rest : List Char}
    (h : IsTypeName (c :: rest)) (hd : d ∈ rest) : d.isAlphanum = true := by
  cases h with
  | capital hc hrest => exact hrest d hd
  | @digit e rest hc hrest =>
    rcases List.mem_cons.1 hd with rfl | hd
    · exact Text.isAlphanum_of_isDigit hc
    · exact hrest d hd

/-- Without an underscore in front of it, the name of a type is a word, and its first character says
whether there is one. -/
theorem IsTypeName.exists_word {name : List Char} (h : IsTypeName name) :
    ∃ c rest, '_' ∉ c :: rest ∧ (name = c :: rest ∧ c.isUpper = true ∨
      name = '_' :: c :: rest ∧ c.isDigit = true) := by
  have hnot : ∀ {c : Char} {rest : List Char}, c.isAlphanum = true →
      (∀ d ∈ rest, d.isAlphanum = true) → '_' ∉ c :: rest := by
    intro c rest hc hrest hmem
    rcases List.mem_cons.1 hmem with rfl | hmem
    · revert hc
      decide
    · have := hrest _ hmem
      revert this
      decide
  cases h with
  | @capital c rest hc hrest =>
    exact ⟨c, rest, hnot (Text.isAlphanum_of_isUpper hc) hrest, .inl ⟨rfl, hc⟩⟩
  | @digit c rest hc hrest =>
    exact ⟨c, rest, hnot (Text.isAlphanum_of_isDigit hc) hrest, .inr ⟨rfl, hc⟩⟩

/-- The name of a type holds letters, digits and underscores only. -/
theorem IsTypeName.not_mem {name : List Char} {c : Char} (h : IsTypeName name)
    (hc : c.isAlphanum = false) (hne : c ≠ '_') : c ∉ name := by
  obtain ⟨first, rest, rfl, hfirst⟩ := h.head
  intro hmem
  rcases List.mem_cons.1 hmem with rfl | hmem
  · rcases hfirst with hupper | rfl
    · rw [Text.isAlphanum_of_isUpper hupper] at hc
      cases hc
    · exact hne rfl
  · rw [h.isAlphanum_of_mem_tail hmem] at hc
    cases hc

end Name

namespace Assembly

open Name

/-- What stands in front of the dot in the name of the file of a type. -/
def front (root : Option String) (type : List Char) : List Char :=
  match root with
  | some name => name.toList ++ '_' :: type
  | none => type

theorem toList_fileName {s : Settings} (h : namespace? s = s.rootNamespace) (type : String) :
    (fileName s type).toList =
      front s.rootNamespace type.toList ++ '.' :: s.fileExtension.toList := by
  unfold fileName front
  rw [h]
  cases s.rootNamespace <;> simp

/-- A text in front of an underscore and a type: both can be read back. -/
theorem append_underscore_inj {a b x y : List Char} (hx : IsTypeName x) (hy : IsTypeName y)
    (h : a ++ '_' :: x = b ++ '_' :: y) : a = b ∧ x = y := by
  obtain ⟨c, rest, hrest, hc⟩ := hx.exists_word
  obtain ⟨d, other, hother, hd⟩ := hy.exists_word
  -- Behind the last underscore stands the word, and its first character says which form it is of.
  rcases hc with ⟨rfl, hupper⟩ | ⟨rfl, hdigit⟩ <;> rcases hd with ⟨rfl, hupper'⟩ | ⟨rfl, hdigit'⟩
  · exact Text.append_cons_inj_of_last hrest hother h
  · rw [List.append_cons b] at h
    obtain ⟨-, hword⟩ := Text.append_cons_inj_of_last hrest hother h
    obtain ⟨rfl, -⟩ := List.cons.inj hword
    exact absurd hdigit' (Text.not_isDigit_of_isUpper hupper)
  · rw [List.append_cons a] at h
    obtain ⟨-, hword⟩ := Text.append_cons_inj_of_last hrest hother h
    obtain ⟨rfl, -⟩ := List.cons.inj hword
    exact absurd hdigit (Text.not_isDigit_of_isUpper hupper')
  · rw [List.append_cons a, List.append_cons b] at h
    obtain ⟨hfront, hword⟩ := Text.append_cons_inj_of_last hrest hother h
    exact ⟨List.append_cancel_right hfront, congrArg ('_' :: ·) hword⟩

/-- No type has the name of a type in a namespace. -/
theorem ne_append_underscore {a x y : List Char} (ha : a ≠ []) (hx : IsTypeName x) :
    x ≠ a ++ '_' :: y := by
  rintro rfl
  obtain ⟨c, rest, hrest, ⟨hword, -⟩ | ⟨hword, -⟩⟩ := hx.exists_word
  · rw [← hword] at hrest
    exact hrest (List.mem_append_right _ List.mem_cons_self)
  · -- The first underscore of the type would be that of the namespace, which is not empty.
    obtain ⟨d, name, rfl⟩ := List.exists_cons_of_ne_nil ha
    obtain ⟨-, hname⟩ := List.cons.inj hword
    rw [← hname] at hrest
    exact hrest (List.mem_append_right _ List.mem_cons_self)

/-- **The namespace and the type can be read back** from what stands in front of the dot. -/
theorem front_inj {root other : Option String} {x y : List Char} (hx : IsTypeName x)
    (hy : IsTypeName y) (hroot : root ≠ some "") (hother : other ≠ some "")
    (h : front root x = front other y) : root = other ∧ x = y := by
  have hne : ∀ {name : String}, some name ≠ some "" → name.toList ≠ [] := by
    intro name hname hnil
    exact hname (congrArg some (String.toList_inj.1 hnil))
  cases root with
  | none =>
    cases other with
    | none => exact ⟨rfl, h⟩
    | some name => exact absurd h (ne_append_underscore (hne hother) hx)
  | some name =>
    cases other with
    | none => exact absurd h.symm (ne_append_underscore (hne hroot) hy)
    | some name' =>
      obtain ⟨hname, htype⟩ := append_underscore_inj hx hy h
      exact ⟨congrArg some (String.toList_inj.1 hname), htype⟩

/-- What stands in front of the dot holds a character only if the namespace or the type does. -/
theorem not_mem_front {root : Option String} {x : List Char} {c : Char} (hc : c ≠ '_')
    (hx : c ∉ x) (hroot : ∀ name, root = some name → c ∉ name.toList) : c ∉ front root x := by
  cases root with
  | none => exact hx
  | some name =>
    intro hmem
    rcases List.mem_append.1 hmem with hmem | hmem
    · exact hroot name rfl hmem
    · exact hx ((List.mem_cons.1 hmem).resolve_left hc)

/-- With settings that can be read, what stands in front of the dot holds neither a dot, nor what
separates directories, nor the character that ends a path. -/
theorem not_mem_front_of_read {v : Value} {s : Settings} (hs : Settings.read v = .ok s)
    (key : String) {c : Char} (hc : c ∈ ['.', '/', '\\', '\x00']) :
    c ∉ front s.rootNamespace (forType key).toList := by
  have hplain : (['.', '/', '\\', '\x00'].all fun c => decide (c ≠ '_' ∧ c.isAlphanum = false ∧
      Text.inRanges Text.identifierStart c = false ∧
      Text.inRanges Text.identifierContinue c = false)) = true := by decide +kernel
  obtain ⟨hne, halnum, hstart, hcontinue⟩ := of_decide_eq_true (List.all_eq_true.1 hplain c hc)
  exact not_mem_front hne ((isTypeName_forType key).not_mem halnum hne) fun name hname =>
    Text.not_mem_of_isIdentifier (Settings.isIdentifier_of_read hs hname) hstart hcontinue

theorem front_ne_nil (root : Option String) (key : String) :
    front root (forType key).toList ≠ [] := by
  cases root with
  | none => exact fun h => forType_ne_empty key (String.toList_inj.1 h)
  | some name => simp [front]

end Assembly

open Assembly

/-- **The names of files can be read back, and are names of files only.**  With settings that can be
read, the files of two types have one name exactly if the namespaces, the names of the types and the
extensions are the same.  Whatever text the key is, the part in front of the first dot is not empty
and leads to no other directory. -/
theorem fileName_read_back {v w : Value} {s t : Settings} (hs : Settings.read v = .ok s)
    (ht : Settings.read w = .ok t) (key other : String) :
    (fileName s (Name.forType key) = fileName t (Name.forType other) ↔
      s.rootNamespace = t.rootNamespace ∧ Name.forType key = Name.forType other ∧
        s.fileExtension = t.fileExtension) ∧
    ∃ front, (fileName s (Name.forType key)).toList = front ++ '.' :: s.fileExtension.toList ∧
      '.' ∉ front ∧ front ≠ [] ∧ '/' ∉ front ∧ '\\' ∉ front ∧ '\x00' ∉ front := by
  have hname := toList_fileName (Settings.namespace?_of_read hs) (Name.forType key)
  have hname' := toList_fileName (Settings.namespace?_of_read ht) (Name.forType other)
  refine ⟨⟨fun h => ?_, ?_⟩, _, hname, not_mem_front_of_read hs key (by simp), front_ne_nil _ key,
    not_mem_front_of_read hs key (by simp), not_mem_front_of_read hs key (by simp),
    not_mem_front_of_read hs key (by simp)⟩
  · rw [h, hname'] at hname
    obtain ⟨hfront, hextension⟩ := Text.append_cons_inj (not_mem_front_of_read ht other (by simp))
      (not_mem_front_of_read hs key (by simp)) hname
    obtain ⟨hroot, htype⟩ := front_inj (Name.isTypeName_forType other) (Name.isTypeName_forType key)
      (Settings.rootNamespace_ne_empty ht) (Settings.rootNamespace_ne_empty hs) hfront
    exact ⟨hroot.symm, (String.toList_inj.1 htype).symm, (String.toList_inj.1 hextension).symm⟩
  · rintro ⟨hroot, htype, hextension⟩
    rw [← String.toList_inj, hname, hname', hroot, htype, hextension]

/-- A namespace that ends in an underscore is told from one in front of a type that starts with
one, and a key that looks like a path stays in its directory. -/
theorem underscored_namespaces_told_apart :
    ∃ v w, Settings.read v = .ok ⟨some "Api", [], "py", false⟩ ∧
      Settings.read w = .ok ⟨some "Api_", [], "py", false⟩ ∧
      fileName ⟨some "Api", [], "py", false⟩ (Name.forType "3d") ≠
        fileName ⟨some "Api_", [], "py", false⟩ (Name.forType "../3d") ∧
      ∃ front, (fileName ⟨some "Api_", [], "py", false⟩ (Name.forType "../3d")).toList =
          front ++ '.' :: "py".toList ∧ '/' ∉ front := by
  have hs : Settings.read (.mapping [(.text "namespace", .text "Api")]) =
      .ok ⟨some "Api", [], "py", false⟩ := rfl
  have ht : Settings.read (.mapping [(.text "namespace", .text "Api_")]) =
      .ok ⟨some "Api_", [], "py", false⟩ := rfl
  refine ⟨_, _, hs, ht, fun h => ?_, ?_⟩
  · obtain ⟨hroot, -⟩ := (fileName_read_back hs ht "3d" "../3d").1.1 h
    revert hroot
    decide
  · obtain ⟨front, hname, -, -, hstroke, -⟩ := (fileName_read_back ht hs "../3d" "3d").2
    exact ⟨front, hname, hstroke⟩

end TypeFiles
