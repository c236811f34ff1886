/-
# Files that are not read as they should be

A file has a value, or it has none for a reason that is looked out for: it is not there, it is a
directory, its text breaks the rules of its format.  There are three other ways to end.

| at the path | accident |
| --- | --- |
| a name that is too long to be looked up | `nameTooLong` |
| bytes that are not UTF-8 | `undecodableFile` |
| a text that the format allows, and that has no value | the reader's own |

`MisreadAt` says which of them it is, and `valueAt_eq_accident_iff` that there are no more.
-/

import TypeFiles.Format
import TypeFiles.Proofs.Success

namespace TypeFiles

namespace Surroundings

variable {s : Surroundings} {f : Format} {p : Path} {a : Accident} {v : Value} {text : String}

/-- There is a file at a path, and it has a text, with line feeds as its line ends. -/
def HasText (s : Surroundings) (p : Path) (text : String) : Prop :=
  ∃ bytes decoded, s.find p = .file bytes ∧ Text.decodeUtf8? bytes = some decoded ∧
    text = String.ofList (Text.unifyLineEnds decoded.toList)

/-- The ways in which what is at a path is not read, and nothing on the way looks out for it. -/
inductive MisreadAt (s : Surroundings) (f : Format) (p : Path) : Accident → Prop
  | nameTooLong (found : s.find p = .nameTooLong) : MisreadAt s f p .nameTooLong
  | undecodable (bytes : List UInt8) (found : s.find p = .file bytes)
      (broken : Text.decodeUtf8? bytes = none) : MisreadAt s f p .undecodableFile
  | unread (text : String) (a : Accident) (found : s.HasText p text)
      (read : f.read s.yaml text = .error (.accident a)) : MisreadAt s f p a

theorem textAt_eq_ok_iff : s.textAt p = .ok text ↔ s.HasText p text := by
  unfold textAt HasText
  cases hfind : s.find p with
  | file bytes =>
    cases hdecode : Text.decodeUtf8? bytes with
    | none => simp [hdecode]
    | some decoded => simp [hdecode, eq_comm]
  | _ => simp

theorem textAt_eq_accident_iff : s.textAt p = .error (.accident a) ↔
    (s.find p = .nameTooLong ∧ a = .nameTooLong) ∨
      ∃ bytes, s.find p = .file bytes ∧ Text.decodeUtf8? bytes = none ∧ a = .undecodableFile := by
  unfold textAt
  cases hfind : s.find p with
  | file bytes =>
    cases hdecode : Text.decodeUtf8? bytes with
    | none => simp [hdecode, eq_comm]
    | some decoded => simp [hdecode]
  | _ => simp [eq_comm]

/-- A file has a value exactly if its text is read as one. -/
theorem valueAt_eq_ok_iff :
    s.valueAt f p = .ok v ↔ ∃ text, s.HasText p text ∧ f.read s.yaml text = .ok v := by
  unfold valueAt
  rw [bind_eq_ok_iff]
  refine exists_congr fun text => ?_
  rw [textAt_eq_ok_iff]
  refine and_congr_right fun _ => ?_
  cases hread : f.read s.yaml text with
  | ok _ => simp
  | error fault => cases fault <;> simp

/-- **What is at a path ends in an accident exactly if it is misread.** -/
theorem valueAt_eq_accident_iff : s.valueAt f p = .error (.accident a) ↔ s.MisreadAt f p a := by
  unfold valueAt
  rw [bind_eq_error_iff, textAt_eq_accident_iff]
  constructor
  · rintro ((⟨hfind, rfl⟩ | ⟨bytes, hfind, hbroken, rfl⟩) | ⟨text, htext, h⟩)
    · exact .nameTooLong hfind
    · exact .undecodable bytes hfind hbroken
    · cases hread : f.read s.yaml text with
      | ok _ => simp [hread] at h
      | error fault =>
        cases fault with
        | malformed => simp [hread] at h
        | accident b =>
          obtain rfl : b = a := by simpa [hread] using h
          exact .unread text b (textAt_eq_ok_iff.1 htext) hread
  · rintro (hfind | ⟨bytes, hfind, hbroken⟩ | ⟨text, _, htext, h⟩)
    · exact .inl (.inl ⟨hfind, rfl⟩)
    · exact .inl (.inr ⟨bytes, hfind, hbroken, rfl⟩)
    · exact .inr ⟨text, textAt_eq_ok_iff.2 htext, by rw [h]⟩

end Surroundings
end TypeFiles
