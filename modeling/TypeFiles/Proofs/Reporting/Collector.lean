/-
# What a collector changes

A run reports to a collector if there is one.  Without one, splitting and assembling write log lines
of their own instead.

| report | with a collector | without |
| --- | --- | --- |
| a node that is left out | a note, its text is logged | `Dropped` and its kind |
| files that share a name | a warning, its text is logged | its message |

Nothing else depends on it: the units and the files are the same, and so are all other lines of the
log, in the same order (`collector_only_observes`).  `DropsAlike` is what holds of the two logs of a
splitting.  It holds of one report and is kept where steps follow on each other, so it holds of the
reports on all nodes that a splitting comes to.
-/

import TypeFiles.Proofs.Assembly.Collision
import TypeFiles.Proofs.Plan.Sequence

namespace TypeFiles

open Declaration Reporting Splitting

/-- The line of the log on a diagnostic that is collected. -/
def Diagnostic.line (d : Diagnostic) : LogLine where
  level := match d.severity with
    | .note => .debug
    | .warning => .warning
  channel := .diagnostics
  message := d.text

/-- The line of the log on a warning that is not collected. -/
def Diagnostic.uncollectedLine (d : Diagnostic) : LogLine := ⟨.warning, .assembly, d.message⟩

namespace LogLine

/-- Whether a line is that of a diagnostic. -/
def isOfCollector (l : LogLine) : Bool := l.channel == .diagnostics

/-- Whether splitting says in a line that a node is left out. -/
def isDrop (l : LogLine) : Bool :=
  l.channel == .splitting && "Dropped ".toList.isPrefixOf l.message.toList

end LogLine

namespace Splitting

/-- The second word of a message, which is the kind of a node that is left out. -/
def secondWord (message : String) : List Char :=
  (message.toList.drop "Dropped ".length).takeWhile fun c => c != ' '

/-- A line and a note say the same of a node that is left out. -/
structure SayAlike (l : LogLine) (note : Diagnostic) : Prop where
  level : l.level = .debug
  node : ∃ kind name scope, l.message = dropLine kind name ∧ note = dropNote kind name scope
  kind : secondWord l.message = secondWord note.message

/-- The lines of a step with a collector and without one, and the notes that it collects: each note
has a line in both logs, in order, and the other lines are the same. -/
structure DropsAlike (lines linesAlone : List LogLine) (notes : List Diagnostic) : Prop where
  collected : lines.filter LogLine.isOfCollector = notes.map Diagnostic.line
  uncollected : List.Forall₂ SayAlike (linesAlone.filter LogLine.isDrop) notes
  others : lines.filter (!·.isOfCollector) = linesAlone.filter (!·.isDrop)

/-! ## The words on one node -/

theorem trimEnd_append {c : Char} (hc : Text.isBlank c = false) (front behind : List Char) :
    Text.trimEnd (front ++ c :: behind) = front ++ c :: Text.trimEnd behind := by
  unfold Text.trimEnd
  rw [List.reverse_append, List.reverse_cons, List.append_assoc, List.singleton_append,
    List.dropWhile_append]
  split
  · rename_i hempty
    rw [List.isEmpty_iff.1 hempty, List.dropWhile_cons_of_neg (by simp [hc])]
    simp
  · simp

theorem trimEnd_isPrefix (s : List Char) : Text.trimEnd s <+: s := by
  rw [← List.reverse_suffix, Text.trimEnd, List.reverse_reverse]
  exact List.dropWhile_suffix _

/-- There is no blank in the word of a kind, so it ends where one comes. -/
theorem not_isBlank_of_mem_word {kind : Kind} {c : Char} (h : c ∈ kind.word.toList) :
    Text.isBlank c = false := by
  have hword : kind.word.toList.Forall fun c => Text.isBlank c = false := by
    rw [Kind.word, String.toList_map]
    cases kind <;> decide
  exact List.forall_iff_forall_mem.1 hword c h

theorem word_ne_nil (kind : Kind) : kind.word.toList ≠ [] := by
  rw [Kind.word, String.toList_map]
  cases kind <;> decide

/-- What names a kind behind `Dropped` and a space, and goes on with a space if at all, has that
kind as its second word. -/
theorem secondWord_eq {message : String} {kind : Kind} {behind : List Char}
    (h : message.toList = "Dropped ".toList ++ (kind.word.toList ++ behind))
    (hbehind : ∀ c ∈ behind.head?, c = ' ') : secondWord message = kind.word.toList := by
  have hword : ∀ c ∈ kind.word.toList, (c != ' ') = true := by
    intro c hc
    have hblank := not_isBlank_of_mem_word hc
    rw [bne_iff_ne]
    rintro rfl
    cases hblank
  have hstops : behind.takeWhile (fun c => c != ' ') = [] := by
    cases behind with
    | nil => rfl
    | cons c behind =>
      obtain rfl := hbehind c rfl
      rfl
  have hdrop : message.toList.drop "Dropped ".length = kind.word.toList ++ behind := by
    rw [h]
    exact List.drop_left
  rw [secondWord, hdrop, List.takeWhile_append_of_pos hword, hstops, List.append_nil]

/-- Without the blanks at its end, a line on a node still has the kind of the node. -/
theorem toList_dropLine (kind : Kind) (name : Option String) :
    (dropLine kind name).toList = "Dropped ".toList ++
      (kind.word.toList ++ Text.trimEnd (' ' :: (name.getD "").toList)) := by
  obtain ⟨front, last, hword⟩ :=
    (kind.word.toList.eq_nil_or_concat').resolve_left (word_ne_nil kind)
  have hlast : Text.isBlank last = false :=
    not_isBlank_of_mem_word (by rw [hword]; exact List.mem_concat_self)
  have htext : ("Dropped " ++ kind.word ++ " " ++ name.getD "").toList =
      ("Dropped ".toList ++ front) ++ last :: ' ' :: (name.getD "").toList := by
    simp only [String.toList_append, hword, List.append_assoc, List.singleton_append]
    rfl
  rw [dropLine, String.toList_ofList, htext, trimEnd_append hlast, hword]
  simp only [List.append_assoc, List.singleton_append]

theorem secondWord_dropLine (kind : Kind) (name : Option String) :
    secondWord (dropLine kind name) = kind.word.toList := by
  refine secondWord_eq (toList_dropLine kind name) fun c hc => ?_
  have hprefix := trimEnd_isPrefix (' ' :: (name.getD "").toList)
  cases htrim : Text.trimEnd (' ' :: (name.getD "").toList) with
  | nil => rw [htrim] at hc; cases hc
  | cons d rest =>
    rw [htrim] at hc hprefix
    obtain rfl := Option.some.inj hc
    exact (List.cons_prefix_cons.1 hprefix).1

theorem secondWord_dropNote (kind : Kind) (name : Option String) (scope : List String) :
    secondWord (dropNote kind name scope).message = kind.word.toList := by
  have htext : (dropNote kind name scope).message.toList = "Dropped ".toList ++
      (kind.word.toList ++ ' ' :: "without a file of its own".toList) := by
    simp only [dropNote, String.toList_append, List.append_assoc]
    rfl
  exact secondWord_eq htext fun c hc => (Option.some.inj hc).symm

theorem isDrop_dropLine (kind : Kind) (name : Option String) :
    LogLine.isDrop ⟨.debug, .splitting, dropLine kind name⟩ = true := by
  simp only [LogLine.isDrop, toList_dropLine, Bool.and_eq_true]
  exact ⟨rfl, List.isPrefixOf_iff_prefix.2 (List.prefix_append _ _)⟩

/-- A line on a namespace starts with another letter. -/
theorem isDrop_flattenLine (name : String) :
    LogLine.isDrop ⟨.debug, .splitting, flattenLine name⟩ = false := by
  have hfirst : (flattenLine name).toList.head? = some 'F' := by
    have hword : "Flattening namespace ".toList.head? = some 'F' := by decide
    unfold flattenLine
    rw [String.toList_append, List.head?_append, hword]
    exact Option.some_or
  have hprefix : "Dropped ".toList.isPrefixOf (flattenLine name).toList = false := by
    rw [Bool.eq_false_iff, ne_eq, List.isPrefixOf_iff_prefix]
    rintro ⟨behind, h⟩
    rw [← h] at hfirst
    cases hfirst
  rw [LogLine.isDrop, hprefix, Bool.and_false]

/-! ## What steps say together -/

namespace DropsAlike

variable {lines linesAlone more moreAlone : List LogLine} {notes others : List Diagnostic}

theorem nil : DropsAlike [] [] [] := ⟨rfl, .nil, rfl⟩

theorem append (h : DropsAlike lines linesAlone notes) (h' : DropsAlike more moreAlone others) :
    DropsAlike (lines ++ more) (linesAlone ++ moreAlone) (notes ++ others) where
  collected := by rw [List.filter_append, h.collected, h'.collected, List.map_append]
  uncollected := by
    rw [List.filter_append]
    exact List.rel_append h.uncollected h'.uncollected
  others := by rw [List.filter_append, List.filter_append, h.others, h'.others]

/-- A namespace is flattened with the same words either way. -/
theorem flattenLine (name : String) :
    DropsAlike [⟨.debug, .splitting, Splitting.flattenLine name⟩]
      [⟨.debug, .splitting, Splitting.flattenLine name⟩] [] where
  collected := rfl
  uncollected := by rw [List.filter_singleton, isDrop_flattenLine]; exact .nil
  others := by rw [List.filter_singleton, List.filter_singleton, isDrop_flattenLine]; rfl

theorem drop (kind : Kind) (name : Option String) (scope : List String) :
    DropsAlike [(dropNote kind name scope).line] [⟨.debug, .splitting, dropLine kind name⟩]
      [dropNote kind name scope] where
  collected := rfl
  uncollected := by
    rw [List.filter_singleton, isDrop_dropLine]
    refine .cons ⟨rfl, ⟨kind, name, scope, rfl, rfl⟩, ?_⟩ .nil
    rw [secondWord_dropLine, secondWord_dropNote]
  others := by rw [List.filter_singleton, List.filter_singleton, isDrop_dropLine]; rfl

end DropsAlike

/-- A step gives `a`, collects `notes`, and says the same of them with a collector and without. -/
structure SaysAlike {α : Type} (step : Reporting α) (a : α) (notes : List Diagnostic) : Prop where
  gives : Gives step a notes
  logs : ∃ lines, Logs step lines ∧ DropsAlike (lines true) (lines false) notes

section

variable {α β : Type} {a : α} {b : β} {notes others : List Diagnostic}

theorem SaysAlike.pure (a : α) : SaysAlike (pure a) a [] :=
  ⟨gives_pure a, _, logs_pure a, .nil⟩

theorem SaysAlike.bind {x : Reporting α} {f : α → Reporting β} (hx : SaysAlike x a notes)
    (hf : SaysAlike (f a) b others) : SaysAlike (x >>= f) b (notes ++ others) := by
  obtain ⟨lines, hlines, halike⟩ := hx.logs
  obtain ⟨more, hmore, halike'⟩ := hf.logs
  exact ⟨hx.gives.bind hf.gives, _, hlines.bind hx.gives hmore, halike.append halike'⟩

theorem SaysAlike.forM {f : β → Reporting PUnit} {g : β → List Diagnostic}
    (hf : ∀ x, SaysAlike (f x) ⟨⟩ (g x)) (l : List β) :
    SaysAlike (l.forM f) ⟨⟩ (l.flatMap g) := by
  induction l with
  | nil => exact .pure _
  | cons x rest ih =>
    rw [List.flatMap_cons]
    exact (hf x).bind ih

end

theorem saysAlike_reportDrop (kind : Kind) (name : Option String) (scope : List String) :
    SaysAlike (reportDrop kind name scope) ⟨⟩ [dropNote kind name scope] :=
  ⟨gives_reportDrop scope kind name, _, logs_ite_isCollecting (logs_emit _) (logs_write _ _ _),
    .drop kind name scope⟩

/-- A visit says the same of a declaration that is left out, and of a namespace. -/
theorem saysAlike_report (scope : List String) (v : Visit) :
    SaysAlike (v.report scope) ⟨⟩ (if v.node.isDropped then [v.note scope] else []) := by
  rcases v.report_cases scope with ⟨hdropped, h⟩ | ⟨hkept, h | ⟨name, h⟩⟩
  · rw [h, hdropped]
    exact saysAlike_reportDrop _ _ _
  · rw [h, hkept]
    exact .pure _
  · rw [h, hkept]
    exact ⟨gives_write _ _ _, _, logs_write _ _ _, .flattenLine name⟩

/-- **Splitting says the same of every node with a collector and without one.** -/
theorem saysAlike_split (b : Block) : ∃ units notes, SaysAlike b.split units notes := by
  obtain ⟨item, comment⟩ := b
  cases item with
  | declaration d =>
    have hreports := SaysAlike.forM (saysAlike_report []) d.visits
    have heq : Block.split ⟨.declaration d, comment⟩ = conclude [] [] d.visits := units_eq d [] []
    rw [heq]
    exact ⟨_, _, hreports.bind (.pure (d.fileUnits []))⟩
  | expression remarks source =>
    exact ⟨[], _, (saysAlike_reportDrop .expression none []).bind (.pure _)⟩

end Splitting

namespace Assembly

/-- **Assembling warns of the same files with a collector and without one**, in other words. -/
theorem logs_assemble_warnings (s : Settings) (us : List FileUnit) :
    Logs (assemble s us) fun collecting =>
      (collisionWarnings ((files s us).map (·.name))).map
        (if collecting then Diagnostic.line else Diagnostic.uncollectedLine) := by
  intro j
  rw [logs_assemble]
  congr 1
  refine List.map_congr_left fun w hw => ?_
  have hseverity := Plan.severity_of_mem_collisionWarnings hw
  cases j.collector.isSome <;>
    simp [warningLine, Diagnostic.line, Diagnostic.uncollectedLine, hseverity]

end Assembly

/-- **The collector only observes.**  Splitting a block, assembling units, and both one after the
other give the same with a collector and without one.

* Splitting: each note has its text as a line in the log of the collector, at the level `DEBUG`;
  without a collector each of the same nodes has one line that starts with `Dropped` and names the
  same kind, in the same order, and all other lines are the same.
* Assembling: each warning has its text as a line in the log of the collector, at the level
  `WARNING`, and without a collector its message as one; there are no other lines.
* Both: what is added to the collector has one line each in its log, in the order of the
  collector. -/
theorem collector_only_observes (s : Settings) (b : Block) (us : List FileUnit)
    (log logAlone : List LogLine) (old : List Diagnostic) :
    ((b.split.run ⟨log, some old⟩).1 = (b.split.run ⟨logAlone, none⟩).1 ∧
      ∃ notes lines linesAlone, DropsAlike lines linesAlone notes ∧
        (b.split.run ⟨log, some old⟩).2 = ⟨log ++ lines, some (old ++ notes)⟩ ∧
        (b.split.run ⟨logAlone, none⟩).2 = ⟨logAlone ++ linesAlone, none⟩) ∧
    (((assemble s us).run ⟨log, some old⟩).1 = ((assemble s us).run ⟨logAlone, none⟩).1 ∧
      ∃ warnings, (∀ w ∈ warnings, w.severity = .warning) ∧
        ((assemble s us).run ⟨log, some old⟩).2 =
          ⟨log ++ warnings.map Diagnostic.line, some (old ++ warnings)⟩ ∧
        ((assemble s us).run ⟨logAlone, none⟩).2 =
          ⟨logAlone ++ warnings.map Diagnostic.uncollectedLine, none⟩) ∧
    ((b.split >>= assemble s).run ⟨log, some old⟩).1 =
        ((b.split >>= assemble s).run ⟨logAlone, none⟩).1 ∧
      ∃ added lines, lines.filter LogLine.isOfCollector = added.map Diagnostic.line ∧
        ((b.split >>= assemble s).run ⟨log, some old⟩).2 =
          ⟨log ++ lines, some (old ++ added)⟩ := by
  obtain ⟨units, notes, hsplit, lines, hlines, halike⟩ := saysAlike_split b
  have hassemble : ∀ us, Gives (assemble s us) _ _ := gives_assemble s
  have hwarnings : ∀ us, Logs (assemble s us) _ := Assembly.logs_assemble_warnings s
  refine ⟨⟨?_, notes, lines true, lines false, halike, hlines.journal_eq hsplit _,
    hlines.journal_eq hsplit _⟩, ⟨?_, _, ?_, (hwarnings us).journal_eq (hassemble us) _,
    (hwarnings us).journal_eq (hassemble us) _⟩, ?_, _, _, ?_,
    (hlines.bind hsplit (hwarnings units)).journal_eq (hsplit.bind (hassemble units)) _⟩
  · rw [hsplit.result, hsplit.result]
  · rw [(hassemble us).result, (hassemble us).result]
  · exact fun w hw => Plan.severity_of_mem_collisionWarnings hw
  · rw [(hsplit.bind (hassemble units)).result, (hsplit.bind (hassemble units)).result]
  · have hall : ∀ ds : List Diagnostic,
        (ds.map Diagnostic.line).filter LogLine.isOfCollector = ds.map Diagnostic.line := by
      intro ds
      rw [List.filter_map]
      exact congrArg _ (List.filter_eq_self.2 fun _ _ => rfl)
    rw [List.filter_append, List.map_append]
    exact congrArg₂ (· ++ ·) halike.collected (hall _)

end TypeFiles
