/-
# Splitting a declaration tree into file units

A unit is one declaration that gets a file of its own.  The tree is walked in document order:

| node | result |
| --- | --- |
| struct, protocol, enum with a value case | one unit: the node unchanged |
| namespace | the units of its members in turn; the namespace itself disappears |
| remark around a declaration | the units of that declaration, which remember the remark |
| any other node, an expression | no unit; the drop is reported |

A drop is a note whose context is the path of the node, the names of the namespaces around it and
its own name with dots between them.  Without a collector it is a log line instead.
-/

import TypeFiles.Declaration
import TypeFiles.Journal
import TypeFiles.Text.Blank

namespace TypeFiles

/-- A remark that was met on the way to a unit, with the declaration it stands around. -/
structure Wrapper where
  remark : Remark
  declaration : Declaration

/-- Put the remark of a wrapper around another item. -/
def Wrapper.rewrap (w : Wrapper) (item : Item) : Item := item.annotate w.remark

/-- A declaration with a file of its own. -/
structure FileUnit where
  /-- The name that the file name is made of. -/
  name : String
  /-- The declaration without the remarks around it. -/
  block : Block
  /-- The remarks met on the way down, outermost first. -/
  wrappers : List Wrapper

namespace FileUnit

/-- The unit of a declaration. -/
def ofDeclaration (name : String) (d : Declaration) (wrappers : List Wrapper) : FileUnit :=
  ⟨name, ⟨.declaration d, none⟩, wrappers⟩

/-- The item of a unit with its remarks put back around it. -/
def annotatedItem (u : FileUnit) : Item := u.wrappers.foldr Wrapper.rewrap u.block.item

end FileUnit

namespace Splitting

/-- The path of a node in words: the namespaces around it and its own name unless that is empty;
`none` if nothing is left. -/
def path (scope : List String) (name : Option String) : Option String :=
  let own := name.toList.filter fun n => !n.isEmpty
  let joined := ".".intercalate (scope ++ own)
  if joined.isEmpty then none else some joined

/-- The note on a dropped node. -/
def dropNote (kind : Kind) (name : Option String) (scope : List String) : Diagnostic :=
  ⟨.note, "Dropped " ++ kind.word ++ " without a file of its own", path scope name⟩

/-- The log line on a dropped node when there is no collector, blanks at its end left out. -/
def dropLine (kind : Kind) (name : Option String) : String :=
  String.ofList (Text.trimEnd ("Dropped " ++ kind.word ++ " " ++ name.getD "").toList)

/-- Report a dropped node. -/
def reportDrop (kind : Kind) (name : Option String) (scope : List String) : Reporting PUnit := do
  if ← Reporting.isCollecting then Reporting.emit (dropNote kind name scope)
  else Reporting.write .debug .splitting (dropLine kind name)

/-- The log line on a namespace that disappears. -/
def flattenLine (name : String) : String := "Flattening namespace " ++ name

mutual

/-- The units of a declaration, given the wrappers and the namespaces on the way to it. -/
def units (wrappers : List Wrapper) (scope : List String) : Declaration → Reporting (List FileUnit)
  | .struct name members conformances access =>
    pure [.ofDeclaration name (.struct name members conformances access) wrappers]
  | .protocol name members conformances access =>
    pure [.ofDeclaration name (.protocol name members conformances access) wrappers]
  | .enum name members conformances access =>
    if Declaration.hasCases members then
      pure [.ofDeclaration name (.enum name members conformances access) wrappers]
    else do
      Reporting.write .debug .splitting (flattenLine name)
      memberUnits wrappers (scope ++ [name]) members
  | .annotated remark declaration =>
    units (wrappers ++ [⟨remark, declaration⟩]) scope declaration
  | d => do reportDrop d.kind d.name? scope; pure []

/-- The units of the members of a namespace, one member after the other. -/
def memberUnits (wrappers : List Wrapper) (scope : List String) :
    List Declaration → Reporting (List FileUnit)
  | [] => pure []
  | member :: rest => do
    let first ← units wrappers scope member
    let others ← memberUnits wrappers scope rest
    return first ++ others

end

end Splitting

/-- Split a declaration into its units. -/
def Declaration.split (d : Declaration) : Reporting (List FileUnit) := Splitting.units [] [] d

/-- Split a code block into its units; an expression has none. -/
def Block.split (b : Block) : Reporting (List FileUnit) :=
  match b.item with
  | .declaration d => d.split
  | .expression _ _ => do
    Splitting.reportDrop .expression none []
    return []

end TypeFiles
