/-
# The nodes of a YAML document

A document is a tree of nodes, each with the name of its tag, and each node has a value.

| tag | node | value |
| --- | --- | --- |
| sequence | sequence | list |
| mapping | mapping | mapping |
| set | mapping | set of its keys |
| ordered mapping, pairs | sequence of mappings with one entry | list of pairs |
| another one | scalar | as its text is read with that tag (`Yaml/Meaning`) |

A mapping may merge others into itself: under the key `<<` it names one mapping or several.  The
merged entries come first; of several mappings the last one is taken first, so that an entry of an
earlier one replaces it, and the mapping's own entries replace them all.  A key that is repeated
keeps its first place and takes its last value.  Lists, mappings and sets are no keys.

A node that holds an alias of itself goes on without end: it is followed down `repetitions` times,
which is further than anything made of a document looks.
-/

import TypeFiles.Yaml.Form
import TypeFiles.Yaml.Layered
import TypeFiles.Yaml.Meaning

namespace TypeFiles
namespace Yaml

/-- A node of a document. -/
inductive Node where
  | scalar (tag text : String)
  | sequence (tag : String) (items : List Node)
  | mapping (tag : String) (entries : List (Node × Node))
  /-- The node with an anchor that this one is inside of. -/
  | around (anchor : String)
  /-- A node whose value is known, however often an alias stands for it. -/
  | known (value : Layered Value) (n : Node)

/-- The entries of a mapping: those merged into it, and its own ones.  The flag tells whether
mappings stand wherever some are to be merged. -/
structure Gathered where
  isSound : Bool
  merged : Layered (List (Value × Value))
  own : Layered (List (Value × Value))

namespace Gathered

/-- All entries, the merged ones first. -/
def all (g : Gathered) : Layered (List (Value × Value)) := g.merged.append g.own

/-- No entries. -/
def none : Gathered := ⟨true, .ok [], .ok []⟩

/-- What no entries can be taken from. -/
def unsound : Gathered := ⟨false, .ok [], .ok []⟩

/-- The entries in front of some others, as merged ones. -/
def mergeInto (g others : Gathered) : Gathered :=
  ⟨g.isSound && others.isSound, g.all.append others.merged, others.own⟩

/-- One more entry in front of some others. -/
def add (entry : Layered (Value × Value)) (others : Gathered) : Gathered :=
  { others with own := entry.cons others.own }

/-- The entries of a mapping in which keys may be repeated. -/
def united (entries : List (Value × Value)) : List (Value × Value) :=
  entries.foldl (fun found (k, v) => Value.insertEntry found k v) []

/-- The entries as those of one mapping. -/
def entries (g : Gathered) : Layered (List (Value × Value)) :=
  if g.isSound then g.all.map united else Layered.malformed

end Gathered

namespace Node

/-- The tag of a node. -/
def tag : Node → String
  | .scalar t _ | .sequence t _ | .mapping t _ => t
  | .around _ => Tag.text
  | .known _ n => n.tag

/-- The node that is left out. -/
def empty : Node := .scalar (formOf "") ""

mutual

/-- The text of a node that is read as a scalar: of a mapping it is that of its default value, which
may lead back to the mapping without end. -/
def scalarText : Node → Readable String
  | .scalar _ text => .ok text
  | .sequence _ _ => Readable.malformed
  | .around _ => Readable.accident .tooDeep
  | .mapping _ entries => defaultText entries
  | .known _ n => scalarText n

/-- The text of the default value among some entries. -/
def defaultText : List (Node × Node) → Readable String
  | [] => Readable.malformed
  | (k, v) :: rest => if k.tag == Tag.value then scalarText v else defaultText rest

end

/-- The tags of values that hold others. -/
def collectionTags : List String := [Tag.sequence, Tag.ordered, Tag.pairs, Tag.mapping, Tag.set]

/-- The value of a node that holds no others.  A day is looked for in the node itself. -/
def plainValue (n : Node) : Layered Value :=
  if collectionTags.contains n.tag then Layered.malformed.below
  else Layered.here do
    let text ← n.scalarText
    if n.tag == Tag.timestamp && !(n matches .scalar _ _) then Readable.accident .wrongType
    else readScalar n.tag text

/-- A node as a key, given its value as a node: a list or a mapping is none. -/
def asKey (n : Node) (v : Layered Value) : Layered Value :=
  if n.tag == Tag.value then (Layered.here n.scalarText).map Value.text
  else if collectionTags.contains n.tag then Layered.malformed
  else v

mutual

/-- The value of a node. -/
def value : Node → Layered Value
  | .scalar tag text => plainValue (.scalar tag text)
  | .sequence tag items =>
    if tag == Tag.sequence then Layered.below ((values items).map .list)
    else if tag == Tag.ordered || tag == Tag.pairs then Layered.below ((pairs items).map .list)
    else plainValue (.sequence tag items)
  | .mapping tag entries =>
    if tag == Tag.mapping then Layered.below ((gathered entries).entries.map .mapping)
    else if tag == Tag.set then
      Layered.below ((gathered entries).entries.map fun found => .set (found.map (·.1)))
    else plainValue (.mapping tag entries)
  | .around _ => .ok (.text "")
  | .known v _ => v

/-- The values of some nodes. -/
def values : List Node → Layered (List Value)
  | [] => .ok []
  | n :: rest => (value n).cons (values rest)

/-- The pair that a mapping with one entry is. -/
def pair? : Node → Option (Layered Value)
  | .mapping _ [(k, v)] => some (((value k).both (value v)).map fun (k, v) => .tuple [k, v])
  | .known _ n => pair? n
  | _ => none

/-- The pairs that some mappings with one entry are. -/
def pairs : List Node → Layered (List Value)
  | [] => .ok []
  | n :: rest =>
    match pair? n with
    | some pair => pair.cons (pairs rest)
    | none => Layered.malformed

/-- The entries of a mapping. -/
def gathered : List (Node × Node) → Gathered
  | [] => Gathered.none
  | (k, v) :: rest =>
    if k.tag == Tag.merge then (merged v).mergeInto (gathered rest)
    else Gathered.add ((asKey k (value k)).both (value v)) (gathered rest)

/-- The entries that a mapping brings in where it is merged. -/
def mergedMapping : Node → Gathered
  | .mapping _ entries => gathered entries
  | .around _ => Gathered.none
  | .known _ n => mergedMapping n
  | _ => Gathered.unsound

/-- The entries that a node under a merge key brings in. -/
def merged : Node → Gathered
  | .mapping _ entries => gathered entries
  | .sequence _ items => mergedItems items
  | .around _ => Gathered.none
  | .known _ n => merged n
  | .scalar _ _ => Gathered.unsound

/-- The entries that several mappings bring in, those of the last one first. -/
def mergedItems : List Node → Gathered
  | [] => Gathered.none
  | n :: rest => (mergedItems rest).mergeInto (mergedMapping n)

end

/-- A node whose value is known. -/
def evaluated (n : Node) : Node := .known n.value n

mutual

/-- A node with the node around it that has an anchor in place of the aliases of that anchor. -/
def filled (anchor : String) (outer : Node) : Node → Node
  | .around name => if name == anchor then outer else .around name
  | .sequence tag items => .sequence tag (filledItems anchor outer items)
  | .mapping tag entries => .mapping tag (filledEntries anchor outer entries)
  | .known _ n => (filled anchor outer n).evaluated
  | .scalar tag text => .scalar tag text

/-- The items of a sequence with the node around them in place of its aliases. -/
def filledItems (anchor : String) (outer : Node) : List Node → List Node
  | [] => []
  | n :: rest => filled anchor outer n :: filledItems anchor outer rest

/-- The entries of a mapping with the node around them in place of its aliases. -/
def filledEntries (anchor : String) (outer : Node) : List (Node × Node) → List (Node × Node)
  | [] => []
  | (k, v) :: rest =>
    (filled anchor outer k, filled anchor outer v) :: filledEntries anchor outer rest

end

/-- How often a node is followed into itself. -/
def repetitions : Nat := 5

/-- A node followed into itself by the aliases of its anchor. -/
def followed (anchor : String) (n : Node) : Nat → Node
  | 0 => n
  | times + 1 => filled anchor (followed anchor n times).evaluated n

end Node
end Yaml
end TypeFiles
