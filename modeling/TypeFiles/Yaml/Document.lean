/-
# The document of a YAML text

A document is read from its tokens into a tree of nodes.

    node     = alias | [anchor] [tag] content
    block    = { "-" [node] }  |  { ["?" [node]] [":" [node]] }
    flow     = "[" { [node] | ["?"] [node] ":" [node] } "]"  |  "{" { ["?"] [node] [":" [node]] } "}"

A node that is left out is an empty scalar.  A node without a tag gets the tag of its kind; a scalar
without quotes gets the one that its text has the form of (`Yaml/Form`).  An alias stands for the
node with that anchor before it, and an anchor is given once.
-/

import TypeFiles.Yaml.Node
import TypeFiles.Yaml.Tokens

namespace TypeFiles
namespace Yaml

/-- What is left to be read of a document, the meanings of its handles and its anchors so far.  An
anchor whose node is not complete has none yet; `repeated` are those with an alias in their node. -/
structure Outline where
  tokens : List Token
  /-- What is wrong behind the tokens. -/
  fault : Option Unreadable
  handles : List (String × String)
  anchors : List (String × Option Node)
  repeated : List String
  /-- How many collections are open. -/
  depth : Nat

/-- A step of reading a document. -/
abbrev Reading := StateT Outline Readable

namespace Reading

/-- A document that breaks the rules. -/
def malformed {α : Type} : Reading α := throw .malformed

/-- The next token, `none` at the end of the text. -/
def peek? : Reading (Option Token) := do
  match (← get).tokens, (← get).fault with
  | token :: _, _ => return some token
  | [], none => return none
  | [], some fault => throw fault

/-- Drop the next token. -/
def drop : Reading PUnit := modify fun o => { o with tokens := o.tokens.drop 1 }

/-- Whether the next token is one of those listed. -/
def isNext (tokens : List Token) : Reading Bool := do
  match ← peek? with
  | some t => return tokens.contains t
  | none => return false

/-- Drop the next token if it is the given one. -/
def accept (t : Token) : Reading Bool := do
  if ← isNext [t] then do
    drop
    return true
  else return false

/-- Drop the next token, which must be the given one. -/
def expect (t : Token) : Reading PUnit := do
  if ← accept t then return ⟨⟩ else malformed

/-- What stands in front of the content of a node. -/
structure Properties where
  anchor : Option String
  tag : Option String

/-- The name of a tag with its handle written out. -/
def expanded (handle : Option String) (name : String) : Reading String := do
  match handle with
  | none => return name
  | some h =>
    match (← get).handles.lookup h with
    | some meaning => return meaning ++ name
    | none => malformed

/-- The anchor in front of a node. -/
def anchor? : Reading (Option String) := do
  match ← peek? with
  | some (.anchor name) => do
    drop
    return some name
  | _ => return none

/-- The tag in front of a node. -/
def tag? : Reading (Option (Option String × String)) := do
  match ← peek? with
  | some (.tag handle name) => do
    drop
    return some (handle, name)
  | _ => return none

/-- The anchor and the tag in front of a node, in either order. -/
def properties : Reading Properties := do
  let anchor ← anchor?
  let tag ← tag?
  let anchor ← if anchor.isNone && tag.isSome then anchor? else pure anchor
  match tag with
  | none => return ⟨anchor, none⟩
  | some (handle, name) => return ⟨anchor, some (← expanded handle name)⟩

/-- Start a node with an anchor. -/
def openAnchor : Option String → Reading PUnit
  | none => return ⟨⟩
  | some name => do
    if ((← get).anchors.lookup name).isSome then malformed
    else modify fun o => { o with anchors := (name, none) :: o.anchors }

/-- Complete a node with an anchor, whose value is known from then on.  If it holds an alias of
itself, so may the nodes inside of it that have anchors. -/
def closeAnchor (anchor : Option String) (node : Node) : Reading Node := do
  match anchor with
  | none => return node
  | some name =>
    if (← get).repeated.contains name then do
      let node := (node.followed name Node.repetitions).evaluated
      let fill (entry : String × Option Node) : String × Option Node :=
        (entry.1, entry.2.map (Node.filled name node))
      modify fun o => { o with anchors := (name, some node) :: o.anchors.map fill }
      return node
    else do
      let node := node.evaluated
      modify fun o => { o with anchors := (name, some node) :: o.anchors }
      return node

/-- The node that an alias stands for. -/
def aliased (name : String) : Reading Node := do
  match (← get).anchors.lookup name with
  | some (some node) => return node
  | some none => do
    modify fun o => { o with repeated := name :: o.repeated }
    return .around name
  | none => malformed

/-- The tag of a node: `!` is no more than a missing one. -/
def tagOr (default : String) (tag : Option String) : String :=
  match tag with
  | none | some "!" => default
  | some t => t

/-- A scalar: one without quotes and without a tag, or with the tag `!`, has the tag that its text
has the form of. -/
def scalarNode (tag : Option String) (isPlain : Bool) (text : String) : Node :=
  match tag with
  | none => .scalar (if isPlain then formOf text else Tag.text) text
  | some "!" => .scalar (formOf text) text
  | some t => .scalar t text

/-- How many collections may be in each other. -/
def deepest : Nat := 485

/-- Read the parts of a collection. -/
def inside {α : Type} (parts : Reading α) : Reading α := do
  if deepest ≤ (← get).depth then throw (.accident .tooDeep)
  modify fun o => { o with depth := o.depth + 1 }
  let found ← parts
  modify fun o => { o with depth := o.depth - 1 }
  return found

/-- The content that is left out behind an anchor or a tag. -/
def emptyContent (p : Properties) : Reading Node := do
  if p.anchor.isNone && p.tag.isNone then malformed
  else return .scalar (tagOr (formOf "") p.tag) ""

/-! Each of the following reads a part of the document; its first argument bounds the depth. -/

mutual

/-- A node.  In a block, block collections may start; `mayBeBare` tells whether the entries of a
sequence may follow without a deeper indentation. -/
def node (bound : Nat) (inBlock mayBeBare : Bool) : Reading Node :=
  match bound with
  | 0 => malformed
  | bound + 1 => do
    match ← peek? with
    | some (.alias name) => do
      drop
      aliased name
    | _ => do
      let p ← properties
      let next ← peek?
      openAnchor p.anchor
      let sequence (items : List Node) : Node := .sequence (tagOr Tag.sequence p.tag) items
      let mapping (entries : List (Node × Node)) : Node :=
        .mapping (tagOr Tag.mapping p.tag) entries
      let found : Node ←
        match next with
        | some .blockEntry =>
          if mayBeBare then pure (sequence (← inside (bareEntries bound))) else emptyContent p
        | some (.scalar isPlain text) => do
          drop
          pure (scalarNode p.tag isPlain text)
        | some .openSequence => do
          drop
          pure (sequence (← inside (flowItems bound true)))
        | some .openMapping => do
          drop
          pure (mapping (← inside (flowEntries bound true)))
        | some .blockSequence =>
          if inBlock then do
            drop
            pure (sequence (← inside (blockItems bound)))
          else emptyContent p
        | some .blockMapping =>
          if inBlock then do
            drop
            pure (mapping (← inside (blockEntries bound)))
          else emptyContent p
        | _ => emptyContent p
      closeAnchor p.anchor found

/-- A node that may be left out before one of the given tokens. -/
def optional (bound : Nat) (inBlock mayBeBare : Bool) (enders : List Token) : Reading Node :=
  match bound with
  | 0 => malformed
  | bound + 1 => do
    if ← isNext enders then return Node.empty else node bound inBlock mayBeBare

/-- The items of a block sequence, up to its end. -/
def blockItems (bound : Nat) : Reading (List Node) :=
  match bound with
  | 0 => malformed
  | bound + 1 => do
    if ← accept .blockEntry then do
      let item ← optional bound true false [.blockEntry, .blockEnd]
      return item :: (← blockItems bound)
    else do
      expect .blockEnd
      return []

/-- The items of a sequence that is not indented. -/
def bareEntries (bound : Nat) : Reading (List Node) :=
  match bound with
  | 0 => malformed
  | bound + 1 => do
    if ← accept .blockEntry then do
      let item ← optional bound true false [.blockEntry, .key, .value, .blockEnd]
      return item :: (← bareEntries bound)
    else return []

/-- The entries of a block mapping, up to its end. -/
def blockEntries (bound : Nat) : Reading (List (Node × Node)) :=
  match bound with
  | 0 => malformed
  | bound + 1 => do
    if ← accept .key then do
      let key ← optional bound true true [.key, .value, .blockEnd]
      let value ←
        if ← accept .value then optional bound true true [.key, .value, .blockEnd]
        else pure Node.empty
      return (key, value) :: (← blockEntries bound)
    else do
      expect .blockEnd
      return []

/-- The items of a sequence in brackets, up to its end; a pair of key and value is an item. -/
def flowItems (bound : Nat) (isFirst : Bool) : Reading (List Node) :=
  match bound with
  | 0 => malformed
  | bound + 1 => do
    if ← accept .closeSequence then return []
    else do
      if !isFirst then expect .flowEntry
      if ← accept .key then do
        let key ← optional bound false false [.value, .flowEntry, .closeSequence]
        let value ←
          if ← accept .value then optional bound false false [.flowEntry, .closeSequence]
          else pure Node.empty
        return .mapping Tag.mapping [(key, value)] :: (← flowItems bound false)
      else if ← accept .closeSequence then return []
      else do
        let item ← node bound false false
        return item :: (← flowItems bound false)

/-- The entries of a mapping in brackets, up to its end. -/
def flowEntries (bound : Nat) (isFirst : Bool) : Reading (List (Node × Node)) :=
  match bound with
  | 0 => malformed
  | bound + 1 => do
    if ← accept .closeMapping then return []
    else do
      if !isFirst then expect .flowEntry
      if ← accept .key then do
        let key ← optional bound false false [.value, .flowEntry, .closeMapping]
        let value ←
          if ← accept .value then optional bound false false [.flowEntry, .closeMapping]
          else pure Node.empty
        return (key, value) :: (← flowEntries bound false)
      else if ← accept .closeMapping then return []
      else do
        let key ← node bound false false
        return (key, Node.empty) :: (← flowEntries bound false)

end

/-- The handles that every document has. -/
def usualHandles : List (String × String) := [("!", "!"), ("!!", Tag.standard)]

/-- The directives in front of a document: at most one version, which must be a first one, and
handles with different names. -/
def directives (bound : Nat) (hasVersion : Bool) (handles : List (String × String)) :
    Reading (List (String × String)) :=
  match bound with
  | 0 => malformed
  | bound + 1 => do
    match ← peek? with
    | some (.directive d) => do
      drop
      match d with
      | .version major =>
        if hasVersion || major != 1 then malformed else directives bound true handles
      | .handle name meaning =>
        if (handles.lookup name).isSome then malformed
        else directives bound hasVersion ((name, meaning) :: handles)
      | .other => directives bound hasVersion handles
    | _ => return handles

/-- Whether no content follows the start of a document. -/
def isAtEnd : Reading Bool := do
  match ← peek? with
  | none | some .documentStart | some .documentEnd | some (.directive _) => return true
  | _ => return false

/-- Drop the marks at the end of a document, of which there may be several. -/
def dropEnds (bound : Nat) : Reading PUnit :=
  match bound with
  | 0 => malformed
  | bound + 1 => do
    if ← accept .documentEnd then dropEnds bound else return ⟨⟩

/-- The only document of a text, if there is one. -/
def document (bound : Nat) : Reading (Option Node) := do
  match ← peek? with
  | none => return none
  | some first => do
    let isMarked := first == .documentStart || (first matches .directive _)
    if isMarked then do
      let handles ← directives bound false []
      expect .documentStart
      modify fun o => { o with handles := handles ++ usualHandles }
    let root ← if isMarked && (← isAtEnd) then pure Node.empty else node bound true false
    dropEnds bound
    match ← peek? with
    | none => return some root
    | some _ => do
      let _ ← directives bound false []
      malformed

end Reading

/-- The document that some tokens are.  A node takes no more than a few steps for each token. -/
def document? (tokens : Tokens) : Readable (Option Node) :=
  (Reading.document (4 * tokens.known.length + 4)).run'
    ⟨tokens.known, tokens.fault, Reading.usualHandles, [], [], 0⟩

end Yaml
end TypeFiles
