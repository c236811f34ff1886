/-
# JSON

A JSON text is read token by token.  What has been read so far is a stack of containers that are
still open; `Reader.step` adds one token to it, so reading is one pass over the tokens and never
nests.

| expected | allowed tokens |
| --- | --- |
| a value | a scalar, `[`, `{` |
| a first item | the same and `]` |
| a first key | a text and `}` |
| a key | a text |
| a colon | `:` |
| the next entry | `,` or the bracket that closes the container |
| nothing | none: the value is complete |

A token that is not allowed, or a value that cannot be read, ends the reading there.

A key that is repeated keeps its first place and takes its last value.
-/

import TypeFiles.Json.Token

namespace TypeFiles
namespace Json

/-- A container that is still open, its items so far in reverse. -/
inductive Frame where
  | list (items : List Value)
  | object (entries : List (Value × Value)) (key : Value)

/-- What may come next. -/
inductive Expectation where
  | value
  | firstItem
  | firstKey
  | key
  | colon
  | next
  | nothing (result : Value)

/-- How far a text has been read: the open containers, innermost first, and what may come next. -/
structure Reader where
  frames : List Frame
  expects : Expectation

namespace Reader

/-- Nothing read yet. -/
def start : Reader := ⟨[], .value⟩

/-- A value is complete: it goes into the innermost open container, or is the result. -/
def complete (frames : List Frame) (v : Value) : Reader :=
  match frames with
  | [] => ⟨[], .nothing v⟩
  | .list items :: outer => ⟨.list (v :: items) :: outer, .next⟩
  | .object entries key :: outer => ⟨.object ((key, v) :: entries) .null :: outer, .next⟩

/-- The mapping of a closed object. -/
def closed (entries : List (Value × Value)) : Value :=
  .mapping (entries.foldr (fun (k, v) found => Value.insertEntry found k v) [])

/-- How many containers may be in each other. -/
def deepest : Nat := 980

/-- Open one more container. -/
def enter (frames : List Frame) (inner : Frame) (expects : Expectation) : Readable Reader :=
  if frames.length < deepest then .ok ⟨inner :: frames, expects⟩ else Readable.accident .tooDeep

/-- Read a token where a value may start. -/
def value (frames : List Frame) : Token → Readable Reader
  | .scalar v => v.map (complete frames)
  | .openList => enter frames (.list []) .firstItem
  | .openObject => enter frames (.object [] .null) .firstKey
  | _ => Readable.malformed

/-- Read a key into the innermost open object. -/
def key (frames : List Frame) (token : Token) : Readable Reader :=
  match token, frames with
  | .scalar (.ok (.text s)), .object entries _ :: outer =>
    .ok ⟨.object entries (.text s) :: outer, .colon⟩
  | _, _ => Readable.malformed

/-- Read one token. -/
def step (r : Reader) (token : Token) : Readable Reader :=
  match r.expects with
  | .value => value r.frames token
  | .firstItem =>
    match token, r.frames with
    | .closeList, .list _ :: outer => .ok (complete outer (.list []))
    | _, _ => value r.frames token
  | .firstKey =>
    match token, r.frames with
    | .closeObject, .object _ _ :: outer => .ok (complete outer (.mapping []))
    | _, _ => key r.frames token
  | .key => key r.frames token
  | .colon =>
    match token with
    | .colon => .ok ⟨r.frames, .value⟩
    | _ => Readable.malformed
  | .next =>
    match token, r.frames with
    | .comma, .list items :: outer => .ok ⟨.list items :: outer, .value⟩
    | .comma, .object entries k :: outer => .ok ⟨.object entries k :: outer, .key⟩
    | .closeList, .list items :: outer => .ok (complete outer (.list items.reverse))
    | .closeObject, .object entries _ :: outer => .ok (complete outer (closed entries))
    | _, _ => Readable.malformed
  | .nothing _ => Readable.malformed

end Reader

/-- The value of a JSON text. -/
def read (s : String) : Readable Value := do
  let r ← (tokens s.toList).foldlM Reader.step Reader.start
  match r.expects with
  | .nothing v => return v
  | _ => Readable.malformed

end Json
end TypeFiles
