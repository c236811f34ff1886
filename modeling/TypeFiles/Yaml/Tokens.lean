/-
# From a YAML text to its tokens

The text is read token by token.  In block context the column of a token decides which collections
end before it and whether a new one starts.

A key of a mapping is recognised late, by the `:` behind it.  Whatever may turn out to be such a
key is therefore remembered with its place (`PendingKey`), one at a time for each bracket around
it; the tokens that mark the key are put in front of it when the `:` comes.  A key must lie in one
line and have no more than 1024 characters.

A text is read no further than its tokens are needed.  So what is wrong with a token comes to light
only when the tokens before it have been taken, but for those that are not settled yet: whether a
token is a key must be known before it can be taken.
-/

import TypeFiles.Yaml.Cursor
import TypeFiles.Yaml.Scalar.Block
import TypeFiles.Yaml.Scalar.Plain
import TypeFiles.Yaml.Scalar.Quoted
import TypeFiles.Yaml.Token

namespace TypeFiles
namespace Yaml

/-- The tokens of a text as far as they can be told, and what is wrong behind them, if anything. -/
structure Tokens where
  known : List Token
  fault : Option Unreadable

/-- Something that may turn out to be a key: the number of tokens before it and its place.  It is
required if nothing else can stand at that place. -/
structure PendingKey where
  number : Nat
  required : Bool
  index : Nat
  line : Nat
  column : Nat

/-- How far a text has been read. -/
structure Scanner where
  cursor : Cursor
  /-- The columns of the block collections that are open, innermost first. -/
  indents : List Nat
  /-- Whether a key may start here. -/
  allowsKey : Bool
  /-- What may be a key at this level. -/
  pending : Option PendingKey
  /-- What may be a key at each of the outer levels: one for each open bracket. -/
  outer : List (Option PendingKey)
  /-- The tokens so far, last one first, and their number. -/
  tokens : List Token
  count : Nat

namespace Scanner

/-- The start of a text. -/
def start (s : List Char) : Scanner :=
  { cursor := .start s, indents := [], allowsKey := true, pending := none, outer := [],
    tokens := [], count := 0 }

/-- Whether the place is inside brackets. -/
def inFlow (s : Scanner) : Bool := !s.outer.isEmpty

/-- The column of the innermost block collection, `-1` outside of all. -/
def indent (s : Scanner) : Int :=
  match s.indents with
  | [] => -1
  | column :: _ => column

/-- The scanner with one more token. -/
def push (token : Token) (s : Scanner) : Scanner :=
  { s with tokens := token :: s.tokens, count := s.count + 1 }

/-- The scanner with a token put behind the first `number` tokens. -/
def insert (number : Nat) (token : Token) (s : Scanner) : Scanner :=
  let later := s.count - number
  { s with tokens := s.tokens.take later ++ token :: s.tokens.drop later, count := s.count + 1 }

/-- The scanner some characters on. -/
def skip (n : Nat) (s : Scanner) : Scanner := { s with cursor := s.cursor.skip n }

/-- Whether a remembered key can no longer be one. -/
def isStale (c : Cursor) (key : PendingKey) : Bool :=
  key.line != c.line || key.index + 1024 < c.index

/-- What remains of a remembered key; a required one must not be given up. -/
def refreshed (c : Cursor) : Option PendingKey → Readable (Option PendingKey)
  | some key =>
    if isStale c key then if key.required then Readable.malformed else .ok none else .ok (some key)
  | none => .ok none

/-- Give up the keys that can no longer be one. -/
def refresh (s : Scanner) : Readable Scanner := do
  let pending ← refreshed s.cursor s.pending
  let outer ← s.outer.mapM (refreshed s.cursor)
  return { s with pending, outer }

/-- Give up the key remembered at this level. -/
def dropKey (s : Scanner) : Readable Scanner :=
  match s.pending with
  | some key => if key.required then Readable.malformed else .ok { s with pending := none }
  | none => .ok s

/-- Remember the next token as a possible key. -/
def rememberKey (s : Scanner) : Readable Scanner :=
  if s.allowsKey then do
    let s ← s.dropKey
    let c := s.cursor
    let required := !s.inFlow && s.indent == c.column
    return { s with pending := some ⟨s.count, required, c.index, c.line, c.column⟩ }
  else .ok s

/-- End the block collections that are deeper than a column. -/
def endBlocks (column : Int) (s : Scanner) : Scanner :=
  if s.inFlow then s
  else
    let ended := (s.indents.takeWhile fun indent : Nat => column < indent).length
    { s with
      indents := s.indents.drop ended
      tokens := List.replicate ended .blockEnd ++ s.tokens
      count := s.count + ended }

/-- Whether a block collection starts at a column. -/
def opensBlock (column : Nat) (s : Scanner) : Bool := !s.inFlow && s.indent < column

/-- Start a block collection at a column if it is deeper than the one around it. -/
def startBlock (token : Token) (column : Nat) (s : Scanner) : Scanner :=
  if s.opensBlock column then { s.push token with indents := column :: s.indents } else s

/-- A sign of the structure with some characters. -/
def sign (token : Token) (length : Nat) (s : Scanner) : Scanner := (s.push token).skip length

/-- A mark between documents, or the end of the text. -/
def documentMark (s : Scanner) : Readable Scanner := do
  let s ← (s.endBlocks (-1)).dropKey
  return { s with allowsKey := false }

/-- An opening bracket. -/
def openFlow (token : Token) (s : Scanner) : Readable Scanner := do
  let s ← s.rememberKey
  return { s.sign token 1 with outer := s.pending :: s.outer, pending := none, allowsKey := true }

/-- A closing bracket. -/
def closeFlow (token : Token) (s : Scanner) : Readable Scanner := do
  let s ← s.dropKey
  match s.outer with
  | [] => Readable.malformed
  | pending :: outer => return { s.sign token 1 with pending, outer, allowsKey := false }

/-- A comma. -/
def flowEntry (s : Scanner) : Readable Scanner := do
  let s ← s.dropKey
  return { s.sign .flowEntry 1 with allowsKey := true }

/-- The hyphen of an entry; in block context it may start a sequence. -/
def blockEntry (s : Scanner) : Readable Scanner := do
  if !s.inFlow && !s.allowsKey then Readable.malformed
  else
    let s ← (s.startBlock .blockSequence s.cursor.column).dropKey
    return { s.sign .blockEntry 1 with allowsKey := true }

/-- The question mark of a key; in block context it may start a mapping. -/
def explicitKey (s : Scanner) : Readable Scanner := do
  if !s.inFlow && !s.allowsKey then Readable.malformed
  else
    let s ← (s.startBlock .blockMapping s.cursor.column).dropKey
    return { s.sign .key 1 with allowsKey := !s.inFlow }

/-- The colon of a value: it makes the remembered token a key, or belongs to an explicit one. -/
def value (s : Scanner) : Readable Scanner :=
  match s.pending with
  | some key =>
    let opens := s.opensBlock key.column
    let s := { s.insert key.number .key with pending := none }
    let s :=
      if opens then { s.insert key.number .blockMapping with indents := key.column :: s.indents }
      else s
    .ok { s.sign .value 1 with allowsKey := false }
  | none =>
    if !s.inFlow && !s.allowsKey then Readable.malformed
    else
      let s := s.startBlock .blockMapping s.cursor.column
      .ok { s.sign .value 1 with allowsKey := !s.inFlow }

/-- A token that may be a key, read behind its first character. -/
def mayBeKey (read : List Char → Readable (Token × Nat)) (s : Scanner) :
    Readable Scanner := do
  let s ← s.rememberKey
  let (token, count) ← read (s.cursor.rest.drop 1)
  return { s.sign token (count + 1) with allowsKey := false }

/-- A text between quotes. -/
def quotedText (double : Bool) : Scanner → Readable Scanner :=
  mayBeKey fun rest => do
    let (text, count) ← quoted double rest
    return (.scalar false (String.ofList text), count)

/-- A text without quotes. -/
def plainText (s : Scanner) : Readable Scanner := do
  let s ← s.rememberKey
  let found := plain s.inFlow (s.indent + 1) s.cursor.rest
  return { s.sign (.scalar true (String.ofList found.text)) found.count with
    allowsKey := found.endsLine }

/-- A text in lines of its own. -/
def blockScalar (folded : Bool) (s : Scanner) : Readable Scanner := do
  let s ← s.dropKey
  let (text, count) ← blockText folded s.indent (s.cursor.rest.drop 1)
  return { s.sign (.scalar false (String.ofList text)) (count + 1) with allowsKey := true }

/-- Whether a sign is complete: inside brackets always, otherwise at the end of a word. -/
def isSign (s : Scanner) (rest : List Char) : Bool := s.inFlow || endsWord rest

/-- Read the token that starts with a character; `rest` is what follows the character. -/
def token (c : Char) (rest : List Char) (s : Scanner) : Readable Scanner :=
  let atLineStart := s.cursor.column == 0
  if c == '%' && atLineStart then do
    let s ← s.documentMark
    let (directive, count) ← scanDirective rest
    return s.sign directive (count + 1)
  else if c == '-' && atLineStart && atDocumentMark (c :: rest) then
    s.documentMark.map (sign .documentStart 3)
  else if c == '.' && atLineStart && atDocumentMark (c :: rest) then
    s.documentMark.map (sign .documentEnd 3)
  else if c == '[' then s.openFlow .openSequence
  else if c == '\x7b' then s.openFlow .openMapping
  else if c == ']' then s.closeFlow .closeSequence
  else if c == '\x7d' then s.closeFlow .closeMapping
  else if c == ',' then s.flowEntry
  else if c == '-' && endsWord rest then s.blockEntry
  else if c == '?' && s.isSign rest then s.explicitKey
  else if c == ':' && s.isSign rest then s.value
  else if c == '*' then s.mayBeKey fun rest => (scanName rest).map fun (n, k) => (.alias n, k)
  else if c == '&' then s.mayBeKey fun rest => (scanName rest).map fun (n, k) => (.anchor n, k)
  else if c == '!' then s.mayBeKey scanTag
  else if c == '|' && !s.inFlow then s.blockScalar false
  else if c == '>' && !s.inFlow then s.blockScalar true
  else if c == '\'' then s.quotedText false
  else if c == '"' then s.quotedText true
  else if startsPlain s.inFlow (c :: rest) then s.plainText
  else Readable.malformed

/-- Go to the next token; behind a line end in block context it may be a key. -/
def skipGap (s : Scanner) : Scanner :=
  let (count, ended) := gap s.cursor.rest
  let s := s.skip count
  if ended && !s.inFlow then { s with allowsKey := true } else s

/-- The tokens that are settled: those before the first that may still turn out to be a key. -/
def settled (s : Scanner) : List Token :=
  let keys := (s.pending :: s.outer).filterMap id
  let unsure := (keys.filter fun key => !isStale s.cursor key).map (·.number)
  s.tokens.reverse.take (unsure.min?.getD s.count)

/-- The scanner one token on, or at the end of the text. -/
def advance (s : Scanner) : Readable (Scanner × Bool) := do
  let s ← s.skipGap.refresh
  let s := s.endBlocks s.cursor.column
  match s.cursor.rest with
  | [] => return (← s.documentMark, true)
  | c :: rest => return (← s.token c rest, false)

/-- The tokens of the rest of a text; the first argument bounds their number. -/
def tokensWithin : Nat → Scanner → Tokens
  | 0, s => ⟨s.settled, some .malformed⟩
  | bound + 1, s =>
    match s.advance with
    | .ok (s, true) => ⟨s.tokens.reverse, none⟩
    | .ok (s, false) => tokensWithin bound s
    | .error fault => ⟨s.settled, some fault⟩

end Scanner

/-- The tokens of a text.  No token is empty, so a text has at most as many steps as characters. -/
def tokens (s : List Char) : Tokens := Scanner.tokensWithin (s.length + 1) (.start s)

end Yaml
end TypeFiles
