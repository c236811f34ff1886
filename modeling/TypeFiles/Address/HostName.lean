/-
# International host names

A host name is a row of labels with a dot between two of them.  A server is asked for a name of
ASCII characters; a label with others is sent as `xn--` and its short form (`Text.Punycode`).

Not every text is a label.  A label

* is composed, has no hyphen at either end and no two hyphens at its third and fourth place,
* starts with no mark,
* holds letters of host names only, and a few other characters where their context allows,
* is written in one direction,
* is at most 63 characters long in the form that is sent.
-/

import TypeFiles.Address.HostName.Direction
import TypeFiles.Address.HostName.Joining
import TypeFiles.Address.HostName.Letter
import TypeFiles.Address.HostName.Script
import TypeFiles.Text.Composition
import TypeFiles.Text.Punycode

namespace TypeFiles
namespace Address

/-- Why a text is no host name. -/
inductive HostFault where
  /-- It breaks one of the rules that are not listed below. -/
  | malformed
  /-- A character that no host name holds. -/
  | character
  /-- A character beside others that it may not stand beside. -/
  | context
  | direction
  deriving DecidableEq, Repr

/-- The class of a mark that takes the vowel of a letter away. -/
def viramaClass : Nat := 9

/-- Whether a text, given in reverse, ends with a mark that takes a vowel away. -/
def endsWithVirama (before : List Char) : Bool :=
  match before with
  | c :: _ => Text.combiningClass c == viramaClass
  | [] => false

/-- The digits of Arabic as they are written in the west and in the east. -/
def arabicDigits (c : Char) : Bool := 0x660 ≤ c.toNat && c.toNat ≤ 0x669

/-- The digits of Persian and Urdu. -/
def persianDigits (c : Char) : Bool := 0x6F0 ≤ c.toNat && c.toNat ≤ 0x6F9

/-- Whether a character is one that letters join at or are kept apart by. -/
def isJoiner (c : Char) : Bool := c == '\u200C' || c == '\u200D'

/-- Whether a character is one that only some contexts allow. -/
def needsContext (c : Char) : Bool :=
  isJoiner c || c == '\u00B7' || c == '\u0375' || c == '\u05F3' || c == '\u05F4' ||
    c == '\u30FB' || arabicDigits c || persianDigits c

/-- Whether such a character may stand between two parts of a label, the first given in reverse. -/
def fitsContext (before : List Char) (c : Char) (behind : List Char) : Bool :=
  if c == '\u00B7' then before.head? == some 'l' && behind.head? == some 'l'
  else if c == '\u0375' then behind.head?.any (Text.inRanges greek)
  else if c == '\u05F3' || c == '\u05F4' then before.head?.any (Text.inRanges hebrew)
  else if c == '\u200C' then endsWithVirama before || joinHere before behind
  else if c == '\u200D' then endsWithVirama before
  else if c == '\u30FB' then
    (before ++ behind).any fun d => d != '\u30FB' && Text.inRanges japanese d
  else if arabicDigits c then !(before ++ behind).any persianDigits
  else !(before ++ behind).any arabicDigits

/-- Look at the characters of a label from a place on; what stands in front is given in reverse. -/
def checkCharacters (before : List Char) : List Char → Except HostFault Unit
  | [] => .ok ()
  | c :: behind =>
    if isHostLetter c then checkCharacters (c :: before) behind
    else if !needsContext c then .error .character
    else if fitsContext before c behind then checkCharacters (c :: before) behind
    else .error (if isJoiner c then .malformed else .context)

/-- The number of characters that a host name may have. -/
def longestHost : Nat := 253

/-- The number of characters that a label may have in the form that is sent. -/
def longestLabel : Nat := 63

/-- Whether the hyphens of a label are where they may be. -/
def hasSoundHyphens (label : List Char) : Bool :=
  !(label.drop 2).take 2 == ['-', '-'] && label.head? != some '-' && label.getLast? != some '-'

/-- Look whether a text is a label. -/
def checkLabel (label : List Char) : Except HostFault Unit := do
  if label.isEmpty || longestHost + 1 < label.length || !Text.isComposed label ||
      !hasSoundHyphens label || label.head?.any Text.isAttached then
    throw .malformed
  checkCharacters [] label
  if !hasOneDirection label then throw .direction

/-- What stands in front of a label that is written in its short form. -/
def shortMark : List Char := ['x', 'n', '-', '-']

/-- A code point as a character; a surrogate is none, and becomes one that no label holds. -/
def labelChar (n : Nat) : Char := if n.isValidChar then Char.ofNat n else '\uFFFD'

/-- The label that an ASCII text stands for. -/
def readLabel (s : List Char) : Except HostFault (List Char) := do
  let s := s.map Char.toLower
  if shortMark.isPrefixOf s then
    let short := s.drop shortMark.length
    if short.isEmpty || short.getLast? == some '-' then throw .malformed
    match Text.Punycode.decode? short with
    | none => throw .malformed
    | some points => do
      let label := points.map labelChar
      checkLabel label
      return label
  else do
    checkLabel s
    return s

/-- A label in the form that is sent. -/
def sentLabel (label : List Char) : Except HostFault (List Char) := do
  let sent ←
    if label.all Text.Punycode.isBasic then do
      let _ ← readLabel label
      pure label
    else do
      checkLabel label
      pure (shortMark ++ Text.Punycode.encode label)
  if longestLabel < sent.length then throw .malformed
  return sent

/-- Whether a character divides two labels. -/
def isLabelDot (c : Char) : Bool :=
  c == '.' || c == '\u3002' || c == '\uFF0E' || c == '\uFF61'

/-- Apply a function to every label of a host name.  One dot may stand at its end. -/
def mapLabels (f : List Char → Except HostFault (List Char)) (host : List Char) :
    Except HostFault (List Char) := do
  if longestHost + 1 < host.length then throw .malformed
  let labels := host.splitOnP isLabelDot
  let ended := labels.getLast? == some []
  let images ← (if ended then labels.dropLast else labels).mapM f
  if images.isEmpty then throw .malformed
  return List.intercalate ['.'] (if ended then images ++ [[]] else images)

/-- A host name in the form that is sent. -/
def sentHost (host : List Char) : Except HostFault (List Char) := do
  let sent ← mapLabels sentLabel host
  let longest := if sent.getLast? == some '.' then longestHost + 1 else longestHost
  if longest < sent.length then throw .malformed
  return sent

/-- The host name that an ASCII text stands for. -/
def readHost (s : List Char) : Except HostFault (List Char) := mapLabels readLabel s

end Address
end TypeFiles
