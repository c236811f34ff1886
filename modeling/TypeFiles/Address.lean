/-
# Addresses

A document lies in a file or on a server; the text that names it tells which.  An address on a
server is a scheme and an authority,

    scheme "://" authority ( "/" | "?" | "#" | end )

with a scheme of ASCII letters, digits, `+`, `-` and `.` that starts with a letter.  Control
characters and spaces in front are ignored, and tabs and line ends wherever they stand.

An authority with brackets must have a host number of version 6 or of a later version.  It may not
hold a character that turns into one of `/ ? # @ :` when it is decomposed, because the
address would then end elsewhere.
-/

import TypeFiles.Address.Literal
import TypeFiles.Text.Decomposition

namespace TypeFiles
namespace Address

/-- Whether a character may stand in a scheme. -/
def isSchemeChar (c : Char) : Bool := c.isAlphanum || c == '+' || c == '-' || c == '.'

/-- Split off a scheme, written in lower case; without a scheme nothing is split off. -/
def splitScheme (s : List Char) : List Char × List Char :=
  match Text.cut? ':' s with
  | some (c :: scheme, rest) =>
    if c.isAlpha && scheme.all isSchemeChar then ((c :: scheme).map Char.toLower, rest) else ([], s)
  | _ => ([], s)

/-- Whether a character ends an authority. -/
def endsAuthority (c : Char) : Bool := c == '/' || c == '?' || c == '#'

/-- The authority behind a scheme, empty if there is none. -/
def authority : List Char → List Char
  | '/' :: '/' :: rest => (Text.cutBefore endsAuthority rest).1
  | _ => []

/-- Whether a text is a host number of a version after 6: `v`, its version, a dot and any text. -/
def isLaterVersion (s : List Char) : Bool :=
  match s with
  | 'v' :: rest =>
    match Text.cut? '.' rest with
    | some (version, number) =>
      !version.isEmpty && version.all (fun c => (Decimal.digitValue? c).isSome) && !number.isEmpty
    | none => false
  | _ => false

/-- The place of an authority: what stands behind its last `@`. -/
def place (s : List Char) : List Char := (s.reverse.takeWhile fun c => c != '@').reverse

/-- The host that an authority gives by its number; `none` if its brackets stand where they may
not: in front of an opening bracket stands nothing, behind the closing one at most a colon and more.
Without an opening bracket it is what stands in front of the first colon. -/
def numericHost? (s : List Char) : Option (List Char) :=
  match Text.cut? '[' (place s) with
  | some (before, rest) =>
    let (number, behind) := Text.cutBefore (fun c => c == ']') rest
    if before.isEmpty && ((behind.drop 1).isEmpty || behind[1]? == some ':') then some number
    else none
  | none => some (Text.cutBefore (fun c => c == ':') (place s)).1

/-- Whether the brackets of an authority are absent, or hold a host number. -/
def hasSoundBrackets (s : List Char) : Bool :=
  match s.contains '[', s.contains ']' with
  | false, false => true
  | true, true => (numericHost? s).any fun host => isLaterVersion host || isVersion6 host
  | _, _ => false

/-- Whether a character separates the parts of an address. -/
def isDelimiter (c : Char) : Bool :=
  c == '/' || c == '?' || c == '#' || c == '@' || c == ':'

/-- Whether no character of an authority hides a delimiter. -/
def hidesNoDelimiter (s : List Char) : Bool :=
  s.all fun c => isDelimiter c || (Text.decompose c).all fun d => !isDelimiter d

/-- Whether a character is dropped in front of an address: a control character or a space. -/
def isIgnoredInFront (c : Char) : Bool := c.toNat ≤ 0x20

/-- Whether a character is dropped wherever it stands in an address. -/
def isIgnored (c : Char) : Bool := c == '\t' || c == '\n' || c == '\x0d'

/-- An address without the characters that are ignored. -/
def withoutIgnored (s : List Char) : List Char :=
  (s.dropWhile isIgnoredInFront).filter fun c => !isIgnored c

/-- The schemes of addresses on a server. -/
def webSchemes : List String := ["http", "https"]

/-- Whether a text is an address on a server. -/
def isOnServer (text : String) : Bool :=
  let (scheme, rest) := splitScheme (withoutIgnored text.toList)
  let host := authority rest
  webSchemes.contains (String.ofList scheme) && !host.isEmpty && hasSoundBrackets host &&
    hidesNoDelimiter host

end Address
end TypeFiles
