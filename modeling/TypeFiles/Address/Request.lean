/-
# What a server is asked for

An address is taken apart, put into its canonical form and put together again; the result is what
a server is asked for.

    [ scheme ":" ] [ "//" [ user "@" ] host [ ":" number ] ] path [ "?" query ] [ "#" fragment ]

| part | canonical form |
| --- | --- |
| scheme, host | in lower case |
| host that is not ASCII | the form in which its labels are sent (`Address.sentHost`) |
| number behind the host | in decimal digits, left out if it is the usual one of the scheme |
| path | without the steps `.` and `..` |
| any | characters that may not stand there escaped |

An address is *bad* if it is too long, holds an ASCII control character, or has something else than
a number behind the host, a numeric host that is none or an international one that is none.
-/

import TypeFiles.Address.Escape
import TypeFiles.Address.HostName
import TypeFiles.Address.Reference
import TypeFiles.Decimal.Numeral
import TypeFiles.Text.LetterCase.Words

namespace TypeFiles

/-- What a server is asked for, part by part. -/
structure Request where
  scheme : List Char
  user : List Char
  host : List Char
  number : Option Int
  path : List Char
  query : Option (List Char)
  fragment : Option (List Char)
  deriving DecidableEq, Repr

namespace Request

/-- The steps of an automaton that reads four runs of digits with one character between two of
them: an even state waits for a run to start, an odd state is inside a run. -/
def fourRunsStep (states : List Nat) (c : Char) : List Nat :=
  (states.flatMap fun q =>
    (if c.isDigit then [if q % 2 = 0 then q + 1 else q] else []) ++
      (if q % 2 = 1 && q < 7 then [q + 1] else [])).eraseDups

/-- Whether a host looks like four numbers. -/
def looksNumeric (host : List Char) : Bool := (host.foldl fourRunsStep [0]).contains 7

/-- The canonical form of a host, `none` if it is none. -/
def host? (s : List Char) : Option (List Char) :=
  if looksNumeric s then if Address.isVersion4 s then some s else none
  else if s.head? == some '[' && s.getLast? == some ']' then
    let number := (s.drop 1).dropLast
    if Address.isVersion6 number then some number else none
  else if s.all fun c => c.toNat < 0x80 then
    some (Address.escaped Address.isHostChar (s.map Char.toLower))
  else (Address.sentHost (Text.lowered s)).toOption

/-- The number that belongs to a scheme if an address names none. -/
def usualNumber? (scheme : List Char) : Option Int :=
  let numbers : List (String × Int) :=
    [("ftp", 21), ("http", 80), ("https", 443), ("ws", 80), ("wss", 443)]
  numbers.lookup (String.ofList scheme)

/-- A path without its steps `.` and `..`; the latter takes the step before it away. -/
def withoutDots (path : List Char) : List Char :=
  let kept := (path.splitOn '/').foldl (fun (kept : List (List Char)) step =>
    if step == ['.'] then kept
    else if step == ['.', '.'] then
      match kept with
      | [] => []
      | [[]] => [[]]
      | _ :: before => before
    else step :: kept) []
  List.intercalate ['/'] kept.reverse

/-- The part of an authority in front of its last `@`, and the rest. -/
def splitUser (s : List Char) : List Char × List Char :=
  match Text.cut? '@' s.reverse with
  | some (behind, before) => (before.reverse, behind.reverse)
  | none => ([], s)

/-- The host of an authority without a user, and the text behind the colon. -/
def splitHost (s : List Char) : List Char × List Char :=
  let (host, rest) := match s.head?, Text.cut? ']' s.reverse with
    | some '[', some (behind, before) => ((']' :: before).reverse, behind.reverse)
    | _, _ => Text.cutBefore (fun c => c == ':') s
  (host, match rest with
    | ':' :: number => number
    | number => number)

/-- A part in front of a mark, and the part behind the mark if it is there. -/
def splitAt (mark : Char) (s : List Char) : List Char × Option (List Char) :=
  match Text.cut? mark s with
  | some (before, behind) => (before, some behind)
  | none => (s, none)

/-- Split off a scheme as it is written. -/
def splitScheme (s : List Char) : List Char × List Char :=
  match Text.cut? ':' s with
  | some (c :: scheme, rest) =>
    if c.isAlpha && scheme.all Address.isSchemeChar then (c :: scheme, rest) else ([], s)
  | some ([], rest) => ([], rest)
  | none => ([], s)

/-- Whether a path may stand behind the scheme and the authority in front of it. -/
def isSoundPath (hasScheme hasAuthority : Bool) (path : List Char) : Bool :=
  if hasAuthority then path.isEmpty || path.head? == some '/'
  else hasScheme || (path.take 2 != ['/', '/'] && path.head? != some ':')

/-- The number of characters that an address, and a part of one, may have. -/
def longest : Nat := 65536

/-- Whether a text can be an address or a part of one: it is not too long and holds no ASCII control
character. -/
def isSound (s : List Char) : Bool :=
  s.length ≤ longest && !s.any fun c => c.toNat < 0x20 || c.toNat == 0x7F

/-- The parts of an address as they are written. -/
structure Parts where
  scheme : List Char
  authority : List Char
  path : List Char
  query : Option (List Char)
  fragment : Option (List Char)
  deriving DecidableEq, Repr

/-- Take an address apart. -/
def Parts.read (s : List Char) : Parts :=
  let (front, fragment) := splitAt '#' s
  let (front, query) := splitAt '?' front
  let (scheme, rest) := splitScheme front
  let (authority, path) := Address.Reference.splitAuthority rest
  { scheme, authority, path, query, fragment }

/-- The canonical form of the parts of an address; `none` if the address is bad. -/
def ofParts? (p : Parts) : Option Request := do
  guard ([p.scheme, p.authority, p.path, p.query.getD [], p.fragment.getD []].all isSound)
  let (user, place) := splitUser p.authority
  let (host, number) := splitHost place
  let host ← host? host
  let number ← if number.isEmpty then pure none else (Decimal.whole? number).map some
  let number := if number == usualNumber? p.scheme then none else number
  let user := Address.escaped Address.isUserChar user
  let hasAuthority := !user.isEmpty || !host.isEmpty || number.isSome
  guard (isSoundPath (!p.scheme.isEmpty) hasAuthority p.path)
  let path := if p.scheme.isEmpty && !hasAuthority then p.path else withoutDots p.path
  return {
    scheme := p.scheme.map Char.toLower
    user
    host
    number
    path := Address.escaped Address.isPathChar path
    query := p.query.map (Address.escaped Address.isQueryChar)
    fragment := p.fragment.map (Address.escaped Address.isFragmentChar) }

/-- The canonical form of an address; `none` if it is bad. -/
def read? (s : List Char) : Option Request := if isSound s then ofParts? (.read s) else none

/-- A part behind a mark, if there is one. -/
def behind (mark : Char) : Option (List Char) → List Char
  | some s => mark :: s
  | none => []

/-- The authority of a request. -/
def authority (r : Request) : List Char :=
  (if r.user.isEmpty then [] else r.user ++ ['@']) ++
    (if r.host.contains ':' then '[' :: r.host ++ [']'] else r.host) ++
    behind ':' (r.number.map fun n => (toString n).toList)

/-- A request put together again. -/
def chars (r : Request) : List Char :=
  (if r.scheme.isEmpty then [] else r.scheme ++ [':']) ++
    (if r.authority.isEmpty then [] else '/' :: '/' :: r.authority) ++
    r.path ++ behind '?' r.query ++ behind '#' r.fragment

/-- A request as a text. -/
def text (r : Request) : String := String.ofList r.chars

/-- The parts of a request, to be changed and put into canonical form again. -/
def parts (r : Request) : Parts := ⟨r.scheme, r.authority, r.path, r.query, r.fragment⟩

/-- Whether a request names a server. -/
def namesServer (r : Request) : Bool := !r.scheme.isEmpty && !r.host.isEmpty

/-- What is asked for first.  A request that names no server is a bare path. -/
def atServer? (r : Request) : Option Request :=
  if r.namesServer then some r
  else
    let target := (if r.path.isEmpty then ['/'] else r.path) ++ behind '?' r.query
    let (path, query) := splitAt '?' ('/' :: target.dropWhile fun c => c == '/')
    ofParts? ⟨[], [], path, query, none⟩

/-- The host of a request with its labels read. -/
def hostName (r : Request) : Except Address.HostFault (List Char) :=
  if Address.shortMark.isPrefixOf r.host then Address.readHost r.host else .ok r.host

/-- Whether a request starts with a scheme, or at least with something in front of a colon. -/
def hasKind (r : Request) : Bool :=
  match Text.cut? ':' r.chars with
  | some (kind, _) => !kind.isEmpty && !kind.contains '/'
  | none => false

end Request
end TypeFiles
