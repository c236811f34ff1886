/-
# References

A reference names an address from another one, its *base*.  What it leaves out in front is taken
from there: the scheme, the authority, and the steps of the path up to the last one.

    [ scheme ":" ] [ "//" authority ] path [ ";" parameters ] [ "?" query ] [ "#" fragment ]

| reference | address |
| --- | --- |
| of another scheme, or of one without paths | the reference itself |
| with an authority | the reference with the scheme of the base |
| without a path | the base with the query of the reference, if it has one |
| with a path that starts with a slash | the base with the path of the reference |
| with any other path | the base with the path behind its last slash replaced |

The parameters belong to the last step of a path and are no part of it.  A step `..` takes the step
before it away, also where there is none.  A query, a fragment and parameters that are empty are
left out.
-/

import TypeFiles.Address

namespace TypeFiles
namespace Address

/-- The parts of a reference. -/
structure Reference where
  scheme : List Char
  authority : List Char
  path : List Char
  parameters : List Char
  query : List Char
  fragment : List Char
  deriving DecidableEq, Repr

namespace Reference

/-- The schemes whose addresses name one another by relative references; the empty one stands for
none. -/
def relativeSchemes : List String :=
  ["", "ftp", "http", "gopher", "nntp", "imap", "wais", "file", "https", "shttp", "mms", "prospero",
    "rtsp", "rtsps", "rtspu", "sftp", "svn", "svn+ssh", "ws", "wss"]

/-- The schemes among those whose paths have parameters. -/
def parameterSchemes : List String :=
  ["", "ftp", "http", "imap", "https", "shttp", "mms", "prospero", "rtsp", "rtsps", "rtspu", "sftp"]

/-- Whether a scheme is in a list. -/
def isIn (schemes : List String) (scheme : List Char) : Bool :=
  schemes.contains (String.ofList scheme)

/-- A text in front of a mark, and what stands behind the mark; without a mark, nothing. -/
def splitAt (mark : Char) (s : List Char) : List Char × List Char :=
  match Text.cut? mark s with
  | some (before, behind) => (before, behind)
  | none => (s, [])

/-- Split off an authority. -/
def splitAuthority : List Char → List Char × List Char
  | '/' :: '/' :: rest => Text.cutBefore endsAuthority rest
  | s => ([], s)

/-- Split the parameters off a path: they stand behind the first semicolon of its last step. -/
def splitParameters (path : List Char) : List Char × List Char :=
  let step := (path.reverse.takeWhile fun c => c != '/').reverse
  let (bare, parameters) := splitAt ';' step
  (path.take (path.length - step.length) ++ bare, parameters)

/-- Take a reference apart; one without a scheme has the given one. -/
def read (scheme s : List Char) : Reference :=
  let (own, rest) := splitScheme s
  let scheme := if own.isEmpty then scheme else own
  let (authority, rest) := splitAuthority rest
  let (rest, fragment) := splitAt '#' rest
  let (path, query) := splitAt '?' rest
  let (path, parameters) :=
    if isIn parameterSchemes scheme then splitParameters path else (path, [])
  { scheme, authority, path, parameters, query, fragment }

/-- A part behind a mark; an empty one is left out. -/
def behind (mark : Char) (s : List Char) : List Char := if s.isEmpty then [] else mark :: s

/-- The authority and the path of a reference. -/
def place (r : Reference) : List Char :=
  let path := r.path ++ behind ';' r.parameters
  if r.authority.isEmpty && r.scheme.isEmpty && path.take 2 != ['/', '/'] then path
  else
    let rooted := if path.isEmpty || path.head? == some '/' then path else '/' :: path
    '/' :: '/' :: r.authority ++ rooted

/-- A reference put together again. -/
def chars (r : Reference) : List Char :=
  (if r.scheme.isEmpty then [] else r.scheme ++ [':']) ++
    r.place ++ behind '?' r.query ++ behind '#' r.fragment

/-- The steps of a path that starts from another one.  The steps in between that are empty are left
out. -/
def steps (base path : List Char) : List (List Char) :=
  if path.head? == some '/' then path.splitOn '/'
  else
    let before := base.splitOn '/'
    let before := if before.getLast? == some [] then before else before.dropLast
    match before ++ path.splitOn '/' with
    | first :: rest => first :: (rest.dropLast.filter fun step => !step.isEmpty) ++
      rest.getLast?.toList
    | [] => []

/-- The path that some steps lead to. -/
def walked (steps : List (List Char)) : List Char :=
  let kept := steps.foldl (fun (kept : List (List Char)) step =>
    if step == ['.'] then kept else if step == ['.', '.'] then kept.drop 1 else step :: kept) []
  let ended := match steps.getLast? with
    | some ['.'] | some ['.', '.'] => [] :: kept
    | _ => kept
  match List.intercalate ['/'] ended.reverse with
  | [] => ['/']
  | path => path

/-- The address that a reference names from a base. -/
def resolve (base reference : List Char) : List Char :=
  if reference.isEmpty then base
  else
    let b := read [] base
    let r := read b.scheme reference
    if r.scheme != b.scheme || !isIn relativeSchemes r.scheme then reference
    else if !r.authority.isEmpty then r.chars
    else if r.path.isEmpty && r.parameters.isEmpty then
      { r with
        authority := b.authority
        path := b.path
        parameters := b.parameters
        query := if r.query.isEmpty then b.query else r.query }.chars
    else { r with authority := b.authority, path := walked (steps b.path r.path) }.chars

end Reference
end Address
end TypeFiles
