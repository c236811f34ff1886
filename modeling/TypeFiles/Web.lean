/-
# Pages on servers

A server answers a request with a page: a status, a text, and what kind of text it is.  A status
from 200 to 299 is success.  A page with one of the statuses 301, 302, 303, 307 and 308 and a
location leads on to another page; whether it is followed is the reader's choice.

What the servers answer is given from outside, and so is the text of a page, or why its bytes are
none.  `Page.received` is the page that some bytes are, if their charset is one that `Charset`
knows.

A location is a reference from the request that it answers.  Where the next request cannot be made,
the run ends by accident, also if it would not be followed; only a location that is no address at
all is a problem with the page.
-/

import TypeFiles.Address.Request
import TypeFiles.ContentType
import TypeFiles.Failure

namespace TypeFiles

/-- What a server answers. -/
structure Page where
  status : Int
  /-- The text, or why its bytes are none. -/
  text : Except Charset.Fault String
  contentType : Option String
  location : Option String

namespace Page

/-- Whether a page says that the request succeeded. -/
def isSuccess (p : Page) : Bool := 200 ≤ p.status && p.status < 300

/-- The statuses that lead on to another page. -/
def leadingStatuses : List Int := [301, 302, 303, 307, 308]

/-- Where a page leads on to. -/
def leadsTo? (p : Page) : Option String :=
  if leadingStatuses.contains p.status then p.location else none

/-- Whether a page is said to be YAML. -/
def isYaml (p : Page) : Bool :=
  match p.contentType with
  | some kind => Text.occursIn "yaml".toList kind.toList
  | none => false

/-- The page with a body, whose text is in the charset that it is said to be in. -/
def received (status : Int) (body : List UInt8) (contentType location : Option String) : Page where
  status := status
  text :=
    if body.isEmpty then .ok ""
    else ((ContentType.charset contentType).decode body).map String.ofList
  contentType := contentType
  location := location

end Page

/-- Why no page is found. -/
inductive WebFault where
  | cause (c : Cause)
  | accident (a : Accident)
  deriving DecidableEq, Repr

/-- What the servers answer to each request, or why they do not. -/
abbrev Servers := String → Except WebFault Page

namespace Web

/-- Servers none of which can be reached. -/
def unreachable : Servers := fun _ => .error (.cause .unreachable)

/-- The number of times that a page may lead on to another one. -/
def mostRedirects : Nat := 20

/-- A request that has to be good. -/
def orBad (r : Option Request) : Except WebFault Request :=
  match r with
  | some r => .ok r
  | none => .error (.accident .badAddress)

/-- The host of a request, with its labels read. -/
def hostName (r : Request) : Except WebFault (List Char) :=
  match r.hostName with
  | .ok host => .ok host
  | .error f => .error (.accident (.badHost f))

/-- A request whose host can be told to the server. -/
def addressed (r : Request) : Except WebFault Request := do
  let host ← hostName r
  if host.isEmpty || r.host.all fun c => c.toNat < 0x80 then return r
  throw (.accident .notAscii)

/-- The request of a location, with the host of the request before it if it has a scheme and no
host. -/
def withHost (request next : Request) : Except WebFault Request :=
  if next.scheme.isEmpty then return next
  else do
    let host ← hostName next
    if host.isEmpty then do
      let host ← hostName request
      orBad (Request.ofParts? { next with host }.parts)
    else return next

/-- The request of a location; one that names no server is a reference from the request before
it. -/
def withServer (request next : Request) : Except WebFault Request :=
  if next.namesServer then return next
  else orBad (Request.read? (Address.Reference.resolve request.chars next.chars))

/-- The request of a location, with the fragment of the request before it if it has none. -/
def withFragment (request next : Request) : Except WebFault Request :=
  let fragment := request.fragment.getD []
  if fragment.isEmpty || !(next.fragment.getD []).isEmpty then return next
  else orBad (Request.ofParts? { next with fragment := some (Address.unescaped fragment) }.parts)

/-- The request that a location leads to. -/
def nextRequest (request : Request) (location : String) : Except WebFault Request :=
  match Request.read? location.toList with
  | none => .error (.cause .badRedirect)
  | some next => do
    addressed (← withFragment request (← withServer request (← withHost request next)))

/-- Ask for a page, and for the pages it leads on to if they are followed.  The first argument of
the recursion bounds their number. -/
def fetchWithin (servers : Servers) (follows : Bool) : Nat → Request → Except WebFault Page
  | 0, _ => .error (.cause .tooManyRedirects)
  | bound + 1, request => do
    let page ← servers request.text
    if !request.hasKind then throw (.accident (.unknownKind request.text))
    match page.leadsTo? with
    | none => return page
    | some location => do
      let next ← nextRequest request location
      if follows then fetchWithin servers follows bound next else return page

/-- The successful page at an address. -/
def fetch (servers : Servers) (follows : Bool) (address : String) : Except WebFault Page := do
  let request ← orBad (Request.read? address.toList)
  let request ← addressed (← orBad request.atServer?)
  let page ← fetchWithin servers follows (mostRedirects + 1) request
  if page.isSuccess then return page
  throw (.cause .httpStatus)

end Web
end TypeFiles
