/-
# Requests that lead on

A page is asked for, and the servers that it leads on to.  The requests form a chain; what comes of
it is settled by the last of them, unless the chain is too long.

| at a request | the chain |
| --- | --- |
| its page leads on, the next request can be made, and it is followed | goes on |
| its page leads nowhere, or on but is not followed | ends with the page |
| it is lost by the servers, has no kind, or the next one cannot be made | ends in an accident |
| there is no page, or the location of the next one is none | ends with a problem |

`fetchWithin_eq_accident_iff` says this of the third row, for every bound on the number of requests.
The next request is made even if it is not followed, so a page that is there can be lost by it.
What the servers fail by is their own.
-/

import TypeFiles.Proofs.Success
import TypeFiles.Web

namespace TypeFiles
namespace Web

variable {servers : Servers} {follows : Bool} {bound : Nat} {request next : Request}
  {page : Page} {a : Accident}

/-- The page of a request that can be answered. -/
structure Answers (servers : Servers) (request : Request) (page : Page) : Prop where
  served : servers request.text = .ok page
  hasKind : request.hasKind = true

/-- The page of a request leads on to another request. -/
def LeadsOn (servers : Servers) (request next : Request) : Prop :=
  ∃ page location, Answers servers request page ∧ page.leadsTo? = some location ∧
    nextRequest request location = .ok next

/-- The ways in which a request ends in an accident. -/
inductive StrandsAt (servers : Servers) (request : Request) : Accident → Prop
  | unanswered (a : Accident) (failed : servers request.text = .error (.accident a)) :
      StrandsAt servers request a
  | unknownKind (page : Page) (served : servers request.text = .ok page)
      (hasKind : request.hasKind = false) : StrandsAt servers request (.unknownKind request.text)
  | badNext (page : Page) (location : String) (a : Accident) (answers : Answers servers request page)
      (leads : page.leadsTo? = some location)
      (bad : nextRequest request location = .error (.accident a)) : StrandsAt servers request a

/-- A request leads on to another one in some steps. -/
inductive LeadsIn (servers : Servers) : Nat → Request → Request → Prop
  | here (request : Request) : LeadsIn servers 0 request request
  | on {n : Nat} {request next last : Request} (leads : LeadsOn servers request next)
      (rest : LeadsIn servers n next last) : LeadsIn servers (n + 1) request last

/-- A chain of requests ends in an accident; without following it has one request only. -/
def Strands (servers : Servers) (follows : Bool) (bound : Nat) (request : Request)
    (a : Accident) : Prop :=
  ∃ n last, n < bound ∧ (follows = true ∨ n = 0) ∧ LeadsIn servers n request last ∧
    StrandsAt servers last a

/-! ## One request -/

/-- What comes of one request: its page, and the request that it leads on to. -/
def turn (servers : Servers) (request : Request) :
    Except WebFault (Page × Option Request) :=
  match servers request.text with
  | .error f => .error f
  | .ok page =>
    if !request.hasKind then .error (.accident (.unknownKind request.text))
    else
      match page.leadsTo? with
      | none => .ok (page, none)
      | some location => (nextRequest request location).map fun next => (page, some next)

theorem fetchWithin_succ : fetchWithin servers follows (bound + 1) request =
    turn servers request >>= fun (page, next?) =>
      match next? with
      | none => .ok page
      | some next => if follows then fetchWithin servers follows bound next else .ok page := by
  rw [fetchWithin, turn]
  cases servers request.text with
  | error f => rfl
  | ok page =>
    cases hkind : request.hasKind with
    | false => rfl
    | true =>
      cases hleads : page.leadsTo? with
      | none => simp only [bind, Except.bind, hleads]; rfl
      | some location =>
        simp only [bind, Except.bind, hleads]
        cases nextRequest request location <;> rfl

theorem turn_of_answers (h : Answers servers request page) : turn servers request =
    match page.leadsTo? with
    | none => .ok (page, none)
    | some location => (nextRequest request location).map fun next => (page, some next) := by
  simp [turn, h.served, h.hasKind]

/-- What is known of a request, by what comes of it. -/
theorem turn_cases (servers : Servers) (request : Request) :
    (∃ c, turn servers request = .error (.cause c)) ∨
      (∃ a, turn servers request = .error (.accident a) ∧ StrandsAt servers request a) ∨
      ∃ page, Answers servers request page := by
  unfold turn
  cases hserved : servers request.text with
  | error f =>
    cases f with
    | cause c => exact .inl ⟨c, rfl⟩
    | accident a => exact .inr (.inl ⟨a, rfl, .unanswered a hserved⟩)
  | ok page =>
    cases hkind : request.hasKind with
    | false => exact .inr (.inl ⟨_, rfl, .unknownKind page hserved hkind⟩)
    | true => exact .inr (.inr ⟨page, hserved, hkind⟩)

theorem turn_eq_accident_iff :
    turn servers request = .error (.accident a) ↔ StrandsAt servers request a := by
  constructor
  · intro h
    rcases turn_cases servers request with ⟨c, hturn⟩ | ⟨b, hturn, hstrands⟩ | ⟨page, hpage⟩
    · rw [hturn] at h
      cases h
    · obtain rfl : b = a := by simpa [hturn] using h
      exact hstrands
    · rw [turn_of_answers hpage] at h
      split at h
      · cases h
      · rename_i location hleads
        exact .badNext page location a hpage hleads (map_eq_error_iff.1 h)
  · rintro (⟨_, failed⟩ | ⟨page, served, kind⟩ | ⟨page, location, _, answers, leads, bad⟩)
    · simp [turn, failed]
    · simp [turn, served, kind]
    · rw [turn_of_answers answers, leads]
      exact map_eq_error_iff.2 bad

theorem leadsOn_iff :
    LeadsOn servers request next ↔ ∃ page, turn servers request = .ok (page, some next) := by
  constructor
  · rintro ⟨page, location, answers, leads, hnext⟩
    refine ⟨page, ?_⟩
    simp only [turn_of_answers answers, leads, hnext]
    rfl
  · rintro ⟨page, h⟩
    rcases turn_cases servers request with ⟨_, hturn⟩ | ⟨_, hturn, -⟩ | ⟨page', hpage⟩
    · rw [hturn] at h
      cases h
    · rw [hturn] at h
      cases h
    · rw [turn_of_answers hpage] at h
      split at h
      · cases h
      · rename_i location hleads
        obtain ⟨next', hnext, heq⟩ := map_eq_ok_iff.1 h
        obtain rfl := Option.some.inj (Prod.mk.inj heq).2
        exact ⟨page', location, hpage, hleads, hnext⟩

/-- A request ends in an accident by itself, or by the next one if that is followed. -/
theorem fetchWithin_succ_eq_accident_iff :
    fetchWithin servers follows (bound + 1) request = .error (.accident a) ↔
      StrandsAt servers request a ∨ ∃ next, LeadsOn servers request next ∧ follows = true ∧
        fetchWithin servers follows bound next = .error (.accident a) := by
  rw [fetchWithin_succ, bind_eq_error_iff, turn_eq_accident_iff]
  refine or_congr_right ⟨?_, ?_⟩
  · rintro ⟨⟨page, next?⟩, hturn, h⟩
    cases next? with
    | none => cases h
    | some next =>
      cases follows with
      | false => cases h
      | true => exact ⟨next, leadsOn_iff.2 ⟨page, hturn⟩, rfl, h⟩
  · rintro ⟨next, hleads, rfl, h⟩
    obtain ⟨page, hturn⟩ := leadsOn_iff.1 hleads
    exact ⟨_, hturn, h⟩

/-! ## A chain of requests -/

/-- **Fetching ends in an accident exactly if a request of the chain does.** -/
theorem fetchWithin_eq_accident_iff :
    fetchWithin servers follows bound request = .error (.accident a) ↔
      Strands servers follows bound request a := by
  induction bound generalizing request with
  | zero => exact iff_of_false nofun fun ⟨_, _, hlt, _⟩ => Nat.not_lt_zero _ hlt
  | succ bound ih =>
    rw [fetchWithin_succ_eq_accident_iff]
    simp only [ih]
    constructor
    · rintro (hstrands | ⟨next, hleads, hfollows, n, last, hlt, -, hrest, hstrands⟩)
      · exact ⟨0, request, Nat.succ_pos _, .inr rfl, .here request, hstrands⟩
      · exact ⟨n + 1, last, Nat.succ_lt_succ hlt, .inl hfollows, .on hleads hrest, hstrands⟩
    · rintro ⟨n, last, hlt, hfollows, hchain, hstrands⟩
      cases hchain with
      | here => exact .inl hstrands
      | @on n _ next _ hleads hrest =>
        have hyes : follows = true := hfollows.resolve_right (Nat.succ_ne_zero n)
        exact .inr ⟨next, hleads, hyes, n, last, Nat.lt_of_succ_lt_succ hlt, .inl hyes, hrest,
          hstrands⟩

/-! ## An address -/

/-- The request that an address makes first. -/
def firstRequest (address : String) : Except WebFault Request := do
  let request ← orBad (Request.read? address.toList)
  addressed (← orBad request.atServer?)

/-- The ways in which nothing at an address is found, and nothing looks out for it. -/
inductive Unfetched (servers : Servers) (follows : Bool) (address : String) :
    Accident → Prop
  | badFirst (a : Accident) (bad : firstRequest address = .error (.accident a)) :
      Unfetched servers follows address a
  | stranded (request : Request) (a : Accident) (first : firstRequest address = .ok request)
      (strands : Strands servers follows (mostRedirects + 1) request a) :
      Unfetched servers follows address a

/-- A page is fetched by the first request and those that it leads on to, if it is a success. -/
theorem fetch_eq {address : String} : fetch servers follows address =
    firstRequest address >>= fun request =>
      fetchWithin servers follows (mostRedirects + 1) request >>= fun page =>
        if page.isSuccess then .ok page else .error (.cause .httpStatus) := by
  unfold fetch firstRequest
  simp only [bind_assoc]
  rfl

theorem fetch_eq_accident_iff {address : String} :
    fetch servers follows address = .error (.accident a) ↔ Unfetched servers follows address a := by
  rw [fetch_eq, bind_eq_error_iff]
  simp only [bind_eq_error_iff, fetchWithin_eq_accident_iff]
  constructor
  · rintro (hbad | ⟨request, hfirst, hstrands | ⟨page, -, h⟩⟩)
    · exact .badFirst a hbad
    · exact .stranded request a hfirst hstrands
    · split at h <;> cases h
  · rintro (⟨_, hbad⟩ | ⟨request, _, hfirst, hstrands⟩)
    · exact .inl hbad
    · exact .inr ⟨request, hfirst, .inl hstrands⟩

/-! ## The accidents of addresses -/

end Web

/-- The accidents that an address or the servers are to blame for. -/
inductive Accident.IsOfWeb (servers : Servers) : Accident → Prop
  | badAddress : IsOfWeb servers .badAddress
  | badHost (f : Address.HostFault) : IsOfWeb servers (.badHost f)
  | notAscii : IsOfWeb servers .notAscii
  | unknownKind (request : String) : IsOfWeb servers (.unknownKind request)
  | unanswered (request : String) (a : Accident) (h : servers request = .error (.accident a)) :
      IsOfWeb servers a

/-- A page is not found for a cause, or an address or the servers are to blame. -/
def WebFault.IsOfWeb (servers : Servers) : WebFault → Prop
  | .cause _ => True
  | .accident a => a.IsOfWeb servers

namespace Web

theorem failsOnly_orBad (r : Option Request) : FailsOnly (WebFault.IsOfWeb servers) (orBad r) := by
  cases r with
  | some r => exact failsOnly_ok r
  | none => exact failsOnly_error Accident.IsOfWeb.badAddress

theorem failsOnly_hostName (r : Request) : FailsOnly (WebFault.IsOfWeb servers) (hostName r) := by
  unfold hostName
  split
  · exact failsOnly_ok _
  · exact failsOnly_error (Accident.IsOfWeb.badHost _)

theorem failsOnly_addressed (r : Request) : FailsOnly (WebFault.IsOfWeb servers) (addressed r) := by
  refine (failsOnly_hostName r).bind fun host => ?_
  split
  · exact failsOnly_ok _
  · exact failsOnly_error Accident.IsOfWeb.notAscii

theorem failsOnly_nextRequest (request : Request) (location : String) :
    FailsOnly (WebFault.IsOfWeb servers) (nextRequest request location) := by
  have hhost : ∀ next, FailsOnly (WebFault.IsOfWeb servers) (withHost request next) := by
    intro next
    unfold withHost
    split
    · exact failsOnly_ok _
    · refine (failsOnly_hostName next).bind fun host => ?_
      split
      · exact (failsOnly_hostName request).bind fun _ => failsOnly_orBad _
      · exact failsOnly_ok _
  have hserver : ∀ next, FailsOnly (WebFault.IsOfWeb servers) (withServer request next) := by
    intro next
    unfold withServer
    split
    · exact failsOnly_ok _
    · exact failsOnly_orBad _
  have hfragment : ∀ next, FailsOnly (WebFault.IsOfWeb servers) (withFragment request next) := by
    intro next
    unfold withFragment
    dsimp only
    split
    · exact failsOnly_ok _
    · exact failsOnly_orBad _
  unfold nextRequest
  split
  · exact failsOnly_error trivial
  · exact (hhost _).bind fun _ => (hserver _).bind fun _ => (hfragment _).bind fun _ =>
      failsOnly_addressed _

theorem failsOnly_firstRequest (address : String) :
    FailsOnly (WebFault.IsOfWeb servers) (firstRequest address) :=
  (failsOnly_orBad _).bind fun _ => (failsOnly_orBad _).bind fun _ => failsOnly_addressed _

/-- **What is not fetched by accident is an address to blame for, or the servers are.** -/
theorem Unfetched.isOfWeb {address : String} (h : Unfetched servers follows address a) :
    a.IsOfWeb servers := by
  cases h with
  | badFirst _ bad => exact failsOnly_firstRequest address _ bad
  | stranded request _ first strands =>
    obtain ⟨n, last, -, -, -, hstrands⟩ := strands
    cases hstrands with
    | unanswered _ failed => exact .unanswered last.text a failed
    | unknownKind => exact .unknownKind _
    | badNext page location _ _ _ bad => exact failsOnly_nextRequest last location _ bad

end Web
end TypeFiles
