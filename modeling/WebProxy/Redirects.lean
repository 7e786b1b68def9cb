import WebProxy.FetchChunk

/-! `fetch_following_redirects`: the request loop every proxied upstream call goes through. -/

namespace WebProxy.Redirects

open ByteFile (Bytes)
open FetchChunk (isRedirection)

/-- Header fields in order; a name may occur several times. Names are normalised to lower
case, as `HeaderName` does. -/
abbrev HeaderMap := List (String × Bytes)

def getAll (headers : HeaderMap) (name : String) : List Bytes :=
  (headers.filter (fun field => field.1 = name)).map (·.2)

def remove (headers : HeaderMap) (name : String) : HeaderMap :=
  headers.filter (fun field => field.1 ≠ name)

/-- `HeaderValue::to_str`: visible ASCII and tab only. -/
def toStr (value : Bytes) : Option String :=
  if value.all (fun byte => (32 ≤ byte && byte < 127) || byte = 9) then
    some (String.ofList (value.map (fun byte => Char.ofNat byte.toNat)))
  else none

def authorization : String := "authorization"

def location : String := "location"

inductive Method where
  | get
  | head
  | post
  | other (name : String)
  deriving DecidableEq, Repr

structure UpstreamRequest where
  url : Url
  method : Method
  headers : HeaderMap
  body : Option Bytes
  deriving DecidableEq, Repr

structure UpstreamResponse where
  status : Nat
  headers : HeaderMap
  deriving DecidableEq, Repr

inductive Answer where
  | response (response : UpstreamResponse)
  | failed
  deriving DecidableEq, Repr

structure ErrorResponse where
  status : Nat
  body : String
  deriving DecidableEq, Repr

def badGateway : ErrorResponse := ⟨502, ""⟩

def upstreamError : ErrorResponse := ⟨502, "upstream request failed\n"⟩

def tooManyRedirects : ErrorResponse := ⟨502, "too many upstream redirects\n"⟩

structure Gateway where
  maxRedirects : Nat
  allowedRegistryHosts : List String

/-- The host test of each mode. -/
def Gateway.allows (gateway : Gateway) (registry : Bool) (host : String) : Bool :=
  if registry then gateway.allowedRegistryHosts.contains (Text.toAsciiLowercase host)
  else Url.isAllowedGithubHost host

def Gateway.validate (gateway : Gateway) (registry : Bool) (url : Url) : Except String Unit :=
  if registry then Url.validateRegistryUrl gateway.allowedRegistryHosts url
  else Url.validateUpstreamUrl url

def forwardedNames (registry : Bool) : List String :=
  if registry then
    [authorization, "accept", "content-type", "range", "if-range", "if-none-match",
     "if-modified-since", "user-agent"]
  else
    ["accept", "content-type", "range", "if-range", "if-none-match", "if-modified-since",
     "user-agent", "git-protocol"]

def copyRequestHeaders (headers : HeaderMap) (registry : Bool) : HeaderMap :=
  (forwardedNames registry).flatMap (fun name => (getAll headers name).map (fun value => (name, value)))

def redirectMethod (status : Nat) (method : Method) : Except ErrorResponse Method :=
  if status = 303 ∨ ((status = 301 ∨ status = 302) ∧ method = .post) then .ok .get
  else if status ∈ [301, 302, 303, 307, 308] then .ok method
  else .error badGateway

/-- The last word on method and body: a POST survives 307 and 308 only. -/
def redirectBody (status : Nat) (method : Method) (body : Option Bytes) : Method × Option Bytes :=
  if method = .post ∧ ¬ (status = 307 ∨ status = 308) then (.get, none) else (method, body)

structure Trace where
  requests : List UpstreamRequest
  outcome : Except ErrorResponse UpstreamResponse

structure Hop where
  url : Url
  method : Method
  headers : HeaderMap
  body : Option Bytes

def Hop.request (hop : Hop) (registry : Bool) : UpstreamRequest :=
  ⟨hop.url, hop.method, copyRequestHeaders hop.headers registry, hop.body⟩

/-- What a redirect response leads to: the next hop, or the response the loop gives up with. -/
def follow (join : Url → String → Option Url) (gateway : Gateway) (registry : Bool)
    (response : UpstreamResponse) (hop : Hop) (redirects : Nat) : Except ErrorResponse Hop :=
  if gateway.maxRedirects ≤ redirects then .error tooManyRedirects
  else
    match (getAll response.headers location).head?.bind toStr with
    | none => .error badGateway
    | some place =>
        match join hop.url place with
        | none => .error badGateway
        | some next =>
            match gateway.validate registry next with
            | .error _ => .error badGateway
            | .ok () =>
                match redirectMethod response.status hop.method with
                | .error error => .error error
                | .ok method =>
                    let (method, body) := redirectBody response.status method hop.body
                    let headers :=
                      if hop.url.host ≠ next.host then remove hop.headers authorization
                      else hop.headers
                    .ok ⟨next, method, headers, body⟩

/-- The loop; each round consumes one answer, and a missing answer is a failed send. -/
def fetchLoop (join : Url → String → Option Url) (gateway : Gateway) (registry : Bool) :
    List Answer → Hop → Nat → Trace
  | [], hop, _ =>
      match gateway.validate registry hop.url with
      | .error _ => ⟨[], .error badGateway⟩
      | .ok () => ⟨[hop.request registry], .error upstreamError⟩
  | answer :: answers, hop, redirects =>
      match gateway.validate registry hop.url with
      | .error _ => ⟨[], .error badGateway⟩
      | .ok () =>
          match answer with
          | .failed => ⟨[hop.request registry], .error upstreamError⟩
          | .response response =>
              if isRedirection response.status then
                match follow join gateway registry response hop redirects with
                | .error error => ⟨[hop.request registry], .error error⟩
                | .ok next =>
                    let rest := fetchLoop join gateway registry answers next (redirects + 1)
                    ⟨hop.request registry :: rest.requests, rest.outcome⟩
              else ⟨[hop.request registry], .ok response⟩

def fetchFollowingRedirects (join : Url → String → Option Url) (gateway : Gateway)
    (registry : Bool) (answers : List Answer) (url : Url) (method : Method) (headers : HeaderMap)
    (body : Option Bytes) : Trace :=
  fetchLoop join gateway registry answers ⟨url, method, headers, body⟩ 0

def followedStatuses (join : Url → String → Option Url) (gateway : Gateway) (registry : Bool) :
    List Answer → Hop → Nat → List Nat
  | .response response :: answers, hop, redirects =>
      match gateway.validate registry hop.url with
      | .error _ => []
      | .ok () =>
          if isRedirection response.status then
            match follow join gateway registry response hop redirects with
            | .error _ => []
            | .ok next => response.status ::
                followedStatuses join gateway registry answers next (redirects + 1)
          else []
  | _, _, _ => []

variable {join : Url → String → Option Url} {gateway : Gateway} {registry : Bool}

theorem validate_ok {url : Url} (valid : gateway.validate registry url = .ok ()) :
    Url.Permitted (gateway.allows registry) url := by
  cases registry with
  | false => exact Url.validateWith_ok valid
  | true => exact Url.validateWith_ok valid

/-- What holds of no request, of a single one, and is kept when a request and the redirect that
answers it are put in front of those of the hop it leads to, holds of every call. -/
theorem fetchLoop_followed_rule (property : Hop → Nat → List Nat → List UpstreamRequest → Prop)
    (unsent : ∀ hop redirects message, gateway.validate registry hop.url = .error message →
      property hop redirects [] [])
    (single : ∀ hop redirects, gateway.validate registry hop.url = .ok () →
      property hop redirects [] [hop.request registry])
    (followed : ∀ hop next response redirects statuses requests,
      gateway.validate registry hop.url = .ok () →
      follow join gateway registry response hop redirects = .ok next →
      property next (redirects + 1) statuses requests →
      property hop redirects (response.status :: statuses) (hop.request registry :: requests))
    (answers : List Answer) (hop : Hop) (redirects : Nat) :
    property hop redirects (followedStatuses join gateway registry answers hop redirects)
      (fetchLoop join gateway registry answers hop redirects).requests := by
  induction answers generalizing hop redirects with
  | nil =>
      cases valid : gateway.validate registry hop.url with
      | error message =>
          simpa [fetchLoop, followedStatuses, valid] using unsent hop redirects message valid
      | ok passed => simpa [fetchLoop, followedStatuses, valid] using single hop redirects valid
  | cons answer answers ih =>
      cases valid : gateway.validate registry hop.url with
      | error message =>
          cases answer with
          | failed => simpa [fetchLoop, followedStatuses, valid] using unsent hop redirects message valid
          | response response =>
              simpa [fetchLoop, followedStatuses, valid] using unsent hop redirects message valid
      | ok passed =>
          cases answer with
          | failed => simpa [fetchLoop, followedStatuses, valid] using single hop redirects valid
          | response response =>
              cases redirection : isRedirection response.status with
              | false =>
                  simpa [fetchLoop, followedStatuses, valid, redirection] using
                    single hop redirects valid
              | true =>
                  cases chosen : follow join gateway registry response hop redirects with
                  | error error =>
                      simpa [fetchLoop, followedStatuses, valid, redirection, chosen] using
                        single hop redirects valid
                  | ok next =>
                      have later := followed hop next response redirects _ _ valid chosen
                        (ih next (redirects + 1))
                      simpa [fetchLoop, followedStatuses, valid, redirection, chosen] using later

theorem fetchLoop_rule (property : Hop → Nat → List UpstreamRequest → Prop)
    (unsent : ∀ hop redirects, property hop redirects [])
    (single : ∀ hop redirects, gateway.validate registry hop.url = .ok () →
      property hop redirects [hop.request registry])
    (followed : ∀ hop next response redirects requests,
      gateway.validate registry hop.url = .ok () →
      follow join gateway registry response hop redirects = .ok next →
      property next (redirects + 1) requests →
      property hop redirects (hop.request registry :: requests))
    (answers : List Answer) (hop : Hop) (redirects : Nat) :
    property hop redirects (fetchLoop join gateway registry answers hop redirects).requests :=
  fetchLoop_followed_rule (fun hop redirects _ requests => property hop redirects requests)
    (fun hop redirects _ _ => unsent hop redirects) single
    (fun hop next response redirects _ requests => followed hop next response redirects requests)
    answers hop redirects

theorem follow_ok_iff {response : UpstreamResponse} {hop next : Hop} {redirects : Nat} :
    follow join gateway registry response hop redirects = .ok next ↔
      redirects < gateway.maxRedirects ∧ ∃ place method,
        (getAll response.headers location).head?.bind toStr = some place ∧
        join hop.url place = some next.url ∧ gateway.validate registry next.url = .ok () ∧
        redirectMethod response.status hop.method = .ok method ∧
        (next.method, next.body) = redirectBody response.status method hop.body ∧
        next.headers = if hop.url.host ≠ next.url.host then remove hop.headers authorization
          else hop.headers := by
  constructor
  · intro chosen
    unfold follow at chosen
    split at chosen
    · cases chosen
    · rename_i limit
      split at chosen
      · cases chosen
      · rename_i place named
        split at chosen
        · cases chosen
        · rename_i url joined
          split at chosen
          · cases chosen
          · rename_i valid
            split at chosen
            · cases chosen
            · rename_i method changed
              cases chosen
              exact ⟨Nat.not_le.mp limit, place, method, named, joined, valid, changed, rfl, rfl⟩
  · rintro ⟨below, place, method, named, joined, valid, changed, carried, headers⟩
    obtain ⟨url, nextMethod, nextHeaders, body⟩ := next
    simp only at joined valid headers carried
    rw [follow, if_neg (Nat.not_le.mpr below)]
    simp only [named, joined, valid, changed, headers, ← carried]

theorem fetchLoop_length (answers : List Answer) (hop : Hop) (redirects : Nat)
    (inside : redirects ≤ gateway.maxRedirects) :
    (fetchLoop join gateway registry answers hop redirects).requests.length + redirects ≤
      gateway.maxRedirects + 1 := by
  refine fetchLoop_rule (fun _ redirects requests => redirects ≤ gateway.maxRedirects →
    requests.length + redirects ≤ gateway.maxRedirects + 1) ?_ ?_ ?_ answers hop redirects inside
  · intro hop redirects inside
    rw [List.length_nil]
    omega
  · intro hop redirects _ inside
    rw [List.length_singleton]
    omega
  · intro hop next response redirects requests _ chosen later _
    have below := (follow_ok_iff.mp chosen).1
    have rest := later below
    rw [List.length_cons]
    omega

theorem fetchLoop_first {answers : List Answer} {hop : Hop} {redirects : Nat}
    {response : UpstreamResponse}
    (ended : (fetchLoop join gateway registry answers hop redirects).outcome = .ok response) :
    (fetchLoop join gateway registry answers hop redirects).requests.head? =
      some (hop.request registry) := by
  cases valid : gateway.validate registry hop.url with
  | error message =>
      cases answers with
      | nil => simp [fetchLoop, valid] at ended
      | cons answer answers => simp [fetchLoop, valid] at ended
  | ok passed =>
      cases answers with
      | nil => simp [fetchLoop, valid] at ended
      | cons answer answers =>
          cases answer with
          | failed => simp [fetchLoop, valid] at ended
          | response found =>
              cases redirection : isRedirection found.status with
              | false => simp [fetchLoop, valid, redirection]
              | true =>
                  cases chosen : follow join gateway registry found hop redirects with
                  | error error => simp [fetchLoop, valid, redirection, chosen] at ended
                  | ok next => simp [fetchLoop, valid, redirection, chosen]

theorem fetchLoop_validated (answers : List Answer) (hop : Hop) (redirects : Nat) :
    ∀ request ∈ (fetchLoop join gateway registry answers hop redirects).requests,
      gateway.validate registry request.url = .ok () := by
  refine fetchLoop_rule (fun _ _ requests => ∀ request ∈ requests,
    gateway.validate registry request.url = .ok ()) ?_ ?_ ?_ answers hop redirects
  · intro _ _ request member
    cases member
  · intro hop _ valid request member
    cases List.mem_singleton.mp member
    exact valid
  · intro hop next _ _ requests valid _ later request member
    rcases List.mem_cons.mp member with rfl | member
    · exact valid
    · exact later request member

theorem getAll_remove (headers : HeaderMap) (name : String) : getAll (remove headers name) name = [] := by
  simp only [getAll, remove, List.filter_filter, List.map_eq_nil_iff, List.filter_eq_nil_iff]
  intro field _
  simp

theorem getAll_append (front back : HeaderMap) (name : String) :
    getAll (front ++ back) name = getAll front name ++ getAll back name := by
  simp [getAll]

theorem getAll_group (values : List Bytes) (group name : String) :
    getAll (values.map (fun value => (group, value))) name = if group = name then values else [] := by
  by_cases same : group = name <;> simp [getAll, List.filter_map, Function.comp_def, same]

theorem getAll_copied (headers : HeaderMap) (names : List String) (name : String) :
    getAll (names.flatMap (fun group => (getAll headers group).map (fun value => (group, value)))) name =
      (List.replicate (names.count name) (getAll headers name)).flatten := by
  induction names with
  | nil => rfl
  | cons group names ih =>
      rw [List.flatMap_cons, getAll_append, getAll_group, ih, List.count_cons]
      by_cases same : group = name
      · subst same
        simp [List.replicate_succ]
      · simp [same]

theorem request_authorization (hop : Hop) :
    getAll (hop.request registry).headers authorization =
      if registry then getAll hop.headers authorization else [] := by
  rw [Hop.request, copyRequestHeaders, getAll_copied]
  cases registry with
  | false =>
      have unlisted : (forwardedNames false).count authorization = 0 := by decide
      simp [unlisted]
  | true =>
      have once : (forwardedNames true).count authorization = 1 := by decide
      simp [once]

/-- Where the Authorization values of a call go: nowhere once they are stripped, and only in
requests before which every request went to the host the call started from. -/
structure AuthorizationHome (hop : Hop) (requests : List UpstreamRequest) : Prop where
  stripped : getAll hop.headers authorization = [] →
    ∀ request ∈ requests, getAll request.headers authorization = []
  home : ∀ (later earlier : Nat) (request previous : UpstreamRequest),
    requests[later]? = some request → requests[earlier]? = some previous → earlier ≤ later →
    getAll request.headers authorization ≠ [] → previous.url.host = hop.url.host

theorem authorizationHome_single (hop : Hop) :
    AuthorizationHome hop [hop.request registry] := by
  constructor
  · intro stripped request member
    cases List.mem_singleton.mp member
    rw [request_authorization, stripped, ite_self]
  · intro later earlier request previous _ before _ _
    cases earlier with
    | zero =>
        cases before
        rfl
    | succ earlier => cases before

theorem authorizationHome_followed {hop next : Hop} {requests : List UpstreamRequest}
    (headers : next.headers = if hop.url.host ≠ next.url.host then remove hop.headers authorization
      else hop.headers)
    (rest : AuthorizationHome next requests) :
    AuthorizationHome hop (hop.request registry :: requests) := by
  constructor
  · intro stripped request member
    rcases List.mem_cons.mp member with rfl | member
    · rw [request_authorization, stripped, ite_self]
    · refine rest.stripped ?_ request member
      rw [headers]
      split
      · exact getAll_remove _ _
      · exact stripped
  · intro later earlier request previous sent before order carried
    cases later with
    | zero =>
        cases Nat.le_zero.mp order
        cases before
        rfl
    | succ later =>
        rw [List.getElem?_cons_succ] at sent
        by_cases moved : hop.url.host ≠ next.url.host
        · -- the host changed, so the values were removed before the rest was sent
          rw [if_pos moved] at headers
          have bare := rest.stripped (by rw [headers]; exact getAll_remove _ _) request
            (List.mem_of_getElem? sent)
          exact absurd bare carried
        · cases earlier with
          | zero =>
              cases before
              rfl
          | succ earlier =>
              rw [List.getElem?_cons_succ] at before
              rw [rest.home later earlier request previous sent before (by omega) carried]
              exact (not_not.mp moved).symm

theorem fetchLoop_authorizationHome (answers : List Answer) (hop : Hop) (redirects : Nat) :
    AuthorizationHome hop (fetchLoop join gateway registry answers hop redirects).requests := by
  refine fetchLoop_rule (fun hop _ requests => AuthorizationHome hop requests) ?_ ?_ ?_ answers hop
    redirects
  · intro hop _
    constructor
    · intro _ request member
      cases member
    · intro _ _ _ _ sent
      cases sent
  · intro hop _ _
    exact authorizationHome_single hop
  · intro hop next _ _ requests _ chosen rest
    obtain ⟨_, _, _, _, _, _, _, _, headers⟩ := follow_ok_iff.mp chosen
    exact authorizationHome_followed headers rest

theorem fetchLoop_github_unauthorized (answers : List Answer) (hop : Hop) (redirects : Nat) :
    ∀ request ∈ (fetchLoop join gateway false answers hop redirects).requests,
      getAll request.headers authorization = [] := by
  have bare : ∀ hop : Hop, getAll (hop.request false).headers authorization = [] := by
    intro hop
    rw [request_authorization]
    rfl
  refine fetchLoop_rule (fun _ _ requests => ∀ request ∈ requests,
    getAll request.headers authorization = []) ?_ ?_ ?_ answers hop redirects
  · intro _ _ request member
    cases member
  · intro hop _ _ request member
    cases List.mem_singleton.mp member
    exact bare hop
  · intro hop _ _ _ requests _ _ later request member
    rcases List.mem_cons.mp member with rfl | member
    · exact bare hop
    · exact later request member

/-- Redirects are contained: a call sends at most `max_redirects + 1` requests, each to a URL
that passes its mode's validator; Authorization values go only to the host the call started
from, never after the first change of host, and never in GitHub mode. -/
theorem redirects_contained (join : Url → String → Option Url) (gateway : Gateway)
    (registry : Bool) (answers : List Answer) (url : Url) (method : Method) (headers : HeaderMap)
    (body : Option Bytes) :
    let requests :=
      (fetchFollowingRedirects join gateway registry answers url method headers body).requests
    requests.length ≤ gateway.maxRedirects + 1 ∧
      (∀ request ∈ requests, gateway.validate registry request.url = .ok () ∧
        Url.Permitted (gateway.allows registry) request.url) ∧
      (∀ (later earlier : Nat) (request previous : UpstreamRequest),
        requests[later]? = some request → requests[earlier]? = some previous → earlier ≤ later →
        getAll request.headers authorization ≠ [] → previous.url.host = url.host) ∧
      (registry = false → ∀ request ∈ requests, getAll request.headers authorization = []) := by
  refine ⟨?_, ?_, (fetchLoop_authorizationHome answers _ 0).home, ?_⟩
  · exact fetchLoop_length answers _ 0 (Nat.zero_le _)
  · intro request member
    have valid := fetchLoop_validated answers _ 0 request member
    exact ⟨valid, validate_ok valid⟩
  · intro github
    subst github
    exact fetchLoop_github_unauthorized answers _ 0

end WebProxy.Redirects
