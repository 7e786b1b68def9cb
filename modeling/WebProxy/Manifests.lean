import WebProxy.Library.Machine
import WebProxy.Library.Slots
import WebProxy.Challenge
import WebProxy.Digest
import WebProxy.ManifestCache

/-! `proxy_manifest`: many requests at once over one manifest cache. A request looks its key up,
asks the upstream when there is no hit, and stores what a successful GET delivers. -/

namespace WebProxy.Manifests

open ByteFile (Bytes)
open FetchChunk (BodyItem isSuccess)
open Redirects (HeaderMap Method UpstreamRequest UpstreamResponse Answer Gateway getAll toStr authorization
  fetchFollowingRedirects)
open Responses (Response contentType contentLength dockerContentDigest utf8 headerValue
  errorResponse streamingResponse readResponseBodyCapped maxManifestResponseBytes)

structure Request where
  registry : Registry
  path : String
  query : Option String
  host : String
  head : Bool
  headers : HeaderMap
  deriving DecidableEq, Repr

def Request.method (request : Request) : Method := if request.head then .head else .get

/-- What the handlers share: the digest function, the URL library and the configuration. -/
structure Proxy where
  sha256 : Bytes → Bytes
  parse : String → Option Url
  join : Url → String → Option Url
  gateway : Gateway
  registryBase : Registry → String
  publicOrigin : Option String
  defaultScheme : String

def accept : String := "accept"

def range : String := "range"

def joinedAccept (headers : HeaderMap) : String :=
  ", ".intercalate ((getAll headers accept).filterMap toStr)

/-- The `Authorization` values reach the hash one after the other. -/
def authFingerprint (sha256 : Bytes → Bytes) (headers : HeaderMap) : String :=
  Digest.hexEncode (sha256 (getAll headers authorization).flatten)

def requestKey (proxy : Proxy) (request : Request) : Key :=
  (request.registry.routePrefix ++ request.path, joinedAccept request.headers,
    authFingerprint proxy.sha256 request.headers)

def registryUrl (proxy : Proxy) (registry : Registry) (path : String) (query : Option String) :
    Option Url :=
  ((proxy.parse (proxy.registryBase registry)).bind (fun base =>
    proxy.join base (String.ofList (path.toList.dropWhile (· = '/'))))).map
    (fun url => url.setQuery query)

def Request.url (request : Request) (proxy : Proxy) : Option Url :=
  registryUrl proxy request.registry request.path request.query

def readable (headers : HeaderMap) (name : String) : Option String :=
  (getAll headers name).head?.bind toStr

def optionalHeader (name : String) (text : Option String) : HeaderMap :=
  ((text.bind headerValue).map (fun value => (name, value))).toList

def manifestResponse (hit : CachedManifest) (head : Bool) : Response :=
  { status := 200
    headers := optionalHeader contentType hit.contentType ++
      optionalHeader dockerContentDigest hit.dockerDigest ++
      if head then [(contentLength, utf8 (toString hit.body.length))] else []
    body := if head then [] else [.data hit.body] }

/-- How far a call has come: waiting for the upstream, about to store, or answered. `source` is the
call whose entry answered it. -/
inductive Stage where
  | fetching
  | storing (value : CachedManifest)
  | done (response : Response) (source : Option Nat)
  deriving DecidableEq, Repr

/-- A call of `proxy_manifest`. Two ghosts: the requests sent upstream for it and what it read. -/
structure Call where
  request : Request
  stage : Stage
  asked : List UpstreamRequest
  kept : Option CachedManifest
  deriving DecidableEq, Repr

structure State where
  now : Nat
  cache : ManifestCache
  calls : List Call

inductive Event where
  | tick (elapsed : Nat)
  | clear
  | arrive (request : Request)
  | answer (call : Nat) (answers : List Answer) (body : List BodyItem)
  | store (call : Nat)
  deriving DecidableEq, Repr

def entryOf (upstream : UpstreamResponse) (body : Bytes) (now author : Nat) : CachedManifest :=
  ⟨readable upstream.headers contentType, readable upstream.headers dockerContentDigest, body, now,
    author⟩

def received (proxy : Proxy) (now author : Nat) (request : Request) (asked : List UpstreamRequest)
    (upstream : UpstreamResponse) (items : List BodyItem) : Call :=
  if upstream.status = 401 then
    ⟨request, .done (Challenge.rewrite401Challenge (streamingResponse upstream items request.head)
      request.registry request.path
      (Challenge.originFor proxy.publicOrigin proxy.defaultScheme request.host)) none, asked, none⟩
  else if request.head ∨ !isSuccess upstream.status then
    ⟨request, .done (streamingResponse upstream items request.head) none, asked, none⟩
  else
    match readResponseBodyCapped items maxManifestResponseBytes with
    | none => ⟨request, .done (errorResponse Redirects.badGateway) none, asked, none⟩
    | some body =>
        ⟨request, .storing (entryOf upstream body now author), asked,
          some (entryOf upstream body now author)⟩

/-- The upstream part of a call; `answers` are those to its requests along the redirects. -/
def answered (proxy : Proxy) (now author : Nat) (request : Request) (answers : List Answer)
    (items : List BodyItem) : Call :=
  match request.url proxy with
  | none => ⟨request, .done (errorResponse Redirects.badGateway) none, [], none⟩
  | some url =>
      let trace := fetchFollowingRedirects proxy.join proxy.gateway true answers url request.method
        request.headers none
      match trace.outcome with
      | .error error => ⟨request, .done (errorResponse error) none, trace.requests, none⟩
      | .ok upstream => received proxy now author request trace.requests upstream items

def arrived (proxy : Proxy) (state : State) (request : Request) : Call :=
  match state.cache.get state.now (requestKey proxy request) with
  | some hit => ⟨request, .done (manifestResponse hit request.head) (some hit.author), [], none⟩
  | none => ⟨request, .fetching, [], none⟩

def step (proxy : Proxy) (state : State) : Event → Option State
  | .tick elapsed => some { state with now := state.now + elapsed }
  | .clear => some { state with cache := state.cache.clear }
  | .arrive request => some { state with calls := state.calls ++ [arrived proxy state request] }
  | .answer index answers items =>
      match state.calls[index]? with
      | some ⟨request, .fetching, _, _⟩ =>
          some { state with
            calls := state.calls.set index (answered proxy state.now index request answers items) }
      | _ => none
  | .store index =>
      match state.calls[index]? with
      | some ⟨request, .storing value, asked, kept⟩ =>
          some { state with
            cache := state.cache.put state.now (requestKey proxy request) value
            calls := state.calls.set index
              ⟨request, .done (manifestResponse value request.head) none, asked, kept⟩ }
      | _ => none

def initial (ttl maxEntries maxBytes : Nat) : State :=
  ⟨0, ManifestCache.new ttl maxEntries maxBytes, []⟩

section Steps

variable {proxy : Proxy} {state next : State} {event : Event}

theorem step_cases (taken : step proxy state event = some next) :
    (∃ elapsed, event = .tick elapsed ∧ next = { state with now := state.now + elapsed }) ∨
    (event = .clear ∧ next = { state with cache := state.cache.clear }) ∨
    (∃ request, event = .arrive request ∧
      next = { state with calls := state.calls ++ [arrived proxy state request] }) ∨
    (∃ index answers items request asked kept, event = .answer index answers items ∧
      state.calls[index]? = some ⟨request, .fetching, asked, kept⟩ ∧
      next = { state with
        calls := state.calls.set index (answered proxy state.now index request answers items) }) ∨
    ∃ index request value asked kept, event = .store index ∧
      state.calls[index]? = some ⟨request, .storing value, asked, kept⟩ ∧
      next = { state with
        cache := state.cache.put state.now (requestKey proxy request) value
        calls := state.calls.set index
          ⟨request, .done (manifestResponse value request.head) none, asked, kept⟩ } := by
  cases event with
  | tick elapsed => exact Or.inl ⟨elapsed, rfl, (Option.some.inj taken).symm⟩
  | clear => exact Or.inr (Or.inl ⟨rfl, (Option.some.inj taken).symm⟩)
  | arrive request => exact Or.inr (Or.inr (Or.inl ⟨request, rfl, (Option.some.inj taken).symm⟩))
  | answer index answers items =>
      rw [step] at taken
      split at taken
      · rename_i request asked kept held
        exact Or.inr (Or.inr (Or.inr (Or.inl
          ⟨index, answers, items, request, asked, kept, rfl, held, (Option.some.inj taken).symm⟩)))
      · cases taken
  | store index =>
      rw [step] at taken
      split at taken
      · rename_i request value asked kept held
        exact Or.inr (Or.inr (Or.inr (Or.inr
          ⟨index, request, value, asked, kept, rfl, held, (Option.some.inj taken).symm⟩)))
      · cases taken

end Steps

def finalResponse (proxy : Proxy) (request : Request) (answers : List Answer) :
    Option UpstreamResponse :=
  (request.url proxy).bind (fun url =>
    (fetchFollowingRedirects proxy.join proxy.gateway true answers url request.method request.headers
      none).outcome.toOption)

/-- What a call has read: the whole body of a successful answer to its own GET request. -/
def ReadFrom (proxy : Proxy) (request : Request) (asked : List UpstreamRequest)
    (answers : List Answer) (items : List BodyItem) (value : CachedManifest) : Prop :=
  request.head = false ∧
    (∃ url, request.url proxy = some url ∧
      asked = (fetchFollowingRedirects proxy.join proxy.gateway true answers url .get request.headers
        none).requests) ∧
    (∃ upstream, finalResponse proxy request answers = some upstream ∧
      isSuccess upstream.status = true) ∧
    FetchChunk.complete items = true ∧ value.body = FetchChunk.delivered items

/-- What an answer leaves behind: a response that is no hit, or a manifest that is about to be
stored. -/
def Settled (proxy : Proxy) (author : Nat) (request : Request) (answers : List Answer)
    (items : List BodyItem) (call : Call) : Prop :=
  call.request = request ∧
    ((∃ response, call.stage = .done response none ∧ call.kept = none) ∨
      ∃ value, call.stage = .storing value ∧ call.kept = some value ∧ value.author = author ∧
        ReadFrom proxy request call.asked answers items value)

theorem received_settled {proxy : Proxy} (now author : Nat) {request : Request} {url : Url}
    {answers : List Answer} {upstream : UpstreamResponse} (items : List BodyItem)
    (located : request.url proxy = some url)
    (ended : (fetchFollowingRedirects proxy.join proxy.gateway true answers url request.method
      request.headers none).outcome = .ok upstream) :
    Settled proxy author request answers items
      (received proxy now author request (fetchFollowingRedirects proxy.join proxy.gateway true answers
        url request.method request.headers none).requests upstream items) := by
  rw [received]
  split
  · exact ⟨rfl, Or.inl ⟨_, rfl, rfl⟩⟩
  · split
    · exact ⟨rfl, Or.inl ⟨_, rfl, rfl⟩⟩
    · rename_i getting
      rw [not_or] at getting
      have get : request.head = false := by simpa using getting.1
      have success : isSuccess upstream.status = true := by simpa using getting.2
      have method : request.method = .get := by
        rw [Request.method, get]
        rfl
      split
      · exact ⟨rfl, Or.inl ⟨_, rfl, rfl⟩⟩
      · rename_i body read
        obtain ⟨whole, complete, _⟩ := Responses.readCapped_some (Nat.zero_le _) read
        refine ⟨rfl, Or.inr ⟨_, rfl, rfl, rfl, get, ⟨url, located, ?_⟩, ⟨upstream, ?_, success⟩,
          complete, whole⟩⟩
        · rw [method]
        · rw [finalResponse, located, Option.bind_some, ended]
          rfl

theorem answered_settled (proxy : Proxy) (now author : Nat) (request : Request)
    (answers : List Answer) (items : List BodyItem) :
    Settled proxy author request answers items
      (answered proxy now author request answers items) := by
  rw [answered]
  split
  · exact ⟨rfl, Or.inl ⟨_, rfl, rfl⟩⟩
  · rename_i url located
    dsimp only
    split
    · exact ⟨rfl, Or.inl ⟨_, rfl, rfl⟩⟩
    · rename_i upstream ended
      exact received_settled now author items located ended

def Vouched (proxy : Proxy) (calls : List Call) (key : Key) (author : Nat) (value : CachedManifest) :
    Prop :=
  ∃ call, calls[author]? = some call ∧ requestKey proxy call.request = key ∧ call.kept = some value

structure Traced (proxy : Proxy) (state : State) : Prop where
  fetching : ∀ (index : Nat) (call : Call), state.calls[index]? = some call →
    call.stage = .fetching → call.kept = none
  storing : ∀ (index : Nat) (call : Call) (value : CachedManifest), state.calls[index]? = some call →
    call.stage = .storing value → call.kept = some value ∧ value.author = index
  entries : ∀ key value, (key, value) ∈ state.cache.entries →
    Vouched proxy state.calls key value.author value
  hits : ∀ (index : Nat) (call : Call) (response : Response) (source : Nat),
    state.calls[index]? = some call → call.stage = .done response (some source) →
    ∃ value, Vouched proxy state.calls (requestKey proxy call.request) source value ∧
      response = manifestResponse value call.request.head
  reads : ∀ (index : Nat) (call : Call) (value : CachedManifest), state.calls[index]? = some call →
    call.kept = some value → ∃ answers items, ReadFrom proxy call.request call.asked answers items value

def Grown (before later : List Call) : Prop :=
  ∀ (index : Nat) (call : Call) (value : CachedManifest), before[index]? = some call →
    call.kept = some value → ∃ after : Call, later[index]? = some after ∧ after.request = call.request ∧ after.kept = some value

theorem Vouched.grown {proxy : Proxy} {before later : List Call} {key : Key} {author : Nat}
    {value : CachedManifest} (vouched : Vouched proxy before key author value)
    (grown : Grown before later) : Vouched proxy later key author value := by
  obtain ⟨call, held, named, kept⟩ := vouched
  obtain ⟨after, found, same, still⟩ := grown author call value held kept
  exact ⟨after, found, by rw [same, named], still⟩

theorem grown_snoc (calls : List Call) (call : Call) : Grown calls (calls ++ [call]) := by
  intro index held value found kept
  exact ⟨held, Slots.get_snoc call found, rfl, kept⟩

theorem grown_set {calls : List Call} {index : Nat} {call next : Call}
    (held : calls[index]? = some call)
    (keeps : ∀ value, call.kept = some value →
      next.request = call.request ∧ next.kept = some value) : Grown calls (calls.set index next) := by
  intro other found value located kept
  refine Slots.set_keeps held ?_ ⟨found, located, rfl, kept⟩
  intro before
  obtain ⟨request, still⟩ := keeps value before.2
  exact ⟨request.trans before.1, still⟩

theorem arrived_request (proxy : Proxy) (state : State) (request : Request) :
    (arrived proxy state request).request = request ∧ (arrived proxy state request).kept = none ∧
      (∀ value, (arrived proxy state request).stage ≠ .storing value) := by
  rw [arrived]
  split
  · exact ⟨rfl, rfl, by simp⟩
  · exact ⟨rfl, rfl, by simp⟩

theorem arrived_hit {proxy : Proxy} {state : State} {request : Request} {response : Response}
    {source : Nat} (hit : (arrived proxy state request).stage = .done response (some source)) :
    ∃ value, (requestKey proxy request, value) ∈ state.cache.entries ∧ value.author = source ∧
      response = manifestResponse value request.head := by
  rw [arrived] at hit
  split at hit
  · rename_i value found
    cases hit
    exact ⟨value, ManifestCache.get_some found, rfl, rfl⟩
  · cases hit

theorem traced_initial (proxy : Proxy) (ttl maxEntries maxBytes : Nat) :
    Traced proxy (initial ttl maxEntries maxBytes) := by
  constructor <;> intros <;> simp_all [initial, ManifestCache.new]

theorem traced_arrive {proxy : Proxy} {state : State} (traced : Traced proxy state)
    (request : Request) :
    Traced proxy { state with calls := state.calls ++ [arrived proxy state request] } := by
  obtain ⟨named, unread, unstored⟩ := arrived_request proxy state request
  have grown := grown_snoc state.calls (arrived proxy state request)
  constructor
  · intro index call found fetching
    rcases Slots.get_snoc_cases found with old | ⟨_, rfl⟩
    · exact traced.fetching index call old fetching
    · exact unread
  · intro index call value found storing
    rcases Slots.get_snoc_cases found with old | ⟨_, rfl⟩
    · exact traced.storing index call value old storing
    · exact absurd storing (unstored value)
  · intro key value member
    exact (traced.entries key value member).grown grown
  · intro index call response source found hit
    rcases Slots.get_snoc_cases found with old | ⟨_, rfl⟩
    · obtain ⟨value, vouched, same⟩ := traced.hits index call response source old hit
      exact ⟨value, vouched.grown grown, same⟩
    · obtain ⟨value, member, rfl, same⟩ := arrived_hit hit
      rw [named]
      exact ⟨value, (traced.entries _ value member).grown grown, same⟩
  · intro index call value found kept
    rcases Slots.get_snoc_cases found with old | ⟨_, rfl⟩
    · exact traced.reads index call value old kept
    · rw [unread] at kept
      cases kept

theorem traced_answer {proxy : Proxy} {state : State} (traced : Traced proxy state) {index : Nat}
    {answers : List Answer} {items : List BodyItem} {request : Request}
    {asked : List UpstreamRequest} {kept : Option CachedManifest}
    (held : state.calls[index]? = some ⟨request, .fetching, asked, kept⟩) :
    Traced proxy { state with
      calls := state.calls.set index (answered proxy state.now index request answers items) } := by
  obtain ⟨named, settled⟩ := answered_settled proxy state.now index request answers items
  have unread := traced.fetching index _ held rfl
  have grown : Grown state.calls
      (state.calls.set index (answered proxy state.now index request answers items)) := by
    apply grown_set held
    intro value kept
    rw [unread] at kept
    cases kept
  constructor
  · intro other call found fetching
    rcases Slots.get_set_cases found with ⟨_, rfl⟩ | ⟨_, old⟩
    · rcases settled with ⟨response, stage, none⟩ | ⟨value, stage, _⟩
      · exact none
      · rw [stage] at fetching
        cases fetching
    · exact traced.fetching other call old fetching
  · intro other call value found storing
    rcases Slots.get_set_cases found with ⟨rfl, rfl⟩ | ⟨_, old⟩
    · rcases settled with ⟨response, stage, _⟩ | ⟨read, stage, kept, author, _⟩
      · rw [stage] at storing
        cases storing
      · rw [stage] at storing
        cases storing
        exact ⟨kept, author⟩
    · exact traced.storing other call value old storing
  · intro key value member
    exact (traced.entries key value member).grown grown
  · intro other call response source found hit
    rcases Slots.get_set_cases found with ⟨_, rfl⟩ | ⟨_, old⟩
    · rcases settled with ⟨_, stage, _⟩ | ⟨_, stage, _⟩
      · rw [stage] at hit
        cases hit
      · rw [stage] at hit
        cases hit
    · obtain ⟨value, vouched, same⟩ := traced.hits other call response source old hit
      exact ⟨value, vouched.grown grown, same⟩
  · intro other call value found kept
    rcases Slots.get_set_cases found with ⟨_, rfl⟩ | ⟨_, old⟩
    · rcases settled with ⟨_, _, none⟩ | ⟨read, _, some_value, _, source⟩
      · rw [none] at kept
        cases kept
      · rw [some_value] at kept
        cases kept
        rw [named]
        exact ⟨answers, items, source⟩
    · exact traced.reads other call value old kept

theorem traced_store {proxy : Proxy} {state : State} (traced : Traced proxy state) {index : Nat}
    {request : Request} {value : CachedManifest} {asked : List UpstreamRequest}
    {kept : Option CachedManifest}
    (held : state.calls[index]? = some ⟨request, .storing value, asked, kept⟩) :
    Traced proxy { state with
      cache := state.cache.put state.now (requestKey proxy request) value
      calls := state.calls.set index
        ⟨request, .done (manifestResponse value request.head) none, asked, kept⟩ } := by
  obtain ⟨read, author⟩ := traced.storing index _ value held rfl
  have grown : Grown state.calls (state.calls.set index
      ⟨request, .done (manifestResponse value request.head) none, asked, kept⟩) := by
    apply grown_set held
    intro other same
    exact ⟨rfl, same⟩
  constructor
  · intro other call found fetching
    rcases Slots.get_set_cases found with ⟨_, rfl⟩ | ⟨_, old⟩
    · cases fetching
    · exact traced.fetching other call old fetching
  · intro other call held_value found storing
    rcases Slots.get_set_cases found with ⟨_, rfl⟩ | ⟨_, old⟩
    · cases storing
    · exact traced.storing other call held_value old storing
  · intro key stored member
    rcases ManifestCache.mem_put member with same | old
    · cases same
      rw [author]
      exact ⟨_, Slots.get_set_self _ held, rfl, read⟩
    · exact (traced.entries key stored old).grown grown
  · intro other call response source found hit
    rcases Slots.get_set_cases found with ⟨_, rfl⟩ | ⟨_, old⟩
    · cases hit
    · obtain ⟨served, vouched, same⟩ := traced.hits other call response source old hit
      exact ⟨served, vouched.grown grown, same⟩
  · intro other call held_value found has
    rcases Slots.get_set_cases found with ⟨_, rfl⟩ | ⟨_, old⟩
    · have source := traced.reads index ⟨request, .storing value, asked, kept⟩ held_value held has
      exact source
    · exact traced.reads other call held_value old has

theorem traced_step {proxy : Proxy} {state next : State} {event : Event}
    (traced : Traced proxy state) (taken : step proxy state event = some next) :
    Traced proxy next := by
  rcases step_cases taken with ⟨elapsed, rfl, rfl⟩ | ⟨rfl, rfl⟩ | ⟨request, rfl, rfl⟩ |
    ⟨index, answers, items, request, asked, kept, rfl, held, rfl⟩ |
    ⟨index, request, value, asked, kept, rfl, held, rfl⟩
  · exact ⟨traced.fetching, traced.storing, traced.entries, traced.hits, traced.reads⟩
  · refine ⟨traced.fetching, traced.storing, ?_, traced.hits, traced.reads⟩
    intro key value member
    cases member
  · exact traced_arrive traced request
  · exact traced_answer traced held
  · exact traced_store traced held

theorem traced_run {proxy : Proxy} {ttl maxEntries maxBytes : Nat} {events : List Event}
    {state : State}
    (ran : Machine.run (step proxy) (initial ttl maxEntries maxBytes) events = some state) :
    Traced proxy state :=
  Machine.run_invariant (Traced proxy) (fun _ _ _ => traced_step)
    (traced_initial proxy ttl maxEntries maxBytes) ran

end WebProxy.Manifests
