import WebProxy.Manifests

/-! What a manifest cache hit stands for: whether the stored body is whole, and whether the
request that stored it and the one that is served asked for the same. -/

namespace WebProxy.Manifests

open ByteFile (Bytes)
open FetchChunk (BodyItem isSuccess delivered complete)
open Redirects (HeaderMap UpstreamRequest UpstreamResponse Answer Gateway getAll toStr authorization)
open Responses (Response)

theorem routePrefix_inj {one two : Registry} {left right : String}
    (same : one.routePrefix ++ left = two.routePrefix ++ right) : one = two ∧ left = right := by
  have letters := congrArg String.toList same
  rw [String.toList_append, String.toList_append] at letters
  cases one with
  | dockerHub =>
      cases two with
      | dockerHub => exact ⟨rfl, String.toList_inj.mp (List.append_cancel_left letters)⟩
      | ghcr => simp [Registry.routePrefix] at letters
  | ghcr =>
      cases two with
      | dockerHub => simp [Registry.routePrefix] at letters
      | ghcr => exact ⟨rfl, String.toList_inj.mp (List.append_cancel_left letters)⟩

section Representations

-- `represents` says which bodies are complete representations of the manifest at a path
variable (represents : Registry → String → Bytes → Prop) (proxy : Proxy)

/-- An upstream answers a successful GET with a representation, or with 206 and a slice of one when
the request has a `Range`. -/
def Honest (state : State) : Event → Prop
  | .answer index answers items => ∀ (call : Call) (upstream : UpstreamResponse),
      state.calls[index]? = some call → call.request.head = false →
      finalResponse proxy call.request answers = some upstream → isSuccess upstream.status = true →
      complete items = true →
      if upstream.status = 206 then
        getAll call.request.headers range ≠ [] ∧ ∃ (whole : Bytes) (first count : Nat),
          represents call.request.registry call.request.path whole ∧
            delivered items = (whole.drop first).take count
      else represents call.request.registry call.request.path (delivered items)
  | _ => True

/-- A GET that is answered with 206 has asked for all of it. -/
def Unsliced (state : State) : Event → Prop
  | .answer index answers items => ∀ (call : Call) (upstream : UpstreamResponse),
      state.calls[index]? = some call → call.request.head = false →
      finalResponse proxy call.request answers = some upstream → upstream.status = 206 →
      complete items = true →
      represents call.request.registry call.request.path (delivered items)
  | _ => True

def WholeReads (calls : List Call) : Prop :=
  ∀ (index : Nat) (call : Call) (value : CachedManifest), calls[index]? = some call →
    call.kept = some value → represents call.request.registry call.request.path value.body

variable {represents proxy}

theorem wholeReads_step {state next : State} {event : Event}
    (whole : WholeReads represents state.calls)
    (fair : Honest represents proxy state event ∧ Unsliced represents proxy state event)
    (taken : step proxy state event = some next) : WholeReads represents next.calls := by
  rcases step_cases taken with ⟨elapsed, rfl, rfl⟩ | ⟨rfl, rfl⟩ | ⟨request, rfl, rfl⟩ |
    ⟨index, answers, items, request, asked, kept, rfl, held, rfl⟩ |
    ⟨index, request, value, asked, kept, rfl, held, rfl⟩
  · exact whole
  · exact whole
  · intro other call value found read
    rcases Slots.get_snoc_cases found with old | ⟨_, rfl⟩
    · exact whole other call value old read
    · rw [(arrived_request proxy state request).2.1] at read
      cases read
  · intro other call value found read
    rcases Slots.get_set_cases found with ⟨_, rfl⟩ | ⟨_, old⟩
    · obtain ⟨named, settled⟩ := answered_settled proxy state.now index request answers items
      rcases settled with ⟨_, _, none⟩ | ⟨fresh, _, some_value, _, source⟩
      · rw [none] at read
        cases read
      · rw [some_value] at read
        cases read
        obtain ⟨get, _, ⟨upstream, final, success⟩, ended, body⟩ := source
        have honest := fair.1 _ upstream held get final success ended
        have unsliced := fair.2 _ upstream held get final
        rw [named, body]
        split at honest
        · rename_i partly
          exact unsliced partly ended
        · exact honest
    · exact whole other call value old read
  · intro other call read_value found read
    rcases Slots.get_set_cases found with ⟨_, rfl⟩ | ⟨_, old⟩
    · have source := whole index ⟨request, .storing value, asked, kept⟩ read_value held read
      exact source
    · exact whole other call read_value old read

/-- In every run with honest upstreams in which no GET is answered with a part of the manifest, what
is stored is whole, and so is what a hit serves. -/
theorem manifest_cache_holds_whole_manifests (represents : Registry → String → Bytes → Prop)
    (proxy : Proxy) (ttl maxEntries maxBytes : Nat) (events : List Event) (state : State)
    (ran : Machine.run (step proxy) (initial ttl maxEntries maxBytes) events = some state)
    (fair : Machine.Along (step proxy) (fun state event => Honest represents proxy state event ∧
      Unsliced represents proxy state event) (initial ttl maxEntries maxBytes) events) :
    (∀ (registry : Registry) (path : String) (key : Key) (value : CachedManifest),
      (key, value) ∈ state.cache.entries → key.1 = registry.routePrefix ++ path →
      represents registry path value.body) ∧
    ∀ (index : Nat) (call : Call) (response : Response) (source : Nat),
      state.calls[index]? = some call → call.stage = .done response (some source) →
      call.request.head = false → ∃ body, response.status = 200 ∧ response.body = [.data body] ∧
        represents call.request.registry call.request.path body := by
  have traced := traced_run ran
  have whole : WholeReads represents state.calls := by
    refine Machine.along_invariant (fun state => WholeReads represents state.calls)
      (fun _ _ _ => wholeReads_step) ?_ fair ran
    intro index call value found
    simp [initial] at found
  constructor
  · intro registry path key value member named
    obtain ⟨call, held, same, kept⟩ := traced.entries key value member
    rw [← same] at named
    obtain ⟨registries, paths⟩ := routePrefix_inj named
    rw [← registries, ← paths]
    exact whole value.author call value held kept
  · intro index call response source found hit get
    obtain ⟨value, ⟨author, held, same, kept⟩, served⟩ := traced.hits index call response source found hit
    obtain ⟨registries, paths⟩ := routePrefix_inj (congrArg Prod.fst same)
    refine ⟨value.body, ?_, ?_, ?_⟩
    · rw [served]
      rfl
    · rw [served, get]
      rfl
    · rw [← registries, ← paths]
      exact whole source author value held kept

end Representations

def acceptBytes (headers : HeaderMap) : Bytes := List.intercalate [44, 32] (getAll headers accept)

def authorizationBytes (request : Request) : Bytes := (getAll request.headers authorization).flatten

/-- Two requests ask the same of the same upstream. -/
structure SameTarget (proxy : Proxy) (first second : Request) : Prop where
  registry : first.registry = second.registry
  url : first.url proxy = second.url proxy
  accept : acceptBytes first.headers = acceptBytes second.headers
  authorization : getAll first.headers authorization = getAll second.headers authorization

def ReadableAccept (request : Request) : Prop :=
  ∀ value ∈ getAll request.headers accept, (toStr value).isSome = true

/-- What the key leaves out does not tell the requests apart: the query, the places where the
`Authorization` bytes are cut into values, and `Accept` values that are no readable text. -/
structure KeyedAlike (first second : Request) : Prop where
  query : first.query.map Url.encodeQuery = second.query.map Url.encodeQuery
  cuts : (getAll first.headers authorization).map List.length =
    (getAll second.headers authorization).map List.length
  accept : (ReadableAccept first ∧ ReadableAccept second) ∨
    acceptBytes first.headers = acceptBytes second.headers

def charOf (byte : UInt8) : Char := Char.ofNat byte.toNat

theorem charOf_inj {left right : UInt8} (same : charOf left = charOf right) : left = right := by
  have codes : ∀ byte : UInt8, (charOf byte).toNat = byte.toNat := by
    intro byte
    have small : byte.toNat < 256 := byte.toNat_lt
    have valid : byte.toNat.isValidChar := Or.inl (by omega)
    rw [charOf, Char.ofNat, dif_pos valid]
    rfl
  apply UInt8.toNat_inj.mp
  rw [← codes left, ← codes right, same]

theorem filterMap_toStr {values : List Bytes}
    (readable : ∀ value ∈ values, (toStr value).isSome = true) :
    values.filterMap toStr = values.map (fun value => String.ofList (value.map charOf)) := by
  induction values with
  | nil => rfl
  | cons value rest ih =>
      have known : toStr value = some (String.ofList (value.map charOf)) := by
        have shown := readable value List.mem_cons_self
        rw [toStr] at shown ⊢
        split at shown
        · rename_i plain
          rw [if_pos plain]
          rfl
        · cases shown
      rw [List.filterMap_cons_some known, List.map_cons,
        ih (fun other member => readable other (List.mem_cons_of_mem _ member))]

theorem joinedAccept_toList {request : Request} (readable : ReadableAccept request) :
    (joinedAccept request.headers).toList = (acceptBytes request.headers).map charOf := by
  have pieces : ((getAll request.headers accept).map
      (fun value => String.ofList (value.map charOf))).map String.toList =
      (getAll request.headers accept).map (List.map charOf) := by
    rw [List.map_map]
    apply List.map_congr_left
    intro value _
    exact String.toList_ofList
  have mark : ", ".toList = [44, 32].map charOf := by decide
  rw [joinedAccept, filterMap_toStr readable, String.toList_intercalate, pieces, mark, acceptBytes,
    Split.map_intercalate]

theorem acceptBytes_of_joined {first second : Request} (one : ReadableAccept first)
    (two : ReadableAccept second)
    (same : joinedAccept first.headers = joinedAccept second.headers) :
    acceptBytes first.headers = acceptBytes second.headers := by
  have letters := congrArg String.toList same
  rw [joinedAccept_toList one, joinedAccept_toList two] at letters
  exact List.map_injective_iff.mpr (fun _ _ => charOf_inj) letters

theorem hexEncode_inj {left right : Bytes} (same : Digest.hexEncode left = Digest.hexEncode right) :
    left = right := by
  have letters := String.ofList_inj.mp same
  rw [← Text.hexDecode_hexChars left, letters, Text.hexDecode_hexChars]

theorem url_setQuery_iff {proxy : Proxy} {first second : Request} {url : Url}
    (registry : first.registry = second.registry) (path : first.path = second.path)
    (located : first.url proxy = some url) :
    first.url proxy = second.url proxy ↔
      first.query.map Url.encodeQuery = second.query.map Url.encodeQuery := by
  obtain ⟨base, joined, rfl⟩ := Option.map_eq_some_iff.mp located
  have other : second.url proxy = some (base.setQuery second.query) := by
    rw [Request.url, registryUrl, ← registry, ← path]
    exact Option.map_eq_some_iff.mpr ⟨base, joined, rfl⟩
  rw [located, other, Option.some.injEq]
  constructor
  · intro same
    exact congrArg Url.query same
  · intro same
    rw [Url.setQuery, Url.setQuery, same]

theorem sameTarget_iff {proxy : Proxy} {first second : Request} {url : Url}
    (keys : requestKey proxy first = requestKey proxy second) (located : first.url proxy = some url)
    (collisionFree : proxy.sha256 (authorizationBytes first) = proxy.sha256 (authorizationBytes second) →
      authorizationBytes first = authorizationBytes second) :
    SameTarget proxy first second ↔ KeyedAlike first second := by
  obtain ⟨registry, path⟩ := routePrefix_inj (congrArg Prod.fst keys)
  have accepts : joinedAccept first.headers = joinedAccept second.headers :=
    congrArg (fun key : Key => key.2.1) keys
  have hashes : authFingerprint proxy.sha256 first.headers = authFingerprint proxy.sha256 second.headers :=
    congrArg (fun key : Key => key.2.2) keys
  have bytes := collisionFree (hexEncode_inj hashes)
  have urls := url_setQuery_iff registry path located
  constructor
  · intro target
    exact ⟨urls.mp target.url, by rw [target.authorization], Or.inr target.accept⟩
  · intro alike
    refine ⟨registry, urls.mpr alike.query, ?_, List.eq_iff_flatten_eq.mpr ⟨bytes, alike.cuts⟩⟩
    rcases alike.accept with ⟨one, two⟩ | same
    · exact acceptBytes_of_joined one two accepts
    · exact same

/-- For every hit of every run: the request that is served and the one whose entry it gets have one
target exactly when what the key leaves out agrees, and what is served is the whole body that the
upstream sent in answer to the latter. -/
theorem manifest_hit_same_target_iff (proxy : Proxy) (ttl maxEntries maxBytes : Nat)
    (events : List Event) (state : State)
    (ran : Machine.run (step proxy) (initial ttl maxEntries maxBytes) events = some state)
    (index source : Nat) (call author : Call) (response : Response)
    (served : state.calls[index]? = some call) (hit : call.stage = .done response (some source))
    (stored : state.calls[source]? = some author) (get : call.request.head = false)
    (collisionFree : proxy.sha256 (authorizationBytes author.request) =
        proxy.sha256 (authorizationBytes call.request) →
      authorizationBytes author.request = authorizationBytes call.request) :
    (SameTarget proxy author.request call.request ↔ KeyedAlike author.request call.request) ∧
    ∃ (url : Url) (answers : List Answer) (items : List BodyItem) (upstream : UpstreamResponse),
      author.request.head = false ∧ author.request.url proxy = some url ∧
        author.asked.head? =
          some ⟨url, .get, Redirects.copyRequestHeaders author.request.headers true, none⟩ ∧
        finalResponse proxy author.request answers = some upstream ∧
        isSuccess upstream.status = true ∧ complete items = true ∧
        response.body = [.data (delivered items)] := by
  have traced := traced_run ran
  obtain ⟨value, ⟨found, held, keys, kept⟩, same⟩ := traced.hits index call response source served hit
  rw [stored] at held
  cases held
  obtain ⟨answers, items, wasGet, ⟨url, located, asked⟩, ⟨upstream, final, success⟩, ended, body⟩ :=
    traced.reads source author value stored kept
  refine ⟨sameTarget_iff keys located collisionFree, url, answers, items, upstream, wasGet, located, ?_,
    final, success, ended, ?_⟩
  · rw [finalResponse, located, Option.bind_some, Request.method, wasGet] at final
    cases outcome : (Redirects.fetchFollowingRedirects proxy.join proxy.gateway true answers url .get
        author.request.headers none).outcome with
    | error error =>
        simp [outcome, Except.toOption] at final
    | ok response =>
        rw [asked]
        exact Redirects.fetchLoop_first outcome
  · rw [same, get, ← body]
    rfl

def sampleProxy : Proxy where
  sha256 := Digest.sampleSha256
  parse text :=
    if text = "https://registry-1.docker.io" then
      some ⟨"https", "", none, some "registry-1.docker.io", none, "/", none⟩
    else none
  join base place := some { base with path := "/" ++ place }
  gateway := ⟨5, ["registry-1.docker.io"]⟩
  registryBase _ := "https://registry-1.docker.io"
  publicOrigin := none
  defaultScheme := "https"

def sampleRequest (query : Option String) (headers : HeaderMap) : Request :=
  ⟨.dockerHub, "/v2/a/manifests/1", query, "gateway", false, headers⟩

/-- One request is answered with the status and the body and stored; then another one comes. -/
def sampleEvents (first second : Request) (status : Nat) (body : Bytes) : List Event :=
  [.arrive first, .answer 0 [.response ⟨status, []⟩] [.data body], .store 0, .arrive second]

def sampleWhole (_ : Registry) (_ : String) (body : Bytes) : Prop := body = [1, 2]

def rangedRequest : Request := sampleRequest none [(range, Responses.utf8 "bytes=0-0")]

def plainRequest : Request := sampleRequest none []

theorem sample_along {condition : State → Event → Prop} {first second : Request} {status : Nat}
    {body : Bytes} (arrives : ∀ state request, condition state (.arrive request))
    (stores : ∀ state index, condition state (.store index))
    (answers : ∀ (state : State), (∀ call, state.calls[0]? = some call → call.request = first) →
      condition state (.answer 0 [.response ⟨status, []⟩] [.data body])) :
    Machine.Along (step sampleProxy) condition (initial 60 10 100)
      (sampleEvents first second status body) := by
  refine ⟨arrives _ _, ?_⟩
  intro asking arrival
  refine ⟨?_, fun _ _ => ⟨stores _ _, fun _ _ => ⟨arrives _ _, fun _ _ => trivial⟩⟩⟩
  apply answers
  intro call held
  cases arrival
  rcases Slots.get_snoc_cases held with old | ⟨_, rfl⟩
  · cases old
  · exact (arrived_request _ _ _).1

theorem manifest_cache_holds_whole_sample :
    ∃ state : State, Machine.run (step sampleProxy) (initial 60 10 100)
        (sampleEvents plainRequest plainRequest 200 [1, 2]) = some state ∧
      ∃ response, (state.calls[1]?).map Call.stage = some (.done response (some 0)) ∧
        ∃ body, response.body = [.data body] ∧ sampleWhole .dockerHub "/v2/a/manifests/1" body := by
  have outcome : (Machine.run (step sampleProxy) (initial 60 10 100)
      (sampleEvents plainRequest plainRequest 200 [1, 2])).map (fun state => state.calls[1]?) =
      some (some ⟨plainRequest, .done ⟨200, [], [.data [1, 2]]⟩ (some 0), [], none⟩) := by
    decide +kernel
  obtain ⟨state, ran, call⟩ := Option.map_eq_some_iff.mp outcome
  have final : finalResponse sampleProxy plainRequest [.response ⟨200, []⟩] = some ⟨200, []⟩ := by
    decide +kernel
  have fair : Machine.Along (step sampleProxy) (fun state event =>
      Honest sampleWhole sampleProxy state event ∧ Unsliced sampleWhole sampleProxy state event)
      (initial 60 10 100) (sampleEvents plainRequest plainRequest 200 [1, 2]) := by
    refine sample_along (fun _ _ => ⟨trivial, trivial⟩) (fun _ _ => ⟨trivial, trivial⟩) ?_
    intro state named
    constructor
    · intro call upstream held get answered success ended
      rw [named call held, final] at answered
      cases answered
      rw [if_neg (by decide)]
      rfl
    · intro call upstream held get answered partly
      rw [named call held, final] at answered
      cases answered
      cases partly
  have whole := manifest_cache_holds_whole_manifests sampleWhole sampleProxy 60 10 100 _ state ran fair
  obtain ⟨body, _, served, complete⟩ := whole.2 1 _ _ 0 call rfl rfl
  exact ⟨state, ran, _, by rw [call]; rfl, body, served, complete⟩

/-- A client asks for one byte of the manifest; the next client gets that byte as the manifest. -/
theorem ranged_manifest_is_served_as_whole :
    ∃ state : State, Machine.run (step sampleProxy) (initial 60 10 100)
        (sampleEvents rangedRequest plainRequest 206 [1]) = some state ∧
      Machine.Along (step sampleProxy) (Honest sampleWhole sampleProxy) (initial 60 10 100)
        (sampleEvents rangedRequest plainRequest 206 [1]) ∧
      (state.calls[1]?).map Call.stage = some (.done ⟨200, [], [.data [1]]⟩ (some 0)) ∧
      (∃ key value, (key, value) ∈ state.cache.entries ∧ value.body = [1]) ∧
      ¬ sampleWhole .dockerHub "/v2/a/manifests/1" [1] := by
  have outcome : (Machine.run (step sampleProxy) (initial 60 10 100)
      (sampleEvents rangedRequest plainRequest 206 [1])).map (fun state =>
        ((state.calls[1]?).map Call.stage, state.cache.entries.map (fun entry => entry.2.body))) =
      some (some (.done ⟨200, [], [.data [1]]⟩ (some 0)), [[1]]) := by
    decide +kernel
  obtain ⟨state, ran, seen⟩ := Option.map_eq_some_iff.mp outcome
  obtain ⟨served, stored⟩ := Prod.mk.inj seen
  have member : [1] ∈ state.cache.entries.map (fun entry => entry.2.body) := by
    rw [stored]
    exact List.mem_singleton_self _
  obtain ⟨⟨key, value⟩, held, body⟩ := List.mem_map.mp member
  have short : ([1] : Bytes) ≠ [1, 2] := by decide
  refine ⟨state, ran, ?_, served, ⟨key, value, held, body⟩, short⟩
  refine sample_along (fun _ _ => trivial) (fun _ _ => trivial) ?_
  intro state named call upstream located get answered success ended
  have final : finalResponse sampleProxy rangedRequest [.response ⟨206, []⟩] = some ⟨206, []⟩ := by
    decide +kernel
  rw [named call located, final] at answered
  cases answered
  rw [if_pos rfl, named call located]
  exact ⟨by decide +kernel, [1, 2], 0, 1, rfl, rfl⟩

def SampleHit (first second : Request) : Prop :=
  ∃ state : State, Machine.run (step sampleProxy) (initial 60 10 100)
      (sampleEvents first second 200 [1, 2]) = some state ∧
    (state.calls[0]?).map Call.request = some first ∧
    (state.calls[1]?).map Call.request = some second ∧
    (state.calls[1]?).map Call.stage = some (.done ⟨200, [], [.data [1, 2]]⟩ (some 0))

theorem sampleHit_of_outcome {first second : Request}
    (outcome : (Machine.run (step sampleProxy) (initial 60 10 100)
        (sampleEvents first second 200 [1, 2])).map (fun state =>
          ((state.calls[0]?).map Call.request, (state.calls[1]?).map Call.request,
            (state.calls[1]?).map Call.stage)) =
      some (some first, some second, some (.done ⟨200, [], [.data [1, 2]]⟩ (some 0)))) :
    SampleHit first second := by
  obtain ⟨state, ran, seen⟩ := Option.map_eq_some_iff.mp outcome
  obtain ⟨author, rest⟩ := Prod.mk.inj seen
  obtain ⟨request, stage⟩ := Prod.mk.inj rest
  exact ⟨state, ran, author, request, stage⟩

theorem manifest_hit_same_target_sample :
    SampleHit plainRequest plainRequest ∧
      (SameTarget sampleProxy plainRequest plainRequest ↔ KeyedAlike plainRequest plainRequest) := by
  have hit : SampleHit plainRequest plainRequest := sampleHit_of_outcome (by decide +kernel)
  refine ⟨hit, ?_⟩
  obtain ⟨state, ran, storing, asking, stage⟩ := hit
  obtain ⟨author, stored, first⟩ := Option.map_eq_some_iff.mp storing
  obtain ⟨call, served, second⟩ := Option.map_eq_some_iff.mp asking
  rw [served, Option.map_some, Option.some.injEq] at stage
  have same := (manifest_hit_same_target_iff sampleProxy 60 10 100 _ state ran 1 0 call author _ served
    stage stored (by rw [second]; rfl) (by rw [first, second]; exact fun _ => rfl)).1
  rw [first, second] at same
  exact same

/-- A hit across two queries, and a hit across two lists of `Authorization` values. -/
theorem hits_across_queries_and_authorizations :
    (SampleHit (sampleRequest (some "ns=a") []) (sampleRequest (some "ns=b") []) ∧
      ¬ SameTarget sampleProxy (sampleRequest (some "ns=a") []) (sampleRequest (some "ns=b") [])) ∧
    SampleHit (sampleRequest none [(authorization, [97]), (authorization, [98])])
        (sampleRequest none [(authorization, [97, 98])]) ∧
      ¬ SameTarget sampleProxy (sampleRequest none [(authorization, [97]), (authorization, [98])])
        (sampleRequest none [(authorization, [97, 98])]) := by
  refine ⟨⟨sampleHit_of_outcome (by decide +kernel), ?_⟩, sampleHit_of_outcome (by decide +kernel), ?_⟩
  · intro target
    exact absurd target.url (by decide +kernel)
  · intro target
    exact absurd target.authorization (by decide +kernel)

end WebProxy.Manifests
