import WebProxy.ChunkRedirects
import WebProxy.ProxyBlob
import WebProxy.RedirectChains
import WebProxy.StartPull
import WebProxy.TokenProxy

/-! The `proxy` handler of `main.rs`: `registry_root`, `proxy_github`, what the handler sends for a request of
a client, and what the chunk tasks of the download send that it may spawn. -/

namespace WebProxy.ProxyHandler

open BlobTokens (blobToken tokenRepository)
open ByteFile (Bytes)
open Challenge (originFor registryChallenge)
open FetchChunk (fetchChunk)
open Manifests (Proxy registryUrl)
open Redirects (HeaderMap Method Hop Trace Answer Gateway UpstreamRequest UpstreamResponse authorization fetchLoop
  fetchFollowingRedirects follow_ok_iff getAll)
open Responses (Response errorResponse insert streamingResponse utf8 wwwAuthenticate)
open Routes (classifyRegistryPath routeRequest)
open SourceConfig (Externals RegistryConfig SourceSpec)
open StartPull (Request)
open TokenProxy (proxyTokenRequest)

def dockerApiVersion : String := "docker-distribution-api-version"

def registryRoot (proxy : Proxy) (host : String) (request : Request) : Response :=
  if request.method ≠ .get ∧ request.method ≠ .head then errorResponse ⟨405, ""⟩
  else
    let response : Response :=
      if getAll request.headers authorization ≠ [] then ⟨200, [], []⟩
      else
        match registryChallenge (originFor proxy.publicOrigin proxy.defaultScheme host) none with
        | some value => ⟨401, [(wwwAuthenticate, value)], []⟩
        | none => ⟨401, [], []⟩
    { response with headers := insert response.headers dockerApiVersion (utf8 "registry/2.0") }

def uploadPack : String := "/git-upload-pack"

/-- A clone or a fetch posts to `git-upload-pack`; no other write is let through. -/
def githubMethodAllowed (method : Method) (path : String) : Bool :=
  method = .get || method = .head || (method = .post && uploadPack.toList.isSuffixOf path.toList)

/-- `proxy_github` with the requests it sends; the body of a POST may fail to arrive. -/
def proxyGithub (proxy : Proxy) (url : Url) (request : Request) (answers : List Answer) (items : List FetchChunk.BodyItem) :
    List UpstreamRequest × Response :=
  if githubMethodAllowed request.method url.path then
    let body : Except Response (Option Bytes) :=
      if request.method = .post then
        match request.body with
        | some bytes => .ok (some bytes)
        | none => .error (errorResponse ⟨400, "invalid body\n"⟩)
      else .ok none
    match body with
    | .error refusal => ([], refusal)
    | .ok bytes =>
        let trace := fetchFollowingRedirects proxy.join proxy.gateway false answers url request.method
          request.headers bytes
        match trace.outcome with
        | .ok upstream => (trace.requests, streamingResponse upstream items false)
        | .error error => (trace.requests, errorResponse error)
  else ([], errorResponse ⟨405, ""⟩)

/-- What `proxy_registry` sends for the client; `asked` is false where a cache answers. -/
def registrySent (proxy : Proxy) (registry : Registry) (path : String) (query : Option String)
    (request : Request) (asked : Bool) (answers : List Answer) : List UpstreamRequest :=
  if request.method ≠ .get ∧ request.method ≠ .head then []
  else if asked then
    match registryUrl proxy registry path query with
    | none => []
    | some url =>
        (fetchFollowingRedirects proxy.join proxy.gateway true answers url request.method request.headers
          none).requests
  else []

/-- What `proxy` itself sends for a request; the download that `proxy_blob` spawns is not in it. -/
def sent (proxy : Proxy) (config : Registry → RegistryConfig) (uri : Uri) (request : Request) (asked : Bool)
    (answers : List Answer) : List UpstreamRequest :=
  match routeRequest proxy.parse uri with
  | .error _ | .ok .registryRoot => []
  | .ok .token =>
      match proxyTokenRequest proxy.parse config request.method uri request.headers with
      | .error _ => []
      | .ok upstream => [upstream]
  | .ok (.registry registry path) => registrySent proxy registry path uri.query request asked answers
  | .ok (.github url) => (proxyGithub proxy url request answers []).1

def buildBlobUrl (proxy : Proxy) (registryUrl path : String) : Option Url :=
  (proxy.parse registryUrl).bind (fun base =>
    proxy.join base (String.ofList (path.toList.dropWhile (· = '/'))))

/-- One round of a chunk task: the source it picks, its range, the token cache, and what the token server and
the upstreams answer. -/
structure Round where
  index : Nat
  offset : Nat
  length : Nat
  pool : BlobTokens.SourcePool
  now : Nat
  later : Nat
  tokenAnswer : Option String
  answers : List FetchChunk.Answer

/-- A request of a chunk task. Both are GETs without a body: one has no header, the other the range and at
most a token. -/
inductive Spawned where
  | token (request : BlobTokens.TokenRequest)
  | chunk (request : FetchChunk.Request)

def Round.token (round : Round) (externals : Externals) (path : String) : BlobTokens.TokenTrace :=
  blobToken externals round.pool round.index path round.now round.tokenAnswer round.later

def Round.target (round : Round) (proxy : Proxy) (externals : Externals) (path : String) : FetchChunk.Target :=
  ⟨(round.token externals path).token, round.offset, round.length, proxy.gateway.allowedRegistryHosts⟩

def Round.sent (round : Round) (proxy : Proxy) (externals : Externals) (path : String) : List Spawned :=
  match round.pool.specs[round.index]? with
  | none => []
  | some spec =>
      match buildBlobUrl proxy spec.registryUrl path with
      | none => []
      | some url =>
          (round.token externals path).requested.toList.map .token ++
            (fetchChunk proxy.join (round.target proxy externals path) url round.answers []).requests.map .chunk

def downloadSent (proxy : Proxy) (externals : Externals) (registry : Registry) (path : String)
    (query : Option String) (host : String) (request : Request) (world : ProxyBlob.World)
    (rounds : List Round) : List Spawned :=
  if request.method ≠ .get ∧ request.method ≠ .head then []
  else
    match classifyRegistryPath path with
    | .blob digest =>
        match ProxyBlob.proxyBlob proxy world
          ⟨registry, path, query, host, request.method = .head, request.headers⟩ digest with
        | .ok ⟨.download _ (.chunked _), _, _, _⟩ =>
            rounds.flatMap (fun round => round.sent proxy externals path)
        | _ => []
    | _ => []

def spawned (proxy : Proxy) (externals : Externals) (uri : Uri) (host : String) (request : Request)
    (world : ProxyBlob.World) (rounds : List Round) : List Spawned :=
  match routeRequest proxy.parse uri with
  | .ok (.registry registry path) => downloadSent proxy externals registry path uri.query host request world rounds
  | _ => []

section Loop

variable {join : Url → String → Option Url} {gateway : Gateway} {registry : Bool}

theorem method_step {status : Nat} {method changed : Method} (body : Option Bytes)
    (chosen : Redirects.redirectMethod status method = .ok changed) :
    (Redirects.redirectBody status changed body).1 = method ∨
      (Redirects.redirectBody status changed body).1 = .get := by
  have either : changed = method ∨ changed = .get := by
    unfold Redirects.redirectMethod at chosen
    split at chosen
    · cases chosen
      exact Or.inr rfl
    · split at chosen <;> cases chosen
      exact Or.inl rfl
  rw [Redirects.redirectBody]
  split
  · exact Or.inr rfl
  · exact either

theorem fetchLoop_methods (answers : List Answer) (hop : Hop) (redirects : Nat) :
    ∀ upstream ∈ (fetchLoop join gateway registry answers hop redirects).requests,
      (upstream.method = hop.method ∨ upstream.method = .get) ∧ upstream.body = hop.body := by
  refine Redirects.fetchLoop_rule (fun hop _ requests => ∀ upstream ∈ requests,
    (upstream.method = hop.method ∨ upstream.method = .get) ∧ upstream.body = hop.body) ?_ ?_ ?_ answers hop
    redirects
  · intro _ _ upstream member
    cases member
  · intro hop _ _ upstream member
    cases List.mem_singleton.mp member
    exact ⟨Or.inl rfl, rfl⟩
  · intro hop next response _ requests _ chosen later upstream member
    rcases List.mem_cons.mp member with rfl | member
    · exact ⟨Or.inl rfl, rfl⟩
    · obtain ⟨method, body⟩ := later upstream member
      obtain ⟨_, place, changed, _, _, _, method_changed, carried, _⟩ := follow_ok_iff.mp chosen
      refine ⟨?_, body.trans (Redirects.follow_carries chosen).2.1⟩
      rcases method with same | got
      · have kept : next.method = (Redirects.redirectBody response.status changed hop.body).1 :=
          congrArg Prod.fst carried
        rw [same, kept]
        exact method_step hop.body method_changed
      · exact Or.inr got

end Loop

/-- The request that leaves on the way to GitHub, against the one of the client. A redirect with 301, 302 or
303 makes a GET of a POST and leaves it its body. -/
structure GithubSound (request : Request) (url : Url) (upstream : UpstreamRequest) : Prop where
  allowed : request.method = .get ∨ request.method = .head ∨
    request.method = .post ∧ uploadPack.toList <:+ url.path.toList
  method : upstream.method = request.method ∨ upstream.method = .get
  body : upstream.body = if request.method = .post then request.body else none
  host : Url.Permitted Url.isAllowedGithubHost upstream.url
  anonymous : getAll upstream.headers authorization = []

theorem githubSound {proxy : Proxy} {url : Url} {request : Request} {answers : List Answer}
    {items : List FetchChunk.BodyItem} {upstream : UpstreamRequest}
    (member : upstream ∈ (proxyGithub proxy url request answers items).1) : GithubSound request url upstream := by
  have traced : githubMethodAllowed request.method url.path = true ∧
      upstream ∈ (fetchLoop proxy.join proxy.gateway false answers
        ⟨url, request.method, request.headers, if request.method = .post then request.body else none⟩ 0).requests := by
    unfold proxyGithub at member
    split at member
    · rename_i allowed
      refine ⟨allowed, ?_⟩
      by_cases posted : request.method = .post
      · simp only [posted, if_true] at member ⊢
        cases arrived : request.body with
        | none => simp [arrived] at member
        | some bytes =>
            simp only [arrived] at member
            split at member <;> exact member
      · simp only [posted, if_false] at member ⊢
        split at member <;> exact member
    · cases member
  obtain ⟨allowed, there⟩ := traced
  obtain ⟨method, body⟩ := fetchLoop_methods answers _ 0 upstream there
  simp only [githubMethodAllowed, Bool.or_eq_true, Bool.and_eq_true, decide_eq_true_eq,
    List.isSuffixOf_iff_suffix] at allowed
  exact ⟨or_assoc.mp allowed, method, body,
    Redirects.validate_ok (Redirects.fetchLoop_validated answers _ 0 upstream there),
    Redirects.fetchLoop_github_unauthorized answers _ 0 upstream there⟩

structure RegistrySound (proxy : Proxy) (registry : Registry) (path : String) (query : Option String)
    (request : Request) (upstream : UpstreamRequest) : Prop where
  method : upstream.method = .get ∨ upstream.method = .head
  body : upstream.body = none
  host : Url.Permitted (proxy.gateway.allows true) upstream.url
  home : getAll upstream.headers authorization ≠ [] → ∃ url,
    registryUrl proxy registry path query = some url ∧ upstream.url.host = url.host

theorem registrySound {proxy : Proxy} {registry : Registry} {path : String} {query : Option String}
    {request : Request} {asked : Bool} {answers : List Answer} {upstream : UpstreamRequest}
    (member : upstream ∈ registrySent proxy registry path query request asked answers) :
    RegistrySound proxy registry path query request upstream := by
  unfold registrySent at member
  split at member
  · cases member
  · rename_i allowed
    rw [not_and_or, not_not, not_not] at allowed
    split at member
    · split at member
      · cases member
      · rename_i url joined
        obtain ⟨method, body⟩ := fetchLoop_methods answers _ 0 upstream member
        refine ⟨?_, body, ?_, ?_⟩
        · rcases method with same | got
          · rw [same]
            exact allowed
          · exact Or.inl got
        · exact Redirects.validate_ok (Redirects.fetchLoop_validated answers _ 0 upstream member)
        · intro authorized
          obtain ⟨index, there⟩ := List.mem_iff_getElem?.mp member
          exact ⟨url, joined, (Redirects.fetchLoop_authorizationHome answers _ 0).home index index upstream
            upstream there there le_rfl authorized⟩
    · cases member

/-- The requests of a chunk task: for a token of its source, or for its range. The token is all they show. -/
inductive SpawnedSound (proxy : Proxy) (externals : Externals) (path : String) (round : Round)
    (spec : SourceSpec) : Spawned → Prop where
  | token {url : SourceConfig.SourceUrl} (parsed : externals.parseUrl spec.tokenUrl = .ok url) :
      SpawnedSound proxy externals path round spec
        (.token (BlobTokens.tokenRequest spec url (tokenRepository path)))
  | chunk {url : Url} {request : FetchChunk.Request}
      (built : buildBlobUrl proxy spec.registryUrl path = some url)
      (host : request.url.host = url.host ∨ proxy.gateway.allowedRegistryHosts.contains
        (Text.toAsciiLowercase (request.url.host.getD "")) = true)
      (range : request.range = (round.offset, round.offset + round.length - 1))
      (bearer : ∀ token, request.bearer = some token →
        token = (round.token externals path).token ∧ request.url.host = url.host) :
      SpawnedSound proxy externals path round spec (.chunk request)

theorem round_sound {proxy : Proxy} {externals : Externals} {path : String} {round : Round} {message : Spawned}
    (member : message ∈ round.sent proxy externals path) :
    ∃ spec, round.pool.specs[round.index]? = some spec ∧
      SpawnedSound proxy externals path round spec message := by
  unfold Round.sent at member
  split at member
  · cases member
  · rename_i spec source
    refine ⟨spec, source, ?_⟩
    split at member
    · cases member
    · rename_i url built
      rcases List.mem_append.mp member with asks | fetches
      · obtain ⟨request, asked, rfl⟩ := List.mem_map.mp asks
        obtain ⟨other, target, same, parsed, rfl⟩ :=
          BlobTokens.blobToken_asks (Option.mem_toList.mp asked)
        rw [source, Option.some.injEq] at same
        subst same
        exact .token parsed
      · obtain ⟨request, there, rfl⟩ := List.mem_map.mp fetches
        rw [FetchChunk.fetchChunk_requests] at there
        obtain ⟨near, home⟩ := FetchChunk.redirectLoop_contained proxy.join (round.target proxy externals path)
          url round.answers url true 0 (Or.inl rfl) (fun _ => rfl) request there
        obtain ⟨place, sends, made⟩ := FetchChunk.redirectLoop_made proxy.join _ _ _ _ _ request there
        refine .chunk built near (by rw [made]; rfl) ?_
        intro token shown
        refine ⟨?_, home (by rw [shown]; rfl)⟩
        rw [made, FetchChunk.Target.request] at shown
        split at shown
        · exact (Option.some.inj shown).symm
        · cases shown

theorem download_sound {proxy : Proxy} {externals : Externals} {registry : Registry} {path : String}
    {query : Option String} {host : String} {request : Request} {world : ProxyBlob.World} {rounds : List Round}
    {message : Spawned}
    (member : message ∈ downloadSent proxy externals registry path query host request world rounds) :
    request.method = .get ∧ getAll request.headers authorization = [] ∧
      ∃ round ∈ rounds, message ∈ round.sent proxy externals path := by
  unfold downloadSent at member
  split at member
  · cases member
  · rename_i allowed
    rw [not_and_or, not_not, not_not] at allowed
    split at member
    · split at member
      · rename_i visited
        obtain ⟨get, anonymous⟩ := ProxyBlob.chunked_anonymous visited rfl
        have other : request.method ≠ .head := of_decide_eq_false get
        exact ⟨allowed.resolve_right other, anonymous, List.mem_flatMap.mp member⟩
      · cases member
    · cases member

/-- Whatever a client asks for and wherever redirects lead, the gateway is no write proxy: what its handler
sends for the client is a GET or a HEAD without a body, but for GitHub, where a chain that began with a POST
to a `git-upload-pack` carries the client's own bytes. The client's credentials go to the token server and to
the host of the registry, and to nobody else: a download over other sources is only spawned for a client
without any, and its chunk tasks show a source no more than the token of that source. -/
theorem outbound_policy (proxy : Proxy) (config : Registry → RegistryConfig) (externals : Externals) (uri : Uri)
    (host : String) (request : Request) (asked : Bool) (answers : List Answer) (world : ProxyBlob.World)
    (rounds : List Round) :
    (∀ upstream ∈ sent proxy config uri request asked answers,
      (∃ url, routeRequest proxy.parse uri = .ok (.github url) ∧ GithubSound request url upstream) ∨
      (∃ registry path, routeRequest proxy.parse uri = .ok (.registry registry path) ∧
        RegistrySound proxy registry path uri.query request upstream) ∨
      (routeRequest proxy.parse uri = .ok .token ∧ (upstream.method = .get ∨ upstream.method = .head) ∧
        upstream.body = none ∧ ∃ registry url, proxy.parse (config registry).tokenUrl = some url ∧
          { upstream.url with query := url.query } = url)) ∧
    ∀ message ∈ spawned proxy externals uri host request world rounds,
      ∃ registry path, routeRequest proxy.parse uri = .ok (.registry registry path) ∧
        request.method = .get ∧ getAll request.headers authorization = [] ∧
        ∃ round ∈ rounds, ∃ spec, round.pool.specs[round.index]? = some spec ∧
          SpawnedSound proxy externals path round spec message := by
  constructor
  · intro upstream member
    unfold sent at member
    split at member
    · cases member
    · cases member
    · rename_i routed
      split at member
      · cases member
      · rename_i made asked_token
        rw [List.mem_singleton.mp member]
        obtain ⟨registry, scope, url, _, parsed, rfl⟩ := TokenProxy.proxyTokenRequest_ok asked_token
        refine Or.inr (Or.inr ⟨routed, ?_, rfl, registry, url, parsed, rfl⟩)
        unfold proxyTokenRequest at asked_token
        split at asked_token
        · cases asked_token
        · rename_i allowed
          rwa [not_and_or, not_not, not_not] at allowed
    · rename_i registry path routed
      exact Or.inr (Or.inl ⟨registry, path, routed, registrySound member⟩)
    · rename_i url routed
      exact Or.inl ⟨url, routed, githubSound member⟩
  · intro message member
    unfold spawned at member
    split at member
    · rename_i registry path routed
      obtain ⟨get, anonymous, round, among, sends⟩ := download_sound member
      obtain ⟨spec, source, sound⟩ := round_sound sends
      exact ⟨registry, path, routed, get, anonymous, round, among, spec, source, sound⟩
    · cases member

def sampleUrl : Url := ⟨"https", "", none, some "github.com", none, "/owner/repo.git/git-upload-pack", none⟩

def sampleRegistry : Url := ⟨"https", "", none, some "registry-1.docker.io", none, "/v2/a", none⟩

def sampleProxy : Proxy where
  sha256 bytes := bytes
  parse text :=
    if text = "https://github.com/owner/repo.git/git-upload-pack" then some sampleUrl
    else if text = "https://registry-1.docker.io" then some sampleRegistry
    else none
  join base _ := some base
  gateway := ⟨8, ["registry-1.docker.io"]⟩
  registryBase _ := "https://registry-1.docker.io"
  publicOrigin := none
  defaultScheme := "https"

def sampleFetch : Request := ⟨.post, [(authorization, utf8 "Basic abc"), ("accept", utf8 "*/*")], some [1, 2]⟩

def sampleAnswers : List Answer := [.response ⟨302, [("location", utf8 "/moved")]⟩, .response ⟨200, []⟩]

def sampleWorld : ProxyBlob.World := ⟨none, none, .notFound, false, [.response ⟨200, []⟩], [], some 4⟩

def sampleRound : Round := ⟨0, 0, 4, BlobTokens.samplePool, 0, 0, none, []⟩

theorem outbound_policy_fetch :
    (∃ upstream ∈ sent sampleProxy TokenProxy.sampleConfig ⟨"/github.com/owner/repo.git/git-upload-pack", none⟩
        sampleFetch true sampleAnswers,
      upstream.method = .get ∧ upstream.body = some [1, 2] ∧ GithubSound sampleFetch sampleUrl upstream) ∧
    ∃ message ∈ spawned sampleProxy BlobTokens.hubExternals ⟨"/v2/a/blobs/" ++ Digest.letterDigest, none⟩ "localhost"
        ⟨.get, [], none⟩ sampleWorld [sampleRound],
      SpawnedSound sampleProxy BlobTokens.hubExternals ("/v2/a/blobs/" ++ Digest.letterDigest) sampleRound
        BlobTokens.sampleSpec message := by
  constructor
  · have made : (sent sampleProxy TokenProxy.sampleConfig ⟨"/github.com/owner/repo.git/git-upload-pack", none⟩
        sampleFetch true sampleAnswers)[1]? = some ⟨sampleUrl, .get, [("accept", utf8 "*/*")], some [1, 2]⟩ := by
      decide +kernel
    have routed : routeRequest sampleProxy.parse ⟨"/github.com/owner/repo.git/git-upload-pack", none⟩ =
        .ok (.github sampleUrl) := by decide +kernel
    have member := List.mem_of_getElem? made
    refine ⟨_, member, rfl, rfl, ?_⟩
    rcases (outbound_policy sampleProxy TokenProxy.sampleConfig BlobTokens.hubExternals _ "" sampleFetch true
      sampleAnswers sampleWorld []).1 _ member with ⟨url, other, sound⟩ | ⟨_, _, other, _⟩ | ⟨other, _⟩
    · rw [routed] at other
      cases other
      exact sound
    · rw [routed] at other
      cases other
    · rw [routed] at other
      cases other
  · have some_message : (spawned sampleProxy BlobTokens.hubExternals ⟨"/v2/a/blobs/" ++ Digest.letterDigest, none⟩
        "localhost" ⟨.get, [], none⟩ sampleWorld [sampleRound]).length = 2 := by decide +kernel
    have routed : routeRequest sampleProxy.parse ⟨"/v2/a/blobs/" ++ Digest.letterDigest, none⟩ =
        .ok (.registry .dockerHub ("/v2/a/blobs/" ++ Digest.letterDigest)) := by decide +kernel
    obtain ⟨message, member⟩ := List.exists_mem_of_length_pos (Nat.lt_of_lt_of_eq (by decide) some_message.symm)
    refine ⟨message, member, ?_⟩
    obtain ⟨registry, path, same, _, _, round, among, spec, source, sound⟩ :=
      (outbound_policy sampleProxy TokenProxy.sampleConfig BlobTokens.hubExternals _ "localhost" ⟨.get, [], none⟩
        true [] sampleWorld [sampleRound]).2 message member
    rw [routed] at same
    cases same
    cases List.mem_singleton.mp among
    cases (show some BlobTokens.sampleSpec = some spec from source)
    exact sound

end WebProxy.ProxyHandler
