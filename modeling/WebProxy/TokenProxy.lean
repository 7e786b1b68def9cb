import WebProxy.BlobTokens
import WebProxy.Challenge
import WebProxy.Library.FormUrlencoded
import WebProxy.Library.Utf8Lossy

/-! `/token` and the other places that ask a registry for a pull token: the query each of them sends, as
its reader sees it. -/

namespace WebProxy.TokenProxy

open ByteFile (Bytes)
open Challenge (pullScope)
open FetchChunk (BodyItem isSuccess)
open Redirects (HeaderMap Method UpstreamRequest UpstreamResponse copyRequestHeaders upstreamError)
open Responses (Response errorResponse copyResponseHeaders readResponseBodyCapped utf8)
open Routes (registryRepository)
open Scopes (badSegment mergedUpstreamScope split)
open SourceConfig (RegistryConfig)

def asciiText (bytes : Bytes) : String := String.ofList (bytes.map (fun byte => Char.ofNat byte.toNat))

def appendPair (query : String) (pair : String × String) : String :=
  query ++ (if query = "" then "" else "&") ++ asciiText (FormUrlencoded.serialize (utf8 pair.1)) ++ "=" ++
    asciiText (FormUrlencoded.serialize (utf8 pair.2))

def appendPairs (url : Url) (pairs : List (String × String)) : Url :=
  { url with query := some (pairs.foldl appendPair (url.query.getD "")) }

def queryPairs (query : Option String) : List (String × String) :=
  (FormUrlencoded.parse (utf8 (query.getD ""))).map
    (fun pair => (Utf8Lossy.decode pair.1, Utf8Lossy.decode pair.2))

def maxTokenResponseBytes : Nat := 1024 * 1024

/-- `buffered_response`: the whole body, or a 502. -/
def bufferedResponse (upstream : UpstreamResponse) (body : List BodyItem) (head : Bool) (maxBytes : Nat) :
    Response :=
  if head then ⟨upstream.status, copyResponseHeaders upstream.headers [], []⟩
  else
    match readResponseBodyCapped body maxBytes with
    | none => errorResponse Redirects.badGateway
    | some bytes => ⟨upstream.status, copyResponseHeaders upstream.headers [], [.data bytes]⟩

def rawScopes (pairs : List (String × String)) : List String :=
  (pairs.filter (fun pair => pair.1 = "scope")).map Prod.snd

def kept (pairs : List (String × String)) : List (String × String) :=
  pairs.filter (fun pair => ! ["scope", "service", "account", "offline_token"].contains pair.1)

def scopePairs (scope : String) : List (String × String) := if scope = "" then [] else [("scope", scope)]

def proxyTokenRequest (parse : String → Option Url) (config : Registry → RegistryConfig) (method : Method)
    (uri : Uri) (headers : HeaderMap) : Except Nat UpstreamRequest :=
  if method ≠ .get ∧ method ≠ .head then .error 405
  else
    let pairs := queryPairs uri.query
    match mergedUpstreamScope (rawScopes pairs) with
    | .error status => .error status
    | .ok (registry, upstreamScope) =>
        match parse (config registry).tokenUrl with
        | none => .error 500
        | some url =>
            .ok
              ⟨appendPairs url
                (("service", (config registry).tokenService) :: (scopePairs upstreamScope ++ kept pairs)),
                method, copyRequestHeaders headers true, none⟩

def proxyToken (parse : String → Option Url) (config : Registry → RegistryConfig)
    (send : UpstreamRequest → Option (UpstreamResponse × List BodyItem)) (method : Method) (uri : Uri)
    (headers : HeaderMap) : Response :=
  match proxyTokenRequest parse config method uri headers with
  | .error status => errorResponse ⟨status, ""⟩
  | .ok request =>
      match send request with
      | none => errorResponse upstreamError
      | some (upstream, body) => bufferedResponse upstream body (method = .head) maxTokenResponseBytes

def repositoryScope (repository : String) : String := "repository:" ++ repository ++ ":pull"

def fetchTokenUrl (parse : String → Option Url) (config : RegistryConfig) (path : String) : Option Url :=
  (parse config.tokenUrl).map (fun url =>
    appendPairs url
      (("service", config.tokenService) ::
        ((registryRepository path).map (fun repository => ("scope", repositoryScope repository))).toList))

/-- `fetch_token_for`: every failure is a 502, but for a token URL that is none. -/
def fetchTokenFor (parse : String → Option Url) (readJson : Bytes → Option Json)
    (send : Url → Option (Nat × Option Bytes)) (config : RegistryConfig) (path : String) :
    Except Nat String :=
  match fetchTokenUrl parse config path with
  | none => .error 500
  | some url =>
      match send url with
      | none => .error 502
      | some (status, body) =>
          if isSuccess status then
            match (body.bind readJson).bind (fun value => value.textAt "token") with
            | none => .error 502
            | some token => .ok token
          else .error 502

def anonymousTokenUrl (parse : String → Option Url) (config : RegistryConfig) (repo : String) : Option Url :=
  (parse config.tokenUrl).map (fun url =>
    appendPairs url
      ((if config.tokenService ≠ "" then [("service", config.tokenService)] else []) ++
        [("scope", repositoryScope repo)]))

/-- `fetch_anonymous_token`; `none` stands for its errors. -/
def fetchAnonymousToken (parse : String → Option Url) (readJson : String → Option Json)
    (send : Url → Option String) (config : RegistryConfig) (repo : String) : Option String :=
  if config.tokenUrl = "" then some ""
  else
    (anonymousTokenUrl parse config repo).bind (fun url =>
      ((send url).bind readJson).map (fun value =>
        ((((value.get "token").or (value.get "access_token")).bind Json.asStr).getD "")))

theorem utf8_append (first second : String) : utf8 (first ++ second) = utf8 first ++ utf8 second := by
  rw [utf8, String.toList_append, List.flatMap_append, ← utf8, ← utf8]

theorem utf8_eq_nil {text : String} : utf8 text = [] ↔ text = "" := by
  constructor
  · intro empty
    rw [← Utf8Lossy.decode_encode text]
    exact (congrArg Utf8Lossy.decode empty).trans (by decide)
  · rintro rfl
    rfl

theorem utf8_asciiText {bytes : Bytes} (ascii : ∀ byte ∈ bytes, byte.toNat < 128) :
    utf8 (asciiText bytes) = bytes := by
  rw [utf8, asciiText, String.toList_ofList]
  induction bytes with
  | nil => rfl
  | cons byte rest ih =>
      have small := ascii byte List.mem_cons_self
      have char : (Char.ofNat byte.toNat).toNat = byte.toNat := by
        rw [Char.ofNat, dif_pos (.inl (by omega))]
        rfl
      have single : String.utf8EncodeChar (Char.ofNat byte.toNat) = [byte] := by
        have value : (Char.ofNat byte.toNat).val.toNat = byte.toNat := char
        rw [String.utf8EncodeChar.eq_def]
        simp only [value]
        rw [if_pos (by omega)]
        simp
      rw [List.map_cons, List.flatMap_cons, single, List.singleton_append,
        ih (fun other member => ascii other (List.mem_cons_of_mem _ member))]

theorem utf8_appendPair (query : String) (pair : String × String) :
    utf8 (appendPair query pair) = FormUrlencoded.appendPair (utf8 query) (utf8 pair.1, utf8 pair.2) := by
  have mark : utf8 (if query = "" then "" else "&") = if utf8 query = [] then [] else [38] := by
    simp only [utf8_eq_nil]
    split
    · rfl
    · decide
  have equals : utf8 "=" = [61] := by decide
  rw [appendPair, FormUrlencoded.appendPair, utf8_append, utf8_append, utf8_append, utf8_append, mark, equals,
    utf8_asciiText (FormUrlencoded.serialize_ascii _), utf8_asciiText (FormUrlencoded.serialize_ascii _),
    List.append_assoc (_ ++ _) [61], List.singleton_append]

theorem utf8_foldl (pairs : List (String × String)) (query : String) :
    utf8 (pairs.foldl appendPair query) =
      (pairs.map (fun pair => (utf8 pair.1, utf8 pair.2))).foldl FormUrlencoded.appendPair (utf8 query) := by
  induction pairs generalizing query with
  | nil => rfl
  | cons pair rest ih => rw [List.foldl_cons, ih, utf8_appendPair, List.map_cons, List.foldl_cons]

theorem queryPairs_appendPairs (url : Url) (pairs : List (String × String)) :
    queryPairs (appendPairs url pairs).query = queryPairs url.query ++ pairs := by
  have texts : (pairs.map (fun pair => (utf8 pair.1, utf8 pair.2))).map
      (fun pair => (Utf8Lossy.decode pair.1, Utf8Lossy.decode pair.2)) = pairs := by
    rw [List.map_map]
    refine (List.map_congr_left ?_).trans (List.map_id _)
    intro pair _
    exact Prod.ext (Utf8Lossy.decode_encode pair.1) (Utf8Lossy.decode_encode pair.2)
  rw [queryPairs, appendPairs, Option.getD_some, utf8_foldl, FormUrlencoded.parse_foldl, List.map_append, texts]
  rfl

theorem proxyTokenRequest_ok {parse : String → Option Url} {config : Registry → RegistryConfig} {method : Method}
    {uri : Uri} {headers : HeaderMap} {request : UpstreamRequest}
    (sent : proxyTokenRequest parse config method uri headers = .ok request) :
    ∃ registry scope url, mergedUpstreamScope (rawScopes (queryPairs uri.query)) = .ok (registry, scope) ∧
      parse (config registry).tokenUrl = some url ∧
      request = ⟨appendPairs url (("service", (config registry).tokenService) ::
        (scopePairs scope ++ kept (queryPairs uri.query))), method, copyRequestHeaders headers true, none⟩ := by
  unfold proxyTokenRequest at sent
  split at sent
  · cases sent
  · simp only at sent
    split at sent
    · cases sent
    · rename_i registry scope merged
      split at sent
      · cases sent
      · rename_i url parsed
        cases sent
        exact ⟨registry, scope, url, merged, parsed, rfl⟩

theorem kept_names {pairs : List (String × String)} {pair : String × String} (member : pair ∈ kept pairs) :
    pair ∈ pairs ∧ pair.1 ≠ "scope" ∧ pair.1 ≠ "service" ∧ pair.1 ≠ "account" ∧ pair.1 ≠ "offline_token" := by
  obtain ⟨among, other⟩ := List.mem_filter.mp member
  simpa [among] using other

/-- What a registry is asked for a token, whatever the client's query is: its own service, once, the one
scope the client's are merged into, once, and the client's other parameters, in order; the account and the
wish for an offline token stay behind. The URL is the configured one. -/
theorem token_query_exact (parse : String → Option Url) (config : Registry → RegistryConfig) (method : Method)
    (uri : Uri) (headers : HeaderMap) (request : UpstreamRequest)
    (sent : proxyTokenRequest parse config method uri headers = .ok request) :
    ∃ registry scope url added, mergedUpstreamScope (rawScopes (queryPairs uri.query)) = .ok (registry, scope) ∧
      parse (config registry).tokenUrl = some url ∧ { request.url with query := url.query } = url ∧
      queryPairs request.url.query = queryPairs url.query ++ added ∧
      rawScopes added = (if scope = "" then [] else [scope]) ∧
      (added.filter (fun pair => pair.1 = "service")) = [("service", (config registry).tokenService)] ∧
      (∀ pair ∈ added, pair.1 ≠ "account" ∧ pair.1 ≠ "offline_token") ∧
      added.filter (fun pair => ! ["scope", "service"].contains pair.1) = kept (queryPairs uri.query) := by
  obtain ⟨registry, scope, url, merged, parsed, rfl⟩ := proxyTokenRequest_ok sent
  have others : ∀ pair ∈ kept (queryPairs uri.query), pair.1 ≠ "scope" ∧ pair.1 ≠ "service" :=
    fun pair member => ⟨(kept_names member).2.1, (kept_names member).2.2.1⟩
  refine ⟨registry, scope, url, _, merged, parsed, rfl, queryPairs_appendPairs url _, ?_, ?_, ?_, ?_⟩
  · have none : rawScopes (kept (queryPairs uri.query)) = [] := by
      rw [rawScopes, List.map_eq_nil_iff, List.filter_eq_nil_iff]
      intro pair member
      simp [(others pair member).1]
    rw [rawScopes, List.filter_cons_of_neg (by simp), List.filter_append, List.map_append, ← rawScopes,
      ← rawScopes, none, List.append_nil, scopePairs]
    split <;> rfl
  · have none : (kept (queryPairs uri.query)).filter (fun pair => pair.1 = "service") = [] := by
      rw [List.filter_eq_nil_iff]
      intro pair member
      simp [(others pair member).2]
    rw [List.filter_cons_of_pos (by simp), List.filter_append, none, List.append_nil, scopePairs]
    split <;> rfl
  · intro pair member
    rcases List.mem_cons.mp member with rfl | member
    · exact ⟨by simp, by simp⟩
    · rcases List.mem_append.mp member with asked | other
      · rw [scopePairs] at asked
        split at asked
        · cases asked
        · rw [List.mem_singleton.mp asked]
          exact ⟨by simp, by simp⟩
      · exact ⟨(kept_names other).2.2.2.1, (kept_names other).2.2.2.2⟩
  · have all : (kept (queryPairs uri.query)).filter (fun pair => ! ["scope", "service"].contains pair.1) =
        kept (queryPairs uri.query) := by
      rw [List.filter_eq_self]
      intro pair member
      simp [others pair member]
    rw [List.filter_cons_of_neg (by simp), List.filter_append, all, scopePairs]
    split <;> rfl

theorem fetchTokenUrl_pairs {parse : String → Option Url} {config : RegistryConfig} {path repository : String}
    {url : Url} (named : registryRepository path = some repository) (parsed : parse config.tokenUrl = some url) :
    (fetchTokenUrl parse config path).map (fun made => queryPairs made.query) =
      some (queryPairs url.query ++
        [("service", config.tokenService), ("scope", repositoryScope repository)]) := by
  rw [fetchTokenUrl, parsed, named, Option.map_some, Option.map_some, queryPairs_appendPairs]
  rfl

theorem anonymousTokenUrl_pairs {parse : String → Option Url} {config : RegistryConfig} (repo : String)
    {url : Url} (parsed : parse config.tokenUrl = some url) :
    (anonymousTokenUrl parse config repo).map (fun made => queryPairs made.query) =
      some (queryPairs url.query ++
        ((if config.tokenService ≠ "" then [("service", config.tokenService)] else []) ++
          [("scope", repositoryScope repo)])) := by
  rw [anonymousTokenUrl, parsed, Option.map_some, Option.map_some, queryPairs_appendPairs]

/-- A client that asks for the scope its challenge named gets the token that the gateway gets for itself:
the route and the gateway's two fetches send the same service and the same scope. So does `blob_token` for
a source of that service, on a blob path with one marker and without a cached token. -/
theorem token_paths_agree (parse : String → Option Url) (config : Registry → RegistryConfig)
    (registry : Registry) (path repository : String) (named : registryRepository path = some repository)
    (segments : ∀ segment ∈ split '/' repository, badSegment segment = false) (plain : ':' ∉ repository.toList)
    (service : (config registry).tokenService ≠ "") (url : Url)
    (parsed : parse (config registry).tokenUrl = some url) (head : Bool) (uri : Uri) (headers : HeaderMap)
    (asked : rawScopes (queryPairs uri.query) = [pullScope registry repository]) :
    let common := [("service", (config registry).tokenService), ("scope", repositoryScope repository)]
    (∃ request, proxyTokenRequest parse config (if head then .head else .get) uri headers = .ok request ∧
      queryPairs request.url.query = queryPairs url.query ++ common ++ kept (queryPairs uri.query)) ∧
    (fetchTokenUrl parse (config registry) path).map (fun made => queryPairs made.query) =
      some (queryPairs url.query ++ common) ∧
    (anonymousTokenUrl parse (config registry) repository).map (fun made => queryPairs made.query) =
      some (queryPairs url.query ++ common) ∧
    ∀ (externals : SourceConfig.Externals) (pool : BlobTokens.SourcePool) (index now later : Nat)
      (answer : Option String) (spec : SourceConfig.SourceSpec) (base : SourceConfig.SourceUrl)
      (digest : String), pool.specs[index]? = some spec → spec.tokenUrl ≠ "" →
      externals.parseUrl spec.tokenUrl = .ok base → spec.tokenService = (config registry).tokenService →
      Routes.classifyRegistryPath path = .blob digest → BlobTokens.SingleMarker path →
      pool.cached (index, repository) now = none →
      (BlobTokens.blobToken externals pool index path now answer later).requested = some ⟨base, common⟩ := by
  intro common
  have shown : repositoryScope repository ≠ "" := by simp [repositoryScope]
  have merged : mergedUpstreamScope [pullScope registry repository] = .ok (registry, repositoryScope repository) := by
    rw [mergedUpstreamScope, Scopes.mergeLoop, Challenge.rewriteScope_pullScope_of registry segments plain]
    simp [Scopes.mergeLoop, repositoryScope]
  refine ⟨?_, fetchTokenUrl_pairs named parsed, ?_, ?_⟩
  · refine ⟨⟨appendPairs url (("service", (config registry).tokenService) ::
      (scopePairs (repositoryScope repository) ++ kept (queryPairs uri.query))),
      if head then .head else .get, copyRequestHeaders headers true, none⟩, ?_, ?_⟩
    · rw [proxyTokenRequest, if_neg (by cases head <;> simp)]
      simp only [asked, merged, parsed]
    · rw [queryPairs_appendPairs, scopePairs, if_neg shown, List.append_assoc]
      rfl
  · rw [anonymousTokenUrl_pairs repository parsed, if_pos service]
    rfl
  · intro externals pool index now later answer spec base digest source some_url read same blob single uncached
    obtain ⟨read_repository, some_repository⟩ := BlobTokens.tokenRepository_of_single blob single named
    rw [← read_repository] at uncached
    rw [BlobTokens.blobToken_requested answer later source some_url read uncached, read_repository,
      if_neg some_repository, BlobTokens.tokenRequest, same, if_pos service]
    rfl

def sampleTokenUrl : Url := ⟨"https", "", none, some "auth.docker.io", none, "/token", none⟩

def sampleConfig (_ : Registry) : RegistryConfig :=
  ⟨"https://registry-1.docker.io", "https://auth.docker.io/token", "registry.docker.io"⟩

def sampleParse (text : String) : Option Url :=
  if text = "https://auth.docker.io/token" then some sampleTokenUrl else none

def sampleUri : Uri :=
  ⟨"/token", some ("account=me&client_id=docker&note=a+b%26c&offline_token=true&scope=repository%3A" ++
    "docker.io%2Flibrary%2Falpine%3Apull&service=edge-registry")⟩

theorem sample_sent : ∃ request, proxyTokenRequest sampleParse sampleConfig .get sampleUri [] = .ok request ∧
    queryPairs request.url.query =
      [("service", "registry.docker.io"), ("scope", "repository:library/alpine:pull"), ("client_id", "docker"),
        ("note", "a b&c")] := by
  refine ⟨⟨appendPairs sampleTokenUrl (("service", "registry.docker.io") ::
    (scopePairs "repository:library/alpine:pull" ++ kept (queryPairs sampleUri.query))), .get, [], none⟩, ?_, ?_⟩
  · decide +kernel
  · decide +kernel

theorem token_query_exact_client : ∃ request,
    proxyTokenRequest sampleParse sampleConfig .get sampleUri [] = .ok request ∧
      ∃ added, queryPairs request.url.query = queryPairs sampleTokenUrl.query ++ added ∧
        ∀ pair ∈ added, pair.1 ≠ "account" ∧ pair.1 ≠ "offline_token" := by
  obtain ⟨request, sent, _⟩ := sample_sent
  obtain ⟨registry, scope, url, added, _, parsed, _, pairs, _, _, without, _⟩ :=
    token_query_exact sampleParse sampleConfig .get sampleUri [] request sent
  cases (show some sampleTokenUrl = some url from parsed)
  exact ⟨request, sent, added, pairs, without⟩

theorem sample_single : BlobTokens.SingleMarker "/v2/library/alpine/blobs/sha256:0" := by
  have table : ∀ other < 29, "/blobs/".toList <+:
      ("/v2/library/alpine/blobs/sha256:0".toList.drop "/v2/".toList.length).drop other ↔ other = 14 := by
    decide +kernel
  refine ⟨14, by decide, ?_⟩
  intro other
  by_cases inside : other < 29
  · exact table other inside
  · have ended : ("/v2/library/alpine/blobs/sha256:0".toList.drop "/v2/".toList.length).drop other = [] :=
      List.drop_eq_nil_of_le (by
        have size : ("/v2/library/alpine/blobs/sha256:0".toList.drop "/v2/".toList.length).length ≤ 29 := by
          decide
        omega)
    rw [ended, List.prefix_nil]
    exact ⟨fun empty => absurd empty BlobTokens.blobs_nonempty, fun same => by omega⟩

theorem token_paths_agree_alpine :
    (fetchTokenUrl sampleParse (sampleConfig .dockerHub) "/v2/library/alpine/blobs/sha256:0").map
        (fun made => queryPairs made.query) =
      (anonymousTokenUrl sampleParse (sampleConfig .dockerHub) "library/alpine").map
        (fun made => queryPairs made.query) ∧
      (BlobTokens.blobToken BlobTokens.hubExternals BlobTokens.samplePool 0
        "/v2/library/alpine/blobs/sha256:0" 0 none 0).requested =
        some ⟨BlobTokens.hubTokenUrl, [("service", "registry.docker.io"),
          ("scope", "repository:library/alpine:pull")]⟩ := by
  obtain ⟨_, first, second, third⟩ := token_paths_agree sampleParse sampleConfig .dockerHub
    "/v2/library/alpine/blobs/sha256:0" "library/alpine" (by decide) (by decide) (by decide) (by decide)
    sampleTokenUrl (by decide) false sampleUri [] (by decide +kernel)
  refine ⟨first.trans second.symm, third BlobTokens.hubExternals BlobTokens.samplePool 0 0 0 none
    BlobTokens.sampleSpec BlobTokens.hubTokenUrl "sha256:0" rfl (by decide) (by rfl) rfl (by decide +kernel)
    sample_single (by decide +kernel)⟩

end WebProxy.TokenProxy
