import WebProxy.CachedBlob
import WebProxy.Commit
import WebProxy.Logs
import WebProxy.Manifests

/-! `proxy_blob`: which of its ways a request takes, what it counts and logs on it, and what comes from the
cache. `passthrough_registry` is here too. -/

namespace WebProxy.ProxyBlob

open ByteFile (Bytes)
open ByteRange (Fault parseSingleByteRange)
open CachedBlob (BlobFile Opened Surroundings cachedBlobResponse fileReadBuffer)
open Challenge (rewrite401Challenge originFor)
open FetchChunk (BodyItem delivered complete isSuccess)
open Logs (LogEntry)
open Manifests (Proxy Request readable range)
open Redirects (HeaderMap Answer getAll authorization fetchFollowingRedirects)
open Responses (Response contentType contentLength dockerContentDigest errorResponse headerValue
  streamingResponse utf8)

/-- What a call meets: the two lookups with the size they find, how the cached file is opened, and the
upstream with the length that its body is known to have. -/
structure World where
  first : Option Nat
  second : Option Nat
  opened : Opened
  again : Bool
  answers : List Answer
  items : List BodyItem
  bodyLength : Option Nat

inductive Task where
  | single
  | chunked (total : Nat)
  deriving DecidableEq, Repr

inductive Outcome where
  | response (response : Response)
  | download (headers : HeaderMap) (task : Task)
  deriving DecidableEq, Repr

inductive Lookup where
  | hit
  | miss
  deriving DecidableEq, Repr

structure Logged where
  method : String
  status : Nat
  category : String
  note : String
  deriving DecidableEq, Repr

structure Visit where
  outcome : Outcome
  lookup : Option Lookup
  credited : Nat
  logged : Option Logged
  deriving DecidableEq, Repr

def methodName (request : Request) : String := if request.head then "HEAD" else "GET"

def relayed (proxy : Proxy) (request : Request) (items : List BodyItem)
    (outcome : Except Redirects.ErrorResponse Redirects.UpstreamResponse) : Response :=
  match outcome with
  | .error error => errorResponse error
  | .ok upstream =>
      rewrite401Challenge (streamingResponse upstream items request.head) request.registry request.path
        (originFor proxy.publicOrigin proxy.defaultScheme request.host)

def passthroughRegistry (proxy : Proxy) (request : Request) (answers : List Answer)
    (items : List BodyItem) : Response :=
  match request.url proxy with
  | none => errorResponse Redirects.badGateway
  | some url =>
      relayed proxy request items (fetchFollowingRedirects proxy.join proxy.gateway true answers url
        request.method request.headers none).outcome

def shortHex (hex : String) : String := String.ofList (hex.toList.take 8)

/-- The bytes a hit is credited with. -/
def servedBytes (range : Option String) (size : Nat) : Except Fault Nat := do
  let parsed ← match range with
    | some value => parseSingleByteRange value size
    | none => .ok none
  match parsed with
  | some (.ok (start, last)) => return last - start + 1
  | some (.error ()) => return 0
  | none => return size

def hitVisit (proxy : Proxy) (world : World) (request : Request) (digest : String) (size : Nat)
    (category : String) (note : Nat → String) : Except Fault Visit := do
  let ranged := readable request.headers range
  let served ← servedBytes ranged size
  let response ← cachedBlobResponse
    ⟨fileReadBuffer, world.opened, world.again,
      passthroughRegistry proxy request world.answers world.items⟩ size request.head digest ranged
  return ⟨.response response, some .hit, served, some ⟨"GET", response.status, category, note served⟩⟩

def blobHeaders (digestHeader : Bytes) : HeaderMap :=
  [(contentType, utf8 "application/octet-stream"), (dockerContentDigest, digestHeader)]

def missVisit (proxy : Proxy) (world : World) (request : Request) (digest hex : String) : Visit :=
  match request.url proxy with
  | none => ⟨.response (errorResponse Redirects.badGateway), some .miss, 0, none⟩
  | some url =>
      let outcome := (fetchFollowingRedirects proxy.join proxy.gateway true world.answers url
        request.method request.headers none).outcome
      let response := relayed proxy request world.items outcome
      match outcome with
      | .error error =>
          ⟨.response response, some .miss, 0, some ⟨methodName request, error.status, "upstream_error",
            "hex=" ++ shortHex hex ++ " redirect/connect"⟩⟩
      | .ok upstream =>
          if !isSuccess upstream.status then
            ⟨.response response, some .miss, 0, some ⟨methodName request, upstream.status,
              "upstream_status", "hex=" ++ shortHex hex ++ " upstream=" ++ toString upstream.status⟩⟩
          else if request.head then
            ⟨.response (streamingResponse upstream world.items true), some .miss, 0,
              some ⟨"HEAD", upstream.status, "upstream_head", "hex=" ++ shortHex hex⟩⟩
          else
            match headerValue digest with
            | none => ⟨.response (errorResponse Redirects.badGateway), some .miss, 0, none⟩
            | some digestHeader =>
                if getAll request.headers authorization ≠ [] then
                  ⟨.download (blobHeaders digestHeader) .single, some .miss, 0,
                    some ⟨methodName request, 200, "auth_single",
                      "hex=" ++ shortHex hex ++ " authenticated fallback"⟩⟩
                else
                  match world.bodyLength with
                  | none =>
                      ⟨.download (blobHeaders digestHeader) .single, some .miss, 0,
                        some ⟨methodName request, 200, "fallback_single",
                          "hex=" ++ shortHex hex ++ " no Content-Length"⟩⟩
                  | some total =>
                      ⟨.download (blobHeaders digestHeader ++ [(contentLength, utf8 (toString total))])
                        (.chunked total), some .miss, 0, none⟩

def proxyBlob (proxy : Proxy) (world : World) (request : Request) (digest : String) :
    Except Fault Visit :=
  let passed := passthroughRegistry proxy request world.answers world.items
  match Digest.sha256Hex digest with
  | none =>
      .ok ⟨.response passed, none, 0, some ⟨methodName request, passed.status, "passthrough",
        "digest parse failed: " ++ digest⟩⟩
  | some hex =>
      match world.first with
      | some size =>
          hitVisit proxy world request digest size
            (if (readable request.headers range).isSome then "cache_hit_range" else "cache_hit")
            (fun served => "hex=" ++ shortHex hex ++ " size=" ++ toString size ++ " served=" ++
              toString served)
      | none =>
          if (readable request.headers range).isSome then
            .ok ⟨.response passed, none, 0, some ⟨methodName request, passed.status,
              "upstream_range_miss", "hex=" ++ shortHex hex ++ " miss+ranged"⟩⟩
          else
            match world.second with
            | some size =>
                hitVisit proxy world request digest size "cache_hit_flight"
                  (fun served => "hex=" ++ shortHex hex ++ " served=" ++ toString served)
            | none => .ok (missVisit proxy world request digest hex)

theorem hitVisit_responds {proxy : Proxy} {world : World} {request : Request} {digest category : String}
    {size : Nat} {note : Nat → String} {visit : Visit}
    (visited : hitVisit proxy world request digest size category note = .ok visit) :
    ∃ response, visit.outcome = .response response := by
  unfold hitVisit at visited
  simp only [bind, Except.bind] at visited
  split at visited
  · cases visited
  · split at visited
    · cases visited
    · cases visited
      exact ⟨_, rfl⟩

theorem chunked_anonymous {proxy : Proxy} {world : World} {request : Request} {digest : String}
    {visit : Visit} {headers : HeaderMap} {total : Nat}
    (visited : proxyBlob proxy world request digest = .ok visit)
    (spawned : visit.outcome = .download headers (.chunked total)) :
    request.head = false ∧ getAll request.headers authorization = [] := by
  have answered : ∀ {size : Nat} {category : String} {note : Nat → String},
      hitVisit proxy world request digest size category note ≠ .ok visit := by
    intro size category note hit
    obtain ⟨response, same⟩ := hitVisit_responds hit
    rw [same] at spawned
    cases spawned
  unfold proxyBlob at visited
  simp only at visited
  split at visited
  · cases visited
    cases spawned
  · split at visited
    · exact absurd visited answered
    · split at visited
      · cases visited
        cases spawned
      · split at visited
        · exact absurd visited answered
        · cases visited
          unfold missVisit at spawned
          split at spawned
          · cases spawned
          · simp only at spawned
            split at spawned
            · cases spawned
            · split at spawned
              · cases spawned
              · split at spawned
                · cases spawned
                · rename_i get
                  split at spawned
                  · cases spawned
                  · split at spawned
                    · cases spawned
                    · rename_i anonymous
                      exact ⟨by simpa using get, not_not.mp anonymous⟩

/-- What a hit on a blob of a size is credited with. -/
def credit (range : Option String) (size : Nat) : Nat :=
  match (range.bind ByteRange.readRange).map (ByteRange.RangeSpec.answer size) with
  | some (.ok (start, last)) => last - start + 1
  | some (.error ()) => 0
  | none => size

theorem servedBytes_eq (range : Option String) (size : Nat) :
    servedBytes range size = .ok (credit range size) := by
  cases range with
  | none => rfl
  | some value =>
      rw [servedBytes, credit, Option.bind_some]
      simp only [ByteRange.parseSingleByteRange_eq]
      cases (ByteRange.readRange value).map (ByteRange.RangeSpec.answer size) with
      | none => rfl
      | some answer =>
          cases answer with
          | error refused => rfl
          | ok bounds => rfl

theorem cachedBlobResponse_eq (surroundings : Surroundings) (size : Nat) (head : Bool) (digest : String)
    (range : Option String) : cachedBlobResponse surroundings size head digest range =
      match (range.bind ByteRange.readRange).map (ByteRange.RangeSpec.answer size) with
      | some (.ok (start, last)) =>
          surroundings.respond head digest 206 start (last - start + 1)
            (some (CachedBlob.rangeText start last size))
      | some (.error ()) => .ok (CachedBlob.rangeNotSatisfiable size digest)
      | none => surroundings.respond head digest 200 0 size none := by
  cases range with
  | none => rfl
  | some value =>
      rw [cachedBlobResponse, Option.bind_some]
      simp only [ByteRange.parseSingleByteRange_eq]
      cases read : ByteRange.readRange value with
      | none => rfl
      | some spec =>
          cases answer : spec.answer size with
          | error refused =>
              simp only [Option.map_some, answer]
              rfl
          | ok bounds =>
              obtain ⟨start, last⟩ := bounds
              obtain ⟨ordered, inside⟩ := CachedBlob.answer_bounds answer
              simp only [Option.map_some, answer]
              change Except.bind (ByteRange.sub last start) _ = _
              rw [ByteRange.sub_ok ordered]
              rfl

structure Call where
  request : Request
  digest : String
  world : World
  epochSecs : Int
  durationMs : Nat

def Call.visit (call : Call) (proxy : Proxy) : Except Fault Visit :=
  proxyBlob proxy call.world call.request call.digest

def logRoute : String := "/v2/*/blobs/*"

def Call.entry (call : Call) (logged : Logged) : LogEntry :=
  ⟨call.epochSecs, logRoute, logged.method, logged.status, call.durationMs, logged.category, logged.note⟩

structure Stats where
  blobHits : Nat
  blobMisses : Nat
  bytesFromCache : Nat
  deriving DecidableEq, Repr

def Stats.count (stats : Stats) (visit : Visit) : Stats where
  blobHits := stats.blobHits + if visit.lookup = some .hit then 1 else 0
  blobMisses := stats.blobMisses + if visit.lookup = some .miss then 1 else 0
  bytesFromCache := stats.bytesFromCache + visit.credited

structure Server where
  stats : Stats
  logs : Logs.Buffer
  deriving DecidableEq, Repr

def Server.new : Server := ⟨⟨0, 0, 0⟩, []⟩

def Server.record (server : Server) (call : Call) (visit : Visit) : Server where
  stats := server.stats.count visit
  logs :=
    match visit.logged with
    | some logged => Logs.recordLog server.logs (call.entry logged)
    | none => server.logs

def Outcome.status : Outcome → Nat
  | .response answer => answer.status
  | .download _ _ => 200

def Outcome.body : Outcome → List BodyItem
  | .response answer => answer.body
  | .download _ _ => []

/-- The bytes of a body that were read from a cached file. -/
def fromCache (call : Call) (visit : Visit) : Nat :=
  match visit.lookup, call.world.opened with
  | some .hit, .file _ => (delivered visit.outcome.body).length
  | _, _ => 0

/-- The last entries of a sequence of calls, as they were logged. -/
def entries (calls : List Call) (visits : List Visit) : List LogEntry :=
  (calls.zip visits).filterMap (fun pair => pair.2.logged.map (fun logged => Logs.kept (pair.1.entry logged)))

def sampleProxy : Proxy where
  sha256 := Digest.sampleSha256
  parse := fun _ => none
  join := fun _ _ => none
  gateway := ⟨8, []⟩
  registryBase := fun _ => ""
  publicOrigin := none
  defaultScheme := "http"

/-- What a GET of a cached file asks for: all of it, one range, or a range it does not have. -/
def asked (range : Option String) (size : Nat) : Except Fault (Option (Except Unit (Nat × Nat))) :=
  match range with
  | some value => parseSingleByteRange value size
  | none => .ok none

theorem asked_eq (range : Option String) (size : Nat) :
    asked range size = .ok ((range.bind ByteRange.readRange).map (ByteRange.RangeSpec.answer size)) := by
  cases range with
  | none => rfl
  | some value => exact ByteRange.parseSingleByteRange_eq value size

/-- The answer that a request asks for, of a file. -/
inductive Asked (content : Bytes) (range : Option String) (response : Response) : Prop where
  | whole : asked range content.length = .ok none → response.status = 200 →
      delivered response.body = content → Asked content range response
  | part (start last : Nat) : asked range content.length = .ok (some (.ok (start, last))) → start ≤ last →
      last < content.length → response.status = 206 →
      delivered response.body = (content.drop start).take (last - start + 1) → Asked content range response
  | refused : asked range content.length = .ok (some (.error ())) → response.status = 416 →
      delivered response.body = [] → Asked content range response

theorem cached_slice (surroundings : Surroundings) {file : BlobFile} (room : 0 < surroundings.buffer)
    (opened : surroundings.opened = .file file) (digest : String) (range : Option String)
    {response : Response}
    (answered : cachedBlobResponse surroundings file.content.length false digest range = .ok response)
    (whole : complete response.body = true) : Asked file.content range response := by
  rw [cachedBlobResponse_eq] at answered
  have wanted := asked_eq range file.content.length
  cases answer : (range.bind ByteRange.readRange).map (ByteRange.RangeSpec.answer file.content.length) with
  | none =>
      obtain ⟨body, sent, streams⟩ :=
        CachedBlob.respond_file room opened digest 200 0 file.content.length none (by omega)
      simp only [answer, sent] at answered
      cases answered
      refine .whole (wanted.trans (by rw [answer])) rfl ?_
      rw [streams.whole whole, List.drop_zero, List.take_length]
  | some result =>
      rw [answer] at wanted
      cases result with
      | error refused =>
          simp only [answer] at answered
          cases answered
          refine .refused wanted ?_ ?_
          · rw [CachedBlob.rangeNotSatisfiable]
            split <;> rfl
          · rw [CachedBlob.rangeNotSatisfiable]
            split <;> rfl
      | ok bounds =>
          obtain ⟨start, last⟩ := bounds
          obtain ⟨spec, read, same⟩ := Option.map_eq_some_iff.mp answer
          obtain ⟨ordered, inside⟩ := CachedBlob.answer_bounds same
          obtain ⟨body, sent, streams⟩ := CachedBlob.respond_file room opened digest 206 start
            (last - start + 1) (some (CachedBlob.rangeText start last file.content.length)) (by omega)
          simp only [answer, sent] at answered
          cases answered
          exact .part start last wanted ordered inside rfl (streams.whole whole)

theorem hit_answer {proxy : Proxy} {call : Call} {hex : String} {size : Nat} {visit : Visit}
    {response : Response} (named : Digest.sha256Hex call.digest = some hex)
    (found : call.world.first = some size ∨ call.world.first = none ∧
      readable call.request.headers range = none ∧ call.world.second = some size)
    (visited : call.visit proxy = .ok visit) (outcome : visit.outcome = .response response) :
    cachedBlobResponse ⟨fileReadBuffer, call.world.opened, call.world.again,
        passthroughRegistry proxy call.request call.world.answers call.world.items⟩ size call.request.head
        call.digest (readable call.request.headers range) = .ok response := by
  obtain ⟨category, note, hit⟩ : ∃ category note,
      hitVisit proxy call.world call.request call.digest size category note = .ok visit := by
    rw [Call.visit, proxyBlob, named] at visited
    rcases found with first | ⟨first, whole, second⟩
    · rw [first] at visited
      exact ⟨_, _, visited⟩
    · rw [first, whole, second] at visited
      exact ⟨_, _, visited⟩
  rw [hitVisit] at hit
  simp only [servedBytes_eq] at hit
  change Except.bind (cachedBlobResponse _ _ _ _ _) _ = _ at hit
  cases answered : cachedBlobResponse ⟨fileReadBuffer, call.world.opened, call.world.again,
      passthroughRegistry proxy call.request call.world.answers call.world.items⟩ size call.request.head
      call.digest (readable call.request.headers range) with
  | error fault =>
      rw [answered] at hit
      cases hit
  | ok other =>
      rw [answered] at hit
      cases hit
      cases outcome
      rfl

/-- After any downloads, kills and removals that stay within the announced sizes, a GET that finds the blob
and opens its file gets, when its body comes to its end, the content its digest names, or exactly the range
of it that its `Range` header asks for, or no byte where the content has no such range. -/
theorem cached_bodies_named (sha256 : Bytes → Bytes) (hex : String) (part sidecar : Option Bytes)
    (events : List Attempts.Event) (store : Attempts.Store) (blob : Attempts.Blob)
    (within : Machine.Along (Attempts.step sha256 hex)
      (fun state event => Attempts.withinTotal state event = true) (Attempts.Store.found part sidecar) events)
    (ran : Machine.run (Attempts.step sha256 hex) (Attempts.Store.found part sidecar) events = some store)
    (committed : store.blob = some blob) (proxy : Proxy) (call : Call) (file : BlobFile)
    (named : Digest.sha256Hex call.digest = some hex) (get : call.request.head = false)
    (found : call.world.first = some blob.content.length ∨ call.world.first = none ∧
      readable call.request.headers range = none ∧ call.world.second = some blob.content.length)
    (opened : call.world.opened = .file file) (content : file.content = blob.content)
    (visit : Visit) (response : Response) (visited : call.visit proxy = .ok visit)
    (outcome : visit.outcome = .response response) (whole : complete response.body = true) :
    Digest.hexEncode (sha256 file.content) = hex ∧ file.content.length = blob.announced ∧
      Asked file.content (readable call.request.headers range) response := by
  have fresh : Attempts.Named sha256 hex (Attempts.Store.found part sidecar) :=
    ⟨Attempts.sound_found part sidecar, by simp [Attempts.Store.found], trivial⟩
  obtain ⟨spelled, length⟩ :=
    (Machine.along_invariant (Attempts.Named sha256 hex) Attempts.named_step fresh within ran).blob blob
      committed
  have answered := hit_answer named found visited outcome
  rw [get, ← content] at answered
  refine ⟨content ▸ spelled, content ▸ length, ?_⟩
  exact cached_slice _ (by change 0 < fileReadBuffer; decide) opened _ _ answered whole

def teeEvents : List Attempts.Event := [.teeCreate, .teePiece [97], .teeEnd, .rename]

def letterFile : BlobFile := ⟨[97], fun _ => 0, fun _ => false, fun _ => false⟩

def letterCall : Call where
  request := ⟨.dockerHub, "/v2/a/blobs/" ++ Digest.letterDigest, none, "localhost", false, []⟩
  digest := Digest.letterDigest
  world := ⟨none, some 1, .file letterFile, false, [], [], none⟩
  epochSecs := 0
  durationMs := 0

theorem cached_bodies_named_letter : ∃ visit response, letterCall.visit sampleProxy = .ok visit ∧
    visit.outcome = .response response ∧ delivered response.body = [97] ∧
    Digest.hexEncode (Digest.sampleSha256 letterFile.content) = Digest.letterKey := by
  have ended : (Machine.run (Attempts.step Digest.sampleSha256 Digest.letterKey)
      (Attempts.Store.found none none) teeEvents).bind Attempts.Store.blob = some ⟨[97], 1⟩ := by
    decide +kernel
  obtain ⟨store, ran, committed⟩ := Option.bind_eq_some_iff.mp ended
  have answered : (letterCall.visit sampleProxy).map (fun visit => (visit.outcome)) =
      .ok (.response ⟨200, CachedBlob.blobHeaders Digest.letterDigest 1 none, [.data [97]]⟩) := by
    decide +kernel
  cases visited : letterCall.visit sampleProxy with
  | error fault =>
      rw [visited] at answered
      cases answered
  | ok visit =>
      rw [visited] at answered
      have outcome := Except.ok.inj answered
      obtain ⟨spelled, _, answer⟩ := cached_bodies_named Digest.sampleSha256 Digest.letterKey none none
        teeEvents store ⟨[97], 1⟩ (by decide +kernel) ran committed sampleProxy letterCall letterFile
        (by decide +kernel) rfl (Or.inr ⟨rfl, by decide +kernel, rfl⟩) rfl rfl visit _ visited outcome rfl
      cases answer with
      | whole _ _ all => exact ⟨visit, _, rfl, outcome, all, spelled⟩
      | part start last _ _ _ status _ => cases status
      | refused _ status _ => cases status

end WebProxy.ProxyBlob
