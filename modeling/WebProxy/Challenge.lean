import WebProxy.Responses
import WebProxy.Scopes

/-! The authentication challenge: `rewrite_401_challenge` points a client at the gateway's own
`/token` with a scope that the gateway will translate back. -/

namespace WebProxy.Challenge

open ByteFile (Bytes)
open FetchChunk (BodyItem)
open Redirects (UpstreamResponse getAll)
open Responses (Response headerValue insert wwwAuthenticate streamingResponse)
open Routes (routeRequest registryRepository)
open Scopes (split badSegment refused rewriteScope mergedUpstreamScope)

/-- `origin_for`; without a configured origin it is the scheme and the `Host` header. -/
def originFor (publicOrigin : Option String) (defaultScheme host : String) : String :=
  publicOrigin.getD (defaultScheme ++ "://" ++ host)

def challengeText (origin : String) (scope : Option String) : String :=
  "Bearer realm=\"" ++ origin ++ "/token\",service=\"edge-registry\"" ++
    (scope.map (fun value => ",scope=\"" ++ value ++ "\"")).getD ""

def registryChallenge (origin : String) (scope : Option String) : Option Bytes :=
  headerValue (challengeText origin scope)

def pullScope (registry : Registry) (repository : String) : String :=
  "repository:" ++ registry.routePrefix ++ repository ++ ":pull"

def rewrite401Challenge (response : Response) (registry : Registry) (path origin : String) :
    Response :=
  if response.status ≠ 401 then response
  else
    match registryChallenge origin ((registryRepository path).map (pullScope registry)) with
    | none => response
    | some value => { response with headers := insert response.headers wwwAuthenticate value }

/-- The client's reading of a challenge: the last quoted value, when it is the scope's. -/
def challengeScope (text : String) : Option String :=
  match Split.rsplitOnce '"' text.toList with
  | some (front, []) =>
      match Split.rsplitOnce '"' front with
      | some (lead, scope) =>
          if ",scope=".toList.isSuffixOf lead then some (String.ofList scope) else none
      | none => none
  | _ => none

theorem rewrite401Challenge_values (upstream : UpstreamResponse) (body : List BodyItem) (head : Bool)
    (registry : Registry) (path origin : String) (denied : upstream.status = 401) :
    getAll (rewrite401Challenge (streamingResponse upstream body head) registry path origin).headers
        wwwAuthenticate =
      (registryChallenge origin ((registryRepository path).map (pullScope registry))).toList := by
  have status : (streamingResponse upstream body head).status = 401 := denied
  rw [rewrite401Challenge, if_neg (by simp [status])]
  cases registryChallenge origin ((registryRepository path).map (pullScope registry)) with
  | none => exact Responses.streamingResponse_unchallenged upstream body head
  | some value => exact Responses.getAll_insert _ _ value

theorem challengeText_some (origin scope : String) :
    challengeText origin (some scope) = "Bearer realm=\"" ++ origin ++
      "/token\",service=\"edge-registry\"" ++ (",scope=\"" ++ scope ++ "\"") :=
  rfl

theorem challengeScope_text {origin scope : String} (unquoted : '"' ∉ scope.toList) :
    challengeScope (challengeText origin (some scope)) = some scope := by
  have shape : (challengeText origin (some scope)).toList =
      (("Bearer realm=\"".toList ++ origin.toList ++ "/token\",service=\"edge-registry\"".toList ++
        ",scope=".toList) ++ '"' :: scope.toList) ++ '"' :: [] := by
    have opened : ",scope=\"".toList = ",scope=".toList ++ ['"'] := by decide
    have closed : "\"".toList = ['"'] := by decide
    simp only [challengeText_some, String.toList_append, opened, closed, List.append_assoc,
      List.cons_append, List.nil_append]
  rw [challengeScope, shape, Split.rsplitOnce_append (by simp)]
  simp only
  rw [Split.rsplitOnce_append unquoted]
  simp only
  rw [if_pos (List.isSuffixOf_iff_suffix.mpr (List.suffix_append _ _)), String.ofList_toList]

theorem segments_trailing {repository : String}
    (segments : ∀ segment ∈ split '/' repository, badSegment segment = false) :
    repository ≠ "" ∧ repository.toList.getLast? ≠ some '/' := by
  constructor
  · intro empty
    rw [empty] at segments
    exact absurd (segments "" (by decide)) (by decide)
  · intro last
    obtain ⟨front, whole⟩ := List.getLast?_eq_some_iff.mp last
    have member : "" ∈ split '/' repository := by
      rw [split, whole, List.splitOn_append_cons_self, List.map_append]
      exact List.mem_append_right _ (by simp)
    exact absurd (segments "" member) (by decide)

theorem refused_prefixed (registry : Registry) {repository : String}
    (segments : ∀ segment ∈ split '/' repository, badSegment segment = false) :
    refused (registry.routePrefix ++ repository) "pull" = false := by
  obtain ⟨named, last⟩ := segments_trailing segments
  have letters : repository.toList ≠ [] := by simpa using named
  have host : ∃ name, registry.routePrefix.toList = name ++ ['/'] ∧ '/' ∉ name ∧
      badSegment (String.ofList name) = false := by
    cases registry with
    | dockerHub => exact ⟨"docker.io".toList, by decide, by decide, by decide⟩
    | ghcr => exact ⟨"ghcr.io".toList, by decide, by decide, by decide⟩
  obtain ⟨name, spelled, plain, good⟩ := host
  have whole : (registry.routePrefix ++ repository).toList = name ++ '/' :: repository.toList := by
    rw [String.toList_append, spelled, List.append_assoc]
    rfl
  have pieces : split '/' (registry.routePrefix ++ repository) =
      String.ofList name :: split '/' repository := by
    rw [split, whole, List.splitOn_append_cons_self, List.splitOn_eq_singleton plain]
    rfl
  have first : (registry.routePrefix ++ repository).toList.head? ≠ some '/' := by
    cases registry with
    | dockerHub => simp [Registry.routePrefix]
    | ghcr => simp [Registry.routePrefix]
  have final : (registry.routePrefix ++ repository).toList.getLast? = repository.toList.getLast? := by
    rw [String.toList_append, List.getLast?_append_of_ne_nil _ letters]
  have nonempty : registry.routePrefix ++ repository ≠ "" := by simp [named]
  have clean : (split '/' (registry.routePrefix ++ repository)).any badSegment = false := by
    rw [pieces, List.any_cons, good, Bool.false_or, List.any_eq_false]
    intro segment member
    simp [segments segment member]
  have actions : (split ',' "pull").all (· = "pull") = true := by decide
  rw [refused, clean, actions, final]
  simp only [Bool.or_eq_false_iff, decide_eq_false_iff_not, Bool.not_true, and_true]
  exact ⟨⟨nonempty, first⟩, last⟩

theorem stripRegistry_prefixed (registry : Registry) {repository : String} (named : repository ≠ "")
    (actions : String) :
    Scopes.stripRegistry registry (registry.routePrefix ++ repository) actions =
      some (.ok (registry, "repository:" ++ repository ++ ":" ++ actions)) := by
  rw [Scopes.stripRegistry, Text.stripPrefix_append, Option.map_some, if_neg named]

theorem rewriteScope_pullScope_of (registry : Registry) {repository : String}
    (segments : ∀ segment ∈ split '/' repository, badSegment segment = false)
    (plain : ':' ∉ repository.toList) :
    rewriteScope (pullScope registry repository) =
      .ok (registry, "repository:" ++ repository ++ ":pull") := by
  have colonless : ':' ∉ (registry.routePrefix ++ repository).toList := by
    cases registry with
    | dockerHub => simp [Registry.routePrefix, plain]
    | ghcr => simp [Registry.routePrefix, plain]
  have pieces : Split.splitn 3 ':' (pullScope registry repository).toList =
      ["repository".toList, (registry.routePrefix ++ repository).toList, "pull".toList] := by
    apply Split.splitn_three_iff.mpr
    refine ⟨?_, by decide, colonless⟩
    simp [pullScope]
  have passed := refused_prefixed registry segments
  have named := (segments_trailing segments).1
  have ending : "repository:" ++ repository ++ ":" ++ "pull" =
      "repository:" ++ repository ++ ":pull" := by
    rw [String.append_assoc]
    rfl
  rw [rewriteScope, pieces]
  simp only [String.ofList_toList]
  rw [if_neg (by simp), passed, if_neg (by simp)]
  cases registry with
  | dockerHub => rw [stripRegistry_prefixed .dockerHub named, ending]
  | ghcr =>
      have other : Scopes.stripRegistry .dockerHub (Registry.routePrefix .ghcr ++ repository) "pull" =
          none := by
        rw [Scopes.stripRegistry, Option.map_eq_none_iff, Text.stripPrefix_none_iff]
        simp [Registry.routePrefix]
      rw [other, stripRegistry_prefixed .ghcr named, ending]

/-- Token round trip: whatever a 401 for the path advertises is read by the client as one scope,
and that scope, sent to `/token`, leads back to the registry and the repository of the path. -/
theorem advertised_scope_round_trip (parse : String → Option Url) (uri : Uri) (registry : Registry)
    (path repository origin : String) (upstream : UpstreamResponse) (body : List BodyItem)
    (head : Bool) :
    routeRequest parse uri = .ok (.registry registry path) →
    registryRepository path = some repository →
    (∀ segment ∈ split '/' repository, badSegment segment = false) →
    ':' ∉ repository.toList → '"' ∉ repository.toList → upstream.status = 401 →
    let scope := pullScope registry repository
    getAll (rewrite401Challenge (streamingResponse upstream body head) registry path
        origin).headers wwwAuthenticate = (headerValue (challengeText origin (some scope))).toList ∧
      challengeScope (challengeText origin (some scope)) = some scope ∧
      mergedUpstreamScope [scope] = .ok (registry, "repository:" ++ repository ++ ":pull") := by
  intro _ named segments plain unquoted denied
  refine ⟨?_, ?_, ?_⟩
  · rw [rewrite401Challenge_values upstream body head registry path origin denied, named,
      Option.map_some, registryChallenge]
  · apply challengeScope_text
    cases registry with
    | dockerHub => simp [pullScope, Registry.routePrefix, unquoted]
    | ghcr => simp [pullScope, Registry.routePrefix, unquoted]
  · rw [mergedUpstreamScope, Scopes.mergeLoop, rewriteScope_pullScope_of registry segments plain]
    have shown : "repository:" ++ repository ++ ":pull" ≠ "" := by simp
    simp [shown, Scopes.mergeLoop]

/-- A Docker Hub repository that is itself called `ghcr.io/a`. -/
theorem advertised_scope_round_trip_nested :
    let scope := pullScope .dockerHub "ghcr.io/a"
    (registryChallenge "http://h" (some scope)).isSome = true ∧
      getAll (rewrite401Challenge (streamingResponse ⟨401, [(wwwAuthenticate, [66])]⟩ [] false)
          .dockerHub "/v2/ghcr.io/a/manifests/1" "http://h").headers wwwAuthenticate =
        (headerValue (challengeText "http://h" (some scope))).toList ∧
      challengeScope (challengeText "http://h" (some scope)) = some scope ∧
      mergedUpstreamScope [scope] = .ok (.dockerHub, "repository:ghcr.io/a:pull") :=
  ⟨by decide,
    advertised_scope_round_trip (fun _ => none) ⟨"/v2/docker.io/ghcr.io/a/manifests/1", none⟩
      .dockerHub "/v2/ghcr.io/a/manifests/1" "ghcr.io/a" "http://h" ⟨401, [(wwwAuthenticate, [66])]⟩
      [] false (by decide) (by decide) (by decide) (by decide) (by decide) rfl⟩

end WebProxy.Challenge
