import WebProxy.ImageRef
import WebProxy.Routes

/-! Where the requests of a planned pull go: the daemon asks the gateway for the repository of the
plan, the router chooses an upstream, and a warm-up of the same reference names its own. -/

namespace WebProxy.PullRoutes

open ImageRef (Parts ParsedImageRef PullSpec Sound dockerIo ghcrIo splitReference parseImageRef planPull
  normalize pullPath)
open Routes (routeRequest)

def registryOf (parsed : ParsedImageRef) : Except String Registry :=
  if parsed.registry = "docker.io" then .ok .dockerHub
  else if parsed.registry = "ghcr.io" then .ok .ghcr
  else .error ("unsupported registry " ++ parsed.registry ++ "\n")

def manifestReference (parsed : ParsedImageRef) : String :=
  (parsed.tag.or parsed.digest).getD "latest"

def manifestPath (parsed : ParsedImageRef) : String :=
  "/v2/" ++ parsed.path ++ "/manifests/" ++ manifestReference parsed

theorem stripPrefix_component {host first rest : List Char} (bare : '/' ∉ host) (clear : '/' ∉ first) :
    Text.stripPrefix (String.ofList (first ++ '/' :: rest)) (String.ofList (host ++ ['/'])) =
      if first = host then some (String.ofList rest) else none := by
  split
  · rename_i same
    subst same
    have shape : String.ofList (first ++ '/' :: rest) =
        String.ofList (first ++ ['/']) ++ String.ofList rest := by
      apply String.toList_inj.mp
      simp
    rw [shape, Text.stripPrefix_append]
  · rename_i different
    rw [Text.stripPrefix_none_iff, String.toList_ofList, String.toList_ofList]
    intro leads
    obtain ⟨tail, whole⟩ := leads
    have one := Split.splitOnce_append bare tail
    have two := Split.splitOnce_append clear rest
    rw [← whole, List.append_assoc, List.singleton_append, one] at two
    exact different (Prod.mk.inj (Option.some.inj two)).1.symm

theorem routeRequest_component (parse : String → Option Url) {first rest : List Char}
    (clear : '/' ∉ first) (query : Option String) :
    routeRequest parse ⟨String.ofList ("/v2/".toList ++ (first ++ '/' :: rest)), query⟩ =
      if first = dockerIo then .ok (.registry .dockerHub (String.ofList ("/v2/".toList ++ rest)))
      else if first = ghcrIo then .ok (.registry .ghcr (String.ofList ("/v2/".toList ++ rest)))
      else .ok (.registry .dockerHub (String.ofList ("/v2/".toList ++ (first ++ '/' :: rest)))) := by
  have rooted : String.ofList ("/v2/".toList ++ (first ++ '/' :: rest)) =
      "/v2/" ++ String.ofList (first ++ '/' :: rest) := by
    rw [String.ofList_append, String.ofList_toList]
  have elsewhere : ∀ text : String, text ∈ ["/v2/", "/v2", "/token"] →
      String.ofList ("/v2/".toList ++ (first ++ '/' :: rest)) ≠ text := by
    intro text known same
    have letters := congrArg String.toList same
    rw [String.toList_ofList] at letters
    have cases : text = "/v2/" ∨ text = "/v2" ∨ text = "/token" := by simpa using known
    rcases cases with rfl | rfl | rfl <;> simp at letters
  have hubLead : "docker.io/" = String.ofList (dockerIo ++ ['/']) := by decide
  have docker : Text.stripPrefix (String.ofList (first ++ '/' :: rest)) "docker.io/" =
      if first = dockerIo then some (String.ofList rest) else none := by
    rw [hubLead]
    exact stripPrefix_component (by decide) clear
  have githubLead : "ghcr.io/" = String.ofList (ghcrIo ++ ['/']) := by decide
  have ghcr : Text.stripPrefix (String.ofList (first ++ '/' :: rest)) "ghcr.io/" =
      if first = ghcrIo then some (String.ofList rest) else none := by
    rw [githubLead]
    exact stripPrefix_component (by decide) clear
  have below : String.ofList ("/v2/".toList ++ rest) = "/v2/" ++ String.ofList rest := by
    rw [String.ofList_append, String.ofList_toList]
  have known : ¬ (String.ofList ("/v2/".toList ++ (first ++ '/' :: rest)) = "/v2/" ∨
      String.ofList ("/v2/".toList ++ (first ++ '/' :: rest)) = "/v2") := by
    rw [not_or]
    exact ⟨elsewhere _ (by simp), elsewhere _ (by simp)⟩
  simp only [routeRequest]
  rw [if_neg known, if_neg (elsewhere _ (by simp)), rooted, below, Text.stripPrefix_append]
  simp only [docker, ghcr]
  by_cases hub : first = dockerIo
  · simp only [if_pos hub]
  · by_cases github : first = ghcrIo
    · simp only [if_neg hub, if_pos github]
    · simp only [if_neg hub, if_neg github]

/-- The router sends the daemon's requests for a repository of the gateway to the registry and the
path of the reference, and so to the manifest a warm-up fetches. -/
structure RoutedTo (parse : String → Option Url) (repository : String) (parsed : ParsedImageRef)
    (registry : Registry) : Prop where
  manifests : ∀ (reference : String) (query : Option String),
    routeRequest parse ⟨"/v2/" ++ repository ++ "/manifests/" ++ reference, query⟩ =
      .ok (.registry registry ("/v2/" ++ parsed.path ++ "/manifests/" ++ reference))
  blobs : ∀ (digest : String) (query : Option String),
    routeRequest parse ⟨"/v2/" ++ repository ++ "/blobs/" ++ digest, query⟩ =
      .ok (.registry registry ("/v2/" ++ parsed.path ++ "/blobs/" ++ digest))
  warmed : ∀ query : Option String,
    routeRequest parse ⟨"/v2/" ++ repository ++ "/manifests/" ++ manifestReference parsed, query⟩ =
      .ok (.registry registry (manifestPath parsed))

/-- References whose path the router does not take for a prefixed one: those of ghcr.io, and those
of docker.io whose path has no leading component `docker.io` or `ghcr.io`. -/
def Unprefixed (parts : Parts) : Prop :=
  parts.registry = ghcrIo ∨ ∀ first rest, Split.splitOnce '/' parts.path = some (first, rest) →
    first ≠ dockerIo ∧ first ≠ ghcrIo

theorem pullPath_component {parts : Parts} (docker : parts.registry = dockerIo) :
    ∃ first rest, pullPath parts = first ++ '/' :: rest ∧ '/' ∉ first ∧
      (Unprefixed parts ↔ first ≠ dockerIo ∧ first ≠ ghcrIo) := by
  have distinct : parts.registry ≠ ghcrIo := by
    rw [docker]
    decide
  cases cut : Split.splitOnce '/' parts.path with
  | none =>
      have absent := Split.splitOnce_none_iff.mp cut
      refine ⟨"library".toList, parts.path, ?_, by decide, ?_⟩
      · rw [pullPath, if_pos ⟨docker, absent⟩]
        rfl
      · apply iff_of_true
        · right
          intro first rest written
          rw [cut] at written
          cases written
        · exact ⟨by decide, by decide⟩
  | some pair =>
      obtain ⟨first, rest⟩ := pair
      obtain ⟨whole, clear⟩ := Split.splitOnce_some_iff.mp cut
      refine ⟨first, rest, ?_, clear, ?_⟩
      · rw [pullPath, if_neg, whole]
        intro bare
        exact bare.2 (whole ▸ List.mem_append_right _ List.mem_cons_self)
      · constructor
        · intro unprefixed
          exact unprefixed.resolve_left distinct first rest cut
        · intro named
          right
          intro other tail written
          rw [cut] at written
          cases written
          exact named

theorem spelled_path (name : List Char) (kind tail : String) :
    "/v2/" ++ String.ofList name ++ kind ++ tail =
      String.ofList ("/v2/".toList ++ (name ++ (kind.toList ++ tail.toList))) := by
  apply String.toList_inj.mp
  simp only [String.toList_append, String.toList_ofList, List.append_assoc]

theorem registryOf_docker {parts : Parts} (docker : parts.registry = dockerIo) :
    registryOf (normalize parts) = .ok .dockerHub := by
  have named : (normalize parts).registry = "docker.io" := congrArg String.ofList docker
  exact if_pos named

theorem registryOf_ghcr {parts : Parts} (ghcr : parts.registry = ghcrIo) :
    registryOf (normalize parts) = .ok .ghcr := by
  have named : (normalize parts).registry = "ghcr.io" := congrArg String.ofList ghcr
  have other : (normalize parts).registry ≠ "docker.io" := by
    rw [named]
    decide
  exact (if_neg other).trans (if_pos named)

theorem routeRequest_docker (parse : String → Option Url) {parts : Parts}
    (docker : parts.registry = dockerIo) (kind tail : String) (query : Option String) :
    routeRequest parse ⟨"/v2/" ++ String.ofList (pullPath parts) ++ kind ++ tail, query⟩ =
        .ok (.registry .dockerHub ("/v2/" ++ String.ofList (pullPath parts) ++ kind ++ tail)) ↔
      Unprefixed parts := by
  obtain ⟨first, rest, whole, clear, named⟩ := pullPath_component docker
  rw [named, spelled_path, whole, List.append_assoc, List.cons_append,
    routeRequest_component parse clear query]
  by_cases hub : first = dockerIo
  · rw [if_pos hub]
    apply iff_of_false
    · intro same
      -- the prefix is stripped, so the upstream path is shorter
      simp only [Except.ok.injEq, Route.registry.injEq, true_and, String.ofList_inj] at same
      have sizes := congrArg List.length same
      simp only [List.length_append, List.length_cons] at sizes
      omega
    · exact fun both => both.1 hub
  · rw [if_neg hub]
    by_cases github : first = ghcrIo
    · rw [if_pos github]
      apply iff_of_false
      · intro same
        simp only [Except.ok.injEq, Route.registry.injEq, reduceCtorEq, false_and] at same
      · exact fun both => both.2 github
    · rw [if_neg github]
      exact iff_of_true rfl ⟨hub, github⟩

theorem routeRequest_ghcr (parse : String → Option Url) (path : List Char) (kind tail : String)
    (query : Option String) :
    routeRequest parse ⟨"/v2/" ++ String.ofList (ghcrIo ++ '/' :: path) ++ kind ++ tail, query⟩ =
      .ok (.registry .ghcr ("/v2/" ++ String.ofList path ++ kind ++ tail)) := by
  rw [spelled_path, List.append_assoc, List.cons_append,
    routeRequest_component parse (by decide) query, if_neg (by decide), if_pos rfl, spelled_path]

theorem routeRequest_pull (parse : String → Option Url) {parts : Parts} (sound : Sound parts)
    {gatewayHost repository : String}
    (located : ImageRef.pullRepo (normalize parts) gatewayHost = gatewayHost ++ "/" ++ repository)
    {registry : Registry} (chosen : registryOf (normalize parts) = .ok registry) (kind tail : String)
    (query : Option String) :
    routeRequest parse ⟨"/v2/" ++ repository ++ kind ++ tail, query⟩ =
        .ok (.registry registry ("/v2/" ++ (normalize parts).path ++ kind ++ tail)) ↔
      Unprefixed parts := by
  rcases sound.registry with docker | ghcr
  · rw [ImageRef.pullRepo_docker docker, String.append_right_inj] at located
    rw [registryOf_docker docker] at chosen
    cases chosen
    rw [← located]
    exact routeRequest_docker parse docker kind tail query
  · rw [ImageRef.pullRepo_ghcr ghcr, String.append_right_inj] at located
    rw [registryOf_ghcr ghcr] at chosen
    cases chosen
    have path : (normalize parts).path = String.ofList parts.path := by
      have bare : pullPath parts = parts.path := by
        rw [pullPath, ghcr, if_neg]
        exact fun both => absurd both.1 (by decide)
      exact congrArg String.ofList bare
    rw [← located, path]
    exact iff_of_true (routeRequest_ghcr parse parts.path kind tail query) (Or.inl ghcr)

theorem registryOf_sound {parts : Parts} (sound : Sound parts) :
    ∃ registry, registryOf (normalize parts) = .ok registry := by
  rcases sound.registry with docker | ghcr
  · exact ⟨.dockerHub, registryOf_docker docker⟩
  · exact ⟨.ghcr, registryOf_ghcr ghcr⟩

/-- The plan and the router agree exactly on the unprefixed references. -/
theorem pull_plan_routed_iff (parse : String → Option Url) (image gatewayHost repository : String)
    (plan : PullSpec) (planned : planPull image gatewayHost = .ok plan)
    (located : plan.pullRepo = gatewayHost ++ "/" ++ repository) :
    (∃ parsed registry, parseImageRef image = .ok parsed ∧ registryOf parsed = .ok registry ∧
        RoutedTo parse repository parsed registry) ↔
      Unprefixed (splitReference (Text.trim image.toList)) := by
  obtain ⟨parsed, found, rfl⟩ := ImageRef.planPull_ok planned
  obtain ⟨sound, rfl⟩ := ImageRef.parseImageRef_ok found
  rw [show ∀ parsed, (ImageRef.pullSpec parsed gatewayHost).pullRepo =
    ImageRef.pullRepo parsed gatewayHost from fun _ => rfl] at located
  constructor
  · intro agreed
    obtain ⟨other, registry, again, chosen, routed⟩ := agreed
    rw [found] at again
    cases again
    exact (routeRequest_pull parse sound located chosen "/manifests/" "latest" none).mp
      (routed.manifests "latest" none)
  · intro unprefixed
    obtain ⟨registry, chosen⟩ := registryOf_sound sound
    refine ⟨_, registry, found, chosen, ?_, ?_, ?_⟩
    · intro reference query
      exact (routeRequest_pull parse sound located chosen "/manifests/" reference query).mpr unprefixed
    · intro digest query
      exact (routeRequest_pull parse sound located chosen "/blobs/" digest query).mpr unprefixed
    · intro query
      exact (routeRequest_pull parse sound located chosen "/manifests/" _ query).mpr unprefixed

theorem pull_plan_routed_ghcr :
    ∃ parsed registry, parseImageRef "ghcr.io/owner/img" = .ok parsed ∧
      registryOf parsed = .ok registry ∧ RoutedTo (fun _ => none) "ghcr.io/owner/img" parsed registry :=
  (pull_plan_routed_iff (fun _ => none) "ghcr.io/owner/img" "h" "ghcr.io/owner/img"
    ⟨"ghcr.io/owner/img:latest", "h/ghcr.io/owner/img", some "latest", none, some "ghcr.io/owner/img",
      some "latest"⟩ (by decide +kernel) (by decide)).mpr (Or.inl (by decide +kernel))

/-- A Docker Hub path below `ghcr.io/` is pulled from ghcr.io. -/
theorem hub_path_routed_to_ghcr :
    ∃ plan parsed, planPull "docker.io/ghcr.io/foo" "h" = .ok plan ∧
      plan.pullRepo = "h" ++ "/" ++ "ghcr.io/foo" ∧ parseImageRef "docker.io/ghcr.io/foo" = .ok parsed ∧
      registryOf parsed = .ok .dockerHub ∧ manifestPath parsed = "/v2/ghcr.io/foo/manifests/latest" ∧
      routeRequest (fun _ => none) ⟨"/v2/ghcr.io/foo/manifests/latest", none⟩ =
        .ok (.registry .ghcr "/v2/foo/manifests/latest") :=
  ⟨⟨"ghcr.io/foo:latest", "h/ghcr.io/foo", some "latest", none, some "ghcr.io/foo", some "latest"⟩,
    ⟨"docker.io", "ghcr.io/foo", "ghcr.io/foo", none, none⟩, by decide +kernel, by decide,
    by decide +kernel, by decide, by decide, by decide⟩

end WebProxy.PullRoutes
