import WebProxy.Library.Table
import WebProxy.Routes
import WebProxy.SourceConfig

/-! `SourcePool::blob_token`, and the repository it asks a token for against the one
`registry_repository` and `classify_registry_path` read from the same path. -/

namespace WebProxy.BlobTokens

open Routes (classifyRegistryPath registryRepository lastMarker pathMarkers)
open SourceConfig (Externals SourceSpec SourceUrl)

structure SourcePool where
  specs : List SourceSpec
  tokenCache : List ((Nat × String) × (String × Nat))

structure TokenRequest where
  url : SourceUrl
  query : List (String × String)
  deriving DecidableEq, Repr

/-- What a call does: the request it sends, the token it returns and the pool it leaves. -/
structure TokenTrace where
  requested : Option TokenRequest
  token : String
  pool : SourcePool

/-- `/v2/<repo>/blobs/<digest>`: what precedes the first marker. -/
def tokenRepository (path : String) : String :=
  ((Text.stripPrefix path "/v2/").bind (fun rest =>
    (Split.find "/blobs/".toList rest.toList).map (fun place =>
      String.ofList (rest.toList.take place)))).getD ""

def tokenRequest (spec : SourceSpec) (url : SourceUrl) (repo : String) : TokenRequest :=
  ⟨url, (if spec.tokenService ≠ "" then [("service", spec.tokenService)] else []) ++
    [("scope", "repository:" ++ repo ++ ":pull")]⟩

def SourcePool.cached (pool : SourcePool) (key : Nat × String) (now : Nat) : Option String :=
  ((Table.lookup pool.tokenCache key).filter (fun entry => now < entry.2)).map (·.1)

def readToken (parsed : Option Json) : String × Nat :=
  let token := parsed.bind (fun value =>
    ((value.get "token").or (value.get "access_token")).bind Json.asStr)
  let expires := parsed.bind (fun value => (value.get "expires_in").bind Json.asU64)
  (token.getD "", max (expires.getD 300 - 30) 30)

def second : Nat := 1000000000

/-- A crowded cache first loses what has expired. -/
def SourcePool.keep (pool : SourcePool) (key : Nat × String) (token : String) (ttl now : Nat) :
    SourcePool :=
  let live :=
    if 4096 < pool.tokenCache.length then pool.tokenCache.filter (fun entry => now < entry.2.2)
    else pool.tokenCache
  { pool with tokenCache := Table.insert live key (token, now + ttl * second) }

/-- `blob_token`; `answer` is the text of the response, when one comes in time, and `later` the
time it is there. -/
def blobToken (externals : Externals) (pool : SourcePool) (index : Nat) (path : String) (now : Nat)
    (answer : Option String) (later : Nat) : TokenTrace :=
  match pool.specs[index]? with
  | none => ⟨none, "", pool⟩
  | some spec =>
      if spec.tokenUrl = "" then ⟨none, "", pool⟩
      else
        let repo := tokenRepository path
        if repo = "" then ⟨none, "", pool⟩
        else
          match pool.cached (index, repo) now with
          | some token => ⟨none, token, pool⟩
          | none =>
              match externals.parseUrl spec.tokenUrl with
              | .error _ => ⟨none, "", pool⟩
              | .ok url =>
                  let parsed := answer.bind (fun text => (externals.readJson text).toOption)
                  let (token, ttl) := readToken parsed
                  ⟨some (tokenRequest spec url repo), token,
                    if token = "" then pool else pool.keep (index, repo) token ttl later⟩

/-- The rest of the path has `/blobs/` at one place only, and not at its start. -/
def SingleMarker (path : String) : Prop :=
  ∃ place, 0 < place ∧ ∀ other,
    "/blobs/".toList <+: (path.toList.drop "/v2/".toList.length).drop other ↔ other = place

theorem blobs_nonempty : "/blobs/".toList ≠ [] := by decide

theorem marker_nonempty {marker : String} (listed : marker ∈ pathMarkers) : marker.toList ≠ [] := by
  have table : pathMarkers.all (fun marker => marker.toList ≠ []) = true := by decide
  simpa using List.all_eq_true.mp table marker listed

theorem lastMarker_hit {path first : String} {here : Nat}
    (hit : Split.rfind first.toList path.toList = some here) (rest : List String)
    (best : Option (String × Nat)) :
    ∃ next, lastMarker path (first :: rest) best = lastMarker path rest (some next) ∧
      (next = (first, here) ∨ best = some next) ∧ here ≤ next.2 ∧ ∀ before ∈ best, before.2 ≤ next.2 := by
  cases best with
  | none => exact ⟨(first, here), by simp only [lastMarker, hit], Or.inl rfl, le_rfl, by simp⟩
  | some pair =>
      obtain ⟨name, highest⟩ := pair
      by_cases below : highest < here
      · exact ⟨(first, here), by simp only [lastMarker, hit, if_pos below], Or.inl rfl, le_rfl,
          by simpa using Nat.le_of_lt below⟩
      · exact ⟨(name, highest), by simp only [lastMarker, hit, if_neg below], Or.inr rfl,
          Nat.not_lt.mp below, by simp⟩

theorem lastMarker_some {path : String} {markers : List String} {best : Option (String × Nat)}
    {marker : String} {place : Nat}
    (found : lastMarker path markers best = some (marker, place)) :
    (best = some (marker, place) ∨
        marker ∈ markers ∧ Split.rfind marker.toList path.toList = some place) ∧
      (∀ before ∈ best, before.2 ≤ place) ∧
      ∀ other ∈ markers, ∀ last ∈ Split.rfind other.toList path.toList, last ≤ place := by
  induction markers generalizing best with
  | nil =>
      rw [lastMarker] at found
      subst found
      simp
  | cons first rest ih =>
      cases hit : Split.rfind first.toList path.toList with
      | none =>
          simp only [lastMarker, hit] at found
          obtain ⟨source, before, others⟩ := ih found
          refine ⟨source.imp id (fun later => ⟨List.mem_cons_of_mem _ later.1, later.2⟩), before, ?_⟩
          rw [List.forall_mem_cons, hit]
          exact ⟨by simp, others⟩
      | some here =>
          obtain ⟨next, round, winner, beyond, above⟩ := lastMarker_hit hit rest best
          rw [round] at found
          obtain ⟨source, before, others⟩ := ih found
          have limit : next.2 ≤ place := before next rfl
          refine ⟨?_, fun pair member => (above pair member).trans limit, ?_⟩
          · rcases source with same | behind
            · cases same
              rcases winner with same | old
              · cases same
                exact Or.inr ⟨List.mem_cons_self, hit⟩
              · exact Or.inl old
            · exact Or.inr ⟨List.mem_cons_of_mem _ behind.1, behind.2⟩
          · rw [List.forall_mem_cons, hit]
            refine ⟨?_, others⟩
            intro last same
            cases same
            exact beyond.trans limit

/-- Where the digest of a blob path starts: behind the last `/blobs/`, with no marker after it. -/
theorem classify_blob {path digest : String} (blob : classifyRegistryPath path = .blob digest) :
    ∃ place, "/blobs/".toList <+: path.toList.drop place ∧
      digest.toList = path.toList.drop (place + "/blobs/".toList.length) ∧
      ∀ marker ∈ pathMarkers, ∀ later, place < later → ¬ marker.toList <+: path.toList.drop later := by
  unfold classifyRegistryPath at blob
  split at blob
  · rename_i place found
    cases blob
    obtain ⟨source, _, others⟩ := lastMarker_some found
    obtain ⟨_, last⟩ := source.resolve_left (by simp)
    refine ⟨place, ((Split.rfind_some_iff blobs_nonempty).mp last).1, ?_, ?_⟩
    · rw [String.toList_ofList]
      rfl
    · intro marker listed later beyond occurs
      cases hit : Split.rfind marker.toList path.toList with
      | none => exact (Split.rfind_none_iff (marker_nonempty listed)).mp hit later occurs
      | some final =>
          have bound := others marker listed final hit
          exact ((Split.rfind_some_iff (marker_nonempty listed)).mp hit).2 later (by omega) occurs
  · cases blob
  · cases blob

theorem registryRepository_eq {path rest : String} (stripped : Text.stripPrefix path "/v2/" = some rest) :
    registryRepository path =
      ((pathMarkers.filterMap (fun marker => Split.rfind marker.toList rest.toList)).max?.filter
        (· ≠ 0)).map (fun place => String.ofList (rest.toList.take place)) := by
  rw [registryRepository, stripped]
  simp only
  cases (pathMarkers.filterMap (fun marker => Split.rfind marker.toList rest.toList)).max? with
  | none => rfl
  | some place =>
      by_cases zero : place = 0
      · simp [zero]
      · simp [zero, Option.filter]

theorem mem_places {rest : List Char} {place : Nat}
    (member : place ∈ pathMarkers.filterMap (fun marker => Split.rfind marker.toList rest)) :
    ∃ marker ∈ pathMarkers, marker.toList <+: rest.drop place := by
  obtain ⟨marker, listed, found⟩ := List.mem_filterMap.mp member
  exact ⟨marker, listed, ((Split.rfind_some_iff (marker_nonempty listed)).mp found).1⟩

theorem registryRepository_last {path rest : String} {place : Nat}
    (stripped : Text.stripPrefix path "/v2/" = some rest) (inside : 0 < place)
    (occurs : "/blobs/".toList <+: rest.toList.drop place)
    (final : ∀ marker ∈ pathMarkers, ∀ later, place < later →
      ¬ marker.toList <+: rest.toList.drop later) :
    registryRepository path = some (String.ofList (rest.toList.take place)) := by
  have listed : "/blobs/" ∈ pathMarkers := by decide
  have greatest : (pathMarkers.filterMap (fun marker => Split.rfind marker.toList rest.toList)).max? =
      some place := by
    rw [List.max?_eq_some_iff]
    constructor
    · refine List.mem_filterMap.mpr ⟨"/blobs/", listed, ?_⟩
      exact (Split.rfind_some_iff blobs_nonempty).mpr ⟨occurs, final "/blobs/" listed⟩
    · intro other member
      obtain ⟨marker, among, there⟩ := mem_places member
      by_contra beyond
      exact final marker among other (Nat.not_le.mp beyond) there
  rw [registryRepository_eq stripped, greatest]
  simp [Option.filter, Nat.pos_iff_ne_zero.mp inside]

theorem registryRepository_none {path rest : String}
    (stripped : Text.stripPrefix path "/v2/" = some rest)
    (final : ∀ marker ∈ pathMarkers, ∀ later, 0 < later → ¬ marker.toList <+: rest.toList.drop later) :
    registryRepository path = none := by
  rw [registryRepository_eq stripped, Option.map_eq_none_iff, Option.filter_eq_none_iff]
  intro place greatest
  obtain ⟨marker, listed, occurs⟩ := mem_places (List.max?_mem greatest)
  have zero : place = 0 := by
    by_contra other
    exact final marker listed place (Nat.pos_of_ne_zero other) occurs
  simp [zero]

theorem blobToken_requested {externals : Externals} {pool : SourcePool} {index now : Nat}
    {path : String} {spec : SourceSpec} {url : SourceUrl} (answer : Option String) (later : Nat)
    (source : pool.specs[index]? = some spec) (named : spec.tokenUrl ≠ "")
    (parsed : externals.parseUrl spec.tokenUrl = .ok url)
    (uncached : pool.cached (index, tokenRepository path) now = none) :
    (blobToken externals pool index path now answer later).requested =
      if tokenRepository path = "" then none
      else some (tokenRequest spec url (tokenRepository path)) := by
  by_cases empty : tokenRepository path = ""
  · simp [blobToken, source, named, empty]
  · simp [blobToken, source, named, empty, uncached, parsed]

theorem blobToken_asks {externals : Externals} {pool : SourcePool} {index now later : Nat} {path : String}
    {answer : Option String} {request : TokenRequest}
    (asked : (blobToken externals pool index path now answer later).requested = some request) :
    ∃ spec url, pool.specs[index]? = some spec ∧ externals.parseUrl spec.tokenUrl = .ok url ∧
      request = tokenRequest spec url (tokenRepository path) := by
  unfold blobToken at asked
  split at asked
  · cases asked
  · rename_i spec source
    split at asked
    · cases asked
    · simp only at asked
      split at asked
      · cases asked
      · split at asked
        · cases asked
        · split at asked
          · cases asked
          · rename_i url parsed
            exact ⟨spec, url, source, parsed, (Option.some.inj asked).symm⟩

theorem tokenRequest_inj {spec : SourceSpec} {url : SourceUrl} {one two : String}
    (same : tokenRequest spec url one = tokenRequest spec url two) : one = two := by
  simp only [tokenRequest, TokenRequest.mk.injEq, true_and, List.append_cancel_left_eq,
    List.cons.injEq, Prod.mk.injEq, and_true] at same
  have letters := congrArg String.toList same
  simp only [String.toList_append, List.append_cancel_left_eq, List.append_cancel_right_eq] at letters
  exact String.toList_inj.mp letters

theorem drop_version (rest : String) (place : Nat) :
    ("/v2/" ++ rest).toList.drop (place + "/v2/".toList.length) = rest.toList.drop place := by
  rw [String.toList_append, Nat.add_comm, ← List.drop_drop, List.drop_left]

theorem tokenRepository_of_find {rest : String} {place : Nat}
    (found : Split.find "/blobs/".toList rest.toList = some place) :
    tokenRepository ("/v2/" ++ rest) = String.ofList (rest.toList.take place) := by
  rw [tokenRepository, Text.stripPrefix_append, Option.bind_some, found]
  rfl

theorem tokenRepository_last_iff {rest : String} {place : Nat}
    (occurs : "/blobs/".toList <+: rest.toList.drop place) :
    tokenRepository ("/v2/" ++ rest) = String.ofList (rest.toList.take place) ↔
      ∀ earlier, earlier < place → ¬ "/blobs/".toList <+: rest.toList.drop earlier := by
  have inside : place ≤ rest.toList.length := by
    by_contra beyond
    rw [List.drop_eq_nil_of_le (by omega)] at occurs
    exact blobs_nonempty (List.prefix_nil.mp occurs)
  constructor
  · intro same earlier below there
    -- the first occurrence stands before the last one and cuts off less
    obtain ⟨first, before, found⟩ := Split.find_of_occurs blobs_nonempty there
    rw [tokenRepository_of_find found] at same
    have lengths := congrArg List.length (String.ofList_inj.mp same)
    rw [List.length_take, List.length_take] at lengths
    omega
  · intro none
    exact tokenRepository_of_find ((Split.find_some_iff blobs_nonempty).mpr ⟨occurs, none⟩)

theorem path_spelled {rest digest : String} {place : Nat}
    (digested : digest.toList = ("/v2/" ++ rest).toList.drop
      (place + "/v2/".toList.length + "/blobs/".toList.length))
    (occurs : "/blobs/".toList <+: rest.toList.drop place) :
    "/v2/" ++ rest = "/v2/" ++ String.ofList (rest.toList.take place) ++ "/blobs/" ++ digest := by
  obtain ⟨tail, behind⟩ := occurs
  have end_eq : digest.toList = tail := by
    rw [digested, Nat.add_right_comm, drop_version, ← List.drop_drop, ← behind, List.drop_left]
  apply String.toList_inj.mp
  have halves := List.take_append_drop place rest.toList
  rw [← behind, ← end_eq] at halves
  simp only [String.toList_append, String.toList_ofList, List.append_assoc]
  exact congrArg _ halves.symm

theorem take_ne_empty {rest : String} {place : Nat} (inside : 0 < place)
    (occurs : "/blobs/".toList <+: rest.toList.drop place) :
    String.ofList (rest.toList.take place) ≠ "" := by
  intro empty
  have size := occurs.length_le
  have marker : "/blobs/".toList.length = 7 := by decide
  rw [List.length_drop, marker] at size
  have letters := congrArg (fun text : String => text.toList.length) empty
  simp only [String.toList_ofList, List.length_take] at letters
  change _ = 0 at letters
  omega

theorem single_iff {rest : String} {place : Nat} (inside : 0 < place)
    (occurs : "/blobs/".toList <+: rest.toList.drop place)
    (final : ∀ later, place < later → ¬ "/blobs/".toList <+: rest.toList.drop later) :
    (∃ place, 0 < place ∧ ∀ other, "/blobs/".toList <+: rest.toList.drop other ↔ other = place) ↔
      ∀ earlier, earlier < place → ¬ "/blobs/".toList <+: rest.toList.drop earlier := by
  constructor
  · rintro ⟨single, _, only⟩ earlier below there
    have first := (only earlier).mp there
    have second := (only place).mp occurs
    omega
  · intro none
    refine ⟨place, inside, ?_⟩
    intro other
    constructor
    · intro there
      by_contra different
      rcases Nat.lt_or_gt_of_ne different with below | beyond
      · exact none other below there
      · exact final other beyond there
    · rintro rfl
      exact occurs

theorem singleMarker_iff (rest : String) : SingleMarker ("/v2/" ++ rest) ↔
    ∃ place, 0 < place ∧ ∀ other, "/blobs/".toList <+: rest.toList.drop other ↔ other = place := by
  have dropped := drop_version rest 0
  rw [Nat.zero_add, List.drop_zero] at dropped
  rw [SingleMarker, dropped]

theorem registryRepository_under {path repository : String} (named : registryRepository path = some repository) :
    ∃ rest, path = "/v2/" ++ rest := by
  unfold registryRepository at named
  split at named
  · cases named
  · rename_i rest stripped
    refine ⟨rest, String.toList_inj.mp ?_⟩
    rw [String.toList_append]
    exact Text.stripPrefix_some stripped

theorem tokenRepository_of_single {path digest repository : String}
    (blob : classifyRegistryPath path = .blob digest) (single : SingleMarker path)
    (named : registryRepository path = some repository) :
    tokenRepository path = repository ∧ repository ≠ "" := by
  obtain ⟨rest, rfl⟩ := registryRepository_under named
  obtain ⟨last, there, _, final⟩ := classify_blob blob
  obtain ⟨place, inside, only⟩ := (singleMarker_iff rest).mp single
  have occurs : "/blobs/".toList <+: rest.toList.drop place := (only place).mpr rfl
  have late : place + "/v2/".toList.length ≤ last := by
    by_contra early
    have again := final "/blobs/" (by decide) (place + "/v2/".toList.length) (Nat.lt_of_not_le early)
    rw [drop_version] at again
    exact again occurs
  -- the one place is that of the last marker, so no marker of any kind follows it
  have same : last = place + "/v2/".toList.length := by
    obtain ⟨behind, rfl⟩ : ∃ behind, last = behind + "/v2/".toList.length :=
      ⟨last - "/v2/".toList.length, by omega⟩
    rw [drop_version] at there
    rw [(only behind).mp there]
  have repository_eq := registryRepository_last (Text.stripPrefix_append "/v2/" rest) inside occurs (by
    intro marker listed later beyond follows
    rw [← drop_version] at follows
    exact final marker listed _ (by omega) follows)
  rw [named] at repository_eq
  rw [Option.some.inj repository_eq]
  refine ⟨(tokenRepository_last_iff occurs).mpr ?_, take_ne_empty inside occurs⟩
  intro earlier below first
  have equal := (only earlier).mp first
  omega

/-- On a blob path below `/v2/` the three functions agree on the repository exactly when `/blobs/`
stands at one place behind `/v2/`, and not at the start. -/
theorem repositories_agree_iff (externals : Externals) (pool : SourcePool) (index now later : Nat)
    (answer : Option String) (spec : SourceSpec) (url : SourceUrl) (path digest : String)
    (source : pool.specs[index]? = some spec) (named : spec.tokenUrl ≠ "")
    (parsed : externals.parseUrl spec.tokenUrl = .ok url)
    (uncached : pool.cached (index, tokenRepository path) now = none)
    (blob : classifyRegistryPath path = .blob digest) (under : "/v2/".toList <+: path.toList) :
    (∃ repo, registryRepository path = some repo ∧ path = "/v2/" ++ repo ++ "/blobs/" ++ digest ∧
        (blobToken externals pool index path now answer later).requested =
          some (tokenRequest spec url repo)) ↔ SingleMarker path := by
  rw [blobToken_requested answer later source named parsed uncached]
  obtain ⟨last, occurs, digested, final⟩ := classify_blob blob
  obtain ⟨tail, whole⟩ := under
  obtain ⟨rest, rfl⟩ : ∃ rest, path = "/v2/" ++ rest := by
    refine ⟨String.ofList tail, String.toList_inj.mp ?_⟩
    simp only [String.toList_append, String.toList_ofList, ← whole]
  have stripped := Text.stripPrefix_append "/v2/" rest
  have behind : ∀ marker ∈ pathMarkers, ∀ place, last < place + "/v2/".toList.length →
      ¬ marker.toList <+: rest.toList.drop place := by
    intro marker listed place beyond there
    rw [← drop_version] at there
    exact final marker listed _ beyond there
  rw [singleMarker_iff]
  by_cases early : last ≤ "/v2/".toList.length
  · -- the marker uses the slash of the version, or nothing precedes it
    have none := registryRepository_none stripped (fun marker listed place inside =>
      behind marker listed place (by omega))
    rw [none]
    constructor
    · rintro ⟨repo, absent, _⟩
      cases absent
    · rintro ⟨place, inside, only⟩
      exact absurd ((only place).mpr rfl) (behind "/blobs/" (by decide) place (by omega))
  · obtain ⟨place, rfl⟩ : ∃ place, last = place + "/v2/".toList.length :=
      ⟨last - "/v2/".toList.length, by omega⟩
    have inside : 0 < place := by omega
    rw [drop_version] at occurs
    have repository := registryRepository_last stripped inside occurs
      (fun marker listed later beyond => behind marker listed later (by omega))
    have spelled := path_spelled digested occurs
    have cut := tokenRepository_last_iff occurs
    rw [single_iff inside occurs (fun later beyond => behind "/blobs/" (by decide) later (by omega)),
      ← cut, repository]
    constructor
    · rintro ⟨repo, same, _, requested⟩
      cases same
      split at requested
      · cases requested
      · exact tokenRequest_inj (Option.some.inj requested)
    · intro same
      refine ⟨_, rfl, spelled, ?_⟩
      rw [same, if_neg (take_ne_empty inside occurs)]

def sampleSpec : SourceSpec :=
  ⟨"dockerhub", "https://registry-1.docker.io", "https://auth.docker.io/token", "registry.docker.io"⟩

def samplePool : SourcePool := ⟨[sampleSpec], []⟩

def hubExternals : Externals := SourceConfig.sampleExternals "https://ghcr.io"

def hubTokenUrl : SourceUrl := SourceConfig.sampleUrl "auth.docker.io" "/token" none

theorem repositories_agree_alpine :
    ∃ repo, registryRepository "/v2/library/alpine/blobs/sha256:abc" = some repo ∧
      "/v2/library/alpine/blobs/sha256:abc" = "/v2/" ++ repo ++ "/blobs/" ++ "sha256:abc" ∧
      (blobToken hubExternals samplePool 0 "/v2/library/alpine/blobs/sha256:abc" 0 none 0).requested =
        some (tokenRequest sampleSpec hubTokenUrl repo) := by
  refine (repositories_agree_iff hubExternals samplePool 0 0 0 none sampleSpec hubTokenUrl
    "/v2/library/alpine/blobs/sha256:abc" "sha256:abc" rfl (by decide) (by rfl) (by decide +kernel)
    (by decide +kernel) (by decide)).mpr ⟨14, by decide, ?_⟩
  have table : ∀ other < 31, "/blobs/".toList <+:
      ("/v2/library/alpine/blobs/sha256:abc".toList.drop "/v2/".toList.length).drop other ↔
        other = 14 := by decide +kernel
  intro other
  rcases Nat.lt_or_ge other 31 with inside | beyond
  · exact table other inside
  · have ended : ("/v2/library/alpine/blobs/sha256:abc".toList.drop "/v2/".toList.length).drop other =
        [] := List.drop_eq_nil_of_le beyond
    rw [ended, List.prefix_nil]
    exact ⟨fun empty => absurd empty blobs_nonempty, fun same => by omega⟩

/-- A repository with a component `blobs`: the token is for another repository. -/
theorem nested_blobs_token_for_parent :
    classifyRegistryPath "/v2/a/blobs/b/blobs/sha256:abc" = .blob "sha256:abc" ∧
      registryRepository "/v2/a/blobs/b/blobs/sha256:abc" = some "a/blobs/b" ∧
      (blobToken hubExternals samplePool 0 "/v2/a/blobs/b/blobs/sha256:abc" 0 none 0).requested =
        some (tokenRequest sampleSpec hubTokenUrl "a") ∧
      ¬ ∃ repo, registryRepository "/v2/a/blobs/b/blobs/sha256:abc" = some repo ∧
        (blobToken hubExternals samplePool 0 "/v2/a/blobs/b/blobs/sha256:abc" 0 none 0).requested =
          some (tokenRequest sampleSpec hubTokenUrl repo) := by
  have extracted : registryRepository "/v2/a/blobs/b/blobs/sha256:abc" = some "a/blobs/b" := by
    decide +kernel
  have asked : (blobToken hubExternals samplePool 0 "/v2/a/blobs/b/blobs/sha256:abc" 0 none
      0).requested = some (tokenRequest sampleSpec hubTokenUrl "a") := by decide +kernel
  refine ⟨by decide +kernel, extracted, asked, ?_⟩
  rintro ⟨repo, same, requested⟩
  rw [extracted] at same
  rw [asked] at requested
  cases same
  exact absurd (tokenRequest_inj (Option.some.inj requested)) (by decide)

end WebProxy.BlobTokens
