import WebProxy.FetchChunk

/-! Which requests the redirect loop of a chunk fetch sends. Hosts and the token are always
contained; scheme and port are those of whatever the upstream redirects to. -/

namespace WebProxy.FetchChunk

variable (join : Url → String → Option Url) (target : Target)

/-- The hosts a chunk fetch may reach: that of its source and those of the allowlist. -/
def Target.reaches (target : Target) (origin url : Url) : Prop :=
  url.host = origin.host ∨
    target.allowedHosts.contains (Text.toAsciiLowercase (url.host.getD "")) = true

/-- What the outbound policy asks of the requests of one fetch. -/
structure PolicyKept (target : Target) (origin : Url) (requests : List Request) : Prop where
  secure : ∀ request ∈ requests.tail,
    request.url.scheme = "https" ∧ request.url.portOrKnownDefault = some 443
  contained : ∀ request ∈ requests.tail, target.reaches origin request.url
  tokenHome : ∀ request ∈ requests, request.bearer.isSome →
    request.url.scheme = "https" ∧ request.url.host = origin.host

/-- A redirect target that the policy allows to be requested, or that is never requested
because its scheme is neither http nor https. -/
def Policed (url : Url) : Prop :=
  url.scheme ≠ "http" ∧ (url.scheme = "https" → url.portOrKnownDefault = some 443)

def followed (current : Url) (redirects : Nat) : Answer → Option Url
  | .response response =>
      if isRedirection response.status && redirects < maxRedirects then
        (response.location.bind (join current)).filter (target.follows current)
      else none
  | _ => none

/-- No redirect the upstream answers with, as far as the loop follows them, leads to an http
URL or to a port other than 443. -/
def RedirectsPoliced : List Answer → Url → Nat → Prop
  | [], _, _ => True
  | answer :: answers, current, redirects =>
      ∀ next, followed join target current redirects answer = some next →
        Policed next ∧ (next.scheme = "https" → RedirectsPoliced answers next (redirects + 1))

theorem redirectLoop_requests (answer : Answer) (answers : List Answer) (current : Url)
    (useAuth : Bool) (redirects : Nat) (sent : sendable current = true) :
    (redirectLoop join target (answer :: answers) current useAuth redirects).requests =
      target.request current useAuth ::
        match followed join target current redirects answer with
        | none => []
        | some next => (redirectLoop join target answers next
            (useAuth && next.host = current.host) (redirects + 1)).requests := by
  cases answer with
  | timedOut => simp [redirectLoop, sent, followed]
  | failed => simp [redirectLoop, sent, followed]
  | response response =>
      simp only [redirectLoop, sent, if_true, followed]
      cases redirection : isRedirection response.status with
      | false => simp
      | true =>
          by_cases limit : maxRedirects ≤ redirects
          · simp [limit, Nat.not_lt.mpr limit]
          · have below : redirects < maxRedirects := Nat.not_le.mp limit
            cases place : response.location with
            | none => simp [limit, below]
            | some location =>
                cases joined : join current location with
                | none => simp [limit, below, joined]
                | some next =>
                    cases allowed : target.follows current next with
                    | false => simp [limit, below, joined, allowed, Option.filter]
                    | true => simp [limit, below, joined, allowed, Option.filter]

theorem redirectLoop_unsent (answers : List Answer) (current : Url) (useAuth : Bool)
    (redirects : Nat) (unsent : sendable current = false) :
    (redirectLoop join target answers current useAuth redirects).requests = [] := by
  cases answers <;> simp [redirectLoop, unsent]

theorem redirectLoop_head (answers : List Answer) (current : Url) (useAuth : Bool)
    (redirects : Nat) (sent : sendable current = true) :
    ∃ rest, (redirectLoop join target answers current useAuth redirects).requests =
      target.request current useAuth :: rest := by
  cases answers with
  | nil => exact ⟨[], by simp [redirectLoop, sent]⟩
  | cons answer answers => exact ⟨_, redirectLoop_requests join target answer answers _ _ _ sent⟩

theorem request_bearer {url : Url} {useAuth : Bool}
    (bearer : (target.request url useAuth).bearer.isSome = true) : useAuth = true := by
  cases useAuth with
  | false => simp [Target.request] at bearer
  | true => rfl

theorem followed_reaches {origin current next : Url} {redirects : Nat} {answer : Answer}
    (near : target.reaches origin current)
    (chosen : followed join target current redirects answer = some next) :
    target.reaches origin next := by
  cases answer with
  | timedOut => cases chosen
  | failed => cases chosen
  | response response =>
      simp only [followed] at chosen
      split at chosen
      · have allowed := (Option.filter_eq_some_iff.mp chosen).2
        simp only [Target.follows, Bool.or_eq_true, decide_eq_true_eq] at allowed
        rcases allowed with same | listed
        · rcases near with home | listed
          · exact Or.inl (same.trans home)
          · exact Or.inr (by rw [same]; exact listed)
        · exact Or.inr listed
      · cases chosen

/-- Hosts and token: along any chain every request stays on the source's host or the
allowlist, and the token goes only to the source's host. -/
theorem redirectLoop_contained (origin : Url) (answers : List Answer) (current : Url)
    (useAuth : Bool) (redirects : Nat) (near : target.reaches origin current)
    (home : useAuth = true → current.host = origin.host) :
    ∀ request ∈ (redirectLoop join target answers current useAuth redirects).requests,
      target.reaches origin request.url ∧
        (request.bearer.isSome → request.url.host = origin.host) := by
  have first : target.reaches origin (target.request current useAuth).url ∧
      ((target.request current useAuth).bearer.isSome →
        (target.request current useAuth).url.host = origin.host) :=
    ⟨near, fun bearer => home (request_bearer target bearer)⟩
  induction answers generalizing current useAuth redirects with
  | nil =>
      intro request member
      simp only [redirectLoop] at member
      split at member
      · cases List.mem_singleton.mp member
        exact first
      · cases member
  | cons answer answers ih =>
      intro request member
      cases sent : sendable current with
      | false =>
          rw [redirectLoop_unsent join target _ _ _ _ sent] at member
          cases member
      | true =>
          rw [redirectLoop_requests join target answer answers _ _ _ sent] at member
          rcases List.mem_cons.mp member with rfl | later
          · exact first
          · cases chosen : followed join target current redirects answer with
            | none =>
                rw [chosen] at later
                cases later
            | some next =>
                rw [chosen] at later
                have nextNear := followed_reaches join target near chosen
                -- the token survives only a redirect that keeps the host
                have nextHome : (useAuth && next.host = current.host) = true →
                    next.host = origin.host := by
                  intro kept
                  simp only [Bool.and_eq_true, decide_eq_true_eq] at kept
                  exact kept.2.trans (home kept.1)
                exact ih next _ _ nextNear nextHome
                  ⟨nextNear, fun bearer => nextHome (request_bearer target bearer)⟩ request later

/-- Scheme and port: the requests after the first are https on 443 exactly when the redirects
the upstream chose are. -/
theorem redirectLoop_secure_iff (answers : List Answer) (current : Url) (useAuth : Bool)
    (redirects : Nat) (sent : sendable current = true) :
    (∀ request ∈ (redirectLoop join target answers current useAuth redirects).requests.tail,
      request.url.scheme = "https" ∧ request.url.portOrKnownDefault = some 443) ↔
    RedirectsPoliced join target answers current redirects := by
  induction answers generalizing current useAuth redirects with
  | nil => simp [redirectLoop, sent, RedirectsPoliced]
  | cons answer answers ih =>
      rw [redirectLoop_requests join target answer answers _ _ _ sent, List.tail_cons,
        RedirectsPoliced]
      cases chosen : followed join target current redirects answer with
      | none => simp
      | some next =>
          simp only [Option.some.injEq, forall_eq']
          by_cases https : next.scheme = "https"
          · have nextSent : sendable next = true := by simp [sendable, https]
            have later := ih next (useAuth && next.host = current.host) (redirects + 1) nextSent
            obtain ⟨more, head⟩ := redirectLoop_head join target answers next
              (useAuth && next.host = current.host) (redirects + 1) nextSent
            rw [head] at later ⊢
            simp only [List.tail_cons] at later
            simp [Target.request, Policed, https, later]
          · cases nextSent : sendable next with
            | true =>
                have http : next.scheme = "http" := by simpa [sendable, https] using nextSent
                obtain ⟨more, head⟩ := redirectLoop_head join target answers next
                  (useAuth && next.host = current.host) (redirects + 1) nextSent
                rw [head]
                simp [Target.request, Policed, http]
            | false =>
                have other : next.scheme ≠ "http" := by
                  intro http
                  simp [sendable, http] at nextSent
                rw [redirectLoop_unsent join target _ _ _ _ nextSent]
                simp [Policed, https, other]

theorem fetchChunk_requests (initialUrl : Url) (answers : List Answer) (file : ByteFile.Bytes) :
    (fetchChunk join target initialUrl answers file).requests =
      (redirectLoop join target answers initialUrl true 0).requests := by
  unfold fetchChunk
  simp only
  split
  · rfl
  · split <;> rfl

theorem redirectLoop_made (answers : List Answer) (current : Url) (useAuth : Bool) (redirects : Nat) :
    ∀ request ∈ (redirectLoop join target answers current useAuth redirects).requests,
      ∃ url sends, request = target.request url sends := by
  induction answers generalizing current useAuth redirects with
  | nil =>
      intro request member
      rw [redirectLoop] at member
      split at member
      · exact ⟨_, _, List.mem_singleton.mp member⟩
      · cases member
  | cons answer answers ih =>
      intro request member
      cases sent : sendable current with
      | false =>
          rw [redirectLoop_unsent join target _ _ _ _ sent] at member
          cases member
      | true =>
          rw [redirectLoop_requests join target answer answers _ _ _ sent] at member
          rcases List.mem_cons.mp member with same | later
          · exact ⟨_, _, same⟩
          · split at later
            · cases later
            · exact ih _ _ _ request later

/-- A chunk fetch from an https source keeps the outbound policy exactly when no redirect it
follows leads to http or to a port other than 443. -/
theorem chunk_redirects_policy_iff (initialUrl : Url) (answers : List Answer) (file : ByteFile.Bytes)
    (https : initialUrl.scheme = "https") :
    PolicyKept target initialUrl (fetchChunk join target initialUrl answers file).requests ↔
      RedirectsPoliced join target answers initialUrl 0 := by
  have sent : sendable initialUrl = true := by simp [sendable, https]
  have trace := fetchChunk_requests join target initialUrl answers file
  have secure := redirectLoop_secure_iff join target answers initialUrl true 0 sent
  have contained := redirectLoop_contained join target initialUrl answers initialUrl true 0
    (Or.inl rfl) (fun _ => rfl)
  obtain ⟨rest, head⟩ := redirectLoop_head join target answers initialUrl true 0 sent
  rw [trace]
  constructor
  · intro kept
    exact secure.mp kept.secure
  · intro policed
    refine ⟨secure.mpr policed, ?_, ?_⟩
    · intro request member
      exact (contained request (List.mem_of_mem_tail member)).1
    · intro request member bearer
      refine ⟨?_, (contained request member).2 bearer⟩
      rw [head] at member
      rcases List.mem_cons.mp member with rfl | later
      · exact https
      · exact (secure.mpr policed request (by rw [head]; exact later)).1

/-- A mirror that redirects within its own host over https keeps the policy. -/
theorem chunk_redirects_policy_same_host :
    PolicyKept ⟨"secret", 0, 1, []⟩
      ⟨"https", "", none, some "mirror.example", none, "/v2/a/blobs/x", none⟩
      (fetchChunk
        (fun current location => if location = "/b" then some { current with path := "/b" } else none)
        ⟨"secret", 0, 1, []⟩
        ⟨"https", "", none, some "mirror.example", none, "/v2/a/blobs/x", none⟩
        [.response ⟨307, some "/b", none, []⟩, .response ⟨206, none, none, [.data [7]]⟩] []).requests :=
  (chunk_redirects_policy_iff _ _ _ _ _ (by decide)).mpr (by
    intro next chosen
    have same : next = ⟨"https", "", none, some "mirror.example", none, "/b", none⟩ := by
      simpa [followed, isRedirection, maxRedirects, Target.follows, Option.filter, eq_comm] using chosen
    subst same
    refine ⟨⟨by decide, fun _ => by decide⟩, fun _ => ?_⟩
    intro next chosen
    simp [followed, isRedirection] at chosen)

/-- A mirror that redirects to plain http on its own host receives the token in the clear. -/
theorem http_redirect_leaks_token :
    ¬ PolicyKept ⟨"secret", 0, 1, []⟩
      ⟨"https", "", none, some "mirror.example", none, "/v2/a/blobs/x", none⟩
      (fetchChunk
        (fun _ location =>
          if location = "http://mirror.example/b" then
            some ⟨"http", "", none, some "mirror.example", none, "/b", none⟩
          else none)
        ⟨"secret", 0, 1, []⟩
        ⟨"https", "", none, some "mirror.example", none, "/v2/a/blobs/x", none⟩
        [.response ⟨307, some "http://mirror.example/b", none, []⟩,
         .response ⟨206, none, none, [.data [7]]⟩] []).requests := by
  intro kept
  have leaked := kept.tokenHome
    ⟨⟨"http", "", none, some "mirror.example", none, "/b", none⟩, (0, 0), some "secret"⟩
    (by decide) (by decide)
  exact absurd leaked.1 (by decide)

end WebProxy.FetchChunk
