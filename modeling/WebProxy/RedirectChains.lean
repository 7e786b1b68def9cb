import WebProxy.Redirects

/-! What `fetch_following_redirects` makes of a chain of redirects: which method and body each
request has, and which response the call ends with. -/

namespace WebProxy.Redirects

open ByteFile (Bytes)
open FetchChunk (isRedirection)

def followable : List Nat := [301, 302, 303, 307, 308]

/-- The statuses after which the method and the body stay. -/
def Preserving (status : Nat) : Prop := status = 307 ∨ status = 308

section Follow

variable {join : Url → String → Option Url} {gateway : Gateway} {registry : Bool}

theorem redirectBody_kept {status : Nat} {method : Method} (body : Option Bytes)
    (kept : method ≠ .post ∨ Preserving status) : redirectBody status method body = (method, body) := by
  apply if_neg
  rintro ⟨posted, other⟩
  rcases kept with unposted | preserving
  · exact unposted posted
  · exact other preserving

/-- After the two conditionals the body is what it was: when the second of them would drop it, the
first has already turned the method into GET. -/
theorem redirect_carries {status : Nat} {method changed : Method} (body : Option Bytes)
    (chosen : redirectMethod status method = .ok changed) :
    (redirectBody status changed body).2 = body ∧
      (Preserving status ∧ (redirectBody status changed body).1 = method ∨
        ¬ Preserving status ∧ (redirectBody status changed body).1 ≠ .post) := by
  unfold redirectMethod at chosen
  split at chosen
  · rename_i turned
    cases chosen
    have other : ¬ Preserving status := by
      rintro (same | same) <;> simp [same] at turned
    have get : Method.get ≠ .post := by decide
    rw [redirectBody_kept body (Or.inl get)]
    exact ⟨rfl, Or.inr ⟨other, get⟩⟩
  · rename_i kept
    split at chosen
    · rename_i listed
      cases chosen
      by_cases preserving : Preserving status
      · rw [redirectBody_kept body (Or.inr preserving)]
        exact ⟨rfl, Or.inl ⟨preserving, rfl⟩⟩
      · have unposted : method ≠ .post := by
          intro posted
          simp only [List.mem_cons, List.not_mem_nil, or_false] at listed
          simp only [Preserving] at preserving
          simp only [posted, and_true] at kept
          omega
        rw [redirectBody_kept body (Or.inl unposted)]
        exact ⟨rfl, Or.inr ⟨preserving, unposted⟩⟩
    · cases chosen

theorem follow_carries {response : UpstreamResponse} {hop next : Hop} {redirects : Nat}
    (chosen : follow join gateway registry response hop redirects = .ok next) :
    gateway.validate registry next.url = .ok () ∧ next.body = hop.body ∧
      (Preserving response.status ∧ next.method = hop.method ∨
        ¬ Preserving response.status ∧ next.method ≠ .post) := by
  obtain ⟨_, _, method, _, _, valid, changed, carried, _⟩ := follow_ok_iff.mp chosen
  have both := redirect_carries hop.body changed
  rw [← carried] at both
  exact ⟨valid, both⟩

end Follow

/-- Requests without a body of another method: a request that is not a POST has none, and one is a
POST with the body of the call only as long as every redirect preserves it. -/
structure FreshBodies (body : Option Bytes) (statuses : List Nat) (requests : List UpstreamRequest) :
    Prop where
  bodiless : ∀ request ∈ requests, request.method ≠ .post → request.body = none
  original : ∀ (index : Nat) (request : UpstreamRequest), requests[index]? = some request →
    request.method = .post → request.body = body → ∀ status ∈ statuses.take index, Preserving status

section Bodies

variable {join : Url → String → Option Url} {gateway : Gateway} {registry : Bool}

theorem fetchLoop_posts (answers : List Answer) (hop : Hop) (redirects : Nat) :
    ∀ (index : Nat) (request : UpstreamRequest),
      (fetchLoop join gateway registry answers hop redirects).requests[index]? = some request →
      request.method = .post → hop.method = .post ∧
        ∀ status ∈ (followedStatuses join gateway registry answers hop redirects).take index,
          Preserving status := by
  refine fetchLoop_followed_rule (fun hop _ statuses requests =>
    ∀ (index : Nat) (request : UpstreamRequest), requests[index]? = some request →
      request.method = .post → hop.method = .post ∧
        ∀ status ∈ statuses.take index, Preserving status) ?_ ?_ ?_ answers hop redirects
  · intro hop _ _ _ index request sent
    cases sent
  · intro hop _ _ index request sent posted
    obtain ⟨rfl, rfl⟩ : index = 0 ∧ hop.request registry = request := by
      simpa [List.getElem?_singleton, eq_comm] using sent
    exact ⟨posted, by simp⟩
  · intro hop next response _ statuses requests _ chosen later index request sent posted
    cases index with
    | zero =>
        cases sent
        exact ⟨posted, by simp⟩
    | succ index =>
        obtain ⟨method, before⟩ := later index request sent posted
        obtain ⟨_, _, kept | turned⟩ := follow_carries chosen
        · refine ⟨kept.2.symm.trans method, ?_⟩
          rw [List.take_succ_cons]
          intro status member
          rcases List.mem_cons.mp member with rfl | member
          · exact kept.1
          · exact before status member
        · exact absurd method turned.2

theorem fetchLoop_bodiless (answers : List Answer) (hop : Hop) (redirects : Nat)
    (fresh : hop.body = none ∨ hop.method = .post ∧
      ∀ status ∈ followedStatuses join gateway registry answers hop redirects, Preserving status) :
    ∀ request ∈ (fetchLoop join gateway registry answers hop redirects).requests,
      request.method ≠ .post → request.body = none := by
  revert fresh
  refine fetchLoop_followed_rule (fun hop _ statuses requests =>
    (hop.body = none ∨ hop.method = .post ∧ ∀ status ∈ statuses, Preserving status) →
      ∀ request ∈ requests, request.method ≠ .post → request.body = none)
    ?_ ?_ ?_ answers hop redirects
  · intro hop _ _ _ _ request member
    cases member
  · intro hop _ _ fresh request member other
    cases List.mem_singleton.mp member
    rcases fresh with empty | posted
    · exact empty
    · exact absurd posted.1 other
  · intro hop next response _ statuses requests _ chosen later fresh request member other
    obtain ⟨_, body, carried⟩ := follow_carries chosen
    rcases List.mem_cons.mp member with rfl | member
    · rcases fresh with empty | posted
      · exact empty
      · exact absurd posted.1 other
    · refine later ?_ request member other
      rcases fresh with empty | ⟨posted, preserved⟩
      · exact Or.inl (body.trans empty)
      · right
        rcases carried with kept | turned
        · exact ⟨kept.2.trans posted, fun status among =>
            preserved status (List.mem_cons_of_mem _ among)⟩
        · exact absurd (preserved _ List.mem_cons_self) turned.1

theorem fetchLoop_stale (answers : List Answer) (hop : Hop) (redirects : Nat)
    (posted : hop.method = .post) {status : Nat}
    (followed : status ∈ followedStatuses join gateway registry answers hop redirects)
    (turns : ¬ Preserving status) :
    ∃ request ∈ (fetchLoop join gateway registry answers hop redirects).requests,
      request.method ≠ .post ∧ request.body = hop.body := by
  revert posted followed
  refine (fetchLoop_followed_rule (fun hop _ statuses requests =>
    (gateway.validate registry hop.url = .ok () → hop.request registry ∈ requests) ∧
      (hop.method = .post → status ∈ statuses → ∃ request ∈ requests,
        request.method ≠ .post ∧ request.body = hop.body)) ?_ ?_ ?_ answers hop redirects).2
  · intro hop _ message refused
    refine ⟨?_, fun _ member => absurd member List.not_mem_nil⟩
    intro valid
    rw [refused] at valid
    cases valid
  · intro hop _ _
    exact ⟨fun _ => List.mem_singleton_self _, fun _ member => absurd member List.not_mem_nil⟩
  · intro hop next response _ statuses requests _ chosen later
    refine ⟨fun _ => List.mem_cons_self, ?_⟩
    intro posted member
    obtain ⟨valid, body, kept | turned⟩ := follow_carries chosen
    · have behind : status ∈ statuses := by
        rcases List.mem_cons.mp member with rfl | behind
        · exact absurd kept.1 turns
        · exact behind
      obtain ⟨request, sent, other, carried⟩ := later.2 (kept.2.trans posted) behind
      exact ⟨request, List.mem_cons_of_mem _ sent, other, carried.trans body⟩
    · exact ⟨next.request registry, List.mem_cons_of_mem _ (later.1 valid), turned.2, body⟩

end Bodies

/-- The requests of a call, with a body only for a POST, are free of stale bodies exactly when there
is no body or every redirect that is followed preserves it. -/
theorem redirected_bodies_fresh_iff (join : Url → String → Option Url) (gateway : Gateway)
    (registry : Bool) (answers : List Answer) (url : Url) (method : Method) (headers : HeaderMap)
    (body : Option Bytes) (posted : body ≠ none → method = .post) :
    FreshBodies body
        (followedStatuses join gateway registry answers ⟨url, method, headers, body⟩ 0)
        (fetchFollowingRedirects join gateway registry answers url method headers body).requests ↔
      body = none ∨
        ∀ status ∈ followedStatuses join gateway registry answers ⟨url, method, headers, body⟩ 0,
          Preserving status := by
  constructor
  · intro fresh
    by_contra stale
    obtain ⟨some_body, turning⟩ := not_or.mp stale
    apply turning
    intro status followed
    by_contra turns
    obtain ⟨request, sent, other, carried⟩ := fetchLoop_stale answers
      ⟨url, method, headers, body⟩ 0 (posted some_body) followed turns
    have empty := fresh.bodiless request sent other
    rw [carried] at empty
    exact some_body empty
  · intro condition
    constructor
    · apply fetchLoop_bodiless
      by_cases empty : body = none
      · exact Or.inl empty
      · exact Or.inr ⟨posted empty, condition.resolve_left empty⟩
    · intro index request sent post _
      exact (fetchLoop_posts answers _ 0 index request sent post).2

def sampleGateway : Gateway := ⟨3, []⟩

def packUrl (host : String) : Url := ⟨"https", "", none, some host, none, "/o/r/git-upload-pack", none⟩

def sampleJoin (_ : Url) (place : String) : Option Url :=
  if place = "https://codeload.github.com/o/r/git-upload-pack" then some (packUrl "codeload.github.com")
  else if place = "https://github.com/o/r/git-upload-pack" then some (packUrl "github.com")
  else none

def asciiBytes (text : String) : Bytes := text.toList.map (fun char => UInt8.ofNat char.toNat)

def movedTo (status : Nat) (place : String) : UpstreamResponse := ⟨status, [(location, asciiBytes place)]⟩

theorem redirected_bodies_fresh_preserved :
    FreshBodies (some [1, 2])
      (followedStatuses sampleJoin sampleGateway false
        [.response (movedTo 307 "https://codeload.github.com/o/r/git-upload-pack"),
          .response ⟨200, []⟩] ⟨packUrl "github.com", .post, [], some [1, 2]⟩ 0)
      (fetchFollowingRedirects sampleJoin sampleGateway false
        [.response (movedTo 307 "https://codeload.github.com/o/r/git-upload-pack"),
          .response ⟨200, []⟩] (packUrl "github.com") .post [] (some [1, 2])).requests := by
  refine (redirected_bodies_fresh_iff sampleJoin sampleGateway false _ _ _ _ _ (fun _ => rfl)).mpr
    (Or.inr ?_)
  have followed : followedStatuses sampleJoin sampleGateway false
      [.response (movedTo 307 "https://codeload.github.com/o/r/git-upload-pack"),
        .response ⟨200, []⟩] ⟨packUrl "github.com", .post, [], some [1, 2]⟩ 0 = [307] := by
    decide +kernel
  rw [followed]
  simp [Preserving]

/-- A POST that is answered with 302 goes on as a GET with the body of the POST. -/
theorem found_keeps_stale_body :
    (fetchFollowingRedirects sampleJoin sampleGateway false
      [.response (movedTo 302 "https://codeload.github.com/o/r/git-upload-pack"),
        .response ⟨200, []⟩] (packUrl "github.com") .post [] (some [1, 2])).requests =
      [⟨packUrl "github.com", .post, [], some [1, 2]⟩,
        ⟨packUrl "codeload.github.com", .get, [], some [1, 2]⟩] ∧
    ¬ FreshBodies (some [1, 2])
      (followedStatuses sampleJoin sampleGateway false
        [.response (movedTo 302 "https://codeload.github.com/o/r/git-upload-pack"),
          .response ⟨200, []⟩] ⟨packUrl "github.com", .post, [], some [1, 2]⟩ 0)
      (fetchFollowingRedirects sampleJoin sampleGateway false
        [.response (movedTo 302 "https://codeload.github.com/o/r/git-upload-pack"),
          .response ⟨200, []⟩] (packUrl "github.com") .post [] (some [1, 2])).requests := by
  have sent : (fetchFollowingRedirects sampleJoin sampleGateway false
      [.response (movedTo 302 "https://codeload.github.com/o/r/git-upload-pack"),
        .response ⟨200, []⟩] (packUrl "github.com") .post [] (some [1, 2])).requests =
      [⟨packUrl "github.com", .post, [], some [1, 2]⟩,
        ⟨packUrl "codeload.github.com", .get, [], some [1, 2]⟩] := by decide +kernel
  refine ⟨sent, ?_⟩
  intro fresh
  have empty := fresh.bodiless ⟨packUrl "codeload.github.com", .get, [], some [1, 2]⟩
    (by rw [sent]; simp) (by decide)
  cases empty

/-- Every redirect names a place that passes the validator of the mode. -/
def Leads (join : Url → String → Option Url) (gateway : Gateway) (registry : Bool) :
    Url → List UpstreamResponse → Prop
  | _, [] => True
  | url, response :: rest => ∃ place next,
      (getAll response.headers location).head?.bind toStr = some place ∧ join url place = some next ∧
        gateway.validate registry next = .ok () ∧ Leads join gateway registry next rest

section Relay

variable {join : Url → String → Option Url} {gateway : Gateway} {registry : Bool}

theorem redirectMethod_ok_iff {status : Nat} (method : Method) :
    (∃ changed, redirectMethod status method = .ok changed) ↔ status ∈ followable := by
  unfold redirectMethod
  split
  · rename_i turned
    refine ⟨fun _ => ?_, fun _ => ⟨_, rfl⟩⟩
    simp only [followable, List.mem_cons, List.not_mem_nil, or_false]
    omega
  · split
    · rename_i listed
      exact ⟨fun _ => listed, fun _ => ⟨_, rfl⟩⟩
    · rename_i unlisted
      refine ⟨?_, fun listed => absurd listed unlisted⟩
      rintro ⟨_, refused⟩
      cases refused

theorem follow_followable {response : UpstreamResponse} {hop next : Hop} {redirects : Nat}
    (chosen : follow join gateway registry response hop redirects = .ok next) :
    response.status ∈ followable := by
  obtain ⟨_, _, method, _, _, _, changed, _⟩ := follow_ok_iff.mp chosen
  exact (redirectMethod_ok_iff hop.method).mp ⟨method, changed⟩

theorem follow_leads {response : UpstreamResponse} {hop : Hop} {redirects : Nat} {place : String}
    {next : Url} (below : redirects < gateway.maxRedirects)
    (listed : response.status ∈ followable)
    (named : (getAll response.headers location).head?.bind toStr = some place)
    (joined : join hop.url place = some next) (valid : gateway.validate registry next = .ok ()) :
    ∃ after, follow join gateway registry response hop redirects = .ok after ∧ after.url = next := by
  obtain ⟨method, changed⟩ := (redirectMethod_ok_iff hop.method).mpr listed
  refine ⟨⟨next, (redirectBody response.status method hop.body).1,
    if hop.url.host ≠ next.host then remove hop.headers authorization else hop.headers,
    (redirectBody response.status method hop.body).2⟩, ?_, rfl⟩
  exact follow_ok_iff.mpr ⟨below, place, method, named, joined, valid, changed, rfl, rfl⟩

theorem isRedirection_of_followable {status : Nat} (listed : status ∈ followable) :
    isRedirection status = true := by
  have table : followable.all isRedirection = true := by decide
  exact List.all_eq_true.mp table status listed

theorem fetchLoop_chain (chain : List UpstreamResponse) (rest : List Answer) (hop : Hop)
    (redirects : Nat) (valid : gateway.validate registry hop.url = .ok ())
    (listed : ∀ response ∈ chain, response.status ∈ followable)
    (leads : Leads join gateway registry hop.url chain)
    (few : redirects + chain.length ≤ gateway.maxRedirects) :
    ∃ last, gateway.validate registry last.url = .ok () ∧
      (fetchLoop join gateway registry (chain.map .response ++ rest) hop redirects).outcome =
        (fetchLoop join gateway registry rest last (redirects + chain.length)).outcome := by
  induction chain generalizing hop redirects with
  | nil => exact ⟨hop, valid, rfl⟩
  | cons response chain ih =>
      obtain ⟨place, next, named, joined, allowed, further⟩ := leads
      rw [List.length_cons] at few ⊢
      have below : redirects < gateway.maxRedirects := by omega
      obtain ⟨after, chosen, same⟩ := follow_leads below (listed response List.mem_cons_self)
        named joined allowed
      rw [← same] at allowed further
      obtain ⟨last, lastValid, ended⟩ := ih after (redirects + 1) allowed
        (fun later member => listed later (List.mem_cons_of_mem _ member)) further (by omega)
      refine ⟨last, lastValid, ?_⟩
      have redirection := isRedirection_of_followable (listed response List.mem_cons_self)
      rw [List.map_cons, List.cons_append, fetchLoop]
      simp only [valid, redirection, chosen, if_true]
      rw [ended, Nat.add_assoc, Nat.add_comm 1]


theorem fetchLoop_final (final : UpstreamResponse) (rest : List Answer) (hop : Hop) (redirects : Nat)
    (valid : gateway.validate registry hop.url = .ok ()) (ends : final.status ∉ followable) :
    (fetchLoop join gateway registry (.response final :: rest) hop redirects).outcome = .ok final ↔
      isRedirection final.status = false := by
  rw [fetchLoop]
  cases redirection : isRedirection final.status with
  | false => simp [valid]
  | true =>
      cases chosen : follow join gateway registry final hop redirects with
      | error error => simp [valid]
      | ok next => exact absurd (follow_followable chosen) ends

def conditional : List String := ["if-none-match", "if-modified-since"]

theorem request_conditional (hop : Hop) {name : String} (among : name ∈ conditional) :
    getAll (hop.request registry).headers name = getAll hop.headers name := by
  have once : (forwardedNames registry).count name = 1 := by
    simp only [conditional, List.mem_cons, List.not_mem_nil, or_false] at among
    rcases among with rfl | rfl <;> cases registry <;> decide
  rw [Hop.request, copyRequestHeaders, getAll_copied, once]
  simp

theorem getAll_remove_other (headers : HeaderMap) {name other : String} (different : name ≠ other) :
    getAll (remove headers other) name = getAll headers name := by
  simp only [getAll, remove, List.filter_filter]
  congr 1
  apply List.filter_congr
  intro field _
  by_cases same : field.1 = name
  · simp [same, different]
  · simp [same]

theorem fetchLoop_conditional (answers : List Answer) (hop : Hop) (redirects : Nat) {name : String}
    (among : name ∈ conditional) :
    ∀ request ∈ (fetchLoop join gateway registry answers hop redirects).requests,
      getAll request.headers name = getAll hop.headers name := by
  have apart : name ≠ authorization := by
    rintro rfl
    exact absurd among (by decide)
  refine fetchLoop_rule (fun hop _ requests => ∀ request ∈ requests,
    getAll request.headers name = getAll hop.headers name) ?_ ?_ ?_ answers hop redirects
  · intro _ _ request member
    cases member
  · intro hop _ _ request member
    cases List.mem_singleton.mp member
    exact request_conditional hop among
  · intro hop next _ _ requests _ chosen later request member
    obtain ⟨_, _, _, _, _, _, _, _, headers⟩ := follow_ok_iff.mp chosen
    have kept : getAll next.headers name = getAll hop.headers name := by
      rw [headers]
      split
      · exact getAll_remove_other hop.headers apart
      · rfl
    rcases List.mem_cons.mp member with rfl | member
    · exact request_conditional hop among
    · exact (later request member).trans kept

end Relay

/-- After a chain of redirects that can be followed, the response that ends it is the result of the
call exactly when its status is not a redirection; the conditional headers of the client go
out with every request. -/
theorem final_response_relayed_iff (join : Url → String → Option Url) (gateway : Gateway)
    (registry : Bool) (url : Url) (method : Method) (headers : HeaderMap) (body : Option Bytes)
    (chain : List UpstreamResponse) (final : UpstreamResponse) (rest : List Answer)
    (valid : gateway.validate registry url = .ok ())
    (listed : ∀ response ∈ chain, response.status ∈ followable)
    (leads : Leads join gateway registry url chain)
    (few : chain.length ≤ gateway.maxRedirects) (ends : final.status ∉ followable) :
    let trace := fetchFollowingRedirects join gateway registry
      (chain.map .response ++ .response final :: rest) url method headers body
    (∀ request ∈ trace.requests, ∀ name ∈ conditional,
        getAll request.headers name = getAll headers name) ∧
      (trace.outcome = .ok final ↔ ¬ (300 ≤ final.status ∧ final.status < 400)) := by
  intro trace
  constructor
  · intro request sent name among
    exact fetchLoop_conditional _ _ 0 among request sent
  · obtain ⟨last, lastValid, ended⟩ := fetchLoop_chain chain (.response final :: rest)
      ⟨url, method, headers, body⟩ 0 valid listed leads (by omega)
    change (fetchLoop join gateway registry _ _ 0).outcome = _ ↔ _
    rw [ended, fetchLoop_final final rest last _ lastValid ends]
    simp [isRedirection]

def freshMark : HeaderMap := [("if-none-match", asciiBytes "\"v1\"")]

/-- A GET with a redirect and an answer. -/
theorem final_response_relayed_found :
    (fetchFollowingRedirects sampleJoin sampleGateway false
      [.response (movedTo 302 "https://codeload.github.com/o/r/git-upload-pack"),
        .response ⟨200, []⟩] (packUrl "github.com") .get freshMark none).outcome = .ok ⟨200, []⟩ := by
  have relayed := final_response_relayed_iff sampleJoin sampleGateway false (packUrl "github.com")
    .get freshMark none [movedTo 302 "https://codeload.github.com/o/r/git-upload-pack"] ⟨200, []⟩ []
    (by decide +kernel) (by decide) ⟨"https://codeload.github.com/o/r/git-upload-pack",
      packUrl "codeload.github.com", by decide +kernel, by decide +kernel, by decide +kernel, trivial⟩
    (by decide) (by decide)
  exact relayed.2.mpr (by decide)

/-- A conditional GET whose answer is 304 gets a 502. -/
theorem not_modified_becomes_bad_gateway :
    let trace := fetchFollowingRedirects sampleJoin sampleGateway false [.response ⟨304, []⟩]
      (packUrl "github.com") .get freshMark none
    trace.requests = [⟨packUrl "github.com", .get, freshMark, none⟩] ∧
      trace.outcome = .error ⟨502, ""⟩ := by
  decide +kernel

end WebProxy.Redirects
