import WebProxy.BlobTokens
import WebProxy.Library.Machine
import WebProxy.Library.Slots

/-! Any number of `blob_token` calls at once over the token cache of a pool: a call looks its key up,
releases the lock while it asks the token server, and takes it again to store what it got. -/

namespace WebProxy.TokenRuns

open BlobTokens (SourcePool TokenRequest readToken second tokenRepository tokenRequest)
open SourceConfig (Externals SourceSpec SourceUrl)

/-- How far a call has come. `ended` has the token and the time it is returned at. -/
inductive Stage where
  | arrived
  | fetching (request : TokenRequest)
  | storing (request : TokenRequest) (answer token : String) (ttl : Nat)
  | ended (token : String) (at_ : Nat)
  deriving DecidableEq, Repr

structure Call where
  index : Nat
  path : String
  stage : Stage
  deriving DecidableEq, Repr

def Call.key (call : Call) : Nat × String := (call.index, tokenRepository call.path)

/-- A ghost: what was stored, out of which answer to which request, and when. -/
structure Grant where
  key : Nat × String
  request : TokenRequest
  answer : String
  token : String
  ttl : Nat
  stored : Nat
  deriving DecidableEq, Repr

/-- Times are in nanoseconds. -/
structure State where
  now : Nat
  pool : SourcePool
  calls : List Call
  grants : List Grant

def start (specs : List SourceSpec) : State := ⟨0, ⟨specs, []⟩, [], []⟩

inductive Event where
  | tick (elapsed : Nat)
  | arrive (index : Nat) (path : String)
  | lookup (pid : Nat)
  | answer (pid : Nat) (text : Option String)
  | store (pid : Nat)
  deriving DecidableEq, Repr

def State.setStage (state : State) (pid : Nat) (call : Call) (stage : Stage) : State :=
  { state with calls := state.calls.set pid { call with stage := stage } }

/-- What a call does up to the end of its first lock: the checks, the lookup and the URL. -/
def State.looked (externals : Externals) (state : State) (call : Call) : Stage :=
  match state.pool.specs[call.index]? with
  | none => .ended "" state.now
  | some spec =>
      if spec.tokenUrl = "" ∨ tokenRepository call.path = "" then .ended "" state.now
      else
        match state.pool.cached call.key state.now with
        | some token => .ended token state.now
        | none =>
            match externals.parseUrl spec.tokenUrl with
            | .error _ => .ended "" state.now
            | .ok url => .fetching (tokenRequest spec url (tokenRepository call.path))

/-- What an answer leads to; `none` is a failure or a timeout. -/
def State.answered (externals : Externals) (state : State) (request : TokenRequest) (text : Option String) :
    Stage :=
  let (token, ttl) := readToken (text.bind (fun answer => (externals.readJson answer).toOption))
  if token = "" then .ended "" state.now else .storing request (text.getD "") token ttl

def step (externals : Externals) (state : State) : Event → Option State
  | .tick elapsed => some { state with now := state.now + elapsed }
  | .arrive index path => some { state with calls := state.calls ++ [⟨index, path, .arrived⟩] }
  | .lookup pid =>
      match state.calls[pid]? with
      | some ⟨index, path, .arrived⟩ =>
          some (state.setStage pid ⟨index, path, .arrived⟩ (state.looked externals ⟨index, path, .arrived⟩))
      | _ => none
  | .answer pid text =>
      match state.calls[pid]? with
      | some ⟨index, path, .fetching request⟩ =>
          some (state.setStage pid ⟨index, path, .fetching request⟩ (state.answered externals request text))
      | _ => none
  | .store pid =>
      match state.calls[pid]? with
      | some ⟨index, path, .storing request answer token ttl⟩ =>
          some
            { state.setStage pid ⟨index, path, .storing request answer token ttl⟩ (.ended token state.now) with
              pool := state.pool.keep (index, tokenRepository path) token ttl state.now
              grants :=
                state.grants ++ [⟨(index, tokenRepository path), request, answer, token, ttl, state.now⟩] }
      | _ => none

/-- The request goes to the token server of the source and asks for pulls from the repository. -/
def Asks (externals : Externals) (specs : List SourceSpec) (key : Nat × String) (request : TokenRequest) : Prop :=
  ∃ spec url, specs[key.1]? = some spec ∧ externals.parseUrl spec.tokenUrl = .ok url ∧
    request = tokenRequest spec url key.2

def Gives (externals : Externals) (answer token : String) (ttl : Nat) : Prop :=
  token ≠ "" ∧ ∃ value, externals.readJson answer = .ok value ∧ readToken (some value) = (token, ttl)

structure Grant.Sound (externals : Externals) (specs : List SourceSpec) (grant : Grant) : Prop where
  asks : Asks externals specs grant.key grant.request
  gives : Gives externals grant.answer grant.token grant.ttl

/-- A grant that covers a token at a time. -/
structure Grant.Covers (grant : Grant) (key : Nat × String) (token : String) (time : Nat) : Prop where
  key : grant.key = key
  token : grant.token = token
  stored : grant.stored ≤ time
  fresh : time < grant.stored + grant.ttl * second

def Stage.Sound (externals : Externals) (specs : List SourceSpec) (grants : List Grant) (key : Nat × String) :
    Stage → Prop
  | .arrived => True
  | .fetching request => Asks externals specs key request
  | .storing request answer token ttl =>
      Asks externals specs key request ∧ Gives externals answer token ttl
  | .ended token time => token = "" ∨ ∃ grant ∈ grants, grant.Covers key token time

structure Inv (externals : Externals) (specs : List SourceSpec) (state : State) : Prop where
  configured : state.pool.specs = specs
  grants : ∀ grant ∈ state.grants, grant.Sound externals specs ∧ grant.stored ≤ state.now
  cache : ∀ entry ∈ state.pool.tokenCache, ∃ grant ∈ state.grants,
    grant.key = entry.1 ∧ grant.token = entry.2.1 ∧ entry.2.2 = grant.stored + grant.ttl * second
  calls : ∀ call ∈ state.calls, call.stage.Sound externals specs state.grants call.key

theorem ttl_pos (parsed : Option Json) : 30 ≤ (readToken parsed).2 := le_max_right _ _

theorem Stage.Sound.mono {externals : Externals} {specs : List SourceSpec} {grants more : List Grant}
    {key : Nat × String} {stage : Stage} (sound : stage.Sound externals specs grants key) :
    stage.Sound externals specs (grants ++ more) key := by
  cases stage with
  | arrived | fetching | storing => exact sound
  | ended token time =>
      rcases sound with empty | ⟨grant, member, covers⟩
      · exact Or.inl empty
      · exact Or.inr ⟨grant, List.mem_append_left _ member, covers⟩

theorem looked_sound {externals : Externals} {specs : List SourceSpec} {state : State}
    (inv : Inv externals specs state) (call : Call) :
    (state.looked externals call).Sound externals specs state.grants call.key := by
  unfold State.looked
  split
  · exact Or.inl rfl
  · rename_i spec found
    split
    · exact Or.inl rfl
    · split
      · rename_i token hit
        obtain ⟨entry, kept, rfl⟩ := Option.map_eq_some_iff.mp hit
        obtain ⟨there, fresh⟩ := Option.filter_eq_some_iff.mp kept
        obtain ⟨grant, member, key, token, expires⟩ := inv.cache _ (Table.mem_of_lookup there)
        rw [decide_eq_true_eq] at fresh
        exact Or.inr ⟨grant, member, key, token, (inv.grants grant member).2, fresh.trans_eq expires⟩
      · split
        · exact Or.inl rfl
        · rename_i url parsed
          exact ⟨spec, url, inv.configured ▸ found, parsed, rfl⟩

theorem answered_sound {externals : Externals} {specs : List SourceSpec} (state : State) {key : Nat × String}
    {request : TokenRequest} (asks : Asks externals specs key request) (text : Option String) :
    (state.answered externals request text).Sound externals specs state.grants key := by
  unfold State.answered
  simp only
  split
  · exact Or.inl rfl
  · rename_i some_token
    cases text with
    | none => exact absurd rfl some_token
    | some answer =>
        cases read : externals.readJson answer with
        | error message => simp [read, Except.toOption, readToken] at some_token
        | ok value =>
            refine ⟨asks, ?_, value, read, ?_⟩
            · exact some_token
            · simp [read, Except.toOption]

theorem mem_keep {pool : SourcePool} {key : Nat × String} {token : String} {ttl now : Nat}
    {entry : (Nat × String) × (String × Nat)} (member : entry ∈ (pool.keep key token ttl now).tokenCache) :
    entry ∈ pool.tokenCache ∨ entry = (key, (token, now + ttl * second)) := by
  rw [SourcePool.keep] at member
  simp only at member
  rcases List.mem_append.mp member with old | new
  · left
    have live := (List.mem_filter.mp old).1
    split at live
    · exact (List.mem_filter.mp live).1
    · exact live
  · exact Or.inr (List.mem_singleton.mp new)

theorem calls_set {externals : Externals} {specs : List SourceSpec} {calls : List Call} {grants : List Grant}
    {pid : Nat} {call : Call} {stage : Stage}
    (old : ∀ other ∈ calls, other.stage.Sound externals specs grants other.key)
    (new : stage.Sound externals specs grants call.key) :
    ∀ other ∈ calls.set pid { call with stage := stage }, other.stage.Sound externals specs grants other.key := by
  intro other member
  rcases List.mem_or_eq_of_mem_set member with kept | rfl
  · exact old other kept
  · exact new

theorem inv_step {externals : Externals} {specs : List SourceSpec} {state next : State} {event : Event}
    (inv : Inv externals specs state) (taken : step externals state event = some next) :
    Inv externals specs next := by
  cases event with
  | tick elapsed =>
      cases taken
      refine { inv with grants := ?_ }
      intro grant member
      exact ⟨(inv.grants grant member).1, (inv.grants grant member).2.trans (Nat.le_add_right _ _)⟩
  | arrive index path =>
      cases taken
      refine { inv with calls := ?_ }
      intro call member
      rcases List.mem_append.mp member with old | new
      · exact inv.calls call old
      · rw [List.mem_singleton.mp new]
        trivial
  | lookup pid =>
      rw [step] at taken
      split at taken <;> cases taken
      exact { inv with calls := calls_set inv.calls (looked_sound inv _) }
  | answer pid text =>
      rw [step] at taken
      split at taken <;> cases taken
      rename_i index path request found
      have asks : Asks externals specs (index, tokenRepository path) request :=
        inv.calls _ (List.mem_of_getElem? found)
      exact { inv with calls := calls_set inv.calls (answered_sound state asks text) }
  | store pid =>
      rw [step] at taken
      split at taken <;> cases taken
      rename_i index path request answer token ttl found
      obtain ⟨asks, gives⟩ := inv.calls _ (List.mem_of_getElem? found)
      have long : 0 < ttl * second := by
        obtain ⟨_, value, _, read⟩ := gives
        have least := ttl_pos (some value)
        rw [read] at least
        exact Nat.mul_pos (by omega) (by decide)
      refine ⟨inv.configured, ?_, ?_, ?_⟩
      · intro grant member
        rcases List.mem_append.mp member with old | new
        · exact inv.grants grant old
        · rw [List.mem_singleton.mp new]
          exact ⟨⟨asks, gives⟩, le_rfl⟩
      · intro entry member
        rcases mem_keep member with old | rfl
        · obtain ⟨grant, there, same⟩ := inv.cache entry old
          exact ⟨grant, List.mem_append_left _ there, same⟩
        · exact ⟨_, List.mem_append_right _ (List.mem_singleton.mpr rfl), rfl, rfl, rfl⟩
      · refine calls_set (fun other member => (inv.calls other member).mono) (Or.inr ?_)
        exact ⟨_, List.mem_append_right _ (List.mem_singleton.mpr rfl), rfl, rfl, le_rfl,
          Nat.lt_add_of_pos_right long⟩

def sampleAnswer : String := "\x7b\"token\":\"abc\",\"expires_in\":300\x7d"

def sampleExternals : Externals :=
  { BlobTokens.hubExternals with
    readJson := fun text =>
      if text = sampleAnswer then
        .ok (.object [("token", .string "abc"), ("expires_in", .number (.posInt 300))])
      else .error "expected value at line 1 column 1" }

/-- Two chunks of one blob: the second finds the token of the first four minutes later. -/
def sampleEvents : List Event :=
  [.arrive 0 "/v2/library/alpine/blobs/sha256:abc", .lookup 0, .answer 0 (some sampleAnswer), .store 0,
    .tick (240 * second), .arrive 0 "/v2/library/alpine/blobs/sha256:abc", .lookup 1]

end WebProxy.TokenRuns
