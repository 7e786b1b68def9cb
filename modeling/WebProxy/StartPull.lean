import WebProxy.Pulls
import WebProxy.Responses
import WebProxy.Settings

/-! `start_pull` of `main.rs`: which host the daemon is told to pull from. A host that comes with the
request itself is taken only where it names this machine. -/

namespace WebProxy.StartPull

open ByteFile (Bytes)
open ImageRef (PullSpec planPull)
open Redirects (HeaderMap Method getAll toStr authorization)
open Responses (Response errorResponse insert utf8 wwwAuthenticate)

/-- What the handlers read of a request; a body may fail to arrive. -/
structure Request where
  method : Method
  headers : HeaderMap
  body : Option Bytes
  deriving DecidableEq, Repr

def headerText (request : Request) (name : String) : Option String :=
  (getAll request.headers name).head?.bind toStr

/-- The comparison of two tokens that takes the same time wherever they differ. -/
def sameToken (supplied expected : Bytes) : Bool :=
  supplied.length = expected.length &&
    (supplied.zip expected).foldl (fun acc pair => acc ||| (pair.1 ^^^ pair.2)) 0 = 0

def changesState (method : Method) : Bool :=
  method = .post || method = .other "PUT" || method = .other "PATCH" || method = .other "DELETE"

def unauthorized : Response :=
  let plain := errorResponse ⟨401, "missing or invalid bearer token\n"⟩
  { plain with headers := insert plain.headers wwwAuthenticate (utf8 "Bearer realm=\"web-proxy\"") }

def requireMgmtAuth (mgmtBearer : Option String) (request : Request) : Option Response :=
  mgmtBearer.bind (fun expected =>
    if changesState request.method then
      let supplied :=
        ((headerText request authorization).bind (fun text => Text.stripPrefix text "Bearer ")).getD ""
      if sameToken (utf8 supplied) (utf8 expected) then none else some unauthorized
    else none)

def trimBrackets (name : List Char) : List Char :=
  (name.dropWhile (· = '[')).rdropWhile (· = ']')

/-- The name in a Host header: what stands before the last colon without its brackets. -/
def hostName (header : List Char) : List Char :=
  match Split.rsplitOnce ':' header with
  | some (name, _) => trimBrackets name
  | none => header

/-- `IpAddr::is_loopback` where the name is an address. -/
def isLoopback (name : List Char) : Bool :=
  match IpAddr.parse (String.ofList name) with
  | some (.v4 octets) => octets.head? = some 127
  | some (.v6 groups) => groups = [0, 0, 0, 0, 0, 0, 0, 1]
  | none => name = "localhost".toList

def gatewayHost (settings : Settings) (pullViaHost : Option String) (request : Request) :
    Except Response String :=
  match settings.pullTarget with
  | some target => .ok target
  | none =>
      match pullViaHost with
      | some host => .ok host
      | none =>
          let header := (headerText request "host").getD "127.0.0.1"
          if isLoopback (hostName header.toList) then .ok header
          else
            .error (errorResponse
              ⟨400, "refusing Host header that is not a loopback address; set PULL_VIA_HOST\n"⟩)

def requestedImage (readJson : Bytes → Option Json) (request : Request) : Except Response String :=
  match request.body with
  | none => .error (errorResponse ⟨400, "invalid body\n"⟩)
  | some bytes =>
      match readJson bytes with
      | none => .error (errorResponse ⟨400, "expected json body\n"⟩)
      | some value =>
          match value.textAt "image" with
          | none => .error (errorResponse ⟨400, "missing \"image\" field\n"⟩)
          | some image => .ok image

def startPull (readJson : Bytes → Option Json) (mgmtBearer : Option String) (settings : Settings)
    (pullViaHost : Option String) (request : Request) : Except Response PullSpec :=
  match requireMgmtAuth mgmtBearer request with
  | some refusal => .error refusal
  | none =>
      if request.method ≠ .post then .error (errorResponse ⟨405, ""⟩)
      else
        match gatewayHost settings pullViaHost request with
        | .error refusal => .error refusal
        | .ok host =>
            match requestedImage readJson request with
            | .error refusal => .error refusal
            | .ok image =>
                match planPull image host with
                | .error message => .error (errorResponse ⟨400, message ++ "\n"⟩)
                | .ok spec => .ok spec

/-- The registry of a repository as the daemon reads it: what stands before the first slash, without the
port and the brackets. -/
def registryName (repository : List Char) : List Char :=
  let component := repository.takeWhile (· ≠ '/')
  match Split.rsplitOnce ':' component with
  | some (name, _) => trimBrackets name
  | none => trimBrackets component

inductive Loopback (name : List Char) : Prop where
  | localhost : name = "localhost".toList → Loopback name
  | v4 (octets : List Nat) : IpAddr.parse (String.ofList name) = some (.v4 (127 :: octets)) → Loopback name
  | v6 : IpAddr.parse (String.ofList name) = some (.v6 [0, 0, 0, 0, 0, 0, 0, 1]) → Loopback name

theorem loopback_of_test {name : List Char} (accepted : isLoopback name = true) : Loopback name := by
  unfold isLoopback at accepted
  split at accepted
  · rename_i octets read
    cases octets with
    | nil => cases accepted
    | cons first rest =>
        have same : first = 127 := by simpa using accepted
        rw [same] at read
        exact .v4 rest read
  · rename_i groups read
    have same : groups = [0, 0, 0, 0, 0, 0, 0, 1] := of_decide_eq_true accepted
    rw [same] at read
    exact .v6 read
  · exact .localhost (of_decide_eq_true accepted)

theorem Loopback.plain {name : List Char} (loopback : Loopback name) :
    '/' ∉ name ∧ '[' ∉ name ∧ ']' ∉ name := by
  have address : ∀ {found : IpAddr.Addr}, IpAddr.parse (String.ofList name) = some found →
      '/' ∉ name ∧ '[' ∉ name ∧ ']' ∉ name := by
    intro found read
    have chars := IpAddr.parse_chars read
    rw [String.toList_ofList] at chars
    have absent : ∀ char, IpAddr.isAddressChar char = false → char ∉ name := by
      intro char other member
      rw [chars char member] at other
      cases other
    exact ⟨absent _ (by decide), absent _ (by decide), absent _ (by decide)⟩
  cases loopback with
  | localhost same =>
      rw [same]
      decide
  | v4 octets read => exact address read
  | v6 read => exact address read

theorem trimBrackets_eq_self {name : List Char} (front : '[' ∉ name) (back : ']' ∉ name) :
    trimBrackets name = name := by
  have opened : name.dropWhile (· = '[') = name := by
    apply List.dropWhile_eq_self_iff.mpr
    intro some_char first
    have same : name[0] = '[' := of_decide_eq_true first
    exact front (same ▸ List.getElem_mem some_char)
  rw [trimBrackets, opened]
  apply List.rdropWhile_eq_self_iff.mpr
  intro some_char last
  have same : name.getLast some_char = ']' := of_decide_eq_true last
  exact back (same ▸ List.getLast_mem some_char)

theorem mem_dropWhile {drops : Char → Bool} {text : List Char} {char : Char} (member : char ∈ text)
    (kept : drops char = false) : char ∈ text.dropWhile drops := by
  rw [← @List.takeWhile_append_dropWhile _ drops text, List.mem_append] at member
  rcases member with front | back
  · have passed : drops char = true := List.mem_takeWhile_imp front
    rw [passed] at kept
    cases kept
  · exact back

theorem mem_trimBrackets {name : List Char} {char : Char} (member : char ∈ name) (left : char ≠ '[')
    (right : char ≠ ']') : char ∈ trimBrackets name := by
  rw [trimBrackets, List.rdropWhile, List.mem_reverse]
  refine mem_dropWhile ?_ (by simpa using right)
  rw [List.mem_reverse]
  exact mem_dropWhile member (by simpa using left)

theorem registryName_of_accepted {header : List Char} (accepted : Loopback (hostName header))
    (path : List Char) : registryName (header ++ '/' :: path) = hostName header := by
  obtain ⟨no_slash, opened, closed⟩ := accepted.plain
  rw [hostName] at no_slash opened closed ⊢
  cases cut : Split.rsplitOnce ':' header with
  | none =>
      rw [cut] at no_slash opened closed
      have component : (header ++ '/' :: path).takeWhile (· ≠ '/') = header := by
        rw [Split.takeWhile_append_mark, Split.takeWhile_of_absent no_slash]
      rw [registryName, component, cut]
      exact trimBrackets_eq_self opened closed
  | some pair =>
      obtain ⟨name, port⟩ := pair
      obtain ⟨rfl, no_colon⟩ := Split.rsplitOnce_some_iff.mp cut
      rw [cut] at no_slash
      have clear : '/' ∉ name := by
        intro member
        exact no_slash (mem_trimBrackets member (by decide) (by decide))
      have component : (name ++ ':' :: port ++ '/' :: path).takeWhile (· ≠ '/') =
          name ++ ':' :: port.takeWhile (· ≠ '/') := by
        have front : ∀ char ∈ name ++ [':'], decide (char ≠ '/') = true := by
          intro char member
          apply decide_eq_true
          rintro rfl
          rcases List.mem_append.mp member with named | colon
          · exact clear named
          · exact absurd colon (by decide)
        have shape : name ++ ':' :: port = (name ++ [':']) ++ port := by simp
        rw [Split.takeWhile_append_mark, shape, List.takeWhile_append_of_pos front, List.append_assoc]
        rfl
      have still : ':' ∉ port.takeWhile (· ≠ '/') := by
        intro member
        exact no_colon ((List.takeWhile_sublist _).mem member)
      rw [registryName, component, Split.rsplitOnce_append still]

theorem planPull_host {image host : String} {spec : PullSpec} (planned : planPull image host = .ok spec) :
    ∃ path, spec.pullRepo.toList = host.toList ++ '/' :: path := by
  unfold planPull at planned
  split at planned
  · cases planned
  · rename_i parsed _
    cases planned
    change ∃ path, (ImageRef.pullRepo parsed host).toList = _
    rw [ImageRef.pullRepo]
    split
    · exact ⟨"ghcr.io/".toList ++ parsed.path.toList, by simp⟩
    · exact ⟨parsed.path.toList, by simp⟩

theorem foldl_xor_eq_zero (pairs : List (UInt8 × UInt8)) (acc : UInt8) :
    pairs.foldl (fun acc pair => acc ||| (pair.1 ^^^ pair.2)) acc = 0 ↔
      acc = 0 ∧ ∀ pair ∈ pairs, pair.1 = pair.2 := by
  induction pairs generalizing acc with
  | nil => simp
  | cons pair rest ih =>
      rw [List.foldl_cons, ih, UInt8.or_eq_zero_iff, UInt8.xor_eq_zero_iff, List.forall_mem_cons, and_assoc]

theorem zip_same_iff {supplied expected : Bytes} (size : supplied.length = expected.length) :
    (∀ pair ∈ supplied.zip expected, pair.1 = pair.2) ↔ supplied = expected := by
  induction supplied generalizing expected with
  | nil =>
      rw [List.length_nil] at size
      rw [List.length_eq_zero_iff.mp size.symm]
      simp
  | cons byte rest ih =>
      cases expected with
      | nil => cases size
      | cons other behind =>
          rw [List.zip_cons_cons, List.forall_mem_cons, ih (Nat.succ.inj size), List.cons.injEq]

theorem sameToken_iff (supplied expected : Bytes) :
    sameToken supplied expected = true ↔ supplied = expected := by
  rw [sameToken, Bool.and_eq_true, decide_eq_true_eq, decide_eq_true_eq, foldl_xor_eq_zero]
  constructor
  · rintro ⟨size, _, pairs⟩
    exact (zip_same_iff size).mp pairs
  · rintro rfl
    exact ⟨rfl, rfl, (zip_same_iff rfl).mpr rfl⟩

theorem startPull_ok {readJson : Bytes → Option Json} {mgmtBearer : Option String} {settings : Settings}
    {pullViaHost : Option String} {request : Request} {spec : PullSpec}
    (started : startPull readJson mgmtBearer settings pullViaHost request = .ok spec) :
    requireMgmtAuth mgmtBearer request = none ∧ request.method = .post ∧
      ∃ host image, gatewayHost settings pullViaHost request = .ok host ∧
        requestedImage readJson request = .ok image ∧ planPull image host = .ok spec := by
  unfold startPull at started
  split at started
  · cases started
  · rename_i authorized
    split at started
    · cases started
    · rename_i method
      split at started
      · cases started
      · rename_i host chosen
        split at started
        · cases started
        · rename_i image asked
          have planned : planPull image host = .ok spec := by
            split at started
            · cases started
            · rename_i planned
              cases started
              exact planned
          exact ⟨authorized, not_not.mp method, host, image, chosen, asked, planned⟩

theorem startPull_bearer {readJson : Bytes → Option Json} {expected : String} {settings : Settings}
    {pullViaHost : Option String} {request : Request} {spec : PullSpec}
    (started : startPull readJson (some expected) settings pullViaHost request = .ok spec) :
    utf8 (((headerText request authorization).bind (fun text => Text.stripPrefix text "Bearer ")).getD "") =
      utf8 expected := by
  obtain ⟨passed, post, _⟩ := startPull_ok started
  have changes : changesState request.method = true := by
    rw [post]
    rfl
  rw [requireMgmtAuth, Option.bind_some, if_pos changes] at passed
  apply (sameToken_iff _ _).mp
  by_contra other
  rw [if_neg other] at passed
  cases passed

/-- Where neither the settings nor `PULL_VIA_HOST` name a target, the daemon pulls from this machine,
whatever the Host header and the image are. -/
theorem host_pull_on_loopback (readJson : Bytes → Option Json) (mgmtBearer : Option String)
    (settings : Settings) (request : Request) (spec : PullSpec) (no_target : settings.pullTarget = none)
    (started : startPull readJson mgmtBearer settings none request = .ok spec) :
    Loopback (registryName spec.pullRepo.toList) := by
  obtain ⟨_, _, host, image, chosen, _, planned⟩ := startPull_ok started
  rw [gatewayHost, no_target] at chosen
  have named : Loopback (hostName host.toList) := by
    dsimp only at chosen
    split at chosen
    · rename_i accepted
      cases chosen
      exact loopback_of_test accepted
    · cases chosen
  obtain ⟨path, repository⟩ := planPull_host planned
  rw [repository, registryName_of_accepted named]
  exact named

def slashedRequest : Request :=
  ⟨.post, [("host", utf8 "[::1]:4443@mirror/x")], some (utf8 "\x7b\"image\":\"nginx\"\x7d")⟩

def readsNginx (bytes : Bytes) : Option Json :=
  if bytes = utf8 "\x7b\"image\":\"nginx\"\x7d" then some (.object [("image", .string "nginx")]) else none

theorem host_pull_on_loopback_slashed :
    Loopback (registryName "[::1]:4443@mirror/x/library/nginx".toList) :=
  host_pull_on_loopback readsNginx none Settings.default slashedRequest
    ⟨"nginx:latest", "[::1]:4443@mirror/x/library/nginx", some "latest", none, some "nginx", some "latest"⟩
    rfl (by decide +kernel)

end WebProxy.StartPull
