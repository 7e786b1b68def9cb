import WebProxy.Library.IpAddr

/-! Outbound URL policy: `validate_upstream_url`, `validate_registry_url` and
`validate_https_url` over the components the `url` crate exposes. -/

namespace WebProxy

/-- A parsed URL. `host` is `host_str()`, `port` the port when it is written out. -/
structure Url where
  scheme : String
  username : String
  password : Option String
  host : Option String
  port : Option Nat
  path : String
  query : Option String
  deriving DecidableEq, Repr

namespace Url

def knownDefaultPort (scheme : String) : Option Nat :=
  if scheme = "http" ∨ scheme = "ws" then some 80
  else if scheme = "https" ∨ scheme = "wss" then some 443
  else if scheme = "ftp" then some 21
  else none

def portOrKnownDefault (url : Url) : Option Nat :=
  match url.port with
  | some port => some port
  | none => knownDefaultPort url.scheme

def githubHosts : List String :=
  ["github.com", "api.github.com", "raw.githubusercontent.com", "codeload.github.com",
   "gist.github.com", "gist.githubusercontent.com", "objects.githubusercontent.com",
   "release-assets.githubusercontent.com", "pkg-containers.githubusercontent.com"]

def isAllowedGithubHost (host : String) : Bool := githubHosts.contains (Text.toAsciiLowercase host)

def validateHttpsUrl (url : Url) : Except String Unit :=
  if url.scheme ≠ "https" ∨ url.username ≠ "" ∨ url.password.isSome then
    .error "invalid upstream URL"
  else if url.portOrKnownDefault ≠ some 443 then .error "invalid upstream port"
  else
    match url.host with
    | none => .error "missing upstream host"
    | some host =>
        if (IpAddr.parse host).isSome then .error "IP upstreams are not allowed" else .ok ()

/-- The part the two validators share: the https checks, then a host test of their own. -/
def validateWith (allowed : String → Bool) (refusal : String) (url : Url) : Except String Unit :=
  match validateHttpsUrl url with
  | .error message => .error message
  | .ok () =>
      match url.host with
      | none => .error "missing upstream host"
      | some host => if allowed host then .ok () else .error refusal

def validateUpstreamUrl (url : Url) : Except String Unit :=
  validateWith isAllowedGithubHost "upstream host is not allowed" url

def validateRegistryUrl (allowed : List String) (url : Url) : Except String Unit :=
  validateWith (fun host => allowed.contains (Text.toAsciiLowercase host))
    "registry redirect host is not allowed" url

/-- The outbound policy: https on port 443 without credentials, to a host that is no IPv4
literal and that the allowlist has. -/
structure Permitted (allowed : String → Bool) (url : Url) : Prop where
  https : url.scheme = "https"
  anonymous : url.username = "" ∧ url.password = none
  port : url.portOrKnownDefault = some 443
  host : ∃ host, url.host = some host ∧ IpAddr.parseIpv4 host = none ∧ allowed host = true

theorem validateHttpsUrl_ok {url : Url} (valid : validateHttpsUrl url = .ok ()) :
    url.scheme = "https" ∧ (url.username = "" ∧ url.password = none) ∧
      url.portOrKnownDefault = some 443 ∧
      ∃ host, url.host = some host ∧ IpAddr.parse host = none := by
  unfold validateHttpsUrl at valid
  split at valid
  · cases valid
  · rename_i shape
    simp only [not_or, not_not, Bool.not_eq_true, Option.isSome_eq_false_iff,
      Option.isNone_iff_eq_none] at shape
    split at valid
    · cases valid
    · rename_i port
      split at valid
      · cases valid
      · rename_i host named
        split at valid
        · cases valid
        · rename_i literal
          refine ⟨shape.1, ⟨shape.2.1, shape.2.2⟩, not_not.mp port, host, named, ?_⟩
          simpa using literal

theorem validateWith_ok {allowed : String → Bool} {refusal : String} {url : Url}
    (valid : validateWith allowed refusal url = .ok ()) : Permitted allowed url := by
  unfold validateWith at valid
  split at valid
  · cases valid
  · rename_i https
    obtain ⟨scheme, anonymous, port, host, named, literal⟩ := validateHttpsUrl_ok https
    rw [named] at valid
    split at valid
    · rename_i none_named
      cases none_named
    · rename_i found same
      cases same
      split at valid
      · rename_i member
        exact ⟨scheme, anonymous, port, host, named, IpAddr.parseIpv4_of_parse_none literal, member⟩
      · cases valid

end Url

end WebProxy
