import WebProxy.Library.Split
import WebProxy.Url

/-! Request routing of `main.rs`: `route_request` and the shapes of registry paths. -/

namespace WebProxy

inductive Registry where
  | dockerHub
  | ghcr
  deriving DecidableEq, Repr

def Registry.routePrefix : Registry → String
  | .dockerHub => "docker.io/"
  | .ghcr => "ghcr.io/"

structure Uri where
  path : String
  query : Option String
  deriving DecidableEq, Repr

inductive Route where
  | registryRoot
  | token
  | registry (registry : Registry) (path : String)
  | github (url : Url)
  deriving DecidableEq, Repr

namespace Url

def queryEncoded (char : Char) : Bool :=
  char.toNat < 33 || 126 < char.toNat || "\"#<>'".toList.contains char

def percentByte (byte : UInt8) : List Char :=
  '%' :: (Text.hexPair byte).map Char.toUpper

def encodeQuery (query : String) : String :=
  String.ofList ((query.toList.filter (fun char => !"\t\n\r".toList.contains char)).flatMap
    (fun char => if queryEncoded char then (String.utf8EncodeChar char).flatMap percentByte
      else [char]))

def setQuery (url : Url) (query : Option String) : Url :=
  { url with query := query.map encodeQuery }

end Url

namespace Routes

def splitHostPath (path : String) : Option (String × String) :=
  match Text.stripPrefix path "/" with
  | none => none
  | some rest =>
      match Split.splitOnce '/' rest.toList with
      | none => none
      | some (host, upstreamPath) =>
          if host = [] then none else some (String.ofList host, String.ofList ('/' :: upstreamPath))

def routeRequest (parse : String → Option Url) (uri : Uri) : Except Nat Route :=
  if uri.path = "/v2/" ∨ uri.path = "/v2" then .ok .registryRoot
  else if uri.path = "/token" then .ok .token
  else
    match Text.stripPrefix uri.path "/v2/" with
    | some rest =>
        match Text.stripPrefix rest "docker.io/" with
        | some repo => .ok (.registry .dockerHub ("/v2/" ++ repo))
        | none =>
            match Text.stripPrefix rest "ghcr.io/" with
            | some repo => .ok (.registry .ghcr ("/v2/" ++ repo))
            | none => .ok (.registry .dockerHub uri.path)
    | none =>
        match splitHostPath uri.path with
        | none => .error 404
        | some (host, upstreamPath) =>
            if Url.isAllowedGithubHost host then
              match parse ("https://" ++ host ++ upstreamPath) with
              | none => .error 400
              | some url =>
                  match Url.validateUpstreamUrl (url.setQuery uri.query) with
                  | .error _ => .error 400
                  | .ok () => .ok (.github (url.setQuery uri.query))
            else .error 404

def pathMarkers : List String := ["/manifests/", "/blobs/", "/tags/", "/referrers/"]

/-- `registry_repository`: what precedes the last marker. -/
def registryRepository (path : String) : Option String :=
  match Text.stripPrefix path "/v2/" with
  | none => none
  | some rest =>
      match (pathMarkers.filterMap (fun marker => Split.rfind marker.toList rest.toList)).max? with
      | none => none
      | some place => if place = 0 then none else some (String.ofList (rest.toList.take place))

inductive RegistryKind where
  | manifest
  | blob (digest : String)
  | other
  deriving DecidableEq, Repr

/-- The loop of `classify_registry_path`: the marker with the greatest place. -/
def lastMarker (path : String) : List String → Option (String × Nat) → Option (String × Nat)
  | [], best => best
  | marker :: rest, best =>
      match Split.rfind marker.toList path.toList, best with
      | none, best => lastMarker path rest best
      | some place, none => lastMarker path rest (some (marker, place))
      | some place, some (found, highest) =>
          lastMarker path rest (some (if highest < place then (marker, place) else (found, highest)))

def classifyRegistryPath (path : String) : RegistryKind :=
  match lastMarker path pathMarkers none with
  | some ("/blobs/", place) => .blob (String.ofList (path.toList.drop (place + "/blobs/".length)))
  | some ("/manifests/", _) => .manifest
  | _ => .other

end Routes

end WebProxy
