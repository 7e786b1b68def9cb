import Mathlib.Data.List.Infix
import WebProxy.Library.Json
import WebProxy.Digest
import WebProxy.PullRoutes
import WebProxy.Responses

/-! Cache warm-up: `parse_image_manifest_digests` and the blob loop of `start_warm`. -/

namespace WebProxy.Warm

open ByteFile (Bytes)
open FetchChunk (BodyItem isSuccess)
open Redirects (ErrorResponse)
open Responses (readResponseBodyCapped maxManifestResponseBytes)
open PullRoutes (registryOf manifestPath)

def maxWarmBlobsPerRequest : Nat := 256

def entryDigests (kind : String) (entries : List Json) : List (String × String) :=
  entries.filterMap (fun entry => (entry.textAt "digest").map (fun digest => (kind, digest)))

def arrayAt (key : String) (value : Json) : List Json := ((value.get key).bind Json.asArray).getD []

def valueAt (key : String) (value : Json) : List Json := (value.get key).toList

def containsText (part text : String) : Bool := part.toList <:+: text.toList

def manifestDigests (value : Json) : Except String (List (String × String)) :=
  let mediaType := (value.textAt "media_type").getD ""
  let schemaVersion := ((value.get "schemaVersion").bind Json.asI64).getD 0
  if schemaVersion = 1 then .error "schemaVersion 1 manifests are unsupported"
  else if containsText "manifest.list" mediaType ∨
      (schemaVersion = 2 ∧ mediaType = "" ∧ (value.get "manifests").isSome) then
    .ok (entryDigests "manifest" (arrayAt "manifests" value))
  else
    let out := entryDigests "config" (valueAt "config" value) ++
      entryDigests "layer" (arrayAt "layers" value)
    if out = [] then .error "manifest has no recognized digest references" else .ok out

def parseImageManifestDigests (fromSlice : Bytes → Option Json) (body : Bytes) :
    Except String (List (String × String)) :=
  match fromSlice body with
  | none => .error "invalid json"
  | some value => manifestDigests value

/-- What one round of the loop gets to see: the two cache lookups, the try of the digest's lock
and the answer to the HEAD request. -/
structure Sighting where
  cached : Bool
  inFlight : Bool
  cachedUnderLock : Bool
  headSize : Option Nat
  deriving DecidableEq, Repr

structure Download where
  registryLabel : String
  blobPath : String
  digest : String
  size : Nat
  deriving DecidableEq, Repr

structure Report where
  queued : Nat
  cached : Nat
  skippedKind : Nat
  scheduled : List Download
  deriving DecidableEq, Repr

structure Target where
  registry : Registry
  path : String
  deriving DecidableEq, Repr

def warmOne (target : Target) (kind digest : String) (sighting : Sighting) (report : Report) :
    Report :=
  if kind ≠ "blob" then { report with skippedKind := report.skippedKind + 1 }
  else
    match Digest.sha256Hex digest with
    | none => report
    | some _ =>
        if sighting.cached then { report with cached := report.cached + 1 }
        else if sighting.inFlight then report
        else if sighting.cachedUnderLock then { report with cached := report.cached + 1 }
        else
          match sighting.headSize with
          | none => report
          | some 0 => report
          | some size =>
              { report with
                queued := report.queued + 1
                scheduled := report.scheduled ++
                  [⟨target.registry.routePrefix, "/v2/" ++ target.path ++ "/blobs/" ++ digest, digest,
                    size⟩] }

def warmLoop (target : Target) (sightings : Nat → Sighting) :
    List (String × String) → Nat → Report → Report
  | [], _, report => report
  | (kind, digest) :: rest, round, report =>
      warmLoop target sightings rest (round + 1)
        (warmOne target kind digest (sightings round) report)

structure Fetched where
  status : Nat
  contentLength : Option Nat
  body : List BodyItem
  deriving DecidableEq, Repr

/-- How the network answers one warm-up: the token request, the manifest request and what the
rounds of the loop see. -/
structure World where
  token : Option String
  manifest : Except ErrorResponse Fetched
  sightings : Nat → Sighting

inductive WarmError where
  | reference (message : String)
  | unsupportedRegistry (message : String)
  | tokenFetch
  | upstream (error : ErrorResponse)
  | manifestFetch (status : Nat)
  | manifestTooLarge
  | manifestBodyRead
  | manifestParse (message : String)
  | tooManyBlobs
  deriving DecidableEq, Repr

def WarmError.status : WarmError → Nat
  | .reference _ => 400
  | .unsupportedRegistry _ => 400
  | .upstream error => error.status
  | .tooManyBlobs => 400
  | _ => 502

def warmDigests (target : Target) (sightings : Nat → Sighting) (digests : List (String × String)) :
    Except WarmError Report :=
  if maxWarmBlobsPerRequest < digests.length then .error .tooManyBlobs
  else .ok (warmLoop target sightings digests 0 ⟨0, 0, 0, []⟩)

def startWarm (fromSlice : Bytes → Option Json) (world : World) (image : String) :
    Except WarmError Report :=
  match ImageRef.parseImageRef image with
  | .error message => .error (.reference message)
  | .ok parsed =>
      match registryOf parsed with
      | .error message => .error (.unsupportedRegistry message)
      | .ok registry =>
          if world.token.isNone then .error .tokenFetch
          else
            match world.manifest with
            | .error error => .error (.upstream error)
            | .ok fetched =>
                if !isSuccess fetched.status then .error (.manifestFetch fetched.status)
                else if fetched.contentLength.any (maxManifestResponseBytes < ·) then
                  .error .manifestTooLarge
                else
                  match readResponseBodyCapped fetched.body maxManifestResponseBytes with
                  | none => .error .manifestBodyRead
                  | some body =>
                      match parseImageManifestDigests fromSlice body with
                      | .error message => .error (.manifestParse message)
                      | .ok digests => warmDigests ⟨registry, parsed.path⟩ world.sightings digests

def references (value : Json) : List String :=
  (valueAt "config" value ++ arrayAt "layers" value).filterMap (Json.textAt "digest")

def childDigests (value : Json) : List String :=
  (arrayAt "manifests" value).filterMap (Json.textAt "digest")

structure SingleImage (value : Json) : Prop where
  version : (value.get "schemaVersion").bind Json.asI64 = some 2
  unlisted : (value.get "manifests").bind Json.asArray = none
  referenced : references value ≠ []
  limited : (references value).length ≤ maxWarmBlobsPerRequest

/-- A blob that ought to be downloaded when its round comes. -/
structure Eligible (sighting : Sighting) (digest : String) : Prop where
  accepted : (Digest.sha256Hex digest).isSome = true
  absent : sighting.cached = false ∧ sighting.cachedUnderLock = false
  idle : sighting.inFlight = false
  sized : ∃ size, 0 < size ∧ sighting.headSize = some size

/-- Every eligible reference has its download. -/
def Complete (value : Json) (sightings : Nat → Sighting) (report : Report) : Prop :=
  ∀ round digest, (references value)[round]? = some digest → Eligible (sightings round) digest →
    ∃ download ∈ report.scheduled, download.digest = digest

structure Reached (fromSlice : Bytes → Option Json) (world : World) (image : String) (value : Json) :
    Prop where
  reference : ∃ parsed registry, ImageRef.parseImageRef image = .ok parsed ∧
    registryOf parsed = .ok registry
  token : world.token.isSome = true
  manifest : ∃ fetched body, world.manifest = .ok fetched ∧ isSuccess fetched.status = true ∧
    fetched.contentLength.any (maxManifestResponseBytes < ·) = false ∧
    readResponseBodyCapped fetched.body maxManifestResponseBytes = some body ∧
    fromSlice body = some value

theorem startWarm_reached {fromSlice : Bytes → Option Json} {world : World} {image : String}
    {value : Json} (reached : Reached fromSlice world image value) :
    ∃ target, startWarm fromSlice world image =
      match manifestDigests value with
      | .error message => .error (.manifestParse message)
      | .ok digests => warmDigests target world.sightings digests := by
  obtain ⟨parsed, registry, read, chosen⟩ := reached.reference
  obtain ⟨fetched, body, answered, success, small, whole, decoded⟩ := reached.manifest
  have token : world.token.isNone = false := by simpa using reached.token
  refine ⟨⟨registry, parsed.path⟩, ?_⟩
  simp only [startWarm, read, chosen, token, answered, success, small, whole,
    parseImageManifestDigests, decoded, Bool.not_true, Bool.false_eq_true, if_false]

theorem entryDigests_kind {kind : String} {entries : List Json} {pair : String × String}
    (member : pair ∈ entryDigests kind entries) : pair.1 = kind := by
  obtain ⟨entry, _, found⟩ := List.mem_filterMap.mp member
  obtain ⟨digest, _, same⟩ := Option.map_eq_some_iff.mp found
  rw [← same]

theorem manifestDigests_kind {value : Json} {digests : List (String × String)}
    (parsed : manifestDigests value = .ok digests) : ∀ pair ∈ digests, pair.1 ≠ "blob" := by
  intro pair member
  have tagged : pair.1 = "manifest" ∨ pair.1 = "config" ∨ pair.1 = "layer" := by
    simp only [manifestDigests] at parsed
    split at parsed
    · cases parsed
    · split at parsed
      · cases parsed
        exact Or.inl (entryDigests_kind member)
      · split at parsed
        · cases parsed
        · cases parsed
          rcases List.mem_append.mp member with config | layer
          · exact Or.inr (Or.inl (entryDigests_kind config))
          · exact Or.inr (Or.inr (entryDigests_kind layer))
  rcases tagged with same | same | same
  · rw [same]
    decide
  · rw [same]
    decide
  · rw [same]
    decide

theorem warmOne_scheduled {target : Target} {kind digest : String} {sighting : Sighting}
    {report : Report} (other : kind ≠ "blob") :
    (warmOne target kind digest sighting report).scheduled = report.scheduled := by
  rw [warmOne, if_pos other]

theorem warmLoop_scheduled {target : Target} {sightings : Nat → Sighting}
    {digests : List (String × String)} (kinds : ∀ pair ∈ digests, pair.1 ≠ "blob") (round : Nat)
    (report : Report) :
    (warmLoop target sightings digests round report).scheduled = report.scheduled := by
  induction digests generalizing round report with
  | nil => rfl
  | cons pair rest ih =>
      have other := kinds pair List.mem_cons_self
      have later := ih (fun tagged member => kinds tagged (List.mem_cons_of_mem _ member)) (round + 1)
        (warmOne target pair.1 pair.2 (sightings round) report)
      rw [warmOne_scheduled other] at later
      exact later

theorem startWarm_scheduled {fromSlice : Bytes → Option Json} {world : World} {image : String}
    {value : Json} {report : Report} (reached : Reached fromSlice world image value)
    (warmed : startWarm fromSlice world image = .ok report) : report.scheduled = [] := by
  obtain ⟨target, steps⟩ := startWarm_reached reached
  rw [steps] at warmed
  split at warmed
  · cases warmed
  · rename_i digests parsed
    rw [warmDigests] at warmed
    split at warmed
    · cases warmed
    · cases warmed
      exact warmLoop_scheduled (manifestDigests_kind parsed) 0 _

theorem entryDigests_digests (kind : String) (entries : List Json) :
    (entryDigests kind entries).map (·.2) = entries.filterMap (Json.textAt "digest") := by
  induction entries with
  | nil => rfl
  | cons entry rest ih =>
      cases found : entry.textAt "digest" with
      | none => simpa [entryDigests, found] using ih
      | some digest => simpa [entryDigests, found] using ih

theorem manifestDigests_single {value : Json} (single : SingleImage value) :
    ∃ digests, manifestDigests value = .ok digests ∧ digests.length ≤ (references value).length := by
  have version : ((value.get "schemaVersion").bind Json.asI64).getD 0 = 2 := by
    rw [single.version, Option.getD_some]
  simp only [manifestDigests, version]
  rw [if_neg (by decide)]
  split
  · refine ⟨_, rfl, ?_⟩
    have empty : arrayAt "manifests" value = [] := by rw [arrayAt, single.unlisted, Option.getD_none]
    rw [empty]
    exact Nat.zero_le _
  · have listed : (entryDigests "config" (valueAt "config" value) ++
        entryDigests "layer" (arrayAt "layers" value)).map (·.2) = references value := by
      rw [List.map_append, entryDigests_digests, entryDigests_digests, references,
        List.filterMap_append]
    have some_digest : entryDigests "config" (valueAt "config" value) ++
        entryDigests "layer" (arrayAt "layers" value) ≠ [] := by
      intro empty
      rw [empty] at listed
      exact single.referenced listed.symm
    refine ⟨_, if_neg some_digest, ?_⟩
    rw [← listed, List.length_map]

theorem startWarm_single {fromSlice : Bytes → Option Json} {world : World} {image : String}
    {value : Json} (reached : Reached fromSlice world image value) (single : SingleImage value) :
    ∃ report, startWarm fromSlice world image = .ok report := by
  obtain ⟨target, steps⟩ := startWarm_reached reached
  obtain ⟨digests, parsed, fewer⟩ := manifestDigests_single single
  have within : ¬ maxWarmBlobsPerRequest < digests.length := by
    have limited := single.limited
    omega
  rw [steps, parsed]
  exact ⟨_, if_neg within⟩

/-- A warm-up of a single image answers, and it is complete exactly when none of its references is
eligible; no child of a manifest list is ever scheduled. -/
theorem warm_complete_iff_nothing_eligible (fromSlice : Bytes → Option Json) (world : World)
    (image : String) (value : Json) (reached : Reached fromSlice world image value) :
    (SingleImage value → ∃ report, startWarm fromSlice world image = .ok report ∧
      (Complete value world.sightings report ↔
        ∀ round digest, (references value)[round]? = some digest →
          ¬ Eligible (world.sightings round) digest)) ∧
    ∀ report, startWarm fromSlice world image = .ok report →
      ∀ download ∈ report.scheduled, download.digest ∉ childDigests value := by
  constructor
  · intro single
    obtain ⟨report, warmed⟩ := startWarm_single reached single
    have idle := startWarm_scheduled reached warmed
    refine ⟨report, warmed, ?_, ?_⟩
    · intro complete round digest referenced eligible
      obtain ⟨download, scheduled, _⟩ := complete round digest referenced eligible
      rw [idle] at scheduled
      cases scheduled
    · intro none_eligible round digest referenced eligible
      exact absurd eligible (none_eligible round digest referenced)
  · intro report warmed download scheduled
    rw [startWarm_scheduled reached warmed] at scheduled
    cases scheduled

def sampleDigest : String := "sha256:" ++ String.ofList (List.replicate 64 'a')

def sampleManifest : Json :=
  .object [("schemaVersion", .number (.posInt 2)),
    ("config", .object [("digest", .string sampleDigest)]),
    ("layers", .array [.object [("digest", .string sampleDigest)]])]

def sampleBody : Bytes :=
  Responses.utf8 ("\x7b\"schemaVersion\":2,\"config\":\x7b\"digest\":\"" ++ sampleDigest ++
    "\"\x7d,\"layers\":[\x7b\"digest\":\"" ++ sampleDigest ++ "\"\x7d]\x7d")

def sampleSlice (body : Bytes) : Option Json := if body = sampleBody then some sampleManifest else none

def sampleWorld : World :=
  ⟨some "", .ok ⟨200, none, [.data sampleBody]⟩, fun _ => ⟨false, false, false, some 10⟩⟩

theorem sample_read :
    readResponseBodyCapped [.data sampleBody] maxManifestResponseBytes = some sampleBody := by
  have digest : sampleDigest.toList.length = 71 := by
    simp [sampleDigest]
  have small : sampleBody.length ≤ maxManifestResponseBytes := by
    apply (Responses.utf8_length_le _).trans
    simp only [String.toList_append, List.length_append, digest]
    decide
  have fits : ¬ maxManifestResponseBytes < ([] : Bytes).length + sampleBody.length := by
    rw [List.length_nil]
    omega
  rw [readResponseBodyCapped, Responses.readCapped, if_neg fits, List.nil_append, Responses.readCapped]

theorem sample_reached : Reached sampleSlice sampleWorld "nginx" sampleManifest where
  reference := ⟨⟨"docker.io", "library/nginx", "nginx", none, none⟩, .dockerHub, by decide +kernel,
    by decide⟩
  token := rfl
  manifest := ⟨⟨200, none, [.data sampleBody]⟩, sampleBody, rfl, rfl, rfl, sample_read, if_pos rfl⟩

theorem sample_references : references sampleManifest = [sampleDigest, sampleDigest] := rfl

theorem sample_single : SingleImage sampleManifest where
  version := rfl
  unlisted := rfl
  referenced := by simp [sample_references]
  limited := by simp [sample_references, maxWarmBlobsPerRequest]

theorem warm_sample_answers :
    (SingleImage sampleManifest → ∃ report, startWarm sampleSlice sampleWorld "nginx" = .ok report ∧
      (Complete sampleManifest sampleWorld.sightings report ↔
        ∀ round digest, (references sampleManifest)[round]? = some digest →
          ¬ Eligible (sampleWorld.sightings round) digest)) ∧
    ∀ report, startWarm sampleSlice sampleWorld "nginx" = .ok report →
      ∀ download ∈ report.scheduled, download.digest ∉ childDigests sampleManifest :=
  warm_complete_iff_nothing_eligible sampleSlice sampleWorld "nginx" sampleManifest sample_reached

/-- Config and layer are eligible, the warm-up answers, and nothing is scheduled. -/
theorem eligible_blobs_are_not_warmed :
    SingleImage sampleManifest ∧ references sampleManifest = [sampleDigest, sampleDigest] ∧
      Eligible (sampleWorld.sightings 0) sampleDigest ∧
      ∃ report, startWarm sampleSlice sampleWorld "nginx" = .ok report ∧ report.scheduled = [] ∧
        ¬ Complete sampleManifest sampleWorld.sightings report := by
  have eligible : Eligible (sampleWorld.sightings 0) sampleDigest :=
    ⟨by decide +kernel, ⟨rfl, rfl⟩, rfl, 10, by decide, rfl⟩
  obtain ⟨report, warmed⟩ := startWarm_single sample_reached sample_single
  have idle := startWarm_scheduled sample_reached warmed
  refine ⟨sample_single, sample_references, eligible, report, warmed, idle, ?_⟩
  intro complete
  obtain ⟨download, scheduled, _⟩ := complete 0 sampleDigest (by rw [sample_references]; rfl) eligible
  rw [idle] at scheduled
  cases scheduled

end WebProxy.Warm
