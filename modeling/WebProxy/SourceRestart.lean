import WebProxy.SourceSafety

/-! `GET` and `PUT /sources/config`, and whether the list a PUT acknowledges and saves is the list
that the next start, or the next PUT of what a GET shows, installs. -/

namespace WebProxy.SourceConfig

open SaveSettings (Paths)
open Settings (trimText)

variable (externals : Externals)

/-- A request of `PUT /sources/config` as it arrives: refused by the bearer check, with a body that
cannot be read, or with the text of one. -/
inductive Arrival where
  | refused (status : Nat) (text : String)
  | unread
  | body (text : String)
  deriving DecidableEq, Repr

structure Reply where
  status : Nat
  body : String
  installed : List SourceSpec
  files : Files

def getSourcesConfig (installed : List SourceSpec) : String :=
  externals.printJson (specsJson installed)

def saveSourcesConfig (paths : Paths) (files : Files) (installed : List SourceSpec) (saving : Saving) :
    Arrival → Reply
  | .refused status text => ⟨status, text, installed, files⟩
  | .unread => ⟨400, "invalid body\n", installed, files⟩
  | .body text =>
      match externals.readJson text with
      | .error _ => ⟨400, "expected json body\n", installed, files⟩
      | .ok value =>
          match parseValue externals value with
          | .error error => ⟨400, error ++ "\n", installed, files⟩
          | .ok specs =>
              match save externals paths files specs saving with
              | .error error => ⟨500, error ++ "\n", installed, files⟩
              | .ok written => ⟨200, getSourcesConfig externals specs, specs, written⟩

/-- The list reads back: as the value it is saved as, at the next start, and in a PUT of what a GET
shows. -/
structure Survives (paths : Paths) (env : Environment) (files : Files) (specs : List SourceSpec) :
    Prop where
  reread : parseValue externals (specsJson specs) = .ok specs
  booted : ∀ saving, boot externals paths env files saving = .ok (specs, files)
  replaced : ∀ before installed, saveSourcesConfig externals paths before installed .done
    (.body (getSourcesConfig externals specs)) =
      ⟨200, getSourcesConfig externals specs, specs,
        writeSources paths before (externals.printJson (specsJson specs))⟩

def Settled (registry : String) : Prop :=
  trimText (trimEndSlashes (trimText registry)) = trimEndSlashes (trimText registry)

variable {externals}

theorem trimText_trimText (text : String) : trimText (trimText text) = trimText text := by
  rw [trimText, trimText, String.toList_ofList, Text.trim_trim]

theorem trimText_of_trimmed {text : String} (same : text = trimEndSlashes (trimText text)) :
    trimText text = text := by
  have short : (trimEndSlashes (trimText text)).toList.length ≤ (Text.trim text.toList).length := by
    rw [trimEndSlashes, trimText, String.toList_ofList, String.toList_ofList]
    exact (List.rdropWhile_prefix _ _).length_le
  have whole : Text.trim text.toList = text.toList := by
    refine (Text.trim_sublist text.toList).eq_of_length_le ?_
    rwa [← same] at short
  rw [trimText, whole, String.ofList_toList]

theorem registry_reread_iff (standard : SlashEnds externals.parseUrl) {registry : String}
    (valid : validateHttps externals (trimText registry) = .ok ()) :
    (validateHttps externals (trimText (trimEndSlashes (trimText registry))) = .ok () ∧
      trimEndSlashes (trimText registry) =
        trimEndSlashes (trimText (trimEndSlashes (trimText registry)))) ↔ Settled registry := by
  constructor
  · rintro ⟨_, same⟩
    exact trimText_of_trimmed same
  · intro settled
    rw [Settled] at settled
    rw [settled, trimEndSlashes_idempotent]
    obtain ⟨url, parsed, checked⟩ := validateHttps_checked.mp valid
    obtain ⟨path, shorter⟩ := checked_trimmed standard parsed checked
    exact ⟨validateHttps_checked.mpr ⟨_, shorter, checked.with_path path⟩, rfl⟩

theorem reads_specJson_iff (standard : SlashEnds externals.parseUrl) {item : Json} {spec : SourceSpec}
    (reads : Reads externals item spec) :
    Reads externals (specJson spec) spec ↔
      ∀ registry, item.textAt "registry" = some registry → Settled registry := by
  obtain ⟨registry, written, valid, same⟩ := reads.registry
  have settled := registry_reread_iff standard valid
  rw [← same] at settled
  constructor
  · intro again other found
    rw [written] at found
    cases found
    obtain ⟨text, spelled, accepted, kept⟩ := again.registry
    cases spelled
    exact settled.mp ⟨accepted, kept⟩
  · intro condition
    obtain ⟨accepted, kept⟩ := settled.mpr (condition registry written)
    obtain ⟨spelled, some_name, short, plain⟩ := reads.name
    obtain ⟨raw, _, trimmed⟩ := Option.map_eq_some_iff.mp spelled
    have name : trimText spec.name = spec.name := by rw [← trimmed, trimText_trimText]
    have token : trimText spec.tokenUrl = spec.tokenUrl := by rw [reads.token.1, trimText_trimText]
    have service : trimText spec.tokenService = spec.tokenService := by
      rw [reads.service, trimText_trimText]
    refine ⟨⟨?_, some_name, short, plain⟩, ⟨spec.registryUrl, rfl, accepted, kept⟩,
      ⟨token.symm, reads.token.2⟩, service.symm⟩
    change some (trimText spec.name) = _
    rw [name]

theorem reread_iff_settled (standard : SlashEnds externals.parseUrl) {value : Json}
    {specs : List SourceSpec} (accepted : parseValue externals value = .ok specs) :
    parseValue externals (specsJson specs) = .ok specs ↔
      ∀ items, itemsOf value = some items → ∀ item ∈ items,
        ∀ registry, item.textAt "registry" = some registry → Settled registry := by
  obtain ⟨items, held, readings, distinct, entries, few⟩ := parseValue_ok_iff.mp accepted
  have printed : itemsOf (specsJson specs) = some (specs.map specJson) := rfl
  have each := forall_items_iff readings (fun item spec reads => reads_specJson_iff standard reads)
  have again : parseValue externals (specsJson specs) = .ok specs ↔
      ∀ spec ∈ specs, Reads externals (specJson spec) spec := by
    rw [parseValue_ok_iff, printed]
    simp only [Option.some.injEq, exists_eq_left', List.forall₂_map_left_iff, List.forall₂_same]
    exact ⟨fun all => all.1, fun all => ⟨all, distinct, entries, few⟩⟩
  rw [again, each, held]
  simp

/-- A list that was accepted and saved survives exactly when every registry of it is settled. -/
theorem source_list_survives_iff (externals : Externals) (standard : SlashEnds externals.parseUrl)
    (paths : Paths) (env : Environment) (files : Files) (installed : List SourceSpec)
    (dockerhub ghcr : RegistryConfig) (body : String) (value : Json) (specs : List SourceSpec)
    (hub : dockerhubConfig externals env = .ok dockerhub)
    (packages : ghcrConfig externals env = .ok ghcr)
    (faithful : externals.readJson (externals.printJson (specsJson specs)) = .ok (specsJson specs))
    (sent : externals.readJson body = .ok value) (accepted : parseValue externals value = .ok specs) :
    let reply := saveSourcesConfig externals paths files installed .done (.body body)
    (reply.status = 200 ∧ reply.body = getSourcesConfig externals specs ∧ reply.installed = specs) ∧
      (Survives externals paths env reply.files specs ↔
        ∀ items, itemsOf value = some items → ∀ item ∈ items,
          ∀ registry, item.textAt "registry" = some registry → Settled registry) := by
  intro reply
  have answered : reply = ⟨200, getSourcesConfig externals specs, specs,
      writeSources paths files (externals.printJson (specsJson specs))⟩ := by
    simp only [reply, saveSourcesConfig, sent, accepted, save]
  rw [answered]
  refine ⟨⟨rfl, rfl, rfl⟩, ?_⟩
  rw [← reread_iff_settled standard accepted]
  constructor
  · intro survives
    exact survives.reread
  · intro again
    refine ⟨again, ?_, ?_⟩
    · intro saving
      rw [boot_written saving hub packages faithful, again]
      rfl
    · intro before kept
      simp only [saveSourcesConfig, getSourcesConfig, faithful, again, save]

theorem settled_mirror : Settled "https://mirror.example" := by
  rw [Settled]
  decide +kernel

/-- A PUT of one source, on a gateway without settings of its own. -/
theorem source_list_survives_mirror :
    Survives (singleExternals "https://mirror.example") samplePaths (fun _ => none)
      (saveSourcesConfig (singleExternals "https://mirror.example") samplePaths (fun _ => .notFound) []
        .done (.body (singleText "https://mirror.example"))).files
      [⟨"mirror", "https://mirror.example", "", ""⟩] := by
  have read : (singleExternals "https://mirror.example").readJson
      (singleText "https://mirror.example") =
      .ok (specsJson [⟨"mirror", "https://mirror.example", "", ""⟩]) := by
    simp only [singleExternals, if_true]
  refine (source_list_survives_iff (singleExternals "https://mirror.example") slashedParseUrl_ends
    samplePaths (fun _ => none) (fun _ => .notFound) [] sampleHub (samplePackages "https://ghcr.io")
    (singleText "https://mirror.example") (specsJson [⟨"mirror", "https://mirror.example", "", ""⟩])
    [⟨"mirror", "https://mirror.example", "", ""⟩] (by decide +kernel) (by decide +kernel) read read
    (by rfl)).2.mpr ?_
  intro items held item member registry written
  cases held
  cases List.mem_singleton.mp member
  cases written
  exact settled_mirror

/-- A blank between the slashes at the end is accepted, shown and saved, and gone after the next
start. -/
theorem blank_before_slash_is_lost :
    parseValue (singleExternals "https://mirror.example/ ") (singleSource "https://mirror.example/ /") =
        .ok [⟨"mirror", "https://mirror.example/ ", "", ""⟩] ∧
      parseValue (singleExternals "https://mirror.example/ ")
          (specsJson [⟨"mirror", "https://mirror.example/ ", "", ""⟩]) =
        .ok [⟨"mirror", "https://mirror.example", "", ""⟩] ∧
      parseValue (singleExternals "https://mirror.example/ ")
          (specsJson [⟨"mirror", "https://mirror.example/ ", "", ""⟩]) ≠
        .ok [⟨"mirror", "https://mirror.example/ ", "", ""⟩] := by
  have again : parseValue (singleExternals "https://mirror.example/ ")
      (specsJson [⟨"mirror", "https://mirror.example/ ", "", ""⟩]) =
      .ok [⟨"mirror", "https://mirror.example", "", ""⟩] := by rfl
  refine ⟨by rfl, again, ?_⟩
  rw [again]
  decide

end WebProxy.SourceConfig
