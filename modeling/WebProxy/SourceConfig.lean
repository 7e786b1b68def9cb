import WebProxy.SaveSettings
import WebProxy.Url

/-! The sources a start of the gateway takes: `registry_config`, `load_or_default`, `parse_value` and
`save`, and the part of `main` that puts them together. -/

namespace WebProxy.SourceConfig

open SaveSettings (Paths)
open Settings (trimText)

/-- A URL with the part that no request sends. -/
structure SourceUrl extends Url where
  fragment : Option String
  deriving DecidableEq, Repr

structure Externals where
  parseUrl : String → Except String SourceUrl
  readJson : String → Except String Json
  printJson : Json → String

structure RegistryConfig where
  registryUrl : String
  tokenUrl : String
  tokenService : String
  deriving DecidableEq, Repr

structure SourceSpec where
  name : String
  registryUrl : String
  tokenUrl : String
  tokenService : String
  deriving DecidableEq, Repr

abbrev Environment := String → Option String

def envOr (env : Environment) (name default : String) : String := (env name).getD default

inductive Reading where
  | text (text : String)
  | notFound
  | failed (error : String)
  deriving DecidableEq, Repr

abbrev Files := String → Reading

variable (externals : Externals)

def checkHttps (label text : String) : Except String Unit :=
  match externals.parseUrl text with
  | .error _ => .error ("invalid " ++ label ++ " upstream url " ++ text)
  | .ok url =>
      if url.scheme ≠ "https" then .error (label ++ " upstream url must be https: " ++ text)
      else .ok ()

def registryConfig (env : Environment) (label : String) (default : RegistryConfig) :
    Except String RegistryConfig := do
  let registryUrl := envOr env (label ++ "_REGISTRY_URL") default.registryUrl
  let tokenUrl := envOr env (label ++ "_TOKEN_URL") default.tokenUrl
  let tokenService := envOr env (label ++ "_TOKEN_SERVICE") default.tokenService
  checkHttps externals label registryUrl
  checkHttps externals label tokenUrl
  return ⟨registryUrl, tokenUrl, tokenService⟩

def dockerhubConfig (env : Environment) : Except String RegistryConfig :=
  registryConfig externals env "DOCKERHUB"
    ⟨"https://registry-1.docker.io", "https://auth.docker.io/token", "registry.docker.io"⟩

def ghcrConfig (env : Environment) : Except String RegistryConfig :=
  registryConfig externals env "GHCR" ⟨"https://ghcr.io", "https://ghcr.io/token", "ghcr.io"⟩

def checkSource (text : String) (url : SourceUrl) : Except String Unit :=
  if url.scheme ≠ "https" ∨ url.host.isNone ∨ url.portOrKnownDefault ≠ some 443 then
    .error ("source url must use https port 443: " ++ text)
  else if url.host.any (fun host => (IpAddr.parse host).isSome) then
    .error ("source url host must be a DNS name, not an IP literal: " ++ text)
  else if url.username ≠ "" ∨ url.password.isSome ∨ url.query.isSome ∨ url.fragment.isSome then
    .error ("source url cannot contain credentials, query, or fragment: " ++ text)
  else .ok ()

def validateHttps (text : String) : Except String Unit :=
  match externals.parseUrl text with
  | .error error => .error error
  | .ok url => checkSource text url

def isControl (char : Char) : Bool :=
  char.toNat < 32 || (127 ≤ char.toNat && char.toNat ≤ 159)

def parseName (names : List String) (item : Json) : Except String String :=
  match ((item.textAt "name").map trimText).filter (· ≠ "") with
  | none => .error "source missing 'name'"
  | some name =>
      if 64 < name.utf8ByteSize ∨ name.toList.any isControl then
        .error ("invalid source name: " ++ name)
      else if name ∈ names then .error ("duplicate source name: " ++ name)
      else .ok name

def trimEndSlashes (text : String) : String := String.ofList (text.toList.rdropWhile (· = '/'))

def parseUrls (name : String) (item : Json) : Except String SourceSpec :=
  match (item.textAt "registry").map trimText with
  | none => .error "source missing 'registry'"
  | some registry => do
      let token := trimText ((item.textAt "token").getD "")
      let service := trimText ((item.textAt "service").getD "")
      validateHttps externals registry
      if token ≠ "" then validateHttps externals token
      return ⟨name, trimEndSlashes registry, token, service⟩

def parseItems : List String → List Json → Except String (List SourceSpec)
  | _, [] => .ok []
  | names, item :: items => do
      let name ← parseName names item
      let spec ← parseUrls externals name item
      let specs ← parseItems (name :: names) items
      return spec :: specs

def parseValue (parsed : Json) : Except String (List SourceSpec) :=
  match (parsed.get "sources").bind Json.asArray with
  | none => .error "sources.json missing 'sources' array"
  | some items => do
      let specs ← parseItems externals [] items
      if specs = [] then throw "sources.json has no entries"
      else if 32 < specs.length then throw "sources.json supports at most 32 entries"
      else return specs

def parse (text : String) : Except String (List SourceSpec) :=
  match externals.readJson text with
  | .error error => .error ("sources.json: " ++ error)
  | .ok parsed => parseValue externals parsed

def fallback (dockerhub ghcr : RegistryConfig) : List SourceSpec :=
  [⟨"dockerhub", dockerhub.registryUrl, dockerhub.tokenUrl, dockerhub.tokenService⟩,
    ⟨"ghcr", ghcr.registryUrl, ghcr.tokenUrl, ghcr.tokenService⟩]

def loadOrDefault (configured : Option (String × Reading)) (dockerhub ghcr : RegistryConfig) :
    Except String (List SourceSpec) :=
  match configured with
  | some (_, .text text) => parse externals text
  | some (path, .failed error) => .error ("read sources.json " ++ path ++ ": " ++ error)
  | some (_, .notFound) => .ok (fallback dockerhub ghcr)
  | none => .ok (fallback dockerhub ghcr)

def specJson (spec : SourceSpec) : Json :=
  .object [("name", .string spec.name), ("registry", .string spec.registryUrl),
    ("token", .string spec.tokenUrl), ("service", .string spec.tokenService)]

def specsJson (specs : List SourceSpec) : Json := .object [("sources", .array (specs.map specJson))]

inductive Saving where
  | createFails
  | writeFails
  | renameFails
  | done
  deriving DecidableEq, Repr

def writeSources (paths : Paths) (files : Files) (text : String) : Files := fun path =>
  if path = paths.file then .text text else if path = paths.tmp then .notFound else files path

def save (paths : Paths) (files : Files) (specs : List SourceSpec) : Saving → Except String Files
  | .createFails => .error ("create " ++ paths.directory)
  | .writeFails => .error ("write " ++ paths.tmp)
  | .renameFails => .error ("replace " ++ paths.file)
  | .done => .ok (writeSources paths files (externals.printJson (specsJson specs)))

def boot (paths : Paths) (env : Environment) (files : Files) (saving : Saving) :
    Except String (List SourceSpec × Files) := do
  let dockerhub ← dockerhubConfig externals env
  let ghcr ← ghcrConfig externals env
  let configured :=
    if files paths.file ≠ .notFound then some paths.file else (env "SOURCES_TOML").filter (· ≠ "")
  let specs ← loadOrDefault externals (configured.map (fun path => (path, files path))) dockerhub ghcr
  if files paths.file = .notFound then
    let written ← save externals paths files specs saving
    return (specs, written)
  else return (specs, files)

def normal (spec : SourceSpec) : SourceSpec :=
  { spec with registryUrl := trimEndSlashes spec.registryUrl }

def SameSources (first second : List SourceSpec) : Prop := first.map normal = second.map normal

/-- A URL that passes the checks of a source, with no blank around it. -/
structure Reusable (text : String) : Prop where
  trimmed : trimText text = text
  source : ∃ url, externals.parseUrl text = .ok url ∧ url.portOrKnownDefault = some 443 ∧
    (∃ host, url.host = some host ∧ IpAddr.parse host = none) ∧ url.username = "" ∧
    url.password = none ∧ url.query = none ∧ url.fragment = none

/-- A configuration that reads back from the sources file. -/
structure Portable (config : RegistryConfig) : Prop where
  registry : Reusable externals config.registryUrl
  token : Reusable externals config.tokenUrl
  service : trimText config.tokenService = config.tokenService

variable {externals}

theorem checkSource_ok_iff {text : String} {url : SourceUrl} (https : url.scheme = "https") :
    checkSource text url = .ok () ↔ url.portOrKnownDefault = some 443 ∧
      (∃ host, url.host = some host ∧ IpAddr.parse host = none) ∧ url.username = "" ∧
      url.password = none ∧ url.query = none ∧ url.fragment = none := by
  rw [checkSource]
  cases named : url.host with
  | none => simp
  | some host =>
      by_cases port : url.portOrKnownDefault = some 443
      · rw [if_neg (by simp [https, port])]
        cases literal : IpAddr.parse host with
        | some address => simp [literal]
        | none =>
            rw [if_neg (by simp [literal])]
            by_cases bare : url.username = "" ∧ url.password = none ∧ url.query = none ∧
                url.fragment = none
            · simp [port, literal, bare]
            · have dressed : url.username ≠ "" ∨ url.password.isSome ∨ url.query.isSome ∨
                  url.fragment.isSome := by
                by_contra plain
                simp only [not_or, not_not, Bool.not_eq_true, Option.isSome_eq_false_iff,
                  Option.isNone_iff_eq_none] at plain
                exact bare plain
              rw [if_pos dressed]
              simp [port, literal, bare]
      · rw [if_pos (by simp [port])]
        simp [port]

theorem checkHttps_ok {label text : String} (accepted : checkHttps externals label text = .ok ()) :
    ∃ url, externals.parseUrl text = .ok url ∧ url.scheme = "https" := by
  rw [checkHttps] at accepted
  split at accepted
  · cases accepted
  · rename_i url parsed
    split at accepted
    · cases accepted
    · rename_i https
      exact ⟨url, parsed, not_not.mp https⟩

theorem registryConfig_ok {env : Environment} {label : String} {default config : RegistryConfig}
    (accepted : registryConfig externals env label default = .ok config) :
    (∃ url, externals.parseUrl config.registryUrl = .ok url ∧ url.scheme = "https") ∧
      ∃ url, externals.parseUrl config.tokenUrl = .ok url ∧ url.scheme = "https" := by
  rw [registryConfig] at accepted
  cases registry : checkHttps externals label
      (envOr env (label ++ "_REGISTRY_URL") default.registryUrl) with
  | error text =>
      rw [registry] at accepted
      cases accepted
  | ok done =>
      cases token : checkHttps externals label
          (envOr env (label ++ "_TOKEN_URL") default.tokenUrl) with
      | error text =>
          rw [registry, token] at accepted
          cases accepted
      | ok done =>
          rw [registry, token] at accepted
          cases accepted
          exact ⟨checkHttps_ok registry, checkHttps_ok token⟩

/-- A checked URL that is https passes the checks of a source exactly when it is reusable, as far as
the blanks around it go. -/
theorem validateHttps_ok_iff {text : String}
    (https : ∃ url, externals.parseUrl text = .ok url ∧ url.scheme = "https")
    (trimmed : trimText text = text) :
    validateHttps externals text = .ok () ↔ Reusable externals text := by
  obtain ⟨url, parsed, scheme⟩ := https
  rw [validateHttps, parsed]
  change checkSource text url = .ok () ↔ _
  rw [checkSource_ok_iff scheme]
  constructor
  · intro clean
    exact ⟨trimmed, url, parsed, clean⟩
  · intro reusable
    obtain ⟨other, again, clean⟩ := reusable.source
    rw [parsed] at again
    cases again
    exact clean

theorem trimEndSlashes_trimText {text : String}
    (same : trimEndSlashes (trimText text) = trimEndSlashes text) : trimText text = text := by
  have lists := String.ofList_inj.mp same
  rw [trimText, String.toList_ofList] at lists
  have kept : Text.trim text.toList = text.toList := by
    apply Text.trim_of_rdropWhile _ lists
    intro char slash
    rw [of_decide_eq_true slash]
    decide
  rw [trimText, kept, String.ofList_toList]

theorem trimEndSlashes_idempotent (text : String) :
    trimEndSlashes (trimEndSlashes text) = trimEndSlashes text := by
  rw [trimEndSlashes, trimEndSlashes, String.toList_ofList, List.rdropWhile_idempotent]

def reread (spec : SourceSpec) : SourceSpec :=
  ⟨spec.name, trimEndSlashes (trimText spec.registryUrl), trimText spec.tokenUrl,
    trimText spec.tokenService⟩

/-- An item is accepted when its URLs are, and becomes a source without the blanks around its texts
and the slashes at the end of its registry. -/
theorem parseUrls_item_iff {name : String} {item : Json} {parsed : SourceSpec} :
    parseUrls externals name item = .ok parsed ↔ ∃ registry, item.textAt "registry" = some registry ∧
      validateHttps externals (trimText registry) = .ok () ∧
      (trimText ((item.textAt "token").getD "") = "" ∨
        validateHttps externals (trimText ((item.textAt "token").getD "")) = .ok ()) ∧
      parsed = ⟨name, trimEndSlashes (trimText registry), trimText ((item.textAt "token").getD ""),
        trimText ((item.textAt "service").getD "")⟩ := by
  rw [parseUrls]
  cases item.textAt "registry" with
  | none => simp
  | some registry =>
      simp only [Option.map_some, Option.some.injEq, exists_eq_left']
      cases first : validateHttps externals (trimText registry) with
      | error text =>
          constructor
          · intro refused
            cases refused
          · rintro ⟨refused, _⟩
            cases refused
      | ok done =>
          by_cases anonymous : trimText ((item.textAt "token").getD "") = ""
          · simp only [anonymous, ne_eq, not_true, if_false, true_or, true_and]
            constructor
            · intro same
              cases same
              rfl
            · rintro rfl
              rfl
          · simp only [anonymous, ne_eq, not_false_eq_true, if_true, false_or]
            cases second : validateHttps externals (trimText ((item.textAt "token").getD "")) with
            | error text =>
                constructor
                · intro refused
                  cases refused
                · rintro ⟨_, refused, _⟩
                  cases refused
            | ok done =>
                constructor
                · intro same
                  cases same
                  exact ⟨trivial, rfl, rfl⟩
                · rintro ⟨_, _, rfl⟩
                  rfl

theorem parseUrls_ok_iff {spec parsed : SourceSpec} :
    parseUrls externals spec.name (specJson spec) = .ok parsed ↔
      validateHttps externals (trimText spec.registryUrl) = .ok () ∧
      (trimText spec.tokenUrl = "" ∨ validateHttps externals (trimText spec.tokenUrl) = .ok ()) ∧
      parsed = reread spec := by
  have registry : (specJson spec).textAt "registry" = some spec.registryUrl := rfl
  rw [parseUrls_item_iff, registry]
  simp only [Option.some.injEq, exists_eq_left']
  exact Iff.rfl

def sourceOf (name : String) (config : RegistryConfig) : SourceSpec :=
  ⟨name, config.registryUrl, config.tokenUrl, config.tokenService⟩

theorem reread_iff_portable (name : String) {config : RegistryConfig}
    (empty : ∀ url, externals.parseUrl "" ≠ .ok url)
    (accepted : (∃ url, externals.parseUrl config.registryUrl = .ok url ∧ url.scheme = "https") ∧
      ∃ url, externals.parseUrl config.tokenUrl = .ok url ∧ url.scheme = "https") :
    (∃ parsed, parseUrls externals name (specJson (sourceOf name config)) = .ok parsed ∧
      normal parsed = normal (sourceOf name config)) ↔ Portable externals config := by
  obtain ⟨registry, token⟩ := accepted
  have named : config.tokenUrl ≠ "" := by
    intro blank
    obtain ⟨url, parsed, _⟩ := token
    rw [blank] at parsed
    exact empty url parsed
  constructor
  · rintro ⟨parsed, read, same⟩
    obtain ⟨registryValid, tokenValid, rfl⟩ := parseUrls_ok_iff.mp read
    simp only [normal, reread, sourceOf, trimEndSlashes_idempotent, SourceSpec.mk.injEq,
      true_and] at same
    obtain ⟨slashes, tokenTrimmed, serviceTrimmed⟩ := same
    have registryTrimmed := trimEndSlashes_trimText slashes
    refine ⟨?_, ?_, serviceTrimmed⟩
    · rw [← validateHttps_ok_iff registry registryTrimmed]
      exact registryTrimmed ▸ registryValid
    · rw [← validateHttps_ok_iff token tokenTrimmed]
      rcases tokenValid with blank | valid
      · exact absurd (tokenTrimmed.symm.trans blank) named
      · exact tokenTrimmed ▸ valid
  · intro portable
    have registryTrimmed := portable.registry.trimmed
    have tokenTrimmed := portable.token.trimmed
    refine ⟨reread (sourceOf name config), ?_, ?_⟩
    · apply parseUrls_ok_iff.mpr
      refine ⟨?_, Or.inr ?_, rfl⟩
      · change validateHttps externals (trimText config.registryUrl) = .ok ()
        rw [registryTrimmed]
        exact (validateHttps_ok_iff registry registryTrimmed).mpr portable.registry
      · change validateHttps externals (trimText config.tokenUrl) = .ok ()
        rw [tokenTrimmed]
        exact (validateHttps_ok_iff token tokenTrimmed).mpr portable.token
    · simp only [normal, reread, sourceOf, trimEndSlashes_idempotent, registryTrimmed, tokenTrimmed,
        portable.service]

theorem parseName_fallback (dockerhub ghcr : RegistryConfig) :
    parseName [] (specJson (sourceOf "dockerhub" dockerhub)) = .ok "dockerhub" ∧
      parseName ["dockerhub"] (specJson (sourceOf "ghcr" ghcr)) = .ok "ghcr" := by
  have first : (specJson (sourceOf "dockerhub" dockerhub)).textAt "name" = some "dockerhub" := rfl
  have second : (specJson (sourceOf "ghcr" ghcr)).textAt "name" = some "ghcr" := rfl
  rw [parseName, parseName, first, second]
  decide +kernel

theorem parseItems_cons {names : List String} {name : String} {item : Json} {items : List Json}
    {specs : List SourceSpec} (named : parseName names item = .ok name) :
    parseItems externals names (item :: items) = .ok specs ↔
      ∃ spec rest, parseUrls externals name item = .ok spec ∧
        parseItems externals (name :: names) items = .ok rest ∧ specs = spec :: rest := by
  rw [parseItems, named]
  change Except.bind (parseUrls externals name item) _ = _ ↔ _
  cases parseUrls externals name item with
  | error text =>
      constructor
      · intro refused
        cases refused
      · rintro ⟨spec, rest, refused, _⟩
        cases refused
  | ok spec =>
      change Except.bind (parseItems externals (name :: names) items) _ = _ ↔ _
      cases parseItems externals (name :: names) items with
      | error text =>
          constructor
          · intro refused
            cases refused
          · rintro ⟨spec, rest, _, refused, _⟩
            cases refused
      | ok rest =>
          constructor
          · intro same
            cases same
            exact ⟨spec, rest, rfl, rfl, rfl⟩
          · rintro ⟨spec, rest, one, two, rfl⟩
            cases one
            cases two
            rfl

theorem parseItems_fallback {dockerhub ghcr : RegistryConfig} {specs : List SourceSpec} :
    parseItems externals [] [specJson (sourceOf "dockerhub" dockerhub), specJson (sourceOf "ghcr" ghcr)] =
        .ok specs ↔
      ∃ first second,
        parseUrls externals "dockerhub" (specJson (sourceOf "dockerhub" dockerhub)) = .ok first ∧
        parseUrls externals "ghcr" (specJson (sourceOf "ghcr" ghcr)) = .ok second ∧
        specs = [first, second] := by
  obtain ⟨firstName, secondName⟩ := parseName_fallback dockerhub ghcr
  rw [parseItems_cons firstName]
  constructor
  · rintro ⟨first, rest, one, others, rfl⟩
    obtain ⟨second, none_left, two, ended, rfl⟩ := (parseItems_cons secondName).mp others
    cases ended
    exact ⟨first, second, one, two, rfl⟩
  · rintro ⟨first, second, one, two, rfl⟩
    exact ⟨first, [second], one, (parseItems_cons secondName).mpr ⟨second, [], two, rfl, rfl⟩, rfl⟩

theorem parseValue_fallback {dockerhub ghcr : RegistryConfig} {again : List SourceSpec} :
    parseValue externals (specsJson (fallback dockerhub ghcr)) = .ok again ↔
      ∃ first second,
        parseUrls externals "dockerhub" (specJson (sourceOf "dockerhub" dockerhub)) = .ok first ∧
        parseUrls externals "ghcr" (specJson (sourceOf "ghcr" ghcr)) = .ok second ∧
        again = [first, second] := by
  have items : ((specsJson (fallback dockerhub ghcr)).get "sources").bind Json.asArray =
      some [specJson (sourceOf "dockerhub" dockerhub), specJson (sourceOf "ghcr" ghcr)] := rfl
  rw [← parseItems_fallback, parseValue, items]
  change Except.bind (parseItems externals [] _) _ = _ ↔ _
  cases read : parseItems externals []
      [specJson (sourceOf "dockerhub" dockerhub), specJson (sourceOf "ghcr" ghcr)] with
  | error text =>
      constructor
      · intro refused
        cases refused
      · intro refused
        cases refused
  | ok specs =>
      obtain ⟨first, second, _, _, rfl⟩ := parseItems_fallback.mp read
      exact Iff.rfl

theorem parseValue_same_iff {dockerhub ghcr : RegistryConfig} :
    (∃ again, parseValue externals (specsJson (fallback dockerhub ghcr)) = .ok again ∧
      SameSources again (fallback dockerhub ghcr)) ↔
      (∃ parsed, parseUrls externals "dockerhub" (specJson (sourceOf "dockerhub" dockerhub)) =
        .ok parsed ∧ normal parsed = normal (sourceOf "dockerhub" dockerhub)) ∧
      ∃ parsed, parseUrls externals "ghcr" (specJson (sourceOf "ghcr" ghcr)) = .ok parsed ∧
        normal parsed = normal (sourceOf "ghcr" ghcr) := by
  constructor
  · rintro ⟨again, read, same⟩
    obtain ⟨first, second, one, two, rfl⟩ := parseValue_fallback.mp read
    have both : [normal first, normal second] =
        [normal (sourceOf "dockerhub" dockerhub), normal (sourceOf "ghcr" ghcr)] := same
    simp only [List.cons.injEq, and_true] at both
    exact ⟨⟨first, one, both.1⟩, second, two, both.2⟩
  · rintro ⟨⟨first, one, firstSame⟩, second, two, secondSame⟩
    refine ⟨[first, second], parseValue_fallback.mpr ⟨first, second, one, two, rfl⟩, ?_⟩
    change [normal first, normal second] = [normal (sourceOf "dockerhub" dockerhub), _]
    rw [firstSame, secondSame]
    rfl

theorem boot_fresh {paths : Paths} {env : Environment} {files : Files}
    {dockerhub ghcr : RegistryConfig} (fresh : files paths.file = .notFound)
    (unconfigured : (env "SOURCES_TOML").filter (· ≠ "") = none)
    (hub : dockerhubConfig externals env = .ok dockerhub)
    (packages : ghcrConfig externals env = .ok ghcr) :
    boot externals paths env files .done = .ok (fallback dockerhub ghcr, writeSources paths files
      (externals.printJson (specsJson (fallback dockerhub ghcr)))) := by
  rw [boot, hub, packages]
  simp only [fresh, unconfigured]
  rfl

theorem boot_written {paths : Paths} {env : Environment} {files : Files} {text : String}
    {dockerhub ghcr : RegistryConfig} {parsed : Json} (saving : Saving)
    (hub : dockerhubConfig externals env = .ok dockerhub)
    (packages : ghcrConfig externals env = .ok ghcr)
    (read : externals.readJson text = .ok parsed) :
    boot externals paths env (writeSources paths files text) saving =
      (parseValue externals parsed).map (fun again => (again, writeSources paths files text)) := by
  have held : writeSources paths files text paths.file = .text text := if_pos rfl
  have loaded : loadOrDefault externals (some (paths.file, .text text)) dockerhub ghcr =
      parseValue externals parsed := by
    rw [loadOrDefault, parse, read]
  rw [boot, hub, packages]
  simp only [held]
  change Except.bind (loadOrDefault externals (some (paths.file, writeSources paths files text
    paths.file)) dockerhub ghcr) _ = _
  rw [held, loaded]
  cases parseValue externals parsed with
  | error text => rfl
  | ok again => rfl

/-- A configuration that a first start accepts and writes is accepted by the second start, with the
same sources up to slashes, exactly when both registries of it are portable. -/
theorem second_boot_iff_portable (externals : Externals) (paths : Paths) (env : Environment)
    (files : Files) (saving : Saving) (dockerhub ghcr : RegistryConfig)
    (empty : ∀ url, externals.parseUrl "" ≠ .ok url)
    (fresh : files paths.file = .notFound)
    (unconfigured : (env "SOURCES_TOML").filter (· ≠ "") = none)
    (hub : dockerhubConfig externals env = .ok dockerhub)
    (packages : ghcrConfig externals env = .ok ghcr)
    (faithful : externals.readJson (externals.printJson (specsJson (fallback dockerhub ghcr))) =
      .ok (specsJson (fallback dockerhub ghcr))) :
    ∃ specs written, boot externals paths env files .done = .ok (specs, written) ∧
      ((∃ again kept, boot externals paths env written saving = .ok (again, kept) ∧
        SameSources again specs) ↔ Portable externals dockerhub ∧ Portable externals ghcr) := by
  refine ⟨_, _, boot_fresh fresh unconfigured hub packages, ?_⟩
  rw [← reread_iff_portable "dockerhub" empty (registryConfig_ok hub),
    ← reread_iff_portable "ghcr" empty (registryConfig_ok packages), ← parseValue_same_iff,
    boot_written saving hub packages faithful]
  constructor
  · rintro ⟨again, kept, started, same⟩
    cases read : parseValue externals (specsJson (fallback dockerhub ghcr)) with
    | error text =>
        rw [read] at started
        cases started
    | ok specs =>
        rw [read] at started
        cases started
        exact ⟨again, rfl, same⟩
  · rintro ⟨again, read, same⟩
    rw [read]
    exact ⟨again, _, rfl, same⟩

def sampleUrl (host path : String) (port : Option Nat) : SourceUrl :=
  ⟨⟨"https", "", none, some host, port, path, none⟩, none⟩

def sampleParseUrl (text : String) : Except String SourceUrl :=
  if text = "https://registry-1.docker.io" then .ok (sampleUrl "registry-1.docker.io" "/" none)
  else if text = "https://auth.docker.io/token" then .ok (sampleUrl "auth.docker.io" "/token" none)
  else if text = "https://ghcr.io" then .ok (sampleUrl "ghcr.io" "/" none)
  else if text = "https://ghcr.io/token" then .ok (sampleUrl "ghcr.io" "/token" none)
  else if text = "https://ghcr.io:8443" then .ok (sampleUrl "ghcr.io" "/" (some 8443))
  else .error "relative URL without a base"

def sampleHub : RegistryConfig :=
  ⟨"https://registry-1.docker.io", "https://auth.docker.io/token", "registry.docker.io"⟩

def samplePackages (registry : String) : RegistryConfig :=
  ⟨registry, "https://ghcr.io/token", "ghcr.io"⟩

def sampleText (registry : String) : String :=
  "\x7b\"sources\":[\x7b\"name\":\"dockerhub\",\"registry\":\"https://registry-1.docker.io\"," ++
    "\"service\":\"registry.docker.io\",\"token\":\"https://auth.docker.io/token\"\x7d," ++
    "\x7b\"name\":\"ghcr\",\"registry\":\"" ++ registry ++
    "\",\"service\":\"ghcr.io\",\"token\":\"https://ghcr.io/token\"\x7d]\x7d"

def sampleExternals (registry : String) : Externals where
  parseUrl := sampleParseUrl
  readJson text :=
    if text = sampleText registry then .ok (specsJson (fallback sampleHub (samplePackages registry)))
    else .error "expected value at line 1 column 1"
  printJson _ := sampleText registry

def samplePaths : Paths := ⟨"/data", "/data/sources.json", "/data/sources.json.tmp"⟩

theorem sampleExternals_faithful (registry : String) :
    (sampleExternals registry).readJson ((sampleExternals registry).printJson
      (specsJson (fallback sampleHub (samplePackages registry)))) =
      .ok (specsJson (fallback sampleHub (samplePackages registry))) := by
  simp only [sampleExternals, if_true]

theorem sample_portable : Portable (sampleExternals "https://ghcr.io") sampleHub ∧
    Portable (sampleExternals "https://ghcr.io") (samplePackages "https://ghcr.io") := by
  have reusable : ∀ text host path, trimText text = text → sampleParseUrl text = .ok
      (sampleUrl host path none) → IpAddr.parse host = none →
      Reusable (sampleExternals "https://ghcr.io") text := by
    intro text host path trimmed parsed named
    exact ⟨trimmed, _, parsed, rfl, ⟨host, rfl, named⟩, rfl, rfl, rfl, rfl⟩
  refine ⟨⟨?_, ?_, by decide +kernel⟩, ⟨?_, ?_, by decide +kernel⟩⟩
  · exact reusable _ "registry-1.docker.io" "/" (by decide +kernel) rfl (by decide +kernel)
  · exact reusable _ "auth.docker.io" "/token" (by decide +kernel) rfl (by decide +kernel)
  · exact reusable _ "ghcr.io" "/" (by decide +kernel) rfl (by decide +kernel)
  · exact reusable _ "ghcr.io" "/token" (by decide +kernel) rfl (by decide +kernel)

/-- No variable is set. -/
theorem second_boot_iff_portable_default :
    ∃ specs written, boot (sampleExternals "https://ghcr.io") samplePaths (fun _ => none)
        (fun _ => .notFound) .done = .ok (specs, written) ∧
      ∃ again kept, boot (sampleExternals "https://ghcr.io") samplePaths (fun _ => none) written
        .done = .ok (again, kept) ∧ SameSources again specs := by
  obtain ⟨specs, written, first, second⟩ := second_boot_iff_portable
    (sampleExternals "https://ghcr.io") samplePaths (fun _ => none) (fun _ => .notFound) .done
    sampleHub (samplePackages "https://ghcr.io") (fun url => by simp [sampleExternals, sampleParseUrl])
    rfl rfl (by decide +kernel) (by decide +kernel) (sampleExternals_faithful _)
  exact ⟨specs, written, first, second.mpr sample_portable⟩

def portEnvironment : Environment := fun name =>
  if name = "GHCR_REGISTRY_URL" then some "https://ghcr.io:8443" else none

/-- The first start takes the port and writes it, and the second start refuses what it reads. -/
theorem second_boot_refuses_port :
    ∃ specs written, boot (sampleExternals "https://ghcr.io:8443") samplePaths portEnvironment
        (fun _ => .notFound) .done = .ok (specs, written) ∧
      ∀ saving, boot (sampleExternals "https://ghcr.io:8443") samplePaths portEnvironment written
        saving = .error "source url must use https port 443: https://ghcr.io:8443" := by
  have hub : dockerhubConfig (sampleExternals "https://ghcr.io:8443") portEnvironment =
      .ok sampleHub := by decide +kernel
  have packages : ghcrConfig (sampleExternals "https://ghcr.io:8443") portEnvironment =
      .ok (samplePackages "https://ghcr.io:8443") := by decide +kernel
  refine ⟨_, _, boot_fresh rfl (by decide +kernel) hub packages, ?_⟩
  intro saving
  rw [boot_written saving hub packages (sampleExternals_faithful _)]
  have refused : parseValue (sampleExternals "https://ghcr.io:8443")
      (specsJson (fallback sampleHub (samplePackages "https://ghcr.io:8443"))) =
      .error "source url must use https port 443: https://ghcr.io:8443" := by decide +kernel
  rw [refused]
  rfl

end WebProxy.SourceConfig
