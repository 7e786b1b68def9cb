import WebProxy.SourceConfig

/-! What `parse_value` accepts: which sources a list may have, and whether the list reads back from
the file `save` writes and from the body that `PUT /sources/config` acknowledges. -/

namespace WebProxy.SourceConfig

open SaveSettings (Paths)
open Settings (trimText)

variable (externals : Externals)

structure Reads (item : Json) (spec : SourceSpec) : Prop where
  name : (item.textAt "name").map trimText = some spec.name ∧ spec.name ≠ "" ∧
    spec.name.utf8ByteSize ≤ 64 ∧ spec.name.toList.any isControl = false
  registry : ∃ text, item.textAt "registry" = some text ∧
    validateHttps externals (trimText text) = .ok () ∧
    spec.registryUrl = trimEndSlashes (trimText text)
  token : spec.tokenUrl = trimText ((item.textAt "token").getD "") ∧
    (spec.tokenUrl = "" ∨ validateHttps externals spec.tokenUrl = .ok ())
  service : spec.tokenService = trimText ((item.textAt "service").getD "")

variable {externals}

theorem parseName_ok_iff {names : List String} {item : Json} {name : String} :
    parseName names item = .ok name ↔ (item.textAt "name").map trimText = some name ∧ name ≠ "" ∧
      name.utf8ByteSize ≤ 64 ∧ name.toList.any isControl = false ∧ name ∉ names := by
  rw [parseName]
  cases written : (item.textAt "name").map trimText with
  | none => simp
  | some text =>
      by_cases blank : text = ""
      · simp only [blank, Option.filter, ne_eq, not_true, decide_false, Bool.false_eq_true, if_false,
          Option.some.injEq, reduceCtorEq, false_iff]
        rintro ⟨rfl, named, _⟩
        exact named rfl
      · simp only [Option.filter, ne_eq, blank, not_false_eq_true, decide_true, if_true,
          Option.some.injEq]
        constructor
        · intro accepted
          split at accepted
          · cases accepted
          · rename_i valid
            split at accepted
            · cases accepted
            · rename_i fresh
              cases accepted
              simp only [not_or, not_lt, Bool.not_eq_true] at valid
              exact ⟨rfl, blank, valid.1, valid.2, fresh⟩
        · rintro ⟨rfl, _, short, plain, fresh⟩
          rw [if_neg (by simp [short, plain]), if_neg fresh]

theorem reads_iff {names : List String} {item : Json} {spec : SourceSpec} :
    (∃ name, parseName names item = .ok name ∧ parseUrls externals name item = .ok spec) ↔
      Reads externals item spec ∧ spec.name ∉ names := by
  constructor
  · rintro ⟨name, named, read⟩
    obtain ⟨written, some_name, short, plain, fresh⟩ := parseName_ok_iff.mp named
    obtain ⟨registry, text, valid, token, rfl⟩ := parseUrls_item_iff.mp read
    exact ⟨⟨⟨written, some_name, short, plain⟩, ⟨registry, text, valid, rfl⟩, ⟨rfl, token⟩, rfl⟩, fresh⟩
  · rintro ⟨reads, fresh⟩
    obtain ⟨written, some_name, short, plain⟩ := reads.name
    obtain ⟨registry, text, valid, same⟩ := reads.registry
    obtain ⟨token, validToken⟩ := reads.token
    refine ⟨spec.name, parseName_ok_iff.mpr ⟨written, some_name, short, plain, fresh⟩,
      parseUrls_item_iff.mpr ⟨registry, text, valid, token ▸ validToken, ?_⟩⟩
    rw [← same, ← token, ← reads.service]

theorem parseItems_cons_iff {names : List String} {item : Json} {items : List Json}
    {specs : List SourceSpec} :
    parseItems externals names (item :: items) = .ok specs ↔ ∃ spec rest,
      (Reads externals item spec ∧ spec.name ∉ names) ∧
        parseItems externals (spec.name :: names) items = .ok rest ∧ specs = spec :: rest := by
  have called : ∀ {name : String} {spec : SourceSpec}, parseUrls externals name item = .ok spec →
      spec.name = name := by
    intro name spec read
    obtain ⟨_, _, _, _, rfl⟩ := parseUrls_item_iff.mp read
    rfl
  constructor
  · intro accepted
    cases named : parseName names item with
    | error text =>
        rw [parseItems, named] at accepted
        cases accepted
    | ok name =>
        obtain ⟨spec, rest, read, others, same⟩ := (parseItems_cons named).mp accepted
        refine ⟨spec, rest, reads_iff.mp ⟨name, named, read⟩, ?_, same⟩
        rw [called read]
        exact others
  · rintro ⟨spec, rest, reads, others, same⟩
    obtain ⟨name, named, read⟩ := reads_iff.mpr reads
    rw [called read] at others
    exact (parseItems_cons named).mpr ⟨spec, rest, read, others, same⟩

theorem names_cons_iff {names : List String} {spec : SourceSpec} {rest : List SourceSpec} :
    (((spec :: rest).map SourceSpec.name).Nodup ∧ ∀ other ∈ spec :: rest, other.name ∉ names) ↔
      spec.name ∉ names ∧ (rest.map SourceSpec.name).Nodup ∧
        ∀ other ∈ rest, other.name ∉ spec.name :: names := by
  rw [List.map_cons, List.nodup_cons, List.forall_mem_cons]
  constructor
  · rintro ⟨⟨first, distinct⟩, fresh, apart⟩
    refine ⟨fresh, distinct, ?_⟩
    intro other member used
    rcases List.mem_cons.mp used with again | earlier
    · exact first (List.mem_map.mpr ⟨other, member, again⟩)
    · exact apart other member earlier
  · rintro ⟨fresh, distinct, apart⟩
    refine ⟨⟨?_, distinct⟩, fresh, fun other member used => apart other member (.tail _ used)⟩
    intro again
    obtain ⟨other, member, same⟩ := List.mem_map.mp again
    exact apart other member (same ▸ List.mem_cons_self)

theorem parseItems_ok_iff {names : List String} {items : List Json} {specs : List SourceSpec} :
    parseItems externals names items = .ok specs ↔ List.Forall₂ (Reads externals) items specs ∧
      (specs.map SourceSpec.name).Nodup ∧ ∀ spec ∈ specs, spec.name ∉ names := by
  induction items generalizing names specs with
  | nil =>
      rw [parseItems]
      constructor
      · intro same
        cases same
        simp
      · rintro ⟨none_read, _⟩
        cases none_read
        rfl
  | cons item items ih =>
      rw [parseItems_cons_iff]
      constructor
      · rintro ⟨spec, rest, ⟨reads, fresh⟩, others, rfl⟩
        obtain ⟨readings, named⟩ := ih.mp others
        exact ⟨.cons reads readings, names_cons_iff.mpr ⟨fresh, named⟩⟩
      · rintro ⟨readings, named⟩
        cases readings with
        | cons reads others =>
            obtain ⟨fresh, apart⟩ := names_cons_iff.mp named
            exact ⟨_, _, ⟨reads, fresh⟩, ih.mpr ⟨others, apart⟩, rfl⟩

def itemsOf (value : Json) : Option (List Json) := (value.get "sources").bind Json.asArray

theorem parseValue_ok_iff {value : Json} {specs : List SourceSpec} :
    parseValue externals value = .ok specs ↔ ∃ items, itemsOf value = some items ∧
      List.Forall₂ (Reads externals) items specs ∧ (specs.map SourceSpec.name).Nodup ∧
      specs ≠ [] ∧ specs.length ≤ 32 := by
  rw [parseValue, itemsOf]
  cases (value.get "sources").bind Json.asArray with
  | none => simp
  | some items =>
      simp only [Option.some.injEq, exists_eq_left']
      have every : ∀ found, parseItems externals [] items = .ok found ↔
          List.Forall₂ (Reads externals) items found ∧ (found.map SourceSpec.name).Nodup := by
        intro found
        rw [parseItems_ok_iff]
        simp
      change Except.bind (parseItems externals [] items) _ = _ ↔ _
      rw [← and_assoc, ← every]
      cases parseItems externals [] items with
      | error text =>
          constructor
          · intro refused
            cases refused
          · rintro ⟨refused, _⟩
            cases refused
      | ok found =>
          change (if found = [] then Except.error _ else if 32 < found.length then Except.error _
            else Except.ok found) = _ ↔ _
          constructor
          · intro accepted
            split at accepted
            · cases accepted
            · rename_i entries
              split at accepted
              · cases accepted
              · rename_i few
                cases accepted
                exact ⟨rfl, entries, Nat.not_lt.mp few⟩
          · rintro ⟨same, entries, few⟩
            cases same
            rw [if_neg entries, if_neg (Nat.not_lt.mpr few)]

theorem forall_items_iff {items : List Json} {specs : List SourceSpec} {asks : Json → Prop}
    {holds : SourceSpec → Prop} (readings : List.Forall₂ (Reads externals) items specs)
    (same : ∀ item spec, Reads externals item spec → (holds spec ↔ asks item)) :
    (∀ spec ∈ specs, holds spec) ↔ ∀ item ∈ items, asks item := by
  induction readings with
  | nil => simp
  | cons reads _ ih => rw [List.forall_mem_cons, List.forall_mem_cons, same _ _ reads, ih]

/-- What the URL standard says of a slash at the end of an https URL without query and fragment:
the authority ends at the first slash or with the text, so without it only the path is another. -/
def SlashEnds (parseUrl : String → Except String SourceUrl) : Prop :=
  ∀ text url, parseUrl (text ++ "/") = .ok url → url.scheme = "https" → url.query = none →
    url.fragment = none → ∃ path, parseUrl text = .ok { url with path := path }

structure Checked (url : SourceUrl) : Prop where
  https : url.scheme = "https"
  port : url.portOrKnownDefault = some 443
  named : ∃ host, url.host = some host ∧ IpAddr.parse host = none
  anonymous : url.username = "" ∧ url.password = none
  bare : url.query = none ∧ url.fragment = none

theorem validateHttps_checked {text : String} :
    validateHttps externals text = .ok () ↔ ∃ url, externals.parseUrl text = .ok url ∧ Checked url := by
  rw [validateHttps]
  cases externals.parseUrl text with
  | error message => simp
  | ok url =>
      simp only [Except.ok.injEq, exists_eq_left']
      by_cases https : url.scheme = "https"
      · rw [checkSource_ok_iff https]
        constructor
        · rintro ⟨port, named, username, password, query, fragment⟩
          exact ⟨https, port, named, ⟨username, password⟩, ⟨query, fragment⟩⟩
        · intro checked
          exact ⟨checked.port, checked.named, checked.anonymous.1, checked.anonymous.2,
            checked.bare.1, checked.bare.2⟩
      · rw [checkSource, if_pos (Or.inl https)]
        constructor
        · intro refused
          cases refused
        · intro checked
          exact absurd checked.https https

theorem trimEndSlashes_rule (property : String → Prop)
    (step : ∀ text, property (text ++ "/") → property text) {text : String} (whole : property text) :
    property (trimEndSlashes text) := by
  have lists : ∀ chars : List Char, property (String.ofList chars) →
      property (String.ofList (chars.rdropWhile (· = '/'))) := by
    intro chars
    induction chars using List.reverseRecOn with
    | nil => exact id
    | append_singleton front last ih =>
        intro held
        rw [List.rdropWhile_concat]
        split
        · rename_i slash
          apply ih
          apply step
          rw [of_decide_eq_true slash, String.ofList_append] at held
          exact held
        · exact held
  rw [trimEndSlashes]
  apply lists
  rw [String.ofList_toList]
  exact whole

theorem checked_trimmed (standard : SlashEnds externals.parseUrl) {text : String} {url : SourceUrl}
    (parsed : externals.parseUrl text = .ok url) (checked : Checked url) :
    ∃ path, externals.parseUrl (trimEndSlashes text) = .ok { url with path := path } := by
  refine trimEndSlashes_rule (fun text => ∃ path, externals.parseUrl text = .ok
    { url with path := path }) ?_ ⟨url.path, parsed⟩
  rintro text ⟨path, longer⟩
  exact standard text { url with path := path } longer checked.https checked.bare.1 checked.bare.2

theorem Checked.with_path {url : SourceUrl} (checked : Checked url) (path : String) :
    Checked { url with path := path } :=
  ⟨checked.https, checked.port, checked.named, checked.anonymous, checked.bare⟩

def Ipv6Literal (host : String) : Prop :=
  ∃ inner groups, host = "[" ++ inner ++ "]" ∧ IpAddr.parse inner = some (.v6 groups)

def DnsName (host : String) : Prop := IpAddr.parse host = none ∧ ¬ Ipv6Literal host

variable (externals)

/-- A URL of a source that a request may go to. -/
def SafeTarget (text : String) : Prop :=
  ∃ url host, externals.parseUrl text = .ok url ∧ url.scheme = "https" ∧
    url.portOrKnownDefault = some 443 ∧ url.host = some host ∧ DnsName host ∧ url.username = "" ∧
    url.password = none ∧ url.query = none ∧ url.fragment = none

structure SafeSources (specs : List SourceSpec) : Prop where
  count : 1 ≤ specs.length ∧ specs.length ≤ 32
  distinct : (specs.map SourceSpec.name).Nodup
  named : ∀ spec ∈ specs, spec.name ≠ ""
  registries : ∀ spec ∈ specs, SafeTarget externals spec.registryUrl
  tokens : ∀ spec ∈ specs, spec.tokenUrl ≠ "" → SafeTarget externals spec.tokenUrl

def Ipv6Target (text : String) : Prop :=
  ∃ url host, externals.parseUrl text = .ok url ∧ url.host = some host ∧ Ipv6Literal host

structure NamesHosts (item : Json) : Prop where
  registry : ∀ text, item.textAt "registry" = some text → ¬ Ipv6Target externals (trimText text)
  token : ∀ text, item.textAt "token" = some text → trimText text ≠ "" →
    ¬ Ipv6Target externals (trimText text)

variable {externals}

theorem safe_iff_of_checked {text : String} {url : SourceUrl}
    (parsed : externals.parseUrl text = .ok url) (checked : Checked url) :
    SafeTarget externals text ↔ ¬ Ipv6Target externals text := by
  constructor
  · rintro ⟨one, host, first, _, _, named, dns, _⟩ ⟨two, literal, second, found, bracketed⟩
    rw [first] at second
    cases second
    rw [named] at found
    cases found
    exact dns.2 bracketed
  · intro unbracketed
    obtain ⟨host, named, literal⟩ := checked.named
    refine ⟨url, host, parsed, checked.https, checked.port, named, ⟨literal, ?_⟩,
      checked.anonymous.1, checked.anonymous.2, checked.bare.1, checked.bare.2⟩
    intro bracketed
    exact unbracketed ⟨url, host, parsed, named, bracketed⟩

theorem ipv6Target_of_parsed {text : String} {url : SourceUrl}
    (parsed : externals.parseUrl text = .ok url) :
    Ipv6Target externals text ↔ ∃ host, url.host = some host ∧ Ipv6Literal host := by
  rw [Ipv6Target, parsed]
  simp

theorem safe_source_iff (standard : SlashEnds externals.parseUrl) {item : Json} {spec : SourceSpec}
    (reads : Reads externals item spec) :
    (SafeTarget externals spec.registryUrl ∧
        (spec.tokenUrl ≠ "" → SafeTarget externals spec.tokenUrl)) ↔ NamesHosts externals item := by
  obtain ⟨text, written, valid, same⟩ := reads.registry
  obtain ⟨url, parsed, checked⟩ := validateHttps_checked.mp valid
  obtain ⟨path, shorter⟩ := checked_trimmed standard parsed checked
  have registry : SafeTarget externals spec.registryUrl ↔ ¬ Ipv6Target externals (trimText text) := by
    rw [same, safe_iff_of_checked shorter (checked.with_path path), ipv6Target_of_parsed shorter,
      ipv6Target_of_parsed parsed]
  have token : (spec.tokenUrl ≠ "" → SafeTarget externals spec.tokenUrl) ↔
      (spec.tokenUrl ≠ "" → ¬ Ipv6Target externals spec.tokenUrl) := by
    apply imp_congr_right
    intro some_token
    obtain ⟨tokenUrl, read, clean⟩ := validateHttps_checked.mp (reads.token.2.resolve_left some_token)
    exact safe_iff_of_checked read clean
  rw [registry, token]
  constructor
  · rintro ⟨first, second⟩
    constructor
    · intro other found
      rw [written] at found
      cases found
      exact first
    · intro other found
      have spelled := reads.token.1
      rw [found, Option.getD_some] at spelled
      rw [← spelled]
      exact second
  · intro names
    refine ⟨names.registry text written, ?_⟩
    rw [reads.token.1]
    intro some_token
    cases found : item.textAt "token" with
    | none =>
        rw [found] at some_token
        exact absurd (by decide) some_token
    | some other =>
        rw [found] at some_token
        exact names.token other found some_token

/-- A list that is accepted has safe targets only, exactly when none of its URLs has an IPv6 literal
for a host. -/
theorem accepted_sources_safe_iff (externals : Externals) (standard : SlashEnds externals.parseUrl)
    (value : Json) (specs : List SourceSpec) (accepted : parseValue externals value = .ok specs) :
    SafeSources externals specs ↔
      ∀ items, itemsOf value = some items → ∀ item ∈ items, NamesHosts externals item := by
  obtain ⟨items, held, readings, distinct, entries, few⟩ := parseValue_ok_iff.mp accepted
  have each := forall_items_iff readings (fun item spec reads => safe_source_iff standard reads)
  have named : ∀ spec ∈ specs, spec.name ≠ "" :=
    (forall_items_iff readings (fun item spec reads => iff_of_true reads.name.2.1 trivial)).mpr
      (fun _ _ => trivial)
  constructor
  · intro safe found same
    rw [held] at same
    cases same
    exact each.mp (fun spec member => ⟨safe.registries spec member, safe.tokens spec member⟩)
  · intro condition
    have all := each.mpr (condition items held)
    exact ⟨⟨List.length_pos_of_ne_nil entries, few⟩, distinct, named,
      fun spec member => (all spec member).1, fun spec member => (all spec member).2⟩

/-- The URLs of a few texts, up to the slashes at their end: the host, the path without a slash and
what the path has before the slashes. -/
def sampleBasis (base : String) : Option (String × String × String) :=
  if base = "https://registry-1.docker.io" then some ("registry-1.docker.io", "/", "")
  else if base = "https://auth.docker.io/token" then some ("auth.docker.io", "/token", "/token")
  else if base = "https://ghcr.io" then some ("ghcr.io", "/", "")
  else if base = "https://ghcr.io/token" then some ("ghcr.io", "/token", "/token")
  else if base = "https://mirror.example" then some ("mirror.example", "/", "")
  else if base = "https://mirror.example/ " then some ("mirror.example", "/", "/%20")
  else if base = "https://[::1]" then some ("[::1]", "/", "")
  else none

def slashedParseUrl (text : String) : Except String SourceUrl :=
  match sampleBasis (trimEndSlashes text) with
  | none => .error "relative URL without a base"
  | some (host, alone, lead) =>
      let slashes := text.toList.rtakeWhile (· = '/')
      .ok (sampleUrl host (if slashes = [] then alone else lead ++ String.ofList slashes) none)

theorem slashedParseUrl_ends : SlashEnds slashedParseUrl := by
  intro text url parsed _ _ _
  have same : trimEndSlashes (text ++ "/") = trimEndSlashes text := by
    have slash : "/".toList = ['/'] := by decide
    rw [trimEndSlashes, String.toList_append, slash, List.rdropWhile_concat_pos _ _ _ (by decide)]
    rfl
  rw [slashedParseUrl, same] at parsed
  rw [slashedParseUrl]
  cases found : sampleBasis (trimEndSlashes text) with
  | none =>
      rw [found] at parsed
      cases parsed
  | some basis =>
      rw [found] at parsed
      cases parsed
      exact ⟨_, rfl⟩

def singleSource (registry : String) : Json :=
  .object [("sources", .array [.object [("name", .string "mirror"), ("registry", .string registry)]])]

def singleText (registry : String) : String :=
  "\x7b\"sources\":[\x7b\"name\":\"mirror\",\"registry\":\"" ++ registry ++
    "\",\"service\":\"\",\"token\":\"\"\x7d]\x7d"

def singleExternals (registry : String) : Externals where
  parseUrl := slashedParseUrl
  readJson text :=
    if text = singleText registry then .ok (specsJson [⟨"mirror", registry, "", ""⟩])
    else .error "expected value at line 1 column 1"
  printJson _ := singleText registry

theorem not_ipv6Literal {host : String} (plain : host.toList.head? ≠ some '[') : ¬ Ipv6Literal host := by
  rintro ⟨inner, _, rfl, _⟩
  apply plain
  have bracket : "[".toList = ['['] := by decide
  rw [String.toList_append, String.toList_append, bracket]
  rfl

theorem accepted_sources_safe_mirror :
    SafeSources (singleExternals "https://mirror.example")
      [⟨"mirror", "https://mirror.example", "", ""⟩] := by
  refine (accepted_sources_safe_iff (singleExternals "https://mirror.example") slashedParseUrl_ends
    (singleSource "https://mirror.example/") _ (by rfl)).mpr ?_
  intro items held item member
  cases held
  cases List.mem_singleton.mp member
  constructor
  · intro text written
    cases written
    have parsed : slashedParseUrl (trimText "https://mirror.example/") =
        .ok (sampleUrl "mirror.example" "/" none) := by decide +kernel
    rintro ⟨url, host, found, named, literal⟩
    cases parsed.symm.trans found
    cases named
    exact not_ipv6Literal (by decide) literal
  · intro text written
    cases written

/-- An IPv6 literal stands in brackets, which the check for IP addresses does not read. -/
theorem ipv6_literal_is_accepted :
    parseValue (singleExternals "https://[::1]") (singleSource "https://[::1]") =
        .ok [⟨"mirror", "https://[::1]", "", ""⟩] ∧
      ¬ SafeSources (singleExternals "https://[::1]") [⟨"mirror", "https://[::1]", "", ""⟩] := by
  refine ⟨by rfl, ?_⟩
  intro safe
  obtain ⟨url, host, parsed, _, _, named, dns, _⟩ := safe.registries _ List.mem_cons_self
  have found : slashedParseUrl "https://[::1]" = .ok (sampleUrl "[::1]" "/" none) := by decide +kernel
  cases found.symm.trans parsed
  cases named
  exact dns.2 ⟨"::1", [0, 0, 0, 0, 0, 0, 0, 1], by decide, by decide +kernel⟩

end WebProxy.SourceConfig
