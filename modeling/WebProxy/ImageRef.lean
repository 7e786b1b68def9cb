import WebProxy.Library.Split
import WebProxy.Library.Text

/-! Image references of `dockerpull.rs`: `parse_image_ref` reads what a user typed and `plan_pull`
turns it into a pull through the gateway with a display name of its own. -/

namespace WebProxy.ImageRef

def dockerIo : List Char := "docker.io".toList

def ghcrIo : List Char := "ghcr.io".toList

def latest : List Char := "latest".toList

structure Parts where
  registry : List Char
  path : List Char
  tag : Option (List Char)
  digest : Option (List Char)
  deriving DecidableEq, Repr

def hostLike (first : List Char) : Bool :=
  first.contains '.' || first.contains ':' || first = "localhost".toList

def explicitRegistry (name : List Char) : Option (List Char × List Char) :=
  (Split.splitOnce '/' name).filter (fun cut => hostLike cut.1)

def splitRegistry (name : List Char) : List Char × List Char :=
  match explicitRegistry name with
  | some (first, rest) => (first.map Char.toLower, rest)
  | none => (dockerIo, name)

/-- A tag follows the last colon, unless a slash comes after it. -/
def splitTag (path : List Char) : List Char × Option (List Char) :=
  match Split.rsplitOnce ':' path with
  | some (name, tag) => if tag.contains '/' then (path, none) else (name, some tag)
  | none => (path, none)

def splitName (name : List Char) (digest : Option (List Char)) : Parts :=
  let located := splitRegistry name
  let tagged := splitTag located.2
  ⟨located.1, tagged.1, tagged.2, digest⟩

def splitReference (input : List Char) : Parts :=
  match Split.splitOnce '@' input with
  | some (name, digest) => splitName name (some digest)
  | none => splitName input none

def badDigest (digest : List Char) : Bool :=
  let hex := if "sha256:".toList.isPrefixOf digest then digest.drop "sha256:".toList.length else []
  hex.length ≠ 64 || !hex.all Text.isAsciiHexdigit

def badPath (path : List Char) : Bool :=
  path = [] ||
    (path.splitOn '/').any (fun part => part = [] || part = ".".toList || part = "..".toList)

def nameChar (char : Char) : Bool :=
  char.isLower || char.isDigit || "._-/".toList.contains char

def tagChar (char : Char) : Bool := char.isAlphanum || "._-".toList.contains char

def badTag (tag : List Char) : Bool :=
  tag = [] || 128 < tag.length || tag.head? = some '.' || tag.head? = some '-' || !tag.all tagChar

structure ParsedImageRef where
  registry : String
  path : String
  canonical : String
  tag : Option String
  digest : Option String
  deriving DecidableEq, Repr

def pullPath (parts : Parts) : List Char :=
  if parts.registry = dockerIo ∧ '/' ∉ parts.path then "library/".toList ++ parts.path else parts.path

def canonicalName (parts : Parts) : List Char :=
  if parts.registry = dockerIo then parts.path else parts.registry ++ '/' :: parts.path

def normalize (parts : Parts) : ParsedImageRef :=
  ⟨String.ofList parts.registry, String.ofList (pullPath parts), String.ofList (canonicalName parts),
    parts.tag.map String.ofList, parts.digest.map String.ofList⟩

/-- The checks on the parts, in the order of the source; splitting itself never fails. -/
def checkParts (parts : Parts) : Except String ParsedImageRef :=
  if parts.digest.any badDigest then .error "invalid digest (want sha256:<64 hex>)"
  else if parts.registry ≠ dockerIo ∧ parts.registry ≠ ghcrIo then
    .error ("unsupported registry " ++ String.ofList parts.registry ++
      " (gateway routes docker.io and ghcr.io only)")
  else if badPath parts.path then .error "invalid image path"
  else if !parts.path.all nameChar then .error "image names may only contain [a-z0-9._-/]"
  else if parts.tag.any badTag then .error "invalid tag"
  else .ok (normalize parts)

def malformed (input : List Char) : Prop :=
  input = [] ∨ (Text.splitWhitespace input).length ≠ 1 ∨ "://".toList <:+: input ∨
    input.head? = some '-'

instance (input : List Char) : Decidable (malformed input) :=
  inferInstanceAs (Decidable (_ ∨ _ ∨ _ ∨ _))

def parseImageRef (image : String) : Except String ParsedImageRef :=
  let input := Text.trim image.toList
  if malformed input then .error "invalid image reference" else checkParts (splitReference input)

structure PullSpec where
  image : String
  pullRepo : String
  tag : Option String
  digest : Option String
  retagRepo : Option String
  retagTag : Option String
  deriving DecidableEq, Repr

/-- Without a tag and a digest the tag is `latest`. -/
def pullTag (parsed : ParsedImageRef) : Option String :=
  parsed.tag.or (if parsed.digest.isNone then some "latest" else none)

def pullRepo (parsed : ParsedImageRef) (gatewayHost : String) : String :=
  if parsed.registry = "ghcr.io" then gatewayHost ++ "/ghcr.io/" ++ parsed.path
  else gatewayHost ++ "/" ++ parsed.path

def displayName (parsed : ParsedImageRef) : String :=
  match pullTag parsed, parsed.digest with
  | some tag, _ => parsed.canonical ++ ":" ++ tag
  | none, some digest => parsed.canonical ++ "@" ++ digest
  | none, none => parsed.canonical ++ ":latest"

def pullSpec (parsed : ParsedImageRef) (gatewayHost : String) : PullSpec :=
  { image := displayName parsed
    pullRepo := pullRepo parsed gatewayHost
    tag := pullTag parsed
    digest := parsed.digest
    retagRepo := if parsed.digest.isSome then none else some parsed.canonical
    retagTag := if parsed.digest.isSome then none else some ((pullTag parsed).getD "latest") }

def planPull (image gatewayHost : String) : Except String PullSpec :=
  match parseImageRef image with
  | .error message => .error message
  | .ok parsed => .ok (pullSpec parsed gatewayHost)

structure Sound (parts : Parts) : Prop where
  registry : parts.registry = dockerIo ∨ parts.registry = ghcrIo
  path : badPath parts.path = false
  letters : ∀ char ∈ parts.path, nameChar char = true
  tag : ∀ tag ∈ parts.tag, badTag tag = false
  digest : ∀ digest ∈ parts.digest, badDigest digest = false

theorem checkParts_ok_iff {parts : Parts} {parsed : ParsedImageRef} :
    checkParts parts = .ok parsed ↔ Sound parts ∧ parsed = normalize parts := by
  unfold checkParts
  constructor
  · intro accepted
    split at accepted
    · cases accepted
    · rename_i digest
      split at accepted
      · cases accepted
      · rename_i registry
        split at accepted
        · cases accepted
        · rename_i path
          split at accepted
          · cases accepted
          · rename_i letters
            split at accepted
            · cases accepted
            · rename_i tag
              cases accepted
              refine ⟨⟨?_, by simpa using path, ?_, ?_, ?_⟩, rfl⟩
              · tauto
              · simpa using letters
              · intro written member
                simpa [Option.mem_def.mp member] using tag
              · intro written member
                simpa [Option.mem_def.mp member] using digest
  · intro sound
    obtain ⟨sound, rfl⟩ := sound
    have digest : parts.digest.any badDigest = false := by
      cases written : parts.digest with
      | none => rfl
      | some digest => simpa using sound.digest digest (by simp [written])
    have tag : parts.tag.any badTag = false := by
      cases written : parts.tag with
      | none => rfl
      | some tag => simpa using sound.tag tag (by simp [written])
    have letters : parts.path.all nameChar = true := List.all_eq_true.mpr sound.letters
    have registry : ¬ (parts.registry ≠ dockerIo ∧ parts.registry ≠ ghcrIo) := by
      have named := sound.registry
      tauto
    rw [digest, tag, letters, sound.path, if_neg (by simp), if_neg registry, if_neg (by simp),
      if_neg (by simp), if_neg (by simp)]

theorem parseImageRef_ok {image : String} {parsed : ParsedImageRef}
    (accepted : parseImageRef image = .ok parsed) :
    Sound (splitReference (Text.trim image.toList)) ∧
      parsed = normalize (splitReference (Text.trim image.toList)) := by
  rw [parseImageRef] at accepted
  split at accepted
  · cases accepted
  · exact checkParts_ok_iff.mp accepted

theorem planPull_ok {image gatewayHost : String} {plan : PullSpec}
    (accepted : planPull image gatewayHost = .ok plan) :
    ∃ parsed, parseImageRef image = .ok parsed ∧ plan = pullSpec parsed gatewayHost := by
  rw [planPull] at accepted
  split at accepted
  · cases accepted
  · rename_i parsed found
    cases accepted
    exact ⟨parsed, found, rfl⟩

/-! What the character sets of names, tags and digests leave out. -/

theorem nameChar_plain {char : Char} (named : nameChar char = true) :
    33 ≤ char.toNat ∧ char.toNat ≤ 126 ∧ char.isUpper = false ∧ char ≠ ':' ∧ char ≠ '@' := by
  simp only [nameChar, Bool.or_eq_true, Text.isLower_iff, Text.isDigit_iff] at named
  have codes : 33 ≤ char.toNat ∧ char.toNat ≤ 126 ∧ ¬ (65 ≤ char.toNat ∧ char.toNat ≤ 90) ∧
      char.toNat ≠ 58 ∧ char.toNat ≠ 64 := by
    rcases named with (lower | digit) | mark
    · omega
    · omega
    · have spelled : char = '.' ∨ char = '_' ∨ char = '-' ∨ char = '/' := by simpa using mark
      rcases spelled with rfl | rfl | rfl | rfl <;> decide
  obtain ⟨low, high, capital, colon, sign⟩ := codes
  rw [← Bool.not_eq_true, Text.isUpper_iff]
  refine ⟨low, high, capital, ?_, ?_⟩
  · intro same
    exact colon (same ▸ rfl)
  · intro same
    exact sign (same ▸ rfl)

theorem tagChar_plain {char : Char} (tagged : tagChar char = true) :
    33 ≤ char.toNat ∧ char.toNat ≤ 126 ∧ char ≠ ':' ∧ char ≠ '@' ∧ char ≠ '/' := by
  simp only [tagChar, Char.isAlphanum, Bool.or_eq_true, Text.isAlpha_iff, Text.isLower_iff,
    Text.isUpper_iff, Text.isDigit_iff] at tagged
  have codes : 33 ≤ char.toNat ∧ char.toNat ≤ 126 ∧ char.toNat ≠ 58 ∧ char.toNat ≠ 64 ∧
      char.toNat ≠ 47 := by
    rcases tagged with ((upper | lower) | digit) | mark
    · omega
    · omega
    · omega
    · have spelled : char = '.' ∨ char = '_' ∨ char = '-' := by simpa using mark
      rcases spelled with rfl | rfl | rfl <;> decide
  obtain ⟨low, high, colon, sign, slash⟩ := codes
  refine ⟨low, high, ?_, ?_, ?_⟩
  · intro same
    exact colon (same ▸ rfl)
  · intro same
    exact sign (same ▸ rfl)
  · intro same
    exact slash (same ▸ rfl)

theorem hexDigit_plain {char : Char} (digit : Text.isAsciiHexdigit char = true) :
    33 ≤ char.toNat ∧ char.toNat ≤ 126 ∧ char ≠ ':' ∧ char ≠ '@' ∧ char ≠ '/' := by
  have table : Text.hexDigits.all (fun c => decide (33 ≤ c.toNat ∧ c.toNat ≤ 126 ∧ c ≠ ':' ∧ c ≠ '@' ∧
      c ≠ '/')) = true := by decide
  have member : char ∈ Text.hexDigits := by simpa [Text.isAsciiHexdigit] using digit
  exact of_decide_eq_true (List.all_eq_true.mp table char member)

theorem badTag_false {tag : List Char} (good : badTag tag = false) :
    tag ≠ [] ∧ ∀ char ∈ tag, tagChar char = true := by
  simp only [badTag, Bool.or_eq_false_iff, decide_eq_false_iff_not, Bool.not_eq_false',
    List.all_eq_true] at good
  exact ⟨good.1.1.1.1, good.2⟩

theorem badDigest_false {digest : List Char} (good : badDigest digest = false) :
    ∃ hex, digest = "sha256".toList ++ ':' :: hex ∧ ∀ char ∈ hex, Text.isAsciiHexdigit char = true := by
  rw [badDigest] at good
  split at good
  · rename_i starts
    obtain ⟨hex, rfl⟩ := List.isPrefixOf_iff_prefix.mp starts
    simp only [List.drop_left, Bool.or_eq_false_iff, Bool.not_eq_false', List.all_eq_true] at good
    exact ⟨hex, rfl, good.2⟩
  · simp at good

/-! Reading back a name that is followed by a tag or a digest. -/

theorem explicitRegistry_some {name first rest : List Char}
    (written : explicitRegistry name = some (first, rest)) :
    Split.splitOnce '/' name = some (first, rest) ∧ name = first ++ '/' :: rest := by
  have cut := (Option.filter_eq_some_iff.mp written).1
  exact ⟨cut, (Split.splitOnce_some_iff.mp cut).1⟩

theorem splitRegistry_append (name : List Char) {suffix : List Char} (slashless : '/' ∉ suffix) :
    splitRegistry (name ++ suffix) = ((splitRegistry name).1, (splitRegistry name).2 ++ suffix) := by
  cases cut : Split.splitOnce '/' name with
  | none =>
      have absent : '/' ∉ name ++ suffix := by
        rw [List.mem_append, not_or]
        exact ⟨Split.splitOnce_none_iff.mp cut, slashless⟩
      simp [splitRegistry, explicitRegistry, cut, Split.splitOnce_none_iff.mpr absent]
  | some pair =>
      obtain ⟨first, rest⟩ := pair
      obtain ⟨whole, clear⟩ := Split.splitOnce_some_iff.mp cut
      have longer : Split.splitOnce '/' (name ++ suffix) = some (first, rest ++ suffix) := by
        rw [whole, List.append_assoc, List.cons_append, Split.splitOnce_append clear]
      cases host : hostLike first with
      | true => simp [splitRegistry, explicitRegistry, cut, longer, Option.filter, host]
      | false => simp [splitRegistry, explicitRegistry, cut, longer, Option.filter, host]

theorem mem_splitRegistry {name : List Char} {char : Char} (member : char ∈ (splitRegistry name).2) :
    char ∈ name := by
  rw [splitRegistry] at member
  split at member
  · rename_i first rest written
    rw [(explicitRegistry_some written).2]
    exact List.mem_append_right _ (List.mem_cons_of_mem _ member)
  · exact member

theorem splitReference_tagged {name tag : List Char} (letters : ∀ char ∈ name, nameChar char = true)
    (tagged : ∀ char ∈ tag, tagChar char = true) :
    splitReference (name ++ ':' :: tag) =
      ⟨(splitRegistry name).1, (splitRegistry name).2, some tag, none⟩ := by
  have unsigned : '@' ∉ name ++ ':' :: tag := by
    rw [List.mem_append, List.mem_cons, not_or, not_or]
    exact ⟨fun member => (nameChar_plain (letters _ member)).2.2.2.2 rfl, by decide,
      fun member => (tagChar_plain (tagged _ member)).2.2.2.1 rfl⟩
  have slash : '/' ∉ tag := fun member => (tagChar_plain (tagged _ member)).2.2.2.2 rfl
  have colon : ':' ∉ tag := fun member => (tagChar_plain (tagged _ member)).2.2.1 rfl
  have slashless : '/' ∉ ':' :: tag := by
    rw [List.mem_cons, not_or]
    exact ⟨by decide, slash⟩
  rw [splitReference, Split.splitOnce_none_iff.mpr unsigned]
  simp only [splitName, splitRegistry_append name slashless, splitTag,
    Split.rsplitOnce_append colon]
  rw [if_neg (by simpa using slash)]

theorem splitReference_digested {name digest : List Char}
    (letters : ∀ char ∈ name, nameChar char = true) :
    splitReference (name ++ '@' :: digest) =
      ⟨(splitRegistry name).1, (splitRegistry name).2, none, some digest⟩ := by
  have unsigned : '@' ∉ name := fun member => (nameChar_plain (letters _ member)).2.2.2.2 rfl
  have untagged : ':' ∉ (splitRegistry name).2 :=
    fun member => (nameChar_plain (letters _ (mem_splitRegistry member))).2.2.2.1 rfl
  rw [splitReference, Split.splitOnce_append unsigned]
  simp only [splitName, splitTag, Split.rsplitOnce_none_iff.mpr untagged]

theorem parseImageRef_visible {input : List Char} (some_char : input ≠ [])
    (visible : ∀ char ∈ input, 33 ≤ char.toNat ∧ char.toNat ≤ 126)
    (schemeless : ¬ "://".toList <:+: input) :
    parseImageRef (String.ofList input) =
      if input.head? = some '-' then .error "invalid image reference"
      else checkParts (splitReference input) := by
  have solid : ∀ char ∈ input, Text.isWhitespace char = false :=
    fun char member => Text.not_isWhitespace (visible char member).1 (visible char member).2
  have single := Text.splitWhitespace_single some_char solid
  have dash : malformed input ↔ input.head? = some '-' := by
    rw [malformed, single, List.length_singleton]
    constructor
    · intro refused
      rcases refused with empty | spaces | scheme | first
      · exact absurd empty some_char
      · exact absurd rfl spaces
      · exact absurd scheme schemeless
      · exact first
    · intro first
      exact Or.inr (Or.inr (Or.inr first))
  rw [parseImageRef, String.toList_ofList, Text.trim_eq_self solid]
  simp only [dash]

theorem parseImageRef_tagged {name tag : List Char} (named : name ≠ [])
    (letters : ∀ char ∈ name, nameChar char = true) (good : badTag tag = false) :
    parseImageRef (String.ofList (name ++ ':' :: tag)) =
      if name.head? = some '-' then .error "invalid image reference"
      else checkParts ⟨(splitRegistry name).1, (splitRegistry name).2, some tag, none⟩ := by
  obtain ⟨_, tagged⟩ := badTag_false good
  have visible : ∀ char ∈ name ++ ':' :: tag, 33 ≤ char.toNat ∧ char.toNat ≤ 126 := by
    intro char member
    rw [List.mem_append, List.mem_cons] at member
    rcases member with inside | rfl | inside
    · have plain := nameChar_plain (letters char inside)
      exact ⟨plain.1, plain.2.1⟩
    · decide
    · have plain := tagChar_plain (tagged char inside)
      exact ⟨plain.1, plain.2.1⟩
  have schemeless : ¬ "://".toList <:+: name ++ ':' :: tag :=
    Split.not_infix_of_mark (fun member => (nameChar_plain (letters _ member)).2.2.2.1 rfl)
      (fun member => (tagChar_plain (tagged _ member)).2.2.2.2 rfl)
  rw [parseImageRef_visible (by simp) visible schemeless, splitReference_tagged letters tagged,
    List.head?_append_of_ne_nil _ named]

theorem parseImageRef_digested {name digest : List Char} (named : name ≠ [])
    (letters : ∀ char ∈ name, nameChar char = true) (good : badDigest digest = false) :
    parseImageRef (String.ofList (name ++ '@' :: digest)) =
      if name.head? = some '-' then .error "invalid image reference"
      else checkParts ⟨(splitRegistry name).1, (splitRegistry name).2, none, some digest⟩ := by
  obtain ⟨hex, spelled, digits⟩ := badDigest_false good
  have visible : ∀ char ∈ name ++ '@' :: digest, 33 ≤ char.toNat ∧ char.toNat ≤ 126 := by
    intro char member
    rw [spelled, List.mem_append, List.mem_cons, List.mem_append, List.mem_cons] at member
    rcases member with inside | rfl | inside | rfl | inside
    · have plain := nameChar_plain (letters char inside)
      exact ⟨plain.1, plain.2.1⟩
    · decide
    · have table : "sha256".toList.all (fun c => decide (33 ≤ c.toNat ∧ c.toNat ≤ 126)) = true := by
        decide
      exact of_decide_eq_true (List.all_eq_true.mp table char inside)
    · decide
    · have plain := hexDigit_plain (digits char inside)
      exact ⟨plain.1, plain.2.1⟩
  have colonless : ':' ∉ name ++ '@' :: "sha256".toList := by
    rw [List.mem_append, not_or]
    exact ⟨fun member => (nameChar_plain (letters _ member)).2.2.2.1 rfl, by decide⟩
  have schemeless : ¬ "://".toList <:+: name ++ '@' :: digest := by
    have shape : name ++ '@' :: digest = (name ++ '@' :: "sha256".toList) ++ ':' :: hex := by
      rw [spelled, List.append_assoc, List.cons_append]
    rw [shape]
    exact Split.not_infix_of_mark colonless (fun member => (hexDigit_plain (digits _ member)).2.2.2.2 rfl)
  rw [parseImageRef_visible (by simp) visible schemeless, splitReference_digested letters,
    List.head?_append_of_ne_nil _ named]

/-! The display name of a plan, read back. -/

def shown (parts : Parts) : Option (List Char) × Option (List Char) :=
  if parts.tag.isNone ∧ parts.digest.isSome then (none, parts.digest)
  else (some (parts.tag.getD latest), none)

def restated (parts : Parts) : Parts :=
  let located := splitRegistry (canonicalName parts)
  ⟨located.1, located.2, (shown parts).1, (shown parts).2⟩

theorem badPath_nonempty {path : List Char} (good : badPath path = false) : path ≠ [] := by
  intro empty
  rw [empty] at good
  exact absurd good (by decide)

theorem Sound.canonicalName_letters {parts : Parts} (sound : Sound parts) :
    canonicalName parts ≠ [] ∧ ∀ char ∈ canonicalName parts, nameChar char = true := by
  rw [canonicalName]
  split
  · exact ⟨badPath_nonempty sound.path, sound.letters⟩
  · rename_i other
    have registry := sound.registry.resolve_left other
    refine ⟨by simp, ?_⟩
    intro char member
    rw [registry, List.mem_append, List.mem_cons] at member
    rcases member with inside | rfl | inside
    · have table : ghcrIo.all nameChar = true := by decide
      exact List.all_eq_true.mp table char inside
    · decide
    · exact sound.letters char inside

theorem displayName_tagged {parts : Parts} {tag : List Char}
    (shows : shown parts = (some tag, none)) :
    displayName (normalize parts) = String.ofList (canonicalName parts ++ ':' :: tag) := by
  apply String.toList_inj.mp
  rw [shown] at shows
  split at shows
  · cases shows
  · rename_i visible
    cases shows
    cases written : parts.tag with
    | some tag => simp [displayName, pullTag, normalize, written]
    | none =>
        have digest : parts.digest = none := by simpa [written] using visible
        have default : latest = "latest".toList := by unfold latest; rfl
        simp [displayName, pullTag, normalize, written, digest, default]

theorem displayName_digested {parts : Parts} {digest : List Char}
    (shows : shown parts = (none, some digest)) :
    displayName (normalize parts) = String.ofList (canonicalName parts ++ '@' :: digest) := by
  apply String.toList_inj.mp
  rw [shown] at shows
  split at shows
  · rename_i hidden
    obtain ⟨untagged, _⟩ := hidden
    rw [Option.isNone_iff_eq_none] at untagged
    have written : parts.digest = some digest := (Prod.mk.injEq _ _ _ _ ▸ shows).2
    simp [displayName, pullTag, normalize, untagged, written]
  · cases shows

theorem latest_good : badTag latest = false := by decide

theorem shown_cases {parts : Parts} (sound : Sound parts) :
    (∃ tag, shown parts = (some tag, none) ∧ badTag tag = false) ∨
      ∃ digest, shown parts = (none, some digest) ∧ badDigest digest = false := by
  rw [shown]
  split
  · rename_i hidden
    obtain ⟨digest, written⟩ := Option.isSome_iff_exists.mp hidden.2
    exact Or.inr ⟨digest, by rw [written], sound.digest digest written⟩
  · refine Or.inl ⟨_, rfl, ?_⟩
    cases written : parts.tag with
    | none => exact latest_good
    | some tag => exact sound.tag tag written

theorem parseImageRef_displayName {parts : Parts} (sound : Sound parts) :
    parseImageRef (displayName (normalize parts)) =
      if (canonicalName parts).head? = some '-' then .error "invalid image reference"
      else checkParts (restated parts) := by
  obtain ⟨named, letters⟩ := sound.canonicalName_letters
  rcases shown_cases sound with ⟨tag, shows, good⟩ | ⟨digest, shows, good⟩
  · rw [displayName_tagged shows, parseImageRef_tagged named letters good, restated, shows]
  · rw [displayName_digested shows, parseImageRef_digested named letters good, restated, shows]

theorem pullSpec_shown {parts : Parts} (single : ¬ (parts.tag.isSome ∧ parts.digest.isSome))
    (gatewayHost : String) :
    pullSpec (normalize { parts with tag := (shown parts).1, digest := (shown parts).2 }) gatewayHost =
      pullSpec (normalize parts) gatewayHost := by
  obtain ⟨registry, path, tag, digest⟩ := parts
  cases tag with
  | none =>
      cases digest with
      | none => rfl
      | some digest => rfl
  | some tag =>
      cases digest with
      | none => rfl
      | some digest => exact absurd ⟨rfl, rfl⟩ single

/-- References that their display name restates: not both a tag and a digest, and no docker.io path
that starts with a dash or with a component that would be read as a registry other than ghcr.io. -/
def Restatable (parts : Parts) : Prop :=
  ¬ (parts.tag.isSome ∧ parts.digest.isSome) ∧
    (parts.registry = ghcrIo ∨ (parts.path.head? ≠ some '-' ∧
      ∀ first rest, explicitRegistry parts.path = some (first, rest) → first = ghcrIo))

theorem map_toLower_eq_self {name : List Char} (letters : ∀ char ∈ name, nameChar char = true) :
    name.map Char.toLower = name := by
  have same : ∀ char ∈ name, char.toLower = id char :=
    fun char member => Text.toLower_eq_self (nameChar_plain (letters char member)).2.2.1
  rw [List.map_congr_left same, List.map_id]

theorem badPath_tail {first rest : List Char} (good : badPath (first ++ '/' :: rest) = false) :
    badPath rest = false := by
  simp only [badPath, List.splitOn_append_cons_self, List.any_append, Bool.or_eq_false_iff,
    decide_eq_false_iff_not] at good ⊢
  refine ⟨?_, good.2.2⟩
  intro empty
  rw [empty] at good
  exact absurd good.2.2 (by decide)

theorem splitRegistry_explicit {name first rest : List Char}
    (letters : ∀ char ∈ name, nameChar char = true)
    (written : explicitRegistry name = some (first, rest)) : splitRegistry name = (first, rest) := by
  have whole := (explicitRegistry_some written).2
  have lower : first.map Char.toLower = first := by
    apply map_toLower_eq_self
    intro char member
    exact letters char (whole ▸ List.mem_append_left _ member)
  simp only [splitRegistry, written, lower]

theorem explicitRegistry_ghcr (path : List Char) :
    explicitRegistry (ghcrIo ++ '/' :: path) = some (ghcrIo, path) := by
  rw [explicitRegistry, Split.splitOnce_append (by decide)]
  rfl

theorem pullRepo_docker {parts : Parts} (registry : parts.registry = dockerIo) (gatewayHost : String) :
    pullRepo (normalize parts) gatewayHost = gatewayHost ++ "/" ++ String.ofList (pullPath parts) := by
  have named : (normalize parts).registry = String.ofList dockerIo := congrArg String.ofList registry
  have other : (normalize parts).registry ≠ "ghcr.io" := by
    rw [named]
    decide
  exact if_neg other

theorem pullRepo_ghcr {parts : Parts} (registry : parts.registry = ghcrIo) (gatewayHost : String) :
    pullRepo (normalize parts) gatewayHost =
      gatewayHost ++ "/" ++ String.ofList (ghcrIo ++ '/' :: parts.path) := by
  have named : (normalize parts).registry = "ghcr.io" := congrArg String.ofList registry
  have path : pullPath parts = parts.path := by
    rw [pullPath, if_neg]
    rw [registry]
    exact fun both => absurd both.1 (by decide)
  have lead : "/ghcr.io/".toList = '/' :: (ghcrIo ++ ['/']) := by decide
  calc pullRepo (normalize parts) gatewayHost
    _ = gatewayHost ++ "/ghcr.io/" ++ String.ofList (pullPath parts) := if_pos named
    _ = gatewayHost ++ "/" ++ String.ofList (ghcrIo ++ '/' :: parts.path) := by
      apply String.toList_inj.mp
      simp [path, lead]

theorem pullSpec_congr {parsed other : ParsedImageRef} {gatewayHost : String}
    (canonical : parsed.canonical = other.canonical) (tag : parsed.tag = other.tag)
    (digest : parsed.digest = other.digest)
    (repo : pullRepo parsed gatewayHost = pullRepo other gatewayHost) :
    pullSpec parsed gatewayHost = pullSpec other gatewayHost := by
  have tags : pullTag parsed = pullTag other := by rw [pullTag, pullTag, tag, digest]
  have display : displayName parsed = displayName other := by
    rw [displayName, displayName, canonical, tags, digest]
  rw [pullSpec, pullSpec, display, repo, tags, canonical, digest]

theorem pullSpec_nested (path : List Char) (tag digest : Option (List Char)) (gatewayHost : String) :
    pullSpec (normalize ⟨ghcrIo, path, tag, digest⟩) gatewayHost =
      pullSpec (normalize ⟨dockerIo, ghcrIo ++ '/' :: path, tag, digest⟩) gatewayHost := by
  apply pullSpec_congr
  · rfl
  · rfl
  · rfl
  · have whole : pullPath ⟨dockerIo, ghcrIo ++ '/' :: path, tag, digest⟩ = ghcrIo ++ '/' :: path := by
      rw [pullPath, if_neg]
      intro both
      exact both.2 (List.mem_append_right _ List.mem_cons_self)
    rw [pullRepo_ghcr rfl, pullRepo_docker rfl, whole]

theorem pullPath_doubled {path : List Char} {tag digest : Option (List Char)} :
    pullPath ⟨dockerIo, path, tag, digest⟩ ≠ dockerIo ++ '/' :: path := by
  intro same
  rw [pullPath] at same
  split at same
  · have sizes := congrArg List.length same
    simp only [List.length_append] at sizes
    have lead : "library/".toList.length = 8 := by decide
    have host : dockerIo.length = 9 := by decide
    simp only [lead, host, List.length_cons] at sizes
    omega
  · have sizes := congrArg List.length same
    simp only [List.length_append, List.length_cons] at sizes
    omega

theorem Sound.with_shown {parts : Parts} (sound : Sound parts) {registry path : List Char}
    (named : registry = dockerIo ∨ registry = ghcrIo) (good : badPath path = false)
    (letters : ∀ char ∈ path, nameChar char = true) :
    Sound ⟨registry, path, (shown parts).1, (shown parts).2⟩ := by
  rcases shown_cases sound with ⟨tag, shows, good_tag⟩ | ⟨digest, shows, good_digest⟩
  · refine ⟨named, good, letters, ?_, ?_⟩
    · intro written member
      rw [shows, Option.mem_some_iff] at member
      exact member ▸ good_tag
    · intro written member
      rw [shows] at member
      cases member
  · refine ⟨named, good, letters, ?_, ?_⟩
    · intro written member
      rw [shows] at member
      cases member
    · intro written member
      rw [shows, Option.mem_some_iff] at member
      exact member ▸ good_digest

theorem canonicalName_docker {parts : Parts} (registry : parts.registry = dockerIo) :
    canonicalName parts = parts.path := by
  rw [canonicalName, if_pos registry]

theorem canonicalName_ghcr {parts : Parts} (registry : parts.registry = ghcrIo) :
    canonicalName parts = ghcrIo ++ '/' :: parts.path := by
  rw [canonicalName, registry, if_neg (by decide)]

theorem restatable_of_plan {parts : Parts} (sound : Sound parts) {gatewayHost : String}
    (again : planPull (displayName (normalize parts)) gatewayHost =
      .ok (pullSpec (normalize parts) gatewayHost)) : Restatable parts := by
  obtain ⟨parsed, found, same⟩ := planPull_ok again
  rw [parseImageRef_displayName sound] at found
  split at found
  · cases found
  · rename_i undashed
    obtain ⟨reread, rfl⟩ := checkParts_ok_iff.mp found
    constructor
    · intro both
      -- the display name shows the tag and loses the digest
      have hidden : (shown parts).2 = none := by
        rw [shown, if_neg]
        intro untagged
        simp [Option.isNone_iff_eq_none.mp untagged.1] at both
      have digests : parts.digest.map String.ofList = (shown parts).2.map String.ofList :=
        congrArg PullSpec.digest same
      rw [hidden, Option.map_none, Option.map_eq_none_iff] at digests
      simp [digests] at both
    · rcases sound.registry with docker | ghcr
      · right
        rw [canonicalName_docker docker] at undashed
        refine ⟨undashed, ?_⟩
        intro first rest written
        have located := splitRegistry_explicit sound.letters written
        have registry : (restated parts).registry = first := by
          simp only [restated, canonicalName_docker docker, located]
        have path : (restated parts).path = rest := by
          simp only [restated, canonicalName_docker docker, located]
        rcases reread.registry with doubled | nested
        · exfalso
          have repos := congrArg PullSpec.pullRepo same
          simp only [pullSpec] at repos
          rw [pullRepo_docker docker, pullRepo_docker doubled, String.append_right_inj,
            String.ofList_inj] at repos
          have whole : pullPath parts = dockerIo ++ '/' :: rest := by
            rw [pullPath, if_neg, (explicitRegistry_some written).2, ← registry, doubled]
            intro both
            exact both.2 ((explicitRegistry_some written).2 ▸
              List.mem_append_right _ List.mem_cons_self)
          have tail : restated parts = ⟨dockerIo, rest, (shown parts).1, (shown parts).2⟩ := by
            rw [← doubled, ← path]
            rfl
          rw [whole, tail] at repos
          exact pullPath_doubled repos.symm
        · rw [← registry, nested]
      · exact Or.inl ghcr

theorem planPull_of_restated {parts : Parts} (sound : Sound parts) {gatewayHost : String}
    (undashed : (canonicalName parts).head? ≠ some '-') (reread : Sound (restated parts))
    (same : pullSpec (normalize (restated parts)) gatewayHost =
      pullSpec (normalize parts) gatewayHost) :
    planPull (displayName (normalize parts)) gatewayHost =
      .ok (pullSpec (normalize parts) gatewayHost) := by
  have parsed : parseImageRef (displayName (normalize parts)) = .ok (normalize (restated parts)) := by
    rw [parseImageRef_displayName sound, if_neg undashed]
    exact checkParts_ok_iff.mpr ⟨reread, rfl⟩
  rw [planPull, parsed]
  exact congrArg Except.ok same

theorem plan_of_restatable {parts : Parts} (sound : Sound parts) (restatable : Restatable parts)
    (gatewayHost : String) :
    planPull (displayName (normalize parts)) gatewayHost =
      .ok (pullSpec (normalize parts) gatewayHost) := by
  obtain ⟨single, readable⟩ := restatable
  have settled := pullSpec_shown single gatewayHost
  have kept := sound.with_shown sound.registry sound.path sound.letters
  rcases sound.registry with docker | ghcr
  · have distinct : parts.registry ≠ ghcrIo := by
      rw [docker]
      decide
    obtain ⟨undashed, hosts⟩ := readable.resolve_left distinct
    rw [← canonicalName_docker docker] at undashed
    cases written : explicitRegistry parts.path with
    | none =>
        have reread : restated parts =
            { parts with tag := (shown parts).1, digest := (shown parts).2 } := by
          simp only [restated, canonicalName_docker docker, splitRegistry, written, ← docker]
        rw [← reread] at settled kept
        exact planPull_of_restated sound undashed kept settled
    | some cut =>
        obtain ⟨first, rest⟩ := cut
        have host := hosts first rest written
        subst host
        have whole := (explicitRegistry_some written).2
        have reread : restated parts = ⟨ghcrIo, rest, (shown parts).1, (shown parts).2⟩ := by
          simp only [restated, canonicalName_docker docker, splitRegistry_explicit sound.letters written]
        have good := sound.with_shown (Or.inr rfl) (badPath_tail (whole ▸ sound.path))
          (fun char member => sound.letters char
            (whole ▸ List.mem_append_right _ (List.mem_cons_of_mem _ member)))
        have nested := pullSpec_nested rest (shown parts).1 (shown parts).2 gatewayHost
        rw [← reread, ← whole, ← docker] at nested
        rw [← reread] at good
        exact planPull_of_restated sound undashed good (nested.trans settled)
  · have undashed : (canonicalName parts).head? ≠ some '-' := by
      rw [canonicalName_ghcr ghcr, List.head?_append_of_ne_nil _ (by decide)]
      decide
    have located : splitRegistry (ghcrIo ++ '/' :: parts.path) = (ghcrIo, parts.path) := by
      rw [splitRegistry, explicitRegistry_ghcr]
      rfl
    have reread : restated parts =
        { parts with tag := (shown parts).1, digest := (shown parts).2 } := by
      simp only [restated, canonicalName_ghcr ghcr, located]
      rw [ghcr]
    rw [← reread] at settled kept
    exact planPull_of_restated sound undashed kept settled

theorem planPull_display_iff {image gatewayHost : String} {plan : PullSpec}
    (planned : planPull image gatewayHost = .ok plan) :
    planPull plan.image gatewayHost = .ok plan ↔
      Restatable (splitReference (Text.trim image.toList)) := by
  obtain ⟨parsed, found, rfl⟩ := planPull_ok planned
  obtain ⟨sound, rfl⟩ := parseImageRef_ok found
  exact ⟨restatable_of_plan sound, fun restatable => plan_of_restatable sound restatable gatewayHost⟩

/-- The display name denotes the plan exactly for the restatable references, and two of them with
one display name have one plan. -/
theorem display_name_denotes_plan_iff (image gatewayHost : String) (plan : PullSpec)
    (accepted : planPull image gatewayHost = .ok plan) :
    (planPull plan.image gatewayHost = .ok plan ↔
      Restatable (splitReference (Text.trim image.toList))) ∧
    ∀ (other : String) (planned : PullSpec), planPull other gatewayHost = .ok planned →
      Restatable (splitReference (Text.trim image.toList)) →
      Restatable (splitReference (Text.trim other.toList)) → plan.image = planned.image →
      plan = planned := by
  refine ⟨planPull_display_iff accepted, ?_⟩
  intro other planned second readable restatable same
  have one := (planPull_display_iff accepted).mpr readable
  have two := (planPull_display_iff second).mpr restatable
  rw [same, two] at one
  exact (Except.ok.inj one).symm

theorem display_name_denotes_plan_nginx :
    planPull "nginx:latest" "h" =
      .ok ⟨"nginx:latest", "h/library/nginx", some "latest", none, some "nginx", some "latest"⟩ :=
  (display_name_denotes_plan_iff " nginx" "h" ⟨"nginx:latest", "h/library/nginx", some "latest", none,
    some "nginx", some "latest"⟩ (by decide +kernel)).1.mpr
    ⟨by decide +kernel, Or.inr ⟨by decide +kernel, by
      intro first rest written
      have absent : explicitRegistry (splitReference (Text.trim " nginx".toList)).path = none := by
        decide +kernel
      rw [absent] at written
      cases written⟩⟩

/-- A tag with a digest: the display name drops the digest, and the tag alone has the same name. -/
theorem tagged_digest_loses_digest :
    ∃ plan planned, planPull ("nginx:1@sha256:" ++ String.ofList (List.replicate 64 'a')) "h" =
        .ok plan ∧
      planPull plan.image "h" = .ok planned ∧ planPull "nginx:1" "h" = .ok planned ∧
      plan.image = planned.image ∧ plan ≠ planned :=
  ⟨⟨"nginx:1", "h/library/nginx", some "1", some ("sha256:" ++ String.ofList (List.replicate 64 'a')),
      none, none⟩,
    ⟨"nginx:1", "h/library/nginx", some "1", none, some "nginx", some "1"⟩,
    by decide +kernel, by decide +kernel, by decide +kernel, by decide +kernel, by decide +kernel⟩

end WebProxy.ImageRef
