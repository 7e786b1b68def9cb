import WebProxy.ImageRef

/-! The references `parse_image_ref` accepts, as a grammar of their own: what is written between the
separators, and when it is well formed. -/

namespace WebProxy.ImageRef

structure Reference where
  registry : Option (List Char)
  path : List Char
  tag : Option (List Char)
  hex : Option (List Char)
  deriving DecidableEq, Repr

def Reference.tagged (reference : Reference) : List Char :=
  match reference.tag with
  | none => reference.path
  | some tag => reference.path ++ ':' :: tag

def Reference.name (reference : Reference) : List Char :=
  match reference.registry with
  | none => reference.tagged
  | some registry => registry ++ '/' :: reference.tagged

def Reference.text (reference : Reference) : List Char :=
  match reference.hex with
  | none => reference.name
  | some hex => reference.name ++ '@' :: ("sha256:".toList ++ hex)

def NamesRegistry (name : List Char) : Prop :=
  ∃ first rest, name = first ++ '/' :: rest ∧ '/' ∉ first ∧
    ('.' ∈ first ∨ ':' ∈ first ∨ first = "localhost".toList)

def componentChar (char : Char) : Bool :=
  char.isLower || char.isDigit || "._-".toList.contains char

def PathFormed (path : List Char) : Prop :=
  ∃ components, components ≠ [] ∧ path = ['/'].intercalate components ∧
    ∀ component ∈ components, component ≠ [] ∧ component ≠ ".".toList ∧ component ≠ "..".toList ∧
      ∀ char ∈ component, componentChar char = true

structure TagFormed (tag : List Char) : Prop where
  size : 1 ≤ tag.length ∧ tag.length ≤ 128
  letters : ∀ char ∈ tag, tagChar char = true
  start : tag.head? ≠ some '.' ∧ tag.head? ≠ some '-'

structure Formed (reference : Reference) : Prop where
  solid : ∀ char ∈ reference.text, Text.isWhitespace char = false
  schemeless : ¬ "://".toList <:+: reference.text
  dashless : reference.text.head? ≠ some '-'
  present : reference.registry.isSome = true ↔ NamesRegistry reference.name
  registry : ∀ registry ∈ reference.registry,
    registry.map Char.toLower = dockerIo ∨ registry.map Char.toLower = ghcrIo
  path : PathFormed reference.path
  tag : ∀ tag ∈ reference.tag, TagFormed tag
  hex : ∀ hex ∈ reference.hex, hex.length = 64 ∧ ∀ char ∈ hex, Text.isAsciiHexdigit char = true

def Reference.parts (reference : Reference) : Parts :=
  ⟨(reference.registry.map (List.map Char.toLower)).getD dockerIo, reference.path, reference.tag,
    reference.hex.map ("sha256:".toList ++ ·)⟩

theorem componentChar_iff {char : Char} :
    componentChar char = true ↔ nameChar char = true ∧ char ≠ '/' := by
  have marks : "._-/".toList.contains char = true ↔
      "._-".toList.contains char = true ∨ char = '/' := by
    simp [or_assoc]
  simp only [componentChar, nameChar, Bool.or_eq_true, marks]
  constructor
  · intro among
    refine ⟨by tauto, ?_⟩
    rintro rfl
    exact absurd among (by decide)
  · tauto

theorem pathFormed_iff {path : List Char} :
    PathFormed path ↔ badPath path = false ∧ ∀ char ∈ path, nameChar char = true := by
  constructor
  · rintro ⟨components, some_part, rfl, each⟩
    have clear : ∀ component ∈ components, '/' ∉ component := by
      intro component member slash
      exact (componentChar_iff.mp ((each component member).2.2.2 '/' slash)).2 rfl
    have pieces : (['/'].intercalate components).splitOn '/' = components :=
      List.splitOn_intercalate '/' clear some_part
    constructor
    · have some_char : ['/'].intercalate components ≠ [] := by
        intro empty
        rw [empty, List.splitOn_nil] at pieces
        exact (each [] (pieces ▸ List.mem_singleton_self [])).1 rfl
      simp only [badPath, pieces, some_char, decide_false, Bool.false_or, List.any_eq_false,
        Bool.or_eq_true, decide_eq_true_eq, not_or]
      intro component member
      obtain ⟨filled, dot, dots, _⟩ := each component member
      exact ⟨⟨filled, dot⟩, dots⟩
    · intro char member
      have cut : char = '/' ∨ ∃ piece ∈ (['/'].intercalate components).splitOn '/', char ∈ piece :=
        Split.mem_pieces member
      rw [pieces] at cut
      rcases cut with rfl | ⟨component, among, inside⟩
      · decide
      · exact (componentChar_iff.mp ((each component among).2.2.2 char inside)).1
  · rintro ⟨good, letters⟩
    refine ⟨path.splitOn '/', List.splitOn_ne_nil _ _, (List.intercalate_splitOn '/').symm, ?_⟩
    intro component member
    simp only [badPath, Bool.or_eq_false_iff, List.any_eq_false, Bool.or_eq_true, not_or,
      decide_eq_true_eq] at good
    obtain ⟨⟨some_char, dot⟩, dots⟩ := good.2 component member
    obtain ⟨clear, part⟩ := Split.mem_splitOn member
    refine ⟨some_char, dot, dots, ?_⟩
    intro char inside
    apply componentChar_iff.mpr
    refine ⟨letters char (part.subset inside), ?_⟩
    rintro rfl
    exact clear inside

theorem tagFormed_iff {tag : List Char} : TagFormed tag ↔ badTag tag = false := by
  simp only [badTag, Bool.or_eq_false_iff, decide_eq_false_iff_not, Bool.not_eq_false',
    List.all_eq_true, not_lt]
  constructor
  · intro formed
    refine ⟨⟨⟨⟨?_, formed.size.2⟩, formed.start.1⟩, formed.start.2⟩, formed.letters⟩
    exact List.ne_nil_of_length_pos formed.size.1
  · rintro ⟨⟨⟨⟨some_char, short⟩, dot⟩, dash⟩, letters⟩
    exact ⟨⟨List.length_pos_of_ne_nil some_char, short⟩, letters, dot, dash⟩

theorem badDigest_false_iff {digest : List Char} : badDigest digest = false ↔
    ∃ hex, digest = "sha256:".toList ++ hex ∧ hex.length = 64 ∧
      ∀ char ∈ hex, Text.isAsciiHexdigit char = true := by
  constructor
  · intro good
    rw [badDigest] at good
    split at good
    · rename_i starts
      obtain ⟨hex, rfl⟩ := List.isPrefixOf_iff_prefix.mp starts
      simp only [List.drop_left, Bool.or_eq_false_iff, Bool.not_eq_false', List.all_eq_true,
        decide_eq_false_iff_not, not_not] at good
      exact ⟨hex, rfl, good.1, good.2⟩
    · simp at good
  · rintro ⟨hex, rfl, size, digits⟩
    have starts : "sha256:".toList.isPrefixOf ("sha256:".toList ++ hex) = true :=
      List.isPrefixOf_iff_prefix.mpr (List.prefix_append _ _)
    rw [badDigest, if_pos starts, List.drop_left]
    simp only [size, Bool.or_eq_false_iff, Bool.not_eq_false', List.all_eq_true]
    exact ⟨by decide, digits⟩

section Reading

variable {reference : Reference}

theorem registry_clear {registry : List Char} {char : Char}
    (routed : registry.map Char.toLower = dockerIo ∨ registry.map Char.toLower = ghcrIo)
    (mark : char = '/' ∨ char = '@') : char ∉ registry := by
  intro member
  have lowered : char.toLower ∈ registry.map Char.toLower := List.mem_map.mpr ⟨char, member, rfl⟩
  rcases routed with docker | ghcr
  · rw [docker] at lowered
    rcases mark with rfl | rfl <;> exact absurd lowered (by decide)
  · rw [ghcr] at lowered
    rcases mark with rfl | rfl <;> exact absurd lowered (by decide)

theorem Formed.tagged_unsigned (formed : Formed reference) : '@' ∉ reference.tagged := by
  have letters := (pathFormed_iff.mp formed.path).2
  have path : '@' ∉ reference.path := fun member => (nameChar_plain (letters _ member)).2.2.2.2 rfl
  rw [Reference.tagged]
  split
  · exact path
  · rename_i tag written
    have tagged : '@' ∉ tag :=
      fun member => (tagChar_plain ((formed.tag tag written).letters _ member)).2.2.2.1 rfl
    simp [path, tagged]

theorem Formed.name_unsigned (formed : Formed reference) : '@' ∉ reference.name := by
  have rest := formed.tagged_unsigned
  rw [Reference.name]
  split
  · exact rest
  · rename_i registry written
    have clear := registry_clear (formed.registry registry written) (Or.inr (rfl : '@' = '@'))
    simp [clear, rest]

theorem hostLike_iff {first : List Char} : hostLike first = true ↔
    '.' ∈ first ∨ ':' ∈ first ∨ first = "localhost".toList := by
  simp only [hostLike, Bool.or_eq_true, List.contains_eq_mem, decide_eq_true_eq, or_assoc]

theorem explicitRegistry_none_iff {name : List Char} :
    explicitRegistry name = none ↔ ¬ NamesRegistry name := by
  rw [explicitRegistry, Option.filter_eq_none_iff]
  constructor
  · rintro none ⟨first, rest, rfl, clear, host⟩
    exact none (first, rest) (Split.splitOnce_append clear rest) (hostLike_iff.mpr host)
  · rintro unnamed ⟨first, rest⟩ cut host
    obtain ⟨whole, clear⟩ := Split.splitOnce_some_iff.mp cut
    exact unnamed ⟨first, rest, whole, clear, hostLike_iff.mp host⟩

theorem Formed.explicitRegistry (formed : Formed reference) :
    explicitRegistry reference.name =
      reference.registry.map (fun registry => (registry, reference.tagged)) := by
  cases written : reference.registry with
  | none =>
      rw [Option.map_none, explicitRegistry_none_iff]
      intro named
      have some_registry := formed.present.mpr named
      rw [written] at some_registry
      cases some_registry
  | some registry =>
      have clear := registry_clear (formed.registry registry written) (Or.inl (rfl : '/' = '/'))
      have name : reference.name = registry ++ '/' :: reference.tagged := by
        rw [Reference.name, written]
      have cut : Split.splitOnce '/' reference.name = some (registry, reference.tagged) := by
        rw [name]
        exact Split.splitOnce_append clear _
      obtain ⟨first, rest, whole, plain, host⟩ := formed.present.mp (by rw [written]; rfl)
      have same := Split.splitOnce_append plain rest
      rw [← whole, cut] at same
      cases same
      rw [ImageRef.explicitRegistry, cut, Option.filter_some, hostLike_iff.mpr host]
      rfl

theorem Formed.splitTag (formed : Formed reference) :
    splitTag reference.tagged = (reference.path, reference.tag) := by
  have letters := (pathFormed_iff.mp formed.path).2
  have path : ':' ∉ reference.path := fun member => (nameChar_plain (letters _ member)).2.2.2.1 rfl
  rw [Reference.tagged]
  split
  · rename_i untagged
    rw [ImageRef.splitTag, Split.rsplitOnce_none_iff.mpr path, untagged]
  · rename_i tag written
    have colon : ':' ∉ tag :=
      fun member => (tagChar_plain ((formed.tag tag written).letters _ member)).2.2.1 rfl
    have slash : '/' ∉ tag :=
      fun member => (tagChar_plain ((formed.tag tag written).letters _ member)).2.2.2.2 rfl
    rw [ImageRef.splitTag, Split.rsplitOnce_append colon, written]
    simp [slash]

theorem Formed.splitReference (formed : Formed reference) :
    splitReference reference.text = reference.parts := by
  have name : ∀ digest, splitName reference.name digest =
      ⟨(reference.registry.map (List.map Char.toLower)).getD dockerIo, reference.path, reference.tag,
        digest⟩ := by
    intro digest
    have located : splitRegistry reference.name =
        ((reference.registry.map (List.map Char.toLower)).getD dockerIo, reference.tagged) := by
      rw [splitRegistry, formed.explicitRegistry]
      cases written : reference.registry with
      | none => simp [Reference.name, written]
      | some registry => rfl
    rw [splitName, located, formed.splitTag]
  rw [Reference.text, Reference.parts]
  split
  · rename_i unsigned
    rw [ImageRef.splitReference, Split.splitOnce_none_iff.mpr formed.name_unsigned, unsigned]
    exact name none
  · rename_i hex written
    rw [ImageRef.splitReference, Split.splitOnce_append formed.name_unsigned, written]
    exact name (some ("sha256:".toList ++ hex))

end Reading

def referenceOf (name : List Char) (hex : Option (List Char)) : Reference :=
  ⟨(explicitRegistry name).map (·.1), (splitTag (splitRegistry name).2).1,
    (splitTag (splitRegistry name).2).2, hex⟩

theorem referenceOf_name (name : List Char) (hex : Option (List Char)) :
    (referenceOf name hex).name = name := by
  have tagged : (referenceOf name hex).tagged = (splitRegistry name).2 := by
    simp only [Reference.tagged, referenceOf, splitTag]
    cases cut : Split.rsplitOnce ':' (splitRegistry name).2 with
    | none => rfl
    | some pair =>
        by_cases slash : pair.2.contains '/' = true
        · simp only [slash, if_true]
        · simp only [slash]
          exact (Split.rsplitOnce_some_iff.mp cut).1.symm
  rw [Reference.name, tagged]
  cases written : explicitRegistry name with
  | none => simp [referenceOf, splitRegistry, written]
  | some pair =>
      simp only [referenceOf, splitRegistry, written, Option.map_some]
      exact (explicitRegistry_some written).2.symm

theorem referenceOf_present (name : List Char) (hex : Option (List Char)) :
    (referenceOf name hex).registry.isSome = true ↔ NamesRegistry name := by
  have none := @explicitRegistry_none_iff name
  cases written : explicitRegistry name with
  | none => simpa [referenceOf, written] using none.mp written
  | some pair =>
      rw [written] at none
      simpa [referenceOf, written] using none

theorem referenceOf_parts (name : List Char) (hex : Option (List Char)) :
    (referenceOf name hex).parts = splitName name (hex.map ("sha256:".toList ++ ·)) := by
  have located : ((explicitRegistry name).map (·.1)).map (List.map Char.toLower) =
      (explicitRegistry name).map (fun pair => pair.1.map Char.toLower) := by
    rw [Option.map_map]
    rfl
  have registry : (((explicitRegistry name).map (·.1)).map (List.map Char.toLower)).getD dockerIo =
      (splitRegistry name).1 := by
    rw [located, splitRegistry]
    cases explicitRegistry name with
    | none => rfl
    | some pair => rfl
  simp only [Reference.parts, referenceOf, splitName, registry]

theorem text_ne_nil {reference : Reference} (filled : reference.path ≠ []) : reference.text ≠ [] := by
  have tagged : reference.tagged ≠ [] := by
    rw [Reference.tagged]
    split <;> simp [filled]
  have name : reference.name ≠ [] := by
    rw [Reference.name]
    split <;> simp [tagged]
  rw [Reference.text]
  split <;> simp [name]

theorem sound_of_formed {reference : Reference} (formed : Formed reference) : Sound reference.parts := by
  obtain ⟨path, letters⟩ := pathFormed_iff.mp formed.path
  refine ⟨?_, path, letters, fun tag written => tagFormed_iff.mp (formed.tag tag written), ?_⟩
  · cases written : reference.registry with
    | none => exact Or.inl (by simp [Reference.parts, written])
    | some registry => simpa [Reference.parts, written] using formed.registry registry written
  · intro digest member
    obtain ⟨hex, written, rfl⟩ := Option.map_eq_some_iff.mp member
    obtain ⟨size, digits⟩ := formed.hex hex written
    exact badDigest_false_iff.mpr ⟨hex, rfl, size, digits⟩

theorem not_malformed_of_formed {reference : Reference} (formed : Formed reference) :
    ¬ malformed reference.text := by
  have some_char := text_ne_nil (badPath_nonempty (pathFormed_iff.mp formed.path).1)
  rintro (empty | words | scheme | dash)
  · exact some_char empty
  · rw [Text.splitWhitespace_single some_char formed.solid] at words
    exact words rfl
  · exact formed.schemeless scheme
  · exact formed.dashless dash

theorem formed_of_sound {reference : Reference} {image : String}
    (spelled : Text.trim image.toList = reference.text)
    (present : reference.registry.isSome = true ↔ NamesRegistry reference.name)
    (shaped : ¬ malformed reference.text) (sound : Sound reference.parts) : Formed reference := by
  simp only [malformed, not_or, not_not] at shaped
  obtain ⟨_, single, schemeless, dashless⟩ := shaped
  refine ⟨?_, schemeless, dashless, present, ?_, pathFormed_iff.mpr ⟨sound.path, sound.letters⟩,
    fun tag written => tagFormed_iff.mpr (sound.tag tag written), ?_⟩
  · rw [← spelled] at single ⊢
    exact Text.solid_of_splitWhitespace single
  · intro registry written
    have routed := sound.registry
    simpa [Reference.parts, Option.mem_def.mp written] using routed
  · intro hex written
    have good := sound.digest ("sha256:".toList ++ hex) (Option.mem_map.mpr ⟨hex, written, rfl⟩)
    obtain ⟨found, same, size, digits⟩ := badDigest_false_iff.mp good
    rw [List.append_cancel_left same]
    exact ⟨size, digits⟩

theorem exists_formed {image : String} {parsed : ParsedImageRef}
    (accepted : parseImageRef image = .ok parsed) :
    ∃ reference, Formed reference ∧ Text.trim image.toList = reference.text := by
  have shaped : ¬ malformed (Text.trim image.toList) := by
    intro refused
    rw [parseImageRef, if_pos refused] at accepted
    cases accepted
  obtain ⟨sound, _⟩ := parseImageRef_ok accepted
  cases cut : Split.splitOnce '@' (Text.trim image.toList) with
  | none =>
      have text : (referenceOf (Text.trim image.toList) none).text = Text.trim image.toList :=
        referenceOf_name _ none
      refine ⟨referenceOf (Text.trim image.toList) none, ?_, text.symm⟩
      apply formed_of_sound text.symm
      · rw [referenceOf_name]
        exact referenceOf_present _ none
      · rwa [text]
      · rw [splitReference, cut] at sound
        rw [referenceOf_parts]
        exact sound
  | some pair =>
      obtain ⟨name, digest⟩ := pair
      rw [splitReference, cut] at sound
      obtain ⟨hex, rfl, _⟩ := badDigest_false_iff.mp (sound.digest digest rfl)
      have text : (referenceOf name (some hex)).text = Text.trim image.toList := by
        rw [(Split.splitOnce_some_iff.mp cut).1]
        exact congrArg (· ++ '@' :: ("sha256:".toList ++ hex)) (referenceOf_name name (some hex))
      refine ⟨referenceOf name (some hex), ?_, text.symm⟩
      apply formed_of_sound text.symm
      · rw [referenceOf_name]
        exact referenceOf_present name (some hex)
      · rwa [text]
      · rw [referenceOf_parts]
        exact sound

theorem parseImageRef_formed {image : String} {reference : Reference} (formed : Formed reference)
    (spelled : Text.trim image.toList = reference.text) :
    parseImageRef image = .ok (normalize reference.parts) := by
  rw [parseImageRef, spelled, if_neg (not_malformed_of_formed formed), formed.splitReference]
  exact checkParts_ok_iff.mpr ⟨sound_of_formed formed, rfl⟩

def assemble (registry : Option String) (path : String) (tag digest : Option String) : String :=
  (registry.map (· ++ "/")).getD "" ++ path ++ (tag.map (":" ++ ·)).getD "" ++
    (digest.map ("@" ++ ·)).getD ""

/-- The fields are the parts of the reference, up to the letter case of the registry, the default
for one that is left out, and the prefix of official images. -/
structure Decomposes (reference : Reference) (parsed : ParsedImageRef) : Prop where
  registry : parsed.registry = match reference.registry with
    | some registry => String.ofList (registry.map Char.toLower)
    | none => "docker.io"
  path : parsed.path = String.ofList reference.path ∨
    parsed.registry = "docker.io" ∧ '/' ∉ reference.path ∧
      parsed.path = "library/" ++ String.ofList reference.path
  tag : parsed.tag = reference.tag.map String.ofList
  digest : parsed.digest = reference.hex.map (fun hex => "sha256:" ++ String.ofList hex)
  assembled : String.ofList reference.text = assemble (reference.registry.map String.ofList)
    (String.ofList reference.path) parsed.tag parsed.digest

theorem decomposes_normalize (reference : Reference) :
    Decomposes reference (normalize reference.parts) := by
  have digest : (normalize reference.parts).digest =
      reference.hex.map (fun hex => "sha256:" ++ String.ofList hex) := by
    cases written : reference.hex with
    | none => simp [normalize, Reference.parts, written]
    | some hex =>
        simp only [normalize, Reference.parts, written, Option.map_some, String.ofList_append,
          String.ofList_toList]
  refine ⟨?_, ?_, rfl, digest, ?_⟩
  · cases written : reference.registry with
    | none =>
        simp only [normalize, Reference.parts, written, Option.map_none, Option.getD_none]
        exact String.ofList_toList
    | some registry => simp only [normalize, Reference.parts, written, Option.map_some, Option.getD_some]
  · simp only [normalize, pullPath]
    split
    · rename_i official
      right
      refine ⟨?_, official.2, ?_⟩
      · rw [official.1]
        exact String.ofList_toList
      · rw [String.ofList_append, String.ofList_toList]
        rfl
    · exact Or.inl rfl
  · rw [digest]
    apply String.toList_inj.mp
    obtain ⟨registry, path, tag, hex⟩ := reference
    cases registry <;> cases tag <;> cases hex <;>
      simp [assemble, Reference.text, Reference.name, Reference.tagged, normalize, Reference.parts]

/-- `parse_image_ref` accepts exactly what the grammar spells, and returns its parts. -/
theorem image_reference_grammar (image : String) :
    ((∃ parsed, parseImageRef image = .ok parsed) ↔
        ∃ reference, Formed reference ∧ Text.trim image.toList = reference.text) ∧
      ∀ parsed reference, parseImageRef image = .ok parsed → Formed reference →
        Text.trim image.toList = reference.text → Decomposes reference parsed := by
  constructor
  · constructor
    · rintro ⟨parsed, accepted⟩
      exact exists_formed accepted
    · rintro ⟨reference, formed, spelled⟩
      exact ⟨_, parseImageRef_formed formed spelled⟩
  · intro parsed reference accepted formed spelled
    rw [parseImageRef_formed formed spelled] at accepted
    cases accepted
    exact decomposes_normalize reference

end WebProxy.ImageRef
