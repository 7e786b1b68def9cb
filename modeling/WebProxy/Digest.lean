import WebProxy.Library.Text

/-! Digest spelling and the two verification paths: `sha256_hex`, `hex_encode`, and the
comparison each download path makes before it commits. -/

namespace WebProxy.Digest

open ByteFile (Bytes)

def sha256Hex (digest : String) : Option String :=
  match Text.stripPrefix digest "sha256:" with
  | none => none
  | some hex =>
      if hex.toList.length = 64 ∧ hex.toList.all Text.isAsciiHexdigit then
        some (Text.toAsciiLowercase hex)
      else none

def hexEncode (bytes : Bytes) : String := String.ofList (Text.hexChars bytes)

inductive Verdict where
  | commit
  | mismatch
  deriving DecidableEq, Repr

/-- The end of `chunks::download`: `expected` is the suffix of the digest as it was handed in. -/
def downloadVerdict (sha256 : Bytes → Bytes) (digest : String) (hashed : Bytes) : Verdict :=
  let actual := hexEncode (sha256 hashed)
  let expected := (Text.stripPrefix digest "sha256:").getD ""
  if actual = expected then .commit else .mismatch

/-- The end of `tee_blob_to_cache`: the comparison is with the cache key. -/
def teeVerdict (sha256 : Bytes → Bytes) (hex : String) (hashed : Bytes) : Verdict :=
  let actual := hexEncode (sha256 hashed)
  if actual = hex then .commit else .mismatch

def denoted (digest : String) : Bytes :=
  Text.hexDecode (digest.toList.drop "sha256:".toList.length)

theorem sha256Hex_some {digest hex : String} (accepted : sha256Hex digest = some hex) :
    ∃ suffix : String, Text.stripPrefix digest "sha256:" = some suffix ∧
      suffix.toList.length = 64 ∧ (∀ char ∈ suffix.toList, char ∈ Text.hexDigits) ∧
      hex = Text.toAsciiLowercase suffix := by
  unfold sha256Hex at accepted
  split at accepted
  · cases accepted
  · rename_i suffix stripped
    split at accepted
    · rename_i valid
      refine ⟨suffix, stripped, valid.1, ?_, (Option.some.inj accepted).symm⟩
      intro char member
      simpa [Text.isAsciiHexdigit] using List.all_eq_true.mp valid.2 char member
    · cases accepted

theorem denoted_eq {digest suffix : String}
    (stripped : Text.stripPrefix digest "sha256:" = some suffix) :
    denoted digest = Text.hexDecode suffix.toList := by
  rw [denoted, Text.stripPrefix_some stripped, List.drop_left]

theorem downloadVerdict_commit (sha256 : Bytes → Bytes) (digest : String) (hashed : Bytes) :
    downloadVerdict sha256 digest hashed = .commit ↔
      hexEncode (sha256 hashed) = (Text.stripPrefix digest "sha256:").getD "" := by
  simp [downloadVerdict]

theorem teeVerdict_commit (sha256 : Bytes → Bytes) (hex : String) (hashed : Bytes) :
    teeVerdict sha256 hex hashed = .commit ↔ hexEncode (sha256 hashed) = hex := by
  simp [teeVerdict]

theorem toAsciiLowercase_hexEncode (bytes : Bytes) :
    Text.toAsciiLowercase (hexEncode bytes) = hexEncode bytes := by
  apply String.toList_inj.mp
  rw [Text.toList_toAsciiLowercase, hexEncode, String.toList_ofList, Text.lower_hexChars]

theorem hexEncode_eq_key {digest hex : String} (accepted : sha256Hex digest = some hex)
    (value : Bytes) : hexEncode value = hex ↔ value = denoted digest := by
  obtain ⟨suffix, stripped, size, digits, rfl⟩ := sha256Hex_some accepted
  rw [denoted_eq stripped]
  have spelled := Text.hexChars_hexDecode 32 suffix.toList size digits
  constructor
  · intro same
    have chars := String.toList_inj.mpr same
    rw [hexEncode, String.toList_ofList, Text.toList_toAsciiLowercase, ← spelled] at chars
    rw [← Text.hexDecode_hexChars value, chars, Text.hexDecode_hexChars]
  · intro same
    rw [same]
    apply String.toList_inj.mp
    rw [hexEncode, String.toList_ofList, Text.toList_toAsciiLowercase, spelled]

theorem download_commit_key {sha256 : Bytes → Bytes} {digest hex : String} {hashed : Bytes}
    (accepted : sha256Hex digest = some hex)
    (committed : downloadVerdict sha256 digest hashed = .commit) :
    hexEncode (sha256 hashed) = hex := by
  obtain ⟨suffix, stripped, _, _, rfl⟩ := sha256Hex_some accepted
  rw [downloadVerdict_commit, stripped, Option.getD_some] at committed
  rw [← committed, toAsciiLowercase_hexEncode]

theorem lowercase_suffix {digest suffix : String}
    (stripped : Text.stripPrefix digest "sha256:" = some suffix) :
    Text.toAsciiLowercase digest = digest ↔ Text.toAsciiLowercase suffix = suffix := by
  have whole := Text.stripPrefix_some stripped
  have lead : "sha256:".toList.map Char.toLower = "sha256:".toList := by decide
  rw [← String.toList_inj, ← String.toList_inj,
    Text.toList_toAsciiLowercase, Text.toList_toAsciiLowercase, whole, List.map_append, lead]
  exact List.append_right_inj _

/-- The two paths agree with each other and with the digest's value exactly when the digest
is spelled without capitals or the content is not the blob it names. -/
theorem verification_paths_agree_iff (sha256 : Bytes → Bytes) (digest hex : String)
    (content : Bytes) (accepted : sha256Hex digest = some hex) :
    ((downloadVerdict sha256 digest content = .commit ↔ teeVerdict sha256 hex content = .commit) ∧
      (teeVerdict sha256 hex content = .commit ↔ sha256 content = denoted digest)) ↔
    (Text.toAsciiLowercase digest = digest ∨ sha256 content ≠ denoted digest) := by
  have tee : teeVerdict sha256 hex content = .commit ↔ sha256 content = denoted digest :=
    (teeVerdict_commit sha256 hex content).trans (hexEncode_eq_key accepted _)
  obtain ⟨suffix, stripped, _, _, key⟩ := sha256Hex_some accepted
  have raw : downloadVerdict sha256 digest content = .commit ↔
      hexEncode (sha256 content) = suffix := by
    rw [downloadVerdict_commit, stripped, Option.getD_some]
  constructor
  · intro both
    have agree := both.1
    by_cases named : sha256 content = denoted digest
    · -- the content is accepted, so its lower-case spelling is the suffix as given
      have spelled := raw.mp (agree.mpr (tee.mpr named))
      left
      rw [lowercase_suffix stripped, ← spelled, toAsciiLowercase_hexEncode]
    · exact Or.inr named
  · intro condition
    refine ⟨?_, tee⟩
    rcases condition with lower | other
    · rw [raw, teeVerdict_commit, key, (lowercase_suffix stripped).mp lower]
    · constructor
      · intro committed
        have named := download_commit_key accepted committed
        exact absurd ((hexEncode_eq_key accepted _).mp named) other
      · intro committed
        exact absurd (tee.mp committed) other

def sampleSha256 : Bytes → Bytes
  | [] => Text.hexDecode "e3b0c44298fc1c149afbf4c8996fb92427ae41e4649b934ca495991b7852b855".toList
  | [97] => Text.hexDecode "ca978112ca1bbdcafac231b39a23dc4da786eff8147c4e72b9807785afee48bb".toList
  | [97, 98] => Text.hexDecode "fb8e20fc2e4c3f248c60c39bd652f3c1347298bb977b8b4d5903b85055620603".toList
  | _ => []

def letterDigest : String := "sha256:ca978112ca1bbdcafac231b39a23dc4da786eff8147c4e72b9807785afee48bb"

def letterKey : String := "ca978112ca1bbdcafac231b39a23dc4da786eff8147c4e72b9807785afee48bb"

theorem verification_paths_agree_on_empty_blob :
    sha256Hex "sha256:e3b0c44298fc1c149afbf4c8996fb92427ae41e4649b934ca495991b7852b855" =
      some "e3b0c44298fc1c149afbf4c8996fb92427ae41e4649b934ca495991b7852b855" ∧
    (downloadVerdict sampleSha256
        "sha256:e3b0c44298fc1c149afbf4c8996fb92427ae41e4649b934ca495991b7852b855" [] = .commit ↔
      teeVerdict sampleSha256
        "e3b0c44298fc1c149afbf4c8996fb92427ae41e4649b934ca495991b7852b855" [] = .commit) :=
  ⟨by decide +kernel, ((verification_paths_agree_iff sampleSha256 _ _ [] (by decide +kernel)).mpr
    (Or.inl (by decide +kernel))).1⟩

/-- The digest of the empty blob in capitals: the single-source path commits the blob and the
chunked path rejects it. -/
theorem capital_digest_splits_paths :
    sha256Hex "sha256:E3B0C44298FC1C149AFBF4C8996FB92427AE41E4649B934CA495991B7852B855" =
      some "e3b0c44298fc1c149afbf4c8996fb92427ae41e4649b934ca495991b7852b855" ∧
    ¬ (downloadVerdict sampleSha256
        "sha256:E3B0C44298FC1C149AFBF4C8996FB92427AE41E4649B934CA495991B7852B855" [] = .commit ↔
      teeVerdict sampleSha256
        "e3b0c44298fc1c149afbf4c8996fb92427ae41e4649b934ca495991b7852b855" [] = .commit) := by
  decide +kernel

end WebProxy.Digest
