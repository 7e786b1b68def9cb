import WebProxy.Library.Split
import WebProxy.Library.Text

/-! Percent-encoding: bytes as the unreserved characters of a URI and triplets, and the parameters of a
query. -/

namespace Percent

open ByteFile (Bytes)

def isUnreserved (char : Char) : Bool :=
  char.isAlphanum || char = '-' || char = '.' || char = '_' || char = '~'

def spell (byte : UInt8) : List Char :=
  if isUnreserved (Char.ofNat byte.toNat) then [Char.ofNat byte.toNat]
  else '%' :: (Text.hexPair byte).map Char.toUpper

def encode (bytes : Bytes) : List Char := bytes.flatMap spell

/-- A percent sign takes the two digits behind it; any other character has to be a byte of its own. -/
def decode : List Char → Option Bytes
  | [] => some []
  | char :: rest =>
      if char = '%' then
        match rest with
        | high :: low :: behind =>
            if Text.isAsciiHexdigit high && Text.isAsciiHexdigit low then
              (decode behind).map (UInt8.ofNat (16 * Text.hexValue high + Text.hexValue low) :: ·)
            else none
        | _ => none
      else if char.toNat < 128 then (decode rest).map (UInt8.ofNat char.toNat :: ·)
      else none

def upperDigits : List Char := "0123456789ABCDEF".toList

inductive Spelled : List Char → Prop where
  | plain (char : Char) (unreserved : isUnreserved char = true) : Spelled [char]
  | triplet (high low : Char) (first : high ∈ upperDigits) (second : low ∈ upperDigits) :
      Spelled ['%', high, low]

def encodeText (text : String) : List Char := encode text.toUTF8.data.toList

def decodeText (chars : List Char) : Option String :=
  (decode chars).bind (fun bytes => String.fromUTF8? bytes.toByteArray)

def encodeParameter (parameter : String × String) : List Char :=
  encodeText parameter.1 ++ '=' :: encodeText parameter.2

def decodeParameter (piece : List Char) : Option (String × String) :=
  (Split.splitOnce '=' piece).bind (fun sides =>
    (decodeText sides.1).bind (fun name => (decodeText sides.2).map (fun value => (name, value))))

def parameters (query : List Char) : Option (List (String × String)) :=
  (query.splitOn '&').mapM decodeParameter

theorem byte_char (byte : UInt8) : (Char.ofNat byte.toNat).toNat = byte.toNat := by
  have small : byte.toNat < 256 := byte.toNat_lt
  have valid : byte.toNat.isValidChar := .inl (by omega)
  rw [Char.ofNat, dif_pos valid]
  rfl

theorem upper_digitChar {value : Nat} (small : value < 16) :
    (Nat.digitChar value).toUpper ∈ upperDigits ∧
      Text.isAsciiHexdigit (Nat.digitChar value).toUpper = true ∧
      Text.hexValue (Nat.digitChar value).toUpper = value := by
  have table : ∀ n < 16, (Nat.digitChar n).toUpper ∈ upperDigits ∧
      Text.isAsciiHexdigit (Nat.digitChar n).toUpper = true ∧
      Text.hexValue (Nat.digitChar n).toUpper = n := by decide
  exact table value small

theorem spelled_spell (byte : UInt8) : Spelled (spell byte) := by
  rw [spell]
  by_cases plain : isUnreserved (Char.ofNat byte.toNat) = true
  · rw [if_pos plain]
    exact .plain _ plain
  · have halves := Text.byte_halves byte
    rw [if_neg plain]
    exact .triplet _ _ (upper_digitChar halves.1).1 (upper_digitChar halves.2).1

theorem unreserved_low {char : Char} (unreserved : isUnreserved char = true) :
    char.toNat < 128 ∧ char ≠ '%' := by
  constructor
  · simp only [isUnreserved, Char.isAlphanum, Bool.or_eq_true, decide_eq_true_eq, Text.isAlpha_iff,
      Text.isUpper_iff, Text.isLower_iff, Text.isDigit_iff] at unreserved
    rcases unreserved with (((((letter | digit) | rfl) | rfl) | rfl) | rfl)
    · omega
    · omega
    all_goals decide
  · rintro rfl
    exact absurd unreserved (by decide)

theorem decode_spell (byte : UInt8) (rest : List Char) :
    decode (spell byte ++ rest) = (decode rest).map (byte :: ·) := by
  rw [spell]
  by_cases plain : isUnreserved (Char.ofNat byte.toNat) = true
  · have low := unreserved_low plain
    rw [if_pos plain, List.singleton_append, decode.eq_def]
    simp only [if_neg low.2, if_pos low.1]
    rw [byte_char, UInt8.ofNat_toNat]
  · have halves := Text.byte_halves byte
    have high := upper_digitChar halves.1
    have low := upper_digitChar halves.2
    have joined : 16 * (byte.toNat / 16) + byte.toNat % 16 = byte.toNat := Nat.div_add_mod _ _
    rw [if_neg plain]
    change decode ('%' :: (Nat.digitChar (byte.toNat / 16)).toUpper ::
      (Nat.digitChar (byte.toNat % 16)).toUpper :: rest) = _
    rw [decode, if_pos rfl]
    simp only [high.2.1, low.2.1, Bool.and_self, if_true, high.2.2, low.2.2, joined, UInt8.ofNat_toNat]

theorem decode_encode (bytes : Bytes) : decode (encode bytes) = some bytes := by
  induction bytes with
  | nil => rfl
  | cons byte rest ih =>
      rw [encode, List.flatMap_cons, decode_spell, ← encode, ih, Option.map_some]

theorem Spelled.not_mem {piece : List Char} (spelled : Spelled piece) {sign : Char}
    (reserved : isUnreserved sign = false) (other : sign ≠ '%') : sign ∉ piece := by
  intro member
  have table : upperDigits.all isUnreserved = true := by decide
  have digits : ∀ char ∈ upperDigits, isUnreserved char = true := List.all_eq_true.mp table
  cases spelled with
  | plain char unreserved =>
      rw [List.mem_singleton.mp member, unreserved] at reserved
      cases reserved
  | triplet high low first second =>
      simp only [List.mem_cons, List.not_mem_nil, or_false] at member
      rcases member with rfl | rfl | rfl
      · exact other rfl
      · rw [digits _ first] at reserved
        cases reserved
      · rw [digits _ second] at reserved
        cases reserved

theorem sign_not_mem_encode {sign : Char} (reserved : isUnreserved sign = false) (other : sign ≠ '%')
    (bytes : Bytes) : sign ∉ encode bytes := by
  intro member
  obtain ⟨byte, _, inside⟩ := List.mem_flatMap.mp member
  exact (spelled_spell byte).not_mem reserved other inside

theorem encode_spelled (bytes : Bytes) :
    ∃ pieces : List (List Char), encode bytes = pieces.flatten ∧ ∀ piece ∈ pieces, Spelled piece := by
  refine ⟨bytes.map spell, List.flatMap_def, ?_⟩
  intro piece member
  obtain ⟨byte, _, rfl⟩ := List.mem_map.mp member
  exact spelled_spell byte

theorem decodeText_encodeText (text : String) : decodeText (encodeText text) = some text := by
  have bytes : text.toUTF8.data.toList.toByteArray = text.toByteArray := by
    apply ByteArray.ext
    rw [List.data_toByteArray, Array.toArray_toList, String.toUTF8_eq_toByteArray]
  rw [decodeText, encodeText, decode_encode, Option.bind_some, bytes, String.fromUTF8?,
    dif_pos text.isValidUTF8]
  rfl

theorem decodeParameter_encodeParameter (parameter : String × String) :
    decodeParameter (encodeParameter parameter) = some parameter := by
  have absent : '=' ∉ encodeText parameter.1 := sign_not_mem_encode (by decide) (by decide) _
  rw [decodeParameter, encodeParameter, Split.splitOnce_append absent, Option.bind_some,
    decodeText_encodeText, Option.bind_some, decodeText_encodeText, Option.map_some]

theorem encodeParameter_no_ampersand (parameter : String × String) : '&' ∉ encodeParameter parameter := by
  rw [encodeParameter, List.mem_append, List.mem_cons, not_or, not_or]
  have absent := fun bytes => @sign_not_mem_encode '&' (by decide) (by decide) bytes
  exact ⟨absent _, by decide, absent _⟩

theorem parameters_intercalate {given : List (String × String)} (some_parameter : given ≠ []) :
    parameters (List.intercalate ['&'] (given.map encodeParameter)) = some given := by
  have apart : ∀ piece ∈ given.map encodeParameter, '&' ∉ piece := by
    intro piece member
    obtain ⟨parameter, _, rfl⟩ := List.mem_map.mp member
    exact encodeParameter_no_ampersand parameter
  rw [parameters, List.splitOn_intercalate '&' apart (by simpa using some_parameter)]
  clear some_parameter apart
  induction given with
  | nil => rfl
  | cons parameter rest ih =>
      rw [List.map_cons, List.mapM_cons, decodeParameter_encodeParameter, ih]
      rfl

end Percent
