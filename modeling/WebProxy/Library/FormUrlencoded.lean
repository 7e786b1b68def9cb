import WebProxy.Library.Split
import WebProxy.Library.Text

/-! The format `application/x-www-form-urlencoded`: reading a query, and adding a pair to one. -/

namespace FormUrlencoded

open ByteFile (Bytes)

/-- The bytes that stand for themselves: letters, digits and the signs `*-._`. -/
def unchanged (byte : UInt8) : Bool :=
  (48 ≤ byte && byte ≤ 57) || (65 ≤ byte && byte ≤ 90) || (97 ≤ byte && byte ≤ 122) ||
    [42, 45, 46, 95].contains byte

def digit (value : Nat) : UInt8 := UInt8.ofNat (if value < 10 then 48 + value else 55 + value)

def digitValue (byte : UInt8) : Option Nat :=
  if 48 ≤ byte && byte ≤ 57 then some (byte.toNat - 48)
  else if 65 ≤ byte && byte ≤ 70 then some (byte.toNat - 55)
  else if 97 ≤ byte && byte ≤ 102 then some (byte.toNat - 87)
  else none

def spell (byte : UInt8) : Bytes :=
  if byte = 32 then [43]
  else if unchanged byte then [byte]
  else [37, digit (byte.toNat / 16), digit (byte.toNat % 16)]

def serialize (bytes : Bytes) : Bytes := bytes.flatMap spell

def appendPair (query : Bytes) (pair : Bytes × Bytes) : Bytes :=
  query ++ (if query = [] then [] else [38]) ++ serialize pair.1 ++ 61 :: serialize pair.2

def replacePlus (bytes : Bytes) : Bytes := bytes.map (fun byte => if byte = 43 then 32 else byte)

def percentDecode : Bytes → Bytes
  | [] => []
  | byte :: rest =>
      if byte = 37 then
        match rest with
        | high :: low :: behind =>
            match digitValue high, digitValue low with
            | some first, some second => UInt8.ofNat (16 * first + second) :: percentDecode behind
            | _, _ => byte :: percentDecode (high :: low :: behind)
        | [only] => [byte, only]
        | [] => [byte]
      else byte :: percentDecode rest

def decode (bytes : Bytes) : Bytes := percentDecode (replacePlus bytes)

def readPair (piece : Bytes) : Bytes × Bytes :=
  match Split.splitOnce 61 piece with
  | some (name, value) => (decode name, decode value)
  | none => (decode piece, [])

def parse (query : Bytes) : List (Bytes × Bytes) := ((query.splitOn 38).filter (· ≠ [])).map readPair

theorem digit_spelled {value : Nat} (small : value < 16) :
    digitValue (digit value) = some value ∧ digit value ≠ 43 ∧ digit value ≠ 38 ∧ digit value ≠ 61 := by
  have table : ∀ n < 16, digitValue (digit n) = some n ∧ digit n ≠ 43 ∧ digit n ≠ 38 ∧ digit n ≠ 61 := by
    decide
  exact table value small

theorem unchanged_plain {byte : UInt8} (plain : unchanged byte = true) :
    byte ≠ 43 ∧ byte ≠ 37 ∧ byte ≠ 38 ∧ byte ≠ 61 := by
  refine ⟨?_, ?_, ?_, ?_⟩
  all_goals
    rintro rfl
    exact absurd plain (by decide)

theorem separator_not_mem (bytes : Bytes) : (38 : UInt8) ∉ serialize bytes ∧ (61 : UInt8) ∉ serialize bytes := by
  have spelled : ∀ byte : UInt8, (38 : UInt8) ∉ spell byte ∧ (61 : UInt8) ∉ spell byte := by
    intro byte
    have high := digit_spelled (Text.byte_halves byte).1
    have low := digit_spelled (Text.byte_halves byte).2
    rw [spell]
    split
    · decide
    · split
      · rename_i plain
        have other := unchanged_plain plain
        simp [other.2.2.1.symm, other.2.2.2.symm]
      · simp [high.2.2.1.symm, high.2.2.2.symm, low.2.2.1.symm, low.2.2.2.symm]
  constructor
  · intro member
    obtain ⟨byte, _, inside⟩ := List.mem_flatMap.mp member
    exact (spelled byte).1 inside
  · intro member
    obtain ⟨byte, _, inside⟩ := List.mem_flatMap.mp member
    exact (spelled byte).2 inside

theorem serialize_ascii (bytes : Bytes) : ∀ byte ∈ serialize bytes, byte.toNat < 128 := by
  intro byte member
  obtain ⟨given, _, inside⟩ := List.mem_flatMap.mp member
  have table : ∀ n < 16, (digit n).toNat < 128 := by decide
  have halves := Text.byte_halves given
  rw [spell] at inside
  split at inside
  · rw [List.mem_singleton.mp inside]
    decide
  · split at inside
    · rename_i plain
      rw [List.mem_singleton.mp inside]
      simp only [unchanged, Bool.or_eq_true, Bool.and_eq_true, decide_eq_true_eq, UInt8.le_iff_toNat_le,
        List.contains_eq_mem, List.mem_cons, List.not_mem_nil, or_false] at plain
      rcases plain with ((digit | capital) | small) | rfl | rfl | rfl | rfl
      · exact digit.2.trans_lt (by decide)
      · exact capital.2.trans_lt (by decide)
      · exact small.2.trans_lt (by decide)
      all_goals decide
    · simp only [List.mem_cons, List.not_mem_nil, or_false] at inside
      rcases inside with rfl | rfl | rfl
      · decide
      · exact table _ halves.1
      · exact table _ halves.2

theorem percentDecode_plain {byte : UInt8} (plain : byte ≠ 37) (rest : Bytes) :
    percentDecode (byte :: rest) = byte :: percentDecode rest := by
  rw [percentDecode.eq_def]
  simp only [if_neg plain]

theorem percentDecode_spell (byte : UInt8) (rest : Bytes) :
    percentDecode (replacePlus (spell byte) ++ rest) = byte :: percentDecode rest := by
  rw [spell]
  split
  · rename_i space
    subst space
    exact percentDecode_plain (by decide) rest
  · split
    · rename_i plain
      have other := unchanged_plain plain
      rw [replacePlus, List.map_singleton, if_neg other.1, List.singleton_append]
      exact percentDecode_plain other.2.1 rest
    · have halves := Text.byte_halves byte
      have high := digit_spelled halves.1
      have low := digit_spelled halves.2
      have joined : 16 * (byte.toNat / 16) + byte.toNat % 16 = byte.toNat := Nat.div_add_mod _ _
      have same : replacePlus [37, digit (byte.toNat / 16), digit (byte.toNat % 16)] =
          [37, digit (byte.toNat / 16), digit (byte.toNat % 16)] := by
        simp only [replacePlus, List.map_cons, List.map_nil, if_neg high.2.1, if_neg low.2.1]
        rfl
      rw [same, List.cons_append, List.cons_append, List.singleton_append, percentDecode, if_pos rfl]
      simp only [high.1, low.1, joined, UInt8.ofNat_toNat]

theorem decode_serialize (bytes : Bytes) : decode (serialize bytes) = bytes := by
  induction bytes with
  | nil => rfl
  | cons byte rest ih =>
      rw [decode, serialize, List.flatMap_cons, replacePlus, List.map_append, ← replacePlus,
        percentDecode_spell, ← serialize, ← replacePlus, ← decode, ih]

theorem parse_appendPair (query : Bytes) (pair : Bytes × Bytes) :
    parse (appendPair query pair) = parse query ++ [pair] := by
  have name := separator_not_mem pair.1
  have value := separator_not_mem pair.2
  have apart : (38 : UInt8) ∉ serialize pair.1 ++ 61 :: serialize pair.2 := by
    simp [name.1, value.1]
  have read : readPair (serialize pair.1 ++ 61 :: serialize pair.2) = pair := by
    rw [readPair, Split.splitOnce_append name.2]
    simp only [decode_serialize]
  have last : ((serialize pair.1 ++ 61 :: serialize pair.2).splitOn 38).filter (· ≠ []) =
      [serialize pair.1 ++ 61 :: serialize pair.2] := by
    rw [List.splitOn_eq_singleton apart, List.filter_singleton]
    simp
  rw [appendPair, List.append_assoc]
  by_cases empty : query = []
  · rw [if_pos empty, empty, List.append_nil, List.nil_append, parse, last, List.map_singleton, read]
    rfl
  · rw [if_neg empty, List.append_assoc, List.singleton_append, parse, List.splitOn_append_cons_self,
      List.filter_append, last, List.map_append, List.map_singleton, read, ← parse]

theorem parse_foldl (pairs : List (Bytes × Bytes)) (query : Bytes) :
    parse (pairs.foldl appendPair query) = parse query ++ pairs := by
  induction pairs generalizing query with
  | nil => rw [List.foldl_nil, List.append_nil]
  | cons pair rest ih =>
      rw [List.foldl_cons, ih, parse_appendPair, List.append_assoc, List.singleton_append]

end FormUrlencoded
