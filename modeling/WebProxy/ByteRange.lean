import WebProxy.Library.Split
import WebProxy.Library.Text

/-! `parse_single_byte_range`, beside the grammar of a single byte range. -/

namespace WebProxy.ByteRange

/-- How a computation on machine words goes wrong: a subtraction below zero, or a loop that does
not end. -/
inductive Fault where
  | underflow
  | endless
  deriving DecidableEq, Repr

/-- A subtraction of `u64`, with its check. -/
def sub (left right : Nat) : Except Fault Nat :=
  if right ≤ left then .ok (left - right) else .error .underflow

abbrev Parsed := Option (Except Unit (Nat × Nat))

def parseSuffix (endStr : List Char) (size : Nat) : Except Fault Parsed :=
  match Text.parseU64 endStr with
  | none => .ok none
  | some suffix =>
      if size = 0 then .ok (some (.error ()))
      else if suffix = 0 then .ok (some (.error ()))
      else do
        let start ← sub size (min suffix size)
        let last ← sub size 1
        return some (.ok (start, last))

def parseEnd (endStr : List Char) (size : Nat) : Except Fault (Option (Except Unit Nat)) :=
  if endStr = [] then
    if size = 0 then .ok (some (.error ()))
    else do
      let last ← sub size 1
      return some (.ok last)
  else
    match Text.parseU64 endStr with
    | some last => .ok (some (.ok last))
    | none => .ok none

def clampRange (start last size : Nat) : Except Fault Parsed :=
  if last < start then .ok (some (.error ()))
  else if size ≤ start then .ok (some (.error ()))
  else do
    let final ← sub size 1
    return some (.ok (start, min last final))

def parseFrom (startStr endStr : List Char) (size : Nat) : Except Fault Parsed :=
  match Text.parseU64 startStr with
  | none => .ok none
  | some start => do
      match ← parseEnd endStr size with
      | none => return none
      | some (.error ()) => return some (.error ())
      | some (.ok last) => clampRange start last size

def parseSingleByteRange (value : String) (size : Nat) : Except Fault Parsed :=
  match Text.stripPrefix value "bytes=" with
  | none => .ok none
  | some rest =>
      match Split.splitOnce '-' rest.toList with
      | none => .ok none
      | some (startStr, endStr) =>
          if startStr = [] ∧ endStr = [] then .ok none
          else if startStr = [] then parseSuffix endStr size
          else parseFrom startStr endStr size

inductive RangeSpec where
  | bounded (first last : Nat)
  | onward (first : Nat)
  | suffix (length : Nat)
  deriving DecidableEq, Repr

/-- `bytes=` and one of the forms, in digits alone, with bounds in order. -/
def Spells (value : String) : RangeSpec → Prop
  | .bounded first last => ∃ front back, value.toList = "bytes=".toList ++ front ++ '-' :: back ∧
      Text.Decimal front first ∧ Text.Decimal back last ∧ first ≤ last
  | .onward first => ∃ front, value.toList = "bytes=".toList ++ front ++ ['-'] ∧
      Text.Decimal front first
  | .suffix length => ∃ back, value.toList = "bytes=".toList ++ '-' :: back ∧
      Text.Decimal back length

/-- The bytes a form selects, first and last. It is unsatisfiable where there is none. -/
def RangeSpec.select (size : Nat) : RangeSpec → Option (Nat × Nat)
  | .bounded first last => if first < size then some (first, min last (size - 1)) else none
  | .onward first => if first < size then some (first, size - 1) else none
  | .suffix length =>
      if 0 < length ∧ 0 < size then some (size - min length size, size - 1) else none

structure Agrees (value : String) (size : Nat) (outcome : Parsed) : Prop where
  ignored : outcome = none ↔ ¬ ∃ spec, Spells value spec
  unsatisfiable : outcome = some (.error ()) ↔ ∃ spec, Spells value spec ∧ spec.select size = none
  selected : ∀ range, outcome = some (.ok range) ↔
    ∃ spec, Spells value spec ∧ spec.select size = some range

def readParts (front back : List Char) : Option RangeSpec :=
  if front = [] then (Text.parseU64 back).map .suffix
  else
    (Text.parseU64 front).bind (fun first =>
      if back = [] then some (.onward first) else (Text.parseU64 back).map (.bounded first))

/-- What the parser makes of a form: bounds out of order count as unsatisfiable. -/
def RangeSpec.answer (size : Nat) (spec : RangeSpec) : Except Unit (Nat × Nat) :=
  match spec with
  | .bounded first last =>
      if last < first then .error ()
      else if first < size then .ok (first, min last (size - 1)) else .error ()
  | .onward first => if first < size then .ok (first, size - 1) else .error ()
  | .suffix length =>
      if 0 < length ∧ 0 < size then .ok (size - min length size, size - 1) else .error ()

theorem sub_ok {left right : Nat} (inside : right ≤ left) : sub left right = .ok (left - right) :=
  if_pos inside

theorem parseSuffix_eq (back : List Char) (size : Nat) : parseSuffix back size =
    .ok ((Text.parseU64 back).map (fun length => (RangeSpec.suffix length).answer size)) := by
  rw [parseSuffix]
  cases read : Text.parseU64 back with
  | none => rfl
  | some length =>
      simp only [Option.map_some, RangeSpec.answer]
      by_cases empty : size = 0
      · rw [if_pos empty, if_neg (by omega)]
      · rw [if_neg empty]
        by_cases zero : length = 0
        · rw [if_pos zero, if_neg (by omega)]
        · rw [if_neg zero, if_pos (by omega), sub_ok (Nat.min_le_right _ _), sub_ok (by omega)]
          rfl

theorem clampRange_eq (first last size : Nat) :
    clampRange first last size = .ok (some ((RangeSpec.bounded first last).answer size)) := by
  rw [clampRange, RangeSpec.answer]
  by_cases reversed : last < first
  · rw [if_pos reversed, if_pos reversed]
  · rw [if_neg reversed, if_neg reversed]
    by_cases beyond : size ≤ first
    · rw [if_pos beyond, if_neg (by omega)]
    · rw [if_neg beyond, if_pos (by omega), sub_ok (by omega)]
      rfl

theorem parseFrom_eq {front : List Char} (back : List Char) (size : Nat) (some_char : front ≠ []) :
    parseFrom front back size = .ok ((readParts front back).map (RangeSpec.answer size)) := by
  rw [parseFrom, readParts, if_neg some_char]
  cases start : Text.parseU64 front with
  | none => rfl
  | some first =>
      rw [Option.bind_some, parseEnd]
      by_cases bare : back = []
      · rw [if_pos bare, if_pos bare]
        by_cases empty : size = 0
        · subst empty
          rfl
        · rw [if_neg empty, sub_ok (by omega)]
          change clampRange first (size - 1) size = _
          rw [clampRange_eq, Option.map_some, RangeSpec.answer, RangeSpec.answer]
          by_cases inside : first < size
          · rw [if_neg (by omega), if_pos inside, if_pos inside, Nat.min_self]
          · rw [if_neg inside, if_neg inside, ite_self]
      · rw [if_neg bare, if_neg bare]
        cases final : Text.parseU64 back with
        | none => rfl
        | some last => exact clampRange_eq first last size

def readRange (value : String) : Option RangeSpec :=
  (Text.stripPrefix value "bytes=").bind (fun rest =>
    (Split.splitOnce '-' rest.toList).bind (fun parts => readParts parts.1 parts.2))

theorem parseSingleByteRange_eq (value : String) (size : Nat) :
    parseSingleByteRange value size = .ok ((readRange value).map (RangeSpec.answer size)) := by
  rw [parseSingleByteRange, readRange]
  cases Text.stripPrefix value "bytes=" with
  | none => rfl
  | some rest =>
      simp only [Option.bind_some]
      cases Split.splitOnce '-' rest.toList with
      | none => rfl
      | some parts =>
          obtain ⟨front, back⟩ := parts
          simp only [Option.bind_some]
          by_cases bare : front = []
          · subst bare
            by_cases empty : back = []
            · subst empty
              rfl
            · rw [if_neg (by simp [empty]), if_pos rfl, parseSuffix_eq, readParts, if_pos rfl,
                Option.map_map]
              rfl
          · rw [if_neg (by simp [bare]), if_neg bare, parseFrom_eq back size bare]

/-- Two numbers, or one, around a dash, with a sign or out of order: `parse` takes the sign, and
the order is not looked at before the answer. -/
def Misread (value : String) : Prop :=
  ∃ front back, value.toList = "bytes=".toList ++ front ++ '-' :: back ∧
    (front = [] ∨ (Text.parseU64 front).isSome) ∧ (back = [] ∨ (Text.parseU64 back).isSome) ∧
    ('+' ∈ front ∨ '+' ∈ back ∨ ∃ first last, Text.parseU64 front = some first ∧
      Text.parseU64 back = some last ∧ last < first)

theorem readRange_of_parts {value : String} {front back : List Char}
    (whole : value.toList = "bytes=".toList ++ front ++ '-' :: back) (clear : '-' ∉ front) :
    readRange value = readParts front back := by
  have sides : (String.ofList (front ++ '-' :: back)).toList = front ++ '-' :: back :=
    String.toList_ofList
  have text : value = "bytes=" ++ String.ofList (front ++ '-' :: back) := by
    apply String.toList_inj.mp
    rw [whole, String.toList_append, sides, List.append_assoc]
  rw [readRange, text, Text.stripPrefix_append, Option.bind_some, sides,
    Split.splitOnce_append clear, Option.bind_some]

theorem readRange_parts {value : String} {spec : RangeSpec} (read : readRange value = some spec) :
    ∃ front back, value.toList = "bytes=".toList ++ front ++ '-' :: back ∧
      readParts front back = some spec := by
  obtain ⟨rest, stripped, split⟩ := Option.bind_eq_some_iff.mp read
  obtain ⟨⟨front, back⟩, cut, parts⟩ := Option.bind_eq_some_iff.mp split
  obtain ⟨shape, _⟩ := Split.splitOnce_some_iff.mp cut
  refine ⟨front, back, ?_, parts⟩
  rw [Text.stripPrefix_some stripped, shape, List.append_assoc]

theorem parts_unique {value : String} {front back front' back' : List Char}
    (whole : value.toList = "bytes=".toList ++ front ++ '-' :: back) (clear : '-' ∉ front)
    (whole' : value.toList = "bytes=".toList ++ front' ++ '-' :: back') (clear' : '-' ∉ front') :
    front = front' ∧ back = back' := by
  rw [whole, List.append_assoc, List.append_assoc] at whole'
  have same := congrArg (Split.splitOnce '-') (List.append_cancel_left whole')
  rw [Split.splitOnce_append clear, Split.splitOnce_append clear'] at same
  simpa using same

theorem clear_of_number {text : List Char} (number : text = [] ∨ (Text.parseU64 text).isSome) :
    '-' ∉ text := by
  rcases number with rfl | read
  · exact List.not_mem_nil
  · obtain ⟨value, parsed⟩ := Option.isSome_iff_exists.mp read
    exact Text.not_mem_of_parse parsed (by decide) (by decide)

theorem Misread.read {value : String} (misread : Misread value) :
    ∃ spec, readRange value = some spec := by
  obtain ⟨front, back, whole, left, right, wrong⟩ := misread
  rw [readRange_of_parts whole (clear_of_number left), readParts]
  rcases left with rfl | read
  · rw [if_pos rfl]
    rcases right with rfl | parsed
    · exact absurd wrong (by simp [Text.parseU64])
    · obtain ⟨length, number⟩ := Option.isSome_iff_exists.mp parsed
      exact ⟨.suffix length, by rw [number, Option.map_some]⟩
  · obtain ⟨first, number⟩ := Option.isSome_iff_exists.mp read
    have some_char : front ≠ [] := by
      rintro rfl
      cases read
    rw [if_neg some_char, number, Option.bind_some]
    rcases right with rfl | parsed
    · exact ⟨.onward first, if_pos rfl⟩
    · obtain ⟨last, final⟩ := Option.isSome_iff_exists.mp parsed
      have some_digit : back ≠ [] := by
        rintro rfl
        cases parsed
      exact ⟨.bounded first last, by rw [if_neg some_digit, final, Option.map_some]⟩

theorem Spells.parts {value : String} {spec : RangeSpec} (spelled : Spells value spec) :
    ∃ front back, value.toList = "bytes=".toList ++ front ++ '-' :: back ∧ '-' ∉ front ∧
      readParts front back = some spec ∧ '+' ∉ front ∧ '+' ∉ back ∧
      ∀ first last, Text.parseU64 front = some first → Text.parseU64 back = some last →
        first ≤ last := by
  cases spec with
  | bounded first last =>
      obtain ⟨front, back, whole, low, high, ordered⟩ := spelled
      refine ⟨front, back, whole, low.not_mem (by decide), ?_, low.not_mem (by decide),
        high.not_mem (by decide), ?_⟩
      · rw [readParts, if_neg low.some_digit, low.parse, Option.bind_some, if_neg high.some_digit,
          high.parse, Option.map_some]
      · intro start final left right
        rw [low.parse] at left
        rw [high.parse] at right
        cases left
        cases right
        exact ordered
  | onward first =>
      obtain ⟨front, whole, low⟩ := spelled
      refine ⟨front, [], whole, low.not_mem (by decide), ?_, low.not_mem (by decide),
        List.not_mem_nil, ?_⟩
      · rw [readParts, if_neg low.some_digit, low.parse, Option.bind_some, if_pos rfl]
      · intro start final _ absent
        cases absent
  | suffix length =>
      obtain ⟨back, whole, high⟩ := spelled
      refine ⟨[], back, whole, List.not_mem_nil, ?_, List.not_mem_nil, high.not_mem (by decide), ?_⟩
      · rw [readParts, if_pos rfl, high.parse, Option.map_some]
      · intro start final absent
        cases absent

theorem Spells.read {value : String} {spec : RangeSpec} (spelled : Spells value spec) :
    readRange value = some spec ∧ ¬ Misread value := by
  obtain ⟨front, back, whole, clear, parts, unsigned, plain, ordered⟩ := spelled.parts
  refine ⟨(readRange_of_parts whole clear).trans parts, ?_⟩
  rintro ⟨front', back', whole', left, _, wrong⟩
  obtain ⟨rfl, rfl⟩ := parts_unique whole clear whole' (clear_of_number left)
  rcases wrong with signed | signed | ⟨first, last, low, high, reversed⟩
  · exact unsigned signed
  · exact plain signed
  · have inOrder := ordered first last low high
    omega

theorem spells_of_read {value : String} {spec : RangeSpec} (read : readRange value = some spec)
    (right : ¬ Misread value) :
    Spells value spec ∧ ∀ first last, spec = .bounded first last → first ≤ last := by
  obtain ⟨front, back, whole, parts⟩ := readRange_parts read
  rw [readParts] at parts
  split at parts
  · rename_i bare
    subst bare
    obtain ⟨length, number, rfl⟩ := Option.map_eq_some_iff.mp parts
    have unsigned : '+' ∉ back := by
      intro signed
      exact right ⟨[], back, whole, Or.inl rfl, Or.inr (by simp [number]), Or.inr (Or.inl signed)⟩
    refine ⟨⟨back, whole, Text.decimal_of_parse number unsigned⟩, ?_⟩
    intro first last other
    cases other
  · obtain ⟨first, number, rest⟩ := Option.bind_eq_some_iff.mp parts
    have started : front = [] ∨ (Text.parseU64 front).isSome := Or.inr (by simp [number])
    split at rest
    · rename_i bare
      subst bare
      cases rest
      have unsigned : '+' ∉ front := by
        intro signed
        exact right ⟨front, [], whole, started, Or.inl rfl, Or.inl signed⟩
      refine ⟨⟨front, whole, Text.decimal_of_parse number unsigned⟩, ?_⟩
      intro first last other
      cases other
    · obtain ⟨last, final, rfl⟩ := Option.map_eq_some_iff.mp rest
      have ended : back = [] ∨ (Text.parseU64 back).isSome := Or.inr (by simp [final])
      have unsigned : '+' ∉ front := by
        intro signed
        exact right ⟨front, back, whole, started, ended, Or.inl signed⟩
      have plain : '+' ∉ back := by
        intro signed
        exact right ⟨front, back, whole, started, ended, Or.inr (Or.inl signed)⟩
      have ordered : first ≤ last := by
        by_contra reversed
        exact right ⟨front, back, whole, started, ended,
          Or.inr (Or.inr ⟨first, last, number, final, by omega⟩)⟩
      refine ⟨⟨front, back, whole, Text.decimal_of_parse number unsigned,
        Text.decimal_of_parse final plain, ordered⟩, ?_⟩
      intro low high same
      cases same
      exact ordered

theorem answer_eq_select {spec : RangeSpec} (size : Nat)
    (ordered : ∀ first last, spec = .bounded first last → first ≤ last) :
    spec.answer size = (spec.select size).elim (.error ()) .ok := by
  cases spec with
  | bounded first last =>
      have order := ordered first last rfl
      rw [RangeSpec.answer, RangeSpec.select, if_neg (by omega)]
      split
      · rfl
      · rfl
  | onward first =>
      rw [RangeSpec.answer, RangeSpec.select]
      split
      · rfl
      · rfl
  | suffix length =>
      rw [RangeSpec.answer, RangeSpec.select]
      split
      · rfl
      · rfl

theorem agrees_of_spells {value : String} {size : Nat} {spec : RangeSpec}
    (spelled : Spells value spec) :
    Agrees value size (some ((spec.select size).elim (.error ()) .ok)) := by
  have only : ∀ other, Spells value other → other = spec := by
    intro other also
    have same := also.read.1
    rw [spelled.read.1] at same
    exact (Option.some.inj same).symm
  constructor
  · constructor
    · intro absent
      cases absent
    · intro none_spelled
      exact absurd ⟨spec, spelled⟩ none_spelled
  · constructor
    · intro refused
      refine ⟨spec, spelled, ?_⟩
      cases chosen : spec.select size with
      | none => rfl
      | some range =>
          rw [chosen] at refused
          cases refused
    · rintro ⟨other, also, nothing⟩
      rw [← only other also, nothing]
      rfl
  · intro range
    constructor
    · intro accepted
      refine ⟨spec, spelled, ?_⟩
      cases chosen : spec.select size with
      | none =>
          rw [chosen] at accepted
          cases accepted
      | some found =>
          rw [chosen] at accepted
          cases accepted
          rfl
    · rintro ⟨other, also, chosen⟩
      rw [← only other also, chosen]
      rfl

theorem agrees_none {value : String} (size : Nat) (unread : ∀ spec, ¬ Spells value spec) :
    Agrees value size none := by
  constructor
  · constructor
    · rintro _ ⟨spec, spelled⟩
      exact unread spec spelled
    · intro _
      rfl
  · constructor
    · intro absent
      cases absent
    · rintro ⟨spec, spelled, _⟩
      exact absurd spelled (unread spec)
  · intro range
    constructor
    · intro absent
      cases absent
    · rintro ⟨spec, spelled, _⟩
      exact absurd spelled (unread spec)

/-- The parser agrees with the grammar on exactly the values without a sign and without bounds out
of order. -/
theorem range_grammar_iff (value : String) (size : Nat) :
    (∃ outcome, parseSingleByteRange value size = .ok outcome ∧ Agrees value size outcome) ↔
      ¬ Misread value := by
  rw [parseSingleByteRange_eq]
  constructor
  · rintro ⟨outcome, same, agrees⟩ misread
    cases same
    obtain ⟨spec, read⟩ := misread.read
    have unread : ¬ ∃ spec, Spells value spec := by
      rintro ⟨other, spelled⟩
      exact spelled.read.2 misread
    have ignored := agrees.ignored.mpr unread
    rw [read] at ignored
    cases ignored
  · intro right
    refine ⟨_, rfl, ?_⟩
    cases read : readRange value with
    | none =>
        apply agrees_none
        intro spec spelled
        rw [spelled.read.1] at read
        cases read
    | some spec =>
        obtain ⟨spelled, ordered⟩ := spells_of_read read right
        rw [Option.map_some, answer_eq_select size ordered]
        exact agrees_of_spells spelled

/-- `bytes=7-3` is answered 416 where the grammar has it ignored. -/
theorem reversed_range_unsatisfiable :
    parseSingleByteRange "bytes=7-3" 10 = .ok (some (.error ())) ∧
      ¬ ∃ outcome, parseSingleByteRange "bytes=7-3" 10 = .ok outcome ∧
        Agrees "bytes=7-3" 10 outcome := by
  refine ⟨by decide, ?_⟩
  rintro ⟨outcome, parsed, agrees⟩
  have unread : ¬ ∃ spec, Spells "bytes=7-3" spec := by
    rintro ⟨spec, spelled⟩
    apply spelled.read.2
    exact ⟨['7'], ['3'], by decide, by decide, by decide, Or.inr (Or.inr ⟨7, 3, by decide⟩)⟩
  have refused : parseSingleByteRange "bytes=7-3" 10 = .ok (some (.error ())) := by decide
  rw [refused] at parsed
  cases parsed
  exact absurd (agrees.ignored.mpr unread) (by decide)

end WebProxy.ByteRange
