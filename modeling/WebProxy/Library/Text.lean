import Mathlib.Data.List.Basic
import Mathlib.Data.List.DropRight
import Mathlib.Tactic.NormNum
import WebProxy.Library.ByteFile

/-! Text operations with the behaviour of Rust's `str`, and the hexadecimal spelling of bytes. -/

namespace Text

open ByteFile (Bytes)

def stripPrefix (text lead : String) : Option String :=
  if lead.toList.isPrefixOf text.toList then some (String.ofList (text.toList.drop lead.toList.length))
  else none

def stripRounds (lead : String) : Nat → String → String
  | 0, text => text
  | rounds + 1, text =>
      match stripPrefix text lead with
      | some rest => stripRounds lead rounds rest
      | none => text

/-- `text.trim_start_matches(lead)`: the lead goes as often as it stands there. -/
def trimStartMatches (text lead : String) : String := stripRounds lead text.length text

/-- `text.to_ascii_lowercase()`; `Char.toLower` maps the letters `A` to `Z` and nothing else. -/
def toAsciiLowercase (text : String) : String := String.ofList (text.toList.map Char.toLower)

def isWhitespace (char : Char) : Bool :=
  (9 ≤ char.toNat && char.toNat ≤ 13) || (0x2000 ≤ char.toNat && char.toNat ≤ 0x200A) ||
    [0x20, 0x85, 0xA0, 0x1680, 0x2028, 0x2029, 0x202F, 0x205F, 0x3000].contains char.toNat

def trim (text : List Char) : List Char := (text.dropWhile isWhitespace).rdropWhile isWhitespace

def splitWhitespace (text : List Char) : List (List Char) :=
  (text.splitOnP isWhitespace).filter (· ≠ [])

/-- `text.parse::<u64>()`: an optional plus sign and decimal digits whose value fits. -/
def parseU64 (text : List Char) : Option Nat :=
  let digits : List Char := match text with
    | '+' :: rest => rest
    | _ => text
  let value : Nat := digits.foldl (fun total char => total * 10 + (char.toNat - 48)) 0
  if digits ≠ [] ∧ digits.all Char.isDigit ∧ value < 2 ^ 64 then some value else none

structure Decimal (text : List Char) (value : Nat) : Prop where
  some_digit : text ≠ []
  digits : ∀ char ∈ text, char.isDigit = true
  denotes : text.foldl (fun total char => total * 10 + (char.toNat - 48)) 0 = value
  fits : value < 2 ^ 64

def hexDigits : List Char := "0123456789abcdefABCDEF".toList

def isAsciiHexdigit (char : Char) : Bool := hexDigits.contains char

def hexPair (byte : UInt8) : List Char :=
  [Nat.digitChar (byte.toNat / 16), Nat.digitChar (byte.toNat % 16)]

def hexChars (bytes : Bytes) : List Char := bytes.flatMap hexPair

def hexValue (char : Char) : Nat :=
  if char.isDigit then char.toNat - 48 else char.toLower.toNat - 87

def hexDecode : List Char → Bytes
  | high :: low :: rest => UInt8.ofNat (16 * hexValue high + hexValue low) :: hexDecode rest
  | _ => []

theorem stripPrefix_some {text lead rest : String} (stripped : stripPrefix text lead = some rest) :
    text.toList = lead.toList ++ rest.toList := by
  unfold stripPrefix at stripped
  split at stripped
  · rename_i starts
    cases stripped
    obtain ⟨tail, whole⟩ := List.isPrefixOf_iff_prefix.mp starts
    rw [← whole, List.drop_left, String.toList_ofList]
  · cases stripped

theorem stripPrefix_append (lead rest : String) : stripPrefix (lead ++ rest) lead = some rest := by
  have starts : lead.toList.isPrefixOf (lead ++ rest).toList = true := by
    simp [List.isPrefixOf_iff_prefix]
  rw [stripPrefix, if_pos starts, String.toList_append, List.drop_left, String.ofList_toList]

theorem stripPrefix_none_iff {text lead : String} :
    stripPrefix text lead = none ↔ ¬ lead.toList <+: text.toList := by
  rw [← List.isPrefixOf_iff_prefix, stripPrefix]
  split
  · rename_i starts
    simp [starts]
  · rename_i apart
    simpa using apart

theorem stripPrefix_stripRounds {lead : String} (some_char : lead ≠ "") (rounds : Nat)
    (text : String) (enough : text.length ≤ rounds) :
    stripPrefix (stripRounds lead rounds text) lead = none := by
  have shorter : ∀ {whole rest : String}, stripPrefix whole lead = some rest →
      rest.length < whole.length := by
    intro whole rest stripped
    have size := congrArg List.length (stripPrefix_some stripped)
    have positive : 0 < lead.toList.length := by
      apply List.length_pos_of_ne_nil
      intro empty
      exact some_char (String.toList_eq_nil_iff.mp empty)
    simp only [List.length_append, String.length_toList] at size positive
    omega
  induction rounds generalizing text with
  | zero =>
      rw [stripRounds]
      cases stripped : stripPrefix text lead with
      | none => rfl
      | some rest =>
          have fall := shorter stripped
          omega
  | succ rounds ih =>
      rw [stripRounds]
      cases stripped : stripPrefix text lead with
      | none => exact stripped
      | some rest =>
          have fall := shorter stripped
          exact ih rest (by omega)

theorem stripPrefix_trimStartMatches (text : String) {lead : String} (some_char : lead ≠ "") :
    stripPrefix (trimStartMatches text lead) lead = none :=
  stripPrefix_stripRounds some_char text.length text (Nat.le_refl _)

theorem isLower_iff {char : Char} : char.isLower = true ↔ 97 ≤ char.toNat ∧ char.toNat ≤ 122 := by
  change (decide (97 ≤ char.val) && decide (char.val ≤ 122)) = true ↔ _
  simp [UInt32.le_iff_toNat_le]

theorem isUpper_iff {char : Char} : char.isUpper = true ↔ 65 ≤ char.toNat ∧ char.toNat ≤ 90 := by
  change decide (65 ≤ char.val ∧ char.val ≤ 90) = true ↔ _
  simp [UInt32.le_iff_toNat_le]

theorem isAlpha_iff {char : Char} :
    char.isAlpha = true ↔ char.isUpper = true ∨ char.isLower = true :=
  Bool.or_eq_true_iff

theorem isDigit_iff {char : Char} : char.isDigit = true ↔ 48 ≤ char.toNat ∧ char.toNat ≤ 57 := by
  simp [Char.isDigit, UInt32.le_iff_toNat_le]

theorem toLower_eq_self {char : Char} (small : char.isUpper = false) : char.toLower = char := by
  have outside : ¬ (char.val ≥ 'A'.val ∧ char.val ≤ 'Z'.val) := by
    intro inside
    have capital : char.isUpper = true := decide_eq_true inside
    rw [capital] at small
    cases small
  exact dif_neg outside

theorem not_decimal_signed {digits : List Char} {value : Nat} : ¬ Decimal ('+' :: digits) value := by
  intro decimal
  exact absurd (decimal.digits '+' List.mem_cons_self) (by decide)

theorem parseU64_iff {text : List Char} {value : Nat} : parseU64 text = some value ↔
    Decimal text value ∨ ∃ digits, text = '+' :: digits ∧ Decimal digits value := by
  have read : ∀ digits : List Char,
      (if digits ≠ [] ∧ digits.all Char.isDigit ∧
          digits.foldl (fun total char => total * 10 + (char.toNat - 48)) 0 < 2 ^ 64 then
        some (digits.foldl (fun total char => total * 10 + (char.toNat - 48)) 0) else none) =
        some value ↔ Decimal digits value := by
    intro digits
    rw [Option.ite_none_right_eq_some, List.all_eq_true]
    constructor
    · rintro ⟨⟨some_digit, all, fits⟩, same⟩
      cases same
      exact ⟨some_digit, all, rfl, fits⟩
    · intro decimal
      have same := decimal.denotes
      exact ⟨⟨decimal.some_digit, decimal.digits, same ▸ decimal.fits⟩, congrArg some same⟩
  unfold parseU64
  split
  · rename_i digits
    rw [read digits]
    constructor
    · intro decimal
      exact Or.inr ⟨digits, rfl, decimal⟩
    · rintro (signed | ⟨rest, same, decimal⟩)
      · exact absurd signed not_decimal_signed
      · cases same
        exact decimal
  · rename_i bare
    rw [read text]
    constructor
    · exact Or.inl
    · rintro (decimal | ⟨rest, same, _⟩)
      · exact decimal
      · exact absurd same (bare rest)

theorem Decimal.not_mem {text : List Char} {value : Nat} {char : Char} (decimal : Decimal text value)
    (other : char.isDigit = false) : char ∉ text := by
  intro member
  rw [decimal.digits char member] at other
  cases other

theorem Decimal.parse {text : List Char} {value : Nat} (decimal : Decimal text value) :
    parseU64 text = some value :=
  parseU64_iff.mpr (Or.inl decimal)

theorem decimal_of_parse {text : List Char} {value : Nat} (read : parseU64 text = some value)
    (unsigned : '+' ∉ text) : Decimal text value := by
  rcases parseU64_iff.mp read with decimal | ⟨digits, rfl, _⟩
  · exact decimal
  · exact absurd List.mem_cons_self unsigned

theorem not_mem_of_parse {text : List Char} {value : Nat} {char : Char}
    (read : parseU64 text = some value) (other : char.isDigit = false) (unsigned : char ≠ '+') :
    char ∉ text := by
  rcases parseU64_iff.mp read with decimal | ⟨digits, rfl, decimal⟩
  · exact decimal.not_mem other
  · rw [List.mem_cons, not_or]
    exact ⟨unsigned, decimal.not_mem other⟩

theorem not_isWhitespace {char : Char} (low : 33 ≤ char.toNat) (high : char.toNat ≤ 126) :
    isWhitespace char = false := by
  simp only [isWhitespace, Bool.or_eq_false_iff, Bool.and_eq_false_iff, decide_eq_false_iff_not,
    List.contains_eq_mem, List.mem_cons, List.not_mem_nil, or_false, not_or]
  omega

theorem trim_eq_self {text : List Char} (plain : ∀ char ∈ text, isWhitespace char = false) :
    trim text = text := by
  have front : text.dropWhile isWhitespace = text := by
    cases text with
    | nil => rfl
    | cons first rest => rw [List.dropWhile_cons, plain first List.mem_cons_self]; rfl
  rw [trim, front, List.rdropWhile_eq_self_iff]
  intro some_char
  rw [plain _ (List.getLast_mem some_char)]
  decide

theorem trim_leads (text : List Char) : trim text <+: text.dropWhile isWhitespace :=
  List.rdropWhile_prefix isWhitespace _

theorem trim_sublist (text : List Char) : (trim text).Sublist text :=
  (trim_leads text).sublist.trans (List.dropWhile_suffix isWhitespace).sublist

theorem trim_trim (text : List Char) : trim (trim text) = trim text := by
  have front : (trim text).dropWhile isWhitespace = trim text := by
    cases kept : trim text with
    | nil => rfl
    | cons first rest =>
        obtain ⟨more, shape⟩ := trim_leads text
        have clean := List.head?_dropWhile_not isWhitespace text
        rw [← shape, kept] at clean
        have solid : isWhitespace first = false := clean
        rw [List.dropWhile_cons, solid]
        rfl
  conv_lhs => rw [trim, front, trim, List.rdropWhile_idempotent]
  rfl

theorem trim_of_rdropWhile {drops : Char → Bool} {text : List Char}
    (apart : ∀ char, drops char = true → isWhitespace char = false)
    (same : (trim text).rdropWhile drops = text.rdropWhile drops) : trim text = text := by
  cases text with
  | nil => rfl
  | cons first rest =>
      have front : isWhitespace first = false := by
        by_contra blank
        have stays : (first :: rest).rdropWhile drops ≠ [] := by
          intro gone
          exact blank (apart first (List.rdropWhile_eq_nil_iff.mp gone first List.mem_cons_self))
        obtain ⟨head, tail, kept⟩ := List.exists_cons_of_ne_nil stays
        have whole : head :: tail <+: first :: rest := kept ▸ List.rdropWhile_prefix drops _
        have trimmed : head :: tail <+: (first :: rest).dropWhile isWhitespace := by
          have cut := List.rdropWhile_prefix drops (trim (first :: rest))
          rw [← kept, ← same]
          exact cut.trans (trim_leads _)
        obtain ⟨more, shape⟩ := trimmed
        have clean := List.head?_dropWhile_not isWhitespace (first :: rest)
        rw [← shape, (List.cons_prefix_cons.mp whole).1] at clean
        exact blank clean
      have started : (first :: rest).dropWhile isWhitespace = first :: rest := by
        rw [List.dropWhile_cons, front]
        rfl
      have ends : trim (first :: rest) = (first :: rest).rdropWhile isWhitespace := by
        rw [trim, started]
      by_cases blank : isWhitespace ((first :: rest).getLast (List.cons_ne_nil _ _)) = true
      · have kept : (first :: rest).rdropWhile drops = first :: rest := by
          rw [List.rdropWhile_eq_self_iff]
          intro _ dropped
          rw [apart _ dropped] at blank
          cases blank
        have long : first :: rest <+: trim (first :: rest) := by
          have cut := List.rdropWhile_prefix drops (trim (first :: rest))
          rw [same, kept] at cut
          exact cut
        have short : trim (first :: rest) <+: first :: rest := by
          rw [ends]
          exact List.rdropWhile_prefix isWhitespace _
        exact short.eq_of_length_le long.length_le
      · rw [ends, List.rdropWhile_eq_self_iff]
        intro _
        exact blank

theorem splitWhitespace_single {text : List Char} (some_char : text ≠ [])
    (plain : ∀ char ∈ text, isWhitespace char = false) : splitWhitespace text = [text] := by
  have whole : text.splitOnP isWhitespace = [text] :=
    List.splitOnP_eq_singleton plain
  rw [splitWhitespace, whole, List.filter_cons_of_pos (by simpa using some_char), List.filter_nil]

theorem word_of_solid {text : List Char} {char : Char} (member : char ∈ text)
    (solid : isWhitespace char = false) : splitWhitespace text ≠ [] := by
  induction text with
  | nil => cases member
  | cons first rest ih =>
      rw [splitWhitespace, List.splitOnP_cons_eq_if_modifyHead]
      split
      · rename_i blank
        rcases List.mem_cons.mp member with rfl | later
        · rw [solid] at blank
          cases blank
        · exact ih later
      · obtain ⟨head, tail, pieces⟩ :=
          List.exists_cons_of_ne_nil (List.splitOnP_ne_nil isWhitespace rest)
        rw [pieces, List.modifyHead_cons, List.filter_cons_of_pos (by simp)]
        exact List.cons_ne_nil _ _

theorem trim_ends {text : List Char} {char : Char}
    (outer : (trim text).head? = some char ∨ (trim text).getLast? = some char) :
    isWhitespace char = false := by
  rcases outer with first | last
  · obtain ⟨more, shape⟩ := trim_leads text
    have clean := List.head?_dropWhile_not isWhitespace text
    rw [← shape, List.head?_append, first] at clean
    exact clean
  · obtain ⟨some_char, same⟩ := List.mem_getLast?_eq_getLast last
    rw [same]
    exact Bool.not_eq_true _ ▸
      List.rdropWhile_last_not isWhitespace (text.dropWhile isWhitespace) some_char

theorem solid_of_splitWhitespace {text : List Char}
    (single : (splitWhitespace (trim text)).length = 1) :
    ∀ char ∈ trim text, isWhitespace char = false := by
  intro char member
  by_contra blank
  have blank : isWhitespace char = true := by simpa using blank
  obtain ⟨front, back, whole⟩ := List.append_of_mem member
  have first := fun edge outer => @trim_ends text edge (Or.inl outer)
  have last := fun edge outer => @trim_ends text edge (Or.inr outer)
  rw [whole] at first last
  have opened : splitWhitespace front ≠ [] := by
    cases front with
    | nil =>
        rw [first char rfl] at blank
        cases blank
    | cons head tail => exact word_of_solid List.mem_cons_self (first head rfl)
  have closed : splitWhitespace back ≠ [] := by
    cases ended : back.getLast? with
    | none =>
        rw [last char (by simp [List.getLast?_cons, ended])] at blank
        cases blank
    | some edge =>
        exact word_of_solid (List.mem_of_getLast? ended)
          (last edge (by simp [List.getLast?_cons, ended]))
  have words : splitWhitespace (trim text) = splitWhitespace front ++ splitWhitespace back := by
    rw [whole, splitWhitespace, List.splitOnP_append_cons _ _ blank, List.filter_append]
    rfl
  have left := List.length_pos_of_ne_nil opened
  have right := List.length_pos_of_ne_nil closed
  rw [words, List.length_append] at single
  omega

@[simp] theorem toList_toAsciiLowercase (text : String) :
    (toAsciiLowercase text).toList = text.toList.map Char.toLower := by
  rw [toAsciiLowercase, String.toList_ofList]

theorem hexDigit_spelled (char : Char) (digit : char ∈ hexDigits) :
    hexValue char < 16 ∧ Nat.digitChar (hexValue char) = char.toLower := by
  have table : hexDigits.all (fun c =>
      hexValue c < 16 && Nat.digitChar (hexValue c) = c.toLower) = true := by decide
  simpa using List.all_eq_true.mp table char digit

theorem hexValue_digitChar (value : Nat) (small : value < 16) :
    hexValue (Nat.digitChar value) = value ∧
      (Nat.digitChar value).toLower = Nat.digitChar value := by
  have table : (List.range 16).all (fun n =>
      hexValue (Nat.digitChar n) = n && (Nat.digitChar n).toLower = Nat.digitChar n) = true := by
    decide
  simpa using List.all_eq_true.mp table value (List.mem_range.mpr small)

theorem byte_halves (byte : UInt8) : byte.toNat / 16 < 16 ∧ byte.toNat % 16 < 16 := by
  have bound : byte.toNat < 256 := by simpa using byte.toNat_lt
  omega

theorem hexDecode_hexChars (bytes : Bytes) : hexDecode (hexChars bytes) = bytes := by
  induction bytes with
  | nil => rfl
  | cons byte rest ih =>
      have halves := byte_halves byte
      have high := (hexValue_digitChar _ halves.1).1
      have low := (hexValue_digitChar _ halves.2).1
      have joined : 16 * (byte.toNat / 16) + byte.toNat % 16 = byte.toNat := by omega
      change hexDecode (Nat.digitChar (byte.toNat / 16) :: Nat.digitChar (byte.toNat % 16) ::
        hexChars rest) = byte :: rest
      rw [hexDecode, high, low, joined, ih, UInt8.ofNat_toNat]

theorem lower_hexChars (bytes : Bytes) : (hexChars bytes).map Char.toLower = hexChars bytes := by
  induction bytes with
  | nil => rfl
  | cons byte rest ih =>
      have halves := byte_halves byte
      have high := (hexValue_digitChar _ halves.1).2
      have low := (hexValue_digitChar _ halves.2).2
      change Char.toLower (Nat.digitChar (byte.toNat / 16)) ::
        Char.toLower (Nat.digitChar (byte.toNat % 16)) :: (hexChars rest).map Char.toLower = _
      rw [high, low, ih]
      rfl

theorem hexChars_hexDecode (count : Nat) (chars : List Char) (size : chars.length = 2 * count)
    (digits : ∀ char ∈ chars, char ∈ hexDigits) :
    hexChars (hexDecode chars) = chars.map Char.toLower := by
  induction count generalizing chars with
  | zero =>
      have empty : chars = [] := List.length_eq_zero_iff.mp size
      subst empty
      rfl
  | succ count ih =>
      match chars, size with
      | high :: low :: rest, size =>
          have tail := ih rest (by simp only [List.length_cons] at size; omega)
            (by intro char member; exact digits char (by simp [member]))
          have first := hexDigit_spelled high (digits high (by simp))
          have second := hexDigit_spelled low (digits low (by simp))
          have value : (UInt8.ofNat (16 * hexValue high + hexValue low)).toNat =
              16 * hexValue high + hexValue low := by
            rw [UInt8.toNat_ofNat']
            exact Nat.mod_eq_of_lt (by omega)
          have upper : (16 * hexValue high + hexValue low) / 16 = hexValue high := by omega
          have lower : (16 * hexValue high + hexValue low) % 16 = hexValue low := by omega
          change hexPair (UInt8.ofNat (16 * hexValue high + hexValue low)) ++
            hexChars (hexDecode rest) = _
          rw [tail, hexPair, value, upper, lower, first.2, second.2]
          rfl

end Text
