import WebProxy.Library.Search
import WebProxy.Library.Text

/-! `pem_der_blocks` of `main.rs`: the loop that takes the blocks of a label out of a PEM file. A block that
is cut off or does not decode is left behind at its BEGIN marker, so it hides no later one. -/

namespace WebProxy.Pem

open ByteFile (Bytes)
open Search (Inside Whole)
open Split (find)

def beginLead : List Char := "-----BEGIN ".toList

def endLead : List Char := "-----END ".toList

def dashes : List Char := "-----".toList

def beginMark (label : List Char) : List Char := beginLead ++ label ++ dashes

def endMark (label : List Char) : List Char := endLead ++ label ++ dashes

def encoded (body : List Char) : List Char := body.filter (fun char => !Text.isWhitespace char)

section Scan

variable (decode : List Char → Option Bytes) (label : List Char)

/-- The loop on the rest of the text; it fails where it runs out of rounds. `decode` is
`BASE64_STANDARD.decode`. -/
def scan : Nat → List Char → Option (List Bytes)
  | 0, rest => if find (beginMark label) rest = none then some [] else none
  | rounds + 1, rest =>
      match find (beginMark label) rest with
      | none => some []
      | some start =>
          let behind := rest.drop (start + (beginMark label).length)
          match find (endMark label) behind with
          | none => scan rounds behind
          | some stop =>
              match decode (encoded (behind.take stop)) with
              | some der => (scan rounds (behind.drop (stop + (endMark label).length))).map (der :: ·)
              | none => scan rounds behind

def pemDerBlocks (pem : List Char) : Option (List Bytes) := scan decode label pem.length pem

end Scan

inductive KeyKind where
  | pkcs8
  | pkcs1
  | sec1
  deriving DecidableEq, Repr

def supported : List (List Char × KeyKind) :=
  [("PRIVATE KEY".toList, .pkcs8), ("RSA PRIVATE KEY".toList, .pkcs1), ("EC PRIVATE KEY".toList, .sec1)]

def privateKeyFromPem (decode : List Char → Option Bytes) (pem : List Char) (keyPath : String) :
    Except String (KeyKind × Bytes) :=
  match supported.findSome? (fun entry =>
      ((pemDerBlocks decode entry.1 pem).bind List.head?).map (fun der => (entry.2, der))) with
  | some key => .ok key
  | none => .error ("no supported private key PEM block (PKCS#8/RSA/EC) found in " ++ keyPath)

theorem beginMark_head (label : List Char) : ∃ tail, beginMark label = '-' :: tail :=
  ⟨beginLead.tail ++ label ++ dashes, rfl⟩

theorem endMark_head (label : List Char) : ∃ tail, endMark label = '-' :: tail :=
  ⟨endLead.tail ++ label ++ dashes, rfl⟩

theorem beginMark_ne (label : List Char) : beginMark label ≠ [] := by
  obtain ⟨tail, shape⟩ := beginMark_head label
  rw [shape]
  exact List.cons_ne_nil _ _

theorem endMark_ne (label : List Char) : endMark label ≠ [] := by
  obtain ⟨tail, shape⟩ := endMark_head label
  rw [shape]
  exact List.cons_ne_nil _ _

theorem beginMark_length (label : List Char) : (beginMark label).length = 16 + label.length := by
  rw [beginMark, List.length_append, List.length_append]
  change 11 + label.length + 5 = 16 + label.length
  omega

theorem endMark_length (label : List Char) : (endMark label).length = 14 + label.length := by
  rw [endMark, List.length_append, List.length_append]
  change 9 + label.length + 5 = 14 + label.length
  omega

theorem beginMark_inside {label : List Char} (line : '\n' ∉ label) : Inside '\n' (beginMark label) where
  some_item := beginMark_ne label
  plain := by
    rw [beginMark, List.mem_append, List.mem_append, not_or, not_or]
    exact ⟨⟨by decide, line⟩, by decide⟩

theorem endMark_inside {label : List Char} (line : '\n' ∉ label) : Inside '\n' (endMark label) where
  some_item := endMark_ne label
  plain := by
    rw [endMark, List.mem_append, List.mem_append, not_or, not_or]
    exact ⟨⟨by decide, line⟩, by decide⟩

theorem dash_mem_marks (label : List Char) : '-' ∈ beginMark label ∧ '-' ∈ endMark label := by
  obtain ⟨first, one⟩ := beginMark_head label
  obtain ⟨second, two⟩ := endMark_head label
  rw [one, two]
  exact ⟨List.mem_cons_self, List.mem_cons_self⟩

def NoMarker (label text : List Char) : Prop :=
  ¬ beginMark label <:+: text ∧ ¬ endMark label <:+: text

theorem noMarker_of_no_dash (label : List Char) {text : List Char} (plain : '-' ∉ text) : NoMarker label text := by
  constructor
  · intro inside
    exact plain (inside.mem (dash_mem_marks label).1)
  · intro inside
    exact plain (inside.mem (dash_mem_marks label).2)

def Blank (text : List Char) : Prop := ∀ char ∈ text, Text.isWhitespace char = true ∧ char ≠ '\n'

theorem Blank.no_dash {text : List Char} (blank : Blank text) : '-' ∉ text := by
  intro member
  exact absurd (blank '-' member).1 (by decide)

theorem Blank.encoded {text : List Char} (blank : Blank text) : encoded text = [] := by
  apply List.filter_eq_nil_iff.mpr
  intro char member
  rw [(blank char member).1]
  decide

/-- What stands behind a BEGIN marker up to the END marker: the end of its line and the lines of the
body. -/
def inner (padding body : List Char) : List Char := padding ++ '\n' :: body

theorem encoded_inner {padding : List Char} (blank : Blank padding) (body : List Char) :
    encoded (inner padding body) = encoded body := by
  have newline : Text.isWhitespace '\n' = true := by decide
  have front := blank.encoded
  unfold Pem.encoded at front
  rw [inner, Pem.encoded, List.filter_append, front, List.nil_append, List.filter_cons_of_neg (by simp [newline]),
    Pem.encoded]

theorem inner_whole (padding : List Char) {body : List Char} (lines : Whole '\n' body) :
    Whole '\n' (inner padding body) := by
  have first : Whole '\n' (padding ++ ['\n']) := Or.inr ⟨padding, rfl⟩
  have shape : inner padding body = (padding ++ ['\n']) ++ body := by
    rw [inner, List.append_assoc]
    rfl
  rw [shape]
  exact first.append lines

theorem inner_noMarker {label padding body : List Char} (line : '\n' ∉ label) (blank : Blank padding)
    (clean : NoMarker label body) : NoMarker label (inner padding body) := by
  have front := noMarker_of_no_dash label blank.no_dash
  constructor
  · intro inside
    rcases Search.infix_at_mark (beginMark_inside line) inside with left | right
    · exact front.1 left
    · exact clean.1 right
  · intro inside
    rcases Search.infix_at_mark (endMark_inside line) inside with left | right
    · exact front.2 left
    · exact clean.2 right

def endLine (label closing : List Char) : List Char := endMark label ++ (closing ++ ['\n'])

theorem endLine_whole (label closing : List Char) : Whole '\n' (endLine label closing) :=
  Or.inr ⟨endMark label ++ closing, (List.append_assoc _ _ _).symm⟩

theorem begin_not_in_endLine {label closing : List Char} (line : '\n' ∉ label) (blank : Blank closing) :
    ¬ beginMark label <:+: endLine label closing := by
  intro inside
  have longer : (endMark label).length + 2 = (beginMark label).length := by
    rw [endMark_length, beginMark_length]
    omega
  have before : beginMark label <:+: endMark label ++ closing := by
    have shape : endLine label closing = (endMark label ++ closing) ++ '\n' :: [] :=
      (List.append_assoc _ _ _).symm
    rw [shape] at inside
    rcases Search.infix_at_mark (beginMark_inside line) inside with left | right
    · exact left
    · exact absurd (List.eq_nil_of_infix_nil right) (beginMark_ne label)
  obtain ⟨front, back, shape⟩ := before
  have last : beginMark label = (beginLead ++ label ++ dashes.dropLast) ++ ['-'] := by
    rw [beginMark, List.append_assoc _ dashes.dropLast]
    rfl
  generalize beginLead ++ label ++ dashes.dropLast = lead at last
  rw [last, List.length_append, List.length_singleton] at longer
  rw [last, ← List.append_assoc, List.append_assoc _ ['-']] at shape
  rcases List.append_eq_append_iff.mp shape with ⟨rest, ends, _⟩ | ⟨rest, _, behind⟩
  · have lengths := congrArg List.length ends
    rw [List.length_append, List.length_append] at lengths
    omega
  · apply blank.no_dash
    rw [behind]
    exact List.mem_append_right _ List.mem_cons_self

/-- An item of a file. Blocks have a BEGIN line, lines of a body and an END line; a truncated one has no
END line, and a text no marker at all. -/
inductive Item (decode : List Char → Option Bytes) (label : List Char) where
  | wellFormed (padding body closing : List Char) (der : Bytes) (opened : Blank padding)
      (closed : Blank closing) (lines : Whole '\n' body) (decodes : decode (encoded body) = some der)
  | malformed (padding body closing : List Char) (opened : Blank padding) (closed : Blank closing)
      (lines : Whole '\n' body) (clean : NoMarker label body) (fails : decode (encoded body) = none)
  | truncated (padding body : List Char) (opened : Blank padding) (lines : Whole '\n' body)
      (clean : NoMarker label body)
  | text (body : List Char) (lines : Whole '\n' body) (clean : NoMarker label body)

section Items

variable {decode : List Char → Option Bytes} {label : List Char}

def Item.chars : Item decode label → List Char
  | .wellFormed padding body closing _ _ _ _ _ =>
      beginMark label ++ (inner padding body ++ endLine label closing)
  | .malformed padding body closing _ _ _ _ _ =>
      beginMark label ++ (inner padding body ++ endLine label closing)
  | .truncated padding body _ _ _ => beginMark label ++ inner padding body
  | .text body _ _ => body

def Item.ders : Item decode label → List Bytes
  | .wellFormed _ _ _ der _ _ _ _ => [der]
  | _ => []

theorem scan_behind {front : List Char} (line : '\n' ∉ label) (whole : Whole '\n' front)
    (absent : ¬ beginMark label <:+: front) (rounds : Nat) (rest : List Char) :
    scan decode label rounds (front ++ rest) = scan decode label rounds rest := by
  have searched := Search.find_behind_whole (beginMark_inside line) whole absent rest
  cases rounds with
  | zero =>
      rw [scan, scan, searched]
      cases find (beginMark label) rest with
      | none => rfl
      | some start => rfl
  | succ rounds =>
      rw [scan, scan, searched]
      cases find (beginMark label) rest with
      | none => rfl
      | some start =>
          have same : (front ++ rest).drop (start + front.length + (beginMark label).length) =
              rest.drop (start + (beginMark label).length) := by
            have place : start + front.length + (beginMark label).length =
                front.length + (start + (beginMark label).length) := by omega
            rw [place, List.drop_length_add_append]
          simp only [Option.map_some, same]

theorem scan_left {behind : List Char}
    (left : ∀ stop, find (endMark label) behind = some stop → decode (encoded (behind.take stop)) = none)
    (rounds : Nat) :
    scan decode label (rounds + 1) (beginMark label ++ behind) = scan decode label rounds behind := by
  rw [scan, Search.find_front]
  simp only [Nat.zero_add, List.drop_left]
  cases ended : find (endMark label) behind with
  | none => rfl
  | some stop => simp only [left stop ended]

theorem scan_block {body behind : List Char} {der : Bytes} (line : '\n' ∉ label) (whole : Whole '\n' body)
    (absent : ¬ endMark label <:+: body) (decodes : decode (encoded body) = some der) (rounds : Nat) :
    scan decode label (rounds + 1) (beginMark label ++ (body ++ (endMark label ++ behind))) =
      (scan decode label rounds behind).map (der :: ·) := by
  have ended : find (endMark label) (body ++ (endMark label ++ behind)) = some body.length := by
    rw [Search.find_behind_whole (endMark_inside line) whole absent,
      Search.find_front, Option.map_some, Nat.zero_add]
  have rest : (body ++ (endMark label ++ behind)).drop (body.length + (endMark label).length) = behind := by
    rw [List.drop_length_add_append, List.drop_left]
  rw [scan, Search.find_front]
  simp only [Nat.zero_add, List.drop_left, ended, List.take_left, decodes, rest]

theorem dash_mem_encoded {body : List Char} (member : '-' ∈ body) : '-' ∈ encoded body :=
  List.mem_filter.mpr ⟨member, by decide⟩

theorem dash_of_begin {behind : List Char} {stop : Nat}
    (ended : find (endMark label) (beginMark label ++ behind) = some stop) :
    '-' ∈ (beginMark label ++ behind).take stop := by
  cases stop with
  | zero =>
      obtain ⟨rest, same⟩ := ((Split.find_some_iff (endMark_ne label)).mp ended).1
      have sixth : some 'E' = some 'B' := congrArg (fun text : List Char => text[5]?) same
      exact absurd sixth (by decide)
  | succ stop =>
      obtain ⟨tail, shape⟩ := beginMark_head label
      rw [shape, List.cons_append, List.take_succ_cons]
      exact List.mem_cons_self

theorem dash_before_end (line : '\n' ∉ label) (items : List (Item decode label)) {stop : Nat}
    (ended : find (endMark label) (items.flatMap Item.chars) = some stop) :
    '-' ∈ (items.flatMap Item.chars).take stop := by
  induction items generalizing stop with
  | nil =>
      have absent : find (endMark label) [] = none := if_neg (endMark_ne label)
      rw [List.flatMap_nil, absent] at ended
      cases ended
  | cons item items ih =>
      rw [List.flatMap_cons] at ended ⊢
      cases item with
      | wellFormed padding body closing der opened closed lines decodes =>
          rw [Item.chars, List.append_assoc] at ended ⊢
          exact dash_of_begin ended
      | malformed padding body closing opened closed lines clean fails =>
          rw [Item.chars, List.append_assoc] at ended ⊢
          exact dash_of_begin ended
      | truncated padding body opened lines clean =>
          rw [Item.chars, List.append_assoc] at ended ⊢
          exact dash_of_begin ended
      | text body lines clean =>
          rw [Item.chars, Search.find_behind_whole (endMark_inside line) lines clean.2,
            Option.map_eq_some_iff] at ended
          obtain ⟨later, found, rfl⟩ := ended
          rw [Item.chars, Nat.add_comm, List.take_length_add_append]
          exact List.mem_append_right _ (ih found)

theorem scan_wellFormed (line : '\n' ∉ label) (dash : ∀ text, '-' ∈ text → decode text = none)
    {padding body closing : List Char} {der : Bytes} (opened : Blank padding) (closed : Blank closing)
    (lines : Whole '\n' body) (decodes : decode (encoded body) = some der) (rounds : Nat) (rest : List Char) :
    scan decode label (rounds + 1)
        (beginMark label ++ (inner padding body ++ (endLine label closing ++ rest))) =
      (scan decode label rounds rest).map (der :: ·) := by
  have plain : '-' ∉ body := by
    intro member
    rw [dash _ (dash_mem_encoded member)] at decodes
    cases decodes
  have clean := inner_noMarker line opened (noMarker_of_no_dash label plain)
  have last : Whole '\n' (closing ++ ['\n']) := Or.inr ⟨closing, rfl⟩
  have bare : ¬ beginMark label <:+: closing ++ ['\n'] := by
    intro inside
    exact begin_not_in_endLine line closed (inside.trans (List.suffix_append _ _).isInfix)
  have whole : decode (encoded (inner padding body)) = some der := by rw [encoded_inner opened, decodes]
  rw [endLine, List.append_assoc (endMark label), scan_block line (inner_whole padding lines) clean.2 whole,
    scan_behind line last bare]

theorem scan_inner (line : '\n' ∉ label) {padding body : List Char} (opened : Blank padding)
    (lines : Whole '\n' body) (clean : NoMarker label body) {rest : List Char}
    (left : ∀ stop, find (endMark label) rest = some stop →
      decode (encoded (inner padding body ++ rest.take stop)) = none) (rounds : Nat) :
    scan decode label (rounds + 1) (beginMark label ++ (inner padding body ++ rest)) =
      scan decode label rounds rest := by
  have inside := inner_noMarker line opened clean
  have whole := inner_whole padding lines
  rw [scan_left, scan_behind line whole inside.1]
  intro stop ended
  rw [Search.find_behind_whole (endMark_inside line) whole inside.2,
    Option.map_eq_some_iff] at ended
  obtain ⟨later, found, rfl⟩ := ended
  rw [Nat.add_comm, List.take_length_add_append, left later found]

theorem scan_malformed (line : '\n' ∉ label) {padding body closing : List Char} (opened : Blank padding)
    (closed : Blank closing) (lines : Whole '\n' body) (clean : NoMarker label body)
    (fails : decode (encoded body) = none) (rounds : Nat) (rest : List Char) :
    scan decode label (rounds + 1)
        (beginMark label ++ (inner padding body ++ (endLine label closing ++ rest))) =
      scan decode label rounds rest := by
  rw [scan_inner line opened lines clean,
    scan_behind line (endLine_whole label closing) (begin_not_in_endLine line closed)]
  intro stop ended
  rw [endLine, List.append_assoc, Search.find_front, Option.some.injEq] at ended
  rw [← ended, List.take_zero, List.append_nil, encoded_inner opened, fails]

theorem scan_truncated (line : '\n' ∉ label) (dash : ∀ text, '-' ∈ text → decode text = none)
    {padding body : List Char} (opened : Blank padding) (lines : Whole '\n' body) (clean : NoMarker label body)
    (items : List (Item decode label)) (rounds : Nat) :
    scan decode label (rounds + 1) (beginMark label ++ (inner padding body ++ items.flatMap Item.chars)) =
      scan decode label rounds (items.flatMap Item.chars) := by
  apply scan_inner line opened lines clean
  intro stop ended
  apply dash
  apply dash_mem_encoded
  exact List.mem_append_right _ (dash_before_end line items ended)

theorem scan_items (line : '\n' ∉ label) (dash : ∀ text, '-' ∈ text → decode text = none)
    (items : List (Item decode label)) (rounds : Nat) (enough : (items.flatMap Item.chars).length ≤ rounds) :
    scan decode label rounds (items.flatMap Item.chars) = some (items.flatMap Item.ders) := by
  induction items generalizing rounds with
  | nil =>
      have absent : find (beginMark label) [] = none := if_neg (beginMark_ne label)
      cases rounds with
      | zero => rw [List.flatMap_nil, scan, absent, if_pos rfl, List.flatMap_nil]
      | succ rounds => rw [List.flatMap_nil, scan, absent, List.flatMap_nil]
  | cons item items ih =>
      have marked := beginMark_length label
      rw [List.flatMap_cons, List.flatMap_cons]
      rw [List.flatMap_cons, List.length_append] at enough
      cases item with
      | wellFormed padding body closing der opened closed lines decodes =>
          rw [Item.chars, List.length_append] at enough
          obtain ⟨fewer, rfl⟩ : ∃ fewer, rounds = fewer + 1 := ⟨rounds - 1, by omega⟩
          rw [Item.chars, List.append_assoc, List.append_assoc,
            scan_wellFormed line dash opened closed lines decodes, ih fewer (by omega)]
          rfl
      | malformed padding body closing opened closed lines clean fails =>
          rw [Item.chars, List.length_append] at enough
          obtain ⟨fewer, rfl⟩ : ∃ fewer, rounds = fewer + 1 := ⟨rounds - 1, by omega⟩
          rw [Item.chars, List.append_assoc, List.append_assoc,
            scan_malformed line opened closed lines clean fails, ih fewer (by omega)]
          rfl
      | truncated padding body opened lines clean =>
          rw [Item.chars, List.length_append] at enough
          obtain ⟨fewer, rfl⟩ : ∃ fewer, rounds = fewer + 1 := ⟨rounds - 1, by omega⟩
          rw [Item.chars, List.append_assoc, scan_truncated line dash opened lines clean, ih fewer (by omega)]
          rfl
      | text body lines clean =>
          rw [Item.chars, scan_behind line lines clean.1, ih rounds (by omega)]
          rfl

/-- As many rounds as there are characters are enough for any text: a round takes a BEGIN marker off. -/
theorem scan_total (rest : List Char) (rounds : Nat) (enough : rest.length ≤ rounds) :
    ∃ ders, scan decode label rounds rest = some ders := by
  induction rounds generalizing rest with
  | zero =>
      rw [List.length_eq_zero_iff.mp (Nat.le_zero.mp enough)]
      exact ⟨[], if_pos (if_neg (beginMark_ne label))⟩
  | succ rounds ih =>
      rw [scan]
      cases begun : find (beginMark label) rest with
      | none => exact ⟨[], rfl⟩
      | some start =>
          have marked := beginMark_length label
          have some_left : rest ≠ [] := by
            rintro rfl
            rw [find, if_neg (beginMark_ne label)] at begun
            cases begun
          have some_char : 0 < rest.length := List.length_pos_iff.mpr some_left
          have shorter : ∀ place, 0 < place → (rest.drop place).length ≤ rounds := by
            intro place positive
            rw [List.length_drop]
            omega
          simp only
          generalize behindAt : rest.drop (start + (beginMark label).length) = behind
          have fits : behind.length ≤ rounds := behindAt ▸ shorter _ (by omega)
          cases find (endMark label) behind with
          | none => exact ih behind fits
          | some stop =>
              cases decoded : decode (encoded (behind.take stop)) with
              | none =>
                  simp only [decoded]
                  exact ih behind fits
              | some der =>
                  obtain ⟨ders, later⟩ := ih (behind.drop (stop + (endMark label).length))
                    (by rw [List.length_drop]; omega)
                  simp only [decoded, later, Option.map_some]
                  exact ⟨der :: ders, rfl⟩

end Items

/-- `pem_der_blocks` ends on every text, and on one made of items it gives the blocks that decode, in their
order: no other item hides one. -/
theorem pem_blocks_of_items (decode : List Char → Option Bytes) (label : List Char) (line : '\n' ∉ label)
    (dash : ∀ text, '-' ∈ text → decode text = none) :
    (∀ pem : List Char, ∃ ders, pemDerBlocks decode label pem = some ders) ∧
    ∀ items : List (Item decode label),
      pemDerBlocks decode label (items.flatMap Item.chars) = some (items.flatMap Item.ders) := by
  constructor
  · intro pem
    exact scan_total pem pem.length le_rfl
  · intro items
    exact scan_items line dash items _ le_rfl

def knowsTwo (body : List Char) : Option Bytes :=
  if body = "YWJj".toList then some [97, 98, 99]
  else if body = "ZGVm".toList then some [100, 101, 102] else none

theorem knowsTwo_dash (body : List Char) (dash : '-' ∈ body) : knowsTwo body = none := by
  have first : body ≠ "YWJj".toList := by
    rintro rfl
    exact absurd dash (by decide)
  have second : body ≠ "ZGVm".toList := by
    rintro rfl
    exact absurd dash (by decide)
  rw [knowsTwo, if_neg first, if_neg second]

/-- A block that is cut off, one that does not decode, a remark and two that decode, the last with the
line ends of another system. -/
def certificates : List (Item knowsTwo "CERTIFICATE".toList) :=
  have blank : Blank [] := by simp [Blank]
  have returned : Blank ['\r'] := by
    intro char member
    rw [List.mem_singleton.mp member]
    decide
  [.truncated [] "YWJj\n".toList blank (Or.inr ⟨"YWJj".toList, rfl⟩) (noMarker_of_no_dash _ (by decide)),
    .wellFormed [] "YW\nJj\n".toList [] [97, 98, 99] blank blank (Or.inr ⟨"YW\nJj".toList, rfl⟩)
      (by decide +kernel),
    .malformed [] "Y?\n".toList [] blank blank (Or.inr ⟨"Y?".toList, rfl⟩) (noMarker_of_no_dash _ (by decide))
      (by decide +kernel),
    .text "issued\n".toList (Or.inr ⟨"issued".toList, rfl⟩) (noMarker_of_no_dash _ (by decide)),
    .wellFormed ['\r'] "ZGVm\r\n".toList ['\r'] [100, 101, 102] returned returned
      (Or.inr ⟨"ZGVm\r".toList, rfl⟩) (by decide +kernel)]

theorem pem_blocks_of_certificates :
    pemDerBlocks knowsTwo "CERTIFICATE".toList (certificates.flatMap Item.chars) =
      some [[97, 98, 99], [100, 101, 102]] :=
  (pem_blocks_of_items knowsTwo "CERTIFICATE".toList (by decide) knowsTwo_dash).2 certificates

theorem privateKeyFromPem_items (decode : List Char → Option Bytes)
    (dash : ∀ text, '-' ∈ text → decode text = none) (items : List (Item decode "PRIVATE KEY".toList))
    (keyPath : String) {der : Bytes} (first : (items.flatMap Item.ders).head? = some der) :
    privateKeyFromPem decode (items.flatMap Item.chars) keyPath = .ok (.pkcs8, der) := by
  have blocks := scan_items (by decide) dash items _ le_rfl
  rw [← pemDerBlocks] at blocks
  have key : ((pemDerBlocks decode "PRIVATE KEY".toList (items.flatMap Item.chars)).bind List.head?).map
      (fun der => (KeyKind.pkcs8, der)) = some (.pkcs8, der) := by
    rw [blocks, Option.bind_some, first, Option.map_some]
  rw [privateKeyFromPem, supported, List.findSome?_cons, key]

end WebProxy.Pem
