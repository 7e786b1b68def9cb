import WebProxy.Library.Text

/-! The textual IP addresses Rust's `IpAddr::from_str` accepts. Each reader takes the unread
characters and returns what it read with the rest, or nothing and reads nothing. -/

namespace IpAddr

inductive Addr where
  | v4 (octets : List Nat)
  | v6 (groups : List Nat)
  deriving DecidableEq, Repr

def readGivenChar (char : Char) : List Char → Option (List Char)
  | [] => none
  | first :: rest => if first = char then some rest else none

/-- `read_number`: all digits of the radix are taken, more than `maxDigits` of them fail, and
so does a leading zero where none is allowed. -/
def readNumber (radix maxDigits bound : Nat) (allowZeroPrefix : Bool) (input : List Char) :
    Option (Nat × List Char) :=
  let isDigit := if radix = 16 then Text.isAsciiHexdigit else Char.isDigit
  let digits := input.takeWhile isDigit
  let value := digits.foldl (fun total char => total * radix + Text.hexValue char) 0
  if digits.length = 0 ∨ maxDigits < digits.length then none
  else if allowZeroPrefix = false ∧ digits.head? = some '0' ∧ 1 < digits.length then none
  else if value < bound then some (value, input.dropWhile isDigit) else none

def readOctet (input : List Char) : Option (Nat × List Char) := readNumber 10 3 256 false input

def readIpv4 (input : List Char) : Option (List Nat × List Char) := do
  let (a, rest) ← readOctet input
  let (b, rest) ← readOctet (← readGivenChar '.' rest)
  let (c, rest) ← readOctet (← readGivenChar '.' rest)
  let (d, rest) ← readOctet (← readGivenChar '.' rest)
  return ([a, b, c, d], rest)

/-- `read_separator`: every element but the first is preceded by the separator. -/
def readSeparator {α : Type} (index : Nat) (inner : List Char → Option (α × List Char))
    (input : List Char) : Option (α × List Char) :=
  if 0 < index then (readGivenChar ':' input).bind inner else inner input

/-- `read_groups`: the groups read, whether an embedded IPv4 address ended them, and the rest. -/
def readGroups (limit : Nat) : Nat → Nat → List Char → List Nat × Bool × List Char
  | 0, _, input => ([], false, input)
  | slots + 1, index, input =>
      let embedded := if index + 1 < limit then readSeparator index readIpv4 input else none
      match embedded with
      | some ([a, b, c, d], rest) => ([a * 256 + b, c * 256 + d], true, rest)
      | _ =>
          match readSeparator index (readNumber 16 4 65536 true) input with
          | none => ([], false, input)
          | some (group, rest) =>
              let (groups, ipv4, rest) := readGroups limit slots (index + 1) rest
              (group :: groups, ipv4, rest)

def readIpv6 (input : List Char) : Option (List Nat × List Char) :=
  let (head, headIpv4, rest) := readGroups 8 8 0 input
  if head.length = 8 then some (head, rest)
  else if headIpv4 then none
  else do
    let rest ← readGivenChar ':' rest
    let rest ← readGivenChar ':' rest
    let limit := 8 - (head.length + 1)
    let (tail, _, rest) := readGroups limit limit 0 rest
    return (head ++ List.replicate (8 - head.length - tail.length) 0 ++ tail, rest)

def parseIpv4 (text : String) : Option (List Nat) :=
  match readIpv4 text.toList with
  | some (octets, []) => some octets
  | _ => none

def parse (text : String) : Option Addr :=
  match readIpv4 text.toList with
  | some (octets, rest) => if rest = [] then some (.v4 octets) else none
  | none =>
      match readIpv6 text.toList with
      | some (groups, []) => some (.v6 groups)
      | _ => none

theorem parseIpv4_of_parse_none {text : String} (refused : parse text = none) :
    parseIpv4 text = none := by
  unfold parse at refused
  unfold parseIpv4
  split at refused
  · rename_i octets rest read
    rw [read]
    cases rest with
    | nil => simp at refused
    | cons char rest => rfl
  · rename_i read
    rw [read]

def isAddressChar (char : Char) : Bool :=
  char.isDigit || Text.isAsciiHexdigit char || char = '.' || char = ':'

def Takes (input rest : List Char) : Prop :=
  ∃ taken, input = taken ++ rest ∧ ∀ char ∈ taken, isAddressChar char = true

theorem Takes.refl (input : List Char) : Takes input input := ⟨[], rfl, by simp⟩

theorem Takes.trans {input middle rest : List Char} (first : Takes input middle)
    (second : Takes middle rest) : Takes input rest := by
  obtain ⟨front, rfl, before⟩ := first
  obtain ⟨back, rfl, behind⟩ := second
  refine ⟨front ++ back, (List.append_assoc _ _ _).symm, ?_⟩
  intro char member
  rcases List.mem_append.mp member with member | member
  · exact before char member
  · exact behind char member

theorem readGivenChar_takes {char : Char} {input rest : List Char} (address : isAddressChar char = true)
    (read : readGivenChar char input = some rest) : Takes input rest := by
  cases input with
  | nil => cases read
  | cons first behind =>
      rw [readGivenChar] at read
      by_cases same : first = char
      · rw [if_pos same, Option.some.injEq] at read
        rw [same, read]
        refine ⟨[char], rfl, ?_⟩
        intro taken member
        rw [List.mem_singleton.mp member, address]
      · rw [if_neg same] at read
        cases read

theorem readNumber_takes {radix maxDigits bound value : Nat} {allowZeroPrefix : Bool}
    {input rest : List Char}
    (read : readNumber radix maxDigits bound allowZeroPrefix input = some (value, rest)) :
    Takes input rest := by
  unfold readNumber at read
  generalize chosen : (if radix = 16 then Text.isAsciiHexdigit else Char.isDigit) = isDigit at read
  have address : ∀ char, isDigit char = true → isAddressChar char = true := by
    intro char taken
    rw [← chosen] at taken
    rw [isAddressChar]
    split at taken
    · rw [taken, Bool.or_true, Bool.true_or, Bool.true_or]
    · rw [taken, Bool.true_or, Bool.true_or, Bool.true_or]
  have left : input.dropWhile isDigit = rest := by
    simp only [Option.ite_none_left_eq_some, Option.ite_none_right_eq_some, Option.some.injEq,
      Prod.mk.injEq] at read
    exact read.2.2.2.2
  refine ⟨input.takeWhile isDigit, ?_, ?_⟩
  · rw [← left, List.takeWhile_append_dropWhile]
  · intro char member
    exact address char (List.mem_takeWhile_imp member)

theorem readIpv4_takes {input rest : List Char} {octets : List Nat}
    (read : readIpv4 input = some (octets, rest)) : Takes input rest := by
  have dot : isAddressChar '.' = true := by decide
  unfold readIpv4 at read
  simp only [Option.bind_eq_bind, Option.bind_eq_some_iff, Prod.exists, Option.pure_def,
    Option.some.injEq, Prod.mk.injEq] at read
  obtain ⟨_, first, one, _, dotted, _, second, two, _, dots, _, third, three, _, last, _, fourth, four,
    _, rfl⟩ := read
  have front := (readNumber_takes one).trans (readGivenChar_takes dot dotted)
  have middle := (readNumber_takes two).trans (readGivenChar_takes dot dots)
  have back := (readNumber_takes three).trans (readGivenChar_takes dot last)
  exact front.trans (middle.trans (back.trans (readNumber_takes four)))

theorem readSeparator_takes {α : Type} {index : Nat} {inner : List Char → Option (α × List Char)}
    (takes : ∀ {input value rest}, inner input = some (value, rest) → Takes input rest)
    {input rest : List Char} {value : α} (read : readSeparator index inner input = some (value, rest)) :
    Takes input rest := by
  rw [readSeparator] at read
  by_cases later : 0 < index
  · rw [if_pos later] at read
    obtain ⟨behind, colon, inside⟩ := Option.bind_eq_some_iff.mp read
    exact (readGivenChar_takes (by decide) colon).trans (takes inside)
  · rw [if_neg later] at read
    exact takes read

theorem readGroups_takes (limit slots index : Nat) (input : List Char) :
    Takes input (readGroups limit slots index input).2.2 := by
  induction slots generalizing index input with
  | zero => exact Takes.refl input
  | succ slots ih =>
      rw [readGroups]
      split
      · rename_i a b c d rest embedded
        split at embedded
        · exact readSeparator_takes readIpv4_takes embedded
        · cases embedded
      · cases group : readSeparator index (readNumber 16 4 65536 true) input with
        | none => exact Takes.refl input
        | some pair => exact (readSeparator_takes readNumber_takes group).trans (ih (index + 1) pair.2)

theorem readIpv6_takes {input rest : List Char} {groups : List Nat}
    (read : readIpv6 input = some (groups, rest)) : Takes input rest := by
  have front := readGroups_takes 8 8 0 input
  have colon : isAddressChar ':' = true := by decide
  unfold readIpv6 at read
  generalize readGroups 8 8 0 input = head at front read
  obtain ⟨head, headIpv4, behind⟩ := head
  simp only at read
  split at read
  · cases read
    exact front
  · split at read
    · cases read
    · simp only [Option.bind_eq_bind, Option.bind_eq_some_iff, Option.pure_def, Option.some.injEq,
        Prod.mk.injEq] at read
      obtain ⟨middle, first, last, second, _, rfl⟩ := read
      have colons := (readGivenChar_takes colon first).trans (readGivenChar_takes colon second)
      exact front.trans (colons.trans (readGroups_takes _ _ 0 last))

theorem parse_chars {text : String} {address : Addr} (read : parse text = some address) :
    ∀ char ∈ text.toList, isAddressChar char = true := by
  have whole : ∀ {input : List Char}, Takes input [] → ∀ char ∈ input, isAddressChar char = true := by
    intro input takes
    obtain ⟨taken, rfl, address⟩ := takes
    rwa [List.append_nil]
  unfold parse at read
  split at read
  · rename_i octets rest four
    split at read
    · rename_i empty
      rw [empty] at four
      exact whole (readIpv4_takes four)
    · cases read
  · split at read
    · rename_i groups six
      exact whole (readIpv6_takes six)
    · cases read

example : parse "169.254.169.254" = some (.v4 [169, 254, 169, 254]) := by decide
example : parse "::1" = some (.v6 [0, 0, 0, 0, 0, 0, 0, 1]) := by decide
example : parse "[::1]" = none ∧ parse "01.2.3.4" = none := by decide

end IpAddr
