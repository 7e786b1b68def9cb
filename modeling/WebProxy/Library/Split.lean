import Mathlib.Data.List.Basic
import Mathlib.Data.List.TakeWhile
import Mathlib.Data.Nat.Find

/-! Splitting sequences at a mark, with the behaviour of Rust's `split_once`, `rsplit_once`,
`splitn`, `split`, `find` and `rfind`. -/

namespace Split

variable {α : Type}

theorem map_intercalate {β : Type} (f : α → β) (mark : List α) (pieces : List (List α)) :
    (mark.intercalate pieces).map f = (mark.map f).intercalate (pieces.map (List.map f)) := by
  induction pieces with
  | nil => rfl
  | cons piece rest ih =>
      cases rest with
      | nil => simp
      | cons second rest => simp_all [List.intercalate_cons_cons]

variable [DecidableEq α]

def splitOnce (mark : α) : List α → Option (List α × List α)
  | [] => none
  | first :: rest =>
      if first = mark then some ([], rest)
      else (splitOnce mark rest).map (fun pair => (first :: pair.1, pair.2))

def rsplitOnce (mark : α) (items : List α) : Option (List α × List α) :=
  (splitOnce mark items.reverse).map (fun pair => (pair.2.reverse, pair.1.reverse))

def splitn : Nat → α → List α → List (List α)
  | 0, _, _ => []
  | 1, _, items => [items]
  | limit + 2, mark, items =>
      match splitOnce mark items with
      | none => [items]
      | some (front, back) => front :: splitn (limit + 1) mark back

def find (pattern : List α) : List α → Option Nat
  | [] => if pattern = [] then some 0 else none
  | first :: rest =>
      if pattern.isPrefixOf (first :: rest) then some 0 else (find pattern rest).map (· + 1)

def rfind (pattern : List α) : List α → Option Nat
  | [] => if pattern = [] then some 0 else none
  | first :: rest =>
      match rfind pattern rest with
      | some place => some (place + 1)
      | none => if pattern.isPrefixOf (first :: rest) then some 0 else none

theorem find_some_iff {pattern : List α} (some_item : pattern ≠ []) {items : List α} {place : Nat} :
    find pattern items = some place ↔ pattern <+: items.drop place ∧
      ∀ earlier, earlier < place → ¬ pattern <+: items.drop earlier := by
  induction items generalizing place with
  | nil => simp [find, some_item]
  | cons first rest ih =>
      simp only [find, List.isPrefixOf_iff_prefix]
      by_cases here : pattern <+: first :: rest
      · rw [if_pos here]
        cases place with
        | zero => simp [here]
        | succ place =>
            refine ⟨fun zero => by simp at zero, fun found => ?_⟩
            exact absurd here (found.2 0 (Nat.succ_pos place))
      · rw [if_neg here]
        cases place with
        | zero => simp [here]
        | succ place =>
            have later := @ih place
            rw [Option.map_eq_some_iff]
            simp only [Nat.add_right_cancel_iff, exists_eq_right, later, List.drop_succ_cons]
            refine and_congr_right (fun _ => ⟨fun none earlier below => ?_, fun none earlier below => ?_⟩)
            · cases earlier with
              | zero => exact here
              | succ earlier => exact none earlier (Nat.lt_of_succ_lt_succ below)
            · exact none (earlier + 1) (Nat.succ_lt_succ below)

theorem find_of_occurs {pattern : List α} (some_item : pattern ≠ []) {items : List α} {place : Nat}
    (occurs : pattern <+: items.drop place) : ∃ first ≤ place, find pattern items = some first := by
  classical
  have occurrence : ∃ place, pattern <+: items.drop place := ⟨place, occurs⟩
  refine ⟨Nat.find occurrence, Nat.find_min' occurrence occurs, ?_⟩
  exact (find_some_iff some_item).mpr ⟨Nat.find_spec occurrence, fun _ => Nat.find_min occurrence⟩

theorem rfind_none_iff {pattern : List α} (some_item : pattern ≠ []) {items : List α} :
    rfind pattern items = none ↔ ∀ place, ¬ pattern <+: items.drop place := by
  induction items with
  | nil => simp [rfind, some_item]
  | cons first rest ih =>
      rw [rfind]
      cases found : rfind pattern rest with
      | some place =>
          rw [found] at ih
          simp only [reduceCtorEq, false_iff, not_forall, not_not] at ih ⊢
          obtain ⟨place, occurs⟩ := ih
          exact ⟨place + 1, occurs⟩
      | none =>
          have behind := ih.mp found
          simp only [List.isPrefixOf_iff_prefix]
          constructor
          · intro absent place
            cases place with
            | zero =>
                intro here
                rw [List.drop_zero] at here
                simp [here] at absent
            | succ place => exact behind place
          · intro absent
            exact if_neg (absent 0)

theorem rfind_some_iff {pattern : List α} (some_item : pattern ≠ []) {items : List α} {place : Nat} :
    rfind pattern items = some place ↔ pattern <+: items.drop place ∧
      ∀ later, place < later → ¬ pattern <+: items.drop later := by
  induction items generalizing place with
  | nil => simp [rfind, some_item]
  | cons first rest ih =>
      rw [rfind]
      cases found : rfind pattern rest with
      | some last =>
          obtain ⟨occurs, final⟩ := (@ih last).mp found
          constructor
          · intro same
            cases same
            refine ⟨occurs, ?_⟩
            intro later beyond
            cases later with
            | zero => exact absurd beyond (Nat.not_lt_zero _)
            | succ later => exact final later (Nat.lt_of_succ_lt_succ beyond)
          · rintro ⟨here, none⟩
            have bound : ¬ place < last + 1 := fun below => none (last + 1) below occurs
            cases place with
            | zero => exact absurd (Nat.succ_pos last) bound
            | succ place =>
                have reached : ¬ last < place := fun below => final place below here
                exact congrArg some (by omega)
      | none =>
          have behind := (rfind_none_iff some_item).mp found
          simp only [List.isPrefixOf_iff_prefix]
          constructor
          · intro same
            split at same
            · rename_i here
              cases same
              refine ⟨here, ?_⟩
              intro later beyond
              cases later with
              | zero => exact absurd beyond (Nat.not_lt_zero _)
              | succ later => exact behind later
            · cases same
          · rintro ⟨here, _⟩
            cases place with
            | zero => exact if_pos here
            | succ place => exact absurd here (behind place)

theorem splitOnce_none_iff {mark : α} {items : List α} :
    splitOnce mark items = none ↔ mark ∉ items := by
  induction items with
  | nil => simp [splitOnce]
  | cons first rest ih =>
      by_cases same : first = mark
      · simp [splitOnce, same]
      · simp [splitOnce, same, ih, Ne.symm same]

theorem splitOnce_append {mark : α} {front : List α} (absent : mark ∉ front) (back : List α) :
    splitOnce mark (front ++ mark :: back) = some (front, back) := by
  induction front with
  | nil => simp [splitOnce]
  | cons first rest ih =>
      rw [List.mem_cons, not_or] at absent
      simp [splitOnce, Ne.symm absent.1, ih absent.2]

theorem splitOnce_some_iff {mark : α} {items front back : List α} :
    splitOnce mark items = some (front, back) ↔ items = front ++ mark :: back ∧ mark ∉ front := by
  constructor
  · intro found
    induction items generalizing front with
    | nil => cases found
    | cons first rest ih =>
        by_cases same : first = mark
        · simp only [splitOnce, same, if_true, Option.some.injEq, Prod.mk.injEq] at found
          obtain ⟨rfl, rfl⟩ := found
          simp [same]
        · simp only [splitOnce, same, if_false] at found
          obtain ⟨⟨front, after⟩, inner, pair⟩ := Option.map_eq_some_iff.mp found
          cases pair
          obtain ⟨whole, absent⟩ := ih inner
          simp [whole, absent, Ne.symm same]
  · intro shape
    rw [shape.1]
    exact splitOnce_append shape.2 back

theorem rsplitOnce_none_iff {mark : α} {items : List α} :
    rsplitOnce mark items = none ↔ mark ∉ items := by
  rw [rsplitOnce, Option.map_eq_none_iff, splitOnce_none_iff, List.mem_reverse]

theorem rsplitOnce_append {mark : α} {back : List α} (absent : mark ∉ back) (front : List α) :
    rsplitOnce mark (front ++ mark :: back) = some (front, back) := by
  have flipped : (front ++ mark :: back).reverse = back.reverse ++ mark :: front.reverse := by simp
  rw [rsplitOnce, flipped, splitOnce_append (by simpa using absent)]
  simp

theorem rsplitOnce_some_iff {mark : α} {items front back : List α} :
    rsplitOnce mark items = some (front, back) ↔ items = front ++ mark :: back ∧ mark ∉ back := by
  constructor
  · intro found
    obtain ⟨pair, flipped, same⟩ := Option.map_eq_some_iff.mp found
    cases same
    obtain ⟨whole, absent⟩ := splitOnce_some_iff.mp flipped
    refine ⟨?_, by simpa using absent⟩
    have turned := congrArg List.reverse whole
    simpa using turned
  · rintro ⟨rfl, absent⟩
    exact rsplitOnce_append absent front

theorem splitn_three_iff {mark : α} {items first second third : List α} :
    splitn 3 mark items = [first, second, third] ↔
      items = first ++ mark :: (second ++ mark :: third) ∧ mark ∉ first ∧ mark ∉ second := by
  constructor
  · intro pieces
    simp only [splitn] at pieces
    cases outer : splitOnce mark items with
    | none => simp [outer] at pieces
    | some pair =>
        cases inner : splitOnce mark pair.2 with
        | none => simp [outer, inner] at pieces
        | some rest =>
            simp only [outer, inner, List.cons.injEq, and_true] at pieces
            obtain ⟨rfl, rfl, rfl⟩ := pieces
            obtain ⟨whole, front⟩ := splitOnce_some_iff.mp outer
            obtain ⟨back, middle⟩ := splitOnce_some_iff.mp inner
            exact ⟨by rw [← back]; exact whole, front, middle⟩
  · intro shape
    obtain ⟨rfl, front, middle⟩ := shape
    simp [splitn, splitOnce_append front, splitOnce_append middle]

theorem mem_splitOn {mark : α} {items piece : List α} (member : piece ∈ items.splitOn mark) :
    mark ∉ piece ∧ piece.Sublist items := by
  induction items generalizing piece with
  | nil =>
      rw [List.splitOn_nil, List.mem_singleton] at member
      simp [member]
  | cons first rest ih =>
      rw [List.splitOn_cons_eq_if_modifyHead] at member
      split at member
      · rcases List.mem_cons.mp member with rfl | later
        · simp
        · obtain ⟨absent, part⟩ := ih later
          exact ⟨absent, part.cons first⟩
      · rename_i other
        cases pieces : rest.splitOn mark with
        | nil => exact absurd pieces (List.splitOn_ne_nil _ _)
        | cons head tail =>
            rw [pieces, List.modifyHead_cons, List.mem_cons] at member
            rcases member with rfl | later
            · obtain ⟨absent, part⟩ := ih (by rw [pieces]; exact List.mem_cons_self)
              refine ⟨?_, part.cons_cons first⟩
              rw [List.mem_cons, not_or]
              refine ⟨?_, absent⟩
              intro same
              simp [same] at other
            · obtain ⟨absent, part⟩ := ih (by rw [pieces]; exact List.mem_cons_of_mem _ later)
              exact ⟨absent, part.cons first⟩

theorem mem_pieces {mark item : α} {items : List α} (member : item ∈ items) :
    item = mark ∨ ∃ piece ∈ items.splitOn mark, item ∈ piece := by
  induction items with
  | nil => cases member
  | cons first rest ih =>
      rw [List.splitOn_cons_eq_if_modifyHead]
      split
      · rename_i same
        rcases List.mem_cons.mp member with rfl | later
        · exact Or.inl (by simpa using same)
        · rcases ih later with mark | ⟨piece, among, inside⟩
          · exact Or.inl mark
          · exact Or.inr ⟨piece, List.mem_cons_of_mem _ among, inside⟩
      · obtain ⟨head, tail, pieces⟩ := List.exists_cons_of_ne_nil (List.splitOn_ne_nil mark rest)
        rw [pieces, List.modifyHead_cons]
        rcases List.mem_cons.mp member with rfl | later
        · exact Or.inr ⟨item :: head, List.mem_cons_self, List.mem_cons_self⟩
        · rcases ih later with mark | ⟨piece, among, inside⟩
          · exact Or.inl mark
          · right
            rw [pieces] at among
            rcases List.mem_cons.mp among with rfl | further
            · exact ⟨first :: piece, List.mem_cons_self, List.mem_cons_of_mem _ inside⟩
            · exact ⟨piece, List.mem_cons_of_mem _ further, inside⟩

theorem mem_splitOn_intercalate {mark : α} {pieces : List (List α)} {token : List α}
    (member : token ∈ ([mark].intercalate pieces).splitOn mark) :
    token = [] ∨ ∃ piece ∈ pieces, token ∈ piece.splitOn mark := by
  induction pieces with
  | nil =>
      left
      simpa using member
  | cons piece rest ih =>
      cases rest with
      | nil =>
          rw [List.intercalate_singleton] at member
          exact Or.inr ⟨piece, List.mem_cons_self, member⟩
      | cons next more =>
          rw [List.intercalate_cons_cons, List.append_assoc, List.singleton_append,
            List.splitOn_append_cons_self, List.mem_append] at member
          rcases member with here | later
          · exact Or.inr ⟨piece, List.mem_cons_self, here⟩
          · rcases ih later with empty | ⟨found, among, inside⟩
            · exact Or.inl empty
            · exact Or.inr ⟨found, List.mem_cons_of_mem _ among, inside⟩

theorem two_marks_unique {mark : α} {first second third kind name rest : List α}
    (absentFirst : mark ∉ first) (absentSecond : mark ∉ second) (absentThird : mark ∉ third)
    (same : first ++ mark :: (second ++ mark :: third) = kind ++ mark :: (name ++ mark :: rest)) :
    first = kind ∧ second = name ∧ third = rest := by
  have cut := congrArg (List.splitOn mark) same
  rw [List.splitOn_append_cons_self_of_not_mem absentFirst,
    List.splitOn_append_cons_self_of_not_mem absentSecond, List.splitOn_eq_singleton absentThird,
    List.splitOn_append_cons_self, List.splitOn_append_cons_self] at cut
  obtain ⟨kindHead, kindTail, kindCut⟩ := List.exists_cons_of_ne_nil (List.splitOn_ne_nil mark kind)
  obtain ⟨nameHead, nameTail, nameCut⟩ := List.exists_cons_of_ne_nil (List.splitOn_ne_nil mark name)
  obtain ⟨restHead, restTail, restCut⟩ := List.exists_cons_of_ne_nil (List.splitOn_ne_nil mark rest)
  have wholeKind : [mark].intercalate (kind.splitOn mark) = kind := List.intercalate_splitOn mark
  have wholeName : [mark].intercalate (name.splitOn mark) = name := List.intercalate_splitOn mark
  have wholeRest : [mark].intercalate (rest.splitOn mark) = rest := List.intercalate_splitOn mark
  rw [kindCut, nameCut, restCut] at cut
  rw [kindCut] at wholeKind
  rw [nameCut] at wholeName
  rw [restCut] at wholeRest
  have lengths := congrArg List.length cut
  simp only [List.length_cons, List.length_append, List.length_nil] at lengths
  have noKind : kindTail = [] := List.length_eq_zero_iff.mp (by omega)
  have noName : nameTail = [] := List.length_eq_zero_iff.mp (by omega)
  have noRest : restTail = [] := List.length_eq_zero_iff.mp (by omega)
  subst noKind noName noRest
  simp only [List.intercalate_singleton] at wholeKind wholeName wholeRest
  subst wholeKind wholeName wholeRest
  simpa using cut

theorem not_infix_of_mark {mark item : α} {rest front back : List α} (absent : mark ∉ front)
    (without : item ∉ back) : ¬ (mark :: item :: rest) <:+: (front ++ mark :: back) := by
  intro occurs
  obtain ⟨left, right, whole⟩ := occurs
  have shape : left ++ mark :: (item :: rest ++ right) = front ++ mark :: back := by
    rw [← whole]
    simp
  have cut := splitOnce_append absent back
  rw [← shape] at cut
  by_cases earlier : mark ∈ left
  · cases opening : splitOnce mark left with
    | none => exact splitOnce_none_iff.mp opening earlier
    | some pair =>
        obtain ⟨split, clear⟩ := splitOnce_some_iff.mp opening
        rw [split, List.append_assoc, List.cons_append, splitOnce_append clear] at cut
        cases cut
        exact without (by simp)
  · rw [splitOnce_append earlier] at cut
    cases cut
    exact without (by simp)

theorem takeWhile_append_mark (mark : α) (front back : List α) :
    (front ++ mark :: back).takeWhile (· ≠ mark) = front.takeWhile (· ≠ mark) := by
  induction front with
  | nil => simp
  | cons item rest ih =>
      rw [List.cons_append, List.takeWhile_cons, List.takeWhile_cons, ih]

theorem takeWhile_of_absent {mark : α} {items : List α} (absent : mark ∉ items) :
    items.takeWhile (· ≠ mark) = items := by
  apply List.takeWhile_eq_self_iff.mpr
  intro item member
  apply decide_eq_true
  rintro rfl
  exact absent member

end Split
