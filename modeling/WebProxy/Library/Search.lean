import Mathlib.Data.List.Infix
import WebProxy.Library.Split

/-! Searching a sequence for a pattern that has no mark in it: the pattern lies between two marks, so the
sequence can be searched piece by piece. -/

namespace Search

open Split (find find_some_iff find_of_occurs)

variable {α : Type}

theorem prefix_before_mark {mark : α} {pattern front back : List α} (plain : mark ∉ pattern)
    (starts : pattern <+: front ++ mark :: back) : pattern <+: front := by
  refine List.prefix_of_prefix_length_le starts (List.prefix_append _ _) ?_
  by_contra long
  apply plain
  have placed : (front ++ mark :: back)[front.length]? = some mark := by simp
  obtain ⟨behind, shape⟩ := starts
  rw [← shape, List.getElem?_append_left (by omega)] at placed
  exact List.mem_of_getElem? placed

structure Inside (mark : α) (pattern : List α) : Prop where
  some_item : pattern ≠ []
  plain : mark ∉ pattern

def Whole (mark : α) (items : List α) : Prop := items = [] ∨ ∃ front, items = front ++ [mark]

theorem Whole.append {mark : α} {first second : List α} (left : Whole mark first) (right : Whole mark second) :
    Whole mark (first ++ second) := by
  rcases right with rfl | ⟨front, rfl⟩
  · rwa [List.append_nil]
  · exact Or.inr ⟨first ++ front, (List.append_assoc _ _ _).symm⟩

variable [DecidableEq α]

theorem find_none_iff {pattern items : List α} (some_item : pattern ≠ []) :
    find pattern items = none ↔ ¬ pattern <:+: items := by
  constructor
  · rintro absent ⟨front, back, shape⟩
    have occurs : pattern <+: items.drop front.length := by
      rw [← shape, List.append_assoc, List.drop_left]
      exact List.prefix_append _ _
    obtain ⟨first, _, found⟩ := find_of_occurs some_item occurs
    rw [absent] at found
    cases found
  · intro absent
    cases found : find pattern items with
    | none => rfl
    | some place =>
        obtain ⟨behind, shape⟩ := ((find_some_iff some_item).mp found).1
        refine absurd ⟨items.take place, behind, ?_⟩ absent
        rw [List.append_assoc, shape, List.take_append_drop]

theorem find_front (pattern behind : List α) : find pattern (pattern ++ behind) = some 0 := by
  cases pattern with
  | nil =>
      cases behind with
      | nil => rfl
      | cons item rest => rfl
  | cons first rest =>
      rw [List.cons_append, find, if_pos]
      exact List.isPrefixOf_iff_prefix.mpr (List.prefix_append _ _)

theorem find_behind_mark {mark : α} {pattern front : List α} (within : Inside mark pattern)
    (absent : ¬ pattern <:+: front) (back : List α) :
    find pattern (front ++ mark :: back) = (find pattern back).map (· + (front.length + 1)) := by
  induction front with
  | nil =>
      have elsewhere : ¬ pattern.isPrefixOf (mark :: back) = true := by
        rw [List.isPrefixOf_iff_prefix]
        intro starts
        exact within.some_item (List.prefix_nil.mp (prefix_before_mark within.plain starts))
      rw [List.nil_append, find, if_neg elsewhere, List.length_nil]
  | cons item front ih =>
      have elsewhere : ¬ pattern.isPrefixOf (item :: (front ++ mark :: back)) = true := by
        rw [List.isPrefixOf_iff_prefix]
        intro starts
        exact absent (prefix_before_mark within.plain starts).isInfix
      have later : ¬ pattern <:+: front := by
        intro inside
        exact absent (inside.trans (List.suffix_cons item front).isInfix)
      rw [List.cons_append, find, if_neg elsewhere, ih later, Option.map_map]
      rfl

theorem find_behind_whole {mark : α} {pattern front : List α} (within : Inside mark pattern)
    (whole : Whole mark front) (absent : ¬ pattern <:+: front) (back : List α) :
    find pattern (front ++ back) = (find pattern back).map (· + front.length) := by
  rcases whole with rfl | ⟨lead, rfl⟩
  · exact Option.map_id'.symm
  · have before : ¬ pattern <:+: lead := by
      intro inside
      exact absent (inside.trans (List.prefix_append _ _).isInfix)
    rw [List.append_assoc, List.singleton_append, find_behind_mark within before,
      List.length_append, List.length_singleton]

theorem infix_at_mark {mark : α} {pattern front back : List α} (within : Inside mark pattern)
    (inside : pattern <:+: front ++ mark :: back) :
    pattern <:+: front ∨ pattern <:+: back := by
  by_contra neither
  rw [not_or] at neither
  have searched := find_behind_mark within neither.1 back
  rw [(find_none_iff within.some_item).mpr neither.2, Option.map_none, find_none_iff within.some_item] at searched
  exact searched inside

end Search
