import Mathlib.Data.List.Induction
import Mathlib.Data.List.Perm.Basic

/-! Lists read as slots: what replacing the content of one slot does to the others and to the
number of slots of a kind. -/

namespace Slots

variable {α : Type}

theorem lt_of_get {slots : List α} {index : Nat} {held : α} (found : slots[index]? = some held) :
    index < slots.length :=
  (List.getElem?_eq_some_iff.mp found).1

theorem get_set_self {slots : List α} {index : Nat} {held : α} (next : α)
    (found : slots[index]? = some held) : (slots.set index next)[index]? = some next :=
  List.getElem?_set_self (lt_of_get found)

theorem get_set_cases {slots : List α} {index other : Nat} {next held : α}
    (found : (slots.set index next)[other]? = some held) :
    other = index ∧ held = next ∨ other ≠ index ∧ slots[other]? = some held := by
  by_cases same : other = index
  · subst same
    have bound : other < slots.length := by simpa using lt_of_get found
    rw [List.getElem?_set_self bound] at found
    exact Or.inl ⟨rfl, (Option.some.inj found).symm⟩
  · rw [List.getElem?_set_ne (Ne.symm same)] at found
    exact Or.inr ⟨same, found⟩

theorem get_set_other {slots : List α} {index other : Nat} {next held : α}
    (found : (slots.set index next)[other]? = some held) (differs : held ≠ next) :
    other ≠ index ∧ slots[other]? = some held := by
  rcases get_set_cases found with ⟨_, same⟩ | kept
  · exact absurd same differs
  · exact kept

theorem set_keeps {property : α → Prop} {slots : List α} {index other : Nat} {held next : α}
    (located : slots[index]? = some held) (keeps : property held → property next)
    (holds : ∃ found, slots[other]? = some found ∧ property found) :
    ∃ found, (slots.set index next)[other]? = some found ∧ property found := by
  obtain ⟨found, there, good⟩ := holds
  by_cases same : other = index
  · subst same
    rw [located] at there
    cases there
    exact ⟨next, get_set_self next located, keeps good⟩
  · exact ⟨found, (List.getElem?_set_ne (Ne.symm same)).trans there, good⟩

theorem forall₂_set {β : Type} {relation : α → β → Prop} {slots : List α} {others : List β}
    (related : List.Forall₂ relation slots others) {held : α} {other : β} (new : relation held other)
    (index : Nat) : List.Forall₂ relation (slots.set index held) (others.set index other) := by
  induction related generalizing index with
  | nil => exact .nil
  | cons head tail ih =>
      cases index with
      | zero => exact .cons new tail
      | succ index => exact .cons head (ih index)

theorem get_snoc {slots : List α} {index : Nat} {held : α} (last : α)
    (found : slots[index]? = some held) : (slots ++ [last])[index]? = some held := by
  rw [List.getElem?_append_left (lt_of_get found), found]

theorem get_snoc_cases {slots : List α} {index : Nat} {last held : α}
    (found : (slots ++ [last])[index]? = some held) :
    slots[index]? = some held ∨ index = slots.length ∧ held = last := by
  by_cases inside : index < slots.length
  · rw [List.getElem?_append_left inside] at found
    exact Or.inl found
  · have bound := lt_of_get found
    rw [List.length_append, List.length_singleton] at bound
    have same : index = slots.length := by omega
    subst same
    rw [List.getElem?_concat_length] at found
    exact Or.inr ⟨rfl, (Option.some.inj found).symm⟩

theorem countP_set (kind : α → Bool) {slots : List α} {index : Nat} {held : α} (next : α)
    (found : slots[index]? = some held) :
    (slots.set index next).countP kind + (if kind held then 1 else 0) =
      slots.countP kind + (if kind next then 1 else 0) := by
  obtain ⟨bound, value⟩ := List.getElem?_eq_some_iff.mp found
  have counted : kind held = true → 0 < slots.countP kind := by
    intro holds
    exact List.countP_pos_iff.mpr ⟨held, List.mem_of_getElem? found, holds⟩
  rw [List.countP_set bound, value]
  by_cases holds : kind held = true
  · have positive := counted holds
    simp only [holds, if_true]
    omega
  · simp only [holds, Bool.false_eq_true, if_false]
    omega

theorem countP_eq_indices (kind : α → Bool) (slots : List α) :
    slots.countP kind = ((List.range slots.length).filter (fun index => slots[index]?.any kind)).length := by
  induction slots using List.reverseRecOn with
  | nil => rfl
  | append_singleton slots last ih =>
      have front : (List.range slots.length).filter (fun index => (slots ++ [last])[index]?.any kind) =
          (List.range slots.length).filter (fun index => slots[index]?.any kind) := by
        apply List.filter_congr
        intro index inside
        rw [List.getElem?_append_left (List.mem_range.mp inside)]
      rw [List.length_append, List.length_singleton, List.range_succ, List.filter_append, front,
        List.length_append, ← ih, List.countP_append, List.countP_singleton]
      cases holds : kind last <;> simp [holds]

theorem countP_le_of_covered (kind : α → Bool) {slots : List α} {numbers : List Nat}
    (covered : ∀ (index : Nat) (held : α), slots[index]? = some held → kind held = true →
      index ∈ numbers) : slots.countP kind ≤ numbers.length := by
  rw [countP_eq_indices]
  have distinct : ((List.range slots.length).filter (fun index => slots[index]?.any kind)).Nodup :=
    List.nodup_range.filter _
  apply (List.subperm_of_subset distinct ?_).length_le
  intro index member
  obtain ⟨_, alike⟩ := List.mem_filter.mp member
  obtain ⟨held, found, holds⟩ := (Option.any_eq_true ..).mp alike
  exact covered index held found holds

end Slots
