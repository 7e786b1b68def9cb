import Mathlib.Algebra.BigOperators.Group.List.Basic
import Mathlib.Algebra.Order.BigOperators.Group.List
import Mathlib.Algebra.Order.Field.Basic
import Mathlib.Order.Interval.Set.OrdConnected
import Mathlib.Tactic.Linarith

/-! Choosing an index by weight: the weights are taken off a target one by one, and the one that uses it up
is chosen. -/

namespace Cumulative

variable {K : Type} [Field K]

def before (weights : List K) (index : Nat) : K := (weights.take index).sum

@[simp] theorem before_zero (weights : List K) : before weights 0 = 0 := by
  rw [before, List.take_zero, List.sum_nil]

@[simp] theorem before_cons_succ (weight : K) (rest : List K) (index : Nat) :
    before (weight :: rest) (index + 1) = weight + before rest index := by
  rw [before, List.take_succ_cons, List.sum_cons, ← before]

theorem before_succ {weights : List K} {index : Nat} {weight : K} (found : weights[index]? = some weight) :
    before weights (index + 1) = before weights index + weight := by
  rw [before, List.take_add_one, found, Option.toList_some, List.sum_append, List.sum_singleton, ← before]

variable [LinearOrder K]

def pick : List K → K → Option Nat
  | [], _ => none
  | weight :: rest, target =>
      if target - weight ≤ 0 then some 0 else (pick rest (target - weight)).map (· + 1)

structure IsInterval (points : Set K) (length : K) : Prop where
  connected : points.OrdConnected
  ends : ∃ start stop, stop - start = length ∧ Set.Ioo start stop ⊆ points ∧ points ⊆ Set.Icc start stop

variable [IsStrictOrderedRing K]

theorem before_nonneg {weights : List K} (nonneg : ∀ weight ∈ weights, 0 ≤ weight) (index : Nat) :
    0 ≤ before weights index := by
  apply List.sum_nonneg
  intro weight member
  exact nonneg weight (List.mem_of_mem_take member)

theorem before_le_sum {weights : List K} (nonneg : ∀ weight ∈ weights, 0 ≤ weight) (index : Nat) :
    before weights index ≤ weights.sum := by
  have rest : 0 ≤ (weights.drop index).sum := by
    apply List.sum_nonneg
    intro weight member
    exact nonneg weight (List.mem_of_mem_drop member)
  have whole : before weights index + (weights.drop index).sum = weights.sum := by
    rw [before, ← List.sum_append, List.take_append_drop]
  linarith

theorem pick_eq_some_iff {weights : List K} (nonneg : ∀ weight ∈ weights, 0 ≤ weight) {target : K}
    {index : Nat} : pick weights target = some index ↔
      index < weights.length ∧ (index = 0 ∨ before weights index < target) ∧
        target ≤ before weights (index + 1) := by
  induction weights generalizing target index with
  | nil => simp [pick]
  | cons weight rest ih =>
      have others : ∀ other ∈ rest, 0 ≤ other :=
        fun other member => nonneg other (List.mem_cons_of_mem _ member)
      rw [pick]
      cases index with
      | zero =>
          rw [before_cons_succ, before_zero, before_zero, add_zero]
          by_cases reached : target - weight ≤ 0
          · rw [if_pos reached]
            exact iff_of_true rfl ⟨Nat.succ_pos _, Or.inl rfl, by linarith⟩
          · rw [if_neg reached]
            apply iff_of_false
            · simp
            · intro chosen
              exact reached (by linarith [chosen.2.2])
      | succ index =>
          have some_before := before_nonneg others index
          rw [before_cons_succ, before_cons_succ, List.length_cons]
          by_cases reached : target - weight ≤ 0
          · rw [if_pos reached]
            apply iff_of_false
            · simp
            · intro chosen
              have later := chosen.2.1.resolve_left (Nat.succ_ne_zero index)
              linarith
          · rw [if_neg reached, Option.map_eq_some_iff]
            simp only [Nat.succ_inj, exists_eq_right, ih others]
            constructor
            · intro chosen
              refine ⟨by omega, Or.inr ?_, by linarith [chosen.2.2]⟩
              rcases chosen.2.1 with rfl | later
              · rw [before_zero]
                linarith
              · linarith
            · intro chosen
              have later := chosen.2.1.resolve_left (Nat.succ_ne_zero index)
              exact ⟨by omega, Or.inr (by linarith), by linarith [chosen.2.2]⟩

theorem pick_total {weights : List K} (some_weight : weights ≠ []) {target : K}
    (reached : target ≤ weights.sum) : ∃ index, pick weights target = some index := by
  induction weights generalizing target with
  | nil => exact absurd rfl some_weight
  | cons weight rest ih =>
      rw [List.sum_cons] at reached
      rw [pick]
      by_cases now : target - weight ≤ 0
      · exact ⟨0, if_pos now⟩
      · have more : rest ≠ [] := by
          rintro rfl
          rw [List.sum_nil] at reached
          exact now (by linarith)
        obtain ⟨index, chosen⟩ := ih more (by linarith : target - weight ≤ rest.sum)
        rw [if_neg now, chosen]
        exact ⟨index + 1, rfl⟩

theorem picked_pos_iff {weights : List K} (nonneg : ∀ weight ∈ weights, 0 ≤ weight) {target : K}
    {index : Nat} (chosen : pick weights target = some index) {weight : K}
    (found : weights[index]? = some weight) :
    0 < weight ↔ 0 < target ∨ ∃ first, weights[0]? = some first ∧ 0 < first := by
  obtain ⟨_, after, upTo⟩ := (pick_eq_some_iff nonneg).mp chosen
  rw [before_succ found] at upTo
  rcases after with rfl | after
  · rw [before_zero, zero_add] at upTo
    rw [found]
    constructor
    · intro positive
      exact Or.inr ⟨weight, rfl, positive⟩
    · rintro (positive | ⟨first, same, positive⟩)
      · linarith
      · rw [Option.some.inj same]
        exact positive
  · have some_before := before_nonneg nonneg index
    exact iff_of_true (by linarith) (Or.inl (by linarith))

theorem pick_units {weights : List K} (nonneg : ∀ weight ∈ weights, 0 ≤ weight) (positive : 0 < weights.sum)
    {index : Nat} {weight : K} (found : weights[index]? = some weight) :
    IsInterval {unit : K | 0 ≤ unit ∧ unit < 1 ∧ pick weights (unit * weights.sum) = some index}
      (weight / weights.sum) := by
  have inside : index < weights.length := (List.getElem?_eq_some_iff.mp found).1
  have low := before_nonneg nonneg index
  have high := before_le_sum nonneg (index + 1)
  constructor
  · constructor
    rintro first ⟨first_low, _, first_picks⟩ last ⟨_, last_high, last_picks⟩ unit ⟨left, right⟩
    obtain ⟨_, after, _⟩ := (pick_eq_some_iff nonneg).mp first_picks
    obtain ⟨_, _, upTo⟩ := (pick_eq_some_iff nonneg).mp last_picks
    refine ⟨first_low.trans left, right.trans_lt last_high, (pick_eq_some_iff nonneg).mpr ⟨inside, ?_, ?_⟩⟩
    · rcases after with zero | after
      · exact Or.inl zero
      · exact Or.inr (after.trans_le (mul_le_mul_of_nonneg_right left positive.le))
    · exact (mul_le_mul_of_nonneg_right right positive.le).trans upTo
  · refine ⟨before weights index / weights.sum, before weights (index + 1) / weights.sum, ?_, ?_, ?_⟩
    · rw [before_succ found, ← sub_div, add_sub_cancel_left]
    · rintro unit ⟨left, right⟩
      have after := (div_lt_iff₀ positive).mp left
      have upTo := (lt_div_iff₀ positive).mp right
      refine ⟨(div_nonneg low positive.le).trans left.le, ?_, ?_⟩
      · exact right.trans_le ((div_le_one positive).mpr high)
      · exact (pick_eq_some_iff nonneg).mpr ⟨inside, Or.inr after, upTo.le⟩
    · rintro unit ⟨unit_low, _, picks⟩
      obtain ⟨_, after, upTo⟩ := (pick_eq_some_iff nonneg).mp picks
      refine ⟨?_, (le_div_iff₀ positive).mpr upTo⟩
      rcases after with rfl | after
      · rw [before_zero, zero_div]
        exact unit_low
      · exact ((div_lt_iff₀ positive).mpr after).le

end Cumulative
