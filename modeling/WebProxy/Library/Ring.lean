import Mathlib.Data.List.Induction

/-! A queue of a fixed capacity that drops its oldest entry for a new one, against the whole history of what
was pushed. -/

namespace Ring

variable {α : Type}

def push (capacity : Nat) (queue : List α) (entry : α) : List α :=
  (if queue.length = capacity then queue.tail else queue) ++ [entry]

def latest (capacity : Nat) (history : List α) : List α := history.drop (history.length - capacity)

@[simp] theorem latest_nil (capacity : Nat) : latest capacity ([] : List α) = [] := List.drop_nil

theorem length_latest (capacity : Nat) (history : List α) :
    (latest capacity history).length = min history.length capacity := by
  rw [latest, List.length_drop]
  omega

theorem latest_suffix (capacity : Nat) (history : List α) : latest capacity history <:+ history :=
  List.drop_suffix _ _

theorem latest_of_le {capacity : Nat} {history : List α} (fits : history.length ≤ capacity) :
    latest capacity history = history := by
  rw [latest, Nat.sub_eq_zero_of_le fits, List.drop_zero]

theorem mem_of_mem_latest {capacity : Nat} {history : List α} {entry : α}
    (member : entry ∈ latest capacity history) : entry ∈ history :=
  (latest_suffix capacity history).subset member

theorem push_latest {capacity : Nat} (positive : 0 < capacity) (history : List α) (entry : α) :
    push capacity (latest capacity history) entry = latest capacity (history ++ [entry]) := by
  rw [push, length_latest]
  by_cases full : capacity ≤ history.length
  · rw [if_pos (Nat.min_eq_right full), latest, latest, List.tail_drop, List.length_append,
      List.length_singleton, List.drop_append_of_le_length (by omega)]
    congr 2
    omega
  · rw [if_neg (by omega), latest_of_le (by omega), latest_of_le]
    rw [List.length_append, List.length_singleton]
    omega

theorem foldl_push {capacity : Nat} (positive : 0 < capacity) (history : List α) :
    history.foldl (push capacity) [] = latest capacity history := by
  induction history using List.reverseRecOn with
  | nil => exact (latest_nil capacity).symm
  | append_singleton history entry ih =>
      rw [List.foldl_append, List.foldl_cons, List.foldl_nil, ih, push_latest positive]

end Ring
