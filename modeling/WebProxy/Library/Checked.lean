import Mathlib.Data.List.Basic
import Mathlib.Tactic.NormNum

/-! Arithmetic of 64-bit words and slices of sequences that fail where they leave the range. -/

namespace Checked

def add (left right : Nat) : Option Nat := if left + right < 2 ^ 64 then some (left + right) else none

def sub (left right : Nat) : Option Nat := if right ≤ left then some (left - right) else none

def slice {α : Type} (items : List α) (start stop : Nat) : Option (List α) :=
  if start ≤ stop ∧ stop ≤ items.length then some ((items.drop start).take (stop - start)) else none

theorem add_of_lt {left right : Nat} (fits : left + right < 2 ^ 64) :
    add left right = some (left + right) := if_pos fits

theorem add_of_le {left right : Nat} (wide : 2 ^ 64 ≤ left + right) : add left right = none :=
  if_neg (Nat.not_lt_of_le wide)

theorem sub_of_le {left right : Nat} (fits : right ≤ left) : sub left right = some (left - right) :=
  if_pos fits

theorem slice_of_le {α : Type} {items : List α} {start stop : Nat} (ordered : start ≤ stop)
    (inside : stop ≤ items.length) :
    slice items start stop = some ((items.drop start).take (stop - start)) := if_pos ⟨ordered, inside⟩

theorem slice_rest {α : Type} {items : List α} {start : Nat} (inside : start ≤ items.length) :
    slice items start items.length = some (items.drop start) := by
  rw [slice_of_le inside (Nat.le_refl _), List.take_of_length_le (Nat.le_of_eq List.length_drop)]

end Checked
