import Mathlib.Algebra.Order.Ring.Nat
import Mathlib.Tactic.Ring

/-! Weighted integer averages: the moving average that starts again at zero. -/

namespace Average

def mean (old new previous sample : Nat) : Nat := (previous * old + sample * new) / (old + new)

theorem mean_le {old new previous sample bound : Nat}
    (before : previous ≤ bound) (now : sample ≤ bound) : mean old new previous sample ≤ bound := by
  apply Nat.div_le_of_le_mul
  calc
    previous * old + sample * new ≤ bound * old + bound * new :=
      Nat.add_le_add (Nat.mul_le_mul_right old before) (Nat.mul_le_mul_right new now)
    _ = (old + new) * bound := by ring

theorem le_mean {old new previous sample bound : Nat} (positive : 0 < old + new)
    (before : bound ≤ previous) (now : bound ≤ sample) : bound ≤ mean old new previous sample := by
  rw [mean, Nat.le_div_iff_mul_le positive]
  calc
    bound * (old + new) = bound * old + bound * new := by ring
    _ ≤ previous * old + sample * new :=
      Nat.add_le_add (Nat.mul_le_mul_right old before) (Nat.mul_le_mul_right new now)

def moving (old new previous sample : Nat) : Nat :=
  if previous = 0 then sample else mean old new previous sample

theorem moving_le {old new previous sample bound : Nat}
    (before : previous ≤ bound) (now : sample ≤ bound) : moving old new previous sample ≤ bound := by
  rw [moving]
  split
  · exact now
  · exact mean_le before now

theorem le_moving {old new previous sample bound : Nat} (positive : 0 < old + new)
    (before : previous = 0 ∨ bound ≤ previous) (now : bound ≤ sample) :
    bound ≤ moving old new previous sample := by
  rw [moving]
  split
  · exact now
  · rename_i measured
    exact le_mean positive (before.resolve_left measured) now

end Average
