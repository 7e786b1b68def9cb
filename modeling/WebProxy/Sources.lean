import Mathlib.Data.Nat.Notation
import Mathlib.Tactic.NormNum

/-! The adaptive chunk plan of `sources.rs`. -/

namespace WebProxy.Sources

def mib : Nat := 1024 * 1024

def chunkMinBytes : Nat := 8 * mib

def chunkMaxBytes : Nat := 32 * mib

def concurrencyMin : Nat := 4

def concurrencyMax : Nat := 16

def targetInflightSecs : Nat := 2

def wrap (value : Nat) : Nat := value % 2 ^ 64

def saturatingMul (left right : Nat) : Nat := min (left * right) (2 ^ 64 - 1)

def chunkPlanFor (totalBps : Nat) : Nat × Nat :=
  if totalBps = 0 then (chunkMinBytes, concurrencyMin)
  else
    let mibPerSec := totalBps / mib
    let chunkBytes :=
      if mibPerSec ≤ 49 then chunkMinBytes
      else if mibPerSec ≤ 149 then 16 * mib
      else chunkMaxBytes
    let inflight := saturatingMul totalBps targetInflightSecs
    let concurrency := wrap (wrap (inflight + chunkBytes) + 2 ^ 64 - 1) / chunkBytes
    (chunkBytes, max concurrencyMin (min concurrency concurrencyMax))

theorem chunkPlanFor_bytes (totalBps : Nat) :
    (chunkPlanFor totalBps).1 = 8 * mib ∨ (chunkPlanFor totalBps).1 = 16 * mib ∨
      (chunkPlanFor totalBps).1 = 32 * mib := by
  unfold chunkPlanFor
  split
  · exact Or.inl rfl
  · simp only
    split
    · exact Or.inl rfl
    · split
      · exact Or.inr (Or.inl rfl)
      · exact Or.inr (Or.inr rfl)

theorem chunkPlanFor_bounds (totalBps : Nat) :
    0 < (chunkPlanFor totalBps).1 ∧ (chunkPlanFor totalBps).1 < 2 ^ 64 := by
  rcases chunkPlanFor_bytes totalBps with bytes | bytes | bytes <;> rw [bytes] <;> decide

end WebProxy.Sources
