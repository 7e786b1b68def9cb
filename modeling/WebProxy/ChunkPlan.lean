import WebProxy.Library.Checked
import WebProxy.Sources

/-! The arithmetic of the adaptive chunk plan: where it leaves the range of a `u64`, and how much data
the plans keep in flight. -/

namespace WebProxy.Sources

def checkedPlanFor (totalBps : Nat) : Option (Nat × Nat) :=
  if totalBps = 0 then some (chunkMinBytes, concurrencyMin)
  else
    let mibPerSec := totalBps / mib
    let chunkBytes :=
      if mibPerSec ≤ 49 then chunkMinBytes
      else if mibPerSec ≤ 149 then 16 * mib
      else chunkMaxBytes
    let inflight := saturatingMul totalBps targetInflightSecs
    (Checked.add inflight chunkBytes).bind (fun sum =>
      (Checked.sub sum 1).map (fun last =>
        (chunkBytes, max concurrencyMin (min (last / chunkBytes) concurrencyMax))))

def budget (totalBps : Nat) : Nat := (chunkPlanFor totalBps).1 * (chunkPlanFor totalBps).2

structure PlanSound (totalBps : Nat) : Prop where
  evaluates : checkedPlanFor totalBps = some (chunkPlanFor totalBps)
  chunk : (chunkPlanFor totalBps).1 = 8 * mib ∨ (chunkPlanFor totalBps).1 = 16 * mib ∨
    (chunkPlanFor totalBps).1 = 32 * mib
  concurrency : 4 ≤ (chunkPlanFor totalBps).2 ∧ (chunkPlanFor totalBps).2 ≤ 16
  covers : min (2 * totalBps) (16 * (chunkPlanFor totalBps).1) ≤ budget totalBps

def bandBytes (totalBps : Nat) : Nat :=
  if totalBps / mib ≤ 49 then 8 * mib else if totalBps / mib ≤ 149 then 16 * mib else 32 * mib

def streams (totalBps : Nat) : Nat :=
  max 4 (min ((2 * totalBps + bandBytes totalBps - 1) / bandBytes totalBps) 16)

theorem bandBytes_cases (totalBps : Nat) :
    totalBps < 50 * mib ∧ bandBytes totalBps = 8 * mib ∨
      50 * mib ≤ totalBps ∧ totalBps < 150 * mib ∧ bandBytes totalBps = 16 * mib ∨
      150 * mib ≤ totalBps ∧ bandBytes totalBps = 32 * mib := by
  rw [bandBytes]
  by_cases slow : totalBps / mib ≤ 49
  · rw [if_pos slow]
    exact Or.inl ⟨by rw [mib] at *; omega, rfl⟩
  · rw [if_neg slow]
    by_cases middle : totalBps / mib ≤ 149
    · rw [if_pos middle]
      exact Or.inr (Or.inl ⟨by rw [mib] at *; omega, by rw [mib] at *; omega, rfl⟩)
    · rw [if_neg middle]
      exact Or.inr (Or.inr ⟨by rw [mib] at *; omega, rfl⟩)

theorem plan_of_fits {totalBps : Nat} (fits : 2 * totalBps + 32 * mib < 2 ^ 64) :
    chunkPlanFor totalBps = (bandBytes totalBps, streams totalBps) ∧
      checkedPlanFor totalBps = some (bandBytes totalBps, streams totalBps) := by
  by_cases idle : totalBps = 0
  · subst idle
    decide
  · have band : (if totalBps / mib ≤ 49 then chunkMinBytes
        else if totalBps / mib ≤ 149 then 16 * mib else chunkMaxBytes) = bandBytes totalBps := rfl
    have narrow : 0 < bandBytes totalBps ∧ bandBytes totalBps ≤ 32 * mib := by
      rcases bandBytes_cases totalBps with ⟨_, bytes⟩ | ⟨_, _, bytes⟩ | ⟨_, bytes⟩ <;> rw [bytes] <;>
        decide
    have inflight : saturatingMul totalBps targetInflightSecs = 2 * totalBps := by
      rw [saturatingMul, targetInflightSecs]
      omega
    have sum : wrap (2 * totalBps + bandBytes totalBps) = 2 * totalBps + bandBytes totalBps :=
      Nat.mod_eq_of_lt (by omega)
    have last : wrap (2 * totalBps + bandBytes totalBps + 2 ^ 64 - 1) =
        2 * totalBps + bandBytes totalBps - 1 := by
      rw [wrap]
      omega
    rw [chunkPlanFor, checkedPlanFor, if_neg idle, if_neg idle]
    simp only [band, inflight, sum, last, Checked.add_of_lt (show 2 * totalBps + bandBytes totalBps < 2 ^ 64 by omega),
      Checked.sub_of_le (show 1 ≤ 2 * totalBps + bandBytes totalBps by omega), Option.bind_some,
      Option.map_some, streams, concurrencyMin, concurrencyMax, and_self]

theorem streams_cover (totalBps : Nat) :
    min (2 * totalBps) (16 * bandBytes totalBps) ≤ bandBytes totalBps * streams totalBps := by
  rcases bandBytes_cases totalBps with ⟨_, bytes⟩ | ⟨_, _, bytes⟩ | ⟨_, bytes⟩ <;>
    rw [streams, bytes, mib] <;> omega

theorem budget_mono {first second : Nat} (order : first ≤ second) :
    bandBytes first * streams first ≤ bandBytes second * streams second := by
  rcases bandBytes_cases first with ⟨low, bytes⟩ | ⟨low, high, bytes⟩ | ⟨low, bytes⟩ <;>
    rcases bandBytes_cases second with ⟨below, size⟩ | ⟨above, below, size⟩ | ⟨above, size⟩ <;>
    rw [streams, bytes, streams, size] <;> simp only [mib] at * <;> omega

theorem planSound_of_fits {totalBps : Nat} (fits : 2 * totalBps + 32 * mib < 2 ^ 64) :
    PlanSound totalBps := by
  obtain ⟨plan, checked⟩ := plan_of_fits fits
  refine ⟨by rw [plan, checked], chunkPlanFor_bytes totalBps, ?_, ?_⟩
  · rw [plan, streams]
    omega
  · rw [budget, plan]
    exact streams_cover totalBps

theorem checkedPlanFor_none {totalBps : Nat} (large : 2 ^ 64 ≤ 2 * totalBps + 32 * mib) :
    checkedPlanFor totalBps = none := by
  have fast : 150 * mib ≤ totalBps := by
    rw [mib] at large ⊢
    omega
  have band : (if totalBps / mib ≤ 49 then chunkMinBytes
      else if totalBps / mib ≤ 149 then 16 * mib else chunkMaxBytes) = 32 * mib := by
    rw [if_neg (by rw [mib] at *; omega), if_neg (by rw [mib] at *; omega), chunkMaxBytes]
  have over64 : ¬ saturatingMul totalBps targetInflightSecs + 32 * mib < 2 ^ 64 := by
    rw [saturatingMul, targetInflightSecs, mib] at *
    omega
  rw [checkedPlanFor, if_neg (by rw [mib] at fast; omega)]
  simp only [band, Checked.add, if_neg over64, Option.bind_none]

/-- Plans evaluate within the range, have their bounds, grow with the throughput and cover two seconds
of it, exactly as long as twice the larger throughput and a chunk fit in a `u64`. -/
theorem chunk_plans_sound_iff (first second : Nat) (order : first ≤ second) :
    (PlanSound first ∧ PlanSound second ∧ budget first ≤ budget second) ↔
      2 * second + 32 * mib < 2 ^ 64 := by
  constructor
  · intro sound
    by_contra large
    have none := checkedPlanFor_none (Nat.not_lt.mp large)
    rw [sound.2.1.evaluates] at none
    cases none
  · intro fits
    have earlier : 2 * first + 32 * mib < 2 ^ 64 := by omega
    refine ⟨planSound_of_fits earlier, planSound_of_fits fits, ?_⟩
    rw [budget, budget, (plan_of_fits earlier).1, (plan_of_fits fits).1]
    exact budget_mono order

theorem chunk_plans_sound_bands :
    PlanSound (149 * mib) ∧ PlanSound (150 * mib) ∧ budget (149 * mib) ≤ budget (150 * mib) :=
  (chunk_plans_sound_iff (149 * mib) (150 * mib) (by decide)).mpr (by decide)

/-- Half of the range: the sum leaves it, and what is left after the wrap asks for the fewest streams. -/
theorem plan_overflows :
    checkedPlanFor (2 ^ 63) = none ∧ chunkPlanFor (2 ^ 63) = (32 * mib, 4) ∧
      budget (2 ^ 63) < budget (150 * mib) ∧
      ¬ (PlanSound (150 * mib) ∧ PlanSound (2 ^ 63) ∧ budget (150 * mib) ≤ budget (2 ^ 63)) := by
  have less : budget (2 ^ 63) < budget (150 * mib) := by decide
  refine ⟨by decide, by decide, less, ?_⟩
  intro sound
  exact Nat.not_le.mpr less sound.2.2

end WebProxy.Sources
