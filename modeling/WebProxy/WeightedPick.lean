import WebProxy.Library.Cumulative
import WebProxy.Sources
import Mathlib.Data.Rat.Defs
import Mathlib.Algebra.Order.Ring.Unbundled.Rat
import Mathlib.Algebra.Field.Rat

/-! `SourcePool::pick` of `sources.rs` with the weights as exact rationals: the generator behind the unit
value, the loop over the weights and the fallback. -/

namespace WebProxy.Sources

/-- The fields of a source's statistics that the score and the fallback read; `seen` says whether
`last_seen` is set. -/
structure SourceStats where
  success : Nat
  failure : Nat
  p50Ms : Nat
  rangeOk : Bool
  seen : Bool
  deriving DecidableEq, Repr

def SourceStats.default : SourceStats := ⟨0, 0, 0, false, false⟩

/-- The counters saturate; their sum in `u64` wraps. -/
def SourceStats.total (stats : SourceStats) : Nat := wrap (stats.success + stats.failure)

def SourceStats.rate (stats : SourceStats) : ℚ :=
  if stats.total = 0 then 0 else (stats.success : ℚ) / (stats.total : ℚ)

def SourceStats.score (stats : SourceStats) : ℚ :=
  let score := stats.rate / (1 + (stats.p50Ms : ℚ) / 1000)
  if stats.rangeOk then score * (11 / 10) else score

/-- A source that was never measured, or is known to take a Range request. -/
def SourceStats.usable (stats : SourceStats) : Bool := !stats.seen || stats.rangeOk

def mixedSeed (now : Nat) (seq : UInt64) : UInt64 :=
  let seed := UInt64.ofNat now ^^^ seq * 0x9E3779B97F4A7C15
  let seed := (seed ^^^ seed >>> 30) * 0xBF58476D1CE4E5B9
  let seed := (seed ^^^ seed >>> 27) * 0x94D049BB133111EB
  seed ^^^ seed >>> 31

/-- The highest 53 bits of the seed as a part of one; a float holds it without a loss. -/
def unitValue (now : Nat) (seq : UInt64) : ℚ := ((mixedSeed now seq >>> 11).toNat : ℚ) / 2 ^ 53

def pickLoop : Nat → List ℚ → ℚ → Option Nat
  | _, [], _ => none
  | index, weight :: rest, target =>
      if target - weight ≤ 0 then some index else pickLoop (index + 1) rest (target - weight)

def eligible (stats : List SourceStats) : List Nat :=
  (List.range stats.length).filter (fun index => (stats[index]?).any SourceStats.usable)

def candidates (stats : List SourceStats) (count : Nat) : List Nat :=
  if eligible stats = [] then List.range count else eligible stats

/-- The fallback; it fails where the remainder is taken by zero or the index is out of range. -/
def fallback (stats : List SourceStats) (count : Nat) (seq : UInt64) : Option Nat :=
  if (candidates stats count).length = 0 then none
  else (candidates stats count)[seq.toNat % (candidates stats count).length]?

/-- The picked index and the counter after it; a wrapped counter starts again. -/
def pick (weights : List ℚ) (stats : List SourceStats) (now : Nat) (seq : UInt64) : Option Nat × UInt64 :=
  if weights = [] then (some 0, seq)
  else if 0 < weights.sum then
    match pickLoop 0 weights (unitValue now seq * weights.sum) with
    | some index => (some index, seq + 1)
    | none => (fallback stats weights.length (seq + 1), seq + 1 + 1)
  else (fallback stats weights.length seq, seq + 1)

def recomputeWeights (stats : List SourceStats) (weights : List ℚ) : List ℚ :=
  (List.range weights.length).map (fun index => ((stats[index]?).map SourceStats.score).getD 0)

theorem score_nonneg (stats : SourceStats) : 0 ≤ stats.score := by
  have rate : 0 ≤ stats.rate := by
    rw [SourceStats.rate]
    split
    · exact le_rfl
    · positivity
  have slowed : 0 ≤ stats.rate / (1 + (stats.p50Ms : ℚ) / 1000) := div_nonneg rate (by positivity)
  unfold SourceStats.score
  dsimp only
  split
  · exact mul_nonneg slowed (by norm_num)
  · exact slowed

structure Pool where
  weights : List ℚ
  stats : List SourceStats
  seq : UInt64
  paired : stats.length = weights.length
  nonneg : ∀ weight ∈ weights, 0 ≤ weight

def Pool.new (count : Nat) : Pool where
  weights := List.replicate count 1
  stats := List.replicate count SourceStats.default
  seq := 0
  paired := by rw [List.length_replicate, List.length_replicate]
  nonneg := by
    intro weight member
    rw [List.eq_of_mem_replicate member]
    exact zero_le_one

def Pool.report (pool : Pool) (index : Nat) (change : SourceStats → SourceStats) : Pool where
  weights := recomputeWeights (pool.stats.modify index change) pool.weights
  stats := pool.stats.modify index change
  seq := pool.seq
  paired := by
    rw [List.length_modify, recomputeWeights, List.length_map, List.length_range, pool.paired]
  nonneg := by
    intro weight member
    obtain ⟨place, _, rfl⟩ := List.mem_map.mp member
    cases (pool.stats.modify index change)[place]? with
    | none => exact le_rfl
    | some stats => exact score_nonneg stats

def saturatingSucc (count : Nat) : Nat := min (count + 1) (2 ^ 64 - 1)

def Pool.reportFailure (pool : Pool) (index : Nat) : Pool :=
  pool.report index (fun slot => { slot with failure := saturatingSucc slot.failure, seen := true })

def Pool.reportSuccess (pool : Pool) (index : Nat) : Pool :=
  pool.report index (fun slot =>
    { slot with success := saturatingSucc slot.success, rangeOk := true, seen := true })

def Pool.pick (pool : Pool) (now : Nat) : Option Nat × UInt64 :=
  Sources.pick pool.weights pool.stats now pool.seq

theorem unitValue_range (now : Nat) (seq : UInt64) : 0 ≤ unitValue now seq ∧ unitValue now seq < 1 := by
  have bits : (mixedSeed now seq >>> 11).toNat < 2 ^ 53 := by
    have word := (mixedSeed now seq).toNat_lt
    rw [UInt64.toNat_shiftRight]
    change (mixedSeed now seq).toNat >>> 11 < 2 ^ 53
    rw [Nat.shiftRight_eq_div_pow]
    omega
  rw [unitValue]
  constructor
  · positivity
  · rw [div_lt_one (by positivity)]
    exact_mod_cast bits

theorem pickLoop_eq (index : Nat) (weights : List ℚ) (target : ℚ) :
    pickLoop index weights target = (Cumulative.pick weights target).map (· + index) := by
  induction weights generalizing index target with
  | nil => rfl
  | cons weight rest ih =>
      rw [pickLoop, Cumulative.pick]
      by_cases reached : target - weight ≤ 0
      · rw [if_pos reached, if_pos reached, Option.map_some, Nat.zero_add]
      · rw [if_neg reached, if_neg reached, ih, Option.map_map]
        congr 1
        funext place
        change place + (index + 1) = place + 1 + index
        omega

theorem pickLoop_zero (weights : List ℚ) (target : ℚ) :
    pickLoop 0 weights target = Cumulative.pick weights target := by
  rw [pickLoop_eq]
  exact Option.map_id'

theorem mem_eligible {stats : List SourceStats} {index : Nat} :
    index ∈ eligible stats ↔ ∃ slot, stats[index]? = some slot ∧ slot.usable = true := by
  rw [eligible, List.mem_filter, List.mem_range]
  constructor
  · rintro ⟨inside, passed⟩
    exact ⟨stats.get ⟨index, inside⟩, List.getElem?_eq_getElem inside, by
      simpa [List.getElem?_eq_getElem inside] using passed⟩
  · rintro ⟨slot, found, usable⟩
    exact ⟨(List.getElem?_eq_some_iff.mp found).1, by simpa [found] using usable⟩

theorem fallback_mem {stats : List SourceStats} {count : Nat} (some_source : 0 < count) (seq : UInt64) :
    ∃ index ∈ candidates stats count, fallback stats count seq = some index := by
  have some_candidate : 0 < (candidates stats count).length := by
    rw [candidates]
    split
    · rwa [List.length_range]
    · rename_i some_eligible
      exact List.length_pos_iff.mpr some_eligible
  have inside := Nat.mod_lt seq.toNat some_candidate
  refine ⟨(candidates stats count).get ⟨_, inside⟩, List.get_mem _ _, ?_⟩
  rw [fallback, if_neg (by omega), List.getElem?_eq_getElem inside]
  rfl

/-- What the fallback gives: an index of the pool, of a usable source where there is one. -/
structure FallsBack (pool : Pool) (index : Nat) : Prop where
  inside : index < pool.weights.length
  usable : (∃ (place : Nat) (slot : SourceStats), pool.stats[place]? = some slot ∧ slot.usable = true) →
    ∃ slot : SourceStats, pool.stats[index]? = some slot ∧ slot.usable = true

theorem fallback_spec (pool : Pool) (some_source : 0 < pool.weights.length) (seq : UInt64) :
    ∃ index, fallback pool.stats pool.weights.length seq = some index ∧ FallsBack pool index := by
  obtain ⟨index, member, taken⟩ := @fallback_mem pool.stats pool.weights.length some_source seq
  refine ⟨index, taken, ?_, ?_⟩
  · rw [candidates] at member
    split at member
    · exact List.mem_range.mp member
    · obtain ⟨slot, found, _⟩ := mem_eligible.mp member
      exact (List.getElem?_eq_some_iff.mp found).1.trans_eq pool.paired
  · rintro ⟨place, slot, found, usable⟩
    have listed : place ∈ eligible pool.stats := mem_eligible.mpr ⟨slot, found, usable⟩
    rw [candidates, if_neg (List.ne_nil_of_mem listed)] at member
    exact mem_eligible.mp member

def PicksPositive (weights : List ℚ) (unit : ℚ) : Prop :=
  ∃ index weight, pickLoop 0 weights (unit * weights.sum) = some index ∧ weights[index]? = some weight ∧
    0 < weight

def FirstPositive (weights : List ℚ) : Prop := ∃ first, weights[0]? = some first ∧ 0 < first

/-- The unit values that the loop maps to an index. -/
def unitsOf (weights : List ℚ) (index : Nat) : Set ℚ :=
  {unit | 0 ≤ unit ∧ unit < 1 ∧ pickLoop 0 weights (unit * weights.sum) = some index}

theorem pickLoop_some {weights : List ℚ} (positive : 0 < weights.sum) {unit : ℚ} (high : unit < 1) :
    ∃ index, pickLoop 0 weights (unit * weights.sum) = some index := by
  have some_weight : weights ≠ [] := by
    rintro rfl
    exact lt_irrefl _ positive
  rw [pickLoop_zero]
  apply Cumulative.pick_total some_weight
  exact mul_le_of_le_one_left positive.le high.le

theorem picksPositive_iff (pool : Pool) (positive : 0 < pool.weights.sum) {unit : ℚ}
    (high : unit < 1) : PicksPositive pool.weights unit ↔ 0 < unit ∨ FirstPositive pool.weights := by
  obtain ⟨index, chosen⟩ := pickLoop_some positive high
  have picked := chosen
  rw [pickLoop_zero] at picked
  have inside := ((Cumulative.pick_eq_some_iff pool.nonneg).mp picked).1
  have found : pool.weights[index]? = some (pool.weights.get ⟨index, inside⟩) := List.getElem?_eq_getElem inside
  have scaled : 0 < unit * pool.weights.sum ↔ 0 < unit := mul_pos_iff_of_pos_right positive
  have exactly := Cumulative.picked_pos_iff pool.nonneg picked found
  rw [scaled] at exactly
  rw [FirstPositive, ← exactly]
  constructor
  · rintro ⟨other, weight, loop, held, above⟩
    rw [chosen, Option.some.injEq] at loop
    rw [← loop, found, Option.some.injEq] at held
    rwa [held]
  · intro above
    exact ⟨index, _, chosen, found, above⟩

theorem Pool.pick_weighted (pool : Pool) (positive : 0 < pool.weights.sum) (now : Nat) :
    ∃ index, pool.pick now = (some index, pool.seq + 1) ∧
      unitValue now pool.seq ∈ unitsOf pool.weights index := by
  obtain ⟨low, high⟩ := unitValue_range now pool.seq
  obtain ⟨index, chosen⟩ := pickLoop_some positive high
  have some_weight : pool.weights ≠ [] := by
    intro empty
    rw [empty, List.sum_nil] at positive
    exact lt_irrefl _ positive
  refine ⟨index, ?_, low, high, chosen⟩
  rw [Pool.pick, Sources.pick, if_neg some_weight, if_pos positive, chosen]

/-- The loop ends with an index of positive weight exactly where the unit value is positive or the first
source has a weight; the units of an index are an interval with the share of its weight. Without any
weight the fallback gives an index of the pool, of a usable source where there is one. -/
theorem weighted_pick_iff (pool : Pool) :
    (0 < pool.weights.sum →
      (∀ unit : ℚ, 0 ≤ unit → unit < 1 →
        (PicksPositive pool.weights unit ↔ 0 < unit ∨ FirstPositive pool.weights)) ∧
      ∀ (index : Nat) (weight : ℚ), pool.weights[index]? = some weight →
        Cumulative.IsInterval (unitsOf pool.weights index) (weight / pool.weights.sum)) ∧
    (pool.weights ≠ [] → (∀ weight ∈ pool.weights, weight = 0) → ∀ now : Nat,
      ∃ index, (pool.pick now).1 = some index ∧ FallsBack pool index) := by
  constructor
  · intro positive
    refine ⟨fun unit _ high => picksPositive_iff pool positive high, ?_⟩
    intro index weight found
    have interval := Cumulative.pick_units pool.nonneg positive found
    simpa only [unitsOf, pickLoop_zero] using interval
  · intro some_source nothing now
    have total : ¬ 0 < pool.weights.sum := by
      rw [List.sum_eq_zero nothing]
      exact lt_irrefl 0
    rw [Pool.pick, Sources.pick, if_neg some_source, if_neg total]
    exact fallback_spec pool (List.length_pos_iff.mpr some_source) pool.seq

/-- A pool whose first source has served a chunk picks it at zero, and one whose first source has failed
falls back to the other. -/
theorem weighted_pick_first :
    PicksPositive ((Pool.new 2).reportSuccess 0).weights 0 ∧
      ∃ index, (((Pool.new 2).reportFailure 0).pick 0).1 = some index ∧
        FallsBack ((Pool.new 2).reportFailure 0) index := by
  constructor
  · refine (((weighted_pick_iff ((Pool.new 2).reportSuccess 0)).1 (by decide +kernel)).1 0 (by decide)
      (by decide +kernel)).mpr (Or.inr ⟨11 / 10, by decide +kernel, by decide +kernel⟩)
  · exact (weighted_pick_iff ((Pool.new 2).reportFailure 0)).2 (by decide +kernel) (by decide +kernel) 0

/-- The second of two sources has served a chunk, so the first has the weight zero, and the counter
stands at 94. -/
def secondServed : Pool := { (Pool.new 2).reportSuccess 1 with seq := 94 }

/-- The clock and the counter cancel each other in the seed, the unit value is zero, and the source
without a weight is picked. -/
theorem disabled_source_picked :
    secondServed.weights = [0, 11 / 10] ∧ unitValue 1756036741226663862 secondServed.seq = 0 ∧
      (secondServed.pick 1756036741226663862).1 = some 0 ∧ ¬ PicksPositive secondServed.weights 0 := by
  have weights : secondServed.weights = [0, 11 / 10] := by decide +kernel
  refine ⟨weights, by decide +kernel, by decide +kernel, ?_⟩
  rintro ⟨index, weight, loop, held, above⟩
  have first : pickLoop 0 secondServed.weights (0 * secondServed.weights.sum) = some 0 := by decide +kernel
  rw [first, Option.some.injEq] at loop
  rw [← loop, weights] at held
  cases held
  exact lt_irrefl 0 above

end WebProxy.Sources
