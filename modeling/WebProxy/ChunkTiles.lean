import WebProxy.Chunks
import WebProxy.Library.Checked
import WebProxy.Library.Weights

/-! The chunks of a blob tile it, where their list fits one allocation: the loop of `split_with` stays in
the range of a `u64`, and the places it accumulates are those that the rest of the program computes by
division and multiplication. -/

namespace WebProxy.Chunks

open Weights (weight)

/-- The loop with every operation checked; it fails too where it runs out of rounds. -/
def checkedLoop (total chunkBytes : Nat) : Nat → Nat → Nat → Option (List Chunk)
  | 0, offset, _ => if offset < total then none else some []
  | fuel + 1, offset, index =>
      if offset < total then
        (Checked.sub total offset).bind (fun left =>
          (Checked.add offset (min left chunkBytes)).bind (fun next =>
            (Checked.add index 1).bind (fun count =>
              (checkedLoop total chunkBytes fuel next count).map (fun rest =>
                ⟨index, offset, min left chunkBytes⟩ :: rest))))
      else some []

def chunkSize : Nat := 24

/-- `Vec::with_capacity` for chunks. It panics where the list has more than `isize::MAX` bytes; an
allocation that fails for want of memory is not modelled. -/
def withCapacity (capacity : Nat) : Option Nat :=
  if capacity * chunkSize ≤ 2 ^ 63 - 1 then some capacity else none

def checkedSplitWith (total chunkBytes : Nat) : Option (List Chunk) :=
  if total = 0 then some [] else
    (Checked.add (total / max chunkBytes 1) 1).bind (fun capacity =>
      (withCapacity capacity).bind (fun _ => checkedLoop total (max chunkBytes 1) total 0 0))

theorem checkedLoop_eq {total width : Nat} (positive : 0 < width) (small : total < 2 ^ 64)
    (fuel offset index : Nat) (enough : total - offset ≤ fuel) (below : offset ≤ total)
    (behind : index ≤ offset) :
    checkedLoop total width fuel offset index = some (splitLoop total width fuel offset index) := by
  induction fuel generalizing offset index with
  | zero => rw [checkedLoop, if_neg (by omega), splitLoop]
  | succ fuel ih =>
      rw [checkedLoop, splitLoop]
      by_cases more : offset < total
      · have next := ih (offset + min (total - offset) width) (index + 1) (by omega) (by omega) (by omega)
        rw [if_pos more, if_pos more, Checked.sub_of_le below, Option.bind_some,
          Checked.add_of_lt (by omega), Option.bind_some, Checked.add_of_lt (by omega), Option.bind_some,
          next, Option.map_some]
      · rw [if_neg more, if_neg more]

theorem checkedSplitWith_zero (chunkBytes : Nat) : checkedSplitWith 0 chunkBytes = some [] := if_pos rfl

theorem checkedSplitWith_eq {total chunkBytes : Nat} (small : total < 2 ^ 64)
    (fits : (total / max chunkBytes 1 + 1) * 24 ≤ 2 ^ 63 - 1) :
    checkedSplitWith total chunkBytes = some (splitWith total chunkBytes) := by
  rw [checkedSplitWith, splitWith]
  by_cases empty : total = 0
  · rw [if_pos empty, if_pos empty]
  · have room : withCapacity (total / max chunkBytes 1 + 1) = some (total / max chunkBytes 1 + 1) :=
      if_pos fits
    rw [if_neg empty, if_neg empty, Checked.add_of_lt (by omega), Option.bind_some, room, Option.bind_some]
    exact checkedLoop_eq (by omega) small total 0 0 (by omega) (by omega) le_rfl

theorem checkedSplitWith_none {total chunkBytes : Nat} (some_bytes : total ≠ 0)
    (many : 2 ^ 63 - 1 < (total / max chunkBytes 1 + 1) * 24) : checkedSplitWith total chunkBytes = none := by
  have full : withCapacity (total / max chunkBytes 1 + 1) = none := if_neg (Nat.not_le_of_lt many)
  rw [checkedSplitWith, if_neg some_bytes]
  by_cases word : total / max chunkBytes 1 + 1 < 2 ^ 64
  · rw [Checked.add_of_lt word, Option.bind_some, full, Option.bind_none]
  · rw [Checked.add_of_le (Nat.le_of_not_lt word), Option.bind_none]

theorem weight_splitLoop {total width : Nat} (positive : 0 < width) (fuel offset index : Nat)
    (enough : total - offset ≤ fuel) :
    weight Chunk.length (splitLoop total width fuel offset index) = total - offset := by
  induction fuel generalizing offset index with
  | zero =>
      rw [splitLoop, Weights.weight_nil]
      omega
  | succ fuel ih =>
      rw [splitLoop]
      by_cases more : offset < total
      · rw [if_pos more, Weights.weight_cons, ih _ _ (by omega)]
        change min (total - offset) width + (total - (offset + min (total - offset) width)) = total - offset
        omega
      · rw [if_neg more, Weights.weight_nil]
        omega

theorem weight_splitWith (total chunkBytes : Nat) :
    weight Chunk.length (splitWith total chunkBytes) = total := by
  rw [splitWith]
  by_cases empty : total = 0
  · rw [if_pos empty, Weights.weight_nil, empty]
  · rw [if_neg empty, weight_splitLoop (by omega) _ _ _ (by omega), Nat.sub_zero]

theorem splitWith_length (total chunkBytes : Nat) :
    (splitWith total chunkBytes).length = (total + max chunkBytes 1 - 1) / max chunkBytes 1 := by
  have positive : 0 < max chunkBytes 1 := by omega
  have same : splitWith total chunkBytes = splitWith total (max chunkBytes 1) := by
    rw [splitWith, splitWith, Nat.max_assoc, Nat.max_self]
  have counted : ∀ k, k < (splitWith total chunkBytes).length ↔
      k < (total + max chunkBytes 1 - 1) / max chunkBytes 1 := by
    intro k
    rw [same, lt_splitWith_length total (max chunkBytes 1) k positive, ← Nat.succ_le_iff,
      ← Nat.succ_le_iff, Nat.le_div_iff_mul_le positive, Nat.succ_mul]
    omega
  apply Nat.le_antisymm
  · apply Nat.le_of_not_lt
    intro less
    exact absurd ((counted _).mp less) (lt_irrefl _)
  · apply Nat.le_of_not_lt
    intro less
    exact absurd ((counted _).mpr less) (lt_irrefl _)

structure Tiles (total width : Nat) (chunks : List Chunk) : Prop where
  placed : ∀ (k : Nat) (chunk : Chunk), chunks[k]? = some chunk →
    chunk.index = k ∧ chunk.offset = k * width ∧ 1 ≤ chunk.length ∧ chunk.length ≤ width
  contiguous : ∀ (k : Nat) (chunk next : Chunk), chunks[k]? = some chunk →
    chunks[k + 1]? = some next → next.offset = chunk.offset + chunk.length
  ends : ∀ (k : Nat) (chunk : Chunk), chunks[k]? = some chunk →
    chunk.offset + chunk.length = min ((k + 1) * width) total
  sum : weight Chunk.length chunks = total
  count : chunks.length = (total + width - 1) / width
  found : ∀ offset, offset < total → ∃ chunk, chunks[offset / width]? = some chunk ∧
    chunk.offset ≤ offset ∧ offset < chunk.offset + chunk.length
  unique : ∀ (offset k : Nat) (chunk : Chunk), chunks[k]? = some chunk → chunk.offset ≤ offset →
    offset < chunk.offset + chunk.length → k = offset / width

theorem splitWith_some {total chunkBytes k : Nat} {chunk : Chunk}
    (found : (splitWith total chunkBytes)[k]? = some chunk) :
    k * max chunkBytes 1 < total ∧ chunk = chunkAt total (max chunkBytes 1) k := by
  rw [splitWith_getElem?] at found
  by_cases inside : k * max chunkBytes 1 < total
  · rw [if_pos inside] at found
    exact ⟨inside, (Option.some.inj found).symm⟩
  · rw [if_neg inside] at found
    cases found

theorem splitWith_found {total chunkBytes offset : Nat} (inside : offset < total) :
    ∃ chunk, (splitWith total chunkBytes)[offset / max chunkBytes 1]? = some chunk ∧
      chunk.offset ≤ offset ∧ offset < chunk.offset + chunk.length := by
  have positive : 0 < max chunkBytes 1 := by omega
  have start : offset / max chunkBytes 1 * max chunkBytes 1 ≤ offset := Nat.div_mul_le_self _ _
  have stop : offset < offset / max chunkBytes 1 * max chunkBytes 1 + max chunkBytes 1 :=
    Nat.lt_div_mul_add positive
  refine ⟨chunkAt total (max chunkBytes 1) (offset / max chunkBytes 1), ?_, start, ?_⟩
  · rw [splitWith_getElem?, if_pos (start.trans_lt inside)]
  · rw [chunkAt_end _ _ _ (start.trans_lt inside), Nat.succ_mul]
    omega

theorem splitWith_tiles (total chunkBytes : Nat) :
    Tiles total (max chunkBytes 1) (splitWith total chunkBytes) where
  placed := by
    intro k chunk found
    obtain ⟨inside, rfl⟩ := splitWith_some found
    have some_bytes := chunkAt_length_pos total (max chunkBytes 1) k (by omega) inside
    exact ⟨rfl, rfl, some_bytes, Nat.min_le_right _ _⟩
  contiguous := by
    intro k chunk next found follows
    obtain ⟨inside, rfl⟩ := splitWith_some found
    obtain ⟨later, rfl⟩ := splitWith_some follows
    rw [chunkAt_end _ _ _ inside, Nat.min_eq_left later.le]
    rfl
  ends := by
    intro k chunk found
    obtain ⟨inside, rfl⟩ := splitWith_some found
    exact chunkAt_end _ _ _ inside
  sum := weight_splitWith total chunkBytes
  count := splitWith_length total chunkBytes
  found := fun offset inside => splitWith_found inside
  unique := by
    intro offset k chunk found starts stops
    obtain ⟨inside, rfl⟩ := splitWith_some found
    rw [chunkAt_end _ _ _ inside, Nat.lt_min] at stops
    exact (Nat.div_eq_of_lt_le starts stops.1).symm

/-- What is asked of `split_with`: it returns, with no operation out of range, and what it returns tiles
the blob. -/
def Splits (total chunkBytes : Nat) : Prop :=
  ∃ chunks, checkedSplitWith total chunkBytes = some chunks ∧ Tiles total (max chunkBytes 1) chunks

/-- `split_with` tiles a blob exactly where the list of its chunks fits one allocation, and then its
result is that of its loop. -/
theorem chunk_geometry (total chunkBytes : Nat) (small : total < 2 ^ 64) :
    (Splits total chunkBytes ↔ total = 0 ∨ (total / max chunkBytes 1 + 1) * 24 ≤ 2 ^ 63 - 1) ∧
      (Splits total chunkBytes → checkedSplitWith total chunkBytes = some (splitWith total chunkBytes)) := by
  have tiled : checkedSplitWith total chunkBytes = some (splitWith total chunkBytes) →
      Splits total chunkBytes := by
    intro same
    exact ⟨_, same, splitWith_tiles total chunkBytes⟩
  have needed : Splits total chunkBytes →
      total = 0 ∨ (total / max chunkBytes 1 + 1) * 24 ≤ 2 ^ 63 - 1 := by
    intro splits
    apply Classical.byContradiction
    intro neither
    have some_bytes : total ≠ 0 := fun empty => neither (Or.inl empty)
    obtain ⟨chunks, returned, _⟩ := splits
    rw [checkedSplitWith_none some_bytes (Nat.lt_of_not_le fun fits => neither (Or.inr fits))] at returned
    cases returned
  have enough : total = 0 ∨ (total / max chunkBytes 1 + 1) * 24 ≤ 2 ^ 63 - 1 →
      checkedSplitWith total chunkBytes = some (splitWith total chunkBytes) := by
    intro either
    cases either with
    | inl empty => rw [empty, checkedSplitWith_zero, splitWith, if_pos rfl]
    | inr fits => exact checkedSplitWith_eq small fits
  exact ⟨⟨needed, fun either => tiled (enough either)⟩, fun splits => enough (needed splits)⟩

theorem chunk_geometry_tail :
    Splits 10 4 ∧ checkedSplitWith 10 4 = some [⟨0, 0, 4⟩, ⟨1, 4, 4⟩, ⟨2, 8, 2⟩] :=
  have splits : Splits 10 4 := (chunk_geometry 10 4 (by decide)).1.mpr (Or.inr (by decide))
  ⟨splits, (chunk_geometry 10 4 (by decide)).2 splits⟩

/-- One byte a chunk: at `2 ^ 62` bytes the list is too long for one allocation, at the largest size
already the number of its chunks is no word. -/
theorem split_with_panics :
    checkedSplitWith (2 ^ 62) 1 = none ∧ checkedSplitWith (2 ^ 64 - 1) 1 = none ∧
      ¬ ∀ total chunkBytes, total < 2 ^ 64 → Splits total chunkBytes := by
  have long : checkedSplitWith (2 ^ 62) 1 = none := checkedSplitWith_none (by decide) (by decide)
  have longest : checkedSplitWith (2 ^ 64 - 1) 1 = none := checkedSplitWith_none (by decide) (by decide)
  refine ⟨long, longest, ?_⟩
  intro claimed
  obtain ⟨chunks, returned, _⟩ := claimed (2 ^ 62) 1 (by decide)
  rw [long] at returned
  cases returned

end WebProxy.Chunks
