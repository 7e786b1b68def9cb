import Mathlib.Data.List.Basic
import Mathlib.Tactic.Ring

/-! Chunk geometry of `chunks.rs`: `split`, `split_with` and where each chunk lies. -/

namespace WebProxy.Chunks

def defaultChunkBytes : Nat := 8 * 1024 * 1024

structure Chunk where
  index : Nat
  offset : Nat
  length : Nat
  deriving DecidableEq, Repr

/-- The `while offset < total` loop. Every round takes at least one byte, so `total`
rounds of fuel never run out. -/
def splitLoop (total chunkBytes : Nat) : Nat → Nat → Nat → List Chunk
  | 0, _, _ => []
  | fuel + 1, offset, index =>
      if offset < total then
        let length := min (total - offset) chunkBytes
        ⟨index, offset, length⟩ :: splitLoop total chunkBytes fuel (offset + length) (index + 1)
      else []

def splitWith (total chunkBytes : Nat) : List Chunk :=
  if total = 0 then [] else splitLoop total (max chunkBytes 1) total 0 0

def split (total : Nat) : List Chunk := splitWith total defaultChunkBytes

def chunkAt (total width index : Nat) : Chunk :=
  ⟨index, index * width, min (total - index * width) width⟩

theorem splitLoop_getElem? (total width fuel offset index k : Nat) (positive : 0 < width)
    (enough : total - offset ≤ fuel) :
    (splitLoop total width fuel offset index)[k]? =
      if offset + k * width < total then
        some ⟨index + k, offset + k * width, min (total - (offset + k * width)) width⟩
      else none := by
  induction fuel generalizing offset index k with
  | zero =>
      have past : ¬ offset + k * width < total := by omega
      simp [splitLoop, past]
  | succ fuel ih =>
      by_cases more : offset < total
      · simp only [splitLoop, if_pos more]
        cases k with
        | zero => simp [more]
        | succ k =>
            rw [List.getElem?_cons_succ, ih _ _ _ (by omega)]
            have product : (k + 1) * width = k * width + width := by ring
            by_cases whole : width ≤ total - offset
            · rw [Nat.min_eq_right whole, product]
              have place : offset + width + k * width = offset + (k * width + width) := by omega
              have number : index + 1 + k = index + (k + 1) := by omega
              rw [place, number]
            · -- the short last chunk ends the blob, so neither side has a further chunk
              rw [Nat.min_eq_left (by omega), if_neg (by omega), if_neg (by omega)]
      · have past : ¬ offset + k * width < total := by omega
        simp [splitLoop, more, past]

theorem splitWith_getElem? (total chunkBytes k : Nat) :
    (splitWith total chunkBytes)[k]? =
      if k * max chunkBytes 1 < total then some (chunkAt total (max chunkBytes 1) k) else none := by
  by_cases empty : total = 0
  · simp [splitWith, empty]
  · rw [splitWith, if_neg empty, splitLoop_getElem? _ _ _ _ _ _ (by omega) (by omega)]
    simp only [Nat.zero_add, chunkAt]

theorem splitWith_getElem?_of_pos (total chunkBytes k : Nat) (positive : 0 < chunkBytes) :
    (splitWith total chunkBytes)[k]? =
      if k * chunkBytes < total then some (chunkAt total chunkBytes k) else none := by
  rw [splitWith_getElem?, Nat.max_eq_left positive]

theorem lt_splitWith_length (total chunkBytes k : Nat) (positive : 0 < chunkBytes) :
    k < (splitWith total chunkBytes).length ↔ k * chunkBytes < total := by
  have spec := splitWith_getElem?_of_pos total chunkBytes k positive
  by_cases inside : k * chunkBytes < total
  · rw [if_pos inside] at spec
    obtain ⟨bound, _⟩ := List.getElem?_eq_some_iff.mp spec
    exact iff_of_true bound inside
  · rw [if_neg inside] at spec
    exact iff_of_false (Nat.not_lt.mpr (List.getElem?_eq_none_iff.mp spec)) inside

theorem splitWith_get {total chunkBytes k : Nat} {chunk : Chunk} (positive : 0 < chunkBytes)
    (found : (splitWith total chunkBytes)[k]? = some chunk) :
    k * chunkBytes < total ∧ chunk = chunkAt total chunkBytes k := by
  rw [splitWith_getElem?_of_pos total chunkBytes k positive] at found
  split at found
  · rename_i inside
    exact ⟨inside, (Option.some.inj found).symm⟩
  · cases found

theorem chunkAt_end (total width k : Nat) (inside : k * width < total) :
    (chunkAt total width k).offset + (chunkAt total width k).length =
      min ((k + 1) * width) total := by
  have product : (k + 1) * width = k * width + width := by ring
  simp only [chunkAt, product]
  omega

theorem chunkAt_length_pos (total width k : Nat) (positive : 0 < width) (inside : k * width < total) :
    0 < (chunkAt total width k).length := by
  simp only [chunkAt]
  omega

theorem boundary_div (total width k : Nat) (positive : 0 < width)
    (more : min (k * width) total < total) :
    min (k * width) total / width = k ∧ k * width < total := by
  have inside : k * width < total := by omega
  rw [Nat.min_eq_left (by omega)]
  exact ⟨Nat.mul_div_cancel k positive, inside⟩

end WebProxy.Chunks
