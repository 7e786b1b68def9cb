import WebProxy.Library.ByteFile
import WebProxy.Chunks
import WebProxy.Sources

/-! The `.bitmap` sidecar of `chunks.rs` and the plan a download resumes with. -/

namespace WebProxy.Bitmap

open ByteFile (Bytes)
open Chunks (Chunk splitWith)

def toLeBytes (value : Nat) : Bytes :=
  (List.range 8).map (fun place => UInt8.ofNat (value / 256 ^ place))

def fromLeBytes : Bytes → Nat
  | [] => 0
  | byte :: rest => byte.toNat + 256 * fromLeBytes rest

structure ExistingBitmap where
  chunkBytes : Nat
  done : List Bool
  deriving DecidableEq, Repr

/-- The loop of `load_bitmap`: the part file must reach the end of every chunk marked done.
The product is `u64` arithmetic and wraps. -/
def covered (chunkBytes partLen totalSize : Nat) : Nat → List Bool → Bool
  | _, [] => true
  | index, isDone :: rest =>
      (!isDone || min (Sources.wrap ((index + 1) * chunkBytes)) totalSize ≤ partLen) &&
        covered chunkBytes partLen totalSize (index + 1) rest

def loadBitmap (sidecar : Option Bytes) (partLen totalSize : Nat) : Option ExistingBitmap :=
  match sidecar with
  | none => none
  | some bytes =>
      if bytes.length < 8 then none
      else
        let chunkBytes := fromLeBytes (bytes.take 8)
        let done := (bytes.drop 8).map (fun byte => byte == 1)
        if chunkBytes = 0 then none
        else if covered chunkBytes partLen totalSize 0 done then some ⟨chunkBytes, done⟩
        else none

def saveBitmap (chunkBytes : Nat) (state : List Bool) : Bytes :=
  toLeBytes chunkBytes ++ state.map (fun isDone => if isDone then 1 else 0)

/-- What `download` decides before it opens the part file. The flags have one entry for each
chunk, and the chunk size is a positive `u64`. -/
structure Plan where
  total : Nat
  chunkBytes : Nat
  maxConcurrent : Nat
  flags : List Bool
  positive : 0 < chunkBytes
  fits : chunkBytes < 2 ^ 64
  sized : flags.length = (splitWith total chunkBytes).length

def Plan.chunks (plan : Plan) : List Chunk := splitWith plan.total plan.chunkBytes

/-- `existing_bitmap`: the flags found, or none at all when their number does not fit. -/
def fitFlags (prior : Option (List Bool)) (chunksTotal : Nat) : List Bool :=
  match prior with
  | some flags => if flags.length = chunksTotal then flags else List.replicate chunksTotal false
  | none => List.replicate chunksTotal false

theorem fitFlags_length (prior : Option (List Bool)) (chunksTotal : Nat) :
    (fitFlags prior chunksTotal).length = chunksTotal := by
  unfold fitFlags
  split
  · split
    · assumption
    · exact List.length_replicate
  · exact List.length_replicate

/-- The chunk size a download works with and the flags it found: those of a usable sidecar, or
the planned size and nothing. -/
def chosen (existing : Option ExistingBitmap) (planned : Nat) : Nat × Option (List Bool) :=
  match existing with
  | some bitmap => if 0 < bitmap.chunkBytes then (bitmap.chunkBytes, some bitmap.done) else (planned, none)
  | none => (planned, none)

theorem fromLeBytes_lt (bytes : Bytes) : fromLeBytes bytes < 256 ^ bytes.length := by
  induction bytes with
  | nil => decide
  | cons byte rest ih =>
      have small : byte.toNat < 256 := by simpa using byte.toNat_lt
      have power : 256 ^ (byte :: rest).length = 256 * 256 ^ rest.length := by
        rw [List.length_cons, Nat.pow_succ, Nat.mul_comm]
      rw [fromLeBytes, power]
      omega

theorem loadBitmap_some {sidecar : Option Bytes} {partLen totalSize : Nat} {found : ExistingBitmap}
    (loaded : loadBitmap sidecar partLen totalSize = some found) :
    ∃ bytes, sidecar = some bytes ∧ 8 ≤ bytes.length ∧
      found = ⟨fromLeBytes (bytes.take 8), (bytes.drop 8).map (fun byte => byte == 1)⟩ ∧
      0 < found.chunkBytes ∧ found.chunkBytes < 2 ^ 64 ∧
      covered found.chunkBytes partLen totalSize 0 found.done = true := by
  cases sidecar with
  | none => cases loaded
  | some bytes =>
      simp only [loadBitmap] at loaded
      split at loaded
      · cases loaded
      · rename_i long
        split at loaded
        · cases loaded
        · rename_i nonzero
          split at loaded
          · rename_i reach
            cases loaded
            have bound := fromLeBytes_lt (bytes.take 8)
            rw [List.length_take, Nat.min_eq_left (by omega)] at bound
            exact ⟨bytes, rfl, by omega, rfl, Nat.pos_of_ne_zero nonzero, bound, reach⟩
          · cases loaded

theorem chosen_bounds (sidecar : Option Bytes) (partLen totalSize totalBps : Nat) :
    0 < (chosen (loadBitmap sidecar partLen totalSize) (Sources.chunkPlanFor totalBps).1).1 ∧
      (chosen (loadBitmap sidecar partLen totalSize) (Sources.chunkPlanFor totalBps).1).1 <
        2 ^ 64 := by
  have planned := Sources.chunkPlanFor_bounds totalBps
  cases loaded : loadBitmap sidecar partLen totalSize with
  | none => exact planned
  | some found =>
      obtain ⟨_, _, _, _, positive, fits, _⟩ := loadBitmap_some loaded
      simp only [chosen, if_pos positive]
      exact ⟨positive, fits⟩

def Plan.resume (sidecar : Option Bytes) (partLen total totalBps : Nat) : Plan :=
  let planned := Sources.chunkPlanFor totalBps
  let choice := chosen (loadBitmap sidecar partLen total) planned.1
  { total := total
    chunkBytes := choice.1
    maxConcurrent := planned.2
    flags := fitFlags choice.2 (splitWith total choice.1).length
    positive := (chosen_bounds sidecar partLen total totalBps).1
    fits := (chosen_bounds sidecar partLen total totalBps).2
    sized := fitFlags_length _ _ }

theorem resume_flag {sidecar : Option Bytes} {partLen total totalBps index : Nat}
    (flag : (Plan.resume sidecar partLen total totalBps).flags[index]? = some true) :
    ∃ found, loadBitmap sidecar partLen total = some found ∧
      (Plan.resume sidecar partLen total totalBps).chunkBytes = found.chunkBytes ∧
      found.done[index]? = some true := by
  simp only [Plan.resume] at flag ⊢
  cases loaded : loadBitmap sidecar partLen total with
  | none =>
      simp only [loaded, chosen, fitFlags, List.getElem?_replicate] at flag
      split at flag <;> cases flag
  | some found =>
      obtain ⟨_, _, _, _, positive, _⟩ := loadBitmap_some loaded
      simp only [loaded, chosen, if_pos positive, fitFlags] at flag ⊢
      split at flag
      · exact ⟨found, rfl, rfl, flag⟩
      · rw [List.getElem?_replicate] at flag
        split at flag <;> cases flag

theorem fromLeBytes_digits (width value : Nat) :
    fromLeBytes ((List.range width).map (fun place => UInt8.ofNat (value / 256 ^ place))) =
      value % 256 ^ width := by
  induction width generalizing value with
  | zero => simp [fromLeBytes, Nat.mod_one]
  | succ width ih =>
      have shifted : (List.range width).map (fun place => UInt8.ofNat (value / 256 ^ (place + 1))) =
          (List.range width).map (fun place => UInt8.ofNat (value / 256 / 256 ^ place)) := by
        apply List.map_congr_left
        intro place _
        rw [Nat.pow_succ', Nat.div_div_eq_div_mul]
      have lowest : (UInt8.ofNat (value / 256 ^ 0)).toNat = value % 256 := by
        rw [Nat.pow_zero, Nat.div_one, UInt8.toNat_ofNat']
      have wider : 256 ^ (width + 1) = 256 * 256 ^ width := Nat.pow_succ'
      calc
        fromLeBytes ((List.range (width + 1)).map (fun place => UInt8.ofNat (value / 256 ^ place))) =
            (UInt8.ofNat (value / 256 ^ 0)).toNat + 256 * fromLeBytes ((List.range width).map
              (fun place => UInt8.ofNat (value / 256 ^ (place + 1)))) := by
          rw [List.range_succ_eq_map, List.map_cons, List.map_map, fromLeBytes]
          rfl
        _ = value % 256 + 256 * (value / 256 % 256 ^ width) := by rw [lowest, shifted, ih]
        _ = value % 256 ^ (width + 1) := by rw [wider, Nat.mod_mul]

theorem fromLeBytes_toLeBytes (value : Nat) (fits : value < 2 ^ 64) :
    fromLeBytes (toLeBytes value) = value := by
  rw [toLeBytes, fromLeBytes_digits]
  exact Nat.mod_eq_of_lt fits

theorem toLeBytes_length (value : Nat) : (toLeBytes value).length = 8 := by
  simp [toLeBytes]

theorem flagBytes_read (state : List Bool) :
    (state.map (fun isDone => if isDone then (1 : UInt8) else 0)).map (fun byte => byte == 1) = state := by
  have same : ((fun byte : UInt8 => byte == 1) ∘ fun isDone : Bool => if isDone then 1 else 0) =
      fun isDone => isDone := by
    funext isDone
    cases isDone <;> rfl
  rw [List.map_map, same, List.map_id']

theorem loadBitmap_saved {chunkBytes partLen totalSize written : Nat} {state : List Bool}
    {found : ExistingBitmap} (fits : chunkBytes < 2 ^ 64)
    (loaded : loadBitmap (some ((saveBitmap chunkBytes state).take written)) partLen totalSize =
      some found) :
    found = ⟨chunkBytes, state.take (written - 8)⟩ := by
  obtain ⟨bytes, same, long, value, _⟩ := loadBitmap_some loaded
  cases same
  have reach : 8 ≤ written := by
    rw [List.length_take] at long
    omega
  have size := toLeBytes_length chunkBytes
  have header : ((saveBitmap chunkBytes state).take written).take 8 = toLeBytes chunkBytes := by
    rw [List.take_take, Nat.min_eq_left reach, saveBitmap, List.take_left' size]
  have flags : (((saveBitmap chunkBytes state).take written).drop 8).map (fun byte => byte == 1) =
      state.take (written - 8) := by
    rw [List.drop_take, saveBitmap, List.drop_left' size, List.map_take, flagBytes_read]
  rw [value, header, flags, fromLeBytes_toLeBytes chunkBytes fits]

theorem covered_iff (chunkBytes partLen totalSize index : Nat) (done : List Bool) :
    covered chunkBytes partLen totalSize index done = true ↔
      ∀ place : Nat, done[place]? = some true →
        min (Sources.wrap ((index + place + 1) * chunkBytes)) totalSize ≤ partLen := by
  induction done generalizing index with
  | nil => simp [covered]
  | cons isDone rest ih =>
      rw [covered, Bool.and_eq_true, ih]
      constructor
      · intro both place flag
        cases place with
        | zero =>
            cases flag
            simpa using both.1
        | succ place =>
            have later := both.2 place flag
            rwa [show index + 1 + place = index + (place + 1) by omega] at later
      · intro each
        constructor
        · cases isDone with
          | false => rfl
          | true => simpa using each 0 rfl
        · intro place flag
          have later := each (place + 1) flag
          rwa [show index + (place + 1) = index + 1 + place by omega] at later

/-- The end `load_bitmap` computes for a chunk of the blob is where `split_with` ends it: the
product does not wrap below `2 ^ 63`. -/
theorem wrapped_end {total chunkBytes index : Nat} {chunk : Chunk} (small : total < 2 ^ 63)
    (positive : 0 < chunkBytes) (fits : chunkBytes < 2 ^ 64)
    (found : (splitWith total chunkBytes)[index]? = some chunk) :
    min (Sources.wrap ((index + 1) * chunkBytes)) total = chunk.offset + chunk.length := by
  obtain ⟨inside, rfl⟩ := Chunks.splitWith_get positive found
  have unwrapped : (index + 1) * chunkBytes < 2 ^ 64 := by
    cases index with
    | zero => omega
    | succ index =>
        have width : chunkBytes ≤ (index + 1) * chunkBytes := Nat.le_mul_of_pos_left _ (Nat.succ_pos _)
        have next : (index + 1 + 1) * chunkBytes = (index + 1) * chunkBytes + chunkBytes :=
          Nat.succ_mul _ _
        omega
  rw [Sources.wrap, Nat.mod_eq_of_lt unwrapped, Chunks.chunkAt_end total chunkBytes index inside]

/-- What is marked done lies inside the part file, chunk by chunk. -/
def FlagsInside (total chunkBytes partLen : Nat) (flags : List Bool) : Prop :=
  ∀ (index : Nat) (chunk : Chunk), flags[index]? = some true →
    (splitWith total chunkBytes)[index]? = some chunk → chunk.offset + chunk.length ≤ partLen

theorem covered_iff_inside {total chunkBytes partLen : Nat} {flags : List Bool}
    (small : total < 2 ^ 63) (positive : 0 < chunkBytes) (fits : chunkBytes < 2 ^ 64)
    (sized : flags.length = (splitWith total chunkBytes).length) :
    covered chunkBytes partLen total 0 flags = true ↔ FlagsInside total chunkBytes partLen flags := by
  rw [covered_iff]
  constructor
  · intro each index chunk flag found
    have reach := each index flag
    rwa [Nat.zero_add, wrapped_end small positive fits found] at reach
  · intro inside index flag
    have bound : index < (splitWith total chunkBytes).length := by
      rw [← sized]
      exact (List.getElem?_eq_some_iff.mp flag).1
    have found := List.getElem?_eq_getElem bound
    rw [Nat.zero_add, wrapped_end small positive fits found]
    exact inside index _ flag found

theorem loadBitmap_saveBitmap {chunkBytes : Nat} (positive : 0 < chunkBytes)
    (fits : chunkBytes < 2 ^ 64) (flags : List Bool) (partLen total : Nat) :
    loadBitmap (some (saveBitmap chunkBytes flags)) partLen total =
      if covered chunkBytes partLen total 0 flags then some ⟨chunkBytes, flags⟩ else none := by
  have size := toLeBytes_length chunkBytes
  have long : ¬ (saveBitmap chunkBytes flags).length < 8 := by
    rw [saveBitmap, List.length_append, size]
    omega
  have header : fromLeBytes ((saveBitmap chunkBytes flags).take 8) = chunkBytes := by
    rw [saveBitmap, List.take_left' size, fromLeBytes_toLeBytes chunkBytes fits]
  have body : ((saveBitmap chunkBytes flags).drop 8).map (fun byte => byte == 1) = flags := by
    rw [saveBitmap, List.drop_left' size, flagBytes_read]
  simp only [loadBitmap, if_neg long, header, body, if_neg (Nat.pos_iff_ne_zero.mp positive)]

/-- Whatever bytes stand in the sidecar, a chunk taken as done lies inside the part file, and a
sidecar that was written reads back exactly when its flagged chunks do. -/
theorem sidecar_sound_and_exact (total : Nat) (small : total < 2 ^ 63) :
    (∀ (sidecar : Option Bytes) (partLen totalBps index : Nat),
      (Plan.resume sidecar partLen total totalBps).flags[index]? = some true →
      ∃ found chunk, loadBitmap sidecar partLen total = some found ∧
        (splitWith total found.chunkBytes)[index]? = some chunk ∧
        chunk.offset + chunk.length ≤ partLen) ∧
    ∀ (chunkBytes partLen : Nat) (flags : List Bool), 0 < chunkBytes → chunkBytes < 2 ^ 64 →
      flags.length = (splitWith total chunkBytes).length →
      (loadBitmap (some (saveBitmap chunkBytes flags)) partLen total = some ⟨chunkBytes, flags⟩ ↔
        FlagsInside total chunkBytes partLen flags) := by
  constructor
  · intro sidecar partLen totalBps index flag
    have sized := (Plan.resume sidecar partLen total totalBps).sized
    obtain ⟨found, loaded, width, marked⟩ := resume_flag flag
    obtain ⟨_, _, _, _, positive, fits, reach⟩ := loadBitmap_some loaded
    have bound : index < (splitWith total found.chunkBytes).length := by
      rw [← width]
      change index < (splitWith (Plan.resume sidecar partLen total totalBps).total _).length
      rw [← sized]
      exact (List.getElem?_eq_some_iff.mp flag).1
    have there := List.getElem?_eq_getElem bound
    refine ⟨found, _, loaded, there, ?_⟩
    have inside := (covered_iff _ _ _ _ _).mp reach index marked
    rwa [Nat.zero_add, wrapped_end small positive fits there] at inside
  · intro chunkBytes partLen flags positive fits sized
    rw [loadBitmap_saveBitmap positive fits, ← covered_iff_inside small positive fits sized]
    cases covered chunkBytes partLen total 0 flags <;> simp

/-- One chunk of two done, with the file just long enough. -/
theorem sidecar_sound_and_exact_two :
    loadBitmap (some (saveBitmap 8 [true, false])) 8 10 = some ⟨8, [true, false]⟩ := by
  apply ((sidecar_sound_and_exact 10 (by decide)).2 8 8 [true, false] (by decide) (by decide)
    (by decide)).mpr
  intro index chunk flag found
  match index with
  | 0 =>
      cases found
      decide
  | 1 => cases flag
  | index + 2 => cases flag

end WebProxy.Bitmap
