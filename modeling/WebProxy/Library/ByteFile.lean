import Mathlib.Data.List.Basic

/-! A file as the list of its bytes, with the positioned write and the exact read of a
POSIX file: a write past the end leaves a hole that reads as zero, and a write of no bytes
changes nothing, the length included. -/

namespace ByteFile

abbrev Bytes := List UInt8

def writeAt (file : Bytes) (position : Nat) (data : Bytes) : Bytes :=
  if data = [] then file
  else file.take position ++ List.replicate (position - file.length) 0 ++ data ++
    file.drop (position + data.length)

def readExact (file : Bytes) (position count : Nat) : Option Bytes :=
  let got := (file.drop position).take count
  if got.length = count then some got else none

def byte (file : Bytes) (position : Nat) : UInt8 := file.getD position 0

@[simp] theorem writeAt_nil (file : Bytes) (position : Nat) : writeAt file position [] = file := by
  simp [writeAt]

theorem writeAt_length (file : Bytes) (position : Nat) (data : Bytes) (nonempty : data ≠ []) :
    (writeAt file position data).length = max file.length (position + data.length) := by
  simp only [writeAt, if_neg nonempty, List.length_append, List.length_take,
    List.length_replicate, List.length_drop]
  omega

theorem le_writeAt_length (file : Bytes) (position : Nat) (data : Bytes) :
    file.length ≤ (writeAt file position data).length := by
  by_cases empty : data = []
  · simp [empty]
  · rw [writeAt_length file position data empty]
    exact Nat.le_max_left _ _

theorem writeAt_length_le (file : Bytes) (position : Nat) (data : Bytes) (bound : Nat)
    (inside : file.length ≤ bound) (fits : position + data.length ≤ bound) :
    (writeAt file position data).length ≤ bound := by
  by_cases empty : data = []
  · simpa [empty] using inside
  · rw [writeAt_length file position data empty]
    exact Nat.max_le.mpr ⟨inside, fits⟩

theorem end_le_writeAt_length (file : Bytes) (position : Nat) (data : Bytes)
    (nonempty : data ≠ []) : position + data.length ≤ (writeAt file position data).length := by
  rw [writeAt_length file position data nonempty]
  exact Nat.le_max_right _ _

theorem take_writeAt (file : Bytes) (position : Nat) (data : Bytes) (count : Nat)
    (below : count ≤ position) (inside : count ≤ file.length) :
    (writeAt file position data).take count = file.take count := by
  by_cases empty : data = []
  · simp [empty]
  · simp only [writeAt, if_neg empty, List.append_assoc]
    rw [List.take_append_of_le_length (by rw [List.length_take]; omega), List.take_take,
      Nat.min_eq_left below]

theorem writeAt_end (file data : Bytes) : writeAt file file.length data = file ++ data := by
  by_cases empty : data = []
  · simp [empty]
  · simp [writeAt, empty]

theorem byte_writeAt (file : Bytes) (position : Nat) (data : Bytes) (place : Nat) :
    byte (writeAt file position data) place =
      if position ≤ place ∧ place < position + data.length then byte data (place - position)
      else byte file place := by
  by_cases empty : data = []
  · have outside : ¬ (position ≤ place ∧ place < position + data.length) := by
      simp only [empty, List.length_nil]
      omega
    rw [if_neg outside, empty, writeAt_nil]
  · simp only [byte, writeAt, if_neg empty, List.getD_eq_getElem?_getD]
    by_cases before : place < position
    · rw [if_neg (by omega)]
      by_cases held : place < file.length
      · rw [List.append_assoc, List.append_assoc,
          List.getElem?_append_left (by rw [List.length_take]; omega),
          List.getElem?_take_of_lt before]
      · -- the hole between the old end and the written bytes
        have hole : (file.take position ++ List.replicate (position - file.length) (0 : UInt8) ++
            data ++ file.drop (position + data.length))[place]? = some 0 := by
          rw [List.append_assoc (_ ++ _), List.getElem?_append_left (by simp; omega),
            List.getElem?_append_right (by simp; omega), List.getElem?_replicate,
            if_pos (by simp; omega)]
        rw [hole, List.getElem?_eq_none (by omega)]
        rfl
    · have front : (file.take position ++
          List.replicate (position - file.length) (0 : UInt8)).length = position := by
        simp
        omega
      by_cases written : place < position + data.length
      · rw [if_pos (by omega), List.getElem?_append_left
            (by simp only [List.length_append] at front ⊢; omega),
          List.getElem?_append_right (by omega), front]
      · rw [if_neg (by omega), List.getElem?_append_right
          (by simp only [List.length_append] at front ⊢; omega), List.getElem?_drop]
        congr 2
        simp only [List.length_append] at front ⊢
        omega

theorem ext_byte {first second : Bytes} (size : first.length = second.length)
    (same : ∀ place, place < first.length → byte first place = byte second place) :
    first = second := by
  apply List.ext_getElem size
  intro place inFirst inSecond
  have equal := same place inFirst
  simpa [byte, inFirst, inSecond] using equal

theorem writeAt_append (file : Bytes) (position : Nat) (front back : Bytes) :
    writeAt (writeAt file position front) (position + front.length) back =
      writeAt file position (front ++ back) := by
  by_cases frontEmpty : front = []
  · simp [frontEmpty]
  by_cases backEmpty : back = []
  · simp [backEmpty]
  have joined : front ++ back ≠ [] := by simp [frontEmpty]
  apply ext_byte
  · rw [writeAt_length _ _ _ backEmpty, writeAt_length _ _ _ frontEmpty,
      writeAt_length _ _ _ joined, List.length_append]
    omega
  · intro place _
    simp only [byte_writeAt, List.length_append]
    by_cases inBack : position + front.length ≤ place ∧ place < position + front.length + back.length
    · rw [if_pos inBack, if_pos (by omega)]
      simp only [byte, List.getD_eq_getElem?_getD]
      rw [List.getElem?_append_right (by omega)]
      congr 2
      omega
    · rw [if_neg inBack]
      by_cases inFront : position ≤ place ∧ place < position + front.length
      · rw [if_pos inFront, if_pos (by omega)]
        simp only [byte, List.getD_eq_getElem?_getD]
        rw [List.getElem?_append_left (by omega)]
      · rw [if_neg inFront, if_neg (by omega)]

theorem readExact_some {file got : Bytes} {position count : Nat}
    (read : readExact file position count = some got) :
    got = (file.drop position).take count ∧ got.length = count := by
  simp only [readExact] at read
  split at read
  · rename_i size
    cases read
    exact ⟨rfl, size⟩
  · cases read

theorem readExact_of_le (file : Bytes) (position count : Nat)
    (inside : position + count ≤ file.length) :
    readExact file position count = some ((file.drop position).take count) := by
  unfold readExact
  rw [if_pos]
  rw [List.length_take, List.length_drop]
  omega

theorem take_append_read {file got : Bytes} {position count : Nat}
    (read : readExact file position count = some got) (inside : position ≤ file.length) :
    file.take position ++ got = file.take (position + count) ∧ position + count ≤ file.length := by
  obtain ⟨value, size⟩ := readExact_some read
  constructor
  · rw [value, List.take_add]
  · rw [value, List.length_take, List.length_drop] at size
    omega

theorem readExact_writeAt_self (file : Bytes) (position : Nat) (data : Bytes) :
    readExact (writeAt file position data) position data.length = some data := by
  by_cases empty : data = []
  · subst empty
    simp [readExact]
  · have inside := end_le_writeAt_length file position data empty
    rw [readExact_of_le _ _ _ inside]
    congr 1
    apply ext_byte
    · rw [List.length_take, List.length_drop]
      omega
    · intro place bound
      have small : place < data.length := by
        rw [List.length_take] at bound
        omega
      have written := byte_writeAt file position data (position + place)
      rw [if_pos (by omega)] at written
      simp only [byte, List.getD_eq_getElem?_getD] at written ⊢
      rw [List.getElem?_take_of_lt small, List.getElem?_drop, written]
      congr 2
      omega

end ByteFile
