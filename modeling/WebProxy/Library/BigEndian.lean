import Mathlib.Data.List.Induction
import Mathlib.Tactic.NormNum

/-! Numbers as bytes with the highest byte first. -/

namespace BigEndian

def value (bytes : List UInt8) : Nat := bytes.foldl (fun high byte => high * 256 + byte.toNat) 0

def spell : Nat → Nat → List UInt8
  | 0, _ => []
  | width + 1, number => spell width (number / 256) ++ [UInt8.ofNat number]

@[simp] theorem spell_length (width number : Nat) : (spell width number).length = width := by
  induction width generalizing number with
  | zero => rfl
  | succ width ih => rw [spell, List.length_append, ih, List.length_singleton]

theorem value_append_byte (bytes : List UInt8) (byte : UInt8) :
    value (bytes ++ [byte]) = value bytes * 256 + byte.toNat := by
  rw [value, List.foldl_append]
  rfl

theorem value_spell {width number : Nat} (fits : number < 256 ^ width) :
    value (spell width number) = number := by
  induction width generalizing number with
  | zero =>
      rw [Nat.pow_zero, Nat.lt_one_iff] at fits
      rw [fits]
      rfl
  | succ width ih =>
      have high : number / 256 < 256 ^ width := by
        rw [Nat.pow_succ] at fits
        exact Nat.div_lt_of_lt_mul (by rwa [Nat.mul_comm] at fits)
      rw [spell, value_append_byte, ih high, UInt8.toNat_ofNat']
      exact Nat.div_add_mod' number 256

theorem value_lt (bytes : List UInt8) : value bytes < 256 ^ bytes.length := by
  induction bytes using List.reverseRecOn with
  | nil => exact Nat.one_pos
  | append_singleton bytes byte ih =>
      have small : byte.toNat < 256 := byte.toNat_lt
      rw [value_append_byte, List.length_append, List.length_singleton, Nat.pow_succ]
      omega

end BigEndian
