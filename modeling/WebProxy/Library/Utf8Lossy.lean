import WebProxy.Library.ByteFile
import Mathlib.Algebra.Ring.Nat

/-! Bytes read as a text whatever they are: what is not UTF-8 becomes the replacement character. -/

namespace Utf8Lossy

open ByteFile (Bytes)

def encode (text : String) : Bytes := text.toList.flatMap String.utf8EncodeChar

def replacement : Char := Char.ofNat 0xFFFD

def shape (first : UInt8) : Option (Nat × UInt8 × UInt8) :=
  if 0xC2 ≤ first && first ≤ 0xDF then some (1, 0x80, 0xBF)
  else if first = 0xE0 then some (2, 0xA0, 0xBF)
  else if first = 0xED then some (2, 0x80, 0x9F)
  else if 0xE1 ≤ first && first ≤ 0xEF then some (2, 0x80, 0xBF)
  else if first = 0xF0 then some (3, 0x90, 0xBF)
  else if 0xF1 ≤ first && first ≤ 0xF3 then some (3, 0x80, 0xBF)
  else if first = 0xF4 then some (3, 0x80, 0x8F)
  else none

def following : Nat → UInt8 → UInt8 → Bytes → Nat
  | 0, _, _, _ => 0
  | _ + 1, _, _, [] => 0
  | count + 1, low, high, byte :: rest =>
      if low ≤ byte && byte ≤ high then following count 0x80 0xBF rest + 1 else 0

def codePoint (count : Nat) (first : UInt8) (behind : Bytes) : Nat :=
  behind.foldl (fun total byte => total * 64 + byte.toNat % 64) (first.toNat % 2 ^ (6 - count))

def next (first : UInt8) (rest : Bytes) : Char × Nat :=
  if first < 0x80 then (Char.ofNat first.toNat, 0)
  else
    match shape first with
    | none => (replacement, 0)
    | some (count, low, high) =>
        let found := following count low high rest
        if found = count then (Char.ofNat (codePoint count first (rest.take count)), count)
        else (replacement, found)

def repair : Nat → Bytes → List Char
  | 0, _ | _, [] => []
  | rounds + 1, first :: rest =>
      let (char, taken) := next first rest
      char :: repair rounds (rest.drop taken)

def decode (bytes : Bytes) : String :=
  match String.fromUTF8? bytes.toByteArray with
  | some text => text
  | none => String.ofList (repair bytes.length bytes)

theorem decode_encode (text : String) : decode (encode text) = text := by
  have bytes : (encode text).toByteArray = text.toByteArray := String.utf8Encode_toList
  rw [decode, bytes, String.fromUTF8?, dif_pos text.isValidUTF8]
  rfl

example : decode [0x66, 0xE2, 0x82, 0x67, 0xC3, 0xA9] = "f\uFFFDg\u00E9" := by decide +kernel

end Utf8Lossy
