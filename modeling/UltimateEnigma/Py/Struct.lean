import Mathlib.Data.Nat.Notation
import Mathlib.Data.UInt

set_option autoImplicit false

namespace Py

abbrev Bytes := List UInt8

/-- The `width` low bytes of a number, most significant first. -/
def packBE : Nat → Nat → Bytes
  | 0, _ => []
  | width + 1, value => packBE width (value / 256) ++ [UInt8.ofNat value]

def unpackBE (bytes : Bytes) : Nat :=
  bytes.foldl (fun value byte => 256 * value + byte.toNat) 0

@[simp] theorem packBE_length (width value : Nat) : (packBE width value).length = width := by
  induction width generalizing value with
  | zero => rfl
  | succ width ih => rw [packBE, List.length_append, ih, List.length_singleton]

theorem unpackBE_append_byte (bytes : Bytes) (byte : UInt8) :
    unpackBE (bytes ++ [byte]) = 256 * unpackBE bytes + byte.toNat := by
  simp only [unpackBE, List.foldl_append, List.foldl_cons, List.foldl_nil]

/-- `struct.unpack` reads back what `struct.pack` wrote. -/
theorem unpackBE_packBE (width value : Nat) (fits : value < 256 ^ width) :
    unpackBE (packBE width value) = value := by
  induction width generalizing value with
  | zero =>
      have zero : value = 0 := by simpa using fits
      subst zero
      rfl
  | succ width ih =>
      have quotient : value / 256 < 256 ^ width := by
        rw [Nat.pow_succ] at fits
        exact Nat.div_lt_of_lt_mul (by omega)
      rw [packBE, unpackBE_append_byte, ih _ quotient, UInt8.toNat_ofNat']
      omega

/-- `struct.pack` writes back what `struct.unpack` read. -/
theorem packBE_unpackBE (bytes : Bytes) : packBE bytes.length (unpackBE bytes) = bytes := by
  induction bytes using List.reverseRecOn with
  | nil => rfl
  | append_singleton front byte ih =>
      have below := byte.toNat_lt
      have quotient : (256 * unpackBE front + byte.toNat) / 256 = unpackBE front := by omega
      have low : UInt8.ofNat (256 * unpackBE front + byte.toNat) = byte := by
        apply UInt8.toNat_inj.mp
        rw [UInt8.toNat_ofNat']
        omega
      rw [List.length_append, List.length_singleton, packBE, unpackBE_append_byte, quotient, ih, low]

theorem unpackBE_lt (bytes : Bytes) : unpackBE bytes < 256 ^ bytes.length := by
  induction bytes using List.reverseRecOn with
  | nil => exact Nat.one_pos
  | append_singleton front byte ih =>
      have below := byte.toNat_lt
      rw [unpackBE_append_byte, List.length_append, List.length_singleton, Nat.pow_succ]
      omega

theorem packBE_injective {width left right : Nat} (leftFits : left < 256 ^ width)
    (rightFits : right < 256 ^ width) (same : packBE width left = packBE width right) :
    left = right := by
  rw [← unpackBE_packBE width left leftFits, same, unpackBE_packBE width right rightFits]

end Py
