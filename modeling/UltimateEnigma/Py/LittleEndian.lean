import UltimateEnigma.Py.Struct
import Mathlib.Data.Vector.Basic

set_option autoImplicit false

namespace Py

/-- The `width` low bytes of a number, least significant first. -/
def packLE (width value : Nat) : Bytes := (packBE width value).reverse

def unpackLE (bytes : Bytes) : Nat := unpackBE bytes.reverse

/-- `struct.unpack("<nI", bytes)`. -/
def unpackWords (count : Nat) (bytes : Bytes) : Option (Vector Nat count) :=
  if bytes.length = 4 * count then
    some (Vector.ofFn fun i => unpackLE ((bytes.drop (4 * i)).take 4))
  else
    none

/-- `struct.pack("<nI", *words)`. -/
def packWords {count : Nat} (words : Vector Nat count) : Option Bytes :=
  if ∀ word ∈ words.toList, word < 2 ^ 32 then some (words.toList.flatMap (packLE 4)) else none

theorem unpackLE_nil : unpackLE [] = 0 := rfl

theorem unpackLE_cons (byte : UInt8) (rest : Bytes) :
    unpackLE (byte :: rest) = 256 * unpackLE rest + byte.toNat := by
  rw [unpackLE, List.reverse_cons, unpackBE_append_byte]
  rfl

theorem packLE_succ (width value : Nat) :
    packLE (width + 1) value = UInt8.ofNat value :: packLE width (value / 256) := by
  rw [packLE, packBE, List.reverse_append]
  rfl

theorem unpackLE_lt (bytes : Bytes) : unpackLE bytes < 256 ^ bytes.length := by
  have below := unpackBE_lt bytes.reverse
  rwa [List.length_reverse] at below

section Words

/-- A word from its four bytes, the least significant one first. -/
def wordLE (b0 b1 b2 b3 : UInt8) : BitVec 32 :=
  b3.toBitVec ++ b2.toBitVec ++ b1.toBitVec ++ b0.toBitVec

def wordBytes (word : BitVec 32) : Bytes :=
  [⟨word.extractLsb' 0 8⟩, ⟨word.extractLsb' 8 8⟩, ⟨word.extractLsb' 16 8⟩,
    ⟨word.extractLsb' 24 8⟩]

/-- A byte in front of the bits that follow it. -/
theorem toNat_append_byte {width : Nat} (high : BitVec width) (byte : UInt8) :
    (high ++ byte.toBitVec).toNat = 256 * high.toNat + byte.toNat := by
  have below : byte.toNat < 2 ^ 8 := byte.toNat_lt
  rw [BitVec.toNat_append, UInt8.toNat_toBitVec, ← Nat.shiftLeft_add_eq_or_of_lt below,
    Nat.shiftLeft_eq]
  omega

theorem ofNat_unpackLE (b0 b1 b2 b3 : UInt8) :
    BitVec.ofNat 32 (unpackLE [b0, b1, b2, b3]) = wordLE b0 b1 b2 b3 := by
  have value : unpackLE [b0, b1, b2, b3] = (wordLE b0 b1 b2 b3).toNat := by
    simp only [wordLE, toNat_append_byte, unpackLE_cons, unpackLE_nil, Nat.mul_zero, Nat.zero_add,
      UInt8.toNat_toBitVec]
  rw [value, BitVec.ofNat_toNat, BitVec.setWidth_eq]

/-- A byte of a number, and the same byte of the word. -/
theorem ofNat_div_eq (word : BitVec 32) (start : Nat) :
    UInt8.ofNat (word.toNat / 2 ^ start) = ⟨word.extractLsb' start 8⟩ := by
  apply UInt8.toNat_inj.mp
  rw [UInt8.toNat_ofNat']
  show _ = (word.extractLsb' start 8).toNat
  rw [BitVec.extractLsb'_toNat, Nat.shiftRight_eq_div_pow]

theorem packLE_toNat (word : BitVec 32) : packLE 4 word.toNat = wordBytes word := by
  rw [wordBytes, ← ofNat_div_eq, ← ofNat_div_eq, ← ofNat_div_eq, ← ofNat_div_eq]
  simp only [packLE_succ, Nat.div_div_eq_div_mul, Nat.pow_zero, Nat.div_one]
  rfl

/-- The word at a position of a byte string. -/
def wordAt (bytes : Bytes) (i : Nat) : BitVec 32 :=
  wordLE (bytes.getD (4 * i) 0) (bytes.getD (4 * i + 1) 0) (bytes.getD (4 * i + 2) 0)
    (bytes.getD (4 * i + 3) 0)

theorem take_four {bytes : Bytes} {start : Nat} (enough : start + 4 ≤ bytes.length) :
    (bytes.drop start).take 4 =
      [bytes.getD start 0, bytes.getD (start + 1) 0, bytes.getD (start + 2) 0,
        bytes.getD (start + 3) 0] := by
  have behind (j : Nat) : bytes.getD (start + j) 0 = (bytes.drop start).getD j 0 := by
    rw [List.getD_eq_getElem?_getD, List.getD_eq_getElem?_getD, List.getElem?_drop]
  have first := behind 0
  rw [Nat.add_zero] at first
  rw [first, behind, behind, behind]
  have long : 4 ≤ (bytes.drop start).length := by
    rw [List.length_drop]
    omega
  match bytes.drop start, long with
  | b0 :: b1 :: b2 :: b3 :: rest, _ => rfl

theorem unpackWords_of_length {count : Nat} {bytes : Bytes} (size : bytes.length = 4 * count) :
    ∃ words, unpackWords count bytes = some words := by
  rw [unpackWords, if_pos size]
  exact ⟨_, rfl⟩

/-- What `struct.unpack` returns, as machine words. -/
theorem map_unpackWords {count : Nat} {bytes : Bytes} {words : Vector Nat count}
    (unpacked : unpackWords count bytes = some words) :
    words.map (BitVec.ofNat 32) = Vector.ofFn fun i : Fin count => wordAt bytes i := by
  rw [unpackWords] at unpacked
  split at unpacked
  · rename_i size
    cases unpacked
    ext i below
    rw [Vector.getElem_map, Vector.getElem_ofFn, Vector.getElem_ofFn, wordAt, ← ofNat_unpackLE,
      take_four (by simp only; omega)]
  · cases unpacked

theorem unpackWords_lt {count : Nat} {bytes : Bytes} {words : Vector Nat count}
    (unpacked : unpackWords count bytes = some words) (i : Nat) (small : i < count) :
    words[i] < 2 ^ 32 := by
  rw [unpackWords] at unpacked
  split at unpacked
  · rename_i size
    cases unpacked
    have below := unpackLE_lt ((bytes.drop (4 * i)).take 4)
    have four : ((bytes.drop (4 * i)).take 4).length = 4 := by
      rw [take_four (by omega)]
      rfl
    rw [four] at below
    rw [Vector.getElem_ofFn]
    exact below
  · cases unpacked

/-- `struct.pack` fails on no number that fits into a word. -/
theorem packWords_toNat {count : Nat} (words : Vector (BitVec 32) count) :
    packWords (words.map BitVec.toNat) = some (words.toList.flatMap wordBytes) := by
  rw [packWords, Vector.toList_map, if_pos, List.flatMap_map]
  · simp only [packLE_toNat]
  · rintro _ member
    obtain ⟨word, _, rfl⟩ := List.mem_map.mp member
    exact word.isLt

end Words

end Py
