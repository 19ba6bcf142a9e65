import UltimateEnigma.Py.Struct

set_option autoImplicit false

namespace Py

namespace Base64

/-- What `base64.b64decode` raises: `binascii.Error` and the refusal of characters outside ASCII,
both subclasses of `ValueError`. -/
inductive DecodeError where
  | notAscii
  | oneCharacterOver
  | incorrectPadding
deriving DecidableEq, Repr

def alphabet : List Char :=
  "ABCDEFGHIJKLMNOPQRSTUVWXYZabcdefghijklmnopqrstuvwxyz0123456789+/".toList

def letter (value : Nat) : Char := alphabet.getD value 'A'

def sextet? (character : Char) : Option Nat := alphabet.idxOf? character

theorem letters : ∀ index : Fin 64, sextet? (letter index.val) = some index.val ∧
    letter index.val ≠ '=' ∧ (letter index.val).toNat < 128 := by
  decide +kernel

theorem sextet?_letter {value : Nat} (small : value < 64) : sextet? (letter value) = some value :=
  (letters ⟨value, small⟩).1

theorem letter_ne_pad {value : Nat} (small : value < 64) : letter value ≠ '=' :=
  (letters ⟨value, small⟩).2.1

theorem letter_ascii {value : Nat} (small : value < 64) : (letter value).toNat < 128 :=
  (letters ⟨value, small⟩).2.2

/-- The loop of `binascii.a2b_base64` outside strict mode: characters that are not in the alphabet
are passed over, and the padding that completes a quad ends the input. -/
def decodeLoop : List Char → (quadPos left pads : Nat) → Bytes → Except DecodeError Bytes
  | [], quadPos, _, _, out =>
      if quadPos = 0 then .ok out
      else if quadPos = 1 then .error .oneCharacterOver
      else .error .incorrectPadding
  | character :: rest, quadPos, left, pads, out =>
      if character = '=' then
        if quadPos < 2 then decodeLoop rest quadPos left pads out
        else if 4 ≤ quadPos + (pads + 1) then .ok out
        else decodeLoop rest quadPos left (pads + 1) out
      else
        match sextet? character with
        | none => decodeLoop rest quadPos left pads out
        | some value =>
            match quadPos with
            | 0 => decodeLoop rest 1 value 0 out
            | 1 => decodeLoop rest 2 (value % 16) 0 (out ++ [UInt8.ofNat (left * 4 + value / 16)])
            | 2 => decodeLoop rest 3 (value % 4) 0 (out ++ [UInt8.ofNat (left * 16 + value / 4)])
            | _ => decodeLoop rest 0 0 0 (out ++ [UInt8.ofNat (left * 64 + value)])

end Base64

open Base64

/-- `base64.b64decode` of a text. -/
def b64decode (text : String) : Except DecodeError Bytes :=
  if text.toList.all (fun character => character.toNat < 128) then
    decodeLoop text.toList 0 0 0 []
  else .error .notAscii

namespace Base64

def encodeChars : Bytes → List Char
  | [] => []
  | [first] =>
      [letter (first.toNat / 4), letter (first.toNat % 4 * 16), '=', '=']
  | [first, second] =>
      [letter (first.toNat / 4), letter (first.toNat % 4 * 16 + second.toNat / 16),
        letter (second.toNat % 16 * 4), '=']
  | first :: second :: third :: rest =>
      letter (first.toNat / 4) :: letter (first.toNat % 4 * 16 + second.toNat / 16) ::
        letter (second.toNat % 16 * 4 + third.toNat / 64) :: letter (third.toNat % 64) ::
        encodeChars rest

end Base64

/-- `base64.b64encode(..).decode()`. -/
def b64encode (bytes : Bytes) : String := String.ofList (encodeChars bytes)

namespace Base64

theorem decodeLoop_pad (rest : List Char) (quadPos left pads : Nat) (out : Bytes)
    (late : 2 ≤ quadPos) :
    decodeLoop ('=' :: rest) quadPos left pads out =
      if 4 ≤ quadPos + (pads + 1) then .ok out
      else decodeLoop rest quadPos left (pads + 1) out := by
  rw [decodeLoop, if_pos rfl, if_neg (by omega)]

section Letters

variable {value : Nat} (small : value < 64) (rest : List Char) (left pads : Nat) (out : Bytes)
include small

theorem decodeLoop_first :
    decodeLoop (letter value :: rest) 0 left pads out = decodeLoop rest 1 value 0 out := by
  rw [decodeLoop, if_neg (letter_ne_pad small), sextet?_letter small]
  rfl

theorem decodeLoop_second (byte : UInt8) (made : left * 4 + value / 16 = byte.toNat) :
    decodeLoop (letter value :: rest) 1 left pads out =
      decodeLoop rest 2 (value % 16) 0 (out ++ [byte]) := by
  rw [decodeLoop, if_neg (letter_ne_pad small), sextet?_letter small]
  simp only [made, UInt8.ofNat_toNat]

theorem decodeLoop_third (byte : UInt8) (made : left * 16 + value / 4 = byte.toNat) :
    decodeLoop (letter value :: rest) 2 left pads out =
      decodeLoop rest 3 (value % 4) 0 (out ++ [byte]) := by
  rw [decodeLoop, if_neg (letter_ne_pad small), sextet?_letter small]
  simp only [made, UInt8.ofNat_toNat]

theorem decodeLoop_fourth (byte : UInt8) (made : left * 64 + value = byte.toNat) :
    decodeLoop (letter value :: rest) 3 left pads out =
      decodeLoop rest 0 0 0 (out ++ [byte]) := by
  rw [decodeLoop, if_neg (letter_ne_pad small), sextet?_letter small]
  simp only [made, UInt8.ofNat_toNat]

end Letters

/-- The loop reads the quads of an encoding back, whatever was decoded before it. -/
theorem decodeLoop_encodeChars (bytes out : Bytes) (left pads : Nat) :
    decodeLoop (encodeChars bytes) 0 left pads out = .ok (out ++ bytes) := by
  induction bytes using encodeChars.induct generalizing out left pads with
  | case1 =>
      rw [encodeChars, decodeLoop, if_pos rfl, List.append_nil]
  | case2 first =>
      have bound := first.toNat_lt
      rw [encodeChars, decodeLoop_first (by omega),
        decodeLoop_second (by omega) _ _ _ _ first (by omega),
        decodeLoop_pad _ _ _ _ _ (by omega), if_neg (by omega),
        decodeLoop_pad _ _ _ _ _ (by omega), if_pos (by omega)]
  | case3 first second =>
      have bound := first.toNat_lt
      have bound' := second.toNat_lt
      rw [encodeChars, decodeLoop_first (by omega),
        decodeLoop_second (by omega) _ _ _ _ first (by omega),
        decodeLoop_third (by omega) _ _ _ _ second (by omega),
        decodeLoop_pad _ _ _ _ _ (by omega), if_pos (by omega), List.append_assoc]
      rfl
  | case4 first second third rest ih =>
      have bound := first.toNat_lt
      have bound' := second.toNat_lt
      have bound'' := third.toNat_lt
      rw [encodeChars, decodeLoop_first (by omega),
        decodeLoop_second (by omega) _ _ _ _ first (by omega),
        decodeLoop_third (by omega) _ _ _ _ second (by omega),
        decodeLoop_fourth (by omega) _ _ _ _ third (by omega), ih]
      simp only [List.append_assoc, List.cons_append, List.nil_append]

theorem encodeChars_ascii (bytes : Bytes) :
    ∀ character ∈ encodeChars bytes, character.toNat < 128 := by
  induction bytes using encodeChars.induct with
  | case1 => exact fun _ absent => absurd absent (List.not_mem_nil)
  | case2 first =>
      have bound := first.toNat_lt
      simp only [encodeChars, List.forall_mem_cons]
      exact ⟨letter_ascii (by omega), letter_ascii (by omega), by decide, by decide,
        fun _ absent => absurd absent List.not_mem_nil⟩
  | case3 first second =>
      have bound := first.toNat_lt
      have bound' := second.toNat_lt
      simp only [encodeChars, List.forall_mem_cons]
      exact ⟨letter_ascii (by omega), letter_ascii (by omega), letter_ascii (by omega), by decide,
        fun _ absent => absurd absent List.not_mem_nil⟩
  | case4 first second third rest ih =>
      have bound := first.toNat_lt
      have bound' := second.toNat_lt
      have bound'' := third.toNat_lt
      simp only [encodeChars, List.forall_mem_cons]
      exact ⟨letter_ascii (by omega), letter_ascii (by omega), letter_ascii (by omega),
        letter_ascii (by omega), ih⟩

end Base64

/-- `base64.b64decode` reads back what `base64.b64encode` wrote. -/
@[simp] theorem b64decode_b64encode (bytes : Bytes) : b64decode (b64encode bytes) = .ok bytes := by
  have ascii : (encodeChars bytes).all (fun character => character.toNat < 128) = true := by
    simpa only [List.all_eq_true, decide_eq_true_eq] using encodeChars_ascii bytes
  rw [b64decode, b64encode, String.toList_ofList, if_pos ascii, decodeLoop_encodeChars,
    List.nil_append]

end Py
