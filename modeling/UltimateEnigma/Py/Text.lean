import UltimateEnigma.Py.Struct

set_option autoImplicit false

namespace Py

/-- `text.encode("utf-8")`. -/
def encodeUtf8 (text : String) : Bytes := text.toUTF8.data.toList

/-- `data.decode("utf-8")`; `none` is a `UnicodeDecodeError`. -/
def decodeUtf8 (bytes : Bytes) : Option String := String.fromUTF8? ⟨bytes.toArray⟩

/-- `data.decode("latin-1")`. -/
def decodeLatin1 (bytes : Bytes) : String :=
  String.ofList (bytes.map fun byte => Char.ofNat byte.toNat)

@[simp] theorem decodeUtf8_encodeUtf8 (text : String) : decodeUtf8 (encodeUtf8 text) = some text := by
  have bytes : (⟨(encodeUtf8 text).toArray⟩ : ByteArray) = text.toByteArray := rfl
  rw [decodeUtf8, bytes, String.fromUTF8?]
  rw [dif_pos text.isValidUTF8]
  rfl

/-- `str.isspace` of one character. -/
def isSpace (character : Char) : Bool :=
  let code := character.toNat
  (9 ≤ code && code ≤ 13) || (28 ≤ code && code ≤ 32) || code == 133 || code == 160 ||
    code == 5760 || (8192 ≤ code && code ≤ 8202) || code == 8232 || code == 8233 ||
    code == 8239 || code == 8287 || code == 12288

/-- `text.strip()`. -/
def strip (text : String) : String :=
  String.ofList ((text.toList.dropWhile isSpace).reverse.dropWhile isSpace).reverse

theorem dropWhile_isSpace {chars : List Char} (plain : ∀ char ∈ chars, isSpace char = false) :
    chars.dropWhile isSpace = chars := by
  cases chars with
  | nil => rfl
  | cons char rest =>
      have first := plain char List.mem_cons_self
      simp only [List.dropWhile_cons, first, Bool.false_eq_true, if_false]

theorem toList_strip {text : String} (plain : ∀ char ∈ text.toList, isSpace char = false) :
    (strip text).toList = text.toList := by
  have backwards : ∀ char ∈ text.toList.reverse, isSpace char = false := fun char member =>
    plain char (List.mem_reverse.mp member)
  rw [strip, dropWhile_isSpace plain, dropWhile_isSpace backwards, List.reverse_reverse,
    String.toList_ofList]

def parseDigits (digits : List Char) : Option Nat :=
  if digits.isEmpty || !digits.all Char.isDigit then none else some (Nat.ofDigitChars 10 digits 0)

/-- `int(text)` of ASCII digits, with a sign and spaces around. -/
def parseInt (text : String) : Option Int :=
  match (strip text).toList with
  | '-' :: digits => (parseDigits digits).map fun value : Nat => -(value : Int)
  | '+' :: digits => (parseDigits digits).map Int.ofNat
  | digits => (parseDigits digits).map Int.ofNat

theorem parseDigits_toDigits (value : Nat) : parseDigits (Nat.toDigits 10 value) = some value := by
  have digits : (Nat.toDigits 10 value).all Char.isDigit = true :=
    List.all_eq_true.mpr fun char member => Nat.isDigit_of_mem_toDigits (by decide) (by decide) member
  have filled : (Nat.toDigits 10 value).isEmpty = false :=
    List.isEmpty_eq_false_iff.mpr Nat.toDigits_ne_nil
  rw [parseDigits, digits, filled]
  exact congrArg some Nat.ofDigitChars_ten_toDigits

theorem isSpace_of_isDigit {char : Char} (digit : char.isDigit = true) : isSpace char = false := by
  have bounds : 48 ≤ char.toNat ∧ char.toNat ≤ 57 := Char.isDigit_iff_toNat.mp digit
  unfold isSpace
  dsimp only
  simp only [Bool.or_eq_false_iff, Bool.and_eq_false_iff, decide_eq_false_iff_not, beq_eq_false_iff_ne]
  omega

/-- `int(str(value))`. -/
theorem parseInt_repr (value : Int) : parseInt value.repr = some value := by
  have plain (natural : Nat) : ∀ char ∈ Nat.toDigits 10 natural, isSpace char = false :=
    fun char member => isSpace_of_isDigit
      (Nat.isDigit_of_mem_toDigits (by decide) (by decide) member)
  cases value with
  | ofNat natural =>
      have text : (Int.repr (Int.ofNat natural)).toList = Nat.toDigits 10 natural := Nat.toList_repr
      rw [parseInt, toList_strip (by rw [text]; exact plain natural), text]
      split
      · rename_i digits minus
        have digit : ('-').isDigit = true :=
          Nat.isDigit_of_mem_toDigits (by decide) (by decide) (minus ▸ List.mem_cons_self)
        cases digit
      · rename_i digits plus
        have digit : ('+').isDigit = true :=
          Nat.isDigit_of_mem_toDigits (by decide) (by decide) (plus ▸ List.mem_cons_self)
        cases digit
      · rw [parseDigits_toDigits]
        rfl
  | negSucc natural =>
      have text : (Int.repr (Int.negSucc natural)).toList = '-' :: Nat.toDigits 10 (natural + 1) := by
        rw [Int.repr, String.toList_append, Nat.toList_repr]
        rfl
      have unspaced : ∀ char ∈ (Int.repr (Int.negSucc natural)).toList, isSpace char = false := by
        rw [text]
        exact List.forall_mem_cons.mpr ⟨rfl, plain (natural + 1)⟩
      rw [parseInt, toList_strip unspaced, text]
      exact congrArg (Option.map fun value : Nat => -(value : Int)) (parseDigits_toDigits (natural + 1))

/-- `int(value)`, towards zero. -/
def toInt (value : Rat) : Int := value.num.tdiv value.den

@[simp] theorem toInt_intCast (value : Int) : toInt value = value := by
  show Int.tdiv (value : Rat).num (value : Rat).den = value
  rw [Rat.num_intCast, Rat.den_intCast]
  exact Int.tdiv_one value

/-- `line` is what `text` has in front of its first line break. -/
def FirstLine (text line : String) : Prop :=
  ∃ rest : String, text = line ++ "\n" ++ rest ∧ '\n' ∉ line.toList

theorem firstLine_takeWhile {text line : String} (first : FirstLine text line) :
    text.toList.takeWhile (fun char => char ≠ '\n') = line.toList := by
  obtain ⟨rest, whole, unbroken⟩ := first
  have inside : ∀ char ∈ line.toList, decide (char ≠ '\n') = true := by
    intro char member
    exact decide_eq_true fun same => unbroken (same ▸ member)
  have lineBreak : "\n".toList = ['\n'] := rfl
  rw [whole, String.toList_append, String.toList_append, lineBreak, List.append_assoc,
    List.takeWhile_append_of_pos inside, List.singleton_append,
    List.takeWhile_cons_of_neg (by decide), List.append_nil]

theorem FirstLine.unique {text line other : String} (first : FirstLine text line)
    (second : FirstLine text other) : line = other := by
  have same := (firstLine_takeWhile first).symm.trans (firstLine_takeWhile second)
  exact String.toList_injective same

end Py
