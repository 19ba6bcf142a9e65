import Mathlib.Algebra.Field.Basic
import Mathlib.Data.Int.Bitwise
import Mathlib.Data.Fintype.Card
import Mathlib.Data.Fintype.OfMap
import Mathlib.Data.Nat.Bitwise
import Mathlib.Dynamics.PeriodicPts.Defs

set_option autoImplicit false

namespace UltimateEnigma

namespace Shamir

def irreducible : Nat := 0x11D

/-- `x <<= 1; if x & 0x100: x ^= _IRREDUCIBLE`. -/
def nextPower (x : Nat) : Nat :=
  let shifted := x <<< 1
  if shifted &&& 0x100 = 0 then shifted else shifted ^^^ irreducible

structure Tables where
  exp : List Nat
  log : List Nat

/-- The first loop of `_build_tables`, from the indices that remain. -/
def fillPowers : List Nat → Nat → Tables → Tables
  | [], _, tables => tables
  | i :: rest, x, tables =>
      fillPowers rest (nextPower x) { exp := tables.exp.set i x, log := tables.log.set x i }

/-- The second loop. -/
def repeatPowers : List Nat → List Nat → List Nat
  | [], exp => exp
  | i :: rest, exp => repeatPowers rest (exp.set i (exp.getD (i - 255) 0))

/-- The tables between the two loops. -/
def firstHalf : Tables :=
  fillPowers (List.range' 0 255) 1 { exp := List.replicate 512 0, log := List.replicate 256 0 }

def buildTables : Tables :=
  { exp := repeatPowers (List.range' 255 257) firstHalf.exp, log := firstHalf.log }

def gfExp : List Nat := buildTables.exp

def gfLog : List Nat := buildTables.log

/-- The powers of the generator 2. -/
def power (k : Nat) : Nat := nextPower^[k] 1

theorem power_succ (k : Nat) : power (k + 1) = nextPower (power k) :=
  Function.iterate_succ_apply' nextPower k 1

theorem power_add (j k : Nat) : power (j + k) = nextPower^[j] (power k) :=
  Function.iterate_add_apply nextPower j k 1

section Period

theorem nextPower_lt : ∀ x < 256, nextPower x < 256 := by decide +kernel

theorem nextPower_ne_zero : ∀ x < 256, x ≠ 0 → nextPower x ≠ 0 := by decide +kernel

theorem power_lt (k : Nat) : power k < 256 := by
  induction k with
  | zero => decide
  | succ k ih =>
      rw [power_succ]
      exact nextPower_lt _ ih

theorem power_ne_zero (k : Nat) : power k ≠ 0 := by
  induction k with
  | zero => decide
  | succ k ih =>
      rw [power_succ]
      exact nextPower_ne_zero _ (power_lt k) ih

theorem power_255 : power 255 = 1 := by decide +kernel

/-- The order of the generator is not a proper divisor of 255 = 3 · 5 · 17, so it covers the
nonzero bytes. -/
theorem minimalPeriod_nextPower : Function.minimalPeriod nextPower 1 = 255 := by
  have periodic : Function.IsPeriodicPt nextPower 255 1 := power_255
  have divides := periodic.minimalPeriod_dvd
  have notPeriod : ∀ k, power k ≠ 1 → ¬ Function.minimalPeriod nextPower 1 ∣ k := by
    intro k apart divisor
    exact apart (Function.IsPeriodicPt.trans_dvd (Function.isPeriodicPt_minimalPeriod _ _) divisor)
  have not85 := notPeriod 85 (by decide +kernel)
  have not51 := notPeriod 51 (by decide +kernel)
  have not15 := notPeriod 15 (by decide +kernel)
  have small : Function.minimalPeriod nextPower 1 ≤ 255 := Nat.le_of_dvd (by omega) divides
  generalize Function.minimalPeriod nextPower 1 = period at *
  have all : ∀ period ≤ 255, period ∣ 255 → ¬ period ∣ 85 → ¬ period ∣ 51 → ¬ period ∣ 15 →
      period = 255 := by decide +kernel
  exact all period small divides not85 not51 not15

theorem power_injective {j k : Nat} (first : j < 255) (second : k < 255)
    (same : power j = power k) : j = k := by
  refine Function.iterate_injOn_Iio_minimalPeriod ?_ ?_ same
  · rw [minimalPeriod_nextPower]
    exact first
  · rw [minimalPeriod_nextPower]
    exact second

/-- Every nonzero byte is a power of the generator. -/
theorem exists_power {x : Nat} (small : x < 256) (nonzero : x ≠ 0) : ∃ k < 255, power k = x := by
  have covered : (Finset.range 255).image power = (Finset.range 256).erase 0 := by
    refine Finset.eq_of_subset_of_card_le ?_ ?_
    · intro y member
      obtain ⟨k, -, rfl⟩ := Finset.mem_image.mp member
      exact Finset.mem_erase.mpr ⟨power_ne_zero k, Finset.mem_range.mpr (power_lt k)⟩
    · rw [Finset.card_image_of_injOn]
      · rw [Finset.card_erase_of_mem (by simp), Finset.card_range, Finset.card_range]
      · intro j first k second same
        exact power_injective (by simpa using first) (by simpa using second) same
  have member : x ∈ (Finset.range 255).image power := by
    rw [covered]
    exact Finset.mem_erase.mpr ⟨nonzero, Finset.mem_range.mpr small⟩
  obtain ⟨k, bound, same⟩ := Finset.mem_image.mp member
  exact ⟨k, Finset.mem_range.mp bound, same⟩

end Period

section Tables

theorem fillPowers_exp (count start x : Nat) (tables : Tables)
    (fits : start + count ≤ tables.exp.length) (j : Nat) :
    (fillPowers (List.range' start count) x tables).exp[j]? =
      if start ≤ j ∧ j < start + count then some (nextPower^[j - start] x)
      else tables.exp[j]? := by
  induction count generalizing start x tables with
  | zero =>
      rw [if_neg (by omega)]
      rfl
  | succ count ih =>
      rw [List.range'_succ, fillPowers, ih _ _ _ (by rw [List.length_set]; omega)]
      by_cases later : start + 1 ≤ j ∧ j < start + 1 + count
      · rw [if_pos later, if_pos (by omega), ← Function.iterate_succ_apply]
        congr 2
        omega
      · rw [if_neg later]
        by_cases here : start = j
        · subst here
          rw [if_pos (by omega), List.getElem?_set_self (by omega), Nat.sub_self]
          rfl
        · rw [if_neg (by omega), List.getElem?_set_ne here]

theorem fillPowers_log_length (indices : List Nat) (x : Nat) (tables : Tables) :
    (fillPowers indices x tables).log.length = tables.log.length := by
  induction indices generalizing x tables with
  | nil => rfl
  | cons i rest ih => rw [fillPowers, ih, List.length_set]

theorem fillPowers_exp_length (indices : List Nat) (x : Nat) (tables : Tables) :
    (fillPowers indices x tables).exp.length = tables.exp.length := by
  induction indices generalizing x tables with
  | nil => rfl
  | cons i rest ih => rw [fillPowers, ih, List.length_set]

/-- No later power overwrites the entry of an earlier one. -/
theorem fillPowers_log (count start : Nat) (tables : Tables) (bound : start + count ≤ 255)
    (size : tables.log.length = 256) {k : Nat} (small : k < 255) :
    (fillPowers (List.range' start count) (power start) tables).log[power k]? =
      if start ≤ k ∧ k < start + count then some k else tables.log[power k]? := by
  induction count generalizing start tables with
  | zero =>
      rw [if_neg (by omega)]
      rfl
  | succ count ih =>
      rw [List.range'_succ, fillPowers, ← power_succ,
        ih _ _ (by omega) (by rw [List.length_set]; exact size)]
      by_cases later : start + 1 ≤ k ∧ k < start + 1 + count
      · rw [if_pos later, if_pos (by omega)]
      · rw [if_neg later]
        by_cases here : start = k
        · subst here
          have inside : power start < tables.log.length := by
            rw [size]
            exact power_lt start
          rw [if_pos (by omega), List.getElem?_set_self inside]
        · have apart : power start ≠ power k :=
            fun same => here (power_injective (by omega) small same)
          rw [if_neg (by omega), List.getElem?_set_ne apart]

theorem repeatPowers_length (indices exp : List Nat) :
    (repeatPowers indices exp).length = exp.length := by
  induction indices generalizing exp with
  | nil => rfl
  | cons i rest ih => rw [repeatPowers, ih, List.length_set]

theorem power_sub_255 {k : Nat} (large : 255 ≤ k) : power (k - 255) = power k := by
  have split : k = k - 255 + 255 := by omega
  conv_rhs => rw [split, power_add, power_255]
  rfl

theorem repeatPowers_get (count start : Nat) (exp : List Nat) (large : 255 ≤ start)
    (fits : start + count ≤ exp.length) (filled : ∀ j < start, exp[j]? = some (power j)) :
    ∀ j < start + count, (repeatPowers (List.range' start count) exp)[j]? = some (power j) := by
  induction count generalizing start exp with
  | zero => exact filled
  | succ count ih =>
      rw [List.range'_succ, repeatPowers]
      intro j bound
      refine ih (start + 1) _ (by omega) (by rw [List.length_set]; omega) ?_ j (by omega)
      intro i below
      by_cases here : start = i
      · subst here
        have earlier := filled (start - 255) (by omega)
        rw [List.getElem?_set_self (by omega), List.getD_eq_getElem?_getD, earlier,
          Option.getD_some, power_sub_255 large]
      · rw [List.getElem?_set_ne here]
        exact filled i (by omega)

theorem firstHalf_get {j : Nat} (below : j < 255) : firstHalf.exp[j]? = some (power j) := by
  have filled := fillPowers_exp 255 0 1
    { exp := List.replicate 512 0, log := List.replicate 256 0 }
    (by rw [List.length_replicate]; omega) j
  rw [if_pos (by omega), Nat.sub_zero] at filled
  exact filled

theorem firstHalf_length : firstHalf.exp.length = 512 := by
  rw [firstHalf, fillPowers_exp_length, List.length_replicate]

theorem gfExp_length : gfExp.length = 512 := by
  rw [gfExp, buildTables, repeatPowers_length, firstHalf_length]

theorem gfLog_length : gfLog.length = 256 := by
  rw [gfLog, buildTables, firstHalf, fillPowers_log_length, List.length_replicate]

theorem gfExp_get {i : Nat} (bound : i < 512) : gfExp[i]? = some (power i) := by
  have fits : 255 + 257 ≤ firstHalf.exp.length := by
    have size := firstHalf_length
    omega
  have all := repeatPowers_get 257 255 firstHalf.exp (Nat.le_refl 255) fits
    (fun j below => firstHalf_get below)
  have inside : i < 255 + 257 := by omega
  have found := all i inside
  rw [gfExp, buildTables, found]

theorem power_zero : power 0 = 1 := rfl

theorem gfLog_get {k : Nat} (bound : k < 255) : gfLog[power k]? = some k := by
  unfold gfLog buildTables firstHalf
  have filled := fillPowers_log 255 0
    { exp := List.replicate 512 0, log := List.replicate 256 0 } (by omega)
    List.length_replicate bound
  rw [if_pos (by omega), power_zero] at filled
  rw [filled]

end Tables

section Lookups

theorem exp_getD {i : Nat} (bound : i < 512) : gfExp.getD i 0 = power i := by
  rw [List.getD_eq_getElem?_getD, gfExp_get bound, Option.getD_some]

theorem log_getD {k : Nat} (bound : k < 255) : gfLog.getD (power k) 0 = k := by
  rw [List.getD_eq_getElem?_getD, gfLog_get bound, Option.getD_some]

theorem exp_lt (i : Nat) : gfExp.getD i 0 < 256 := by
  by_cases inside : i < 512
  · rw [exp_getD inside]
    exact power_lt i
  · rw [List.getD_eq_getElem?_getD, List.getElem?_eq_none (by rw [gfExp_length]; omega)]
    decide

theorem power_mod (k : Nat) : power (k % 255) = power k := by
  induction k using Nat.strong_induction_on with
  | _ k ih =>
      by_cases small : k < 255
      · rw [Nat.mod_eq_of_lt small]
      · have large : 255 ≤ k := by omega
        rw [Nat.mod_eq_sub_mod large, ih (k - 255) (by omega), power_sub_255 large]

/-- The shift is linear: the carry is one bit. -/
theorem nextPower_xor (a b : Nat) : nextPower (a ^^^ b) = nextPower a ^^^ nextPower b := by
  have carry : ∀ x : Nat, nextPower x =
      (x <<< 1) ^^^ (if (x <<< 1).testBit 8 then irreducible else 0) := by
    intro x
    have masked : (x <<< 1) &&& 0x100 = ((x <<< 1).testBit 8).toNat * 2 ^ 8 :=
      Nat.and_two_pow (x <<< 1) 8
    rw [nextPower]
    cases bit : (x <<< 1).testBit 8 with
    | false =>
        rw [bit] at masked
        simp [masked]
    | true =>
        rw [bit] at masked
        simp [masked]
  rw [carry, carry, carry, Nat.shiftLeft_xor_distrib, Nat.testBit_xor]
  cases (a <<< 1).testBit 8 <;> cases (b <<< 1).testBit 8 <;>
    simp [Nat.xor_comm, Nat.xor_left_comm]

end Lookups

-- from here on the tables are known by their entries
attribute [irreducible] gfExp gfLog

/-- A byte as an element of the field. -/
@[ext] structure Gf256 where
  val : Nat
  lt : val < 256
deriving DecidableEq

namespace Gf256

instance : Zero Gf256 := ⟨⟨0, by decide⟩⟩

instance : One Gf256 := ⟨⟨1, by decide⟩⟩

theorem xor_lt {a b : Nat} (first : a < 256) (second : b < 256) : a ^^^ b < 256 := by
  have bounded : a ^^^ b < 2 ^ 8 := Nat.xor_lt_two_pow first second
  exact bounded

instance : Add Gf256 := ⟨fun a b => ⟨a.val ^^^ b.val, xor_lt a.lt b.lt⟩⟩

instance : Neg Gf256 := ⟨fun a => a⟩

/-- Multiplication by the tables. -/
instance : Mul Gf256 where
  mul a b :=
    { val := if a.val = 0 ∨ b.val = 0 then 0
        else gfExp.getD (gfLog.getD a.val 0 + gfLog.getD b.val 0) 0
      lt := by
        split
        · decide
        · exact exp_lt _ }

instance : Inv Gf256 where
  inv a :=
    { val := if a.val = 0 then 0 else gfExp.getD (255 - gfLog.getD a.val 0) 0
      lt := by
        split
        · decide
        · exact exp_lt _ }

@[simp] theorem val_zero : (0 : Gf256).val = 0 := rfl

@[simp] theorem val_one : (1 : Gf256).val = 1 := rfl

@[simp] theorem val_add (a b : Gf256) : (a + b).val = a.val ^^^ b.val := rfl

theorem val_mul (a b : Gf256) : (a * b).val = if a.val = 0 ∨ b.val = 0 then 0
    else gfExp.getD (gfLog.getD a.val 0 + gfLog.getD b.val 0) 0 := rfl

theorem val_eq_zero {a : Gf256} : a.val = 0 ↔ a = 0 :=
  ⟨fun zero => Gf256.ext zero, fun zero => by rw [zero]; rfl⟩

theorem zero_mul' (a : Gf256) : 0 * a = 0 := rfl

theorem mul_zero' (a : Gf256) : a * 0 = 0 := by
  ext
  rw [val_mul, if_pos (.inr rfl)]
  rfl

/-- The power of the generator. -/
def ofPower (k : Nat) : Gf256 := ⟨power k, power_lt k⟩

@[simp] theorem val_ofPower (k : Nat) : (ofPower k).val = power k := rfl

theorem ofPower_ne_zero (k : Nat) : ofPower k ≠ 0 :=
  fun zero => power_ne_zero k (congrArg val zero)

theorem exists_ofPower {a : Gf256} (nonzero : a ≠ 0) : ∃ k < 255, ofPower k = a := by
  obtain ⟨k, bound, same⟩ := exists_power a.lt (fun zero => nonzero (val_eq_zero.mp zero))
  exact ⟨k, bound, Gf256.ext same⟩

theorem ofPower_mul (j k : Nat) : ofPower j * ofPower k = ofPower (j + k) := by
  have reduce : ∀ i, ofPower (i % 255) = ofPower i := fun i => Gf256.ext (power_mod i)
  have small : ∀ i, i % 255 < 255 := fun i => Nat.mod_lt i (by decide)
  ext
  rw [← reduce j, ← reduce k, val_mul, if_neg]
  · have first := small j
    have second := small k
    simp only [ofPower, log_getD first, log_getD second]
    rw [exp_getD (by omega), ← power_mod, ← Nat.add_mod, power_mod]
  · rw [val_eq_zero, val_eq_zero, not_or]
    exact ⟨ofPower_ne_zero _, ofPower_ne_zero _⟩

/-- Multiplication by the generator. -/
def shift (a : Gf256) : Gf256 := ⟨nextPower a.val, nextPower_lt a.val a.lt⟩

theorem shift_add (a b : Gf256) : shift (a + b) = shift a + shift b :=
  Gf256.ext (nextPower_xor a.val b.val)

theorem iterate_shift_add (k : Nat) (a b : Gf256) : shift^[k] (a + b) = shift^[k] a + shift^[k] b := by
  induction k generalizing a b with
  | zero => rfl
  | succ k ih => rw [Function.iterate_succ_apply, shift_add, ih]; rfl

theorem iterate_shift_zero (k : Nat) : shift^[k] 0 = 0 := by
  induction k with
  | zero => rfl
  | succ k ih => exact ih

theorem iterate_shift_ofPower (j k : Nat) : shift^[j] (ofPower k) = ofPower (j + k) := by
  induction j generalizing k with
  | zero => rw [Nat.zero_add]; rfl
  | succ j ih =>
      have once : shift (ofPower k) = ofPower (k + 1) := Gf256.ext (power_succ k).symm
      rw [Function.iterate_succ_apply, once, ih]
      congr 1
      omega

theorem ofPower_mul_eq (j : Nat) (b : Gf256) : ofPower j * b = shift^[j] b := by
  by_cases zero : b = 0
  · rw [zero, mul_zero', iterate_shift_zero]
  · obtain ⟨k, -, rfl⟩ := exists_ofPower zero
    rw [ofPower_mul, iterate_shift_ofPower]

protected theorem add_assoc (a b c : Gf256) : a + b + c = a + (b + c) :=
  Gf256.ext (Nat.xor_assoc a.val b.val c.val)

protected theorem add_comm (a b : Gf256) : a + b = b + a := Gf256.ext (Nat.xor_comm a.val b.val)

protected theorem zero_add (a : Gf256) : 0 + a = a := Gf256.ext (Nat.zero_xor a.val)

theorem add_self (a : Gf256) : a + a = 0 := Gf256.ext (Nat.xor_self a.val)

protected theorem mul_comm (a b : Gf256) : a * b = b * a := by
  ext
  simp only [val_mul, Nat.add_comm, or_comm]

protected theorem mul_assoc (a b c : Gf256) : a * b * c = a * (b * c) := by
  by_cases first : a = 0
  · rw [first, zero_mul', zero_mul', zero_mul']
  · by_cases second : b = 0
    · rw [second, mul_zero', zero_mul', mul_zero']
    · obtain ⟨j, -, rfl⟩ := exists_ofPower first
      obtain ⟨k, -, rfl⟩ := exists_ofPower second
      rw [ofPower_mul, ofPower_mul_eq, ofPower_mul_eq, ofPower_mul_eq, Function.iterate_add_apply]

protected theorem one_mul (a : Gf256) : 1 * a = a := ofPower_mul_eq 0 a

protected theorem mul_add (a b c : Gf256) : a * (b + c) = a * b + a * c := by
  by_cases zero : a = 0
  · rw [zero, zero_mul', zero_mul', zero_mul', Gf256.zero_add]
  · obtain ⟨k, -, rfl⟩ := exists_ofPower zero
    rw [ofPower_mul_eq, ofPower_mul_eq, ofPower_mul_eq, iterate_shift_add]

/-- `255 - log` is the logarithm of the inverse. -/
theorem inv_ofPower {k : Nat} (bound : k < 255) : (ofPower k)⁻¹ = ofPower (255 - k) := by
  ext
  have unfolded : ((ofPower k)⁻¹).val = if (ofPower k).val = 0 then 0
    else gfExp.getD (255 - gfLog.getD (ofPower k).val 0) 0 := rfl
  rw [unfolded]
  simp only [ofPower, power_ne_zero k, if_false, log_getD bound]
  exact exp_getD (by omega)

protected theorem mul_inv {a : Gf256} (nonzero : a ≠ 0) : a * a⁻¹ = 1 := by
  obtain ⟨k, bound, rfl⟩ := exists_ofPower nonzero
  have whole : k + (255 - k) = 255 := by omega
  ext
  rw [inv_ofPower bound, ofPower_mul, whole, val_ofPower, val_one, power_255]

/-- The tables make the bytes a field. -/
instance : Field Gf256 where
  add_assoc := Gf256.add_assoc
  zero_add := Gf256.zero_add
  add_zero a := by rw [Gf256.add_comm, Gf256.zero_add]
  add_comm := Gf256.add_comm
  neg_add_cancel := add_self
  mul_assoc := Gf256.mul_assoc
  mul_comm := Gf256.mul_comm
  one_mul := Gf256.one_mul
  mul_one a := by rw [Gf256.mul_comm, Gf256.one_mul]
  left_distrib := Gf256.mul_add
  right_distrib a b c := by rw [Gf256.mul_comm, Gf256.mul_add, Gf256.mul_comm c, Gf256.mul_comm c]
  zero_mul := zero_mul'
  mul_zero := mul_zero'
  exists_pair_ne := ⟨0, 1, by decide⟩
  mul_inv_cancel _ := Gf256.mul_inv
  inv_zero := rfl
  nsmul := nsmulRec
  zsmul := zsmulRec
  nnqsmul := _
  qsmul := _

/-- The field's elements are the bytes. -/
def equivFin : Gf256 ≃ Fin 256 where
  toFun a := ⟨a.val, a.lt⟩
  invFun n := ⟨n.val, n.isLt⟩
  left_inv _ := rfl
  right_inv _ := rfl

instance : Fintype Gf256 := Fintype.ofEquiv _ equivFin.symm

end Gf256

end Shamir

end UltimateEnigma
