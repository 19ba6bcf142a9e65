import UltimateEnigma.Gf256
import UltimateEnigma.Interpolation
import UltimateEnigma.Py.Struct

set_option autoImplicit false

namespace UltimateEnigma

open Py

namespace Shamir

/-- What the service raises, and what its arithmetic raises on integers that are no bytes. -/
inductive Raised where
  | shamirError (message : String)
  | insufficientSharesError (message : String)
  | invalidShareError (message : String)
  | indexError
  | zeroDivisionError (message : String)
  | valueError
deriving DecidableEq, Repr

/-- `table[i]`, where a negative index counts from the end. -/
def index (table : List Nat) (i : Int) : Except Raised Int :=
  let position := if i < 0 then i + table.length else i
  if position < 0 then .error .indexError
  else
    match table[position.toNat]? with
    | some value => .ok value
    | none => .error .indexError

def gfAdd (a b : Int) : Int := Int.xor a b

def gfMul (a b : Int) : Except Raised Int :=
  if a = 0 ∨ b = 0 then .ok 0
  else do
    let logA ← index gfLog a
    let logB ← index gfLog b
    index gfExp (logA + logB)

def gfInv (a : Int) : Except Raised Int :=
  if a = 0 then .error (.zeroDivisionError "Cannot invert 0 in GF(256)")
  else do
    let logA ← index gfLog a
    index gfExp (255 - logA)

/-- The loop of `_eval_poly`, from the coefficients that remain. -/
def evalPolyFrom (x : Int) : List Int → Int → Int → Except Raised Int
  | [], result, _ => .ok result
  | c :: rest, result, power => do
      let term ← gfMul c power
      let next ← gfMul power x
      evalPolyFrom x rest (gfAdd result term) next

def evalPoly (coeffs : List Int) (x : Int) : Except Raised Int := evalPolyFrom x coeffs 0 1

/-- One byte's turn: `shares[i].append(_eval_poly(coeffs, i + 1))` for each share. -/
def appendValues (coeffs : List Int) : List (List Int) → Nat → Except Raised (List (List Int))
  | [], _ => .ok []
  | share :: rest, i => do
      let value ← evalPoly coeffs (i + 1)
      let others ← appendValues coeffs rest (i + 1)
      return (share ++ [value]) :: others

def splitBytes : List (List Int) → List (List Int) → Except Raised (List (List Int))
  | [], shares => .ok shares
  | coeffs :: rest, shares => do
      let appended ← appendValues coeffs shares 0
      splitBytes rest appended

/-- An entry of `bytes(…)` or of a `bytearray`. -/
def toByte (value : Int) : Except Raised UInt8 :=
  if 0 ≤ value ∧ value < 256 then .ok (UInt8.ofNat value.toNat) else .error .valueError

/-- `[(i + 1, bytes(shares[i])) …]`. -/
def numberShares : List (List Int) → Nat → Except Raised (List (Int × Bytes))
  | [], _ => .ok []
  | share :: rest, i => do
      let bytes ← share.mapM toByte
      let others ← numberShares rest (i + 1)
      return (((i + 1 : Nat) : Int), bytes) :: others

/-- What `secrets.randbelow(256)` gives for each byte of the secret. -/
abbrev Draws (length threshold : Nat) : Type := Fin length → Fin (threshold - 1) → Fin 256

/-- The coefficients of one byte, the byte first. -/
def coefficients {threshold : Nat} (byte : UInt8) (drawn : Fin (threshold - 1) → Fin 256) :
    List Int :=
  (byte.toNat : Int) :: List.ofFn fun k => ((drawn k).val : Int)

def splitSecret (secret : Bytes) (numShares threshold : Nat)
    (draws : Draws secret.length threshold) : Except Raised (List (Int × Bytes)) :=
  if secret.length = 0 then .error (.shamirError "Secret must not be empty")
  else if threshold < 2 then .error (.shamirError "Threshold must be at least 2")
  else if numShares < threshold then .error (.shamirError "num_shares must be >= threshold")
  else if 10 < numShares then .error (.shamirError "num_shares must be <= 10")
  else do
    let polynomials := List.ofFn fun k => coefficients (secret.get k) (draws k)
    let shares ← splitBytes polynomials (List.replicate numShares [])
    numberShares shares 0

/-- `basis` times `(x - xj)`: each coefficient goes up one place and adds its product with `xj` to
the one below, which is what the pass before left there. -/
def timesFactor (xj : Int) : List Int → Int → Except Raised (List Int)
  | [], below => .ok [below]
  | c :: rest, below => do
      let product ← gfMul c xj
      let others ← timesFactor xj rest (gfAdd 0 c)
      return gfAdd below product :: others

/-- The loop over `j`, from the indices that remain. -/
def basisFrom (points : List Int) (i : Nat) : List Nat → List Int → Int →
    Except Raised (List Int × Int)
  | [], basis, denom => .ok (basis, denom)
  | j :: rest, basis, denom =>
      if i = j then basisFrom points i rest basis denom
      else do
        let newBasis ← timesFactor (points.getD j 0) basis 0
        let newDenom ← gfMul denom (gfAdd (points.getD i 0) (points.getD j 0))
        basisFrom points i rest newBasis newDenom

def lagrangeCoefficient (x : Int) (points : List Int) (i : Nat) : Except Raised Int := do
  let (basis, denom) ← basisFrom points i (List.range points.length) [1] 1
  let value ← evalPoly basis x
  let inverse ← gfInv denom
  gfMul value inverse

/-- `_lagrange_coefficients`. -/
def lagrangeCoefficients (x : Int) (points : List Int) : Except Raised (List Int) :=
  (List.range points.length).mapM (lagrangeCoefficient x points)

/-- The loop that adds up `_gf_mul(points[i], c)`. -/
def combine : List (Int × Int) → Int → Except Raised Int
  | [], value => .ok value
  | (point, c) :: rest, value => do
      let term ← gfMul point c
      combine rest (gfAdd value term)

def reconstructByte (indices : List Int) (shareBytes : List Bytes) (byteIdx : Nat) :
    Except Raised UInt8 := do
  let points := shareBytes.map fun bytes => ((bytes.getD byteIdx 0).toNat : Int)
  let coeffs ← lagrangeCoefficients 0 indices
  let value ← combine (points.zip coeffs) 0
  toByte value

def reconstructSecret (shares : List (Int × Bytes)) (expectedLength : Int) :
    Except Raised Bytes :=
  if shares.length < 2 then
    .error (.insufficientSharesError
      ("Need at least 2 shares, got " ++ toString shares.length))
  else
    let lengths : List Nat := (shares.map fun share => share.2.length).dedup
    match lengths with
    | [actualLength] =>
        if (actualLength : Int) ≠ expectedLength then
          .error (.invalidShareError ("Share length " ++ toString actualLength ++
            " != expected " ++ toString expectedLength))
        else (List.range actualLength).mapM
          (reconstructByte (shares.map Prod.fst) (shares.map Prod.snd))
    | _ => .error (.invalidShareError "Shares have mismatched lengths")

section Arithmetic

/-- A field element as the integer that the code computes with. -/
def Gf256.toInt (a : Gf256) : Int := (a.val : Int)

theorem index_of_get {table : List Nat} {i value : Nat} (found : table[i]? = some value) :
    index table (i : Int) = .ok (value : Int) := by
  have nonneg : ¬ (i : Int) < 0 := by omega
  simp only [index, nonneg, if_false, Int.toNat_natCast, found]

theorem index_gfLog (k : Nat) (bound : k < 255) :
    index gfLog ((Gf256.ofPower k).toInt) = .ok (k : Int) :=
  index_of_get (gfLog_get bound)

theorem index_gfExp (k : Nat) (bound : k < 512) :
    index gfExp (k : Int) = .ok (Gf256.ofPower k).toInt :=
  index_of_get (gfExp_get bound)

theorem toInt_eq_zero {a : Gf256} : a.toInt = 0 ↔ a = 0 := by
  rw [Gf256.toInt, ← Gf256.val_eq_zero]
  omega

@[simp] theorem gfAdd_toInt (a b : Gf256) : gfAdd a.toInt b.toInt = (a + b).toInt := rfl

@[simp] theorem gfMul_toInt (a b : Gf256) : gfMul a.toInt b.toInt = .ok (a * b).toInt := by
  by_cases first : a = 0
  · rw [first, zero_mul]
    rfl
  · by_cases second : b = 0
    · rw [second, mul_zero, gfMul, if_pos (.inr rfl)]
      rfl
    · obtain ⟨j, jBound, rfl⟩ := Gf256.exists_ofPower first
      obtain ⟨k, kBound, rfl⟩ := Gf256.exists_ofPower second
      have nonzero : ¬ ((Gf256.ofPower j).toInt = 0 ∨ (Gf256.ofPower k).toInt = 0) := by
        rw [toInt_eq_zero, toInt_eq_zero, not_or]
        exact ⟨first, second⟩
      rw [gfMul, if_neg nonzero, index_gfLog j jBound, index_gfLog k kBound, Gf256.ofPower_mul]
      have bound : j + k < 512 := by omega
      have found := index_gfExp (j + k) bound
      rw [Int.natCast_add] at found
      exact found

theorem gfInv_toInt {a : Gf256} (nonzero : a ≠ 0) : gfInv a.toInt = .ok (a⁻¹).toInt := by
  obtain ⟨k, bound, rfl⟩ := Gf256.exists_ofPower nonzero
  rw [gfInv, if_neg (fun zero => nonzero (toInt_eq_zero.mp zero)), index_gfLog k bound,
    Gf256.inv_ofPower bound]
  have reversed : (255 : Int) - (k : Int) = ((255 - k : Nat) : Int) := by omega
  refine Eq.trans ?_ (index_gfExp (255 - k) (by omega))
  rw [← reversed]
  rfl

theorem evalPolyFrom_toInt (x : Gf256) (coeffs : List Gf256) (result power : Gf256) :
    evalPolyFrom x.toInt (coeffs.map Gf256.toInt) result.toInt power.toInt =
      .ok (result + power * Interpolation.eval coeffs x).toInt := by
  induction coeffs generalizing result power with
  | nil => rw [Interpolation.eval, mul_zero, add_zero]; rfl
  | cons c rest ih =>
      have next := ih (result + c * power) (power * x)
      simp only [List.map_cons, evalPolyFrom, gfMul_toInt]
      refine next.trans ?_
      rw [Interpolation.eval]
      congr 2
      ring

theorem evalPoly_toInt (x : Gf256) (coeffs : List Gf256) :
    evalPoly (coeffs.map Gf256.toInt) x.toInt = .ok (Interpolation.eval coeffs x).toInt := by
  have loop := evalPolyFrom_toInt x coeffs 0 1
  rw [zero_add, one_mul] at loop
  exact loop

theorem timesFactor_toInt (xj : Gf256) (basis : List Gf256) (below : Gf256) :
    ∃ product : List Gf256, timesFactor xj.toInt (basis.map Gf256.toInt) below.toInt =
        .ok (product.map Gf256.toInt) ∧
      ∀ x, Interpolation.eval product x = below + (xj + x) * Interpolation.eval basis x := by
  induction basis generalizing below with
  | nil =>
      refine ⟨[below], rfl, fun x => ?_⟩
      simp only [Interpolation.eval, mul_zero]
  | cons c rest ih =>
      obtain ⟨others, others_ok, value⟩ := ih (0 + c)
      refine ⟨(below + c * xj) :: others, ?_, fun x => ?_⟩
      · have carried : gfAdd 0 c.toInt = (0 + c).toInt := gfAdd_toInt 0 c
        simp only [List.map_cons, timesFactor, gfMul_toInt, carried]
        rw [others_ok]
        rfl
      · rw [Interpolation.eval, value, Interpolation.eval]
        ring

theorem getD_map_toInt (points : List Gf256) (j : Nat) :
    (points.map Gf256.toInt).getD j 0 = (points.getD j 0).toInt :=
  List.getD_map (f := Gf256.toInt) (d := 0) points

/-- The factors of the other points. -/
def factors (i : Nat) (f : Nat → Gf256) (js : List Nat) : Gf256 :=
  (js.map fun j => if i = j then 1 else f j).prod

theorem factors_range (i n : Nat) (f : Nat → Gf256) :
    factors i f (List.range n) = ∏ j ∈ (Finset.range n).erase i, f j := by
  have all : factors i f (List.range n) = ∏ j ∈ Finset.range n, if i = j then 1 else f j := rfl
  have one : (fun j => if i = j then (1 : Gf256) else f j) i = 1 := if_pos rfl
  rw [all, ← Finset.prod_erase (Finset.range n) one]
  refine Finset.prod_congr rfl fun j member => ?_
  rw [if_neg (Finset.ne_of_mem_erase member).symm]

theorem basisFrom_toInt (points : List Gf256) (i : Nat) (js : List Nat) (basis : List Gf256)
    (denom : Gf256) :
    ∃ product : List Gf256,
      basisFrom (points.map Gf256.toInt) i js (basis.map Gf256.toInt) denom.toInt =
        .ok (product.map Gf256.toInt,
          (denom * factors i (fun j => points.getD i 0 + points.getD j 0) js).toInt) ∧
      ∀ x, Interpolation.eval product x =
        factors i (fun j => points.getD j 0 + x) js * Interpolation.eval basis x := by
  induction js generalizing basis denom with
  | nil =>
      refine ⟨basis, ?_, fun x => ?_⟩
      · rw [factors, List.map_nil, List.prod_nil, mul_one]
        rfl
      · rw [factors, List.map_nil, List.prod_nil, one_mul]
  | cons j rest ih =>
      by_cases here : i = j
      · obtain ⟨product, product_ok, value⟩ := ih basis denom
        refine ⟨product, ?_, fun x => ?_⟩
        · rw [basisFrom, if_pos here, product_ok]
          simp only [factors, List.map_cons, List.prod_cons, here, if_true, one_mul]
        · rw [value]
          simp only [factors, List.map_cons, List.prod_cons, here, if_true, one_mul]
      · obtain ⟨newBasis, newBasis_ok, newValue⟩ := timesFactor_toInt (points.getD j 0) basis 0
        obtain ⟨product, product_ok, value⟩ :=
          ih newBasis (denom * (points.getD i 0 + points.getD j 0))
        refine ⟨product, ?_, fun x => ?_⟩
        · have started : timesFactor (points.getD j 0).toInt (basis.map Gf256.toInt) 0 =
              .ok (newBasis.map Gf256.toInt) := newBasis_ok
          rw [basisFrom, if_neg here, getD_map_toInt, getD_map_toInt, started, gfAdd_toInt]
          simp only [gfMul_toInt]
          refine product_ok.trans ?_
          simp only [factors, List.map_cons, List.prod_cons, here, if_false, mul_assoc]
        · rw [value, newValue]
          simp only [factors, List.map_cons, List.prod_cons, here, if_false]
          ring

/-- The weight of a point in the interpolation at 0. -/
def weight (points : List Gf256) (i : Nat) : Gf256 :=
  ∏ j ∈ (Finset.range points.length).erase i,
    (0 - points.getD j 0) / (points.getD i 0 - points.getD j 0)

theorem getD_injOn {points : List Gf256} (distinct : points.Nodup) :
    Set.InjOn (fun j => points.getD j 0) (Finset.range points.length) := by
  intro j first k second same
  have jBound : j < points.length := Finset.mem_range.mp first
  have kBound : k < points.length := Finset.mem_range.mp second
  simp only [List.getD_eq_getElem _ _ jBound, List.getD_eq_getElem _ _ kBound] at same
  exact (List.Nodup.getElem_inj_iff distinct).mp same

theorem lagrangeCoefficient_zero {points : List Gf256} (distinct : points.Nodup) {i : Nat}
    (inside : i < points.length) :
    lagrangeCoefficient 0 (points.map Gf256.toInt) i = .ok (weight points i).toInt := by
  obtain ⟨basis, basis_ok, value⟩ := basisFrom_toInt points i (List.range points.length) [1] 1
  have started : basisFrom (points.map Gf256.toInt) i (List.range points.length) [1] 1 =
      .ok (basis.map Gf256.toInt, (∏ j ∈ (Finset.range points.length).erase i,
        (points.getD i 0 + points.getD j 0)).toInt) := by
    rw [one_mul, factors_range] at basis_ok
    exact basis_ok
  have nonzero : ∏ j ∈ (Finset.range points.length).erase i,
      (points.getD i 0 + points.getD j 0) ≠ 0 := by
    refine Finset.prod_ne_zero_iff.mpr fun j member zero => ?_
    have same : points.getD i 0 = points.getD j 0 := sub_eq_zero.mp zero
    exact Finset.ne_of_mem_erase member
      (getD_injOn distinct (Finset.mem_range.mpr inside) (Finset.mem_of_mem_erase member) same).symm
  have evaluated : evalPoly (basis.map Gf256.toInt) 0 =
      .ok (Interpolation.eval basis 0).toInt := evalPoly_toInt 0 basis
  rw [lagrangeCoefficient, List.length_map, started]
  simp only [bind, Except.bind, evaluated, gfInv_toInt nonzero, gfMul_toInt]
  rw [value, factors_range, weight, Finset.prod_div_distrib, div_eq_mul_inv]
  congr 3
  simp only [Interpolation.eval, mul_zero, add_zero, mul_one]
  exact Finset.prod_congr rfl fun j _ => (Gf256.zero_add _).symm

theorem mapM_ok {α β : Type} {f : α → Except Raised β} {g : α → β} {items : List α}
    (each : ∀ item ∈ items, f item = .ok (g item)) : items.mapM f = .ok (items.map g) := by
  induction items with
  | nil => rfl
  | cons item rest ih =>
      rw [List.mapM_cons, each item List.mem_cons_self,
        ih fun other member => each other (List.mem_cons_of_mem item member)]
      rfl

theorem combine_toInt (terms : List (Gf256 × Gf256)) (value : Gf256) :
    combine (terms.map fun term => (term.1.toInt, term.2.toInt)) value.toInt =
      .ok (value + (terms.map fun term => term.1 * term.2).sum).toInt := by
  induction terms generalizing value with
  | nil => rw [List.map_nil, List.map_nil, List.sum_nil, add_zero, combine]
  | cons term rest ih =>
      have next := ih (value + term.1 * term.2)
      simp only [List.map_cons, combine, gfMul_toInt]
      refine next.trans ?_
      rw [List.sum_cons, add_assoc]

/-- A byte as an element of the field. -/
def ofByte (byte : UInt8) : Gf256 := ⟨byte.toNat, byte.toNat_lt⟩

theorem toByte_toInt (byte : UInt8) : toByte (ofByte byte).toInt = .ok byte := by
  have bound := byte.toNat_lt
  have inside : (0 : Int) ≤ (ofByte byte).toInt ∧ (ofByte byte).toInt < 256 := by
    simp only [Gf256.toInt, ofByte]
    omega
  rw [toByte, if_pos inside]
  simp only [Gf256.toInt, ofByte, Int.toNat_natCast, UInt8.ofNat_toNat]

theorem map_eq_map_range {α β : Type} (items : List α) (default : α) (f : α → β) :
    items.map f = (List.range items.length).map fun i => f (items.getD i default) := by
  induction items with
  | nil => rfl
  | cons item rest ih =>
      rw [List.length_cons, List.range_succ_eq_map, List.map_cons, List.map_cons, List.map_map, ih]
      rfl

/-- One byte from the shares whose bytes are values of its polynomial. -/
theorem reconstructByte_ok {points : List Gf256} (distinct : points.Nodup) {byte : UInt8}
    {rest : List Gf256} (enough : rest.length < points.length) {shareBytes : List Bytes}
    (size : shareBytes.length = points.length) {byteIdx : Nat}
    (values : ∀ i < points.length, ofByte ((shareBytes.getD i []).getD byteIdx 0) =
      Interpolation.eval (ofByte byte :: rest) (points.getD i 0)) :
    reconstructByte (points.map Gf256.toInt) shareBytes byteIdx = .ok byte := by
  have weights : lagrangeCoefficients 0 (points.map Gf256.toInt) =
      .ok ((List.range points.length).map fun i => (weight points i).toInt) := by
    rw [lagrangeCoefficients, List.length_map]
    exact mapM_ok fun i member =>
      lagrangeCoefficient_zero distinct (List.mem_range.mp member)
  have read : (shareBytes.map fun bytes => ((bytes.getD byteIdx 0).toNat : Int)) =
      (List.range points.length).map fun i =>
        (Interpolation.eval (ofByte byte :: rest) (points.getD i 0)).toInt := by
    rw [map_eq_map_range shareBytes [], size]
    refine List.map_congr_left fun i member => ?_
    rw [← values i (List.mem_range.mp member)]
    rfl
  have terms : ((List.range points.length).map fun i =>
        (Interpolation.eval (ofByte byte :: rest) (points.getD i 0)).toInt).zip
      ((List.range points.length).map fun i => (weight points i).toInt) =
      ((List.range points.length).map fun i =>
        (Interpolation.eval (ofByte byte :: rest) (points.getD i 0), weight points i)).map
        fun term => (term.1.toInt, term.2.toInt) := by
    rw [List.zip_map', List.map_map]
    rfl
  have sum : ((List.range points.length).map fun i =>
      Interpolation.eval (ofByte byte :: rest) (points.getD i 0) * weight points i).sum =
        ofByte byte := by
    have interpolated : Interpolation.eval (ofByte byte :: rest) 0 = _ :=
      Interpolation.eval_zero_eq_sum (getD_injOn distinct) (by rw [List.length_cons]; omega)
    rw [Interpolation.eval_at_zero] at interpolated
    exact interpolated.symm
  have combined := combine_toInt ((List.range points.length).map fun i =>
    (Interpolation.eval (ofByte byte :: rest) (points.getD i 0), weight points i)) 0
  have same : ((List.range points.length).map fun i =>
      (Interpolation.eval (ofByte byte :: rest) (points.getD i 0), weight points i)).map
        (fun term => term.1 * term.2) = (List.range points.length).map fun i =>
          Interpolation.eval (ofByte byte :: rest) (points.getD i 0) * weight points i := by
    rw [List.map_map]
    rfl
  rw [zero_add, same, sum] at combined
  have total : combine (((List.range points.length).map fun i =>
      (Interpolation.eval (ofByte byte :: rest) (points.getD i 0), weight points i)).map
        fun term => (term.1.toInt, term.2.toInt)) 0 = .ok (ofByte byte).toInt := combined
  rw [reconstructByte, weights, read]
  simp only [bind, Except.bind, terms, total]
  exact toByte_toInt byte

end Arithmetic

section Splitting

/-- A small integer as an element of the field. -/
def point (i : Nat) : Gf256 := ⟨i % 256, Nat.mod_lt i (by decide)⟩

theorem toInt_point {i : Nat} (small : i < 256) : (point i).toInt = (i : Int) := by
  simp only [Gf256.toInt, point, Nat.mod_eq_of_lt small]

theorem point_injective {i j : Nat} (first : i < 256) (second : j < 256)
    (same : point i = point j) : i = j := by
  have values := congrArg Gf256.val same
  simp only [point, Nat.mod_eq_of_lt first, Nat.mod_eq_of_lt second] at values
  exact values

theorem point_ne_zero {i : Nat} (small : i < 256) (positive : 0 < i) : point i ≠ 0 := by
  intro zero
  have origin : point 0 = 0 := rfl
  have same : i = 0 := point_injective small (by omega) (zero.trans origin.symm)
  omega

/-- The polynomial of one byte of the secret. -/
def polynomial {threshold : Nat} (byte : UInt8) (drawn : Fin (threshold - 1) → Fin 256) :
    List Gf256 :=
  ofByte byte :: List.ofFn fun k => Gf256.equivFin.symm (drawn k)

theorem coefficients_eq {threshold : Nat} (byte : UInt8)
    (drawn : Fin (threshold - 1) → Fin 256) :
    coefficients byte drawn = (polynomial byte drawn).map Gf256.toInt := by
  rw [coefficients, polynomial, List.map_cons, List.map_ofFn]
  rfl

def Gf256.toByte (a : Gf256) : UInt8 := UInt8.ofNat a.val

theorem ofByte_toByte (a : Gf256) : ofByte a.toByte = a := by
  ext
  simp only [ofByte, Gf256.toByte, UInt8.toNat_ofNat', Nat.mod_eq_of_lt a.lt]

theorem toByte_ok (a : Gf256) : toByte a.toInt = .ok a.toByte := by
  conv_lhs => rw [← ofByte_toByte a]
  exact toByte_toInt a.toByte

theorem evalPoly_point (coeffs : List Gf256) {i : Nat} (small : i + 1 < 256) :
    evalPoly (coeffs.map Gf256.toInt) ((i : Int) + 1) =
      .ok (Interpolation.eval coeffs (point (i + 1))).toInt := by
  have known := evalPoly_toInt (point (i + 1)) coeffs
  rw [toInt_point small, Int.natCast_add] at known
  exact known

theorem appendValues_ok (coeffs : List Gf256) (before : Nat → List Int) (count start : Nat)
    (small : start + count < 256) :
    appendValues (coeffs.map Gf256.toInt) ((List.range' start count).map before) start =
      .ok ((List.range' start count).map fun i =>
        before i ++ [(Interpolation.eval coeffs (point (i + 1))).toInt]) := by
  induction count generalizing start with
  | zero => rfl
  | succ count ih =>
      have later := ih (start + 1) (by omega)
      rw [List.range'_succ, List.map_cons, appendValues, evalPoly_point coeffs (by omega), later]
      rfl

theorem splitBytes_ok (polynomials : List (List Gf256)) (before : Nat → List Int) {n : Nat}
    (small : n < 256) :
    splitBytes (polynomials.map fun coeffs => coeffs.map Gf256.toInt)
        ((List.range' 0 n).map before) =
      .ok ((List.range' 0 n).map fun i => before i ++
        polynomials.map fun coeffs => (Interpolation.eval coeffs (point (i + 1))).toInt) := by
  induction polynomials generalizing before with
  | nil => simp only [List.map_nil, splitBytes, List.append_nil]
  | cons coeffs rest ih =>
      rw [List.map_cons, splitBytes, appendValues_ok coeffs before n 0 (by omega)]
      refine (ih _).trans ?_
      simp only [List.append_assoc, List.singleton_append, List.map_cons]

theorem numberShares_ok (values : Nat → List Gf256) (count start : Nat) :
    numberShares ((List.range' start count).map fun i => (values i).map Gf256.toInt) start =
      .ok ((List.range' start count).map fun i =>
        (((i + 1 : Nat) : Int), (values i).map Gf256.toByte)) := by
  induction count generalizing start with
  | zero => rfl
  | succ count ih =>
      have packed : ((values start).map Gf256.toInt).mapM toByte =
          .ok ((values start).map Gf256.toByte) := by
        have each : ∀ item ∈ (values start).map Gf256.toInt,
            toByte item = .ok (UInt8.ofNat item.toNat) := by
          intro item member
          obtain ⟨a, -, rfl⟩ := List.mem_map.mp member
          rw [toByte_ok]
          rfl
        rw [mapM_ok each, List.map_map]
        rfl
      rw [List.range'_succ, List.map_cons, numberShares, packed, ih (start + 1)]
      rfl

/-- The bytes of a share. -/
def shareBytes (secret : Bytes) {threshold : Nat} (draws : Draws secret.length threshold)
    (i : Nat) : Bytes :=
  List.ofFn fun k =>
    (Interpolation.eval (polynomial (secret.get k) (draws k)) (point (i + 1))).toByte

def share (secret : Bytes) {threshold : Nat} (draws : Draws secret.length threshold) (i : Nat) :
    Int × Bytes :=
  (((i + 1 : Nat) : Int), shareBytes secret draws i)

/-- The shares of an accepted split. -/
theorem splitSecret_ok {secret : Bytes} {numShares threshold : Nat} (nonempty : secret ≠ [])
    (two : 2 ≤ threshold) (reachable : threshold ≤ numShares) (few : numShares ≤ 10)
    (draws : Draws secret.length threshold) :
    splitSecret secret numShares threshold draws =
      .ok ((List.range numShares).map (share secret draws)) := by
  have filled : secret.length ≠ 0 := fun zero => nonempty (List.length_eq_zero_iff.mp zero)
  rw [splitSecret, if_neg filled, if_neg (by omega), if_neg (by omega), if_neg (by omega)]
  have polynomials : (List.ofFn fun k => coefficients (secret.get k) (draws k)) =
      (List.ofFn fun k => polynomial (secret.get k) (draws k)).map
        fun coeffs => coeffs.map Gf256.toInt := by
    rw [List.map_ofFn]
    exact congrArg List.ofFn (funext fun k => coefficients_eq _ _)
  have started : List.replicate numShares ([] : List Int) =
      (List.range' 0 numShares).map fun _ => [] := by
    rw [List.map_const', List.length_range']
  have split := splitBytes_ok (List.ofFn fun k => polynomial (secret.get k) (draws k))
    (fun _ => []) (n := numShares) (by omega)
  have values : ((List.range' 0 numShares).map fun i => ([] : List Int) ++
      (List.ofFn fun k => polynomial (secret.get k) (draws k)).map fun coeffs =>
        (Interpolation.eval coeffs (point (i + 1))).toInt) =
      (List.range' 0 numShares).map fun i => ((List.ofFn fun k =>
        polynomial (secret.get k) (draws k)).map fun coeffs =>
          Interpolation.eval coeffs (point (i + 1))).map Gf256.toInt := by
    simp only [List.nil_append, List.map_map]
    rfl
  simp only [polynomials, started, split, values, bind, Except.bind, numberShares_ok]
  congr 1
  rw [List.range_eq_range']
  refine List.map_congr_left fun i _ => ?_
  rw [share, shareBytes, List.map_map, List.map_ofFn]
  rfl

/-- The shares at distinct positions, as many as the threshold or more. -/
theorem reconstruct_positions {secret : Bytes} {threshold : Nat} (two : 2 ≤ threshold)
    (draws : Draws secret.length threshold) {positions : List Nat} (unrepeated : positions.Nodup)
    (small : ∀ i ∈ positions, i + 1 < 256) (enough : threshold ≤ positions.length) :
    reconstructSecret (positions.map (share secret draws)) secret.length = .ok secret := by
  let points := positions.map fun i => point (i + 1)
  have points_length : points.length = positions.length := List.length_map _
  have distinct : points.Nodup := by
    refine unrepeated.map_on fun i first j second same => ?_
    have equal := point_injective (small i first) (small j second) same
    omega
  have indices : (positions.map (share secret draws)).map Prod.fst = points.map Gf256.toInt := by
    rw [List.map_map, List.map_map]
    refine List.map_congr_left fun i member => ?_
    exact (toInt_point (small i member)).symm
  have bytes : (positions.map (share secret draws)).map Prod.snd =
      positions.map (shareBytes secret draws) := List.map_map
  have lengths : ((positions.map (share secret draws)).map fun share => share.2.length).dedup =
      [secret.length] := by
    have constant : (positions.map (share secret draws)).map (fun share => share.2.length) =
        List.replicate positions.length secret.length := by
      rw [List.map_map, List.eq_replicate_iff]
      refine ⟨List.length_map _, fun length member => ?_⟩
      obtain ⟨i, -, rfl⟩ := List.mem_map.mp member
      exact List.length_ofFn
    rw [constant, List.replicate_dedup (by omega)]
  have values : ∀ byteIdx < secret.length,
      reconstructByte (points.map Gf256.toInt) (positions.map (shareBytes secret draws)) byteIdx =
        .ok (secret.getD byteIdx 0) := by
    intro byteIdx inside
    have fewer : (List.ofFn fun k => Gf256.equivFin.symm (draws ⟨byteIdx, inside⟩ k)).length <
        points.length := by
      rw [List.length_ofFn, points_length]
      omega
    have size : (positions.map (shareBytes secret draws)).length = points.length := by
      rw [List.length_map, points_length]
    refine reconstructByte_ok distinct fewer size fun i within => ?_
    rw [points_length] at within
    have bytesAt : (positions.map (shareBytes secret draws)).getD i [] =
        shareBytes secret draws positions[i] := by
      rw [List.getD_eq_getElem _ _ (by rw [List.length_map]; exact within), List.getElem_map]
    have pointAt : points.getD i 0 = point (positions[i] + 1) := by
      rw [List.getD_eq_getElem _ _ (by rw [points_length]; exact within), List.getElem_map]
    have filled : byteIdx < (shareBytes secret draws positions[i]).length := by
      rw [shareBytes, List.length_ofFn]
      exact inside
    rw [bytesAt, pointAt, List.getD_eq_getElem _ _ filled, List.getD_eq_getElem _ _ inside]
    simp only [shareBytes, List.getElem_ofFn, ofByte_toByte]
    rfl
  have several : ¬ (positions.map (share secret draws)).length < 2 := by
    rw [List.length_map]
    omega
  rw [reconstructSecret, if_neg several]
  simp only [lengths, ne_eq, not_true_eq_false, if_false, indices, bytes]
  rw [mapM_ok fun byteIdx member => values byteIdx (List.mem_range.mp member)]
  congr 1
  exact (map_eq_map_range secret 0 id).symm.trans (List.map_id secret)

/-- Any distinct shares of the split, as many as the threshold or more and in any order. -/
theorem reconstruct_taken {secret : Bytes} {numShares threshold : Nat} (two : 2 ≤ threshold)
    (few : numShares ≤ 10) (draws : Draws secret.length threshold) {shares : List (Int × Bytes)}
    (distinct : shares.Nodup)
    (taken : ∀ item ∈ shares, item ∈ (List.range numShares).map (share secret draws))
    (enough : threshold ≤ shares.length) :
    reconstructSecret shares secret.length = .ok secret := by
  -- the shares by the positions they have in the split
  let positions := shares.map fun share => share.1.toNat - 1
  have position : ∀ item ∈ shares, ∃ i < numShares, item = share secret draws i := by
    intro item member
    obtain ⟨i, inside, rfl⟩ := List.mem_map.mp (taken item member)
    exact ⟨i, List.mem_range.mp inside, rfl⟩
  have shares_eq : shares = positions.map (share secret draws) := by
    rw [List.map_map]
    conv_lhs => rw [← List.map_id shares]
    refine List.map_congr_left fun item member => ?_
    obtain ⟨i, -, rfl⟩ := position item member
    simp only [id_eq, Function.comp_apply, share, Int.toNat_natCast, Nat.add_sub_cancel]
  have bound : ∀ i ∈ positions, i < numShares := by
    intro i member
    obtain ⟨item, inside, rfl⟩ := List.mem_map.mp member
    obtain ⟨j, small, rfl⟩ := position item inside
    simp only [share, Int.toNat_natCast, Nat.add_sub_cancel]
    exact small
  have unrepeated : positions.Nodup := by
    rw [shares_eq] at distinct
    exact List.Nodup.of_map _ distinct
  rw [shares_eq]
  refine reconstruct_positions two draws unrepeated (fun i member => ?_) ?_
  · have below := bound i member
    omega
  · rw [List.length_map]
    exact enough

end Splitting

/-- Any distinct shares of an accepted split, as many as the threshold or more and in any order,
give the secret back. -/
theorem split_reconstructs {secret : Bytes} {numShares threshold : Nat} (nonempty : secret ≠ [])
    (two : 2 ≤ threshold) (reachable : threshold ≤ numShares) (few : numShares ≤ 10)
    (draws : Draws secret.length threshold) :
    ∃ split, splitSecret secret numShares threshold draws = .ok split ∧
      ∀ shares : List (Int × Bytes), shares.Nodup → (∀ share ∈ shares, share ∈ split) →
        threshold ≤ shares.length → reconstructSecret shares secret.length = .ok secret := by
  refine ⟨_, splitSecret_ok nonempty two reachable few draws, ?_⟩
  intro shares distinct taken enough
  exact reconstruct_taken two few draws distinct taken enough

theorem toy_reconstructs :
    ∃ split, splitSecret [7, 200] 3 2 (fun k _ => Fin.ofNat 256 (k.val + 90)) = .ok split ∧
      ∀ shares : List (Int × Bytes), shares.Nodup → (∀ share ∈ shares, share ∈ split) →
        2 ≤ shares.length → reconstructSecret shares 2 = .ok [7, 200] :=
  split_reconstructs (by decide) (by decide) (by decide) (by decide) _

section Secrecy

/-- The split succeeds and gives the observed bytes at each of the indices. -/
def Observes (secret : Bytes) (numShares threshold : Nat) (indices : Finset Nat)
    (observed : Nat → Bytes) (draws : Draws secret.length threshold) : Prop :=
  ∃ split, splitSecret secret numShares threshold draws = .ok split ∧
    ∀ i ∈ indices, ((i : Int), observed i) ∈ split

/-- The parameters that `split_secret` accepts. -/
def Accepts (secret : Bytes) (numShares threshold : Nat) : Prop :=
  secret ≠ [] ∧ 2 ≤ threshold ∧ threshold ≤ numShares ∧ numShares ≤ 10

theorem accepts_of_ok {secret : Bytes} {numShares threshold : Nat}
    {draws : Draws secret.length threshold} {split : List (Int × Bytes)}
    (success : splitSecret secret numShares threshold draws = .ok split) :
    Accepts secret numShares threshold := by
  unfold splitSecret at success
  by_cases empty : secret.length = 0
  · rw [if_pos empty] at success
    cases success
  · rw [if_neg empty] at success
    by_cases low : threshold < 2
    · rw [if_pos low] at success
      cases success
    · rw [if_neg low] at success
      by_cases fewer : numShares < threshold
      · rw [if_pos fewer] at success
        cases success
      · rw [if_neg fewer] at success
        by_cases more : 10 < numShares
        · rw [if_pos more] at success
          cases success
        · refine ⟨fun none => empty (by rw [none]; rfl), by omega, by omega, by omega⟩

theorem observes_iff {secret : Bytes} {numShares threshold : Nat} {indices : Finset Nat}
    {observed : Nat → Bytes} (valid : ∀ i ∈ indices, 1 ≤ i ∧ i ≤ numShares)
    (accepts : Accepts secret numShares threshold) (draws : Draws secret.length threshold) :
    Observes secret numShares threshold indices observed draws ↔
      ∀ i ∈ indices, observed i = shareBytes secret draws (i - 1) := by
  obtain ⟨nonempty, two, reachable, few⟩ := accepts
  have split := splitSecret_ok nonempty two reachable few draws
  have member : ∀ i ∈ indices,
      ((i : Int), observed i) ∈ (List.range numShares).map (share secret draws) ↔
        observed i = shareBytes secret draws (i - 1) := by
    intro i inside
    have range := valid i inside
    rw [List.mem_map]
    constructor
    · rintro ⟨j, -, same⟩
      have index := congrArg Prod.fst same
      have bytes := congrArg Prod.snd same
      simp only [share] at index bytes
      have position : j = i - 1 := by omega
      rw [← bytes, position]
    · intro same
      refine ⟨i - 1, List.mem_range.mpr (by omega), ?_⟩
      rw [share, ← same, Nat.sub_add_cancel range.1]
  constructor
  · rintro ⟨found, success, all⟩ i inside
    rw [split] at success
    cases success
    exact (member i inside).mp (all i inside)
  · exact fun all => ⟨_, split, fun i inside => (member i inside).mpr (all i inside)⟩

/-- Draws shifted by coefficients, for a secret of the same length. -/
def shiftDraws {length length' threshold : Nat} (same : length' = length)
    (tail : Fin length → Fin (threshold - 1) → Gf256) :
    Draws length threshold ≃ Draws length' threshold where
  toFun draws k j := Gf256.equivFin
    (Gf256.equivFin.symm (draws (Fin.cast same k) j) + tail (Fin.cast same k) j)
  invFun draws k j := Gf256.equivFin
    (Gf256.equivFin.symm (draws (Fin.cast same.symm k) j) + tail k j)
  left_inv draws := by
    funext k j
    simp only [Equiv.symm_apply_apply, Fin.cast_cast, Fin.cast_eq_self, add_assoc,
      Gf256.add_self, add_zero, Equiv.apply_symm_apply]
  right_inv draws := by
    funext k j
    simp only [Equiv.symm_apply_apply, Fin.cast_cast, Fin.cast_eq_self, add_assoc,
      Gf256.add_self, add_zero, Equiv.apply_symm_apply]

/-- Fewer shares than the threshold leave room for a shift from any secret to any other. -/
theorem exists_shift {secret secret' : Bytes} (same : secret'.length = secret.length)
    {threshold : Nat} {indices : Finset Nat} (few : indices.card < threshold)
    (valid : ∀ i ∈ indices, 1 ≤ i ∧ i ≤ 10) :
    ∃ tail : Fin secret.length → Fin (threshold - 1) → Gf256,
      ∀ (draws : Draws secret.length threshold), ∀ i ∈ indices,
        shareBytes secret draws (i - 1) =
          shareBytes secret' (shiftDraws same tail draws) (i - 1) := by
  have points_few : (indices.image point).card ≤ threshold - 1 := by
    have image : (indices.image point).card ≤ indices.card := Finset.card_image_le
    omega
  have nonzero : ∀ x ∈ indices.image point, x ≠ 0 := by
    intro x member
    obtain ⟨i, inside, rfl⟩ := Finset.mem_image.mp member
    have range := valid i inside
    exact point_ne_zero (by omega) (by omega)
  have vanishing := fun k : Fin secret.length => Interpolation.exists_vanishing
    (ofByte (secret'.get (Fin.cast same.symm k)) - ofByte (secret.get k)) points_few nonzero
  choose tail zero using vanishing
  refine ⟨tail, fun draws i inside => ?_⟩
  have range := valid i inside
  obtain ⟨j, rfl⟩ : ∃ j, i = j + 1 := ⟨i - 1, by omega⟩
  rw [Nat.add_sub_cancel]
  refine List.ext_getElem (by rw [shareBytes, shareBytes, List.length_ofFn, List.length_ofFn,
    same]) fun k first second => ?_
  have bound : k < secret.length := by
    rw [shareBytes, List.length_ofFn] at first
    exact first
  simp only [shareBytes, List.getElem_ofFn, polynomial, shiftDraws, Equiv.coe_fn_mk,
    Equiv.symm_apply_apply]
  have root := zero ⟨k, bound⟩ (point (j + 1)) (Finset.mem_image_of_mem point inside)
  have sum := Interpolation.eval_add_ofFn (ofByte (secret.get ⟨k, bound⟩))
    (ofByte (secret'.get (Fin.cast same.symm ⟨k, bound⟩)) - ofByte (secret.get ⟨k, bound⟩))
    (fun m => Gf256.equivFin.symm (draws ⟨k, bound⟩ m)) (tail ⟨k, bound⟩) (point (j + 1))
  rw [root, add_zero, add_sub_cancel] at sum
  exact congrArg Gf256.toByte sum

end Secrecy

/-- Fewer shares than the threshold say nothing: every secret of the length has as many draws
behind what they show as any other. -/
theorem few_shares_reveal_nothing {secret secret' : Bytes}
    (same : secret'.length = secret.length) {numShares threshold : Nat} {indices : Finset Nat}
    (few : indices.card < threshold) (valid : ∀ i ∈ indices, 1 ≤ i ∧ i ≤ numShares)
    (observed : Nat → Bytes) :
    Nat.card {draws : Draws secret.length threshold //
        Observes secret numShares threshold indices observed draws} =
      Nat.card {draws : Draws secret'.length threshold //
        Observes secret' numShares threshold indices observed draws} := by
  by_cases accepts : Accepts secret numShares threshold
  · have accepts' : Accepts secret' numShares threshold := by
      refine ⟨fun empty => accepts.1 ?_, accepts.2⟩
      rw [empty] at same
      exact List.length_eq_zero_iff.mp same.symm
    have small : ∀ i ∈ indices, 1 ≤ i ∧ i ≤ 10 := fun i inside =>
      ⟨(valid i inside).1, (valid i inside).2.trans accepts.2.2.2⟩
    obtain ⟨tail, shifted⟩ := exists_shift same few small
    refine Nat.card_congr ((shiftDraws same tail).subtypeEquiv fun draws => ?_)
    rw [observes_iff valid accepts, observes_iff valid accepts']
    refine forall₂_congr fun i inside => ?_
    rw [shifted draws i inside]
  · have accepts' : ¬ Accepts secret' numShares threshold := by
      rintro ⟨nonempty, rest⟩
      refine accepts ⟨fun empty => nonempty ?_, rest⟩
      rw [empty] at same
      exact List.length_eq_zero_iff.mp same
    have none : ∀ draws, ¬ Observes secret numShares threshold indices observed draws :=
      fun _ ⟨_, success, _⟩ => accepts (accepts_of_ok success)
    have none' : ∀ draws, ¬ Observes secret' numShares threshold indices observed draws :=
      fun _ ⟨_, success, _⟩ => accepts' (accepts_of_ok success)
    have empty := Subtype.isEmpty_of_false none
    have empty' := Subtype.isEmpty_of_false none'
    rw [Nat.card_of_isEmpty, Nat.card_of_isEmpty]

/-- One share of two, from secrets of one byte. -/
theorem toy_reveals_nothing :
    Nat.card {draws : Draws 1 2 // Observes [7] 3 2 {2} (fun _ => [40]) draws} =
      Nat.card {draws : Draws 1 2 // Observes [9] 3 2 {2} (fun _ => [40]) draws} :=
  @few_shares_reveal_nothing [7] [9] rfl 3 2 {2} (by decide) (by decide) (fun _ => [40])

end Shamir

end UltimateEnigma
