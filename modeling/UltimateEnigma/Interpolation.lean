import Mathlib.LinearAlgebra.Lagrange

set_option autoImplicit false

/- Polynomials given by the list of their coefficients, over any field. -/
namespace Interpolation

open Polynomial

variable {F : Type} [Field F]

/-- The value of the polynomial with these coefficients, the constant one first. -/
def eval : List F → F → F
  | [], _ => 0
  | c :: rest, x => c + x * eval rest x

noncomputable def toPolynomial : List F → F[X]
  | [] => 0
  | c :: rest => C c + X * toPolynomial rest

theorem eval_toPolynomial (coeffs : List F) (x : F) :
    (toPolynomial coeffs).eval x = eval coeffs x := by
  induction coeffs with
  | nil => exact eval_zero
  | cons c rest ih => rw [toPolynomial, eval_add, eval_C, eval_mul, eval_X, ih, eval]

theorem degree_toPolynomial_lt (coeffs : List F) :
    (toPolynomial coeffs).degree < (coeffs.length : WithBot ℕ) := by
  induction coeffs with
  | nil =>
      rw [toPolynomial, degree_zero]
      exact WithBot.bot_lt_coe _
  | cons c rest ih =>
      rw [toPolynomial, degree_lt_iff_coeff_zero]
      intro k large
      rw [List.length_cons] at large
      obtain ⟨j, rfl⟩ : ∃ j, k = j + 1 := ⟨k - 1, by omega⟩
      rw [coeff_add, coeff_C_succ, coeff_X_mul, zero_add]
      exact (degree_lt_iff_coeff_zero _ _).mp ih j (by omega)

theorem eval_at_zero (c : F) (rest : List F) : eval (c :: rest) 0 = c := by
  rw [eval, zero_mul, add_zero]

theorem eval_ofFn {m : ℕ} (f : Fin m → F) (x : F) :
    eval (List.ofFn f) x = ∑ k, f k * x ^ (k : ℕ) := by
  induction m with
  | zero => rfl
  | succ m ih =>
      rw [List.ofFn_succ, eval, ih, Fin.sum_univ_succ, Finset.mul_sum]
      congr 1
      · rw [Fin.val_zero, pow_zero, mul_one]
      · refine Finset.sum_congr rfl fun k _ => ?_
        rw [Fin.val_succ, pow_succ]
        ring

/-- Evaluation is additive in the coefficients. -/
theorem eval_add_ofFn {m : ℕ} (c d : F) (f g : Fin m → F) (x : F) :
    eval (c :: List.ofFn f) x + eval (d :: List.ofFn g) x =
      eval ((c + d) :: List.ofFn (f + g)) x := by
  simp only [eval, eval_ofFn, Pi.add_apply, add_mul, Finset.sum_add_distrib]
  ring

/-- Lagrange interpolation at 0, from at least as many distinct points as coefficients. -/
theorem eval_zero_eq_sum {coeffs : List F} {n : ℕ} {v : ℕ → F}
    (distinct : Set.InjOn v (Finset.range n)) (enough : coeffs.length ≤ n) :
    eval coeffs 0 = ∑ i ∈ Finset.range n, eval coeffs (v i) *
      ∏ j ∈ (Finset.range n).erase i, (0 - v j) / (v i - v j) := by
  have degree : (toPolynomial coeffs).degree < ((Finset.range n).card : WithBot ℕ) := by
    refine lt_of_lt_of_le (degree_toPolynomial_lt coeffs) ?_
    rw [Finset.card_range]
    exact_mod_cast enough
  have interpolated := congrArg (Polynomial.eval 0) (Lagrange.eq_interpolate distinct degree)
  rw [eval_toPolynomial] at interpolated
  rw [interpolated, Lagrange.interpolate_apply, eval_finsetSum]
  refine Finset.sum_congr rfl fun i _ => ?_
  rw [eval_mul, eval_C, eval_toPolynomial, Lagrange.basis, eval_prod]
  congr 1
  refine Finset.prod_congr rfl fun j _ => ?_
  rw [Lagrange.basisDivisor, eval_mul, eval_C, eval_sub, eval_X, eval_C, div_eq_inv_mul]

/-- A polynomial with a given constant coefficient that vanishes on a set of nonzero points. -/
theorem exists_vanishing (d : F) {m : ℕ} {points : Finset F} (few : points.card ≤ m)
    (nonzero : ∀ x ∈ points, x ≠ 0) :
    ∃ f : Fin m → F, ∀ x ∈ points, eval (d :: List.ofFn f) x = 0 := by
  let p : F[X] := C d * ∏ x ∈ points, (1 - C x⁻¹ * X)
  have constant : p.coeff 0 = d := by
    rw [coeff_zero_eq_eval_zero, eval_mul, eval_C, eval_prod]
    simp
  have degree : p.natDegree < m + 1 := by
    have linear : ∀ x ∈ points, (1 - C x⁻¹ * X : F[X]).natDegree ≤ 1 := by
      intro x _
      refine (natDegree_sub_le _ _).trans (max_le (by simp) ?_)
      exact (natDegree_C_mul_le _ _).trans natDegree_X_le
    have product : (∏ x ∈ points, (1 - C x⁻¹ * X : F[X])).natDegree ≤ points.card := by
      refine (natDegree_prod_le _ _).trans ((Finset.sum_le_sum linear).trans ?_)
      rw [Finset.sum_const, smul_eq_mul, mul_one]
    have whole : p.natDegree ≤ points.card := (natDegree_C_mul_le d _).trans product
    omega
  refine ⟨fun k => p.coeff (k + 1), fun x member => ?_⟩
  have root : p.eval x = 0 := by
    have factor : (1 - C x⁻¹ * X : F[X]).eval x = 0 := by
      rw [eval_sub, eval_one, eval_mul, eval_C, eval_X, inv_mul_cancel₀ (nonzero x member),
        sub_self]
    rw [eval_mul, eval_prod, Finset.prod_eq_zero member factor, mul_zero]
  rw [eval_eq_sum_range' degree, Finset.sum_range_succ', constant, pow_zero, mul_one] at root
  rw [eval, eval_ofFn, add_comm, Finset.mul_sum, ← root, ← Fin.sum_univ_eq_sum_range
    (fun k => p.coeff (k + 1) * x ^ (k + 1)) m]
  congr 1
  refine Finset.sum_congr rfl fun k _ => ?_
  rw [pow_succ]
  ring

end Interpolation
