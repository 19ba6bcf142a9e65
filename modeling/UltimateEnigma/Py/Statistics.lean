import Mathlib.Algebra.Order.BigOperators.Group.List
import Mathlib.Algebra.Order.Field.Basic
import Mathlib.Data.List.Sort
import Mathlib.Tactic.Linarith

set_option autoImplicit false

namespace Py.Statistics

section Order

variable {α : Type} [LinearOrder α]

/-- `sorted(data)`. -/
def sorted (data : List α) : List α := data.mergeSort (· ≤ ·)

variable {data : List α} {low high : α}

theorem length_sorted : (sorted data).length = data.length := List.length_mergeSort data

theorem countP_sorted (p : α → Bool) : (sorted data).countP p = data.countP p :=
  (List.mergeSort_perm data _).countP_eq p

theorem pairwise_sorted : (sorted data).Pairwise (· ≤ ·) := List.pairwise_mergeSort' (· ≤ ·) data

theorem sorted_mono {i j : Nat} (order : i ≤ j) (bound : j < (sorted data).length) :
    (sorted data)[i] ≤ (sorted data)[j] := by
  rcases Nat.lt_or_eq_of_le order with before | rfl
  · exact List.pairwise_iff_getElem.mp pairwise_sorted i j (by omega) bound before
  · exact le_refl _

/-- An entry below a bound has nothing but entries below the bound in front of it. -/
theorem lt_countP_of_lt {k : Nat} (bound : k < (sorted data).length)
    (below : (sorted data)[k] < low) : k < data.countP (· < low) := by
  have front : ((sorted data).take (k + 1)).countP (· < low) = k + 1 := by
    have length_eq : ((sorted data).take (k + 1)).length = k + 1 := by
      rw [List.length_take]
      omega
    refine (List.countP_eq_length.mpr fun x member => ?_).trans length_eq
    obtain ⟨i, iBound, rfl⟩ := List.mem_iff_getElem.mp member
    rw [length_eq] at iBound
    rw [List.getElem_take, decide_eq_true_eq]
    exact lt_of_le_of_lt (sorted_mono (by omega) bound) below
  have part := (List.take_sublist (k + 1) (sorted data)).countP_le (p := (· < low))
  rw [front, countP_sorted] at part
  exact part

/-- An entry above a bound has nothing but entries above the bound behind it. -/
theorem lt_countP_of_gt {k : Nat} (bound : k < (sorted data).length)
    (above : high < (sorted data)[k]) : data.length - k ≤ data.countP (high < ·) := by
  have back : ((sorted data).drop k).countP (high < ·) = data.length - k := by
    have length_eq : ((sorted data).drop k).length = data.length - k := by
      rw [List.length_drop, length_sorted]
    refine (List.countP_eq_length.mpr fun x member => ?_).trans length_eq
    obtain ⟨i, iBound, rfl⟩ := List.mem_iff_getElem.mp member
    rw [List.length_drop] at iBound
    rw [List.getElem_drop, decide_eq_true_eq]
    exact lt_of_lt_of_le above (sorted_mono (by omega) (by omega))
  have part := (List.drop_sublist k (sorted data)).countP_le (p := (high < ·))
  rw [back, countP_sorted] at part
  exact part

/-- How many entries lie between the bounds. -/
def countBetween (low high : α) (data : List α) : Nat :=
  data.countP fun x => low ≤ x ∧ x ≤ high

theorem countBetween_add_le (ordered : low ≤ high) : countBetween low high data +
    data.countP (· < low) + data.countP (high < ·) ≤ data.length := by
  unfold countBetween
  induction data with
  | nil => exact le_refl 0
  | cons x rest ih =>
      simp only [List.countP_cons, List.length_cons, decide_eq_true_eq]
      by_cases under : x < low
      · have notOver : ¬ high < x := not_lt.mpr (le_trans (le_of_lt under) ordered)
        have notIn : ¬ (low ≤ x ∧ x ≤ high) := fun inside => not_lt.mpr inside.1 under
        rw [if_pos under, if_neg notOver, if_neg notIn]
        omega
      · by_cases above : high < x
        · have notIn : ¬ (low ≤ x ∧ x ≤ high) := fun inside => not_lt.mpr inside.2 above
          rw [if_neg under, if_pos above, if_neg notIn]
          omega
        · rw [if_neg under, if_neg above, if_pos ⟨not_lt.mp under, not_lt.mp above⟩]
          omega

/-- Where more than half of the entries lie between two bounds, so do the middle ones. -/
theorem middle_between (ordered : low ≤ high) {k : Nat}
    (majority : data.length < 2 * countBetween low high data) (notAfter : 2 * k ≤ data.length)
    (notBefore : data.length ≤ 2 * k + 2) (bound : k < (sorted data).length) :
    low ≤ (sorted data)[k] ∧ (sorted data)[k] ≤ high := by
  have total : countBetween low high data + data.countP (· < low) + data.countP (high < ·) ≤
      data.length := countBetween_add_le ordered
  constructor
  · by_contra below
    have before := lt_countP_of_lt bound (not_le.mp below)
    omega
  · by_contra above
    have behind := lt_countP_of_gt bound (not_le.mp above)
    omega

end Order

section Field

variable {α : Type} [Field α] [LinearOrder α]

/-- `statistics.median`, which raises on an empty list. -/
def median (data : List α) : Option α :=
  if data.length % 2 = 1 then (sorted data)[data.length / 2]?
  else
    match (sorted data)[data.length / 2 - 1]?, (sorted data)[data.length / 2]? with
    | some low, some high => some ((low + high) / 2)
    | _, _ => none

/-- `statistics.mean` of a list that is not empty. -/
def mean (data : List α) : α := data.sum / data.length

variable [IsStrictOrderedRing α] {data : List α} {low high : α}

/-- The median lies where more than half of the entries do. -/
theorem median_between (ordered : low ≤ high)
    (majority : data.length < 2 * countBetween low high data) :
    ∃ middle, median data = some middle ∧ low ≤ middle ∧ middle ≤ high := by
  have few : countBetween low high data ≤ data.length := List.countP_le_length
  have length_eq : (sorted data).length = data.length := length_sorted
  unfold median
  by_cases odd : data.length % 2 = 1
  · have bound : data.length / 2 < (sorted data).length := by omega
    rw [if_pos odd, List.getElem?_eq_getElem bound]
    exact ⟨_, rfl, middle_between ordered majority (by omega) (by omega) bound⟩
  · have second : data.length / 2 < (sorted data).length := by omega
    have first : data.length / 2 - 1 < (sorted data).length := by omega
    rw [if_neg odd, List.getElem?_eq_getElem first, List.getElem?_eq_getElem second]
    obtain ⟨firstLow, firstHigh⟩ :=
      middle_between ordered majority (by omega) (by omega) first
    obtain ⟨secondLow, secondHigh⟩ :=
      middle_between ordered majority (by omega) (by omega) second
    refine ⟨_, rfl, ?_, ?_⟩
    · linarith
    · linarith

theorem mean_between (nonempty : data ≠ []) (between : ∀ x ∈ data, low ≤ x ∧ x ≤ high) :
    low ≤ mean data ∧ mean data ≤ high := by
  have positive : (0 : α) < data.length := Nat.cast_pos.mpr (List.length_pos_iff.mpr nonempty)
  have under := List.card_nsmul_le_sum data low fun x member => (between x member).1
  have above := List.sum_le_card_nsmul data high fun x member => (between x member).2
  rw [nsmul_eq_mul] at under above
  constructor
  · rw [mean, le_div_iff₀ positive, mul_comm]
    exact under
  · rw [mean, div_le_iff₀ positive, mul_comm]
    exact above

end Field

end Py.Statistics
