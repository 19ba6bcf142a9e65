import UltimateEnigma.Py.Faults
import UltimateEnigma.Shamir

set_option autoImplicit false

namespace UltimateEnigma.Shamir

open Py

/-- The two errors that the documentation of `reconstruct_secret` names. -/
def Raised.IsDocumented : Raised → Prop
  | .insufficientSharesError _ | .invalidShareError _ => True
  | _ => False

/-- A position of a table of 256 entries, from its start or from its end. -/
def InTable (i : Int) : Prop := -256 ≤ i ∧ i < 256

section Tables

theorem gfLog_lt : ∀ value ∈ gfLog, value < 255 := by decide +kernel

/-- The position that an index means. -/
def positionOf (i : Int) : Int := if i < 0 then i + 256 else i

theorem positionOf_inTable_iff {i : Int} :
    InTable i ↔ 0 ≤ positionOf i ∧ (positionOf i).toNat < 256 := by
  unfold InTable positionOf
  split <;> omega

theorem index_gfLog_eq (i : Int) : index gfLog i =
    if positionOf i < 0 then .error .indexError
    else
      match gfLog[(positionOf i).toNat]? with
      | some value => .ok (value : Int)
      | none => .error .indexError := by
  unfold index positionOf
  rw [gfLog_length]
  rfl

theorem index_gfLog_inTable {i : Int} (inside : InTable i) :
    ∃ k : Nat, k < 255 ∧ index gfLog i = .ok (k : Int) := by
  obtain ⟨nonneg, below⟩ := positionOf_inTable_iff.mp inside
  have bound : (positionOf i).toNat < gfLog.length := by
    rw [gfLog_length]
    exact below
  refine ⟨gfLog[(positionOf i).toNat], gfLog_lt _ (List.getElem_mem bound), ?_⟩
  rw [index_gfLog_eq, if_neg (not_lt.mpr nonneg), List.getElem?_eq_getElem bound]

theorem inTable_of_index {i value : Int} (found : index gfLog i = .ok value) : InTable i := by
  rw [index_gfLog_eq] at found
  by_cases negative : positionOf i < 0
  · rw [if_pos negative] at found
    cases found
  · rw [if_neg negative] at found
    refine positionOf_inTable_iff.mpr ⟨not_lt.mp negative, ?_⟩
    cases stored : gfLog[(positionOf i).toNat]? with
    | none =>
        rw [stored] at found
        cases found
    | some entry =>
        have bound := (List.getElem?_eq_some_iff.mp stored).1
        rwa [gfLog_length] at bound

/-- A byte times an integer inside the table is a byte, and 0 only for 0. -/
theorem gfMul_inTable (g : Gf256) {a : Int} (inside : InTable a) :
    ∃ h : Gf256, gfMul g.toInt a = .ok h.toInt ∧ (g ≠ 0 → a ≠ 0 → h ≠ 0) := by
  by_cases zero : g.toInt = 0 ∨ a = 0
  · refine ⟨0, if_pos zero, fun first second => ?_⟩
    rcases zero with none | none
    · exact absurd (toInt_eq_zero.mp none) first
    · exact absurd none second
  · obtain ⟨first, -⟩ := not_or.mp zero
    obtain ⟨j, jBound, rfl⟩ := Gf256.exists_ofPower fun none => first (toInt_eq_zero.mpr none)
    obtain ⟨k, kBound, found⟩ := index_gfLog_inTable inside
    refine ⟨Gf256.ofPower (j + k), ?_, fun _ _ => Gf256.ofPower_ne_zero _⟩
    have bound : j + k < 512 := by omega
    have product := index_gfExp (j + k) bound
    rw [Int.natCast_add] at product
    rw [gfMul, if_neg zero, index_gfLog j jBound, found]
    exact product

theorem inTable_of_gfMul {a b value : Int} (first : a ≠ 0) (multiplied : gfMul a b = .ok value) :
    InTable b := by
  by_cases zero : b = 0
  · rw [zero]
    exact ⟨by decide, by decide⟩
  · rw [gfMul, if_neg (not_or.mpr ⟨first, zero⟩)] at multiplied
    obtain ⟨logA, -, multiplied⟩ := ok_of_bind multiplied
    obtain ⟨logB, found, -⟩ := ok_of_bind multiplied
    exact inTable_of_index found

theorem ne_zero_of_gfMul {a b value : Int} (multiplied : gfMul a b = .ok value)
    (nonzero : value ≠ 0) : a ≠ 0 ∧ b ≠ 0 := by
  refine not_or.mp fun zero => ?_
  rw [gfMul, if_pos zero] at multiplied
  cases multiplied
  exact nonzero rfl

theorem gfAdd_inTable {a b : Int} (first : InTable a) (second : InTable b) :
    InTable (gfAdd a b) := by
  obtain ⟨aLow, aHigh⟩ := first
  obtain ⟨bLow, bHigh⟩ := second
  unfold InTable gfAdd
  cases a with
  | ofNat m =>
      cases b with
      | ofNat n =>
          have bound : m ^^^ n < 2 ^ 8 := Nat.xor_lt_two_pow (by grind) (by grind)
          show -256 ≤ ((m ^^^ n : Nat) : Int) ∧ ((m ^^^ n : Nat) : Int) < 256
          omega
      | negSucc n =>
          have bound : m ^^^ n < 2 ^ 8 := Nat.xor_lt_two_pow (by grind) (by grind)
          show -256 ≤ Int.negSucc (m ^^^ n) ∧ Int.negSucc (m ^^^ n) < 256
          omega
  | negSucc m =>
      cases b with
      | ofNat n =>
          have bound : m ^^^ n < 2 ^ 8 := Nat.xor_lt_two_pow (by grind) (by grind)
          show -256 ≤ Int.negSucc (m ^^^ n) ∧ Int.negSucc (m ^^^ n) < 256
          omega
      | negSucc n =>
          have bound : m ^^^ n < 2 ^ 8 := Nat.xor_lt_two_pow (by grind) (by grind)
          show -256 ≤ ((m ^^^ n : Nat) : Int) ∧ ((m ^^^ n : Nat) : Int) < 256
          omega

theorem gfAdd_eq_zero {a b : Int} : gfAdd a b = 0 ↔ a = b := by
  unfold gfAdd
  cases a with
  | ofNat m =>
      cases b with
      | ofNat n =>
          show ((m ^^^ n : Nat) : Int) = 0 ↔ (m : Int) = (n : Int)
          rw [Int.natCast_eq_zero, Nat.xor_eq_zero_iff, Int.natCast_inj]
      | negSucc n => exact ⟨nofun, nofun⟩
  | negSucc m =>
      cases b with
      | ofNat n => exact ⟨nofun, nofun⟩
      | negSucc n =>
          show ((m ^^^ n : Nat) : Int) = 0 ↔ Int.negSucc m = Int.negSucc n
          rw [Int.natCast_eq_zero, Nat.xor_eq_zero_iff, Int.negSucc_inj]

end Tables

section Inversion

variable {points : List Int} {i : Nat}

/-- A list of coefficients whose last one is not 0. -/
def Led : List Int → Prop
  | [] => False
  | [c] => c ≠ 0
  | _ :: d :: rest => Led (d :: rest)

theorem led_cons {c : Int} {rest : List Int} (led : Led rest) : Led (c :: rest) := by
  cases rest with
  | nil => exact led.elim
  | cons d rest => exact led

/-- A basis that was multiplied by a factor used the index of the factor. -/
theorem timesFactor_led {xj : Int} {basis product : List Int} {below : Int}
    (multiplied : timesFactor xj basis below = .ok product) (led : Led basis) :
    InTable xj ∧ Led product := by
  induction basis generalizing below product with
  | nil => exact led.elim
  | cons c rest ih =>
      obtain ⟨first, first_ok, multiplied⟩ := ok_of_bind multiplied
      obtain ⟨others, others_ok, multiplied⟩ := ok_of_bind multiplied
      cases multiplied
      cases rest with
      | nil =>
          cases others_ok
          have nonzero : c ≠ 0 := led
          refine ⟨inTable_of_gfMul nonzero first_ok, ?_⟩
          show gfAdd 0 c ≠ 0
          exact fun zero => nonzero (gfAdd_eq_zero.mp zero).symm
      | cons d rest =>
          obtain ⟨inside, rest_led⟩ := ih others_ok led
          exact ⟨inside, led_cons rest_led⟩

theorem basisFrom_distinct {js : List Nat} {basis product : List Int} {denom last : Int}
    (ran : basisFrom points i js basis denom = .ok (product, last)) (led : Led basis)
    (nonzero : last ≠ 0) :
    denom ≠ 0 ∧ ∀ j ∈ js, i ≠ j →
      InTable (points.getD j 0) ∧ points.getD i 0 ≠ points.getD j 0 := by
  induction js generalizing basis denom with
  | nil =>
      cases ran
      exact ⟨nonzero, fun _ absent => absurd absent List.not_mem_nil⟩
  | cons j rest ih =>
      rw [basisFrom] at ran
      by_cases here : i = j
      · rw [if_pos here] at ran
        obtain ⟨denom_ne, others⟩ := ih ran led
        refine ⟨denom_ne, List.forall_mem_cons.mpr ⟨fun differ => absurd here differ, others⟩⟩
      · rw [if_neg here] at ran
        obtain ⟨newBasis, multiplied, ran⟩ := ok_of_bind ran
        obtain ⟨newDenom, scaled, ran⟩ := ok_of_bind ran
        obtain ⟨inside, newLed⟩ := timesFactor_led multiplied led
        obtain ⟨newDenom_ne, others⟩ := ih ran newLed
        obtain ⟨denom_ne, difference⟩ := ne_zero_of_gfMul scaled newDenom_ne
        refine ⟨denom_ne, List.forall_mem_cons.mpr ⟨fun _ => ⟨inside, fun same => ?_⟩, others⟩⟩
        exact difference (gfAdd_eq_zero.mpr same)

/-- A coefficient that was computed used every other index, and told it from its own. -/
theorem lagrangeCoefficient_distinct {x value : Int}
    (ran : lagrangeCoefficient x points i = .ok value) {j : Nat} (bound : j < points.length)
    (apart : i ≠ j) : InTable (points.getD j 0) ∧ points.getD i 0 ≠ points.getD j 0 := by
  obtain ⟨⟨basis, denom⟩, basis_ok, ran⟩ := ok_of_bind ran
  obtain ⟨_, -, ran⟩ := ok_of_bind ran
  obtain ⟨inverse, inverted, -⟩ := ok_of_bind ran
  have nonzero : denom ≠ 0 := by
    rintro rfl
    cases inverted
  have started : Led [1] := by
    show (1 : Int) ≠ 0
    decide
  exact (basisFrom_distinct basis_ok started nonzero).2 j (List.mem_range.mpr bound) apart

end Inversion

section Interpolating

variable {points : List Int} (inside : ∀ p ∈ points, InTable p)

theorem timesFactor_inTable {xj : Int} (within : InTable xj) (basis : List Gf256) (below : Gf256) :
    ∃ product : List Gf256,
      timesFactor xj (basis.map Gf256.toInt) below.toInt = .ok (product.map Gf256.toInt) := by
  induction basis generalizing below with
  | nil => exact ⟨[below], rfl⟩
  | cons c rest ih =>
      obtain ⟨h, multiplied, -⟩ := gfMul_inTable c within
      obtain ⟨others, others_ok⟩ := ih (0 + c)
      refine ⟨(below + h) :: others, ?_⟩
      have carried : gfAdd 0 c.toInt = (0 + c).toInt := gfAdd_toInt 0 c
      rw [List.map_cons, timesFactor, multiplied, ok_bind, carried, others_ok, ok_bind, gfAdd_toInt]
      rfl

include inside in
theorem getD_inTable (j : Nat) : InTable (points.getD j 0) := by
  by_cases bound : j < points.length
  · rw [List.getD_eq_getElem _ _ bound]
    exact inside _ (List.getElem_mem bound)
  · rw [List.getD_eq_default _ _ (not_lt.mp bound)]
    exact ⟨by decide, by decide⟩

include inside in
theorem basisFrom_inTable (i : Nat) (js : List Nat) (basis : List Gf256) (denom : Gf256)
    (nonzero : denom ≠ 0) (apart : ∀ j ∈ js, i ≠ j → points.getD i 0 ≠ points.getD j 0) :
    ∃ (product : List Gf256) (last : Gf256),
      basisFrom points i js (basis.map Gf256.toInt) denom.toInt =
        .ok (product.map Gf256.toInt, last.toInt) ∧ last ≠ 0 := by
  induction js generalizing basis denom with
  | nil => exact ⟨basis, denom, rfl, nonzero⟩
  | cons j rest ih =>
      obtain ⟨differ, others⟩ := List.forall_mem_cons.mp apart
      rw [basisFrom]
      by_cases here : i = j
      · rw [if_pos here]
        exact ih basis denom nonzero others
      · obtain ⟨newBasis, multiplied⟩ := timesFactor_inTable (getD_inTable inside j) basis 0
        have difference := gfAdd_inTable (getD_inTable inside i) (getD_inTable inside j)
        obtain ⟨newDenom, scaled, newNonzero⟩ := gfMul_inTable denom difference
        obtain ⟨product, last, ran, last_ne⟩ := ih newBasis newDenom
          (newNonzero nonzero fun zero => differ here (gfAdd_eq_zero.mp zero)) others
        have started : timesFactor (points.getD j 0) (basis.map Gf256.toInt) 0 =
            .ok (newBasis.map Gf256.toInt) := multiplied
        rw [if_neg here, started, ok_bind, scaled, ok_bind]
        exact ⟨product, last, ran, last_ne⟩

include inside in
theorem lagrangeCoefficient_inTable (distinct : points.Nodup) {i : Nat}
    (bound : i < points.length) :
    ∃ c : Gf256, lagrangeCoefficient 0 points i = .ok c.toInt := by
  have apart : ∀ j ∈ List.range points.length, i ≠ j → points.getD i 0 ≠ points.getD j 0 := by
    intro j member differ same
    have jBound := List.mem_range.mp member
    rw [List.getD_eq_getElem _ _ bound, List.getD_eq_getElem _ _ jBound] at same
    exact differ ((List.Nodup.getElem_inj_iff distinct).mp same)
  obtain ⟨basis, denom, basis_ok, nonzero⟩ :=
    basisFrom_inTable inside i (List.range points.length) [1] 1 one_ne_zero apart
  have started : basisFrom points i (List.range points.length) [1] 1 =
      .ok (basis.map Gf256.toInt, denom.toInt) := basis_ok
  have evaluated : evalPoly (basis.map Gf256.toInt) 0 =
      .ok (Interpolation.eval basis 0).toInt := evalPoly_toInt 0 basis
  refine ⟨Interpolation.eval basis 0 * denom⁻¹, ?_⟩
  rw [lagrangeCoefficient, started, ok_bind]
  show (evalPoly (basis.map Gf256.toInt) 0 >>= fun value =>
    gfInv denom.toInt >>= fun inverse => gfMul value inverse) = _
  rw [evaluated, ok_bind, gfInv_toInt nonzero, ok_bind, gfMul_toInt]

theorem mapM_toInt {f : Nat → Except Raised Int} {items : List Nat}
    (each : ∀ i ∈ items, ∃ c : Gf256, f i = .ok c.toInt) :
    ∃ coeffs : List Gf256, items.mapM f = .ok (coeffs.map Gf256.toInt) := by
  induction items with
  | nil => exact ⟨[], rfl⟩
  | cons i rest ih =>
      obtain ⟨first, others⟩ := List.forall_mem_cons.mp each
      obtain ⟨c, computed⟩ := first
      obtain ⟨coeffs, rest_ok⟩ := ih others
      refine ⟨c :: coeffs, ?_⟩
      rw [List.mapM_cons, computed, ok_bind, rest_ok]
      rfl

include inside in
/-- Distinct indices inside the table reconstruct some byte. -/
theorem reconstructByte_inTable (distinct : points.Nodup) (shareBytes : List Bytes)
    (byteIdx : Nat) : ∃ byte, reconstructByte points shareBytes byteIdx = .ok byte := by
  obtain ⟨coeffs, weights⟩ : ∃ coeffs : List Gf256,
      lagrangeCoefficients 0 points = .ok (coeffs.map Gf256.toInt) :=
    mapM_toInt fun i member => lagrangeCoefficient_inTable inside distinct (List.mem_range.mp member)
  have terms : (shareBytes.map fun bytes => ((bytes.getD byteIdx 0).toNat : Int)).zip
      (coeffs.map Gf256.toInt) =
      ((shareBytes.map fun bytes => ofByte (bytes.getD byteIdx 0)).zip coeffs).map
        fun term => (term.1.toInt, term.2.toInt) := by
    have bytes : (shareBytes.map fun bytes => ((bytes.getD byteIdx 0).toNat : Int)) =
        (shareBytes.map fun bytes => ofByte (bytes.getD byteIdx 0)).map Gf256.toInt := by
      rw [List.map_map]
      rfl
    rw [bytes]
    exact List.zip_map
  obtain ⟨value, combined⟩ : ∃ value : Gf256, combine (((shareBytes.map fun bytes =>
      ofByte (bytes.getD byteIdx 0)).zip coeffs).map fun term => (term.1.toInt, term.2.toInt)) 0 =
        .ok value.toInt := ⟨_, combine_toInt _ 0⟩
  refine ⟨value.toByte, ?_⟩
  show (lagrangeCoefficients 0 points >>= fun coeffs =>
    combine ((shareBytes.map fun bytes => ((bytes.getD byteIdx 0).toNat : Int)).zip coeffs) 0 >>=
      toByte) = _
  rw [weights, ok_bind, terms, combined, ok_bind, toByte_ok]

end Interpolating

section Errors

/-- Whatever the computation raises is not among the errors that the documentation names. -/
def Undocumented {α : Type} (computed : Except Raised α) : Prop :=
  ∀ raised, computed = .error raised → ¬ raised.IsDocumented

theorem undocumented_ok {α : Type} (value : α) :
    Undocumented (.ok value : Except Raised α) := nofun

theorem undocumented_error {α : Type} {raised : Raised} (other : ¬ raised.IsDocumented) :
    Undocumented (.error raised : Except Raised α) := by
  rintro _ ⟨⟩
  exact other

theorem undocumented_bind {α β : Type} {first : Except Raised α} {next : α → Except Raised β}
    (first_other : Undocumented first) (next_other : ∀ value, Undocumented (next value)) :
    Undocumented (first >>= next) := by
  intro raised failed
  obtain before | ⟨value, -, after⟩ := error_of_bind failed
  · exact first_other raised before
  · exact next_other value raised after

theorem undocumented_mapM {α β : Type} {f : α → Except Raised β}
    (each : ∀ item, Undocumented (f item)) (items : List α) : Undocumented (items.mapM f) := by
  induction items with
  | nil => exact undocumented_ok _
  | cons item rest ih =>
      rw [List.mapM_cons]
      exact undocumented_bind (each item) fun _ => undocumented_bind ih fun _ => undocumented_ok _

theorem undocumented_index (table : List Nat) (i : Int) : Undocumented (index table i) := by
  unfold index
  dsimp only
  generalize (if i < 0 then i + table.length else i) = position
  split
  · exact undocumented_error not_false
  · split
    · exact undocumented_ok _
    · exact undocumented_error not_false

theorem undocumented_gfMul (a b : Int) : Undocumented (gfMul a b) := by
  unfold gfMul
  split
  · exact undocumented_ok _
  · exact undocumented_bind (undocumented_index _ _) fun _ =>
      undocumented_bind (undocumented_index _ _) fun _ => undocumented_index _ _

theorem undocumented_gfInv (a : Int) : Undocumented (gfInv a) := by
  unfold gfInv
  split
  · exact undocumented_error not_false
  · exact undocumented_bind (undocumented_index _ _) fun _ => undocumented_index _ _

theorem undocumented_evalPolyFrom (x : Int) (coeffs : List Int) (result power : Int) :
    Undocumented (evalPolyFrom x coeffs result power) := by
  induction coeffs generalizing result power with
  | nil => exact undocumented_ok _
  | cons c rest ih =>
      exact undocumented_bind (undocumented_gfMul _ _) fun _ =>
        undocumented_bind (undocumented_gfMul _ _) fun _ => ih _ _

theorem undocumented_timesFactor (xj : Int) (basis : List Int) (below : Int) :
    Undocumented (timesFactor xj basis below) := by
  induction basis generalizing below with
  | nil => exact undocumented_ok _
  | cons c rest ih =>
      exact undocumented_bind (undocumented_gfMul _ _) fun _ =>
        undocumented_bind (ih _) fun _ => undocumented_ok _

theorem undocumented_basisFrom (points : List Int) (i : Nat) (js : List Nat) (basis : List Int)
    (denom : Int) : Undocumented (basisFrom points i js basis denom) := by
  induction js generalizing basis denom with
  | nil => exact undocumented_ok _
  | cons j rest ih =>
      rw [basisFrom]
      split
      · exact ih _ _
      · exact undocumented_bind (undocumented_timesFactor _ _ _) fun _ =>
          undocumented_bind (undocumented_gfMul _ _) fun _ => ih _ _

theorem undocumented_combine (terms : List (Int × Int)) (value : Int) :
    Undocumented (combine terms value) := by
  induction terms generalizing value with
  | nil => exact undocumented_ok _
  | cons term rest ih => exact undocumented_bind (undocumented_gfMul _ _) fun _ => ih _

theorem undocumented_reconstructByte (indices : List Int) (shareBytes : List Bytes)
    (byteIdx : Nat) : Undocumented (reconstructByte indices shareBytes byteIdx) := by
  refine undocumented_bind (undocumented_mapM (fun i => ?_) _) fun _ =>
    undocumented_bind (undocumented_combine _ _) fun value => ?_
  · exact undocumented_bind (undocumented_basisFrom _ _ _ _ _) fun _ =>
      undocumented_bind (undocumented_evalPolyFrom _ _ _ _) fun _ =>
        undocumented_bind (undocumented_gfInv _) fun _ => undocumented_gfMul _ _
  · unfold toByte
    split
    · exact undocumented_ok _
    · exact undocumented_error not_false

end Errors

section Reconstruction

/-- A byte string of the expected length, or one of the documented errors. -/
def FailsAsDocumented (shares : List (Int × Bytes)) (expectedLength : Int) : Prop :=
  match reconstructSecret shares expectedLength with
  | .ok secret => (secret.length : Int) = expectedLength
  | .error raised => raised.IsDocumented

/-- What the checks in front of the interpolation refuse. -/
def Refused (shares : List (Int × Bytes)) (expectedLength : Int) : Prop :=
  shares.length < 2 ∨ ∃ share ∈ shares, (share.2.length : Int) ≠ expectedLength

/-- Indices with which every step of the interpolation is defined. -/
def Usable (indices : List Int) : Prop := indices.Nodup ∧ ∀ i ∈ indices, InTable i

theorem dedup_eq_singleton_iff {lengths : List Nat} {m : Nat} (nonempty : lengths ≠ []) :
    lengths.dedup = [m] ↔ ∀ length ∈ lengths, length = m := by
  constructor
  · intro same length member
    have kept := List.mem_dedup.mpr member
    rw [same, List.mem_singleton] at kept
    exact kept
  · intro all
    rw [List.eq_replicate_of_mem all]
    exact List.replicate_dedup (List.length_eq_zero_iff.not.mpr nonempty)

variable {shares : List (Int × Bytes)} {expectedLength : Int}

theorem reconstructSecret_refused (refused : Refused shares expectedLength) :
    ∃ raised, reconstructSecret shares expectedLength = .error raised ∧ raised.IsDocumented := by
  unfold reconstructSecret
  by_cases few : shares.length < 2
  · rw [if_pos few]
    exact ⟨_, rfl, trivial⟩
  · rw [if_neg few]
    obtain ⟨share, member, differs⟩ := refused.resolve_left few
    dsimp only
    split
    · rename_i actualLength single
      have nonempty : shares.map (fun share => share.2.length) ≠ [] :=
        List.ne_nil_of_mem (List.mem_map_of_mem member)
      have same := (dedup_eq_singleton_iff nonempty).mp single _ (List.mem_map_of_mem member)
      rw [same] at differs
      rw [if_pos differs]
      exact ⟨_, rfl, trivial⟩
    · exact ⟨_, rfl, trivial⟩

/-- Past the checks the bytes are reconstructed one by one. -/
theorem reconstructSecret_accepted (accepted : ¬ Refused shares expectedLength) :
    reconstructSecret shares expectedLength = (List.range expectedLength.toNat).mapM
      (reconstructByte (shares.map Prod.fst) (shares.map Prod.snd)) ∧ 0 ≤ expectedLength := by
  obtain ⟨enough, equal⟩ := not_or.mp accepted
  push Not at equal
  obtain ⟨first, member⟩ := List.exists_mem_of_length_pos
    (show 0 < shares.length by omega)
  have length_eq := equal first member
  have nonempty : shares.map (fun share => share.2.length) ≠ [] :=
    List.ne_nil_of_mem (List.mem_map_of_mem member)
  have single : (shares.map fun share => share.2.length).dedup = [expectedLength.toNat] := by
    refine (dedup_eq_singleton_iff nonempty).mpr fun length inside => ?_
    obtain ⟨share, shareMember, rfl⟩ := List.mem_map.mp inside
    have same := equal share shareMember
    omega
  have nonneg : 0 ≤ expectedLength := by omega
  refine ⟨?_, nonneg⟩
  unfold reconstructSecret
  rw [if_neg enough]
  dsimp only
  rw [single]
  dsimp only
  rw [if_neg (not_not.mpr (Int.toNat_of_nonneg nonneg))]

theorem mapM_length {α β : Type} {f : α → Except Raised β} {items : List α} {results : List β}
    (ran : items.mapM f = .ok results) : results.length = items.length := by
  induction items generalizing results with
  | nil =>
      cases ran
      rfl
  | cons item rest ih =>
      rw [List.mapM_cons] at ran
      obtain ⟨_, -, ran⟩ := ok_of_bind ran
      obtain ⟨others, rest_ok, ran⟩ := ok_of_bind ran
      cases ran
      rw [List.length_cons, List.length_cons, ih rest_ok]

theorem ok_of_mapM {α β : Type} {f : α → Except Raised β} {items : List α} {results : List β}
    (ran : items.mapM f = .ok results) : ∀ item ∈ items, ∃ result, f item = .ok result := by
  induction items generalizing results with
  | nil => exact fun _ absent => absurd absent List.not_mem_nil
  | cons item rest ih =>
      rw [List.mapM_cons] at ran
      obtain ⟨first, first_ok, ran⟩ := ok_of_bind ran
      obtain ⟨others, rest_ok, ran⟩ := ok_of_bind ran
      exact List.forall_mem_cons.mpr ⟨⟨first, first_ok⟩, ih rest_ok⟩

theorem mapM_returns {α β : Type} {f : α → Except Raised β} {items : List α}
    (each : ∀ item ∈ items, ∃ result, f item = .ok result) :
    ∃ results, items.mapM f = .ok results := by
  induction items with
  | nil => exact ⟨[], rfl⟩
  | cons item rest ih =>
      obtain ⟨⟨first, first_ok⟩, others⟩ := List.forall_mem_cons.mp each
      obtain ⟨results, rest_ok⟩ := ih others
      rw [List.mapM_cons, first_ok, ok_bind, rest_ok]
      exact ⟨_, rfl⟩

/-- A byte is reconstructed only from usable indices. -/
theorem usable_of_reconstructByte {indices : List Int} {shareBytes : List Bytes} {byteIdx : Nat}
    {byte : UInt8} (enough : 2 ≤ indices.length)
    (ran : reconstructByte indices shareBytes byteIdx = .ok byte) : Usable indices := by
  obtain ⟨coeffs, coeffs_ok, -⟩ := ok_of_bind ran
  have each : ∀ i < indices.length, ∀ j < indices.length, i ≠ j →
      InTable (indices.getD j 0) ∧ indices.getD i 0 ≠ indices.getD j 0 := by
    intro i iBound j jBound apart
    obtain ⟨value, computed⟩ := ok_of_mapM coeffs_ok i (List.mem_range.mpr iBound)
    exact lagrangeCoefficient_distinct computed jBound apart
  constructor
  · rw [List.nodup_iff_injective_get]
    intro i j same
    by_contra apart
    have differ := (each i i.isLt j j.isLt fun eq => apart (Fin.ext eq)).2
    rw [List.getD_eq_getElem _ _ i.isLt, List.getD_eq_getElem _ _ j.isLt] at differ
    exact differ same
  · intro index member
    obtain ⟨j, jBound, rfl⟩ := List.mem_iff_getElem.mp member
    -- with two indices each one is a factor of another's coefficient
    obtain ⟨i, iBound, apart⟩ : ∃ i < indices.length, i ≠ j := by
      by_cases zero : j = 0
      · exact ⟨1, by omega, by omega⟩
      · exact ⟨0, by omega, by omega⟩
    have inside := (each i iBound j jBound apart).1
    rwa [List.getD_eq_getElem _ _ jBound] at inside

/-- The reconstruction fails only as documented exactly when its checks refuse the shares, when no
byte is asked for, or when the indices are distinct and inside the tables. -/
theorem reconstruct_fails_as_documented_iff (shares : List (Int × Bytes)) (expectedLength : Int) :
    FailsAsDocumented shares expectedLength ↔
      Refused shares expectedLength ∨ expectedLength = 0 ∨ Usable (shares.map Prod.fst) := by
  by_cases refused : Refused shares expectedLength
  · obtain ⟨raised, failed, documented⟩ := reconstructSecret_refused refused
    refine ⟨fun _ => .inl refused, fun _ => ?_⟩
    rw [FailsAsDocumented, failed]
    exact documented
  · obtain ⟨run, nonneg⟩ := reconstructSecret_accepted refused
    have enough : 2 ≤ (shares.map Prod.fst).length := by
      rw [List.length_map]
      exact not_lt.mp (not_or.mp refused).1
    constructor
    · intro documented
      refine .inr (or_iff_not_imp_left.mpr fun positive => ?_)
      cases bytes : (List.range expectedLength.toNat).mapM
          (reconstructByte (shares.map Prod.fst) (shares.map Prod.snd)) with
      | error raised =>
          rw [FailsAsDocumented, run, bytes] at documented
          exact absurd documented
            (undocumented_mapM (undocumented_reconstructByte _ _) _ raised bytes)
      | ok secret =>
          have first : 0 ∈ List.range expectedLength.toNat := List.mem_range.mpr (by omega)
          obtain ⟨byte, reconstructed⟩ := ok_of_mapM bytes 0 first
          exact usable_of_reconstructByte enough reconstructed
    · intro condition
      obtain ⟨secret, bytes⟩ : ∃ secret, (List.range expectedLength.toNat).mapM
          (reconstructByte (shares.map Prod.fst) (shares.map Prod.snd)) = .ok secret := by
        rcases condition.resolve_left refused with rfl | ⟨distinct, inside⟩
        · exact ⟨[], rfl⟩
        · exact mapM_returns fun i _ => reconstructByte_inTable inside distinct _ i
      have length_eq := mapM_length bytes
      rw [List.length_range] at length_eq
      rw [FailsAsDocumented, run, bytes]
      show (secret.length : Int) = expectedLength
      omega

/-- The same share twice. -/
theorem repeated_share_divides_by_zero : ¬ FailsAsDocumented [(1, [0]), (1, [0])] 1 := by
  have failed : reconstructSecret [(1, [0]), (1, [0])] 1 =
      .error (.zeroDivisionError "Cannot invert 0 in GF(256)") := by decide +kernel
  rw [FailsAsDocumented, failed]
  exact not_false

end Reconstruction

end UltimateEnigma.Shamir
