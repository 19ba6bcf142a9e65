import Mathlib.Data.Finset.Max
import Mathlib.Data.List.Sort

set_option autoImplicit false

/-- The `count` greatest of some items, by how many lie above each. -/
def Newest.kept {α : Type} [LinearOrder α] (count : Nat) (items : Finset α) : Finset α :=
  items.filter fun item => (items.filter (item < ·)).card < count

namespace Newest

variable {α : Type} [LinearOrder α] {count : Nat} {items others : Finset α}

theorem mem_kept {item : α} :
    item ∈ kept count items ↔ item ∈ items ∧ (items.filter (item < ·)).card < count :=
  Finset.mem_filter

theorem kept_subset : kept count items ⊆ items := Finset.filter_subset _ _

/-- An item that stays among more items stays among fewer. -/
theorem kept_of_subset (part : items ⊆ others) {item : α} (inside : item ∈ items)
    (chosen : item ∈ kept count others) : item ∈ kept count items := by
  have fewer : (items.filter (item < ·)).card ≤ (others.filter (item < ·)).card :=
    Finset.card_le_card (Finset.filter_subset_filter _ part)
  have rank := (mem_kept.mp chosen).2
  exact mem_kept.mpr ⟨inside, by omega⟩

/-- A new least item is kept only where there is room left. -/
theorem kept_insert_least {least : α} (below : ∀ item ∈ items, least < item) :
    kept count (insert least items) =
      if items.card < count then insert least (kept count items) else kept count items := by
  have absent : least ∉ items := fun inside => lt_irrefl _ (below least inside)
  have rank : ∀ item ∈ items, (insert least items).filter (item < ·) = items.filter (item < ·) := by
    intro item inside
    rw [Finset.filter_insert, if_neg (not_lt_of_gt (below item inside))]
  have all : (insert least items).filter (least < ·) = items := by
    rw [Finset.filter_insert, if_neg (lt_irrefl _)]
    exact Finset.filter_true_of_mem below
  ext item
  rw [mem_kept, Finset.mem_insert]
  by_cases same : item = least
  · rw [same, all]
    split
    · rename_i room
      simp [room]
    · rename_i full
      have outside : least ∉ kept count items := fun chosen => absent (kept_subset chosen)
      simp [full, outside]
  · have smaller : item ∈ items →
        ((insert least items).filter (item < ·)).card = (items.filter (item < ·)).card :=
      fun inside => by rw [rank item inside]
    split
    · rw [Finset.mem_insert, mem_kept]
      grind
    · rw [mem_kept]
      grind

theorem card_kept : (kept count items).card = min count items.card := by
  induction items using Finset.induction_on_min with
  | empty => simp [kept]
  | insert least rest below ih =>
      have absent : least ∉ rest := fun inside => lt_irrefl _ (below least inside)
      have outside : least ∉ kept count rest := fun chosen => absent (kept_subset chosen)
      rw [kept_insert_least below, Finset.card_insert_of_notMem absent]
      split
      · rw [Finset.card_insert_of_notMem outside, ih]
        omega
      · rw [ih]
        omega

/-- What was left out earlier does not matter as long as it was not among the greatest. -/
theorem kept_eq_of_between (lower : kept count others ⊆ items) (upper : items ⊆ others) :
    kept count items = kept count others := by
  apply Finset.Subset.antisymm
  · intro item chosen
    have inside := upper (kept_subset chosen)
    by_contra dropped
    have crowded : count ≤ (others.filter (item < ·)).card := by
      by_contra few
      exact dropped (mem_kept.mpr ⟨inside, by omega⟩)
    have above : kept count others ⊆ items.filter (item < ·) := by
      intro other kept_other
      refine Finset.mem_filter.mpr ⟨lower kept_other, ?_⟩
      by_contra low
      have order : other ≤ item := not_lt.mp low
      have more : (others.filter (item < ·)).card ≤ (others.filter (other < ·)).card :=
        Finset.card_le_card (Finset.monotone_filter_right _ fun _ _ later => order.trans_lt later)
      have rank := (mem_kept.mp kept_other).2
      omega
    have size := Finset.card_le_card above
    have rank := (mem_kept.mp chosen).2
    have whole : (others.filter (item < ·)).card ≤ others.card :=
      Finset.card_le_card (Finset.filter_subset _ _)
    rw [card_kept] at size
    omega
  · intro item chosen
    exact kept_of_subset upper (lower chosen) chosen

/-- Keeping the greatest again after each new item keeps the greatest of all of them. -/
theorem kept_insert_subset (lower : kept count others ⊆ items) (item : α) :
    kept count (insert item others) ⊆ insert item items := by
  intro other chosen
  rcases Finset.mem_insert.mp (kept_subset chosen) with same | old
  · rw [same]
    exact Finset.mem_insert_self _ _
  · exact Finset.mem_insert_of_mem
      (lower (kept_of_subset (Finset.subset_insert _ _) old chosen))

section Sorted

/-- In front of a descending list stands what has few items above it. -/
theorem mem_take_iff {list : List α} (descending : list.Pairwise (· > ·)) (item : α) :
    item ∈ list.take count ↔ item ∈ list ∧ list.countP (item < ·) < count := by
  induction list generalizing count with
  | nil => simp
  | cons head rest ih =>
      rw [List.pairwise_cons] at descending
      cases count with
      | zero => simp
      | succ count =>
          rw [List.take_succ_cons, List.mem_cons, List.mem_cons, ih descending.2]
          by_cases same : item = head
          · have nothing : (head :: rest).countP (item < ·) = 0 := by
              rw [List.countP_eq_zero]
              intro other inside later
              rw [same, decide_eq_true_eq] at later
              rcases List.mem_cons.mp inside with first | behind
              · exact lt_irrefl _ (first ▸ later)
              · exact lt_asymm later (descending.1 other behind)
            rw [nothing]
            simp [same]
          · by_cases inside : item ∈ rest
            · have later : item < head := descending.1 item inside
              simp [inside, same, later]
            · simp [inside, same]

/-- The first `count` of a descending list are the greatest of it. -/
theorem toFinset_take {list : List α} (descending : list.Pairwise (· > ·)) :
    (list.take count).toFinset = kept count list.toFinset := by
  have distinct : list.Nodup := descending.imp fun later => later.ne'
  ext item
  have rank : (list.toFinset.filter (item < ·)).card = list.countP (item < ·) := by
    rw [List.countP_eq_length_filter, ← List.toFinset_card_of_nodup (distinct.filter _),
      List.toFinset_filter]
    simp only [decide_eq_true_eq]
  rw [mem_kept, rank, List.mem_toFinset, List.mem_toFinset, mem_take_iff descending]

end Sorted

end Newest
