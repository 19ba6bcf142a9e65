import Mathlib.Data.List.Basic
import Mathlib.Data.List.Nodup

set_option autoImplicit false

namespace Py

/-- A `dict`: keys are unique, and iteration follows the order of first insertion. -/
structure Dict (κ ν : Type) where
  items : List (κ × ν)
  nodup : (items.map Prod.fst).Nodup

namespace Dict

variable {κ ν : Type}

theorem ext_items {first second : Dict κ ν} (same : first.items = second.items) :
    first = second := by
  cases first
  cases second
  congr

def empty : Dict κ ν := ⟨[], List.nodup_nil⟩

instance : Inhabited (Dict κ ν) := ⟨empty⟩

instance [DecidableEq κ] [DecidableEq ν] : DecidableEq (Dict κ ν) := fun first second =>
  decidable_of_iff (first.items = second.items) ⟨ext_items, congrArg items⟩

def size (dict : Dict κ ν) : Nat := dict.items.length

def keys (dict : Dict κ ν) : List κ := dict.items.map Prod.fst

theorem keys_nodup (dict : Dict κ ν) : dict.keys.Nodup := dict.nodup

@[simp] theorem items_empty : (empty : Dict κ ν).items = [] := rfl

@[simp] theorem size_empty : (empty : Dict κ ν).size = 0 := rfl

variable [DecidableEq κ]

/-- `dict.get(key)`. -/
def get? (dict : Dict κ ν) (key : κ) : Option ν := dict.items.lookup key

@[simp] theorem get?_empty (key : κ) : (empty : Dict κ ν).get? key = none := rfl

theorem get?_eq_none_iff (dict : Dict κ ν) (key : κ) :
    dict.get? key = none ↔ key ∉ dict.keys := by
  simp only [get?, keys, List.lookup_eq_none_iff, List.mem_map, Prod.exists, bne_iff_ne]
  constructor
  · rintro absent ⟨found, value, member, rfl⟩
    exact absent _ member rfl
  · rintro absent ⟨found, value⟩ member rfl
    exact absent ⟨_, value, member, rfl⟩

theorem get?_of_mem (dict : Dict κ ν) {key : κ} {value : ν}
    (member : (key, value) ∈ dict.items) : dict.get? key = some value := by
  obtain ⟨items, nodup⟩ := dict
  simp only [get?] at member ⊢
  induction items with
  | nil => cases member
  | cons item rest ih =>
      obtain ⟨other, stored⟩ := item
      simp only [List.map_cons, List.nodup_cons] at nodup
      rw [List.lookup_cons]
      rcases List.mem_cons.mp member with same | later
      · cases same
        simp
      · have differs : key ≠ other := by
          rintro rfl
          exact nodup.1 (List.mem_map.mpr ⟨_, later, rfl⟩)
        simpa only [beq_eq_false_iff_ne.mpr differs] using ih nodup.2 later

theorem mem_of_get? {dict : Dict κ ν} {key : κ} {value : ν}
    (found : dict.get? key = some value) : (key, value) ∈ dict.items := by
  obtain ⟨before, after, split, _⟩ := List.lookup_eq_some_iff.mp found
  rw [split]
  simp

theorem get?_eq_some_iff (dict : Dict κ ν) (key : κ) (value : ν) :
    dict.get? key = some value ↔ (key, value) ∈ dict.items :=
  ⟨mem_of_get?, get?_of_mem dict⟩

private theorem map_fst_map_value (items : List (κ × ν)) (key : κ) (value : ν) :
    (items.map fun item => if item.1 = key then (key, value) else item).map Prod.fst =
      items.map Prod.fst := by
  rw [List.map_map]
  apply List.map_congr_left
  intro item _
  simp only [Function.comp_apply]
  split <;> simp_all

/-- `dict[key] = value`: a present key keeps its place, a new one goes last. -/
def set (dict : Dict κ ν) (key : κ) (value : ν) : Dict κ ν :=
  if present : key ∈ dict.keys then
    ⟨dict.items.map fun item => if item.1 = key then (key, value) else item, by
      rw [map_fst_map_value]
      exact dict.nodup⟩
  else
    ⟨dict.items ++ [(key, value)], by
      rw [List.map_append, List.map_singleton]
      exact List.nodup_append.mpr ⟨dict.nodup, List.nodup_singleton _, by
        intro left inside right last same
        rw [List.mem_singleton] at last
        rw [same, last] at inside
        exact present inside⟩⟩

private theorem lookup_map_value (items : List (κ × ν)) (key other : κ) (value : ν)
    (present : key ∈ items.map Prod.fst) :
    (items.map fun item => if item.1 = key then (key, value) else item).lookup other =
      if other = key then some value else items.lookup other := by
  induction items with
  | nil => cases present
  | cons item rest ih =>
      obtain ⟨found, stored⟩ := item
      simp only [List.map_cons, List.mem_cons] at present ⊢
      by_cases here : found = key
      · subst here
        by_cases same : other = found
        · simp [same]
        · rw [if_neg same]
          simp only [↓reduceIte, List.lookup_cons, beq_eq_false_iff_ne.mpr same]
          by_cases later : found ∈ rest.map Prod.fst
          · rw [ih later, if_neg same]
          · congr 1
            conv_rhs => rw [← List.map_id rest]
            apply List.map_congr_left
            intro item member
            have apart : item.1 ≠ found := by
              rintro rfl
              exact later (List.mem_map_of_mem member)
            simp [apart]
      · have later : key ∈ rest.map Prod.fst := by
          rcases present with same | later
          · exact absurd same.symm here
          · exact later
        by_cases same : other = found
        · subst same
          simp [here]
        · simp only [here, ↓reduceIte, List.lookup_cons, beq_eq_false_iff_ne.mpr same, ih later]

theorem get?_set (dict : Dict κ ν) (key other : κ) (value : ν) :
    (dict.set key value).get? other = if other = key then some value else dict.get? other := by
  unfold set
  split
  · rename_i present
    exact lookup_map_value dict.items key other value present
  · rename_i absent
    simp only [get?, List.lookup_append]
    by_cases same : other = key
    · subst same
      have missing := (get?_eq_none_iff dict other).mpr absent
      rw [get?] at missing
      simp [missing]
    · rw [if_neg same]
      have apart : (other == key) = false := beq_eq_false_iff_ne.mpr same
      simp [List.lookup_cons, apart]

@[simp] theorem get?_set_self (dict : Dict κ ν) (key : κ) (value : ν) :
    (dict.set key value).get? key = some value := by
  rw [get?_set, if_pos rfl]

theorem get?_set_of_ne (dict : Dict κ ν) {key other : κ} (value : ν) (apart : other ≠ key) :
    (dict.set key value).get? other = dict.get? other := by
  rw [get?_set, if_neg apart]

theorem size_set_of_absent (dict : Dict κ ν) {key : κ} (value : ν)
    (absent : dict.get? key = none) : (dict.set key value).size = dict.size + 1 := by
  have missing := (get?_eq_none_iff dict key).mp absent
  simp only [set, missing, ↓reduceDIte, size, List.length_append, List.length_singleton]

theorem size_set_le (dict : Dict κ ν) (key : κ) (value : ν) :
    (dict.set key value).size ≤ dict.size + 1 := by
  unfold set size
  split
  · simp only [List.length_map]
    omega
  · simp only [List.length_append, List.length_singleton]
    omega

theorem keys_set_of_absent (dict : Dict κ ν) {key : κ} (value : ν)
    (absent : dict.get? key = none) : (dict.set key value).keys = dict.keys ++ [key] := by
  have missing := (get?_eq_none_iff dict key).mp absent
  rw [set, dif_neg missing, keys, List.map_append, List.map_singleton, keys]

/-- `dict.pop(key, None)`, the dictionary that remains. -/
def erase (dict : Dict κ ν) (key : κ) : Dict κ ν :=
  ⟨dict.items.filter fun item => item.1 ≠ key,
    dict.nodup.sublist (List.filter_sublist.map Prod.fst)⟩

theorem get?_erase (dict : Dict κ ν) (key other : κ) :
    (dict.erase key).get? other = if other = key then none else dict.get? other := by
  split
  · rename_i same
    subst same
    rw [get?_eq_none_iff]
    simp [keys, erase]
  · rename_i apart
    apply Option.ext
    intro value
    simp only [get?_eq_some_iff, erase, List.mem_filter]
    simp [apart]

@[simp] theorem get?_erase_self (dict : Dict κ ν) (key : κ) :
    (dict.erase key).get? key = none := by
  rw [get?_erase, if_pos rfl]

theorem get?_erase_of_ne (dict : Dict κ ν) {key other : κ} (apart : other ≠ key) :
    (dict.erase key).get? other = dict.get? other := by
  rw [get?_erase, if_neg apart]

theorem keys_erase (dict : Dict κ ν) (key : κ) :
    (dict.erase key).keys = dict.keys.filter fun other => other ≠ key := by
  simp only [keys, erase, List.filter_map, Function.comp_def]

/-- The first key goes, the others keep their order. -/
theorem keys_erase_head (dict : Dict κ ν) {key : κ} {rest : List κ}
    (first : dict.keys = key :: rest) : (dict.erase key).keys = rest := by
  have absent : key ∉ rest := (List.nodup_cons.mp (first ▸ dict.keys_nodup)).1
  rw [keys_erase, first, List.filter_cons_of_neg (by simp)]
  apply List.filter_eq_self.mpr
  intro other member
  rw [decide_eq_true_eq]
  rintro rfl
  exact absent member

theorem erase_of_absent (dict : Dict κ ν) {key : κ} (absent : dict.get? key = none) :
    dict.erase key = dict := by
  apply ext_items
  apply List.filter_eq_self.mpr
  intro item member
  have missing := (get?_eq_none_iff dict key).mp absent
  simp only [ne_eq, decide_eq_true_eq]
  rintro rfl
  exact missing (List.mem_map_of_mem member)

/-- Every value changed in place. -/
def mapValues {τ : Type} (dict : Dict κ ν) (change : κ → ν → τ) : Dict κ τ :=
  ⟨dict.items.map fun item => (item.1, change item.1 item.2), by
    rw [List.map_map]
    exact dict.nodup⟩

theorem lookup_map_values {τ : Type} (items : List (κ × ν)) (change : κ → ν → τ) (key : κ) :
    (items.map fun item => (item.1, change item.1 item.2)).lookup key =
      (items.lookup key).map (change key) := by
  induction items with
  | nil => rfl
  | cons item rest ih =>
      obtain ⟨found, stored⟩ := item
      simp only [List.map_cons, List.lookup_cons]
      by_cases here : key = found
      · subst here
        simp only [beq_self_eq_true, Option.map_some]
      · simp only [beq_eq_false_iff_ne.mpr here, ih]

theorem get?_mapValues {τ : Type} (dict : Dict κ ν) (change : κ → ν → τ) (key : κ) :
    (dict.mapValues change).get? key = (dict.get? key).map (change key) :=
  lookup_map_values dict.items change key

/-- `dict.update(items)`. -/
def update (dict : Dict κ ν) (items : List (κ × ν)) : Dict κ ν :=
  items.foldl (fun current item => current.set item.1 item.2) dict

@[simp] theorem update_nil (dict : Dict κ ν) : dict.update [] = dict := rfl

@[simp] theorem update_cons (dict : Dict κ ν) (key : κ) (value : ν) (rest : List (κ × ν)) :
    dict.update ((key, value) :: rest) = (dict.set key value).update rest := rfl

theorem size_update_le (dict : Dict κ ν) (items : List (κ × ν)) :
    (dict.update items).size ≤ dict.size + items.length := by
  induction items generalizing dict with
  | nil => exact Nat.le_refl _
  | cons item rest ih =>
      have grown := ih (dict.set item.1 item.2)
      have once := size_set_le dict item.1 item.2
      rw [update_cons, List.length_cons]
      omega

theorem size_update_of_absent (dict : Dict κ ν) (items : List (κ × ν))
    (absent : ∀ item ∈ items, dict.get? item.1 = none) (unique : (items.map Prod.fst).Nodup) :
    (dict.update items).size = dict.size + items.length := by
  induction items generalizing dict with
  | nil => rfl
  | cons item rest ih =>
      obtain ⟨key, value⟩ := item
      simp only [List.map_cons, List.nodup_cons] at unique
      have once := dict.size_set_of_absent value (absent (key, value) List.mem_cons_self)
      rw [update_cons, ih, once, List.length_cons, Nat.add_right_comm, Nat.add_assoc]
      · intro later member
        rw [get?_set_of_ne]
        · exact absent later (List.mem_cons_of_mem _ member)
        · rintro rfl
          exact unique.1 (List.mem_map_of_mem member)
      · exact unique.2

theorem get?_update_of_not_mem (dict : Dict κ ν) (items : List (κ × ν)) (key : κ)
    (absent : key ∉ items.map Prod.fst) : (dict.update items).get? key = dict.get? key := by
  induction items generalizing dict with
  | nil => rfl
  | cons item rest ih =>
      simp only [List.map_cons, List.mem_cons, not_or] at absent
      rw [update_cons, ih _ absent.2, get?_set_of_ne _ _ absent.1]

theorem get?_update_of_mem (dict : Dict κ ν) (items : List (κ × ν)) (key : κ) (value : ν)
    (unique : (items.map Prod.fst).Nodup) (member : (key, value) ∈ items) :
    (dict.update items).get? key = some value := by
  induction items generalizing dict with
  | nil => cases member
  | cons item rest ih =>
      simp only [List.map_cons, List.nodup_cons] at unique
      rcases List.mem_cons.mp member with same | later
      · subst same
        rw [update_cons, get?_update_of_not_mem _ _ _ unique.1, get?_set_self]
      · exact ih _ unique.2 later

/-- Of several items under a key the last one stays. -/
theorem exists_get?_update (dict : Dict κ ν) (items : List (κ × ν)) {key : κ}
    (present : key ∈ items.map Prod.fst) :
    ∃ value, (key, value) ∈ items ∧ (dict.update items).get? key = some value := by
  induction items generalizing dict with
  | nil => cases present
  | cons item rest ih =>
      obtain ⟨first, value⟩ := item
      rw [update_cons]
      by_cases later : key ∈ rest.map Prod.fst
      · obtain ⟨value, member, found⟩ := ih _ later
        exact ⟨value, List.mem_cons_of_mem _ member, found⟩
      · rcases List.mem_cons.mp present with same | again
        · have same : key = first := same
          subst same
          refine ⟨value, List.mem_cons_self, ?_⟩
          rw [get?_update_of_not_mem _ _ _ later, get?_set_self]
        · exact absurd again later

end Dict

end Py
