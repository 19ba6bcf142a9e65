import Mathlib.Data.Set.Basic

set_option autoImplicit false

/-- Keys that come one from another by labelled one-way steps, starting from a seed. -/
structure KeyTree (Label Key : Type) where
  seed : Key
  child : Key → Label → Key

namespace KeyTree

variable {Label Key : Type} (tree : KeyTree Label Key)

/-- The key at the end of a path of steps from the seed. -/
def key (path : List Label) : Key := path.foldl tree.child tree.seed

@[simp] theorem key_nil : tree.key [] = tree.seed := rfl

@[simp] theorem key_append_singleton (path : List Label) (label : Label) :
    tree.key (path ++ [label]) = tree.child (tree.key path) label := by
  simp only [key, List.foldl_append, List.foldl_cons, List.foldl_nil]

/-- The steps are free constructors: no two paths meet. -/
def Free : Prop := Function.Injective tree.key

/-- What someone can compute from the keys he knows with the steps he can make. -/
inductive Derivable (usable : Label → Prop) (known : Set Key) : Key → Prop where
  | known {key : Key} (member : key ∈ known) : Derivable usable known key
  | child {key : Key} {label : Label} (parent : Derivable usable known key)
      (possible : usable label) : Derivable usable known (tree.child key label)

variable {tree}

/-- In a free tree a key comes only from keys above it. -/
theorem Derivable.exists_prefix (free : tree.Free) {usable : Label → Prop} {known : Set Key}
    (onTree : ∀ key ∈ known, ∃ path, tree.key path = key) {path : List Label}
    (derivable : tree.Derivable usable known (tree.key path)) :
    ∃ start, start <+: path ∧ tree.key start ∈ known := by
  have main : ∀ key, tree.Derivable usable known key →
      ∃ start rest, tree.key (start ++ rest) = key ∧ tree.key start ∈ known := by
    intro key derivable
    induction derivable with
    | known member =>
        obtain ⟨start, reached⟩ := onTree _ member
        exact ⟨start, [], by rw [List.append_nil, reached], by rw [reached]; exact member⟩
    | child parent possible ih =>
        rename_i label
        obtain ⟨start, rest, reached, member⟩ := ih
        refine ⟨start, rest ++ [label], ?_, member⟩
        rw [← List.append_assoc, key_append_singleton, reached]
  obtain ⟨start, rest, reached, member⟩ := main _ derivable
  have same : start ++ rest = path := free reached
  exact ⟨start, ⟨rest, same⟩, member⟩

end KeyTree
