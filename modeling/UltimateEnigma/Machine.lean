set_option autoImplicit false

/-- A system that takes one event at a time. -/
structure Machine (σ ε : Type) where
  start : σ → Prop
  enabled : σ → ε → Prop
  apply : σ → ε → σ

namespace Machine

variable {σ ε : Type} (M : Machine σ ε)

/-- What runs reach whose every event is enabled and allowed. -/
inductive Reachable (allowed : σ → ε → Prop) : σ → Prop where
  | start {state : σ} (initial : M.start state) : Reachable allowed state
  | step {state : σ} (event : ε) (before : Reachable allowed state)
      (enabled : M.enabled state event) (permitted : allowed state event) :
      Reachable allowed (M.apply state event)

/-- The induction that every run lemma below instantiates. -/
theorem Reachable.invariant {allowed : σ → ε → Prop} (property : σ → Prop)
    (start : ∀ state, M.start state → property state)
    (step : ∀ state event, M.Reachable allowed state → property state →
      M.enabled state event → allowed state event → property (M.apply state event))
    {state : σ} (reachable : M.Reachable allowed state) : property state := by
  induction reachable with
  | start initial => exact start _ initial
  | step event before enabled permitted ih => exact step _ event before ih enabled permitted

/-- From one state to a later one of the same run. -/
inductive Follows (allowed : σ → ε → Prop) : σ → σ → Prop where
  | refl (state : σ) : Follows allowed state state
  | step {before middle : σ} (event : ε) (earlier : Follows allowed before middle)
      (enabled : M.enabled middle event) (permitted : allowed middle event) :
      Follows allowed before (M.apply middle event)

variable {M}

theorem Follows.reachable {allowed : σ → ε → Prop} {before after : σ}
    (later : M.Follows allowed before after) (reachable : M.Reachable allowed before) :
    M.Reachable allowed after := by
  induction later with
  | refl => exact reachable
  | step event _ enabled permitted ih => exact .step event ih enabled permitted

/-- What one step preserves, relative to a fixed earlier state, every later state has. -/
theorem Follows.relation {allowed : σ → ε → Prop} {before : σ} (relation : σ → Prop)
    (start : relation before)
    (step : ∀ middle event, M.Follows allowed before middle → relation middle →
      M.enabled middle event → allowed middle event → relation (M.apply middle event))
    {after : σ} (later : M.Follows allowed before after) : relation after := by
  induction later with
  | refl => exact start
  | step event earlier enabled permitted ih => exact step _ event earlier ih enabled permitted

theorem Follows.weaken {strict loose : σ → ε → Prop} {before after : σ}
    (later : M.Follows strict before after)
    (weaker : ∀ state event, strict state event → loose state event) :
    M.Follows loose before after := by
  induction later with
  | refl => exact .refl _
  | step event _ enabled permitted ih => exact .step event ih enabled (weaker _ event permitted)

theorem Reachable.weaken {strict loose : σ → ε → Prop} {state : σ}
    (reachable : M.Reachable strict state)
    (weaker : ∀ state event, M.Reachable strict state → M.enabled state event →
      strict state event → loose state event) : M.Reachable loose state := by
  induction reachable with
  | start initial => exact .start initial
  | step event before enabled permitted ih =>
      exact .step event ih enabled (weaker _ event before enabled permitted)

variable (M)

/-- A schedule chooses each event by the state it finds. -/
def run : σ → List (σ → ε) → σ
  | state, [] => state
  | state, choose :: rest => run (M.apply state (choose state)) rest

theorem run_append (state : σ) (first second : List (σ → ε)) :
    M.run state (first ++ second) = M.run (M.run state first) second := by
  induction first generalizing state with
  | nil => rfl
  | cons choose rest ih => exact ih _

/-- Every event of the schedule is enabled and allowed when its turn comes. -/
def Admits (allowed : σ → ε → Prop) : σ → List (σ → ε) → Prop
  | _, [] => True
  | state, choose :: rest =>
      M.enabled state (choose state) ∧ allowed state (choose state) ∧
        Admits allowed (M.apply state (choose state)) rest

instance Admits.decidable (allowed : σ → ε → Prop)
    [enabled : ∀ state event, Decidable (M.enabled state event)]
    [permitted : ∀ state event, Decidable (allowed state event)] :
    ∀ state schedule, Decidable (M.Admits allowed state schedule)
  | _, [] => inferInstanceAs (Decidable True)
  | state, choose :: rest =>
      have := Admits.decidable allowed (M.apply state (choose state)) rest
      inferInstanceAs (Decidable (_ ∧ _ ∧ _))

variable {M}

theorem Reachable.run {allowed : σ → ε → Prop} {state : σ} {schedule : List (σ → ε)}
    (reachable : M.Reachable allowed state) (admits : M.Admits allowed state schedule) :
    M.Reachable allowed (M.run state schedule) := by
  induction schedule generalizing state with
  | nil => exact reachable
  | cons choose rest ih => exact ih (.step _ reachable admits.1 admits.2.1) admits.2.2

theorem Follows.run {allowed : σ → ε → Prop} {before state : σ} {schedule : List (σ → ε)}
    (earlier : M.Follows allowed before state) (admits : M.Admits allowed state schedule) :
    M.Follows allowed before (M.run state schedule) := by
  induction schedule generalizing state with
  | nil => exact earlier
  | cons choose rest ih => exact ih (.step _ earlier admits.1 admits.2.1) admits.2.2

theorem Admits.append {allowed : σ → ε → Prop} {state : σ} {first second : List (σ → ε)}
    (earlier : M.Admits allowed state first)
    (later : M.Admits allowed (M.run state first) second) :
    M.Admits allowed state (first ++ second) := by
  induction first generalizing state with
  | nil => exact later
  | cons choose rest ih => exact ⟨earlier.1, earlier.2.1, ih earlier.2.2 later⟩

end Machine
