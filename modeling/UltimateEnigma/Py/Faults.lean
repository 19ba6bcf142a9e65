import UltimateEnigma.Py.Call

set_option autoImplicit false

namespace Py

/-- What a sequence raised, its first part raised or what comes after it. -/
theorem error_of_bind {ε α β : Type} {first : Except ε α} {next : α → Except ε β} {raised : ε}
    (failed : first >>= next = .error raised) :
    first = .error raised ∨ ∃ value, first = .ok value ∧ next value = .error raised := by
  cases first with
  | error other =>
      cases failed
      exact .inl rfl
  | ok value => exact .inr ⟨value, rfl, failed⟩

namespace Call

variable {ε σ α β : Type}

/-- What a sequence raised, its first part raised or what comes after it. -/
theorem error_of_run_bind {first : Call ε σ α} {next : α → Call ε σ β} {object after : σ}
    {raised : ε} (failed : (first >>= next).run object = (.error raised, after)) :
    first.run object = (.error raised, after) ∨ ∃ value middle,
      first.run object = (.ok value, middle) ∧ (next value).run middle = (.error raised, after) := by
  rw [run_bind] at failed
  cases ran : first.run object with
  | mk result middle =>
      rw [ran] at failed
      cases result with
      | error other =>
          cases failed
          exact .inl rfl
      | ok value => exact .inr ⟨value, middle, rfl, failed⟩

/-- What a call keeps, from a run of it. -/
theorem Keeps.of_run {τ : Type} {view : σ → τ} {call : Call ε σ α} (keeps : call.Keeps view)
    {object after : σ} {result : Except ε α} (ran : call.run object = (result, after)) :
    view after = view object := by
  have kept := keeps object
  rwa [ran] at kept

/-- What the rest of a sequence keeps is as its first part left it. -/
theorem Keeps.behind {τ : Type} {view : σ → τ} {first : Call ε σ α} {next : α → Call ε σ β}
    (rest : ∀ value, (next value).Keeps view) (object : σ) :
    view ((first >>= next).run object).2 = view (first.run object).2 := by
  rw [run_bind]
  cases first.run object with
  | mk result after =>
      cases result with
      | error raised => rfl
      | ok value => exact rest value after

/-- From this object the call returns. -/
def Returns (call : Call ε σ α) (object : σ) : Prop :=
  ∃ value after, call.run object = (.ok value, after)

theorem returns_bind {object : σ} {first : Call ε σ α} {next : α → Call ε σ β}
    (start : first.Returns object)
    (rest : ∀ value after, first.run object = (.ok value, after) → (next value).Returns after) :
    (first >>= next).Returns object := by
  obtain ⟨value, after, ran⟩ := start
  obtain ⟨result, last, ended⟩ := rest value after ran
  exact ⟨result, last, (run_bind_of_ok ran next).trans ended⟩

section Raises

variable {kind : ε → Prop} {object : σ}

/-- From this object the call ends in an exception of the kind. -/
def Raises (kind : ε → Prop) (call : Call ε σ α) (object : σ) : Prop :=
  ∃ raised, (call.run object).1 = .error raised ∧ kind raised

theorem raises_of_error {call : Call ε σ α} {raised : ε} {after : σ}
    (ran : call.run object = (.error raised, after)) : call.Raises kind object ↔ kind raised := by
  constructor
  · rintro ⟨other, failed, of_kind⟩
    rw [ran] at failed
    cases failed
    exact of_kind
  · intro of_kind
    exact ⟨raised, congrArg Prod.fst ran, of_kind⟩

theorem Returns.not_raises {call : Call ε σ α} (returns : call.Returns object) :
    ¬ call.Raises kind object := by
  obtain ⟨value, after, ran⟩ := returns
  rintro ⟨raised, failed, _⟩
  rw [ran] at failed
  cases failed

/-- Behind a first part that returned. -/
theorem raises_bind_of_ok {first : Call ε σ α} {next : α → Call ε σ β} {value : α} {after : σ}
    (ran : first.run object = (.ok value, after)) :
    (first >>= next).Raises kind object ↔ (next value).Raises kind after := by
  rw [Raises, Raises, run_bind_of_ok ran]

/-- A first part that raises ends the sequence. -/
theorem raises_bind_of_error {first : Call ε σ α} {next : α → Call ε σ β} {raised : ε} {after : σ}
    (ran : first.run object = (.error raised, after)) :
    (first >>= next).Raises kind object ↔ kind raised := by
  exact raises_of_error (run_bind_of_error ran next)

/-- A sequence is silent where its first part is, and what comes after it. -/
theorem not_raises_bind_iff {first : Call ε σ α} {next : α → Call ε σ β} :
    ¬ (first >>= next).Raises kind object ↔ ¬ first.Raises kind object ∧
      ∀ value after, first.run object = (.ok value, after) →
        ¬ (next value).Raises kind after := by
  cases ran : first.run object with
  | mk result after =>
      cases result with
      | error raised =>
          rw [raises_bind_of_error ran, raises_of_error ran]
          constructor
          · intro silent
            exact ⟨silent, nofun⟩
          · exact And.left
      | ok value =>
          rw [raises_bind_of_ok ran]
          constructor
          · intro silent
            refine ⟨Returns.not_raises ⟨value, after, ran⟩, ?_⟩
            intro value' after' same
            cases same
            exact silent
          · intro silent
            exact silent.2 value after rfl

theorem raises_mapError_iff {call : Call ε σ α} (change : ε → ε) :
    (mapError change call).Raises kind object ↔
      call.Raises (fun raised => kind (change raised)) object := by
  unfold Raises
  rw [run_mapError]
  cases call.run object with
  | mk result after =>
      cases result with
      | ok value => exact ⟨nofun, nofun⟩
      | error raised =>
          constructor
          · rintro ⟨_, ⟨⟩, of_kind⟩
            exact ⟨raised, rfl, of_kind⟩
          · rintro ⟨_, ⟨⟩, of_kind⟩
            exact ⟨change raised, rfl, of_kind⟩

end Raises

section CommutesAt

variable {change : σ → σ} {object : σ}

/-- The call does to this object, changed, what it does to the object itself. -/
def CommutesAt (change : σ → σ) (call : Call ε σ α) (object : σ) : Prop :=
  call.run (change object) = ((call.run object).1, change (call.run object).2)

theorem Commutes.at {call : Call ε σ α} (commutes : call.Commutes change) (object : σ) :
    call.CommutesAt change object := commutes object

theorem commutesAt_bind {first : Call ε σ α} {next : α → Call ε σ β}
    (start : first.CommutesAt change object)
    (rest : ∀ value after, first.run object = (.ok value, after) →
      (next value).CommutesAt change after) : (first >>= next).CommutesAt change object := by
  unfold CommutesAt at start ⊢
  rw [run_bind, run_bind, start]
  cases ran : first.run object with
  | mk result after =>
      cases result with
      | error raised => rfl
      | ok value => exact rest value after ran

theorem commutesAt_mapError {call : Call ε σ α} (map : ε → ε)
    (same : call.CommutesAt change object) : (mapError map call).CommutesAt change object := by
  unfold CommutesAt at same ⊢
  rw [run_mapError, run_mapError, same]
  cases call.run object with
  | mk result after => cases result <;> rfl

end CommutesAt

end Call

end Py
