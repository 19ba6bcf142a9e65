set_option autoImplicit false

namespace Py

/-- A call on a mutable object: its outcome, and the object as the call left it.
A call that raises keeps the changes it made before. -/
def Call (ε σ α : Type) : Type := σ → Except ε α × σ

namespace Call

variable {ε σ α β : Type}

def run (call : Call ε σ α) (object : σ) : Except ε α × σ := call object

protected def pure (value : α) : Call ε σ α := fun object => (.ok value, object)

protected def bind (first : Call ε σ α) (next : α → Call ε σ β) : Call ε σ β := fun object =>
  match first object with
  | (.ok value, after) => next value after
  | (.error exception, after) => (.error exception, after)

instance : Monad (Call ε σ) where
  pure := Call.pure
  bind := Call.bind

/-- `raise exception`. -/
def raise (exception : ε) : Call ε σ α := fun object => (.error exception, object)

/-- Read the object. -/
def read : Call ε σ σ := fun object => (.ok object, object)

/-- Change the object in place. -/
def modify (change : σ → σ) : Call ε σ Unit := fun object => (.ok (), change object)

/-- A value that may be missing, where its absence raises. -/
def require (exception : ε) : Option α → Call ε σ α
  | some value => pure value
  | none => raise exception

/-- A computation that does not touch the object. -/
def lift : Except ε α → Call ε σ α
  | .ok value => pure value
  | .error exception => raise exception

/-- `except Exception as e: raise … from e`. -/
def mapError (change : ε → ε) (call : Call ε σ α) : Call ε σ α := fun object =>
  match call object with
  | (.ok value, after) => (.ok value, after)
  | (.error exception, after) => (.error (change exception), after)

@[simp] theorem run_pure (value : α) (object : σ) :
    (pure value : Call ε σ α).run object = (.ok value, object) := rfl

@[simp] theorem run_raise (exception : ε) (object : σ) :
    (raise exception : Call ε σ α).run object = (.error exception, object) := rfl

@[simp] theorem run_read (object : σ) : (read : Call ε σ σ).run object = (.ok object, object) := rfl

@[simp] theorem run_modify (change : σ → σ) (object : σ) :
    (modify change : Call ε σ Unit).run object = (.ok (), change object) := rfl

@[simp] theorem run_require_some (exception : ε) (value : α) (object : σ) :
    (require exception (some value) : Call ε σ α).run object = (.ok value, object) := rfl

@[simp] theorem run_require_none (exception : ε) (object : σ) :
    (require exception none : Call ε σ α).run object = (.error exception, object) := rfl

@[simp] theorem run_lift_ok (value : α) (object : σ) :
    (lift (.ok value) : Call ε σ α).run object = (.ok value, object) := rfl

@[simp] theorem run_lift_error (exception : ε) (object : σ) :
    (lift (.error exception) : Call ε σ α).run object = (.error exception, object) := rfl

theorem run_lift (computed : Except ε α) (object : σ) :
    (lift computed : Call ε σ α).run object = (computed, object) := by
  cases computed <;> rfl

theorem run_bind (first : Call ε σ α) (next : α → Call ε σ β) (object : σ) :
    (first >>= next).run object =
      match first.run object with
      | (.ok value, after) => (next value).run after
      | (.error exception, after) => (.error exception, after) := rfl

theorem run_bind_of_ok {first : Call ε σ α} {object after : σ} {value : α}
    (success : first.run object = (.ok value, after)) (next : α → Call ε σ β) :
    (first >>= next).run object = (next value).run after := by
  rw [run_bind, success]

theorem run_bind_of_error {first : Call ε σ α} {object after : σ} {exception : ε}
    (failed : first.run object = (.error exception, after)) (next : α → Call ε σ β) :
    (first >>= next).run object = (.error exception, after) := by
  rw [run_bind, failed]

@[simp] theorem run_read_bind (next : σ → Call ε σ β) (object : σ) :
    (read >>= next).run object = (next object).run object := rfl

@[simp] theorem run_modify_bind (change : σ → σ) (next : Unit → Call ε σ β) (object : σ) :
    (modify change >>= next).run object = (next ()).run (change object) := rfl

@[simp] theorem run_raise_bind (exception : ε) (next : α → Call ε σ β) (object : σ) :
    (raise exception >>= next).run object = (.error exception, object) := rfl

@[simp] theorem run_pure_bind (value : α) (next : α → Call ε σ β) (object : σ) :
    ((pure value : Call ε σ α) >>= next).run object = (next value).run object := rfl

@[simp] theorem run_lift_ok_bind (value : α) (next : α → Call ε σ β) (object : σ) :
    (lift (.ok value) >>= next).run object = (next value).run object := rfl

@[simp] theorem run_lift_error_bind (exception : ε) (next : α → Call ε σ β) (object : σ) :
    (lift (.error exception) >>= next).run object = (.error exception, object) := rfl

theorem run_require_bind (exception : ε) (value : α) (next : α → Call ε σ β) (object : σ) :
    (require exception (some value) >>= next).run object = (next value).run object := rfl

/-- What a sequence returned came from a first part that returned. -/
theorem ok_of_run_bind {first : Call ε σ α} {next : α → Call ε σ β} {object after : σ} {result : β}
    (success : (first >>= next).run object = (.ok result, after)) :
    ∃ value middle, first.run object = (.ok value, middle) ∧
      (next value).run middle = (.ok result, after) := by
  rw [run_bind] at success
  split at success
  · rename_i value middle first_ok
    exact ⟨value, middle, first_ok, success⟩
  · cases success

theorem ok_of_run_require {exception : ε} {value : Option α} {object after : σ} {result : α}
    (success : (require exception value : Call ε σ α).run object = (.ok result, after)) :
    value = some result ∧ after = object := by
  cases value with
  | none => cases success
  | some value =>
      cases success
      exact ⟨rfl, rfl⟩

theorem ok_of_run_lift {computed : Except ε α} {object after : σ} {result : α}
    (success : (lift computed : Call ε σ α).run object = (.ok result, after)) :
    computed = .ok result ∧ after = object := by
  cases computed with
  | error exception => cases success
  | ok value =>
      cases success
      exact ⟨rfl, rfl⟩

/-- A computation that returned, in front of a sequence that returned. -/
theorem ok_of_run_lift_bind {computed : Except ε α} {next : α → Call ε σ β} {object after : σ}
    {result : β} (success : (lift computed >>= next).run object = (.ok result, after)) :
    ∃ value, computed = .ok value ∧ (next value).run object = (.ok result, after) := by
  obtain ⟨value, middle, lifted, rest⟩ := ok_of_run_bind success
  obtain ⟨computed_ok, same⟩ := ok_of_run_lift lifted
  rw [same] at rest
  exact ⟨value, computed_ok, rest⟩

section Returns

variable {object after : σ}

theorem run_bind_ok_iff {first : Call ε σ α} {next : α → Call ε σ β} {result : β} :
    (first >>= next).run object = (.ok result, after) ↔
      ∃ value middle, first.run object = (.ok value, middle) ∧
        (next value).run middle = (.ok result, after) :=
  ⟨ok_of_run_bind, fun ⟨_, _, start, rest⟩ => (run_bind_of_ok start next).trans rest⟩

theorem run_pure_ok_iff {value result : α} :
    (pure value : Call ε σ α).run object = (.ok result, after) ↔ result = value ∧ after = object := by
  rw [run_pure]
  constructor
  · intro same
    cases same
    exact ⟨rfl, rfl⟩
  · rintro ⟨rfl, rfl⟩
    rfl

theorem run_read_ok_iff {result : σ} :
    (read : Call ε σ σ).run object = (.ok result, after) ↔ result = object ∧ after = object := by
  rw [run_read]
  constructor
  · intro same
    cases same
    exact ⟨rfl, rfl⟩
  · rintro ⟨rfl, rfl⟩
    rfl

theorem run_modify_ok_iff {change : σ → σ} {result : Unit} :
    (modify change : Call ε σ Unit).run object = (.ok result, after) ↔ after = change object := by
  rw [run_modify]
  constructor
  · intro same
    cases same
    rfl
  · rintro rfl
    rfl

theorem run_lift_ok_iff {computed : Except ε α} {result : α} :
    (lift computed : Call ε σ α).run object = (.ok result, after) ↔
      computed = .ok result ∧ after = object :=
  ⟨ok_of_run_lift, fun ⟨computed_ok, same⟩ => by rw [computed_ok, same, run_lift_ok]⟩

theorem run_require_ok_iff {exception : ε} {value : Option α} {result : α} :
    (require exception value : Call ε σ α).run object = (.ok result, after) ↔
      value = some result ∧ after = object :=
  ⟨ok_of_run_require, fun ⟨present, same⟩ => by rw [present, same, run_require_some]⟩

end Returns

theorem run_mapError (change : ε → ε) (call : Call ε σ α) (object : σ) :
    (mapError change call).run object =
      match call.run object with
      | (.ok value, after) => (.ok value, after)
      | (.error exception, after) => (.error (change exception), after) := rfl

theorem run_mapError_ok_iff (change : ε → ε) (call : Call ε σ α) (object after : σ) (value : α) :
    (mapError change call).run object = (.ok value, after) ↔
      call.run object = (.ok value, after) := by
  rw [run_mapError]
  split
  · rename_i result state returned
    rw [returned]
  · rename_i exception state raised
    rw [raised]
    constructor <;> intro impossible <;> cases impossible

theorem run_ite (condition : Prop) [Decidable condition] (yes no : Call ε σ α) (object : σ) :
    (if condition then yes else no).run object =
      if condition then yes.run object else no.run object := by
  split <;> rfl

/-- The call leaves this view of the object alone, whether it returns or raises. -/
def Keeps {τ : Type} (call : Call ε σ α) (view : σ → τ) : Prop :=
  ∀ object, view (call.run object).2 = view object

section Keeps

variable {τ : Type} {view : σ → τ}

theorem keeps_pure (value : α) : (pure value : Call ε σ α).Keeps view := fun _ => rfl

theorem keeps_raise (exception : ε) : (raise exception : Call ε σ α).Keeps view := fun _ => rfl

theorem keeps_read : (read : Call ε σ σ).Keeps view := fun _ => rfl

theorem keeps_modify {change : σ → σ} (same : ∀ object, view (change object) = view object) :
    (modify change : Call ε σ Unit).Keeps view := same

theorem keeps_require (exception : ε) (value : Option α) :
    (require exception value : Call ε σ α).Keeps view := by
  cases value with
  | none => exact keeps_raise exception
  | some value => exact keeps_pure value

theorem keeps_lift (computed : Except ε α) : (lift computed : Call ε σ α).Keeps view := by
  cases computed with
  | error exception => exact keeps_raise exception
  | ok value => exact keeps_pure value

theorem keeps_mapError {call : Call ε σ α} (change : ε → ε) (same : call.Keeps view) :
    (mapError change call).Keeps view := by
  intro object
  have kept := same object
  rw [run_mapError]
  split
  · rename_i result state returned
    rw [returned] at kept
    exact kept
  · rename_i exception state raised
    rw [raised] at kept
    exact kept

theorem keeps_bind {first : Call ε σ α} {next : α → Call ε σ β} (start : first.Keeps view)
    (rest : ∀ value, (next value).Keeps view) : (first >>= next).Keeps view := by
  intro object
  rw [run_bind, ← start object]
  split
  · rename_i value after success
    rw [success]
    exact rest value after
  · rename_i exception after failed
    rw [failed]

theorem keeps_ite {condition : Prop} [Decidable condition] {yes no : Call ε σ α}
    (left : yes.Keeps view) (right : no.Keeps view) :
    (if condition then yes else no).Keeps view := by
  split
  · exact left
  · exact right

end Keeps

/-- The call leaves the invariant true, whether it returns or raises. -/
def Maintains (call : Call ε σ α) (invariant : σ → Prop) : Prop :=
  ∀ object, invariant object → invariant (call.run object).2

section Maintains

variable {invariant : σ → Prop}

theorem Keeps.maintains {τ : Type} {view : σ → τ} {call : Call ε σ α} (keeps : call.Keeps view)
    (property : τ → Prop) : call.Maintains fun object => property (view object) := by
  intro object holds
  rw [keeps object]
  exact holds

theorem maintains_read_bind {next : σ → Call ε σ β}
    (rest : ∀ object, invariant object → invariant ((next object).run object).2) :
    (read >>= next).Maintains invariant := rest

theorem maintains_bind {first : Call ε σ α} {next : α → Call ε σ β}
    (start : first.Maintains invariant) (rest : ∀ value, (next value).Maintains invariant) :
    (first >>= next).Maintains invariant := by
  intro object holds
  have middle := start object holds
  rw [run_bind]
  split
  · rename_i value after success
    rw [success] at middle
    exact rest value after middle
  · rename_i exception after failed
    rw [failed] at middle
    exact middle

theorem maintains_ite {condition : Prop} [Decidable condition] {yes no : Call ε σ α}
    (left : yes.Maintains invariant) (right : no.Maintains invariant) :
    (if condition then yes else no).Maintains invariant := by
  split
  · exact left
  · exact right

theorem maintains_mapError {call : Call ε σ α} (change : ε → ε)
    (same : call.Maintains invariant) : (mapError change call).Maintains invariant := by
  intro object holds
  have after := same object holds
  rw [run_mapError]
  split
  · rename_i value state returned
    rw [returned] at after
    exact after
  · rename_i exception state raised
    rw [raised] at after
    exact after

end Maintains

instance : LawfulMonad (Call ε σ) := LawfulMonad.mk' (Call ε σ)
  (by
    intro α call
    funext object
    show (call >>= fun value => pure value).run object = call.run object
    rw [run_bind]
    cases outcome : call.run object with
    | mk result after => cases result <;> rfl)
  (fun _ _ => rfl)
  (by
    intro α β γ first next last
    funext object
    show (first >>= next >>= last).run object = (first >>= fun value => next value >>= last).run object
    simp only [run_bind]
    cases first.run object with
    | mk result after => cases result <;> rfl)

/-- The call does to the changed object what it does to the object: it neither reads nor writes
what the change is about. -/
def Commutes (call : Call ε σ α) (change : σ → σ) : Prop :=
  ∀ object, call.run (change object) = ((call.run object).1, change (call.run object).2)

section Commutes

variable {change : σ → σ}

theorem commutes_pure (value : α) : (pure value : Call ε σ α).Commutes change := fun _ => rfl

theorem commutes_raise (exception : ε) : (raise exception : Call ε σ α).Commutes change :=
  fun _ => rfl

theorem commutes_modify {write : σ → σ}
    (apart : ∀ object, write (change object) = change (write object)) :
    (modify write : Call ε σ Unit).Commutes change := fun object =>
  congrArg (Prod.mk _) (apart object)

theorem commutes_require (exception : ε) (value : Option α) :
    (require exception value : Call ε σ α).Commutes change := by
  cases value with
  | none => exact commutes_raise exception
  | some value => exact commutes_pure value

theorem commutes_lift (computed : Except ε α) : (lift computed : Call ε σ α).Commutes change := by
  cases computed with
  | error exception => exact commutes_raise exception
  | ok value => exact commutes_pure value

theorem commutes_bind {first : Call ε σ α} {next : α → Call ε σ β}
    (start : first.Commutes change) (rest : ∀ value, (next value).Commutes change) :
    (first >>= next).Commutes change := by
  intro object
  rw [run_bind, run_bind, start object]
  cases outcome : first.run object with
  | mk result after =>
      cases result with
      | error exception => rfl
      | ok value => exact rest value after

theorem commutes_read_bind {next : σ → Call ε σ β}
    (blind : ∀ object, next (change object) = next object)
    (rest : ∀ object, (next object).Commutes change) : (read >>= next).Commutes change := by
  intro object
  rw [run_read_bind, run_read_bind, blind object]
  exact rest object object

theorem commutes_ite {condition : Prop} [Decidable condition] {yes no : Call ε σ α}
    (left : yes.Commutes change) (right : no.Commutes change) :
    (if condition then yes else no).Commutes change := by
  split
  · exact left
  · exact right

end Commutes

end Call

section Except

variable {ε α β : Type}

theorem ok_bind (value : α) (next : α → Except ε β) :
    ((Except.ok value : Except ε α) >>= next) = next value := rfl

/-- What a sequence returned came from a first part that returned. -/
theorem ok_of_bind {first : Except ε α} {next : α → Except ε β} {result : β}
    (success : first >>= next = .ok result) :
    ∃ value, first = .ok value ∧ next value = .ok result := by
  cases first with
  | error raised => cases success
  | ok value => exact ⟨value, rfl, success⟩

end Except

end Py
