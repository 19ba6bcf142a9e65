import UltimateEnigma.Py.Call

set_option autoImplicit false

namespace Py.Call

variable {ε σ α β : Type}

/-- Started where `before` holds, the call returns with `after` or raises with `raised`. -/
def Ensures (call : Call ε σ α) (before : σ → Prop) (after : α → σ → Prop) (raised : σ → Prop) :
    Prop :=
  ∀ object, before object →
    match call.run object with
    | (.ok value, changed) => after value changed
    | (.error _, changed) => raised changed

section Ensures

variable {before : σ → Prop} {after : α → σ → Prop} {raised : σ → Prop}

theorem Ensures.ok {call : Call ε σ α} (ensures : call.Ensures before after raised)
    {object changed : σ} {value : α} (holds : before object)
    (returned : call.run object = (.ok value, changed)) : after value changed := by
  have ensured := ensures object holds
  rw [returned] at ensured
  exact ensured

theorem Ensures.error {call : Call ε σ α} (ensures : call.Ensures before after raised)
    {object changed : σ} {exception : ε} (holds : before object)
    (failed : call.run object = (.error exception, changed)) : raised changed := by
  have ensured := ensures object holds
  rw [failed] at ensured
  exact ensured

theorem ensures_pure {value : α} (holds : ∀ object, before object → after value object) :
    (pure value : Call ε σ α).Ensures before after raised := holds

theorem ensures_raise {exception : ε} (holds : ∀ object, before object → raised object) :
    (raise exception : Call ε σ α).Ensures before after raised := holds

theorem ensures_modify {change : σ → σ} {after : Unit → σ → Prop}
    (holds : ∀ object, before object → after () (change object)) :
    (modify change : Call ε σ Unit).Ensures before after raised := holds

theorem ensures_require {exception : ε} {value : Option α}
    (present : ∀ found, value = some found → ∀ object, before object → after found object)
    (missing : ∀ object, before object → raised object) :
    (require exception value : Call ε σ α).Ensures before after raised := by
  cases value with
  | none => exact missing
  | some found => exact present found rfl

theorem ensures_bind {first : Call ε σ α} {next : α → Call ε σ β} (middle : α → σ → Prop)
    {last : β → σ → Prop} (start : first.Ensures before middle raised)
    (rest : ∀ value, (next value).Ensures (middle value) last raised) :
    (first >>= next).Ensures before last raised := by
  intro object holds
  rw [run_bind]
  cases outcome : first.run object with
  | mk result changed =>
      cases result with
      | ok value => exact rest value changed (start.ok holds outcome)
      | error exception => exact start.error holds outcome

/-- The object that was read is the one the rest starts from. -/
theorem ensures_read_bind {next : σ → Call ε σ β} {last : β → σ → Prop}
    (rest : ∀ object, before object → (next object).Ensures (· = object) last raised) :
    (read >>= next).Ensures before last raised := by
  intro object holds
  exact rest object holds object rfl

theorem Ensures.weaken {call : Call ε σ α} {before' : σ → Prop} {after' : α → σ → Prop}
    {raised' : σ → Prop} (ensures : call.Ensures before after raised)
    (stronger : ∀ object, before' object → before object)
    (weaker : ∀ value object, after value object → after' value object)
    (weakerRaised : ∀ object, raised object → raised' object) :
    call.Ensures before' after' raised' := by
  intro object holds
  cases outcome : call.run object with
  | mk result changed =>
      cases result with
      | ok value => exact weaker value changed (ensures.ok (stronger object holds) outcome)
      | error exception =>
          exact weakerRaised changed (ensures.error (stronger object holds) outcome)

/-- A view that the call keeps may be carried along. -/
theorem Ensures.keeping {call : Call ε σ α} {τ : Type} {view : σ → τ}
    (ensures : call.Ensures before after raised) (keeps : call.Keeps view)
    (property : τ → Prop) :
    call.Ensures (fun object => before object ∧ property (view object))
      (fun value object => after value object ∧ property (view object))
      (fun object => raised object ∧ property (view object)) := by
  intro object holds
  have kept := keeps object
  cases outcome : call.run object with
  | mk result changed =>
      rw [outcome] at kept
      have property' : property (view changed) := kept ▸ holds.2
      cases result with
      | ok value => exact ⟨ensures.ok holds.1 outcome, property'⟩
      | error exception => exact ⟨ensures.error holds.1 outcome, property'⟩

end Ensures

end Py.Call
