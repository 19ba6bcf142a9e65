import UltimateEnigma.Py.Call

set_option autoImplicit false

namespace Py

/-- An object, and what has been done with it, oldest first. -/
structure Logged (κ σ : Type) where
  object : σ
  log : List κ
deriving DecidableEq, Repr

namespace Call

variable {ε κ σ α β : Type}

def note (entry : κ) : Call ε (Logged κ σ) Unit :=
  modify fun logged => { logged with log := logged.log ++ [entry] }

/-- A call on the object, of which nothing is noted. -/
def unlogged (call : Call ε σ α) : Call ε (Logged κ σ) α := fun logged =>
  ((call.run logged.object).1, ⟨(call.run logged.object).2, logged.log⟩)

/-- The logged call does to the object what the plain call does, and notes these entries. -/
def Logs (logged : Call ε (Logged κ σ) α) (plain : Call ε σ α) (entries : σ → List κ) : Prop :=
  ∀ object log, logged.run ⟨object, log⟩ =
    ((plain.run object).1, ⟨(plain.run object).2, log ++ entries object⟩)

/-- What a sequence notes: the second part is not reached when the first one raises. -/
def andThen (entries : List κ) (outcome : Except ε α × σ) (rest : α → σ → List κ) : List κ :=
  match outcome with
  | (.ok value, after) => entries ++ rest value after
  | (.error _, _) => entries

theorem logs_pure (value : α) :
    (pure value : Call ε (Logged κ σ) α).Logs (pure value) fun _ => [] := by
  intro object log
  rw [List.append_nil]
  rfl

theorem logs_raise (exception : ε) :
    (raise exception : Call ε (Logged κ σ) α).Logs (raise exception) fun _ => [] := by
  intro object log
  rw [List.append_nil]
  rfl

theorem logs_bind {first : Call ε (Logged κ σ) α} {next : α → Call ε (Logged κ σ) β}
    {plain : Call ε σ α} {plainNext : α → Call ε σ β} {entries : σ → List κ}
    {rest : α → σ → List κ} (start : first.Logs plain entries)
    (follows : ∀ value, (next value).Logs (plainNext value) (rest value)) :
    (first >>= next).Logs (plain >>= plainNext) fun object =>
      andThen (entries object) (plain.run object) rest := by
  intro object log
  rw [run_bind, run_bind, start object log]
  simp only
  cases plain.run object with
  | mk result after =>
      cases result with
      | error exception => rfl
      | ok value =>
          show (next value).run ⟨after, log ++ entries object⟩ = _
          rw [follows value after, List.append_assoc]
          rfl

/-- Noting something in front of a call. -/
theorem logs_note_bind {next : Unit → Call ε (Logged κ σ) α} {plain : Call ε σ α}
    {entries : σ → List κ} (entry : κ) (follows : ∀ done, (next done).Logs plain entries) :
    (note entry >>= next).Logs plain fun object => entry :: entries object := by
  intro object log
  show (next ()).run ⟨object, log ++ [entry]⟩ = _
  rw [follows () object, List.append_assoc]
  rfl

end Call

end Py
