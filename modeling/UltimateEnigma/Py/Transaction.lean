import UltimateEnigma.Py.Faults

set_option autoImplicit false

namespace Py

namespace Call

section TryExcept

variable {ε σ α : Type}

/-- `try: … except …`: an exception that is caught gives no value, and what was done stays. -/
def tryExcept (caught : ε → Bool) (call : Call ε σ α) : Call ε σ (Option α) := fun object =>
  match call.run object with
  | (.ok value, after) => (.ok (some value), after)
  | (.error raised, after) => if caught raised then (.ok none, after) else (.error raised, after)

/-- `except` clauses that run in the state that the exception left. -/
def handle (handler : ε → Call ε σ α) (call : Call ε σ α) : Call ε σ α := fun object =>
  match call.run object with
  | (.ok value, after) => (.ok value, after)
  | (.error raised, after) => (handler raised).run after

theorem run_tryExcept (caught : ε → Bool) (call : Call ε σ α) (object : σ) :
    (tryExcept caught call).run object =
      match call.run object with
      | (.ok value, after) => (.ok (some value), after)
      | (.error raised, after) =>
          if caught raised then (.ok none, after) else (.error raised, after) := rfl

theorem run_handle (handler : ε → Call ε σ α) (call : Call ε σ α) (object : σ) :
    (handle handler call).run object =
      match call.run object with
      | (.ok value, after) => (.ok value, after)
      | (.error raised, after) => (handler raised).run after := rfl

theorem run_handle_of_ok {handler : ε → Call ε σ α} {call : Call ε σ α} {object after : σ}
    {value : α} (ran : call.run object = (.ok value, after)) :
    (handle handler call).run object = (.ok value, after) := by
  rw [run_handle, ran]

theorem run_handle_of_error {handler : ε → Call ε σ α} {call : Call ε σ α} {object after : σ}
    {raised : ε} (ran : call.run object = (.error raised, after)) :
    (handle handler call).run object = (handler raised).run after := by
  rw [run_handle, ran]

theorem tryExcept_cases {caught : ε → Bool} {call : Call ε σ α} {object after : σ}
    {result : Option α} (ran : (tryExcept caught call).run object = (.ok result, after)) :
    (∃ value, result = some value ∧ call.run object = (.ok value, after)) ∨
      ∃ raised, result = none ∧ call.run object = (.error raised, after) := by
  rw [run_tryExcept] at ran
  cases ended : call.run object with
  | mk outcome last =>
      rw [ended] at ran
      cases outcome with
      | ok value =>
          cases ran
          exact .inl ⟨value, rfl, rfl⟩
      | error raised =>
          dsimp only at ran
          split at ran <;> cases ran
          exact .inr ⟨raised, rfl, rfl⟩

theorem keeps_tryExcept {τ : Type} {view : σ → τ} {caught : ε → Bool} {call : Call ε σ α}
    (keeps : call.Keeps view) : (tryExcept caught call).Keeps view := by
  intro object
  have kept := keeps object
  rw [run_tryExcept]
  cases ended : call.run object with
  | mk outcome after =>
      rw [ended] at kept
      cases outcome with
      | ok value => exact kept
      | error raised =>
          dsimp only
          split <;> exact kept

end TryExcept

end Call

/-- Where a call on a database can fail from outside. -/
inductive Point where
  | read
  | decryption
  | encryption
  | statement
deriving DecidableEq, Repr

/-- A connection with a transaction: the object in memory, the rows that are committed, the rows
as the connection sees them, and how many points were passed. -/
structure Transaction (σ Rows : Type) where
  memory : σ
  committed : Rows
  working : Rows
  passed : Nat

namespace Transaction

variable {ε σ Rows α : Type}

/-- A new connection sees what is committed. -/
def opened (memory : σ) (rows : Rows) : Transaction σ Rows := ⟨memory, rows, rows, 0⟩

/-- What is left when the connection is closed: other connections see committed rows only. -/
def outside (transaction : Transaction σ Rows) : σ × Rows :=
  (transaction.memory, transaction.committed)

variable (faults : Point → Nat → Option ε)

/-- A point at which the schedule may raise any exception. -/
def reach (point : Point) : Call ε (Transaction σ Rows) Unit := do
  let transaction ← Call.read
  Call.modify fun transaction => { transaction with passed := transaction.passed + 1 }
  match faults point transaction.passed with
  | some raised => Call.raise raised
  | none => return ()

/-- `conn.execute("SELECT …").fetchone()`. -/
def query (reading : Rows → α) : Call ε (Transaction σ Rows) α := do
  reach faults .read
  let transaction ← Call.read
  return reading transaction.working

/-- `conn.execute` of a statement that writes. -/
def execute (statement : Rows → Rows) : Call ε (Transaction σ Rows) Unit := do
  reach faults .statement
  Call.modify fun transaction => { transaction with working := statement transaction.working }

/-- A computation with a point in front of it. -/
def compute (point : Point) (computed : Except ε α) : Call ε (Transaction σ Rows) α := do
  reach faults point
  Call.lift computed

/-- `conn.commit()`. -/
def commit : Call ε (Transaction σ Rows) Unit := do
  reach faults .statement
  Call.modify fun transaction => { transaction with committed := transaction.working }

/-- `conn.rollback()`. -/
def rollback : Call ε (Transaction σ Rows) Unit := do
  reach faults .statement
  Call.modify fun transaction => { transaction with working := transaction.committed }

def assign (change : σ → σ) : Call ε (Transaction σ Rows) Unit :=
  Call.modify fun transaction => { transaction with memory := change transaction.memory }

variable {faults}

section Views

variable {τ : Type} {view : Transaction σ Rows → τ}

/-- A view that does not count the points. -/
def Uncounted (view : Transaction σ Rows → τ) : Prop :=
  ∀ transaction passed, view { transaction with passed := passed } = view transaction

theorem keeps_reach (uncounted : Uncounted view) (point : Point) :
    (reach faults point).Keeps view := by
  refine Call.keeps_bind Call.keeps_read fun transaction => Call.keeps_bind
    (Call.keeps_modify fun _ => uncounted _ _) fun _ => ?_
  cases faults point transaction.passed with
  | none => exact Call.keeps_pure ()
  | some raised => exact Call.keeps_raise raised

theorem keeps_query (uncounted : Uncounted view) (reading : Rows → α) :
    (query faults reading).Keeps view :=
  Call.keeps_bind (keeps_reach uncounted .read) fun _ =>
    Call.keeps_bind Call.keeps_read fun _ => Call.keeps_pure _

theorem keeps_compute (uncounted : Uncounted view) (point : Point) (computed : Except ε α) :
    (compute faults point computed).Keeps view :=
  Call.keeps_bind (keeps_reach uncounted point) fun _ => Call.keeps_lift computed

theorem uncounted_outside : Uncounted (outside : Transaction σ Rows → σ × Rows) := fun _ _ => rfl

theorem uncounted_working : Uncounted (working : Transaction σ Rows → Rows) := fun _ _ => rfl

theorem keeps_execute (statement : Rows → Rows) :
    (execute faults statement).Keeps (outside : Transaction σ Rows → σ × Rows) :=
  Call.keeps_bind (keeps_reach uncounted_outside .statement) fun _ =>
    Call.keeps_modify fun _ => rfl

theorem keeps_rollback :
    (rollback faults).Keeps (outside : Transaction σ Rows → σ × Rows) :=
  Call.keeps_bind (keeps_reach uncounted_outside .statement) fun _ =>
    Call.keeps_modify fun _ => rfl

end Views

/-- What a point leaves that was passed. -/
theorem ok_of_reach {point : Point} {before after : Transaction σ Rows}
    (ran : (reach faults point).run before = (.ok (), after)) :
    after = { before with passed := before.passed + 1 } := by
  rw [reach, Call.run_read_bind, Call.run_modify_bind] at ran
  cases scheduled : faults point before.passed with
  | none =>
      rw [scheduled] at ran
      cases ran
      rfl
  | some raised =>
      rw [scheduled] at ran
      cases ran

theorem ok_of_query {reading : Rows → α} {before after : Transaction σ Rows} {result : α}
    (ran : (query faults reading).run before = (.ok result, after)) :
    result = reading before.working ∧
      after = { before with passed := before.passed + 1 } := by
  obtain ⟨_, middle, reached, rest⟩ := Call.ok_of_run_bind ran
  rw [ok_of_reach reached] at rest
  cases rest
  exact ⟨rfl, rfl⟩

theorem ok_of_execute {statement : Rows → Rows} {before after : Transaction σ Rows}
    (ran : (execute faults statement).run before = (.ok (), after)) :
    after.working = statement before.working := by
  obtain ⟨_, middle, reached, rest⟩ := Call.ok_of_run_bind ran
  rw [ok_of_reach reached] at rest
  cases rest
  rfl

theorem ok_of_compute {point : Point} {computed : Except ε α} {before after : Transaction σ Rows}
    {result : α} (ran : (compute faults point computed).run before = (.ok result, after)) :
    computed = .ok result ∧ after.working = before.working := by
  obtain ⟨_, middle, reached, rest⟩ := Call.ok_of_run_bind ran
  obtain ⟨computed_ok, same⟩ := Call.ok_of_run_lift rest
  rw [same, ok_of_reach reached]
  exact ⟨computed_ok, rfl⟩

/-- A statement that fails writes nothing. -/
theorem error_of_execute {statement : Rows → Rows} {before after : Transaction σ Rows} {raised : ε}
    (ran : (execute faults statement).run before = (.error raised, after)) :
    after.working = before.working := by
  obtain failed | ⟨_, middle, _, rest⟩ := Call.error_of_run_bind ran
  · have kept : ((reach faults .statement).run before).2.working = before.working :=
      keeps_reach uncounted_working .statement before
    rwa [failed] at kept
  · cases rest

/-- Preparations that leave the outside alone, then a commit and what is assigned behind it: the
call either leaves the outside as it was or has done both. -/
theorem atomic_of_prepares {prepare : Call ε (Transaction σ Rows) α} {change : α → σ → σ}
    (keeps : prepare.Keeps outside) {handler : ε → Call ε (Transaction σ Rows) Bool}
    (handles : ∀ raised, (handler raised).Keeps outside)
    (fails : ∀ raised before, ∃ other after, (handler raised).run before = (.error other, after))
    (before : Transaction σ Rows) :
    (∃ raised after, (Call.handle handler (prepare >>= fun prepared => commit faults >>= fun _ =>
        assign (change prepared) >>= fun _ => pure true)).run before = (.error raised, after) ∧
      after.outside = before.outside) ∨
    ∃ prepared middle after, prepare.run before = (.ok prepared, middle) ∧
      (Call.handle handler (prepare >>= fun prepared => commit faults >>= fun _ =>
        assign (change prepared) >>= fun _ => pure true)).run before = (.ok true, after) ∧
      after.outside = (change prepared before.memory, middle.working) := by
  have kept := keeps before
  have failing (raised : ε) (last : Transaction σ Rows)
      (ran : (prepare >>= fun prepared => commit faults >>= fun _ =>
        assign (change prepared) >>= fun _ => pure true).run before = (.error raised, last))
      (same : last.outside = before.outside) :
      ∃ raised after, (Call.handle handler (prepare >>= fun prepared => commit faults >>= fun _ =>
        assign (change prepared) >>= fun _ => pure true)).run before = (.error raised, after) ∧
        after.outside = before.outside := by
    obtain ⟨other, after, handled⟩ := fails raised last
    refine ⟨other, after, (Call.run_handle_of_error ran).trans handled, ?_⟩
    have left := handles raised last
    rw [handled] at left
    exact left.trans same
  cases prepared_eq : prepare.run before with
  | mk outcome middle =>
      rw [prepared_eq] at kept
      cases outcome with
      | error raised => exact .inl (failing raised middle (Call.run_bind_of_error prepared_eq _) kept)
      | ok prepared =>
          cases reached : (reach faults .statement).run middle with
          | mk result after =>
              have passes : ((reach faults .statement).run middle).2.outside = middle.outside :=
                keeps_reach uncounted_outside .statement middle
              rw [reached] at passes
              cases result with
              | error raised =>
                  refine .inl (failing raised after ?_ (passes.trans kept))
                  rw [Call.run_bind_of_ok prepared_eq]
                  exact Call.run_bind_of_error (Call.run_bind_of_error reached _) _
              | ok _ =>
                  cases ok_of_reach reached
                  refine .inr ⟨prepared, middle, ⟨change prepared middle.memory, middle.working,
                    middle.working, middle.passed + 1⟩, rfl, Call.run_handle_of_ok ?_, ?_⟩
                  · rw [Call.run_bind_of_ok prepared_eq, commit, bind_assoc,
                      Call.run_bind_of_ok reached]
                    rfl
                  · have memory := congrArg Prod.fst kept
                    exact congrArg (fun memory => (change prepared memory, middle.working)) memory

end Transaction

end Py
