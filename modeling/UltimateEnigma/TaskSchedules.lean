import UltimateEnigma.CryptoTaskQueue
import Mathlib.Data.Prod.Lex
import Mathlib.Data.List.Pairwise
import Mathlib.Tactic.Linarith

set_option autoImplicit false

namespace UltimateEnigma.CryptoTaskQueue

section Priorities

variable {config : Config} {state after : Queue} {event : Event}

/-- The priority of a submitted task. -/
def Queue.priority (state : Queue) (id : Nat) : Int := (state.tasks[id]?.map Task.priority).getD 0

/-- `(priority, submission order)` -/
def Queue.rank (state : Queue) (id : Nat) : Int ×ₗ Nat := toLex (state.priority id, id)

/-- Submitted, and nothing has started its function. -/
def Queue.Unstarted (state : Queue) (id : Nat) : Prop :=
  id < state.tasks.length ∧ ∀ time, .started id time ∉ state.log

/-- What has yet to start: what the inner executor's thread has in its queue, and then what
waits for a worker. -/
def Queue.waiting (state : Queue) : List Nat := state.innerQueue ++ state.queue

/-- No task is submitted while a less urgent one has yet to start, and no worker runs a task in
its own thread while one is in the inner executor's queue. -/
def InTurn (state : Queue) : Event → Prop
  | .submit _ priority _ => ∀ id ∈ state.waiting, state.priority id ≤ priority
  | .take =>
      ∀ id ∈ state.queue.head?, ∀ task ∈ state.tasks[id]?,
        enforced task.effectiveTimeout = none → state.innerQueue = []
  | _ => True

instance (state : Queue) : DecidablePred (InTurn state)
  | .submit _ _ _ => inferInstanceAs (Decidable (∀ _ ∈ _, _))
  | .take => inferInstanceAs (Decidable (∀ _ ∈ _, ∀ _ ∈ _, _ → _))
  | .shutdown | .finish _ | .innerStart | .innerFinish | .expire _ | .tick _ =>
      inferInstanceAs (Decidable True)

/-- The log only ever grows. -/
theorem Step.log (step : Step config state event after) : state.log <:+ after.log := by
  cases step with
  | submit func priority timeout => exact List.suffix_refl _
  | shutdown => exact List.suffix_refl _
  | takeDirect head room found free =>
      exact (List.suffix_cons _ _).trans (List.suffix_cons _ _)
  | takeTimed head room found timed =>
      exact (List.suffix_cons _ _).trans (List.suffix_cons _ _)
  | finish found running elapsed => exact (List.suffix_cons _ _).trans (List.suffix_cons _ _)
  | innerStart idle head => exact List.suffix_cons _ _
  | deliver running found elapsed waits =>
      exact (List.suffix_cons _ _).trans (List.suffix_cons _ _)
  | abandon running found elapsed left => exact List.suffix_cons _ _
  | expire found waits passed => exact List.suffix_cons _ _
  | tick later allowed => exact List.suffix_refl _

/-- What a step does to what has yet to start: nothing, or a task is submitted and comes last, or
a function starts, which was the first where that is in turn. -/
theorem Step.waiting_cases (step : Step config state event after) :
    (after.waiting = state.waiting ∧ after.tasks = state.tasks ∧
      ∀ id time, .started id time ∈ after.log → .started id time ∈ state.log) ∨
    (∃ func priority timeout, event = .submit func priority timeout ∧
      after = state.submit config func priority timeout) ∨
    ∃ first id second, state.waiting = first ++ id :: second ∧ after.waiting = first ++ second ∧
      after.tasks = state.tasks ∧ (InTurn state event → first = []) ∧
      (∃ time, .started id time ∈ after.log) ∧
      ∀ other time, .started other time ∈ after.log →
        .started other time ∈ state.log ∨ other = id := by
  cases step with
  | submit func priority timeout => exact .inr (.inl ⟨func, priority, timeout, rfl, rfl⟩)
  | shutdown => exact .inl ⟨rfl, rfl, fun _ _ => id⟩
  | @takeDirect id rest task head room found free =>
      refine .inr (.inr ⟨state.innerQueue, id, rest, ?_, rfl, rfl, ?_, ⟨_, List.mem_cons_self⟩, ?_⟩)
      · rw [Queue.waiting, head]
      · intro inTurn
        refine inTurn id ?_ task found free
        rw [head]
        rfl
      · intro other time member
        simp only [List.mem_cons, reduceCtorEq, false_or, Entry.started.injEq] at member
        exact member.symm.imp_right And.left
  | @takeTimed id rest task limit head room found timed =>
      -- handing a task over moves it from one queue to the end of the other
      refine .inl ⟨?_, rfl, fun other time member => ?_⟩
      · simp only [Queue.waiting, head, List.append_assoc, List.singleton_append]
      · simpa only [List.mem_cons, reduceCtorEq, false_or] using member
  | finish found running elapsed =>
      refine .inl ⟨rfl, rfl, fun other time member => ?_⟩
      simpa only [Queue.complete, List.mem_cons, reduceCtorEq, false_or] using member
  | @innerStart id rest idle head =>
      refine .inr (.inr ⟨[], id, rest ++ state.queue, ?_, rfl, rfl, fun _ => rfl,
        ⟨_, List.mem_cons_self⟩, ?_⟩)
      · rw [Queue.waiting, head, List.nil_append, List.cons_append]
      · intro other time member
        simp only [List.mem_cons, Entry.started.injEq] at member
        exact member.symm.imp_right And.left
  | deliver running found elapsed waits =>
      refine .inl ⟨rfl, rfl, fun other time member => ?_⟩
      simpa only [Queue.complete, List.mem_cons, reduceCtorEq, false_or] using member
  | abandon running found elapsed left =>
      refine .inl ⟨rfl, rfl, fun other time member => ?_⟩
      simpa only [List.mem_cons, reduceCtorEq, false_or] using member
  | expire found waits passed =>
      refine .inl ⟨rfl, rfl, fun other time member => ?_⟩
      simpa only [Queue.complete, List.mem_cons, reduceCtorEq, false_or] using member
  | tick later allowed => exact .inl ⟨rfl, rfl, fun _ _ => id⟩

theorem Step.tasks (step : Step config state event after) {id : Nat} {task : Task}
    (known : state.tasks[id]? = some task) : after.tasks[id]? = some task := by
  obtain ⟨-, same, -⟩ | ⟨func, priority, timeout, rfl, rfl⟩ | ⟨_, _, _, -, -, same, -⟩ :=
    step.waiting_cases
  · rw [same]
    exact known
  · have bound := (List.getElem?_eq_some_iff.mp known).1
    simp only [Queue.submit, List.getElem?_append_left bound, known]
  · rw [same]
    exact known

theorem waiting_submit (config : Config) (func : Func) (priority : Int) (timeout : Option Rat) :
    (state.submit config func priority timeout).waiting = state.waiting ++ [state.tasks.length] :=
  (List.append_assoc _ _ _).symm

/-- What has yet to start stands in order of submission. -/
structure Fifo (state : Queue) : Prop where
  ordered : state.waiting.Pairwise (· < ·)
  submitted : ∀ id ∈ state.waiting, id < state.tasks.length
  unstarted : ∀ id, state.Unstarted id → id ∈ state.waiting

theorem Fifo.kept (fifo : Fifo state) (waiting : after.waiting = state.waiting)
    (tasks : after.tasks = state.tasks) (log : state.log <:+ after.log) : Fifo after := by
  refine ⟨waiting ▸ fifo.ordered, ?_, ?_⟩
  · rw [waiting, tasks]
    exact fifo.submitted
  · intro id unstarted
    rw [waiting]
    exact fifo.unstarted id ⟨tasks ▸ unstarted.1, fun time old => unstarted.2 time (log.mem old)⟩

/-- A function starts, and its task is taken out of what has yet to start. -/
theorem Fifo.started (fifo : Fifo state) {id : Nat} {time : Rat} {first second : List Nat}
    (waiting : state.waiting = first ++ id :: second) (left : after.waiting = first ++ second)
    (tasks : after.tasks = state.tasks) (log : state.log <:+ after.log)
    (started : .started id time ∈ after.log) : Fifo after := by
  have fewer : after.waiting.Sublist state.waiting := by
    rw [waiting, left]
    exact (List.Sublist.refl first).append (List.sublist_cons_self id second)
  refine ⟨fifo.ordered.sublist fewer, ?_, ?_⟩
  · intro other member
    rw [tasks]
    exact fifo.submitted other (fewer.mem member)
  · intro other unstarted
    have member : other ∈ state.waiting :=
      fifo.unstarted other ⟨tasks ▸ unstarted.1, fun at' old => unstarted.2 at' (log.mem old)⟩
    have apart : other ≠ id := by
      intro same
      exact unstarted.2 time (same ▸ started)
    rw [waiting, List.mem_append, List.mem_cons] at member
    rw [left, List.mem_append]
    exact member.imp_right (Or.resolve_left · apart)

theorem Fifo.submit (fifo : Fifo state) (config : Config) (func : Func) (priority : Int)
    (timeout : Option Rat) : Fifo (state.submit config func priority timeout) := by
  refine ⟨?_, ?_, ?_⟩
  · rw [waiting_submit]
    refine List.pairwise_append.mpr ⟨fifo.ordered, List.pairwise_singleton _ _, ?_⟩
    intro first member last isLast
    rw [List.mem_singleton.mp isLast]
    exact fifo.submitted first member
  · intro id member
    rw [waiting_submit, List.mem_append, List.mem_singleton] at member
    simp only [Queue.submit, List.length_append, List.length_singleton]
    obtain old | rfl := member
    · exact Nat.lt_succ_of_lt (fifo.submitted id old)
    · exact Nat.lt_succ_self _
  · intro id unstarted
    simp only [Queue.submit, Queue.Unstarted, List.length_append,
      List.length_singleton] at unstarted
    rw [waiting_submit, List.mem_append, List.mem_singleton]
    by_cases old : id < state.tasks.length
    · exact .inl (fifo.unstarted id ⟨old, unstarted.2⟩)
    · exact .inr (by omega)

theorem Fifo.step (fifo : Fifo state) (step : Step config state event after) : Fifo after := by
  obtain ⟨waiting, tasks, -⟩ | ⟨func, priority, timeout, rfl, rfl⟩ |
    ⟨first, id, second, waiting, left, tasks, -, ⟨time, started⟩, -⟩ := step.waiting_cases
  · exact fifo.kept waiting tasks step.log
  · exact fifo.submit config func priority timeout
  · exact fifo.started waiting left tasks step.log started

theorem Fifo.of_reachable {allowed : Queue → Event → Prop}
    (reachable : (taskQueue config).Reachable allowed state) : Fifo state := by
  refine reachable.invariant _ Fifo ?_ ?_
  · rintro state rfl
    exact ⟨.nil, fun id member => (List.not_mem_nil member).elim,
      fun id unstarted => (Nat.not_lt_zero _ unstarted.1).elim⟩
  · intro state event before fifo enabled permitted
    exact fifo.step (step_of_enabled enabled)

theorem Step.priority (step : Step config state event after) {id : Nat}
    (bound : id < state.tasks.length) : after.priority id = state.priority id := by
  have found := List.getElem?_eq_getElem bound
  simp only [Queue.priority, found, step.tasks found]

/-- What has yet to start stands in the order of the priorities. -/
def Sorted (state : Queue) : Prop :=
  state.waiting.Pairwise fun first second => state.priority first ≤ state.priority second

theorem Sorted.step (sorted : Sorted state) (fifo : Fifo state)
    (step : Step config state event after) (allowed : InTurn state event) : Sorted after := by
  have same {id : Nat} (member : id ∈ state.waiting) : after.priority id = state.priority id :=
    step.priority (fifo.submitted id member)
  have kept : state.waiting.Pairwise fun first second =>
      after.priority first ≤ after.priority second := by
    refine List.Pairwise.imp_of_mem ?_ sorted
    intro first second first_mem second_mem below
    rw [same first_mem, same second_mem]
    exact below
  obtain ⟨waiting, -⟩ | ⟨func, priority, timeout, rfl, rfl⟩ |
    ⟨first, id, second, waiting, left, -⟩ := step.waiting_cases
  · rw [Sorted, waiting]
    exact kept
  · rw [Sorted, waiting_submit]
    refine List.pairwise_append.mpr ⟨kept, List.pairwise_singleton _ _, ?_⟩
    intro id member last isLast
    have new : (state.submit config func priority timeout).priority state.tasks.length =
        priority := by
      simp only [Queue.priority, Queue.submit, List.getElem?_concat_length, Option.map_some,
        Option.getD_some]
    rw [List.mem_singleton.mp isLast, same member, new]
    exact allowed id member
  · rw [waiting] at kept
    rw [Sorted, left]
    exact kept.sublist ((List.Sublist.refl first).append (List.sublist_cons_self id second))

theorem Sorted.of_reachable (reachable : (taskQueue config).Reachable InTurn state) :
    Sorted state := by
  refine reachable.invariant _ Sorted ?_ ?_
  · rintro state rfl
    exact .nil
  · intro state event before sorted enabled permitted
    exact sorted.step (.of_reachable before) (step_of_enabled enabled) permitted

/-- Whatever starts in its turn was the first of what had yet to start. -/
theorem Step.started (step : Step config state event after) (allowed : InTurn state event)
    {id : Nat} {time : Rat} (new : .started id time ∈ after.log)
    (old : .started id time ∉ state.log) : ∃ rest, state.waiting = id :: rest := by
  obtain ⟨-, -, earlier⟩ | ⟨func, priority, timeout, rfl, rfl⟩ |
    ⟨first, next, second, waiting, -, -, inTurn, -, only⟩ := step.waiting_cases
  · exact absurd (earlier id time new) old
  · exact absurd new old
  · obtain rfl := (only id time new).resolve_left old
    rw [inTurn allowed] at waiting
    exact ⟨second, waiting⟩

/-- Whatever task a worker or the inner executor's thread starts in this step has the smallest
`(priority, submission order)` of all that are submitted and not yet started. -/
def StartsMostUrgent (config : Config) (state : Queue) (event : Event) : Prop :=
  ∀ id time, .started id time ∈ ((taskQueue config).apply state event).log →
    .started id time ∉ state.log →
    ∀ other, state.Unstarted other → state.rank id ≤ state.rank other

theorem workers_start_most_urgent {config : Config} {state : Queue} {event : Event}
    (reachable : (taskQueue config).Reachable InTurn state)
    (enabled : (taskQueue config).enabled state event) (inTurn : InTurn state event) :
    StartsMostUrgent config state event := by
  intro id time new old other unstarted
  have fifo : Fifo state := .of_reachable reachable
  have sorted : Sorted state := .of_reachable reachable
  obtain ⟨rest, head⟩ := (step_of_enabled enabled).started inTurn new old
  have member := fifo.unstarted other unstarted
  rw [head, List.mem_cons] at member
  obtain rfl | behind := member
  · exact le_refl _
  · have ordered := fifo.ordered
    simp only [Sorted] at sorted
    rw [head] at ordered sorted
    have before := (List.pairwise_cons.mp ordered).1 other behind
    have noLess := (List.pairwise_cons.mp sorted).1 other behind
    simp only [Queue.rank, Prod.Lex.toLex_le_toLex]
    omega

/-- One worker and no default timeout. -/
def oneWorker : Config := ⟨1, none, Nat.one_pos⟩

/-- A function that returns after `runtime` seconds. -/
def Func.lasting (runtime : NNRat) : Func :=
  ⟨true, some runtime, .returns, fun _ known => Option.some.inj known ▸ runtime.2⟩

/-- The only worker is busy while a maintenance task and then an authentication are
submitted. -/
def criticalAfterLow : List (Queue → Event) :=
  [fun _ => .submit (.lasting 1) TaskPriority.normal.value none, fun _ => .take,
    fun _ => .submit (.lasting 1) TaskPriority.low.value none,
    fun _ => .submit (.lasting 1) TaskPriority.critical.value none,
    fun _ => .tick 1, fun _ => .finish 0]

theorem priorities_are_ignored : ¬ ∀ config state event,
    (taskQueue config).Reachable (fun _ _ => True) state →
      (taskQueue config).enabled state event → StartsMostUrgent config state event := by
  intro claim
  have reachable : (taskQueue oneWorker).Reachable (fun _ _ => True)
      ((taskQueue oneWorker).run .new criticalAfterLow) :=
    Machine.Reachable.run (.start rfl) (by decide +kernel)
  have log : ((taskQueue oneWorker).run .new criticalAfterLow).log =
      [.completed 0 .result, .finished 0 1, .started 0 0, .taken 0] := by decide +kernel
  have unstarted : ((taskQueue oneWorker).run .new criticalAfterLow).Unstarted 2 := by
    refine ⟨by decide +kernel, ?_⟩
    intro time
    simp [log]
  have least := claim oneWorker _ .take reachable (by decide +kernel) 1 1 (by decide +kernel)
    (by decide +kernel) 2 unstarted
  exact absurd least (by decide +kernel)

/-- Two tasks with the tests' timeout and a less urgent one without: the worker hands the first
one over, and the inner executor's thread has yet to start it. -/
def criticalHandedOver : List (Queue → Event) :=
  [fun _ => .submit (.lasting 1) TaskPriority.critical.value (some 10),
    fun _ => .submit (.lasting 1) TaskPriority.high.value (some 10),
    fun _ => .submit (.lasting 1) TaskPriority.low.value none, fun _ => .take]

theorem workers_start_most_urgent_handed : StartsMostUrgent oneWorker
    ((taskQueue oneWorker).run .new criticalHandedOver) .innerStart :=
  workers_start_most_urgent (Machine.Reachable.run (.start rfl) (by decide +kernel))
    (by decide +kernel) (by decide +kernel)

end Priorities

section Timeouts

variable {config : Config} {state after : Queue} {event : Event}

/-- The task was handed to the inner executor while others with a timeout were there. -/
def behindOthers (log : List Entry) (id : Nat) : Prop :=
  ∃ ahead, .handedOver id ahead ∈ log ∧ ahead ≠ []

/-- The task's future completed with `CryptoTimeoutError`, and `before` is the log up to then. -/
def TimedOut (log : List Entry) (id : Nat) (before : List Entry) : Prop :=
  .completed id .cryptoTimeoutError :: before <:+ log

/-- No function starts after its task was reported as timed out before it had started. -/
def NoLateStart (log : List Entry) : Prop :=
  ∀ id before, TimedOut log id before → (∀ time, .started id time ∉ before) →
    ∀ time, .started id time ∉ log

/-- A task that was behind others is not reported as timed out while its function has yet to
end, where that function takes no longer than the task's timeout. -/
def NoForeignTimeout (state : Queue) : Prop :=
  ∀ id before task limit runtime, TimedOut state.log id before → behindOthers before id →
    state.tasks[id]? = some task → enforced task.effectiveTimeout = some limit →
    task.func.runtime = some runtime → runtime ≤ limit → ∃ time, .finished id time ∈ before

/-- A wait ends without a result only where the function is running, and where the task was
behind others only after the function has run for longer than the task's timeout. -/
def OverrunsOnly (state : Queue) : Event → Prop
  | .expire id =>
      ∃ since, state.innerWorker = some (id, since) ∧
        (behindOthers state.log id → ∀ task limit, state.tasks[id]? = some task →
          enforced task.effectiveTimeout = some limit → limit < state.now - since)
  | _ => True

theorem timedOut_cons {entry : Entry} {log : List Entry} {id : Nat} {before : List Entry} :
    TimedOut (entry :: log) id before ↔
      (entry = .completed id .cryptoTimeoutError ∧ before = log) ∨ TimedOut log id before := by
  rw [TimedOut, List.suffix_cons_iff, List.cons.injEq, eq_comm (a := entry)]
  rfl

theorem Func.direct_ne (func : Func) : func.direct ≠ .cryptoTimeoutError := by
  unfold Func.direct
  split <;> decide

/-- Only an ended wait and a delivered `TimeoutError` complete a future with
`CryptoTimeoutError`. -/
theorem Step.timedOut (step : Step config state event after) {id : Nat} {before : List Entry}
    (reported : TimedOut after.log id before) :
    TimedOut state.log id before ∨
      (event = .expire id ∧ before = state.log ∧ ∃ task, state.tasks[id]? = some task) ∨
      (∃ since time task, state.innerWorker = some (id, since) ∧
        before = .finished id time :: state.log ∧ state.tasks[id]? = some task) := by
  cases step with
  | submit func priority timeout => exact .inl reported
  | shutdown => exact .inl reported
  | takeDirect head room found free =>
      simp only [timedOut_cons, reduceCtorEq, false_and, false_or] at reported
      exact .inl reported
  | takeTimed head room found timed =>
      simp only [timedOut_cons, reduceCtorEq, false_and, false_or] at reported
      exact .inl reported
  | @finish own since task found running elapsed =>
      simp only [Queue.complete, timedOut_cons, reduceCtorEq, false_and, false_or,
        Entry.completed.injEq, task.func.direct_ne, and_false] at reported
      exact .inl reported
  | innerStart idle head =>
      simp only [timedOut_cons, reduceCtorEq, false_and, false_or] at reported
      exact .inl reported
  | @deliver own since deadline task running found elapsed waits =>
      simp only [Queue.complete, timedOut_cons, reduceCtorEq, false_and, false_or,
        Entry.completed.injEq, Activity.id] at reported
      obtain ⟨⟨rfl, -⟩, rfl⟩ | old := reported
      · exact .inr (.inr ⟨since, state.now, task, running, rfl, found⟩)
      · exact .inl old
  | abandon running found elapsed left =>
      simp only [timedOut_cons, reduceCtorEq, false_and, false_or] at reported
      exact .inl reported
  | @expire own deadline task found waits passed =>
      simp only [Queue.complete, timedOut_cons, Entry.completed.injEq, Activity.id] at reported
      obtain ⟨⟨rfl, -⟩, rfl⟩ | old := reported
      · exact .inr (.inl ⟨rfl, rfl, task, found⟩)
      · exact .inl old
  | tick later allowed => exact .inl reported

/-- What the inner executor holds are submitted tasks, and the function it runs has run for no
longer than it takes. -/
structure Inner (state : Queue) : Prop where
  waiting : ∀ id ∈ state.innerQueue, ∃ task, state.tasks[id]? = some task
  running : ∀ id since, state.innerWorker = some (id, since) →
    .started id since ∈ state.log ∧ ∃ task, state.tasks[id]? = some task ∧
      ∀ runtime, task.func.runtime = some runtime → state.now ≤ since + runtime

theorem Queue.inTime {time : Rat} {id : Nat} {since runtime : Rat} {task : Task}
    (allowed : state.mayPass time) (running : state.innerWorker = some (id, since))
    (found : state.tasks[id]? = some task) (known : task.func.runtime = some runtime) :
    time ≤ since + runtime := by
  simp only [Queue.mayPass, running, Bool.and_eq_true, Option.all_some, found, known,
    decide_eq_true_eq] at allowed
  exact allowed.2

theorem Inner.step (inner : Inner state) (step : Step config state event after) : Inner after := by
  obtain ⟨waiting, running⟩ := inner
  have queued (id : Nat) (member : id ∈ state.innerQueue) :
      ∃ task, after.tasks[id]? = some task := by
    obtain ⟨task, found⟩ := waiting id member
    exact ⟨task, step.tasks found⟩
  -- what a step leaves alone of the inner executor goes on running
  have kept (same : after.innerWorker = state.innerWorker) (now : after.now = state.now)
      (id : Nat) (since : Rat) (worker : after.innerWorker = some (id, since)) :
      .started id since ∈ after.log ∧ ∃ task, after.tasks[id]? = some task ∧
        ∀ runtime, task.func.runtime = some runtime → after.now ≤ since + runtime := by
    rw [same] at worker
    obtain ⟨started, task, found, inTime⟩ := running id since worker
    rw [now]
    exact ⟨step.log.mem started, task, step.tasks found, inTime⟩
  cases step with
  | submit func priority timeout => exact ⟨queued, kept rfl rfl⟩
  | shutdown => exact ⟨queued, kept rfl rfl⟩
  | takeDirect head room found free => exact ⟨queued, kept rfl rfl⟩
  | takeTimed head room found timed =>
      refine ⟨?_, kept rfl rfl⟩
      intro id member
      obtain old | new := List.mem_append.mp member
      · exact queued id old
      · rw [List.mem_singleton.mp new]
        exact ⟨_, found⟩
  | finish found running elapsed => exact ⟨queued, kept rfl rfl⟩
  | innerStart idle head =>
      refine ⟨fun id member => queued id (head ▸ List.mem_cons_of_mem _ member), ?_⟩
      intro id since worker
      obtain ⟨rfl, rfl⟩ := Prod.mk.inj (Option.some.inj worker)
      obtain ⟨task, found⟩ := waiting _ (head ▸ List.mem_cons_self)
      refine ⟨List.mem_cons_self, task, found, ?_⟩
      intro runtime known
      exact le_add_of_nonneg_right (task.func.nonneg runtime known)
  | deliver running found elapsed waits => exact ⟨queued, fun _ _ worker => nomatch worker⟩
  | abandon running found elapsed left => exact ⟨queued, fun _ _ worker => nomatch worker⟩
  | expire found waits passed => exact ⟨queued, kept rfl rfl⟩
  | tick later allowed =>
      refine ⟨queued, ?_⟩
      intro id since worker
      obtain ⟨started, task, found, -⟩ := running id since worker
      exact ⟨started, task, found, fun runtime => Queue.inTime allowed worker found⟩

theorem Inner.of_reachable {allowed : Queue → Event → Prop}
    (reachable : (taskQueue config).Reachable allowed state) : Inner state := by
  refine reachable.invariant _ Inner ?_ ?_
  · rintro state rfl
    exact ⟨fun id member => (List.not_mem_nil member).elim, fun _ _ worker => nomatch worker⟩
  · intro state event before inner enabled permitted
    exact inner.step (step_of_enabled enabled)

/-- What is true of every report of a timeout, in a run whose waits end without a result only
where the function overruns. -/
structure Accounted (state : Queue) (id : Nat) (before : List Entry) : Prop where
  started : ∃ time, .started id time ∈ before
  overrun : ∃ task, state.tasks[id]? = some task ∧
    ((∃ time, .finished id time ∈ before) ∨
      (behindOthers before id → ∀ limit runtime, enforced task.effectiveTimeout = some limit →
        task.func.runtime = some runtime → limit < runtime))

theorem Accounted.step {id : Nat} {before : List Entry}
    (accounted : ∀ id before, TimedOut state.log id before → Accounted state id before)
    (inner : Inner state) (step : Step config state event after)
    (allowed : OverrunsOnly state event) (reported : TimedOut after.log id before) :
    Accounted after id before := by
  obtain old | ⟨rfl, rfl, task, found⟩ | ⟨since, time, task, worker, rfl, found⟩ :=
    step.timedOut reported
  · obtain ⟨started, task, found, overrun⟩ := accounted id before old
    exact ⟨started, task, step.tasks found, overrun⟩
  · obtain ⟨since, worker, longer⟩ := allowed
    obtain ⟨started, task', found', inTime⟩ := inner.running id since worker
    obtain rfl := Option.some.inj (found.symm.trans found')
    refine ⟨⟨since, started⟩, task, step.tasks found, .inr ?_⟩
    intro behind limit runtime timed known
    have more := longer behind task limit found timed
    have most := inTime runtime known
    linarith
  · obtain ⟨started, -⟩ := inner.running id since worker
    exact ⟨⟨since, List.mem_cons_of_mem _ started⟩, task, step.tasks found,
      .inl ⟨time, List.mem_cons_self⟩⟩

theorem Accounted.of_reachable (reachable : (taskQueue config).Reachable OverrunsOnly state)
    {id : Nat} {before : List Entry} (reported : TimedOut state.log id before) :
    Accounted state id before := by
  have every : ∀ id before, TimedOut state.log id before → Accounted state id before := by
    refine reachable.invariant _ (fun state =>
      ∀ id before, TimedOut state.log id before → Accounted state id before) ?_ ?_
    · rintro state rfl id before reported
      exact (List.cons_ne_nil _ _ (List.suffix_nil.mp reported)).elim
    · intro state event earlier accounted enabled permitted id before reported
      exact Accounted.step accounted (.of_reachable earlier) (step_of_enabled enabled) permitted
        reported
  exact every id before reported

theorem timeouts_are_own {config : Config} {state : Queue}
    (reachable : (taskQueue config).Reachable OverrunsOnly state) :
    NoLateStart state.log ∧ NoForeignTimeout state := by
  constructor
  · intro id before reported unstarted
    obtain ⟨⟨time, started⟩, -⟩ := Accounted.of_reachable reachable reported
    exact (unstarted time started).elim
  · intro id before task limit runtime reported behind found timed known within
    obtain ⟨-, task', found', finished | longer⟩ := Accounted.of_reachable reachable reported
    · exact finished
    · obtain rfl := Option.some.inj (found.symm.trans found')
      exact absurd (longer behind limit runtime timed known) (not_lt.mpr within)

/-- The default timeout is that of the tests. -/
def twoWorkers : Config := ⟨2, some 10, Nat.two_pos⟩

/-- A task of five seconds, and one of one second with a timeout of two. -/
def shortBehindLong : List (Queue → Event) :=
  [fun _ => .submit (.lasting 5) TaskPriority.normal.value none,
    fun _ => .submit (.lasting 1) TaskPriority.normal.value (some 2),
    fun _ => .take, fun _ => .take, fun _ => .innerStart, fun _ => .tick 2, fun _ => .expire 1,
    fun _ => .tick 5, fun _ => .innerFinish, fun _ => .innerStart]

/-- What the log of that run holds when the second task is reported as timed out. -/
def shortReported : List Entry :=
  [.started 0 0, .handedOver 1 [0], .taken 1, .handedOver 0 [], .taken 0]

theorem timed_out_task_starts_later : ∃ config state,
    (taskQueue config).Reachable (fun _ _ => True) state ∧
      ¬ NoLateStart state.log ∧ ¬ NoForeignTimeout state := by
  have reported : TimedOut ((taskQueue twoWorkers).run .new shortBehindLong).log 1 shortReported :=
    List.isSuffixOf_iff_suffix.mp (by decide +kernel)
  refine ⟨twoWorkers, (taskQueue twoWorkers).run .new shortBehindLong,
    Machine.Reachable.run (.start rfl) (by decide +kernel), ?_, ?_⟩
  · intro noLateStart
    refine noLateStart 1 shortReported reported ?_ 5 (by decide +kernel)
    simp [shortReported]
  · intro noForeignTimeout
    have within : (1 : Rat) ≤ 2 := by decide +kernel
    obtain ⟨time, finished⟩ := noForeignTimeout 1 shortReported
      ⟨.lasting 1, TaskPriority.normal.value, some 2⟩ 2 1 reported
      ⟨[0], by decide, by decide⟩ (by decide +kernel) (by decide +kernel) (by decide +kernel) within
    simp [shortReported] at finished

/-- A task of five seconds with a timeout of two, on its own. -/
def overrunning : List (Queue → Event) :=
  [fun _ => .submit (.lasting 5) TaskPriority.normal.value (some 2), fun _ => .take,
    fun _ => .innerStart, fun _ => .tick 2, fun _ => .expire 0]

theorem timeouts_are_own_overrunning :
    NoLateStart ((taskQueue twoWorkers).run .new overrunning).log ∧
      NoForeignTimeout ((taskQueue twoWorkers).run .new overrunning) := by
  have reachable : (taskQueue twoWorkers).Reachable OverrunsOnly
      ((taskQueue twoWorkers).run .new overrunning) := by
    refine Machine.Reachable.run (.start rfl) ⟨by decide +kernel, trivial, by decide +kernel,
      trivial, by decide +kernel, trivial, by decide +kernel, trivial, by decide +kernel,
      ⟨0, by decide +kernel, ?_⟩, trivial⟩
    rintro ⟨ahead, handed, nonempty⟩
    have empty : ahead = [] := by
      have log : ((taskQueue twoWorkers).run .new (overrunning.take 4)).log =
          [.started 0 0, .handedOver 0 [], .taken 0] := by decide +kernel
      have member : .handedOver 0 ahead ∈
          ((taskQueue twoWorkers).run .new (overrunning.take 4)).log := handed
      rw [log] at member
      simpa using member
    exact (nonempty empty).elim
  exact timeouts_are_own reachable

end Timeouts

end UltimateEnigma.CryptoTaskQueue
