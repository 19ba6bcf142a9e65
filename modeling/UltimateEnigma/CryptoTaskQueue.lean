import UltimateEnigma.Machine
import Mathlib.Data.Rat.Cast.Order

set_option autoImplicit false

namespace UltimateEnigma.CryptoTaskQueue

/-- `TaskPriority`, an `IntEnum`: `submit` takes any integer. -/
inductive TaskPriority where
  | critical
  | high
  | normal
  | low
deriving DecidableEq, Repr

def TaskPriority.value : TaskPriority → Int
  | .critical => 0
  | .high => 10
  | .normal => 20
  | .low => 30

/-- How a submitted function ends. -/
inductive Outcome where
  | returns
  | raises
  | raisesTimeout
deriving DecidableEq, Repr

/-- A submitted function: whether it has a `__name__`, how long it runs, `none` where it never
returns, and how it ends. -/
structure Func where
  named : Bool
  runtime : Option Rat
  outcome : Outcome
  nonneg : ∀ time ∈ runtime, 0 ≤ time
deriving DecidableEq

structure Task where
  func : Func
  priority : Int
  effectiveTimeout : Option Rat
deriving DecidableEq

/-- What completes the task's future. -/
inductive Report where
  | result
  | error
  | timeoutError
  | cryptoTimeoutError
  | attributeError
deriving DecidableEq, Repr

/-- The function ran in the worker's own thread. -/
def Func.direct (func : Func) : Report :=
  match func.outcome with
  | .returns => .result
  | .raises => .error
  | .raisesTimeout => .timeoutError

/-- The handler of `FuturesTimeoutError`, which reads `func.__name__`. -/
def Func.timedOut (func : Func) : Report :=
  if func.named then .cryptoTimeoutError else .attributeError

/-- The function ran in the inner executor, whose future raises what the function raised:
`FuturesTimeoutError` is the builtin class. -/
def Func.delivered (func : Func) : Report :=
  match func.outcome with
  | .returns => .result
  | .raises => .error
  | .raisesTimeout => func.timedOut

structure Config where
  maxWorkers : Nat
  defaultTimeout : Option Rat
  positive : 0 < maxWorkers

/-- What a worker is busy with: a function in its own thread, or the wait for the inner
executor's future. -/
inductive Activity where
  | running (id : Nat) (since : Rat)
  | waiting (id : Nat) (deadline : Rat)
deriving DecidableEq, Repr

def Activity.id : Activity → Nat
  | .running id _ => id
  | .waiting id _ => id

/-- What happened to a task. `handedOver` names the tasks that the inner executor was running
or held in its queue when the function was submitted to it. -/
inductive Entry where
  | taken (id : Nat)
  | handedOver (id : Nat) (ahead : List Nat)
  | started (id : Nat) (time : Rat)
  | finished (id : Nat) (time : Rat)
  | completed (id : Nat) (report : Report)
deriving DecidableEq, Repr

/-- A queue after `start`. Tasks are known by the order of their submission, `queue` is the
executor's work queue, and the log has its newest entry first. -/
structure Queue where
  isRunning : Bool
  now : Rat
  tasks : List Task
  queue : List Nat
  busy : List Activity
  innerQueue : List Nat
  innerWorker : Option (Nat × Rat)
  log : List Entry

def Queue.new : Queue :=
  { isRunning := true, now := 0, tasks := [], queue := [], busy := [], innerQueue := [],
    innerWorker := none, log := [] }

inductive Event where
  | submit (func : Func) (priority : Int) (timeout : Option Rat)
  | shutdown
  | take
  | finish (id : Nat)
  | innerStart
  | innerFinish
  | expire (id : Nat)
  | tick (time : Rat)
deriving DecidableEq

/-- `timeout is None or timeout <= 0` runs the function without a limit. -/
def enforced (timeout : Option Rat) : Option Rat := timeout.filter fun limit => 0 < limit

namespace Queue

/-- What the inner executor's only thread runs, and then what waits for it. -/
def ahead (state : Queue) : List Nat := (state.innerWorker.map Prod.fst).toList ++ state.innerQueue

def submit (config : Config) (state : Queue) (func : Func) (priority : Int)
    (timeout : Option Rat) : Queue :=
  { state with
    tasks := state.tasks ++ [⟨func, priority, timeout.or config.defaultTimeout⟩]
    queue := state.queue ++ [state.tasks.length] }

/-- The first part of `_execute_with_timeout`, up to where the worker waits. -/
def executeWithTimeout (state : Queue) (id : Nat) (task : Task) : Queue :=
  match enforced task.effectiveTimeout with
  | none =>
      { state with
        busy := .running id state.now :: state.busy
        log := .started id state.now :: state.log }
  | some limit =>
      { state with
        busy := .waiting id (state.now + limit) :: state.busy
        innerQueue := state.innerQueue ++ [id]
        log := .handedOver id state.ahead :: state.log }

/-- `_on_done`, where the worker leaves the task. -/
def complete (state : Queue) (activity : Activity) (report : Report) : Queue :=
  { state with
    busy := state.busy.erase activity
    log := .completed activity.id report :: state.log }

/-- The function's running time is over by now. -/
def elapsed (state : Queue) (task : Task) (since : Rat) : Bool :=
  task.func.runtime = some (state.now - since)

/-- When the task's worker took it, if it runs it in its own thread. -/
def runningSince? (state : Queue) (id : Nat) : Option Rat :=
  state.busy.findSome? fun activity =>
    match activity with
    | .running other since => if other = id then some since else none
    | .waiting _ _ => none

/-- Until when the task's worker waits, if it does. -/
def deadline? (state : Queue) (id : Nat) : Option Rat :=
  state.busy.findSome? fun activity =>
    match activity with
    | .running _ _ => none
    | .waiting other deadline => if other = id then some deadline else none

/-- No function that is running would be over before `time`. -/
def mayPass (state : Queue) (time : Rat) : Bool :=
  let inTime (id : Nat) (since : Rat) : Bool :=
    match state.tasks[id]? with
    | none => true
    | some task => task.func.runtime.all fun runtime => time ≤ since + runtime
  (state.busy.all fun activity =>
    match activity with
    | .running id since => inTime id since
    | .waiting _ _ => true) &&
  state.innerWorker.all fun running => inTime running.1 running.2

/-- One step of the queue. A worker takes a task and starts its function, or hands it over, in one
step. The inner executor's thread takes its functions in order, a result that is there goes to the
worker that waits for it, and nothing cancels a function whose worker has stopped waiting. -/
def step? (config : Config) (state : Queue) : Event → Option Queue
  | .submit func priority timeout =>
      if state.isRunning then some (state.submit config func priority timeout) else none
  | .shutdown => if state.isRunning then some { state with isRunning := false } else none
  | .take =>
      match state.queue with
      | [] => none
      | id :: rest =>
          if state.busy.length < config.maxWorkers then
            state.tasks[id]?.map fun task =>
              { state with queue := rest, log := .taken id :: state.log }.executeWithTimeout id task
          else none
  | .finish id =>
      match state.tasks[id]?, state.runningSince? id with
      | some task, some since =>
          if state.elapsed task since then
            some ({ state with log := .finished id state.now :: state.log }.complete
              (.running id since) task.func.direct)
          else none
      | _, _ => none
  | .innerStart =>
      match state.innerWorker, state.innerQueue with
      | none, id :: rest =>
          some { state with
            innerQueue := rest
            innerWorker := some (id, state.now)
            log := .started id state.now :: state.log }
      | _, _ => none
  | .innerFinish =>
      match state.innerWorker with
      | none => none
      | some (id, since) =>
          state.tasks[id]?.bind fun task =>
            if state.elapsed task since then
              let ended :=
                { state with innerWorker := none, log := .finished id state.now :: state.log }
              match state.deadline? id with
              | some deadline => some (ended.complete (.waiting id deadline) task.func.delivered)
              | none => some ended
            else none
  | .expire id =>
      match state.tasks[id]?, state.deadline? id with
      | some task, some deadline =>
          if deadline ≤ state.now then
            some (state.complete (.waiting id deadline) task.func.timedOut)
          else none
      | _, _ => none
  | .tick time =>
      if state.now < time ∧ state.mayPass time then some { state with now := time } else none

end Queue

/-- A queue with its executors, from `start` on. -/
def taskQueue (config : Config) : Machine Queue Event where
  start state := state = Queue.new
  enabled state event := (state.step? config event).isSome
  apply state event := (state.step? config event).getD state

instance (config : Config) (state : Queue) (event : Event) :
    Decidable ((taskQueue config).enabled state event) :=
  inferInstanceAs (Decidable ((state.step? config event).isSome = true))

section Steps

variable {config : Config} {state after : Queue}

theorem Queue.running_of_since {id : Nat} {since : Rat}
    (found : state.runningSince? id = some since) : .running id since ∈ state.busy := by
  obtain ⟨activity, member, matched⟩ := List.exists_of_findSome?_eq_some found
  cases activity with
  | running other time =>
      by_cases same : other = id
      · simp only [same, if_true, Option.some.injEq] at matched
        rw [← same, ← matched] at *
        exact member
      · simp only [same, if_false] at matched
        cases matched
  | waiting other deadline => cases matched

theorem Queue.waiting_of_deadline {id : Nat} {deadline : Rat}
    (found : state.deadline? id = some deadline) : .waiting id deadline ∈ state.busy := by
  obtain ⟨activity, member, matched⟩ := List.exists_of_findSome?_eq_some found
  cases activity with
  | running other time => cases matched
  | waiting other time =>
      by_cases same : other = id
      · simp only [same, if_true, Option.some.injEq] at matched
        rw [← same, ← matched] at *
        exact member
      · simp only [same, if_false] at matched
        cases matched

/-- Every branch of a step, with what it found. -/
inductive Step (config : Config) (state : Queue) : Event → Queue → Prop where
  | submit (func : Func) (priority : Int) (timeout : Option Rat) :
      Step config state (.submit func priority timeout) (state.submit config func priority timeout)
  | shutdown : Step config state .shutdown { state with isRunning := false }
  | takeDirect {id : Nat} {rest : List Nat} {task : Task} (head : state.queue = id :: rest)
      (room : state.busy.length < config.maxWorkers) (found : state.tasks[id]? = some task)
      (free : enforced task.effectiveTimeout = none) :
      Step config state .take
        { state with
          queue := rest
          busy := .running id state.now :: state.busy
          log := .started id state.now :: .taken id :: state.log }
  | takeTimed {id : Nat} {rest : List Nat} {task : Task} {limit : Rat}
      (head : state.queue = id :: rest) (room : state.busy.length < config.maxWorkers)
      (found : state.tasks[id]? = some task)
      (timed : enforced task.effectiveTimeout = some limit) :
      Step config state .take
        { state with
          queue := rest
          busy := .waiting id (state.now + limit) :: state.busy
          innerQueue := state.innerQueue ++ [id]
          log := .handedOver id state.ahead :: .taken id :: state.log }
  | finish {id : Nat} {since : Rat} {task : Task} (found : state.tasks[id]? = some task)
      (running : .running id since ∈ state.busy) (elapsed : state.elapsed task since) :
      Step config state (.finish id)
        ({ state with log := .finished id state.now :: state.log }.complete (.running id since)
          task.func.direct)
  | innerStart {id : Nat} {rest : List Nat} (idle : state.innerWorker = none)
      (head : state.innerQueue = id :: rest) :
      Step config state .innerStart
        { state with
          innerQueue := rest
          innerWorker := some (id, state.now)
          log := .started id state.now :: state.log }
  | deliver {id : Nat} {since deadline : Rat} {task : Task}
      (running : state.innerWorker = some (id, since)) (found : state.tasks[id]? = some task)
      (elapsed : state.elapsed task since) (waits : .waiting id deadline ∈ state.busy) :
      Step config state .innerFinish
        ({ state with innerWorker := none, log := .finished id state.now :: state.log }.complete
          (.waiting id deadline) task.func.delivered)
  | abandon {id : Nat} {since : Rat} {task : Task} (running : state.innerWorker = some (id, since))
      (found : state.tasks[id]? = some task) (elapsed : state.elapsed task since)
      (left : state.deadline? id = none) :
      Step config state .innerFinish
        { state with innerWorker := none, log := .finished id state.now :: state.log }
  | expire {id : Nat} {deadline : Rat} {task : Task} (found : state.tasks[id]? = some task)
      (waits : .waiting id deadline ∈ state.busy) (passed : deadline ≤ state.now) :
      Step config state (.expire id) (state.complete (.waiting id deadline) task.func.timedOut)
  | tick {time : Rat} (later : state.now < time) (allowed : state.mayPass time) :
      Step config state (.tick time) { state with now := time }

theorem Queue.step_cases {event : Event} (stepped : state.step? config event = some after) :
    Step config state event after := by
  cases event with
  | submit func priority timeout =>
      simp only [Queue.step?, Option.ite_none_right_eq_some, Option.some.injEq] at stepped
      obtain ⟨-, rfl⟩ := stepped
      exact .submit func priority timeout
  | shutdown =>
      simp only [Queue.step?, Option.ite_none_right_eq_some, Option.some.injEq] at stepped
      obtain ⟨-, rfl⟩ := stepped
      exact .shutdown
  | take =>
      simp only [Queue.step?] at stepped
      split at stepped
      · cases stepped
      · next id rest head =>
          simp only [Option.ite_none_right_eq_some, Option.map_eq_some_iff] at stepped
          obtain ⟨room, task, found, rfl⟩ := stepped
          cases limit : enforced task.effectiveTimeout with
          | none =>
              simp only [Queue.executeWithTimeout, limit]
              exact .takeDirect head room found limit
          | some limit' =>
              simp only [Queue.executeWithTimeout, limit]
              exact .takeTimed head room found limit
  | finish id =>
      simp only [Queue.step?] at stepped
      split at stepped
      · next task since found running =>
          simp only [Option.ite_none_right_eq_some, Option.some.injEq] at stepped
          obtain ⟨elapsed, rfl⟩ := stepped
          exact .finish found (Queue.running_of_since running) elapsed
      · cases stepped
  | innerStart =>
      simp only [Queue.step?] at stepped
      split at stepped
      · next id rest idle head =>
          obtain rfl := Option.some.inj stepped
          exact .innerStart idle head
      · cases stepped
  | innerFinish =>
      simp only [Queue.step?] at stepped
      split at stepped
      · cases stepped
      · next id since running =>
          obtain ⟨task, found, ended⟩ := Option.bind_eq_some_iff.mp stepped
          simp only [Option.ite_none_right_eq_some] at ended
          obtain ⟨elapsed, ended⟩ := ended
          split at ended
          · next deadline waits =>
              obtain rfl := Option.some.inj ended
              exact .deliver running found elapsed (Queue.waiting_of_deadline waits)
          · next left =>
              obtain rfl := Option.some.inj ended
              exact .abandon running found elapsed left
  | expire id =>
      simp only [Queue.step?] at stepped
      split at stepped
      · next task deadline found waits =>
          simp only [Option.ite_none_right_eq_some, Option.some.injEq] at stepped
          obtain ⟨passed, rfl⟩ := stepped
          exact .expire found (Queue.waiting_of_deadline waits) passed
      · cases stepped
  | tick time =>
      simp only [Queue.step?, Option.ite_none_right_eq_some, Option.some.injEq] at stepped
      obtain ⟨⟨later, allowed⟩, rfl⟩ := stepped
      exact .tick later allowed

theorem step_of_enabled {event : Event} (enabled : (taskQueue config).enabled state event) :
    Step config state event ((taskQueue config).apply state event) := by
  obtain ⟨after, stepped⟩ := Option.isSome_iff_exists.mp enabled
  simp only [taskQueue, stepped, Option.getD_some]
  exact Queue.step_cases stepped

end Steps

end UltimateEnigma.CryptoTaskQueue
