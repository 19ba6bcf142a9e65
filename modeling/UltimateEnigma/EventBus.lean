import UltimateEnigma.Machine
import Mathlib.Data.List.Count
import Mathlib.Data.List.Infix
import Mathlib.Logic.Function.Basic

set_option autoImplicit false

namespace UltimateEnigma.EventBus

section Model

/-- Handlers are objects, equal as such where one `is` the other. Two that compare equal have
the same `callable`, as two accesses of one bound method have. -/
structure Handlers (Handler Callable : Type) where
  callable : Handler → Callable
  qualname : Handler → Bool

structure Subscription (Handler : Type) where
  handler : Handler
  threadSafe : Bool
deriving DecidableEq

/-- A `publish` under way: the handler it runs, and what is left of the entries that it copied. -/
structure Delivery (Handler : Type) where
  event : String
  running : Option Handler
  rest : List (Subscription Handler)
deriving DecidableEq

inductive Entry (Handler : Type) where
  | subscribed (event : String) (handler : Handler)
  | unsubscribed (event : String) (handler : Handler)
  | unsubscribedAll (handler : Handler)
  | published (id : Nat) (event : String)
  | invoked (id : Nat) (handler : Handler)
  | returned (id : Nat)
  | escaped (id : Nat)
deriving DecidableEq

/-- The bus, with the publishes under way by the order of their calls, what Tkinter's main loop
has still to run for them, and a log that has its newest entry first. -/
structure Bus (Handler : Type) where
  subscribers : String → List (Subscription Handler)
  root : Bool
  publishes : Nat
  active : Nat → Option (Delivery Handler)
  after : List (Nat × Handler)
  log : List (Entry Handler)

/-- A handler can call the bus while a `publish` runs it, and so can other threads: any call
comes between any two steps of a `publish`. -/
inductive Call (Handler : Type) where
  | subscribe (event : String) (handler : Handler) (threadSafe : Bool)
  | unsubscribe (event : String) (handler : Handler)
  | unsubscribeAll (handler : Handler)
  | publish (event : String)
  | next (id : Nat)
  | settle (id : Nat) (raised : Bool)
  | finish (id : Nat)
  | mainloop
deriving DecidableEq

variable {Handler Callable : Type} [DecidableEq Handler]

namespace Bus

/-- Reading `handler.__qualname__` for the debug line can raise, after the entry was added. -/
def subscribe (bus : Bus Handler) (event : String) (handler : Handler) (threadSafe : Bool) :
    Bus Handler :=
  if (bus.subscribers event).any fun entry => entry.handler = handler then
    { bus with log := .subscribed event handler :: bus.log }
  else
    { bus with
      subscribers := Function.update bus.subscribers event
        (bus.subscribers event ++ [⟨handler, threadSafe⟩])
      log := .subscribed event handler :: bus.log }

/-- The entries that `unsubscribe` leaves of an event. -/
def without (entries : List (Subscription Handler)) (handler : Handler) :
    List (Subscription Handler) :=
  entries.filter fun entry => entry.handler ≠ handler

def unsubscribe (bus : Bus Handler) (event : String) (handler : Handler) : Bus Handler :=
  { bus with
    subscribers :=
      Function.update bus.subscribers event (without (bus.subscribers event) handler)
    log := .unsubscribed event handler :: bus.log }

def unsubscribeAll (bus : Bus Handler) (handler : Handler) : Bus Handler :=
  { bus with
    subscribers := fun event => without (bus.subscribers event) handler
    log := .unsubscribedAll handler :: bus.log }

def publish (bus : Bus Handler) (event : String) : Bus Handler :=
  { bus with
    publishes := bus.publishes + 1
    active := Function.update bus.active bus.publishes
      (some ⟨event, none, bus.subscribers event⟩)
    log := .published bus.publishes event :: bus.log }

/-- One turn of the loop of `publish`, up to where the handler runs. -/
def next (bus : Bus Handler) (id : Nat) (delivery : Delivery Handler)
    (entry : Subscription Handler) (rest : List (Subscription Handler)) : Bus Handler :=
  if entry.threadSafe && bus.root then
    { bus with
      active := Function.update bus.active id (some { delivery with rest })
      after := bus.after ++ [(id, entry.handler)] }
  else
    { bus with
      active := Function.update bus.active id
        (some { delivery with running := some entry.handler, rest })
      log := .invoked id entry.handler :: bus.log }

/-- The handler that `publish` runs returns or raises. Logging the exception reads
`handler.__qualname__`, and what that raises nobody catches. -/
def settle (kind : Handlers Handler Callable) (bus : Bus Handler) (id : Nat)
    (delivery : Delivery Handler) (handler : Handler) (raised : Bool) : Bus Handler :=
  if raised && !kind.qualname handler then
    { bus with
      active := Function.update bus.active id none
      log := .escaped id :: bus.log }
  else
    { bus with active := Function.update bus.active id (some { delivery with running := none }) }

def step? (kind : Handlers Handler Callable) (bus : Bus Handler) :
    Call Handler → Option (Bus Handler)
  | .subscribe event handler threadSafe => some (bus.subscribe event handler threadSafe)
  | .unsubscribe event handler => some (bus.unsubscribe event handler)
  | .unsubscribeAll handler => some (bus.unsubscribeAll handler)
  | .publish event => some (bus.publish event)
  | .next id =>
      match bus.active id with
      | some ⟨event, none, entry :: rest⟩ =>
          some (bus.next id ⟨event, none, entry :: rest⟩ entry rest)
      | _ => none
  | .settle id raised =>
      match bus.active id with
      | some ⟨event, some handler, rest⟩ =>
          some (bus.settle kind id ⟨event, some handler, rest⟩ handler raised)
      | _ => none
  | .finish id =>
      match bus.active id with
      | some ⟨_, none, []⟩ =>
          some { bus with
            active := Function.update bus.active id none
            log := .returned id :: bus.log }
      | _ => none
  | .mainloop =>
      match bus.after with
      | [] => none
      | (id, handler) :: rest =>
          some { bus with after := rest, log := .invoked id handler :: bus.log }

/-- The bus as `__init__` leaves it, and as `set_root` does. -/
def new (root : Bool) : Bus Handler :=
  { subscribers := fun _ => [], root, publishes := 0, active := fun _ => none, after := [],
    log := [] }

end Bus

/-- Any calls of one bus, from any number of threads and from within handlers. -/
def eventBus (kind : Handlers Handler Callable) : Machine (Bus Handler) (Call Handler) where
  start bus := ∃ root, bus = Bus.new root
  enabled bus call := (bus.step? kind call).isSome
  apply bus call := (bus.step? kind call).getD bus

instance (kind : Handlers Handler Callable) (bus : Bus Handler) (call : Call Handler) :
    Decidable ((eventBus kind).enabled bus call) :=
  inferInstanceAs (Decidable ((bus.step? kind call).isSome = true))

/-- Every branch of a step, with what it found. -/
inductive Step (kind : Handlers Handler Callable) (bus : Bus Handler) :
    Call Handler → Bus Handler → Prop where
  | known {event : String} {handler : Handler} {threadSafe : Bool}
      (found : ∃ entry ∈ bus.subscribers event, entry.handler = handler) :
      Step kind bus (.subscribe event handler threadSafe)
        { bus with log := .subscribed event handler :: bus.log }
  | new {event : String} {handler : Handler} {threadSafe : Bool}
      (absent : ∀ entry ∈ bus.subscribers event, entry.handler ≠ handler) :
      Step kind bus (.subscribe event handler threadSafe)
        { bus with
          subscribers := Function.update bus.subscribers event
            (bus.subscribers event ++ [⟨handler, threadSafe⟩])
          log := .subscribed event handler :: bus.log }
  | unsubscribe (event : String) (handler : Handler) :
      Step kind bus (.unsubscribe event handler) (bus.unsubscribe event handler)
  | unsubscribeAll (handler : Handler) :
      Step kind bus (.unsubscribeAll handler) (bus.unsubscribeAll handler)
  | publish (event : String) : Step kind bus (.publish event) (bus.publish event)
  | schedule {id : Nat} {event : String} {entry : Subscription Handler}
      {rest : List (Subscription Handler)} (under : bus.active id = some ⟨event, none, entry :: rest⟩) :
      Step kind bus (.next id)
        { bus with
          active := Function.update bus.active id (some ⟨event, none, rest⟩)
          after := bus.after ++ [(id, entry.handler)] }
  | invoke {id : Nat} {event : String} {entry : Subscription Handler}
      {rest : List (Subscription Handler)} (under : bus.active id = some ⟨event, none, entry :: rest⟩) :
      Step kind bus (.next id)
        { bus with
          active := Function.update bus.active id (some ⟨event, some entry.handler, rest⟩)
          log := .invoked id entry.handler :: bus.log }
  | escape {id : Nat} {event : String} {handler : Handler} {rest : List (Subscription Handler)}
      (under : bus.active id = some ⟨event, some handler, rest⟩)
      (unnamed : kind.qualname handler = false) :
      Step kind bus (.settle id true)
        { bus with
          active := Function.update bus.active id none
          log := .escaped id :: bus.log }
  | settle {id : Nat} {event : String} {handler : Handler} {rest : List (Subscription Handler)}
      {raised : Bool} (under : bus.active id = some ⟨event, some handler, rest⟩) :
      Step kind bus (.settle id raised)
        { bus with active := Function.update bus.active id (some ⟨event, none, rest⟩) }
  | finish {id : Nat} {event : String} (under : bus.active id = some ⟨event, none, []⟩) :
      Step kind bus (.finish id)
        { bus with
          active := Function.update bus.active id none
          log := .returned id :: bus.log }
  | mainloop {id : Nat} {handler : Handler} {rest : List (Nat × Handler)}
      (head : bus.after = (id, handler) :: rest) :
      Step kind bus .mainloop { bus with after := rest, log := .invoked id handler :: bus.log }

variable {kind : Handlers Handler Callable} {bus after : Bus Handler} {call : Call Handler}

theorem Bus.step_cases (stepped : bus.step? kind call = some after) : Step kind bus call after := by
  cases call with
  | subscribe event handler threadSafe =>
      obtain rfl := Option.some.inj stepped
      simp only [Bus.subscribe, List.any_eq_true, decide_eq_true_eq]
      split
      · next found => exact .known found
      · next absent =>
          push Not at absent
          exact .new absent
  | unsubscribe event handler =>
      obtain rfl := Option.some.inj stepped
      exact .unsubscribe event handler
  | unsubscribeAll handler =>
      obtain rfl := Option.some.inj stepped
      exact .unsubscribeAll handler
  | publish event =>
      obtain rfl := Option.some.inj stepped
      exact .publish event
  | next id =>
      simp only [Bus.step?] at stepped
      split at stepped
      · next event entry rest under =>
          obtain rfl := Option.some.inj stepped
          simp only [Bus.next]
          split
          · exact .schedule under
          · exact .invoke under
      · cases stepped
  | settle id raised =>
      simp only [Bus.step?] at stepped
      split at stepped
      · next event handler rest under =>
          obtain rfl := Option.some.inj stepped
          simp only [Bus.settle]
          split
          · next escapes =>
              simp only [Bool.and_eq_true, Bool.not_eq_true'] at escapes
              obtain ⟨rfl, unnamed⟩ := escapes
              exact .escape under unnamed
          · exact .settle under
      · cases stepped
  | finish id =>
      simp only [Bus.step?] at stepped
      split at stepped
      · next event under =>
          obtain rfl := Option.some.inj stepped
          exact .finish under
      · cases stepped
  | mainloop =>
      simp only [Bus.step?] at stepped
      split at stepped
      · cases stepped
      · next id handler rest head =>
          obtain rfl := Option.some.inj stepped
          exact .mainloop head

theorem step_of_enabled (enabled : (eventBus kind).enabled bus call) :
    Step kind bus call ((eventBus kind).apply bus call) := by
  obtain ⟨after, stepped⟩ := Option.isSome_iff_exists.mp enabled
  simp only [eventBus, stepped, Option.getD_some]
  exact Bus.step_cases stepped

end Model

end UltimateEnigma.EventBus
