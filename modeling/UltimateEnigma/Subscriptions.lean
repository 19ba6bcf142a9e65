import UltimateEnigma.EventBus
import Mathlib.Data.List.Nodup

set_option autoImplicit false

namespace UltimateEnigma.EventBus

section Sets

variable {Handler Callable : Type} [DecidableEq Callable] (kind : Handlers Handler Callable)

/-- Whether the calls so far leave a handler that compares equal subscribed to the event. -/
def subscribedIn : List (Entry Handler) → String → Callable → Bool
  | [], _, _ => false
  | .subscribed event handler :: log, name, callable =>
      (event = name && kind.callable handler = callable) || subscribedIn log name callable
  | .unsubscribed event handler :: log, name, callable =>
      !(event = name && kind.callable handler = callable) && subscribedIn log name callable
  | .unsubscribedAll handler :: log, name, callable =>
      !(kind.callable handler = callable) && subscribedIn log name callable
  | .published _ _ :: log, name, callable => subscribedIn log name callable
  | .invoked _ _ :: log, name, callable => subscribedIn log name callable
  | .returned _ :: log, name, callable => subscribedIn log name callable
  | .escaped _ :: log, name, callable => subscribedIn log name callable

def Entry.invokes (id : Nat) (callable : Callable) : Entry Handler → Bool
  | .invoked other handler => other = id && kind.callable handler = callable
  | _ => false

/-- How often a publish has invoked a handler. -/
def invocations (log : List (Entry Handler)) (id : Nat) (callable : Callable) : Nat :=
  log.countP (Entry.invokes kind id callable)

/-- The subscriptions of every event act as a set of handlers up to equality. -/
structure ActsAsSet (bus : Bus Handler) : Prop where
  /-- A publish that has returned, and of which the main loop has nothing left to run, has
  invoked every handler that was subscribed when it was called once, and no other. -/
  once : ∀ id event before callable, .published id event :: before <:+ bus.log →
    .returned id ∈ bus.log → (∀ waiting ∈ bus.after, waiting.1 ≠ id) →
    invocations kind bus.log id callable = if subscribedIn kind before event callable then 1 else 0
  /-- Every handler is subscribed when it is invoked. -/
  subscribed : ∀ id handler before, .invoked id handler :: before <:+ bus.log →
    ∃ event, .published id event ∈ before ∧ subscribedIn kind before event (kind.callable handler)
  contained : ∀ id, .escaped id ∉ bus.log

/-- Every subscribed handler that compares equal is the very same object. -/
def Bus.Identical (bus : Bus Handler) (event : String) (handler : Handler) : Prop :=
  ∀ entry ∈ bus.subscribers event,
    kind.callable entry.handler = kind.callable handler → entry.handler = handler

/-- No publish of the event has the handler still to run. -/
def Bus.Settled (bus : Bus Handler) (event : String) (handler : Handler) : Prop :=
  (∀ id delivery, bus.active id = some delivery → delivery.event = event →
    ∀ entry ∈ delivery.rest, kind.callable entry.handler ≠ kind.callable handler) ∧
  ∀ waiting ∈ bus.after, .published waiting.1 event ∈ bus.log →
    kind.callable waiting.2 ≠ kind.callable handler

/-- What the bus relies on: a handler is always passed as the same object, nobody removes one
that a publish has still to run, and what raises has a `__qualname__`. -/
def Careful (bus : Bus Handler) : Call Handler → Prop
  | .subscribe event handler _ => bus.Identical kind event handler
  | .unsubscribe event handler => bus.Identical kind event handler ∧ bus.Settled kind event handler
  | .unsubscribeAll handler =>
      ∀ event, bus.Identical kind event handler ∧ bus.Settled kind event handler
  | .settle id raised =>
      raised = true → ∀ delivery handler, bus.active id = some delivery →
        delivery.running = some handler → kind.qualname handler = true
  | .publish _ | .next _ | .finish _ | .mainloop => True

end Sets

section Registry

variable {Handler Callable : Type} [DecidableEq Handler] [DecidableEq Callable]
variable {kind : Handlers Handler Callable} {bus after : Bus Handler} {call : Call Handler}

theorem without_of_identical {event : String} {handler : Handler}
    (identical : bus.Identical kind event handler) :
    Bus.without (bus.subscribers event) handler =
      (bus.subscribers event).filter fun entry =>
        kind.callable entry.handler ≠ kind.callable handler := by
  refine List.filter_congr fun entry member => ?_
  simp only [decide_eq_decide]
  constructor
  · exact fun apart same => apart (identical entry member same)
  · exact fun apart same => apart (congrArg kind.callable same)

/-- The registry holds every subscribed handler once. -/
structure Registered (kind : Handlers Handler Callable) (bus : Bus Handler) : Prop where
  nodup : ∀ event, ((bus.subscribers event).map fun entry => kind.callable entry.handler).Nodup
  mem : ∀ event callable, subscribedIn kind bus.log event callable = true ↔
    ∃ entry ∈ bus.subscribers event, kind.callable entry.handler = callable

theorem Registered.removed {event : String} {handler : Handler} (registered : Registered kind bus)
    (identical : bus.Identical kind event handler) :
    ((Bus.without (bus.subscribers event) handler).map fun entry =>
        kind.callable entry.handler).Nodup ∧
      ∀ callable, (!decide (kind.callable handler = callable) &&
          subscribedIn kind bus.log event callable) = true ↔
        ∃ entry ∈ Bus.without (bus.subscribers event) handler,
          kind.callable entry.handler = callable := by
  rw [without_of_identical identical]
  constructor
  · exact (registered.nodup event).sublist (List.filter_sublist.map _)
  · intro callable
    simp only [Bool.and_eq_true, Bool.not_eq_true', decide_eq_false_iff_not, registered.mem,
      List.mem_filter, decide_eq_true_eq]
    constructor
    · rintro ⟨apart, entry, member, rfl⟩
      exact ⟨entry, ⟨member, fun same => apart same.symm⟩, rfl⟩
    · rintro ⟨entry, ⟨member, apart⟩, rfl⟩
      exact ⟨fun same => apart same.symm, entry, member, rfl⟩

theorem Registered.step (registered : Registered kind bus) (step : Step kind bus call after)
    (careful : Careful kind bus call) : Registered kind after := by
  cases step with
  | @known event handler threadSafe found =>
      refine ⟨registered.nodup, ?_⟩
      intro name callable
      simp only [subscribedIn, Bool.or_eq_true, Bool.and_eq_true, decide_eq_true_eq,
        registered.mem]
      constructor
      · rintro (⟨rfl, rfl⟩ | old)
        · obtain ⟨entry, member, same⟩ := found
          exact ⟨entry, member, congrArg kind.callable same⟩
        · exact old
      · exact .inr
  | @new event handler threadSafe absent =>
      constructor
      · intro name
        by_cases same : name = event
        · subst same
          simp only [Function.update_self, List.map_append, List.map_cons, List.map_nil]
          refine List.nodup_append.mpr ⟨registered.nodup name, List.nodup_singleton _, ?_⟩
          intro callable member other isNew equal
          obtain ⟨entry, entry_mem, rfl⟩ := List.mem_map.mp member
          rw [List.mem_singleton.mp isNew] at equal
          exact absent entry entry_mem (careful entry entry_mem equal)
        · simp only [Function.update_of_ne same]
          exact registered.nodup name
      · intro name callable
        simp only [subscribedIn, Bool.or_eq_true, Bool.and_eq_true, decide_eq_true_eq,
          registered.mem]
        by_cases same : name = event
        · subst same
          simp only [Function.update_self, true_and, List.mem_append, List.mem_singleton]
          constructor
          · rintro (rfl | ⟨entry, member, rfl⟩)
            · exact ⟨_, .inr rfl, rfl⟩
            · exact ⟨entry, .inl member, rfl⟩
          · rintro ⟨entry, member | rfl, rfl⟩
            · exact .inr ⟨entry, member, rfl⟩
            · exact .inl rfl
        · simp only [Function.update_of_ne same, Ne.symm same, false_and, false_or]
  | unsubscribe event handler =>
      have removed := registered.removed careful.1
      constructor
      · intro name
        by_cases same : name = event
        · subst same
          simp only [Bus.unsubscribe, Function.update_self]
          exact removed.1
        · simp only [Bus.unsubscribe, Function.update_of_ne same]
          exact registered.nodup name
      · intro name callable
        by_cases same : name = event
        · subst same
          simp only [Bus.unsubscribe, subscribedIn, Function.update_self, decide_true,
            Bool.true_and]
          exact removed.2 callable
        · simp only [Bus.unsubscribe, subscribedIn, Function.update_of_ne same, Ne.symm same,
            decide_false, Bool.false_and, Bool.not_false, Bool.true_and]
          exact registered.mem name callable
  | unsubscribeAll handler =>
      constructor
      · intro name
        exact (registered.removed (careful name).1).1
      · intro name callable
        exact (registered.removed (careful name).1).2 callable
  | publish event => exact ⟨registered.nodup, registered.mem⟩
  | schedule under => exact ⟨registered.nodup, registered.mem⟩
  | invoke under => exact ⟨registered.nodup, registered.mem⟩
  | escape under unnamed => exact ⟨registered.nodup, registered.mem⟩
  | settle under => exact ⟨registered.nodup, registered.mem⟩
  | finish under => exact ⟨registered.nodup, registered.mem⟩
  | mainloop head => exact ⟨registered.nodup, registered.mem⟩

end Registry

section Deliveries

variable {Handler Callable : Type} [DecidableEq Handler] [DecidableEq Callable]
variable {kind : Handlers Handler Callable} {bus after : Bus Handler} {call : Call Handler}

/-- The publish that an entry of the log is about. -/
def Entry.publish? : Entry Handler → Option Nat
  | .published id _ | .invoked id _ | .returned id | .escaped id => some id
  | .subscribed _ _ | .unsubscribed _ _ | .unsubscribedAll _ => none

omit [DecidableEq Handler] in
theorem mem_of_cons {first entry : Entry Handler} {log : List (Entry Handler)}
    (member : first ∈ entry :: log) (apart : entry ≠ first) : first ∈ log :=
  List.mem_of_ne_of_mem apart.symm member

omit [DecidableEq Handler] in
theorem suffix_of_cons {first entry : Entry Handler} {log before : List (Entry Handler)}
    (found : first :: before <:+ entry :: log) (apart : entry ≠ first) : first :: before <:+ log := by
  obtain new | old := List.suffix_cons_iff.mp found
  · exact (apart (List.cons.inj new).1.symm).elim
  · exact old

/-- Publishes are known by the order of their calls. -/
structure Fresh (bus : Bus Handler) : Prop where
  active : ∀ id delivery, bus.active id = some delivery → id < bus.publishes
  after : ∀ waiting ∈ bus.after, waiting.1 < bus.publishes
  log : ∀ entry ∈ bus.log, ∀ id, entry.publish? = some id → id < bus.publishes
  returned : ∀ id, .returned id ∈ bus.log → bus.active id = none

omit [DecidableEq Callable] in
theorem Fresh.step (fresh : Fresh bus) (step : Step kind bus call after) : Fresh after := by
  obtain ⟨active, waiting, log, returned⟩ := fresh
  have below {id : Nat} {delivery : Delivery Handler} (under : bus.active id = some delivery)
      (next : Option (Delivery Handler)) (other : Nat) (found : Delivery Handler)
      (known : Function.update bus.active id next other = some found) : other < bus.publishes := by
    by_cases same : other = id
    · exact same ▸ active id delivery under
    · rw [Function.update_of_ne same] at known
      exact active other found known
  -- a publish that is under way has not returned
  have ended {id : Nat} {delivery : Delivery Handler} (under : bus.active id = some delivery)
      (next : Option (Delivery Handler)) (other : Nat) (done : .returned other ∈ bus.log) :
      Function.update bus.active id next other = none := by
    have none := returned other done
    have apart : other ≠ id := by
      rintro rfl
      rw [under] at none
      cases none
    exact (Function.update_of_ne apart _ _).trans none
  have logged (entry : Entry Handler) (known : ∀ id, entry.publish? = some id → id < bus.publishes) :
      ∀ other ∈ entry :: bus.log, ∀ id, other.publish? = some id → id < bus.publishes :=
    List.forall_mem_cons.mpr ⟨known, log⟩
  cases step with
  | known found =>
      exact ⟨active, waiting, logged _ nofun,
        fun id done => returned id (mem_of_cons done nofun)⟩
  | new absent =>
      exact ⟨active, waiting, logged _ nofun,
        fun id done => returned id (mem_of_cons done nofun)⟩
  | unsubscribe event handler =>
      exact ⟨active, waiting, logged _ nofun,
        fun id done => returned id (mem_of_cons done nofun)⟩
  | unsubscribeAll handler =>
      exact ⟨active, waiting, logged _ nofun,
        fun id done => returned id (mem_of_cons done nofun)⟩
  | publish event =>
      refine ⟨?_, fun entry member => Nat.lt_succ_of_lt (waiting entry member), ?_, ?_⟩
      · intro id delivery known
        by_cases same : id = bus.publishes
        · exact same ▸ Nat.lt_succ_self _
        · simp only [Bus.publish, Function.update_of_ne same] at known
          exact Nat.lt_succ_of_lt (active id delivery known)
      · refine List.forall_mem_cons.mpr ⟨?_, ?_⟩
        · rintro id ⟨⟩
          exact Nat.lt_succ_self _
        · exact fun entry member id known => Nat.lt_succ_of_lt (log entry member id known)
      · intro id done
        have old : .returned id ∈ bus.log := mem_of_cons done nofun
        have apart : id ≠ bus.publishes := Nat.ne_of_lt (log _ old id rfl)
        simp only [Bus.publish, Function.update_of_ne apart]
        exact returned id old
  | schedule under =>
      refine ⟨below under _, ?_, log, ended under _⟩
      intro entry member
      obtain old | new := List.mem_append.mp member
      · exact waiting entry old
      · rw [List.mem_singleton.mp new]
        exact active _ _ under
  | invoke under =>
      refine ⟨below under _, waiting, logged _ ?_, ?_⟩
      · rintro id ⟨⟩
        exact active _ _ under
      · exact fun id done => ended under _ id (mem_of_cons done nofun)
  | escape under unnamed =>
      refine ⟨below under _, waiting, logged _ ?_, ?_⟩
      · rintro id ⟨⟩
        exact active _ _ under
      · exact fun id done => ended under _ id (mem_of_cons done nofun)
  | settle under => exact ⟨below under _, waiting, log, ended under _⟩
  | @finish own event under =>
      refine ⟨below under _, waiting, logged _ ?_, ?_⟩
      · rintro id ⟨⟩
        exact active _ _ under
      · intro id done
        by_cases same : id = own
        · exact same ▸ Function.update_self _ _ _
        · have other : (.returned id : Entry Handler) ≠ .returned own := by
            simpa only [ne_eq, Entry.returned.injEq] using same
          exact ended under _ id (List.mem_of_ne_of_mem other done)
  | @mainloop own handler rest head =>
      refine ⟨active, ?_, logged _ ?_, ?_⟩
      · exact fun entry member => waiting entry (head ▸ List.mem_cons_of_mem _ member)
      · rintro id ⟨⟩
        exact waiting (own, handler) (head ▸ List.mem_cons_self)
      · exact fun id done => returned id (mem_of_cons done nofun)

/-- What publishes have still to run is subscribed. -/
structure Due (kind : Handlers Handler Callable) (bus : Bus Handler) : Prop where
  active : ∀ id delivery, bus.active id = some delivery → .published id delivery.event ∈ bus.log ∧
    ∀ entry ∈ delivery.rest,
      subscribedIn kind bus.log delivery.event (kind.callable entry.handler) = true
  after : ∀ waiting ∈ bus.after, ∃ event, .published waiting.1 event ∈ bus.log ∧
    subscribedIn kind bus.log event (kind.callable waiting.2) = true

omit [DecidableEq Handler] in
theorem Due.logged (due : Due kind bus) {entry : Entry Handler}
    (keeps : ∀ event callable, subscribedIn kind bus.log event callable = true →
      subscribedIn kind (entry :: bus.log) event callable = true) :
    Due kind { bus with log := entry :: bus.log } := by
  constructor
  · intro id delivery under
    obtain ⟨published, rest⟩ := due.active id delivery under
    exact ⟨List.mem_cons_of_mem _ published, fun entry member => keeps _ _ (rest entry member)⟩
  · intro waiting member
    obtain ⟨event, published, subscribed⟩ := due.after waiting member
    exact ⟨event, List.mem_cons_of_mem _ published, keeps _ _ subscribed⟩

omit [DecidableEq Handler] in
theorem Due.moved (due : Due kind bus) {id : Nat} {next : Option (Delivery Handler)}
    (smaller : ∀ delivery, next = some delivery → ∃ before, bus.active id = some before ∧
      before.event = delivery.event ∧ ∀ entry ∈ delivery.rest, entry ∈ before.rest) :
    Due kind { bus with active := Function.update bus.active id next } := by
  refine ⟨?_, due.after⟩
  intro other delivery known
  by_cases same : other = id
  · subst same
    simp only [Function.update_self] at known
    obtain ⟨before, under, event, rest⟩ := smaller delivery known
    obtain ⟨published, subscribed⟩ := due.active other before under
    rw [← event]
    exact ⟨published, fun entry member => subscribed entry (rest entry member)⟩
  · simp only [Function.update_of_ne same] at known
    exact due.active other delivery known

omit [DecidableEq Handler] in
/-- A removal leaves what is due alone where the publishes have no such handler to run. -/
theorem Due.removed (due : Due kind bus) {handler : Handler} (removes : String → Prop)
    [DecidablePred removes] {entry : Entry Handler}
    (reads : ∀ event callable, subscribedIn kind (entry :: bus.log) event callable =
      (!(decide (removes event) && decide (kind.callable handler = callable)) &&
        subscribedIn kind bus.log event callable))
    (settled : ∀ event, removes event → bus.Settled kind event handler) :
    Due kind { bus with log := entry :: bus.log } := by
  have keeps (event : String) (callable : Callable)
      (apart : removes event → callable ≠ kind.callable handler)
      (subscribed : subscribedIn kind bus.log event callable = true) :
      subscribedIn kind (entry :: bus.log) event callable = true := by
    rw [reads, subscribed, Bool.and_true, Bool.not_eq_true', Bool.and_eq_false_imp,
      decide_eq_true_eq, decide_eq_false_iff_not]
    exact fun removed same => apart removed same.symm
  constructor
  · intro id delivery under
    obtain ⟨published, rest⟩ := due.active id delivery under
    refine ⟨List.mem_cons_of_mem _ published, fun entry member => ?_⟩
    exact keeps _ _ (fun removed => (settled _ removed).1 id delivery under rfl entry member)
      (rest entry member)
  · intro waiting member
    obtain ⟨event, published, subscribed⟩ := due.after waiting member
    refine ⟨event, List.mem_cons_of_mem _ published, ?_⟩
    exact keeps _ _ (fun removed => (settled _ removed).2 waiting member published) subscribed

theorem Due.step (due : Due kind bus) (registered : Registered kind bus)
    (step : Step kind bus call after) (careful : Careful kind bus call) : Due kind after := by
  have subscribes (event : String) (handler : Handler) :
      Due kind { bus with log := .subscribed event handler :: bus.log } := by
    refine due.logged fun name callable subscribed => ?_
    simp only [subscribedIn, subscribed, Bool.or_true]
  cases step with
  | known found =>
      obtain ⟨active, waiting⟩ := subscribes _ _
      exact ⟨active, waiting⟩
  | new absent =>
      obtain ⟨active, waiting⟩ := subscribes _ _
      exact ⟨active, waiting⟩
  | unsubscribe event handler =>
      have removed : Due kind { bus with log := .unsubscribed event handler :: bus.log } :=
        due.removed (event = ·) (fun _ _ => rfl) fun _ same => same ▸ careful.2
      exact ⟨removed.active, removed.after⟩
  | unsubscribeAll handler =>
      have removed : Due kind { bus with log := .unsubscribedAll handler :: bus.log } := by
        refine due.removed (fun _ => True) ?_ fun event _ => (careful event).2
        intro event callable
        simp only [subscribedIn, decide_true, Bool.true_and]
      exact ⟨removed.active, removed.after⟩
  | publish event =>
      have logged : Due kind { bus with log := .published bus.publishes event :: bus.log } :=
        due.logged fun _ _ => id
      refine ⟨?_, logged.after⟩
      intro id delivery known
      by_cases same : id = bus.publishes
      · subst same
        simp only [Bus.publish, Function.update_self, Option.some.injEq] at known
        subst known
        refine ⟨List.mem_cons_self, fun entry member => ?_⟩
        exact (registered.mem event _).mpr ⟨entry, member, rfl⟩
      · simp only [Bus.publish, Function.update_of_ne same] at known
        exact logged.active id delivery known
  | @schedule id event entry rest under =>
      have moved : Due kind { bus with
          active := Function.update bus.active id (some ⟨event, none, rest⟩) } := by
        refine due.moved ?_
        rintro delivery ⟨⟩
        exact ⟨_, under, rfl, fun _ => List.mem_cons_of_mem _⟩
      refine ⟨moved.active, ?_⟩
      intro waiting member
      obtain old | new := List.mem_append.mp member
      · exact due.after waiting old
      · obtain ⟨published, subscribed⟩ := due.active id _ under
        rw [List.mem_singleton.mp new]
        exact ⟨event, published, subscribed entry List.mem_cons_self⟩
  | @invoke own event entry rest under =>
      have logged : Due kind { bus with log := .invoked own entry.handler :: bus.log } :=
        due.logged fun _ _ => id
      refine logged.moved ?_
      rintro delivery ⟨⟩
      exact ⟨_, under, rfl, fun _ => List.mem_cons_of_mem _⟩
  | @escape own event handler rest under unnamed =>
      have logged : Due kind { bus with log := .escaped own :: bus.log } :=
        due.logged fun _ _ => id
      exact logged.moved nofun
  | settle under =>
      refine due.moved ?_
      rintro delivery ⟨⟩
      exact ⟨_, under, rfl, fun _ => id⟩
  | @finish own event under =>
      have logged : Due kind { bus with log := .returned own :: bus.log } :=
        due.logged fun _ _ => id
      exact logged.moved nofun
  | @mainloop own handler rest head =>
      have logged : Due kind { bus with log := .invoked own handler :: bus.log } :=
        due.logged fun _ _ => id
      refine ⟨logged.active, fun waiting member => ?_⟩
      exact logged.after waiting (head ▸ List.mem_cons_of_mem _ member)

/-- How often the main loop has still to run a handler for a publish. -/
def waitingFor (kind : Handlers Handler Callable) (after : List (Nat × Handler)) (id : Nat)
    (callable : Callable) : Nat :=
  after.countP fun waiting => waiting.1 = id && kind.callable waiting.2 = callable

/-- How often the loop of `publish` has still to reach a handler. -/
def leftFor (kind : Handlers Handler Callable) : Option (Delivery Handler) → Callable → Nat
  | none, _ => 0
  | some delivery, callable =>
      delivery.rest.countP fun entry => kind.callable entry.handler = callable

/-- How often a publish has run a handler or has still to run it. -/
def share (kind : Handlers Handler Callable) (bus : Bus Handler) (id : Nat)
    (callable : Callable) : Nat :=
  invocations kind bus.log id callable + waitingFor kind bus.after id callable +
    leftFor kind (bus.active id) callable

omit [DecidableEq Handler] in
theorem invocations_cons (entry : Entry Handler) (log : List (Entry Handler)) (id : Nat)
    (callable : Callable) : invocations kind (entry :: log) id callable =
      invocations kind log id callable + if entry.invokes kind id callable then 1 else 0 :=
  List.countP_cons

/-- No step changes the share that a publish gives to a handler. -/
theorem Step.share (step : Step kind bus call after) (careful : Careful kind bus call) {id : Nat}
    (old : id < bus.publishes) (callable : Callable) :
    share kind after id callable = share kind bus id callable := by
  simp only [EventBus.share]
  cases step with
  | known found =>
      simp only [invocations_cons, Entry.invokes, Bool.false_eq_true, if_false, Nat.add_zero]
  | new absent =>
      simp only [invocations_cons, Entry.invokes, Bool.false_eq_true, if_false, Nat.add_zero]
  | unsubscribe event handler =>
      simp only [Bus.unsubscribe, invocations_cons, Entry.invokes, Bool.false_eq_true, if_false,
        Nat.add_zero]
  | unsubscribeAll handler =>
      simp only [Bus.unsubscribeAll, invocations_cons, Entry.invokes, Bool.false_eq_true, if_false,
        Nat.add_zero]
  | publish event =>
      simp only [Bus.publish, invocations_cons, Entry.invokes, Bool.false_eq_true, if_false,
        Nat.add_zero, Function.update_of_ne (Nat.ne_of_lt old)]
  | @schedule own event entry rest under =>
      by_cases same : id = own
      · subst same
        simp only [Function.update_self, under, leftFor, waitingFor, List.countP_append,
          List.countP_cons, List.countP_nil, decide_true, Bool.true_and, Nat.zero_add]
        omega
      · simp only [Function.update_of_ne same, waitingFor, List.countP_append, List.countP_cons,
          List.countP_nil, Ne.symm same, decide_false, Bool.false_and, Bool.false_eq_true, if_false,
          Nat.add_zero]
  | @invoke own event entry rest under =>
      by_cases same : id = own
      · subst same
        simp only [Function.update_self, under, leftFor, List.countP_cons, invocations_cons,
          Entry.invokes, decide_true, Bool.true_and]
        omega
      · simp only [Function.update_of_ne same, invocations_cons, Entry.invokes, Ne.symm same,
          decide_false, Bool.false_and, Bool.false_eq_true, if_false, Nat.add_zero]
  | @escape own event handler rest under unnamed =>
      have named := careful rfl _ handler under rfl
      rw [unnamed] at named
      cases named
  | @settle own event handler rest raised under =>
      by_cases same : id = own
      · subst same
        simp only [Function.update_self, under, leftFor]
      · simp only [Function.update_of_ne same]
  | @finish own event under =>
      by_cases same : id = own
      · subst same
        simp only [Function.update_self, under, leftFor, List.countP_nil, invocations_cons,
          Entry.invokes, Bool.false_eq_true, if_false, Nat.add_zero]
      · simp only [Function.update_of_ne same, invocations_cons, Entry.invokes,
          Bool.false_eq_true, if_false, Nat.add_zero]
  | @mainloop own handler rest head =>
      simp only [head, waitingFor, List.countP_cons, invocations_cons, Entry.invokes]
      by_cases ran : (decide (own = id) && decide (kind.callable handler = callable)) = true
      · simp only [ran, if_true]
        omega
      · simp only [ran]
        omega

omit [DecidableEq Callable] in
/-- Only a call of `publish` adds one to the log. -/
theorem Step.published (step : Step kind bus call after) {id : Nat} {event : String}
    {before : List (Entry Handler)} (found : .published id event :: before <:+ after.log) :
    .published id event :: before <:+ bus.log ∨
      id = bus.publishes ∧ before = bus.log ∧ after = bus.publish event := by
  cases step with
  | known known => exact .inl (suffix_of_cons found nofun)
  | new absent => exact .inl (suffix_of_cons found nofun)
  | unsubscribe event handler => exact .inl (suffix_of_cons found nofun)
  | unsubscribeAll handler => exact .inl (suffix_of_cons found nofun)
  | publish event =>
      obtain new | old := List.suffix_cons_iff.mp found
      · obtain ⟨same, rfl⟩ := List.cons.inj new
        obtain ⟨rfl, rfl⟩ := Entry.published.inj same
        exact .inr ⟨rfl, rfl, rfl⟩
      · exact .inl old
  | schedule under => exact .inl found
  | invoke under => exact .inl (suffix_of_cons found nofun)
  | escape under unnamed => exact .inl (suffix_of_cons found nofun)
  | settle under => exact .inl found
  | finish under => exact .inl (suffix_of_cons found nofun)
  | mainloop head => exact .inl (suffix_of_cons found nofun)

/-- Every publish runs each handler that was subscribed when it was called once, now or later. -/
def Balanced (kind : Handlers Handler Callable) (bus : Bus Handler) : Prop :=
  ∀ id event before callable, .published id event :: before <:+ bus.log →
    share kind bus id callable = if subscribedIn kind before event callable then 1 else 0

omit [DecidableEq Handler] in
theorem Registered.countP_eq (registered : Registered kind bus) (event : String)
    (callable : Callable) :
    ((bus.subscribers event).countP fun entry => kind.callable entry.handler = callable) =
      if subscribedIn kind bus.log event callable then 1 else 0 := by
  have counted : ((bus.subscribers event).countP fun entry =>
      kind.callable entry.handler = callable) =
        ((bus.subscribers event).map fun entry => kind.callable entry.handler).count callable := by
    rw [List.count, List.countP_map]
    exact List.countP_congr fun entry _ => by simp
  rw [counted, (registered.nodup event).count]
  refine if_congr ?_ rfl rfl
  rw [registered.mem, List.mem_map]

theorem Balanced.step (balanced : Balanced kind bus) (registered : Registered kind bus)
    (fresh : Fresh bus) (step : Step kind bus call after) (careful : Careful kind bus call) :
    Balanced kind after := by
  intro id event before callable found
  obtain old | ⟨rfl, rfl, rfl⟩ := step.published found
  · have member := old.mem List.mem_cons_self
    rw [step.share careful (fresh.log _ member id rfl)]
    exact balanced id event before callable old
  · -- nothing has run for a publish that is only now called
    have noneRun : invocations kind bus.log bus.publishes callable = 0 := by
      refine List.countP_eq_zero.mpr fun entry member invoked => ?_
      cases entry with
      | invoked other handler =>
          simp only [Entry.invokes, Bool.and_eq_true, decide_eq_true_eq] at invoked
          exact Nat.lt_irrefl _ (invoked.1 ▸ fresh.log _ member other rfl)
      | subscribed | unsubscribed | unsubscribedAll | published | returned | escaped =>
          cases invoked
    have noneWaits : waitingFor kind bus.after bus.publishes callable = 0 := by
      refine List.countP_eq_zero.mpr fun waiting member waits => ?_
      simp only [Bool.and_eq_true, decide_eq_true_eq] at waits
      exact Nat.lt_irrefl _ (waits.1 ▸ fresh.after waiting member)
    simp only [EventBus.share, Bus.publish, invocations_cons, Entry.invokes, Bool.false_eq_true,
      if_false, noneRun, noneWaits, Function.update_self, leftFor, Nat.zero_add, Nat.add_zero]
    exact registered.countP_eq event callable

/-- No handler has been run that was not subscribed then, and no exception has escaped. -/
structure Sound (kind : Handlers Handler Callable) (bus : Bus Handler) : Prop where
  subscribed : ∀ id handler before, .invoked id handler :: before <:+ bus.log →
    ∃ event, .published id event ∈ before ∧
      subscribedIn kind before event (kind.callable handler) = true
  contained : ∀ id, .escaped id ∉ bus.log

theorem Sound.step (sound : Sound kind bus) (due : Due kind bus) (step : Step kind bus call after)
    (careful : Careful kind bus call) : Sound kind after := by
  obtain ⟨subscribed, contained⟩ := sound
  have logged (entry : Entry Handler) (invokes : ∀ id handler, entry ≠ .invoked id handler)
      (escapes : ∀ id, entry ≠ .escaped id) : Sound kind { bus with log := entry :: bus.log } := by
    constructor
    · intro id handler before found
      exact subscribed id handler before (suffix_of_cons found (invokes id handler))
    · intro id member
      exact contained id (mem_of_cons member (escapes id))
  have ran (id : Nat) (handler : Handler) (event : String) (published : .published id event ∈ bus.log)
      (now : subscribedIn kind bus.log event (kind.callable handler) = true) :
      Sound kind { bus with log := .invoked id handler :: bus.log } := by
    constructor
    · intro other ran before found
      obtain new | old := List.suffix_cons_iff.mp found
      · obtain ⟨same, rfl⟩ := List.cons.inj new
        obtain ⟨rfl, rfl⟩ := Entry.invoked.inj same
        exact ⟨event, published, now⟩
      · exact subscribed other ran before old
    · intro other member
      exact contained other (mem_of_cons member nofun)
  cases step with
  | known found =>
      obtain ⟨subscribed', contained'⟩ := logged (.subscribed _ _) nofun nofun
      exact ⟨subscribed', contained'⟩
  | new absent =>
      obtain ⟨subscribed', contained'⟩ := logged (.subscribed _ _) nofun nofun
      exact ⟨subscribed', contained'⟩
  | unsubscribe event handler =>
      obtain ⟨subscribed', contained'⟩ := logged (.unsubscribed event handler) nofun nofun
      exact ⟨subscribed', contained'⟩
  | unsubscribeAll handler =>
      obtain ⟨subscribed', contained'⟩ := logged (.unsubscribedAll handler) nofun nofun
      exact ⟨subscribed', contained'⟩
  | publish event =>
      obtain ⟨subscribed', contained'⟩ := logged (.published bus.publishes event) nofun nofun
      exact ⟨subscribed', contained'⟩
  | schedule under => exact ⟨subscribed, contained⟩
  | @invoke own event entry rest under =>
      obtain ⟨published, now⟩ := due.active own _ under
      obtain ⟨subscribed', contained'⟩ := ran own entry.handler event published
        (now entry List.mem_cons_self)
      exact ⟨subscribed', contained'⟩
  | escape under unnamed =>
      have named := careful rfl _ _ under rfl
      rw [unnamed] at named
      cases named
  | settle under => exact ⟨subscribed, contained⟩
  | @finish own event under =>
      obtain ⟨subscribed', contained'⟩ := logged (.returned own) nofun nofun
      exact ⟨subscribed', contained'⟩
  | @mainloop own handler rest head =>
      obtain ⟨event, published, now⟩ := due.after (own, handler) (head ▸ List.mem_cons_self)
      obtain ⟨subscribed', contained'⟩ := ran own handler event published now
      exact ⟨subscribed', contained'⟩

/-- What every careful run maintains. -/
structure Invariant (kind : Handlers Handler Callable) (bus : Bus Handler) : Prop where
  registered : Registered kind bus
  fresh : Fresh bus
  due : Due kind bus
  balanced : Balanced kind bus
  sound : Sound kind bus

omit [DecidableEq Handler] in
theorem Invariant.new (root : Bool) : Invariant kind (Bus.new root) := by
  refine ⟨⟨fun _ => List.nodup_nil, ?_⟩, ⟨nofun, nofun, nofun, nofun⟩, ⟨nofun, nofun⟩, ?_, ?_, nofun⟩
  · intro event callable
    simp [Bus.new, subscribedIn]
  · intro id event before callable found
    exact (List.cons_ne_nil _ _ (List.suffix_nil.mp found)).elim
  · intro id handler before found
    exact (List.cons_ne_nil _ _ (List.suffix_nil.mp found)).elim

theorem Invariant.of_reachable (reachable : (eventBus kind).Reachable (Careful kind) bus) :
    Invariant kind bus := by
  refine reachable.invariant _ (Invariant kind) ?_ ?_
  · rintro bus ⟨root, rfl⟩
    exact .new root
  · intro bus call before invariant enabled careful
    have step := step_of_enabled enabled
    exact ⟨invariant.registered.step step careful, invariant.fresh.step step,
      invariant.due.step invariant.registered step careful,
      invariant.balanced.step invariant.registered invariant.fresh step careful,
      invariant.sound.step invariant.due step careful⟩

omit [DecidableEq Handler] in
theorem Invariant.actsAsSet (invariant : Invariant kind bus) : ActsAsSet kind bus := by
  refine ⟨?_, invariant.sound.subscribed, invariant.sound.contained⟩
  intro id event before callable published returned ran
  have noneWaits : waitingFor kind bus.after id callable = 0 := by
    refine List.countP_eq_zero.mpr fun waiting member waits => ?_
    simp only [Bool.and_eq_true, decide_eq_true_eq] at waits
    exact ran waiting member waits.1
  have balanced := invariant.balanced id event before callable published
  simp only [share, invariant.fresh.returned id returned, noneWaits, leftFor, Nat.add_zero]
    at balanced
  exact balanced

end Deliveries

section Results

theorem subscriptions_act_as_set {Handler Callable : Type} [DecidableEq Handler]
    [DecidableEq Callable] {kind : Handlers Handler Callable} {bus : Bus Handler}
    (reachable : (eventBus kind).Reachable (Careful kind) bus) : ActsAsSet kind bus :=
  (Invariant.of_reachable reachable).actsAsSet

/-- A method object is made by each access: its number, and the method that it is of. -/
abbrev Method := Nat × String

def methods : Handlers Method String := ⟨Prod.snd, fun _ => true⟩

/-- The callbacks that have no `__qualname__` are the partial ones. -/
def partials : Handlers Method String := ⟨Prod.snd, fun method => method.2 ≠ "partial"⟩

def trustChanged : String := "trust_level_changed"

/-- `subscribe(event, self.notify)` and `unsubscribe_all(self.notify)`, then a publish. -/
def teardown : List (Bus Method → Call Method) :=
  [fun _ => .subscribe trustChanged (0, "notify") false, fun _ => .unsubscribeAll (1, "notify"),
    fun _ => .publish trustChanged, fun _ => .next 0]

/-- The log of that run when the publish runs its handler. -/
def tornDown : List (Entry Method) :=
  [.published 0 trustChanged, .unsubscribedAll (1, "notify"),
    .subscribed trustChanged (0, "notify")]

/-- `subscribe(event, self.notify)` twice, then a publish. -/
def twice : List (Bus Method → Call Method) :=
  [fun _ => .subscribe trustChanged (0, "notify") false,
    fun _ => .subscribe trustChanged (1, "notify") false, fun _ => .publish trustChanged,
    fun _ => .next 0, fun _ => .settle 0 false, fun _ => .next 0, fun _ => .settle 0 false,
    fun _ => .finish 0]

/-- A partial callback raises before the turn of the other handler. -/
def raising : List (Bus Method → Call Method) :=
  [fun _ => .subscribe trustChanged (0, "partial") false,
    fun _ => .subscribe trustChanged (1, "notify") false, fun _ => .publish trustChanged,
    fun _ => .next 0, fun _ => .settle 0 true]

theorem bound_methods_and_partials_break_the_set :
    (∃ bus, (eventBus methods).Reachable (fun _ _ => True) bus ∧
      ¬ ∀ id handler before, .invoked id handler :: before <:+ bus.log → ∃ event,
        .published id event ∈ before ∧
          subscribedIn methods before event (methods.callable handler) = true) ∧
    (∃ bus, (eventBus methods).Reachable (fun _ _ => True) bus ∧
      ∃ id, .returned id ∈ bus.log ∧ bus.after = [] ∧
        invocations methods bus.log id "notify" = 2) ∧
    ∃ bus, (eventBus partials).Reachable (fun _ _ => True) bus ∧ .escaped 0 ∈ bus.log ∧
      invocations partials bus.log 0 "notify" = 0 := by
  refine ⟨⟨(eventBus methods).run (.new false) teardown, ?_, ?_⟩,
    ⟨(eventBus methods).run (.new false) twice, ?_, 0, ?_, ?_, ?_⟩,
    ⟨(eventBus partials).run (.new false) raising, ?_, ?_, ?_⟩⟩
  · exact Machine.Reachable.run (.start ⟨false, rfl⟩) (by decide +kernel)
  · intro claim
    have found : .invoked 0 (0, "notify") :: tornDown <:+
        ((eventBus methods).run (.new false) teardown).log :=
      List.isSuffixOf_iff_suffix.mp (by decide +kernel)
    obtain ⟨event, published, subscribed⟩ := claim 0 (0, "notify") tornDown found
    obtain rfl : event = trustChanged := by simpa [tornDown] using published
    exact absurd subscribed (by decide +kernel)
  · exact Machine.Reachable.run (.start ⟨false, rfl⟩) (by decide +kernel)
  · decide +kernel
  · decide +kernel
  · decide +kernel
  · exact Machine.Reachable.run (.start ⟨false, rfl⟩) (by decide +kernel)
  · decide +kernel
  · decide +kernel

/-- A handler that raises is subscribed, unsubscribed and subscribed again before a publish. -/
def inTurn : List (Bus Method → Call Method) :=
  [fun _ => .subscribe trustChanged (0, "notify") false,
    fun _ => .unsubscribe trustChanged (0, "notify"),
    fun _ => .subscribe trustChanged (0, "notify") false, fun _ => .publish trustChanged,
    fun _ => .next 0, fun _ => .settle 0 true, fun _ => .finish 0]

theorem subscriptions_act_as_set_inTurn :
    ActsAsSet methods ((eventBus methods).run (.new false) inTurn) := by
  have reachable : (eventBus methods).Reachable (Careful methods)
      ((eventBus methods).run (.new false) inTurn) := by
    refine Machine.Reachable.run (.start ⟨false, rfl⟩) ⟨rfl, nofun, rfl, ⟨?_, nofun, nofun⟩, rfl,
      nofun, rfl, trivial, rfl, trivial, rfl, fun _ _ _ _ _ => rfl, rfl, trivial, trivial⟩
    intro entry member same
    rw [List.mem_singleton.mp member]
  exact subscriptions_act_as_set reachable

end Results

end UltimateEnigma.EventBus
