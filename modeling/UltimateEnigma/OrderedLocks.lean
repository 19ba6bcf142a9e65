import UltimateEnigma.FriendLocks
import Mathlib.Data.List.Sort
import Mathlib.Data.Prod.Lex
import Mathlib.Data.String.Basic
import Mathlib.Order.WithBot

set_option autoImplicit false

namespace UltimateEnigma.RatchetService

open Py

section Order

-- `str.lower`, of which the order needs nothing
variable (lower : String → String)

/-- `(n.lower(), n)` -/
def canonicalKey (name : String) : String ×ₗ String := toLex (lower name, name)

theorem canonicalKey_injective : Function.Injective (canonicalKey lower) := by
  intro first second same
  exact congrArg Prod.snd (toLex.injective same)

/-- `sorted(set(friend_names), key=lambda n: (n.lower(), n))` -/
def uniqueNames (friendNames : List String) : List String :=
  friendNames.dedup.insertionSort fun first second =>
    canonicalKey lower first ≤ canonicalKey lower second

theorem uniqueNames_pairwise (friendNames : List String) :
    (uniqueNames lower friendNames).Pairwise fun first second =>
      canonicalKey lower first < canonicalKey lower second := by
  have total : Std.Total fun first second : String =>
      canonicalKey lower first ≤ canonicalKey lower second := ⟨fun _ _ => le_total _ _⟩
  have trans : IsTrans String fun first second =>
      canonicalKey lower first ≤ canonicalKey lower second := ⟨fun _ _ _ => le_trans⟩
  have sorted := List.pairwise_insertionSort (fun first second : String =>
    canonicalKey lower first ≤ canonicalKey lower second) friendNames.dedup
  have distinct : (uniqueNames lower friendNames).Nodup :=
    (List.perm_insertionSort _ _).nodup_iff.mpr friendNames.nodup_dedup
  refine sorted.imp₂ (fun first second below apart => ?_) distinct
  exact lt_of_le_of_ne below ((canonicalKey_injective lower).ne apart)

/-- Friend locks in the order of their names, the guard above them all. -/
def Lock.rank : Lock → WithTop (String ×ₗ String)
  | .locksGuard => ⊤
  | .friend madeFor _ => canonicalKey lower madeFor

end Order

/-- Where a thread is in a call of `acquire_friend_locks_ordered`, with the names still to be
taken, or in the use of the locks that the call returned. -/
inductive OrderedCall where
  | idle
  | taking (names : List String)
  | failing (name : String)
  | raised (name : String)
  | holding
deriving DecidableEq

inductive OrderedAction where
  | call (friendNames : List String)
  | getLock (now : Rat)
  | acquire
  | timeOut
  | returnAcquired
  | unwind
  | caught
  | release (friendName : String) (lock : Lock)
  | finish
  | cleanup (activeFriends : Option (List String)) (now : Rat)
  | cleanupStep
  | cleanupReturn
deriving DecidableEq

/-- Only a thread that is not inside the call can be in a cleanup. -/
def OrderedCall.outside : OrderedCall → Bool
  | .idle => true
  | .taking _ => false
  | .failing _ => false
  | .raised _ => true
  | .holding => true

/-- What the action does to the locks, if anything, and where the thread is after it. The
thread held no lock when it made the call, so `acquired` is what it holds. -/
def OrderedCall.step? (lower : String → String) (caller : Caller) (call : OrderedCall) :
    OrderedAction → Option (Option Action × OrderedCall)
  | .call friendNames =>
      if call = .idle then some (none, .taking (uniqueNames lower friendNames)) else none
  | .getLock now =>
      match call with
      | .taking (name :: names) => some (some (.getLock name now), .taking (name :: names))
      | _ => none
  | .acquire =>
      match call with
      | .taking (_ :: names) => some (some .acquire, .taking names)
      | _ => none
  | .timeOut =>
      match call with
      | .taking (name :: _) => some (some .timeOut, .failing name)
      | _ => none
  | .returnAcquired => if call = .taking [] then some (none, .holding) else none
  | .unwind =>
      match call with
      | .failing name =>
          match caller.held.getLast? with
          | some (friendName, lock) => some (some (.release friendName lock), .failing name)
          | none => some (none, .raised name)
      | _ => none
  | .caught =>
      match call with
      | .raised _ => some (none, .idle)
      | _ => none
  | .release friendName lock =>
      if call = .holding then some (some (.release friendName lock), .holding) else none
  | .finish => if call = .holding ∧ caller.held = [] then some (none, .idle) else none
  | .cleanup activeFriends now =>
      if call.outside then some (some (.cleanup activeFriends now), call) else none
  | .cleanupStep => if call.outside then some (some .cleanupStep, call) else none
  | .cleanupReturn => if call.outside then some (some .cleanupReturn, call) else none

structure Ordered (Thread : Type) where
  locking : Locking Thread
  calls : Thread → OrderedCall

section Runs

variable {Thread : Type} [DecidableEq Thread] (lower : String → String)

def Ordered.step? (state : Ordered Thread) (thread : Thread) (action : OrderedAction) :
    Option (Ordered Thread) :=
  match (state.calls thread).step? lower (state.locking.callers thread) action with
  | none => none
  | some (some step, call) =>
      (state.locking.step? thread step).map fun locking =>
        ⟨locking, Function.update state.calls thread call⟩
  | some (none, call) =>
      if (state.locking.callers thread).phase = .ready then
        some ⟨state.locking, Function.update state.calls thread call⟩
      else none

/-- Any number of threads that each call `acquire_friend_locks_ordered` again and again while
they hold no friend lock, and give back what it returned, with cleanups in between. -/
def orderedCalls (Thread : Type) [DecidableEq Thread] :
    Machine (Ordered Thread) (Thread × OrderedAction) where
  start state := (locking Thread).start state.locking ∧ ∀ thread, state.calls thread = .idle
  enabled state event := (state.step? lower event.1 event.2).isSome
  apply state event := (state.step? lower event.1 event.2).getD state

instance (state : Ordered Thread) (event : Thread × OrderedAction) :
    Decidable ((orderedCalls lower Thread).enabled state event) :=
  inferInstanceAs (Decidable ((state.step? lower event.1 event.2).isSome = true))

/-- Who waits in an `acquire`, of a friend's lock or of the guard, and who holds what. -/
def Ordered.waitGraph (state : Ordered Thread) : WaitGraph Thread Lock where
  wants thread lock :=
    match (state.locking.callers thread).phase with
    | .acquiring _ wanted => lock = wanted
    | .cleaning (.entering _ _) => lock = .locksGuard
    | .cleaning _ => False
    | .ready => lock = .locksGuard ∧ ∃ name names, state.calls thread = .taking (name :: names)
  holds thread lock := 0 < (state.locking.locks.state lock).count thread

variable {lower}

/-- Every step is a step of the locks, or leaves them alone. -/
theorem Ordered.step_cases {state after : Ordered Thread} {thread : Thread}
    {action : OrderedAction} (stepped : state.step? lower thread action = some after) :
    ∃ step call, (state.calls thread).step? lower (state.locking.callers thread) action =
        some (step, call) ∧ after.calls = Function.update state.calls thread call ∧
      ((∃ base, step = some base ∧ state.locking.step? thread base = some after.locking) ∨
        step = none ∧ (state.locking.callers thread).phase = .ready ∧
          after.locking = state.locking) := by
  simp only [Ordered.step?] at stepped
  split at stepped
  · cases stepped
  · next base call decided =>
      obtain ⟨locking, advanced, rfl⟩ := Option.map_eq_some_iff.mp stepped
      exact ⟨some base, call, decided, rfl, .inl ⟨base, rfl, advanced⟩⟩
  · next call decided =>
      split at stepped
      · next ready =>
          cases stepped
          exact ⟨none, call, decided, rfl, .inr ⟨rfl, ready, rfl⟩⟩
      · cases stepped

theorem ordered_step?_of_enabled {state : Ordered Thread} {event : Thread × OrderedAction}
    (enabled : (orderedCalls lower Thread).enabled state event) :
    state.step? lower event.1 event.2 = some ((orderedCalls lower Thread).apply state event) := by
  obtain ⟨after, stepped⟩ := Option.isSome_iff_exists.mp enabled
  simp only [orderedCalls, stepped, Option.getD_some]

/-- The runs of these calls are runs of the locks. -/
theorem locking_of_reachable {state : Ordered Thread}
    (reachable : (orderedCalls lower Thread).Reachable (fun _ _ => True) state) :
    (locking Thread).Reachable (fun _ _ => True) state.locking := by
  refine reachable.invariant _ (fun state : Ordered Thread =>
    (locking Thread).Reachable (fun _ _ => True) state.locking) ?_ ?_
  · intro state initial
    exact .start initial.1
  · intro state event before ih enabled permitted
    obtain ⟨step, call, decided, calls, ⟨base, rfl, advanced⟩ | ⟨rfl, ready, same⟩⟩ :=
      Ordered.step_cases (ordered_step?_of_enabled enabled)
    · have moved : (locking Thread).apply state.locking (event.1, base) =
          ((orderedCalls lower Thread).apply state event).locking := by
        simp only [locking, advanced, Option.getD_some]
      have allowed : (locking Thread).enabled state.locking (event.1, base) :=
        Option.isSome_iff_exists.mpr ⟨_, advanced⟩
      rw [← moved]
      exact .step _ ih allowed trivial
    · rw [same]
      exact ih

/-- Every lock that a thread uses was made for the name it was obtained for. -/
structure Named (state : Locking Thread) : Prop where
  table : ∀ name lock, state.locks.friendLocks.get? name = some lock →
    ∃ serial, lock = .friend name serial
  uses : ∀ thread, ∀ entry ∈ (state.callers thread).uses, ∃ serial, entry.2 = .friend entry.1 serial

omit [DecidableEq Thread] in
theorem Named.made {state : Locking Thread} (named : Named state) {thread : Thread}
    {friendName : String} {lock : Lock} (member : (friendName, lock) ∈ (state.callers thread).uses) :
    ∃ serial, lock = .friend friendName serial :=
  named.uses thread _ member

theorem Named.step {state after : Locking Thread} {thread : Thread} {action : Action}
    (named : Named state) (stepped : state.step? thread action = some after) : Named after := by
  obtain ⟨caller, advanced, callers⟩ := Locking.step_cases stepped
  have table (name : String) (lock : Lock)
      (found : after.locks.friendLocks.get? name = some lock) :
      ∃ serial, lock = .friend name serial := by
    obtain old | new := Caller.step?_made advanced found
    · exact named.table name lock old
    · exact new
  refine ⟨table, fun other entry member => ?_⟩
  rw [callers, Function.update_apply] at member
  split at member
  · obtain old | new := Caller.step?_uses advanced member
    · exact named.uses thread entry old
    · exact table entry.1 entry.2 new
  · exact named.uses other entry member

theorem Named.of_reachable {allowed : Locking Thread → Thread × Action → Prop}
    {state : Locking Thread} (reachable : (locking Thread).Reachable allowed state) :
    Named state := by
  refine reachable.invariant _ Named ?_ ?_
  · rintro state ⟨empty, -, -, ready⟩
    constructor
    · intro name lock found
      rw [empty] at found
      cases found
    · intro thread entry member
      rw [ready thread] at member
      cases member
  · intro state event before named enabled permitted
    exact named.step (step?_of_enabled enabled)

section Callers

variable {thread : Thread} {locks : Locks Thread} {caller : Caller} {after : Locks Thread × Caller}

theorem Caller.getLock_cases {friendName : String} {now : Rat}
    (stepped : caller.step? thread locks (.getLock friendName now) = some after) :
    caller.phase = .ready ∧ ∃ lock, after.2 = { caller with phase := .acquiring friendName lock } := by
  obtain ⟨held, phase⟩ := caller
  cases phase with
  | ready =>
      simp only [Caller.step?] at stepped
      split at stepped
      · cases stepped
        exact ⟨rfl, _, rfl⟩
      · cases stepped
  | _ => cases stepped

theorem Caller.acquire_cases (stepped : caller.step? thread locks .acquire = some after) :
    ∃ friendName lock, caller.phase = .acquiring friendName lock ∧
      after.2 = ⟨caller.held ++ [(friendName, lock)], .ready⟩ := by
  obtain ⟨held, phase⟩ := caller
  cases phase with
  | acquiring friendName lock =>
      obtain ⟨taken, acquired, rfl⟩ := Option.map_eq_some_iff.mp stepped
      exact ⟨friendName, lock, rfl, rfl⟩
  | _ => cases stepped

theorem Caller.timeOut_cases (stepped : caller.step? thread locks .timeOut = some after) :
    after.2 = { caller with phase := .ready } := by
  obtain ⟨held, phase⟩ := caller
  cases phase with
  | acquiring friendName lock =>
      cases stepped
      rfl
  | _ => cases stepped

theorem Caller.release_cases {friendName : String} {lock : Lock}
    (stepped : caller.step? thread locks (.release friendName lock) = some after) :
    caller.phase = .ready ∧
      after.2 = { caller with held := caller.held.erase (friendName, lock) } := by
  obtain ⟨held, phase⟩ := caller
  cases phase with
  | ready =>
      simp only [Caller.step?] at stepped
      split at stepped
      · obtain ⟨left, released, rfl⟩ := Option.map_eq_some_iff.mp stepped
        exact ⟨rfl, rfl⟩
      · cases stepped
  | _ => cases stepped

/-- A cleanup neither acquires nor gives back what the thread holds. -/
theorem Caller.cleanup_cases {action : Action}
    (stepped : caller.step? thread locks action = some after)
    (cleanup : (∃ activeFriends now, action = .cleanup activeFriends now) ∨
      action = .cleanupStep ∨ action = .cleanupReturn) :
    after.2.held = caller.held ∧ after.2.phase.wanted = none ∧ caller.phase.wanted = none := by
  obtain ⟨held, phase⟩ := caller
  obtain ⟨activeFriends, now, rfl⟩ | rfl | rfl := cleanup
  · cases phase with
    | ready =>
        cases stepped
        exact ⟨rfl, rfl, rfl⟩
    | _ => cases stepped
  · cases phase with
    | cleaning cleanup =>
        obtain ⟨next, advanced, rfl⟩ := Option.map_eq_some_iff.mp stepped
        exact ⟨rfl, rfl, rfl⟩
    | _ => cases stepped
  · cases phase with
    | cleaning cleanup =>
        cases cleanup with
        | returned removed =>
            cases stepped
            exact ⟨rfl, rfl, rfl⟩
        | _ => cases stepped
    | _ => cases stepped

end Callers

/-- What a thread holds and does at each point of the call. -/
def OrderedCall.Keeps (lower : String → String) (caller : Caller) : OrderedCall → Prop
  | .idle => caller.uses = []
  | .taking names =>
      names.Pairwise (fun first second => canonicalKey lower first < canonicalKey lower second) ∧
      (∀ entry ∈ caller.held, ∀ name ∈ names,
        canonicalKey lower entry.1 < canonicalKey lower name) ∧
      (caller.phase = .ready ∨
        ∃ name rest lock, names = name :: rest ∧ caller.phase = .acquiring name lock)
  | .failing _ => caller.phase = .ready
  | .raised _ => caller.uses = []
  | .holding => caller.phase.wanted = none

theorem Keeps.of_cleanup {caller after : Caller} {call : OrderedCall}
    (keeps : call.Keeps lower caller) (outside : call.outside = true)
    (unchanged : after.held = caller.held ∧ after.phase.wanted = none ∧
      caller.phase.wanted = none) : call.Keeps lower after := by
  obtain ⟨held, wanted, wanted_before⟩ := unchanged
  have uses : after.uses = caller.uses := by
    unfold Caller.uses
    rw [held, wanted, wanted_before]
  cases call with
  | idle => exact uses.trans keeps
  | raised name => exact uses.trans keeps
  | holding => exact wanted
  | taking names => cases outside
  | failing name => cases outside

section Callers

variable {thread : Thread} {locks : Locks Thread} {caller : Caller} {after : Locks Thread × Caller}
  {call next : OrderedCall} {action : OrderedAction}

theorem Keeps.step_locks {base : Action} (keeps : call.Keeps lower caller)
    (decided : call.step? lower caller action = some (some base, next))
    (stepped : caller.step? thread locks base = some after) : next.Keeps lower after.2 := by
  cases action with
  | getLock now =>
      cases call with
      | taking names =>
          cases names with
          | nil => cases decided
          | cons name names =>
              cases decided
              obtain ⟨sorted, below, -⟩ := keeps
              obtain ⟨ready, lock, changed⟩ := Caller.getLock_cases stepped
              rw [changed]
              exact ⟨sorted, below, .inr ⟨name, names, lock, rfl, rfl⟩⟩
      | _ => cases decided
  | acquire =>
      cases call with
      | taking names =>
          cases names with
          | nil => cases decided
          | cons name names =>
              cases decided
              obtain ⟨sorted, below, phase⟩ := keeps
              obtain ⟨friendName, lock, acquiring, changed⟩ := Caller.acquire_cases stepped
              have same : friendName = name := by
                obtain ready | ⟨first, rest, wanted, names_eq, phase⟩ := phase
                · rw [ready] at acquiring
                  cases acquiring
                · cases names_eq
                  rw [phase] at acquiring
                  cases acquiring
                  rfl
              subst same
              obtain ⟨above, sorted⟩ := List.pairwise_cons.mp sorted
              rw [changed]
              refine ⟨sorted, fun entry member later behind => ?_, .inl rfl⟩
              rcases List.mem_append.mp member with old | new
              · exact below entry old later (List.mem_cons_of_mem _ behind)
              · cases List.mem_singleton.mp new
                exact above later behind
      | _ => cases decided
  | timeOut =>
      cases call with
      | taking names =>
          cases names with
          | nil => cases decided
          | cons name names =>
              cases decided
              rw [Caller.timeOut_cases stepped]
              rfl
      | _ => cases decided
  | unwind =>
      cases call with
      | failing name =>
          simp only [OrderedCall.step?] at decided
          split at decided
          · cases decided
            obtain ⟨ready, changed⟩ := Caller.release_cases stepped
            rw [changed]
            exact ready
          · cases decided
      | _ => cases decided
  | release friendName lock =>
      simp only [OrderedCall.step?] at decided
      split at decided
      · cases decided
        obtain ⟨ready, changed⟩ := Caller.release_cases stepped
        rw [changed]
        exact congrArg Phase.wanted ready
      · cases decided
  | cleanup activeFriends now =>
      simp only [OrderedCall.step?] at decided
      split at decided
      · next outside =>
          cases decided
          exact Keeps.of_cleanup keeps outside
            (Caller.cleanup_cases stepped (.inl ⟨activeFriends, now, rfl⟩))
      · cases decided
  | cleanupStep =>
      simp only [OrderedCall.step?] at decided
      split at decided
      · next outside =>
          cases decided
          exact Keeps.of_cleanup keeps outside (Caller.cleanup_cases stepped (.inr (.inl rfl)))
      · cases decided
  | cleanupReturn =>
      simp only [OrderedCall.step?] at decided
      split at decided
      · next outside =>
          cases decided
          exact Keeps.of_cleanup keeps outside (Caller.cleanup_cases stepped (.inr (.inr rfl)))
      · cases decided
  | call friendNames =>
      simp only [OrderedCall.step?] at decided
      split at decided
      · cases decided
      · cases decided
  | returnAcquired =>
      simp only [OrderedCall.step?] at decided
      split at decided
      · cases decided
      · cases decided
  | caught =>
      cases call with
      | _ => cases decided
  | finish =>
      simp only [OrderedCall.step?] at decided
      split at decided
      · cases decided
      · cases decided

/-- The steps that only the call itself takes, between two steps of the locks. -/
theorem Keeps.step_call (keeps : call.Keeps lower caller)
    (decided : call.step? lower caller action = some (none, next))
    (ready : caller.phase = .ready) : next.Keeps lower caller := by
  have wanted : caller.phase.wanted = none := congrArg Phase.wanted ready
  cases call with
  | idle =>
      cases action with
      | call friendNames =>
          cases decided
          refine ⟨uniqueNames_pairwise lower friendNames, fun entry member => ?_, .inl ready⟩
          have none_held := (List.append_eq_nil_iff.mp keeps).1
          rw [none_held] at member
          cases member
      | _ => cases decided
  | taking names =>
      cases names with
      | nil =>
          cases action with
          | returnAcquired =>
              cases decided
              exact wanted
          | _ => cases decided
      | cons name names =>
          cases action with
          | _ => cases decided
  | failing name =>
      cases action with
      | unwind =>
          simp only [OrderedCall.step?] at decided
          split at decided
          · cases decided
          · next released =>
              cases decided
              show caller.held ++ caller.phase.wanted.toList = []
              rw [wanted, List.getLast?_eq_none_iff.mp released]
              rfl
      | _ => cases decided
  | raised name =>
      cases action with
      | caught =>
          cases decided
          exact keeps
      | _ => cases decided
  | holding =>
      cases action with
      | finish =>
          simp only [OrderedCall.step?, true_and] at decided
          split at decided
          · next released =>
              cases decided
              show caller.held ++ caller.phase.wanted.toList = []
              rw [wanted, released]
              rfl
          · cases decided
      | _ => cases decided

end Callers

/-- The order of acquisition: every thread keeps to its call. -/
def KeepsOrder (lower : String → String) (state : Ordered Thread) : Prop :=
  ∀ thread, (state.calls thread).Keeps lower (state.locking.callers thread)

theorem KeepsOrder.step {state after : Ordered Thread} {thread : Thread} {action : OrderedAction}
    (keeps : KeepsOrder lower state) (stepped : state.step? lower thread action = some after) :
    KeepsOrder lower after := by
  obtain ⟨step, call, decided, calls, ⟨base, rfl, advanced⟩ | ⟨rfl, ready, same⟩⟩ :=
    Ordered.step_cases stepped
  · obtain ⟨caller, moved, callers⟩ := Locking.step_cases advanced
    intro other
    rw [calls, callers]
    by_cases mine : other = thread
    · subst mine
      rw [Function.update_self, Function.update_self]
      exact Keeps.step_locks (keeps other) decided moved
    · rw [Function.update_of_ne mine, Function.update_of_ne mine]
      exact keeps other
  · intro other
    rw [calls, same]
    by_cases mine : other = thread
    · subst mine
      rw [Function.update_self]
      exact Keeps.step_call (keeps other) decided ready
    · rw [Function.update_of_ne mine]
      exact keeps other

theorem KeepsOrder.of_reachable {state : Ordered Thread}
    (reachable : (orderedCalls lower Thread).Reachable (fun _ _ => True) state) :
    KeepsOrder lower state := by
  refine reachable.invariant _ (KeepsOrder lower) ?_ ?_
  · rintro state ⟨⟨-, -, -, ready⟩, idle⟩ thread
    rw [idle thread, ready thread]
    rfl
  · intro state event before keeps enabled permitted
    exact keeps.step (ordered_step?_of_enabled enabled)

/-- A thread that is in no cleanup holds nothing but what `_acquire_friend_lock` or the
ordered call gave it. -/
theorem exists_held_of_count {state : Locking Thread} (counted : Counted state) {thread : Thread}
    {lock : Lock} (none_owed : (state.callers thread).phase.owes lock = 0)
    (holds : 0 < (state.locks.state lock).count thread) :
    ∃ friendName, (friendName, lock) ∈ (state.callers thread).held := by
  rw [counted lock thread, Caller.owes, none_owed, Nat.add_zero, List.countP_pos_iff] at holds
  obtain ⟨⟨friendName, held⟩, member, same⟩ := holds
  cases of_decide_eq_true same
  exact ⟨friendName, member⟩

theorem rank_lt_of_wants {state : Ordered Thread} (keeps : KeepsOrder lower state)
    (counted : Counted state.locking) (named : Named state.locking) (thread : Thread)
    (held wanted : Lock) (holds : state.waitGraph.holds thread held)
    (wants : state.waitGraph.wants thread wanted) : held.rank lower < wanted.rank lower := by
  have below_guard {friendName : String}
      (member : (friendName, held) ∈ (state.locking.callers thread).held) :
      held.rank lower < Lock.locksGuard.rank lower := by
    obtain ⟨serial, rfl⟩ := named.made (List.mem_append_left _ member)
    exact WithTop.coe_lt_top _
  have order := keeps thread
  simp only [Ordered.waitGraph] at holds wants
  cases phase : (state.locking.callers thread).phase with
  | ready =>
      rw [phase] at wants
      obtain ⟨rfl, -⟩ := wants
      obtain ⟨friendName, member⟩ := exists_held_of_count counted (by rw [phase]; rfl) holds
      exact below_guard member
  | cleaning cleanup =>
      cases cleanup with
      | entering activeFriends now =>
          rw [phase] at wants
          subst wants
          obtain ⟨friendName, member⟩ := exists_held_of_count counted (by rw [phase]; rfl) holds
          exact below_guard member
      | _ =>
          rw [phase] at wants
          cases wants
  | acquiring friendName lock =>
      rw [phase] at wants
      subst wants
      obtain ⟨heldName, member⟩ := exists_held_of_count counted (by rw [phase]; rfl) holds
      have sought : (friendName, wanted) ∈ (state.locking.callers thread).uses := by
        rw [Caller.uses, phase]
        exact List.mem_append_right _ (List.mem_singleton.mpr rfl)
      obtain ⟨serial, rfl⟩ := named.made (List.mem_append_left _ member)
      obtain ⟨wantedSerial, rfl⟩ := named.made sought
      cases call : state.calls thread with
      | taking names =>
          rw [call] at order
          obtain ⟨-, below, ready | ⟨name, rest, lock, rfl, acquiring⟩⟩ := order
          · cases phase.symm.trans ready
          · cases phase.symm.trans acquiring
            exact WithTop.coe_lt_coe.mpr (below _ member _ List.mem_cons_self)
      | idle =>
          rw [call] at order
          have none_used : (state.locking.callers thread).uses = [] := order
          rw [none_used] at sought
          cases sought
      | raised name =>
          rw [call] at order
          have none_used : (state.locking.callers thread).uses = [] := order
          rw [none_used] at sought
          cases sought
      | failing name =>
          rw [call] at order
          have ready : (state.locking.callers thread).phase = .ready := order
          rw [ready] at phase
          cases phase
      | holding =>
          rw [call] at order
          have none_wanted : (state.locking.callers thread).phase.wanted = none := order
          rw [phase] at none_wanted
          cases none_wanted

/-- No circular wait, and a call that has raised has given back all it took. -/
theorem ordered_acquisition_safe (lower : String → String) {state : Ordered Thread}
    (reachable : (orderedCalls lower Thread).Reachable (fun _ _ => True) state) :
    state.waitGraph.DeadlockFree ∧
      ∀ thread name, state.calls thread = .raised name →
        (∀ friendName, ¬ state.locking.Holds thread friendName) ∧
        ((state.locking.callers thread).phase = .ready →
          ∀ lock, (state.locking.locks.state lock).count thread = 0) := by
  have keeps := KeepsOrder.of_reachable reachable
  have counted := Counted.of_reachable (locking_of_reachable reachable)
  have named := Named.of_reachable (locking_of_reachable reachable)
  refine ⟨WaitGraph.deadlockFree_of_ordered (Lock.rank lower)
    (rank_lt_of_wants keeps counted named), fun thread name raised => ?_⟩
  have none_used := keeps thread
  rw [raised] at none_used
  have none_held := (List.append_eq_nil_iff.mp none_used).1
  constructor
  · rintro friendName ⟨lock, member⟩
    rw [none_held] at member
    cases member
  · intro ready lock
    rw [counted, Caller.owes, none_held, ready]
    rfl

end Runs

section Toy

def toyIdle : Ordered Bool := ⟨toyReady, fun _ => .idle⟩

/-- Two lists with the same two names in the other order, one in another case: the second
thread waits for the first and gives up. -/
def toyContended : List (Bool × OrderedAction) :=
  [(true, .call ["bob", "Alice", "bob"]), (true, .getLock 0), (true, .acquire), (true, .getLock 0),
    (true, .acquire), (true, .returnAcquired), (false, .call ["Alice", "alice", "bob"]),
    (false, .getLock 1), (false, .timeOut), (false, .unwind)]

theorem toyContended_safe :
    let state := (orderedCalls String.toLower Bool).run toyIdle (toyContended.map fun event _ => event)
    state.waitGraph.DeadlockFree ∧ ∀ friendName, ¬ state.locking.Holds false friendName := by
  have reachable : (orderedCalls String.toLower Bool).Reachable (fun _ _ => True)
      ((orderedCalls String.toLower Bool).run toyIdle (toyContended.map fun event _ => event)) :=
    Machine.Reachable.run (.start ⟨toyReady_start, fun _ => rfl⟩) (by decide +kernel)
  have safe := ordered_acquisition_safe String.toLower reachable
  exact ⟨safe.1, (safe.2 false "Alice" (by decide +kernel)).1⟩

end Toy

end UltimateEnigma.RatchetService
