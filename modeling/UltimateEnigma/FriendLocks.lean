import UltimateEnigma.Machine
import UltimateEnigma.Py.Dict
import UltimateEnigma.Py.Threading
import Mathlib.Data.Rat.Init
import Mathlib.Data.List.Count
import Mathlib.Data.Fintype.Basic

set_option autoImplicit false

namespace UltimateEnigma.RatchetService

open Py

/-- The lock objects. What a friend's lock was made for and as which is its identity. -/
inductive Lock where
  | locksGuard
  | friend (madeFor : String) (serial : Nat)
deriving DecidableEq, Repr

/-- The class attributes, with the state of every lock object. The serial of a lock to be
made is `made`, so that the state of a new lock is still the free one. -/
structure Locks (Thread : Type) where
  friendLocks : Dict String Lock
  friendLockTimestamps : Dict String Rat
  state : Lock → RLock Thread
  made : Nat

/-- `LOCK_MAX_AGE` -/
def lockMaxAge : Rat := 7200

namespace Locks

variable {Thread : Type}

def setState (locks : Locks Thread) (lock : Lock) (state : RLock Thread) : Locks Thread :=
  { locks with state := Function.update locks.state lock state }

@[simp] theorem state_setState (locks : Locks Thread) (lock other : Lock) (state : RLock Thread) :
    (locks.setState lock state).state other = if other = lock then state else locks.state other := by
  by_cases same : other = lock
  · simp [setState, same]
  · simp [setState, same]

@[simp] theorem friendLocks_setState (locks : Locks Thread) (lock : Lock) (state : RLock Thread) :
    (locks.setState lock state).friendLocks = locks.friendLocks := rfl

/-- The body of `_get_friend_lock`. It runs under the guard and reads and writes only what
the guard protects: one step. -/
def getFriendLock (locks : Locks Thread) (friendName : String) (now : Rat) : Lock × Locks Thread :=
  match locks.friendLocks.get? friendName with
  | some lock => (lock, locks)
  | none =>
      let lock := Lock.friend friendName locks.made
      (lock,
        { locks with
          friendLocks := locks.friendLocks.set friendName lock
          friendLockTimestamps := locks.friendLockTimestamps.set friendName now
          made := locks.made + 1 })

@[simp] theorem state_getFriendLock (locks : Locks Thread) (friendName : String) (now : Rat) :
    (locks.getFriendLock friendName now).2.state = locks.state := by
  unfold getFriendLock
  split
  · rfl
  · rfl

theorem get?_getFriendLock (locks : Locks Thread) (friendName : String) (now : Rat) :
    (locks.getFriendLock friendName now).2.friendLocks.get? friendName =
      some (locks.getFriendLock friendName now).1 := by
  unfold getFriendLock
  split
  · next lock found => exact found
  · exact locks.friendLocks.get?_set_self friendName _

theorem get?_getFriendLock_of_some {locks : Locks Thread} {name : String} {lock : Lock}
    (found : locks.friendLocks.get? name = some lock) (friendName : String) (now : Rat) :
    (locks.getFriendLock friendName now).2.friendLocks.get? name = some lock := by
  unfold getFriendLock
  split
  · exact found
  · next absent =>
      have apart : name ≠ friendName := by
        intro same
        rw [same, absent] at found
        cases found
      exact (locks.friendLocks.get?_set_of_ne _ apart).trans found

theorem made_of_getFriendLock {locks : Locks Thread} {friendName name : String} {now : Rat}
    {lock : Lock}
    (found : (locks.getFriendLock friendName now).2.friendLocks.get? name = some lock) :
    locks.friendLocks.get? name = some lock ∨ ∃ serial, lock = .friend name serial := by
  unfold getFriendLock at found
  split at found
  · exact .inl found
  · rw [Dict.get?_set] at found
    split at found
    · next same =>
        subst same
        cases found
        exact .inr ⟨_, rfl⟩
    · exact .inl found

/-- The names whose locks `cleanup_friend_locks` tries to remove. -/
def staleNames (locks : Locks Thread) (activeFriends : Option (List String)) (now : Rat) :
    List String :=
  match activeFriends with
  | some activeFriends => locks.friendLocks.keys.filter (· ∉ activeFriends)
  | none =>
      (locks.friendLockTimestamps.items.filter fun item => now - item.2 > lockMaxAge).map Prod.fst

/-- `del cls._friend_locks[name]` and the `pop` after it. -/
def remove (locks : Locks Thread) (name : String) : Locks Thread :=
  { locks with
    friendLocks := locks.friendLocks.erase name
    friendLockTimestamps := locks.friendLockTimestamps.erase name }

@[simp] theorem state_remove (locks : Locks Thread) (name : String) :
    (locks.remove name).state = locks.state := rfl

end Locks

/-- A call of `cleanup_friend_locks` between two of its steps: before the guard is taken, at
the head of the loop, between the probing `acquire` and its `release`, between that and the
`del`, and after the guard is given back. -/
inductive Cleanup where
  | entering (activeFriends : Option (List String)) (now : Rat)
  | looping (staleNames : List String) (removed : Nat)
  | probed (name : String) (lock : Lock) (staleNames : List String) (removed : Nat)
  | unheld (name : String) (staleNames : List String) (removed : Nat)
  | returned (removed : Nat)
deriving DecidableEq

/-- Where a thread is in the calls that the locks are for. -/
inductive Phase where
  | ready
  | acquiring (friendName : String) (lock : Lock)
  | cleaning (cleanup : Cleanup)
deriving DecidableEq

/-- A thread: the locks `_acquire_friend_lock` returned to it for which names, one entry for
each release it owes, and where it is. -/
structure Caller where
  held : List (String × Lock)
  phase : Phase
deriving DecidableEq

inductive Action where
  | getLock (friendName : String) (now : Rat)
  | acquire
  | timeOut
  | release (friendName : String) (lock : Lock)
  | cleanup (activeFriends : Option (List String)) (now : Rat)
  | cleanupStep
  | cleanupReturn
deriving DecidableEq

section Steps

variable {Thread : Type} [DecidableEq Thread]

/-- The next step of `cleanup_friend_locks`, if the thread need not wait for it. -/
def Cleanup.step? (thread : Thread) (locks : Locks Thread) : Cleanup → Option (Locks Thread × Cleanup)
  | .entering activeFriends now =>
      ((locks.state .locksGuard).acquire? thread).map fun guard =>
        (locks.setState .locksGuard guard, .looping (locks.staleNames activeFriends now) 0)
  | .looping [] removed =>
      ((locks.state .locksGuard).release? thread).map fun guard =>
        (locks.setState .locksGuard guard, .returned removed)
  | .looping (name :: staleNames) removed =>
      match locks.friendLocks.get? name with
      | none => some (locks, .looping staleNames removed)
      | some lock =>
          match (locks.state lock).acquire? thread with
          | some taken => some (locks.setState lock taken, .probed name lock staleNames removed)
          | none => some (locks, .looping staleNames removed)
  | .probed name lock staleNames removed =>
      ((locks.state lock).release? thread).map fun left =>
        (locks.setState lock left, .unheld name staleNames removed)
  | .unheld name staleNames removed =>
      some (locks.remove name, .looping staleNames (removed + 1))
  | .returned _ => none

/-- What one step of a thread does to the locks and to the thread. -/
def Caller.step? (thread : Thread) (locks : Locks Thread) (caller : Caller) (action : Action) :
    Option (Locks Thread × Caller) :=
  match caller.phase, action with
  | .ready, .getLock friendName now =>
      if ((locks.state .locksGuard).acquire? thread).isSome then
        let got := locks.getFriendLock friendName now
        some (got.2, { caller with phase := .acquiring friendName got.1 })
      else none
  | .acquiring friendName lock, .acquire =>
      ((locks.state lock).acquire? thread).map fun taken =>
        (locks.setState lock taken, ⟨caller.held ++ [(friendName, lock)], .ready⟩)
  | .acquiring _ _, .timeOut => some (locks, { caller with phase := .ready })
  | .ready, .release friendName lock =>
      if (friendName, lock) ∈ caller.held then
        ((locks.state lock).release? thread).map fun left =>
          (locks.setState lock left, { caller with held := caller.held.erase (friendName, lock) })
      else none
  | .ready, .cleanup activeFriends now =>
      some (locks, { caller with phase := .cleaning (.entering activeFriends now) })
  | .cleaning cleanup, .cleanupStep =>
      (cleanup.step? thread locks).map fun next =>
        (next.1, { caller with phase := .cleaning next.2 })
  | .cleaning (.returned _), .cleanupReturn => some (locks, { caller with phase := .ready })
  | _, _ => none

end Steps

/-- How many releases of a lock the call still owes. -/
def Cleanup.owes (lock : Lock) : Cleanup → Nat
  | .entering _ _ => 0
  | .looping _ _ => if lock = .locksGuard then 1 else 0
  | .probed _ taken _ _ => (if lock = .locksGuard then 1 else 0) + if lock = taken then 1 else 0
  | .unheld _ _ _ => if lock = .locksGuard then 1 else 0
  | .returned _ => 0

def Phase.owes (lock : Lock) : Phase → Nat
  | .ready => 0
  | .acquiring _ _ => 0
  | .cleaning cleanup => cleanup.owes lock

def Caller.owes (caller : Caller) (lock : Lock) : Nat :=
  caller.held.countP (·.2 = lock) + caller.phase.owes lock

section Counts

variable {Thread : Type} [DecidableEq Thread]

/-- Of a step of this thread: the lock counts change by what the thread comes to owe. -/
def CountsBy (thread : Thread) (locks after : Locks Thread) (owed owes : Lock → Nat) : Prop :=
  ∀ lock other, (after.state lock).count other + (if other = thread then owed lock else 0) =
    (locks.state lock).count other + if other = thread then owes lock else 0

variable {thread : Thread} {locks : Locks Thread}

theorem CountsBy.of_acquire {lock : Lock} {taken : RLock Thread} {owed owes : Lock → Nat}
    (acquired : (locks.state lock).acquire? thread = some taken)
    (more : ∀ other, owes other = owed other + if other = lock then 1 else 0) :
    CountsBy thread locks (locks.setState lock taken) owed owes := by
  intro other by_whom
  rw [Locks.state_setState, more other]
  by_cases same : other = lock
  · subst same
    have counted := RLock.count_acquire acquired by_whom
    simp only [if_true]
    split at counted
    · next mine =>
        simp only [if_pos mine]
        omega
    · next others =>
        simp only [if_neg others]
        omega
  · simp only [if_neg same, Nat.add_zero]

theorem CountsBy.of_release {lock : Lock} {left : RLock Thread} {owed owes : Lock → Nat}
    (released : (locks.state lock).release? thread = some left)
    (less : ∀ other, owes other + (if other = lock then 1 else 0) = owed other) :
    CountsBy thread locks (locks.setState lock left) owed owes := by
  intro other by_whom
  rw [Locks.state_setState, ← less other]
  by_cases same : other = lock
  · subst same
    have counted := RLock.count_release released by_whom
    simp only [if_true]
    split at counted
    · next mine =>
        simp only [if_pos mine]
        omega
    · next others =>
        simp only [if_neg others]
        omega
  · simp only [if_neg same, Nat.add_zero]

theorem CountsBy.of_state {after : Locks Thread} {owed owes : Lock → Nat}
    (state : after.state = locks.state) (same : ∀ other, owes other = owed other) :
    CountsBy thread locks after owed owes := by
  intro other by_whom
  rw [state, same other]

theorem Cleanup.step?_counts {cleanup : Cleanup} {after : Locks Thread × Cleanup}
    (stepped : cleanup.step? thread locks = some after) :
    CountsBy thread locks after.1 (fun lock => cleanup.owes lock) (fun lock => after.2.owes lock) := by
  cases cleanup with
  | entering activeFriends now =>
      obtain ⟨guard, acquired, rfl⟩ := Option.map_eq_some_iff.mp stepped
      exact .of_acquire acquired fun other => by simp [Cleanup.owes]
  | looping staleNames removed =>
      cases staleNames with
      | nil =>
          obtain ⟨guard, released, rfl⟩ := Option.map_eq_some_iff.mp stepped
          exact .of_release released fun other => by simp [Cleanup.owes]
      | cons name staleNames =>
          simp only [Cleanup.step?] at stepped
          split at stepped
          · cases stepped
            exact .of_state rfl fun other => rfl
          · next lock found =>
              split at stepped
              · next taken acquired =>
                  cases stepped
                  exact .of_acquire acquired fun other => rfl
              · cases stepped
                exact .of_state rfl fun other => rfl
  | probed name lock staleNames removed =>
      obtain ⟨left, released, rfl⟩ := Option.map_eq_some_iff.mp stepped
      exact .of_release released fun other => rfl
  | unheld name staleNames removed =>
      cases stepped
      exact .of_state rfl fun other => rfl
  | returned removed => cases stepped

theorem Caller.step?_counts {caller : Caller} {action : Action} {after : Locks Thread × Caller}
    (stepped : caller.step? thread locks action = some after) :
    CountsBy thread locks after.1 caller.owes after.2.owes := by
  obtain ⟨held, phase⟩ := caller
  cases phase with
  | ready =>
      cases action with
      | getLock friendName now =>
          simp only [Caller.step?] at stepped
          split at stepped
          · cases stepped
            exact .of_state (locks.state_getFriendLock friendName now) fun other => rfl
          · cases stepped
      | release friendName lock =>
          simp only [Caller.step?] at stepped
          split at stepped
          · next member =>
              obtain ⟨left, released, rfl⟩ := Option.map_eq_some_iff.mp stepped
              refine .of_release released fun other => ?_
              have counted := List.countP_erase (fun entry : String × Lock => entry.2 = other) held
                (friendName, lock)
              have positive (same : lock = other) :
                  0 < held.countP fun entry => entry.2 = other :=
                List.countP_pos_iff.mpr ⟨_, member, decide_eq_true same⟩
              simp only [Caller.owes, Phase.owes, Nat.add_zero, counted, member, true_and,
                decide_eq_true_eq]
              by_cases same : lock = other
              · have := positive same
                simp only [if_pos same, if_pos same.symm]
                omega
              · simp only [if_neg same, if_neg (Ne.symm same)]
                omega
          · cases stepped
      | cleanup activeFriends now =>
          cases stepped
          exact .of_state rfl fun other => rfl
      | _ => cases stepped
  | acquiring friendName lock =>
      cases action with
      | acquire =>
          obtain ⟨taken, acquired, rfl⟩ := Option.map_eq_some_iff.mp stepped
          refine .of_acquire acquired fun other => ?_
          simp only [Caller.owes, Phase.owes, List.countP_append, List.countP_singleton,
            decide_eq_true_eq, eq_comm (a := lock)]
          omega
      | timeOut =>
          cases stepped
          exact .of_state rfl fun other => rfl
      | _ => cases stepped
  | cleaning cleanup =>
      cases action with
      | cleanupStep =>
          obtain ⟨next, advanced, rfl⟩ := Option.map_eq_some_iff.mp stepped
          have counted := Cleanup.step?_counts advanced
          intro other by_whom
          have := counted other by_whom
          simp only [Caller.owes, Phase.owes] at this ⊢
          split
          · next mine =>
              simp only [if_pos mine] at this
              omega
          · next others =>
              simp only [if_neg others] at this
              omega
      | cleanupReturn =>
          cases cleanup with
          | returned removed =>
              cases stepped
              exact .of_state rfl fun other => rfl
          | _ => cases stepped
      | _ => cases stepped

end Counts

/-- The locks and every thread between two atomic steps. -/
structure Locking (Thread : Type) where
  locks : Locks Thread
  callers : Thread → Caller

section Runs

variable {Thread : Type} [DecidableEq Thread]

def Locking.step? (state : Locking Thread) (thread : Thread) (action : Action) :
    Option (Locking Thread) :=
  ((state.callers thread).step? thread state.locks action).map fun after =>
    ⟨after.1, Function.update state.callers thread after.2⟩

/-- Any number of threads, and every interleaving of their steps. -/
def locking (Thread : Type) [DecidableEq Thread] : Machine (Locking Thread) (Thread × Action) where
  start state := state.locks.friendLocks = .empty ∧ state.locks.friendLockTimestamps = .empty ∧
    (∀ lock, state.locks.state lock = .free) ∧ ∀ thread, state.callers thread = ⟨[], .ready⟩
  enabled state event := (state.step? event.1 event.2).isSome
  apply state event := (state.step? event.1 event.2).getD state

/-- The thread holds a lock that `_acquire_friend_lock` returned to it for this friend. -/
def Locking.Holds (state : Locking Thread) (thread : Thread) (friendName : String) : Prop :=
  ∃ lock, (friendName, lock) ∈ (state.callers thread).held

/-- The lock looked up and not yet acquired. -/
def Phase.wanted : Phase → Option (String × Lock)
  | .acquiring friendName lock => some (friendName, lock)
  | _ => none

def Caller.uses (caller : Caller) : List (String × Lock) :=
  caller.held ++ caller.phase.wanted.toList

/-- The thread holds a lock for this friend, or has looked one up to acquire it. -/
def Caller.Uses (caller : Caller) (friendName : String) : Prop :=
  ∃ entry ∈ caller.uses, entry.1 = friendName

instance (caller : Caller) (friendName : String) : Decidable (caller.Uses friendName) :=
  inferInstanceAs (Decidable (∃ entry ∈ caller.uses, entry.1 = friendName))

/-- The name whose lock the step deletes. -/
def Caller.removes (caller : Caller) (action : Action) : Option String :=
  match caller.phase, action with
  | .cleaning (.unheld name _ _), .cleanupStep => some name
  | _, _ => none

section Uses

variable {thread : Thread} {locks : Locks Thread}

theorem Cleanup.step?_friendLocks {cleanup : Cleanup} {after : Locks Thread × Cleanup}
    (stepped : cleanup.step? thread locks = some after) :
    after.1.friendLocks = locks.friendLocks ∨ ∃ name staleNames removed,
      cleanup = .unheld name staleNames removed ∧
        after.1.friendLocks = locks.friendLocks.erase name := by
  cases cleanup with
  | entering activeFriends now =>
      obtain ⟨guard, acquired, rfl⟩ := Option.map_eq_some_iff.mp stepped
      exact .inl rfl
  | looping staleNames removed =>
      cases staleNames with
      | nil =>
          obtain ⟨guard, released, rfl⟩ := Option.map_eq_some_iff.mp stepped
          exact .inl rfl
      | cons name staleNames =>
          simp only [Cleanup.step?] at stepped
          split at stepped
          · cases stepped
            exact .inl rfl
          · split at stepped
            · cases stepped
              exact .inl rfl
            · cases stepped
              exact .inl rfl
  | probed name lock staleNames removed =>
      obtain ⟨left, released, rfl⟩ := Option.map_eq_some_iff.mp stepped
      exact .inl rfl
  | unheld name staleNames removed =>
      cases stepped
      exact .inr ⟨name, staleNames, removed, rfl, rfl⟩
  | returned removed => cases stepped

variable {caller : Caller} {action : Action} {after : Locks Thread × Caller}

/-- The table changes in a lookup and in the `del` of a cleanup, and nowhere else. -/
theorem Caller.step?_friendLocks (stepped : caller.step? thread locks action = some after) :
    after.1.friendLocks = locks.friendLocks ∨
    (∃ friendName now, after.1 = (locks.getFriendLock friendName now).2) ∨
    ∃ name, caller.removes action = some name ∧
      after.1.friendLocks = locks.friendLocks.erase name := by
  obtain ⟨held, phase⟩ := caller
  cases phase with
  | ready =>
      cases action with
      | getLock friendName now =>
          simp only [Caller.step?] at stepped
          split at stepped
          · cases stepped
            exact .inr (.inl ⟨friendName, now, rfl⟩)
          · cases stepped
      | release friendName lock =>
          simp only [Caller.step?] at stepped
          split at stepped
          · obtain ⟨left, released, rfl⟩ := Option.map_eq_some_iff.mp stepped
            exact .inl rfl
          · cases stepped
      | cleanup activeFriends now =>
          cases stepped
          exact .inl rfl
      | _ => cases stepped
  | acquiring friendName lock =>
      cases action with
      | acquire =>
          obtain ⟨taken, acquired, rfl⟩ := Option.map_eq_some_iff.mp stepped
          exact .inl rfl
      | timeOut =>
          cases stepped
          exact .inl rfl
      | _ => cases stepped
  | cleaning cleanup =>
      cases action with
      | cleanupStep =>
          obtain ⟨next, advanced, rfl⟩ := Option.map_eq_some_iff.mp stepped
          obtain same | ⟨name, staleNames, removed, rfl, erased⟩ := Cleanup.step?_friendLocks advanced
          · exact .inl same
          · exact .inr (.inr ⟨name, rfl, erased⟩)
      | cleanupReturn =>
          cases cleanup with
          | returned removed =>
              cases stepped
              exact .inl rfl
          | _ => cases stepped
      | _ => cases stepped

theorem Caller.step?_keeps (stepped : caller.step? thread locks action = some after)
    {name : String} {lock : Lock} (found : locks.friendLocks.get? name = some lock)
    (unremoved : caller.removes action ≠ some name) :
    after.1.friendLocks.get? name = some lock := by
  obtain same | ⟨friendName, now, looked⟩ | ⟨removed, removes, erased⟩ :=
    Caller.step?_friendLocks stepped
  · rw [same]
    exact found
  · rw [looked]
    exact Locks.get?_getFriendLock_of_some found friendName now
  · have apart : name ≠ removed := by
      rintro rfl
      exact unremoved removes
    rw [erased]
    exact (locks.friendLocks.get?_erase_of_ne apart).trans found

/-- A lock that the table newly keeps was made for the name it is kept under. -/
theorem Caller.step?_made (stepped : caller.step? thread locks action = some after)
    {name : String} {lock : Lock} (found : after.1.friendLocks.get? name = some lock) :
    locks.friendLocks.get? name = some lock ∨ ∃ serial, lock = .friend name serial := by
  obtain same | ⟨friendName, now, looked⟩ | ⟨removed, removes, erased⟩ :=
    Caller.step?_friendLocks stepped
  · rw [same] at found
    exact .inl found
  · rw [looked] at found
    exact Locks.made_of_getFriendLock found
  · rw [erased, Dict.get?_erase] at found
    split at found
    · cases found
    · exact .inl found

/-- What a thread newly uses it has just looked up. -/
theorem Caller.step?_uses (stepped : caller.step? thread locks action = some after)
    {entry : String × Lock} (member : entry ∈ after.2.uses) :
    entry ∈ caller.uses ∨ after.1.friendLocks.get? entry.1 = some entry.2 := by
  obtain ⟨held, phase⟩ := caller
  cases phase with
  | ready =>
      cases action with
      | getLock friendName now =>
          simp only [Caller.step?] at stepped
          split at stepped
          · cases stepped
            rcases List.mem_append.mp member with old | new
            · exact .inl (List.mem_append_left _ old)
            · cases List.mem_singleton.mp new
              exact .inr (locks.get?_getFriendLock friendName now)
          · cases stepped
      | release friendName released =>
          simp only [Caller.step?] at stepped
          split at stepped
          · obtain ⟨left, released, rfl⟩ := Option.map_eq_some_iff.mp stepped
            rcases List.mem_append.mp member with old | new
            · exact .inl (List.mem_append_left _ (List.mem_of_mem_erase old))
            · cases new
          · cases stepped
      | cleanup activeFriends now =>
          cases stepped
          exact .inl member
      | _ => cases stepped
  | acquiring friendName wanted =>
      cases action with
      | acquire =>
          obtain ⟨taken, acquired, rfl⟩ := Option.map_eq_some_iff.mp stepped
          simp only [Caller.uses, Phase.wanted, Option.toList_none, List.append_nil] at member
          exact .inl member
      | timeOut =>
          cases stepped
          rcases List.mem_append.mp member with old | new
          · exact .inl (List.mem_append_left _ old)
          · cases new
      | _ => cases stepped
  | cleaning cleanup =>
      cases action with
      | cleanupStep =>
          obtain ⟨next, advanced, rfl⟩ := Option.map_eq_some_iff.mp stepped
          exact .inl member
      | cleanupReturn =>
          cases cleanup with
          | returned removed =>
              cases stepped
              exact .inl member
          | _ => cases stepped
      | _ => cases stepped

end Uses

/-- No lock is removed while a thread, the removing one included, holds it or is about to
acquire it. -/
def RemovesUnused (state : Locking Thread) (event : Thread × Action) : Prop :=
  ∀ name ∈ (state.callers event.1).removes event.2, ∀ other, ¬ (state.callers other).Uses name

instance [Fintype Thread] (state : Locking Thread) (event : Thread × Action) :
    Decidable (RemovesUnused state event) :=
  inferInstanceAs (Decidable (∀ name ∈ (state.callers event.1).removes event.2,
    ∀ other, ¬ (state.callers other).Uses name))

instance (state : Locking Thread) (event : Thread × Action) :
    Decidable ((locking Thread).enabled state event) :=
  inferInstanceAs (Decidable ((state.step? event.1 event.2).isSome = true))

theorem Locking.step_cases {state after : Locking Thread} {thread : Thread} {action : Action}
    (stepped : state.step? thread action = some after) :
    ∃ caller, (state.callers thread).step? thread state.locks action = some (after.locks, caller) ∧
      after.callers = Function.update state.callers thread caller := by
  obtain ⟨next, advanced, rfl⟩ := Option.map_eq_some_iff.mp stepped
  exact ⟨next.2, advanced, rfl⟩

theorem step?_of_enabled {state : Locking Thread} {event : Thread × Action}
    (enabled : (locking Thread).enabled state event) :
    state.step? event.1 event.2 = some ((locking Thread).apply state event) := by
  obtain ⟨after, stepped⟩ := Option.isSome_iff_exists.mp enabled
  simp only [locking, stepped, Option.getD_some]

/-- Every lock is held as often as the threads owe releases of it. -/
def Counted (state : Locking Thread) : Prop :=
  ∀ lock thread, (state.locks.state lock).count thread = (state.callers thread).owes lock

theorem Counted.step {state after : Locking Thread} {thread : Thread} {action : Action}
    (counted : Counted state) (stepped : state.step? thread action = some after) :
    Counted after := by
  obtain ⟨caller, advanced, callers⟩ := Locking.step_cases stepped
  intro lock other
  have change := Caller.step?_counts advanced lock other
  have before := counted lock other
  rw [callers, Function.update_apply]
  split
  · next mine =>
      subst mine
      simp only [if_true] at change
      omega
  · next others =>
      simp only [if_neg others] at change
      omega

theorem Counted.pos_of_held {state : Locking Thread} (counted : Counted state) {thread : Thread}
    {friendName : String} {lock : Lock}
    (held : (friendName, lock) ∈ (state.callers thread).held) :
    0 < (state.locks.state lock).count thread := by
  rw [counted lock thread]
  have present : 0 < (state.callers thread).held.countP fun entry => entry.2 = lock :=
    List.countP_pos_iff.mpr ⟨_, held, decide_eq_true rfl⟩
  exact Nat.lt_add_right _ present

theorem Counted.of_reachable {allowed : Locking Thread → Thread × Action → Prop}
    {state : Locking Thread} (reachable : (locking Thread).Reachable allowed state) :
    Counted state := by
  refine reachable.invariant _ Counted ?_ ?_
  · rintro state ⟨-, -, free, ready⟩ lock thread
    rw [free lock, ready thread]
    rfl
  · intro state event before counted enabled permitted
    exact counted.step (step?_of_enabled enabled)

/-- What a thread holds or is about to acquire is the lock now kept under that name. -/
def UsesCurrent (state : Locking Thread) : Prop :=
  ∀ thread, ∀ entry ∈ (state.callers thread).uses,
    state.locks.friendLocks.get? entry.1 = some entry.2

theorem UsesCurrent.step {state after : Locking Thread} {thread : Thread} {action : Action}
    (current : UsesCurrent state) (permitted : RemovesUnused state (thread, action))
    (stepped : state.step? thread action = some after) : UsesCurrent after := by
  obtain ⟨caller, advanced, callers⟩ := Locking.step_cases stepped
  have kept (other : Thread) (entry : String × Lock) (member : entry ∈ (state.callers other).uses) :
      after.locks.friendLocks.get? entry.1 = some entry.2 := by
    apply Caller.step?_keeps advanced (current other entry member)
    intro removed
    exact permitted entry.1 removed other ⟨entry, member, rfl⟩
  intro other entry member
  rw [callers, Function.update_apply] at member
  split at member
  · obtain old | new := Caller.step?_uses advanced member
    · exact kept thread entry old
    · exact new
  · exact kept other entry member

theorem UsesCurrent.of_reachable {state : Locking Thread}
    (reachable : (locking Thread).Reachable RemovesUnused state) : UsesCurrent state := by
  refine reachable.invariant _ UsesCurrent ?_ ?_
  · rintro state ⟨-, -, -, ready⟩ thread entry member
    rw [ready thread] at member
    cases member
  · intro state event before current enabled permitted
    exact current.step permitted (step?_of_enabled enabled)

theorem friend_lock_exclusive {state : Locking Thread}
    (reachable : (locking Thread).Reachable RemovesUnused state) {friendName : String}
    {first second : Thread} (held_first : state.Holds first friendName)
    (held_second : state.Holds second friendName) : first = second := by
  obtain ⟨lock, mine⟩ := held_first
  obtain ⟨other, yours⟩ := held_second
  have current := UsesCurrent.of_reachable reachable
  have same : lock = other := by
    have found := current first _ (List.mem_append_left _ mine)
    rw [current second _ (List.mem_append_left _ yours)] at found
    exact (Option.some.inj found).symm
  subst same
  have counted := Counted.of_reachable reachable
  exact RLock.eq_of_count_pos (counted.pos_of_held mine) (counted.pos_of_held yours)

end Runs

section Toy

def toyReady : Locking Bool :=
  ⟨⟨.empty, .empty, fun _ => .free, 0⟩, fun _ => ⟨[], .ready⟩⟩

theorem toyReady_start : (locking Bool).start toyReady :=
  ⟨rfl, rfl, fun _ => rfl, fun _ => rfl⟩

/-- A whole call of `cleanup_friend_locks` that finds one lock to remove. -/
def toyCleanup (thread : Bool) : List (Bool × Action) :=
  [(thread, .cleanup (some []) 0), (thread, .cleanupStep), (thread, .cleanupStep),
    (thread, .cleanupStep), (thread, .cleanupStep), (thread, .cleanupStep),
    (thread, .cleanupReturn)]

/-- A lock is taken and given back before it is removed. -/
def toyUnused : List (Bool × Action) :=
  [(true, .getLock "alice" 0), (true, .acquire), (true, .release "alice" (.friend "alice" 0))] ++
    toyCleanup false ++ [(false, .getLock "alice" 0), (false, .acquire)]

theorem toyUnused_exclusive :
    let state := (locking Bool).run toyReady (toyUnused.map fun event _ => event)
    state.Holds false "alice" ∧ ¬ state.Holds true "alice" := by
  have reachable : (locking Bool).Reachable RemovesUnused
      ((locking Bool).run toyReady (toyUnused.map fun event _ => event)) :=
    Machine.Reachable.run (.start toyReady_start) (by decide +kernel)
  have holds : ((locking Bool).run toyReady (toyUnused.map fun event _ => event)).Holds false
      "alice" := ⟨.friend "alice" 1, by decide +kernel⟩
  refine ⟨holds, fun other => ?_⟩
  exact Bool.false_ne_true (friend_lock_exclusive reachable holds other)

/-- The lock is removed after one thread has looked it up, and the other thread is given a
new one under the same name. -/
def toyRelookup : List (Bool × Action) :=
  (true, .getLock "alice" 0) :: toyCleanup false ++
    [(false, .getLock "alice" 0), (true, .acquire), (false, .acquire)]

theorem toyRelookup_both_hold :
    ¬ ∀ state, (locking Bool).Reachable (fun _ _ => True) state → ∀ friendName first second,
      state.Holds first friendName → state.Holds second friendName → first = second := by
  intro exclusive
  have reachable : (locking Bool).Reachable (fun _ _ => True)
      ((locking Bool).run toyReady (toyRelookup.map fun event _ => event)) :=
    Machine.Reachable.run (.start toyReady_start) (by decide +kernel)
  have first : ((locking Bool).run toyReady (toyRelookup.map fun event _ => event)).Holds true
      "alice" := ⟨.friend "alice" 0, by decide +kernel⟩
  have second : ((locking Bool).run toyReady (toyRelookup.map fun event _ => event)).Holds false
      "alice" := ⟨.friend "alice" 1, by decide +kernel⟩
  exact Bool.false_ne_true (exclusive _ reachable "alice" false true second first)

end Toy

end UltimateEnigma.RatchetService
