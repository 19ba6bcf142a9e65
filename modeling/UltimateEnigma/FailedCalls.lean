import UltimateEnigma.FriendLocks
import UltimateEnigma.RatchetService
import UltimateEnigma.Sessions

set_option autoImplicit false

namespace Py.RLock

variable {Thread : Type} [DecidableEq Thread]

/-- What a thread has taken it can give back, and is where it was. -/
theorem release_of_acquire {lock taken : RLock Thread} {thread : Thread}
    (acquired : lock.acquire? thread = some taken) : taken.release? thread = some lock := by
  cases lock with
  | free =>
      cases acquired
      simp only [release?, ↓reduceIte]
  | held owner again =>
      simp only [acquire?] at acquired
      split at acquired
      · rename_i mine
        cases acquired
        simp only [release?, mine, ↓reduceIte]
      · cases acquired

end Py.RLock

namespace UltimateEnigma.RatchetService

open Py DoubleRatchet

/-- The service with its locks. An `RLock` object that is still to be made is free. -/
structure LockedService (Thread Priv Key StorageKey Box : Type) where
  locks : Locks Thread
  service : Service Priv Key StorageKey Box
  unmade (name : String) (serial : Nat) : locks.made ≤ serial →
    locks.state (.friend name serial) = .free

inductive CallError where
  | concurrency (friend : String)
  | service (cause : ServiceError)
deriving DecidableEq, Repr

variable {Thread Priv Dh Key StorageKey Box α : Type}

theorem Locks.made_le_getFriendLock (locks : Locks Thread) (friend : String) (now : Rat) :
    locks.made ≤ (locks.getFriendLock friend now).2.made := by
  unfold getFriendLock
  split
  · exact Nat.le_refl _
  · exact Nat.le_succ _

namespace LockedService

/-- `_get_friend_lock` -/
def getFriendLock (shared : LockedService Thread Priv Key StorageKey Box) (friend : String)
    (now : Rat) : Lock × LockedService Thread Priv Key StorageKey Box :=
  ((shared.locks.getFriendLock friend now).1,
    ⟨(shared.locks.getFriendLock friend now).2, shared.service, by
      intro name serial later
      rw [Locks.state_getFriendLock]
      exact shared.unmade name serial
        (Nat.le_trans (shared.locks.made_le_getFriendLock friend now) later)⟩)

variable [DecidableEq Thread]

/-- The body of `encrypt_message` or `decrypt_message` between `_acquire_friend_lock` and the
`finally` that releases the lock. Where another thread holds it, the call times out. -/
def withFriendLock (shared : LockedService Thread Priv Key StorageKey Box) (thread : Thread)
    (friend : String) (now : Rat) (body : ServiceCall Priv Key StorageKey Box α) :
    Except CallError α × LockedService Thread Priv Key StorageKey Box :=
  let lock := (shared.getFriendLock friend now).1
  let found := (shared.getFriendLock friend now).2
  match acquired : (found.locks.state lock).acquire? thread with
  | none => (.error (.concurrency friend), found)
  | some taken =>
      let outcome := body.run found.service
      let left := (taken.release? thread).get (by rw [RLock.release_of_acquire acquired]; rfl)
      (outcome.1.mapError .service,
        ⟨(found.locks.setState lock taken).setState lock left, outcome.2, by
          have same : left = found.locks.state lock := by
            simp only [left, RLock.release_of_acquire acquired, Option.get_some]
          intro name serial later
          rw [Locks.state_setState, Locks.state_setState]
          split
          · rename_i own
            rw [same, ← own]
            exact found.unmade name serial later
          · exact found.unmade name serial later⟩)

/-- The state of the lock that the friend's calls take, which may still be to be made. -/
def lockState (shared : LockedService Thread Priv Key StorageKey Box) (friend : String) :
    RLock Thread :=
  match shared.locks.friendLocks.get? friend with
  | some lock => shared.locks.state lock
  | none => .free

/-- How many releases of the friend's lock the thread owes. -/
def holdCount (shared : LockedService Thread Priv Key StorageKey Box) (friend : String)
    (thread : Thread) : Nat :=
  (shared.lockState friend).count thread

omit [DecidableEq Thread] in
theorem state_getFriendLock (shared : LockedService Thread Priv Key StorageKey Box)
    (friend : String) (now : Rat) :
    shared.locks.state (shared.getFriendLock friend now).1 = shared.lockState friend := by
  show shared.locks.state (shared.locks.getFriendLock friend now).1 = shared.lockState friend
  cases found : shared.locks.friendLocks.get? friend with
  | some lock => simp only [Locks.getFriendLock, lockState, found]
  | none =>
      simp only [Locks.getFriendLock, lockState, found]
      exact shared.unmade friend shared.locks.made (Nat.le_refl _)

omit [DecidableEq Thread] in
theorem lockState_getFriendLock (shared : LockedService Thread Priv Key StorageKey Box)
    (friend other : String) (now : Rat) :
    (shared.getFriendLock friend now).2.lockState other = shared.lockState other := by
  by_cases same : other = friend
  · subst same
    have entry := shared.locks.get?_getFriendLock other now
    rw [← shared.state_getFriendLock other now, lockState]
    simp only [getFriendLock, entry, Locks.state_getFriendLock]
  · have entry : (shared.locks.getFriendLock friend now).2.friendLocks.get? other =
        shared.locks.friendLocks.get? other := by
      unfold Locks.getFriendLock
      split
      · rfl
      · exact shared.locks.friendLocks.get?_set_of_ne _ same
    simp only [lockState, getFriendLock, entry, Locks.state_getFriendLock]

/-- The lock is back where it was when the call ends, and so is every other one. -/
theorem lockState_withFriendLock (shared : LockedService Thread Priv Key StorageKey Box)
    (thread : Thread) (friend other : String) (now : Rat)
    (body : ServiceCall Priv Key StorageKey Box α) :
    (shared.withFriendLock thread friend now body).2.lockState other = shared.lockState other := by
  rw [← shared.lockState_getFriendLock friend other now]
  unfold withFriendLock
  simp only
  split
  · rfl
  · rename_i taken acquired
    have restored : ∀ lock, ((((shared.getFriendLock friend now).2.locks.setState
        (shared.getFriendLock friend now).1 taken).setState (shared.getFriendLock friend now).1
          ((taken.release? thread).get (by rw [RLock.release_of_acquire acquired]; rfl))).state
            lock) = (shared.getFriendLock friend now).2.locks.state lock := by
      intro lock
      rw [Locks.state_setState, Locks.state_setState]
      split
      · rename_i own
        rw [own]
        simp only [RLock.release_of_acquire acquired, Option.get_some]
      · rfl
    unfold lockState
    simp only [restored, Locks.friendLocks_setState]

/-- What the call answers, and what it does to the service, depends on the friend's lock
and on the service alone. -/
theorem withFriendLock_eq (shared : LockedService Thread Priv Key StorageKey Box)
    (thread : Thread) (friend : String) (now : Rat) (body : ServiceCall Priv Key StorageKey Box α) :
    ((shared.withFriendLock thread friend now body).1,
        (shared.withFriendLock thread friend now body).2.service) =
      match (shared.lockState friend).acquire? thread with
      | none => (.error (.concurrency friend), shared.service)
      | some _ => ((body.run shared.service).1.mapError .service, (body.run shared.service).2) := by
  have state : (shared.getFriendLock friend now).2.locks.state (shared.getFriendLock friend now).1 =
      shared.lockState friend := by
    rw [← shared.state_getFriendLock friend now]
    exact congrFun (shared.locks.state_getFriendLock friend now) _
  rw [← state]
  unfold withFriendLock
  simp only
  split <;> rename_i acquired
  · simp only [acquired]
    rfl
  · simp only [acquired]
    rfl

end LockedService

section Calls

variable (P : Primitives Priv Dh Key) (cipher : StorageCipher Priv Key StorageKey Box)

/-- Where the read of the friend's row raises, nothing else is done. -/
def readingRow (friend : String) (fails : Bool) (body : ServiceCall Priv Key StorageKey Box α) :
    ServiceCall Priv Key StorageKey Box α :=
  if fails then Call.raise (.database friend) else body

/-- A call of `encrypt_message` or `decrypt_message` by a thread. -/
inductive FriendCall (Thread Priv : Type) where
  | encrypt (thread : Thread) (friend : String) (now : Rat) (fails : Bool) (fresh : Priv)
      (nonce plaintext : Bytes)
  | decrypt (thread : Thread) (friend : String) (now : Rat) (fails : Bool) (fresh : Priv)
      (header ciphertext : Bytes)
deriving DecidableEq

/-- What `encrypt_message` or `decrypt_message` returns. -/
inductive Returned where
  | packet (header ciphertext : Bytes)
  | plaintext (plaintext : Bytes)
deriving DecidableEq

def FriendCall.thread : FriendCall Thread Priv → Thread
  | .encrypt thread .. => thread
  | .decrypt thread .. => thread

def FriendCall.friend : FriendCall Thread Priv → String
  | .encrypt _ friend .. => friend
  | .decrypt _ friend .. => friend

def FriendCall.now : FriendCall Thread Priv → Rat
  | .encrypt _ _ now .. => now
  | .decrypt _ _ now .. => now

def FriendCall.body : FriendCall Thread Priv → ServiceCall Priv Key StorageKey Box Returned
  | .encrypt _ friend _ fails fresh nonce plaintext => readingRow friend fails do
      let (header, ciphertext) ← encryptMessage P cipher friend fresh nonce plaintext
      return .packet header ciphertext
  | .decrypt _ friend _ fails fresh header ciphertext => readingRow friend fails do
      let plaintext ← decryptMessage P cipher friend fresh header ciphertext
      return .plaintext plaintext

variable [DecidableEq Thread]

def LockedService.perform (shared : LockedService Thread Priv Key StorageKey Box)
    (call : FriendCall Thread Priv) :
    Except CallError Returned × LockedService Thread Priv Key StorageKey Box :=
  shared.withFriendLock call.thread call.friend call.now (call.body P cipher)

def LockedService.performAll (shared : LockedService Thread Priv Key StorageKey Box) :
    List (FriendCall Thread Priv) → LockedService Thread Priv Key StorageKey Box
  | [] => shared
  | call :: rest => performAll (shared.perform P cipher call).2 rest

/-- Every call of the sequence raises when its turn comes. -/
def LockedService.AllRaise (shared : LockedService Thread Priv Key StorageKey Box) :
    List (FriendCall Thread Priv) → Prop
  | [] => True
  | call :: rest => (∃ error, (shared.perform P cipher call).1 = .error error) ∧
      AllRaise (shared.perform P cipher call).2 rest

variable {P cipher}

omit [DecidableEq Thread] in
theorem encryptMessage_error {friend : String} {fresh : Priv} {nonce plaintext : Bytes}
    {service after : Service Priv Key StorageKey Box} {error : ServiceError}
    (raised : (encryptMessage P cipher friend fresh nonce plaintext).run service =
      (.error error, after)) : after = service := by
  rw [encryptMessage, Call.run_bind, getRatchetState_run] at raised
  cases loaded : loadedState cipher service friend with
  | error cause =>
      rw [loaded] at raised
      cases raised
      rfl
  | ok state =>
      rw [loaded] at raised
      simp only at raised
      split at raised
      · cases raised
      · cases raised
        rfl
      · cases raised
        rfl

omit [DecidableEq Thread] in
theorem decryptMessage_error {friend : String} {fresh : Priv} {header ciphertext : Bytes}
    {service after : Service Priv Key StorageKey Box} {error : ServiceError}
    (raised : (decryptMessage P cipher friend fresh header ciphertext).run service =
      (.error error, after)) : after = service := by
  rw [decryptMessage, Call.run_bind, getRatchetState_run] at raised
  cases loaded : loadedState cipher service friend with
  | error cause =>
      rw [loaded] at raised
      cases raised
      rfl
  | ok state =>
      rw [loaded] at raised
      simp only at raised
      split at raised
      · cases raised
      · cases raised
        rfl

omit [DecidableEq Thread] in
/-- The state that a call works on is its own copy until the call is through. -/
theorem FriendCall.body_error {call : FriendCall Thread Priv}
    {service after : Service Priv Key StorageKey Box} {error : ServiceError}
    (raised : (call.body P cipher).run service = (.error error, after)) : after = service := by
  cases call with
  | encrypt thread friend now fails fresh nonce plaintext =>
      cases fails with
      | true =>
          cases raised
          rfl
      | false =>
          change (encryptMessage P cipher friend fresh nonce plaintext >>= _).run service = _ at raised
          rw [Call.run_bind] at raised
          split at raised
          · cases raised
          · rename_i failed
            cases raised
            exact encryptMessage_error failed
  | decrypt thread friend now fails fresh header ciphertext =>
      cases fails with
      | true =>
          cases raised
          rfl
      | false =>
          change (decryptMessage P cipher friend fresh header ciphertext >>= _).run service = _
            at raised
          rw [Call.run_bind] at raised
          split at raised
          · cases raised
          · rename_i failed
            cases raised
            exact decryptMessage_error failed

namespace LockedService

variable {shared : LockedService Thread Priv Key StorageKey Box}

theorem perform_error {call : FriendCall Thread Priv} {error : CallError}
    (raised : (shared.perform P cipher call).1 = .error error) :
    (shared.perform P cipher call).2.service = shared.service := by
  have answer := shared.withFriendLock_eq call.thread call.friend call.now (call.body P cipher)
  have result := congrArg Prod.fst answer
  have service := congrArg Prod.snd answer
  simp only [] at result service
  refine service.trans ?_
  rw [show (shared.withFriendLock _ _ _ _).1 = .error error from raised] at result
  split at result
  · rfl
  · cases outcome : (call.body P cipher).run shared.service with
    | mk reply after =>
        rw [outcome] at result
        cases reply with
        | ok value => cases result
        | error cause => exact FriendCall.body_error outcome

theorem perform_congr {other : LockedService Thread Priv Key StorageKey Box}
    (call : FriendCall Thread Priv) (lock : other.lockState call.friend =
      shared.lockState call.friend) (service : other.service = shared.service) :
    (other.perform P cipher call).1 = (shared.perform P cipher call).1 ∧
      (other.perform P cipher call).2.service = (shared.perform P cipher call).2.service := by
  have left := other.withFriendLock_eq call.thread call.friend call.now (call.body P cipher)
  have right := shared.withFriendLock_eq call.thread call.friend call.now (call.body P cipher)
  rw [lock, service, ← right] at left
  exact Prod.mk.inj left

/-- After any calls that raised, the service and the locks are where they were, and every
call answers and does what it would have answered and done before them. -/
theorem failed_calls_leave_no_trace (calls : List (FriendCall Thread Priv))
    (raise : shared.AllRaise P cipher calls) :
    (shared.performAll P cipher calls).service = shared.service ∧
    (∀ friend thread, (shared.performAll P cipher calls).holdCount friend thread =
      shared.holdCount friend thread) ∧
    ∀ later : FriendCall Thread Priv,
      ((shared.performAll P cipher calls).perform P cipher later).1 =
          (shared.perform P cipher later).1 ∧
        ((shared.performAll P cipher calls).perform P cipher later).2.service =
          (shared.perform P cipher later).2.service := by
  have same : (shared.performAll P cipher calls).service = shared.service ∧
      ∀ friend, (shared.performAll P cipher calls).lockState friend = shared.lockState friend := by
    induction calls generalizing shared with
    | nil => exact ⟨rfl, fun _ => rfl⟩
    | cons call rest ih =>
        obtain ⟨⟨error, raised⟩, others⟩ := raise
        obtain ⟨service, locks⟩ := ih others
        refine ⟨service.trans (perform_error raised), fun friend => ?_⟩
        exact (locks friend).trans (shared.lockState_withFriendLock _ _ _ _ _)
  refine ⟨same.1, ?_, ?_⟩
  · intro friend thread
    rw [holdCount, holdCount, same.2 friend]
  · intro later
    exact perform_congr later (same.2 later.friend) same.1

end LockedService

end Calls

def toyStorage : StorageCipher UInt8 Bytes Unit (SerializedState UInt8 Bytes) where
  encrypt _ _ data := data
  decrypt _ box := some box

/-- Bob's side before the first message, and a lock that a thread holds already. -/
def toyLocked : LockedService Bool UInt8 Bytes Unit (SerializedState UInt8 Bytes) where
  locks := {
    friendLocks := Dict.empty.set "alice" (.friend "alice" 0)
    friendLockTimestamps := Dict.empty.set "alice" 0
    state := fun lock => if lock = .friend "alice" 0 then .held true 0 else .free
    made := 1 }
  service := {
    storageKey := some ()
    rows := Dict.empty.set "alice" (some (.json (toyOpening.state .bob).serialize))
    dirty := .empty }
  unmade name serial later := by
    have later : 1 ≤ serial := later
    apply if_neg
    intro same
    cases same
    omega

/-- Alice's second message with a ciphertext that is none, the message itself for a thread
that does not get the lock, and a message to a friend who is not there. -/
def toyFailing : List (FriendCall Bool UInt8) :=
  [.decrypt true "alice" 5 false 12 (toyExchanged.packet 2).1 toyMoment,
   .decrypt false "alice" 6 false 12 (toyExchanged.packet 2).1 (toyExchanged.packet 2).2,
   .encrypt true "carol" 7 false 12 toyMoment [1]]

def toyGenuine : FriendCall Bool UInt8 :=
  .decrypt true "alice" 8 false 12 (toyExchanged.packet 2).1 (toyExchanged.packet 2).2

theorem toyFailing_raise : toyLocked.AllRaise toySpelled toyStorage toyFailing := by
  refine ⟨⟨.service (.decryptionFailed "alice" .invalidTag), ?_⟩, ⟨.concurrency "alice", ?_⟩,
    ⟨.service (.friendNotFound "carol"), ?_⟩, trivial⟩
  · decide +kernel
  · decide +kernel
  · decide +kernel

example : (toyLocked.perform toySpelled toyStorage toyGenuine).1 = .ok (.plaintext [2]) := by
  decide +kernel

theorem toyGenuine_answered :
    ((toyLocked.performAll toySpelled toyStorage toyFailing).perform toySpelled toyStorage
      toyGenuine).1 = (toyLocked.perform toySpelled toyStorage toyGenuine).1 :=
  ((LockedService.failed_calls_leave_no_trace toyFailing toyFailing_raise).2.2 toyGenuine).1

end UltimateEnigma.RatchetService
