import UltimateEnigma.KeyStore
import UltimateEnigma.Machine
import Mathlib.Algebra.Order.Ring.Rat
import Mathlib.Tactic.IntervalCases
import Mathlib.Tactic.Linarith

set_option autoImplicit false

namespace UltimateEnigma.Lockout

open Py KeyStore

def backoffTable : List Nat := [0, 0, 0, 0, 0, 5, 10, 30, 60, 120, 300, 600, 1800, 3600]

def hardLockoutThreshold : Nat := 15

def hardLockoutDuration : Rat := 3600

/-- The attributes of a `LockoutManager`, and what it saves of them. -/
structure LockoutManager where
  failedAttempts : Nat := 0
  lockedUntil : Rat := 0
deriving DecidableEq, Repr

/-- The text of the setting `lockout_data`. -/
inductive LockoutRow where
  | json (state : LockoutManager)
  | malformed
deriving DecidableEq, Repr

/-- The settings that a login reads and writes. -/
structure Settings where
  globalSecret : Option Wrapper
  duressVerifier : Option Wrapper
  lockoutData : Option LockoutRow
deriving DecidableEq, Repr

/-- Of a `KeyStore` object, what a login uses. -/
structure Store where
  lockout : LockoutManager
  duressMode : Bool := false
deriving DecidableEq, Repr

/-- One `KeyStore` object and the database. -/
structure Login where
  store : Store
  settings : Settings
deriving DecidableEq, Repr

/-- What leaves `KeyStore.verify_password`. -/
inductive Refusal where
  | lockoutError (remainingSeconds lockedUntil : Rat)
  | raised (cause : Raised)
deriving DecidableEq, Repr

namespace LockoutManager

/-- `_load_state`. -/
def loadState : Option LockoutRow → LockoutManager
  | some (.json state) => state
  | some .malformed => {}
  | none => {}

/-- The entry of the back-off table for a number of failures. -/
def backoff (failures : Nat) : Nat :=
  backoffTable.getD (min failures (backoffTable.length - 1)) 0

def getDelay (manager : LockoutManager) (now : Rat) : Rat :=
  if now < manager.lockedUntil then
    manager.lockedUntil - now
  else
    backoff manager.failedAttempts

/-- `record_failure`, without the `save_state` at its end. -/
def countFailure (manager : LockoutManager) (now : Rat) : LockoutManager :=
  if hardLockoutThreshold ≤ manager.failedAttempts + 1 then
    { failedAttempts := manager.failedAttempts + 1, lockedUntil := now + hardLockoutDuration }
  else
    { manager with failedAttempts := manager.failedAttempts + 1 }

theorem backoff_eq_zero_iff (failures : Nat) : backoff failures = 0 ↔ failures < 5 := by
  by_cases small : failures < 14
  · interval_cases failures <;> decide
  · have capped : min failures (backoffTable.length - 1) = 13 := by
      simp only [backoffTable, List.length_cons, List.length_nil]
      omega
    rw [backoff, capped]
    constructor
    · intro impossible
      cases impossible
    · omega

theorem getDelay_of_expired {manager : LockoutManager} {now : Rat}
    (expired : manager.lockedUntil ≤ now) :
    manager.getDelay now = backoff manager.failedAttempts := by
  rw [getDelay, if_neg (not_lt.mpr expired)]

theorem getDelay_nonneg (manager : LockoutManager) (now : Rat) : 0 ≤ manager.getDelay now := by
  unfold getDelay
  split
  · linarith
  · exact Nat.cast_nonneg _

/-- Once the deadline has passed, only a short streak of failures leaves no delay. -/
theorem getDelay_eq_zero_iff {manager : LockoutManager} {now : Rat}
    (expired : manager.lockedUntil ≤ now) :
    manager.getDelay now = 0 ↔ manager.failedAttempts < 5 := by
  rw [getDelay_of_expired expired, Nat.cast_eq_zero, backoff_eq_zero_iff]

end LockoutManager

section Verifiers

variable {Priv Pub Pem : Type} (P : Primitives Priv Pub Pem)

/-- `json.loads` of both verifiers; the first that fails ends the `try`. -/
def loadVerifiers (settings : Settings) : Option EncValue × Option EncValue :=
  match settings.globalSecret with
  | some .malformed => (none, none)
  | some (.json master) =>
      match settings.duressVerifier with
      | some (.json duress) => (some master, some duress)
      | _ => (some master, none)
  | none =>
      match settings.duressVerifier with
      | some (.json duress) => (none, some duress)
      | _ => (none, none)

/-- One of the two derivations, with `except (ValueError, TypeError, InvalidTag)`. -/
def testVerifier (password : Bytes) : Option EncValue → Except Raised Bool
  | none => .ok false
  | some enc =>
      match decryptSecret P enc password with
      | .ok _ => .ok true
      | .error raised =>
          if raised.isValueOrType || raised == .invalidTag then .ok false else .error raised

abbrev LoginCall (α : Type) : Type := Call Refusal Login α

/-- Assign the attributes and save them. -/
def saveState (state : LockoutManager) : LoginCall Unit :=
  Call.modify fun login =>
    { store := { login.store with lockout := state }
      settings := { login.settings with lockoutData := some (.json state) } }

def setDuressMode (duressMode : Bool) : LoginCall Unit :=
  Call.modify fun login => { login with store := { login.store with duressMode := duressMode } }

def orRefuse {α : Type} : Except Raised α → LoginCall α
  | .ok value => return value
  | .error raised => Call.raise (.raised raised)

/-- `KeyStore.verify_password`. `now` and `done` are what `time.time()` returns at the
delay check and when a failure is recorded. -/
def verifyPassword (now done : Rat) (password : Bytes) : LoginCall Bool := do
  let login ← Call.read
  let delay := login.store.lockout.getDelay now
  if 0 < delay then
    Call.raise (.lockoutError delay login.store.lockout.lockedUntil)
  else do
    let verifiers := loadVerifiers login.settings
    let masterOk ← orRefuse (testVerifier P password verifiers.1)
    let duressOk ← orRefuse (testVerifier P password verifiers.2)
    if masterOk then do
      saveState {}
      setDuressMode false
      return true
    else if duressOk then do
      saveState {}
      setDuressMode true
      return true
    else do
      saveState (login.store.lockout.countFailure done)
      return false

/-- Whether a stored verifier decrypts under this password. -/
def opens (verifier : Option Wrapper) (password : Bytes) : Bool :=
  match verifier with
  | none => false
  | some wrapper => (unwrap P wrapper password).isOk

/-- Whether the password is the master or the duress password. -/
def accepts (settings : Settings) (password : Bytes) : Bool :=
  opens P settings.globalSecret password || opens P settings.duressVerifier password

/-- A verifier that `encrypt_secret` made, or none. -/
def Stored (verifier : Option Wrapper) : Prop :=
  ∀ wrapper, verifier = some wrapper →
    ∃ plain owner entropy, wrapper = wrap P plain owner entropy

structure Settings.Sound (settings : Settings) : Prop where
  master : Stored P settings.globalSecret
  duress : Stored P settings.duressVerifier

variable {P}

theorem testVerifier_encryptSecret (lawful : P.Lawful) (plain owner password : Bytes)
    (entropy : Entropy) :
    testVerifier P password (some (.dict (encryptSecret P plain owner entropy))) =
      .ok (opens P (some (wrap P plain owner entropy)) password) := by
  have opened : decryptSecret P (.dict (encryptSecret P plain owner entropy)) password =
      if password = owner then .ok plain else .error .invalidTag :=
    unwrap_wrap lawful plain owner password entropy
  simp only [testVerifier, opens, opened, unwrap_wrap lawful]
  by_cases same : password = owner
  · simp only [same, if_true]
    rfl
  · simp only [same, if_false]
    rfl

/-- Sound verifiers are read back whole, and testing them never raises. -/
theorem testVerifier_loadVerifiers (lawful : P.Lawful) {settings : Settings}
    (sound : settings.Sound P) (password : Bytes) :
    testVerifier P password (loadVerifiers settings).1 =
        .ok (opens P settings.globalSecret password) ∧
      testVerifier P password (loadVerifiers settings).2 =
        .ok (opens P settings.duressVerifier password) := by
  have master := sound.master
  have duress := sound.duress
  unfold loadVerifiers
  cases first : settings.globalSecret with
  | none =>
      cases second : settings.duressVerifier with
      | none => exact ⟨rfl, rfl⟩
      | some wrapper =>
          obtain ⟨plain, owner, entropy, rfl⟩ := duress wrapper second
          exact ⟨rfl, testVerifier_encryptSecret lawful plain owner password entropy⟩
  | some wrapper =>
      obtain ⟨plain, owner, entropy, rfl⟩ := master wrapper first
      have tested := testVerifier_encryptSecret lawful plain owner password entropy
      cases second : settings.duressVerifier with
      | none => exact ⟨tested, rfl⟩
      | some wrapper =>
          obtain ⟨decoy, other, draws, rfl⟩ := duress wrapper second
          exact ⟨tested, testVerifier_encryptSecret lawful decoy other password draws⟩

/-- The login after a password that was accepted. -/
def Login.accepted (login : Login) (duressMode : Bool) : Login where
  store := { lockout := {}, duressMode := duressMode }
  settings := { login.settings with lockoutData := some (.json {}) }

/-- The login after a failure recorded at this time. -/
def Login.failed (login : Login) (done : Rat) : Login where
  store := { login.store with lockout := login.store.lockout.countFailure done }
  settings := { login.settings with
    lockoutData := some (.json (login.store.lockout.countFailure done)) }

/-- Under a delay nothing is read or written; without one the answer is the right one. -/
theorem verifyPassword_run (lawful : P.Lawful) (now done : Rat) (password : Bytes) {login : Login}
    (sound : login.settings.Sound P) :
    (verifyPassword P now done password).run login =
      if 0 < login.store.lockout.getDelay now then
        (.error (.lockoutError (login.store.lockout.getDelay now)
          login.store.lockout.lockedUntil), login)
      else if accepts P login.settings password then
        (.ok true, login.accepted (!opens P login.settings.globalSecret password))
      else
        (.ok false, login.failed done) := by
  obtain ⟨master, duress⟩ := testVerifier_loadVerifiers lawful sound password
  rw [verifyPassword, Call.run_read_bind]
  simp only [Call.run_ite]
  split
  · rfl
  · rw [master, duress, accepts]
    cases opens P login.settings.globalSecret password <;>
      cases opens P login.settings.duressVerifier password <;> rfl

end Verifiers

end UltimateEnigma.Lockout
