import UltimateEnigma.Lockout

set_option autoImplicit false

namespace UltimateEnigma.Lockout

open Py KeyStore LockoutManager

variable {Priv Pub Pem : Type}

/-- One running application, the clock, and when the current streak last failed. -/
structure World where
  now : Rat
  login : Login
  lastFailure : Option Rat
deriving DecidableEq, Repr

/-- `restart` is a new `KeyStore` object over the same database. -/
inductive Event where
  | advance (seconds : Rat)
  | attempt (password : Bytes) (elapsed : Rat)
  | restart
deriving DecidableEq, Repr

/-- A caller waits, then submits a password; the check takes `elapsed`. -/
structure Submission where
  wait : Rat
  password : Bytes
  elapsed : Rat
deriving DecidableEq, Repr

def World.lockout (world : World) : LockoutManager := world.login.store.lockout

def lastFailureAfter (world : World) (done : Rat) : Except Refusal Bool → Option Rat
  | .ok true => none
  | .ok false => some done
  | .error _ => world.lastFailure

section Runs

variable (P : Primitives Priv Pub Pem)

def attempt (world : World) (password : Bytes) (elapsed : Rat) : Except Refusal Bool × World :=
  let (result, login) :=
    (verifyPassword P world.now (world.now + elapsed) password).run world.login
  (result, {
    now := world.now + elapsed
    login := login
    lastFailure := lastFailureAfter world (world.now + elapsed) result })

def restart (world : World) : World :=
  { world with
    login := { world.login with
      store := { lockout := loadState world.login.settings.lockoutData } } }

/-- Every history of a new installation. -/
def history : Machine World Event where
  start world :=
    0 ≤ world.now ∧ world.login.settings.Sound P ∧ world.login.settings.lockoutData = none ∧
      world.lockout = {} ∧ world.lastFailure = none
  enabled _
    | .advance seconds => 0 ≤ seconds
    | .attempt _ elapsed => 0 ≤ elapsed
    | .restart => True
  apply world
    | .advance seconds => { world with now := world.now + seconds }
    | .attempt password elapsed => (attempt P world password elapsed).2
    | .restart => restart world

/-- The deadline has passed, and so has the back-off delay since the last failure. -/
def World.Waited (world : World) : Prop :=
  world.lockout.lockedUntil ≤ world.now ∧
    ∀ failure, world.lastFailure = some failure →
      failure + backoff world.lockout.failedAttempts ≤ world.now

/-- The password is tested: the answer is whether it is the right one. -/
def Evaluates (world : World) (password : Bytes) (elapsed : Rat) : Prop :=
  (attempt P world password elapsed).1 = .ok (accepts P world.login.settings password)

def submit (world : World) (submission : Submission) : Except Refusal Bool × World :=
  attempt P { world with now := world.now + submission.wait } submission.password
    submission.elapsed

def submitAll (world : World) : List Submission → List (Except Refusal Bool) × World
  | [] => ([], world)
  | submission :: rest =>
      let (result, after) := submit P world submission
      let (results, last) := submitAll after rest
      (result :: results, last)

/-- Wrong passwords only, each after the delay that was announced. -/
def Patient (world : World) : List Submission → Prop
  | [] => True
  | submission :: rest =>
      world.lockout.getDelay world.now ≤ submission.wait ∧ 0 ≤ submission.elapsed ∧
        accepts P world.login.settings submission.password = false ∧
        Patient (submit P world submission).2 rest

def AllEvaluated (world : World) (series : List Submission) : Prop :=
  ∀ result ∈ (submitAll P world series).1, result = .ok false

/-- The fifth failure leaves a delay that never runs out, so nothing is counted after it. -/
structure Counted (world : World) : Prop where
  clock : 0 ≤ world.now
  sound : world.login.settings.Sound P
  streak : world.lockout.failedAttempts ≤ 5
  unlocked : world.lockout.lockedUntil = 0
  saved : loadState world.login.settings.lockoutData = world.lockout

end Runs

variable {P : Primitives Priv Pub Pem}

theorem Settings.Sound.relock {settings : Settings} (sound : settings.Sound P)
    (row : Option LockoutRow) : Settings.Sound P { settings with lockoutData := row } :=
  ⟨sound.master, sound.duress⟩

theorem Counted.expired {world : World} (counted : Counted P world) :
    world.lockout.lockedUntil ≤ world.now := by
  rw [counted.unlocked]
  exact counted.clock

theorem countFailure_of_short {manager : LockoutManager} (short : manager.failedAttempts < 5)
    (now : Rat) :
    manager.countFailure now =
      { manager with failedAttempts := manager.failedAttempts + 1 } := by
  have below : ¬ hardLockoutThreshold ≤ manager.failedAttempts + 1 := by
    unfold hardLockoutThreshold
    omega
  rw [countFailure, if_neg below]

/-- What an attempt does while no delay is pending. -/
theorem Counted.attempt_open (lawful : P.Lawful) {world : World} (counted : Counted P world)
    (short : world.lockout.failedAttempts < 5) (password : Bytes) (elapsed : Rat) :
    (attempt P world password elapsed).1 = .ok (accepts P world.login.settings password) ∧
      (attempt P world password elapsed).2.login =
        if accepts P world.login.settings password then
          world.login.accepted (!opens P world.login.settings.globalSecret password)
        else
          world.login.failed (world.now + elapsed) := by
  have zero := (getDelay_eq_zero_iff counted.expired).mpr short
  have ready : ¬ 0 < world.login.store.lockout.getDelay world.now := by
    rw [show world.login.store.lockout = world.lockout from rfl, zero]
    exact lt_irrefl 0
  have run := verifyPassword_run lawful world.now (world.now + elapsed) password counted.sound
  rw [if_neg ready] at run
  simp only [attempt, run]
  cases accepts P world.login.settings password <;> exact ⟨rfl, rfl⟩

/-- What an attempt does after the fifth failure, at any time. -/
theorem Counted.attempt_shut (lawful : P.Lawful) {world : World} (counted : Counted P world)
    (long : ¬ world.lockout.failedAttempts < 5) (password : Bytes) (elapsed : Rat) :
    (∃ remaining lockedUntil, (attempt P world password elapsed).1 =
        .error (.lockoutError remaining lockedUntil)) ∧
      (attempt P world password elapsed).2.login = world.login := by
  have nonzero := mt (getDelay_eq_zero_iff counted.expired).mp long
  have pending : 0 < world.login.store.lockout.getDelay world.now :=
    lt_of_le_of_ne (getDelay_nonneg _ _) (Ne.symm nonzero)
  have run := verifyPassword_run lawful world.now (world.now + elapsed) password counted.sound
  rw [if_pos pending] at run
  simp only [attempt, run]
  exact ⟨⟨_, _, rfl⟩, trivial⟩

theorem Counted.advance {world : World} (counted : Counted P world) {seconds : Rat}
    (forward : 0 ≤ seconds) : Counted P { world with now := world.now + seconds } where
  clock := add_nonneg counted.clock forward
  sound := counted.sound
  streak := counted.streak
  unlocked := counted.unlocked
  saved := counted.saved

theorem Counted.attempt (lawful : P.Lawful) {world : World} (counted : Counted P world)
    (password : Bytes) {elapsed : Rat} (forward : 0 ≤ elapsed) :
    Counted P (attempt P world password elapsed).2 := by
  have clock : 0 ≤ (Lockout.attempt P world password elapsed).2.now :=
    add_nonneg counted.clock forward
  by_cases short : world.lockout.failedAttempts < 5
  · obtain ⟨_, login⟩ := counted.attempt_open lawful short password elapsed
    split at login
    · constructor
      · exact clock
      · rw [login]
        exact counted.sound.relock _
      · rw [World.lockout, login]
        exact Nat.zero_le 5
      · rw [World.lockout, login]
        rfl
      · rw [World.lockout, login]
        rfl
    · have counts := countFailure_of_short short (world.now + elapsed)
      have lockout : (Lockout.attempt P world password elapsed).2.lockout =
          { world.lockout with failedAttempts := world.lockout.failedAttempts + 1 } := by
        rw [← counts, World.lockout, login]
        rfl
      constructor
      · exact clock
      · rw [login]
        exact counted.sound.relock _
      · rw [lockout]
        exact short
      · rw [lockout]
        exact counted.unlocked
      · rw [World.lockout, login]
        rfl
  · obtain ⟨_, login⟩ := counted.attempt_shut lawful short password elapsed
    constructor
    · exact clock
    · rw [login]
      exact counted.sound
    · rw [World.lockout, login]
      exact counted.streak
    · rw [World.lockout, login]
      exact counted.unlocked
    · rw [World.lockout, login]
      exact counted.saved

theorem Counted.restart {world : World} (counted : Counted P world) :
    Counted P (restart world) := by
  have same : (Lockout.restart world).lockout = world.lockout := counted.saved
  constructor
  · exact counted.clock
  · exact counted.sound
  · rw [same]
    exact counted.streak
  · rw [same]
    exact counted.unlocked
  · rfl

theorem counted_of_reachable (lawful : P.Lawful) {world : World}
    (reachable : (history P).Reachable (fun _ _ => True) world) : Counted P world := by
  refine Machine.Reachable.invariant (history P) (Counted P) ?_ ?_ reachable
  · intro first ⟨clock, sound, row, lockout, _⟩
    constructor
    · exact clock
    · exact sound
    · rw [lockout]
      exact Nat.zero_le 5
    · rw [lockout]
    · rw [lockout, row]
      rfl
  · intro before event _ counted enabled _
    cases event with
    | advance seconds => exact counted.advance enabled
    | attempt password elapsed => exact counted.attempt lawful password enabled
    | restart => exact counted.restart

theorem Counted.evaluates_iff (lawful : P.Lawful) {world : World} (counted : Counted P world)
    (password : Bytes) (elapsed : Rat) :
    Evaluates P world password elapsed ↔ world.lockout.failedAttempts < 5 := by
  constructor
  · intro evaluates
    by_contra long
    obtain ⟨⟨remaining, lockedUntil, raised⟩, _⟩ :=
      counted.attempt_shut lawful long password elapsed
    rw [Evaluates, raised] at evaluates
    cases evaluates
  · intro short
    exact (counted.attempt_open lawful short password elapsed).1

theorem Counted.submit (lawful : P.Lawful) {world : World} (counted : Counted P world)
    {submission : Submission} (waits : world.lockout.getDelay world.now ≤ submission.wait)
    (forward : 0 ≤ submission.elapsed) : Counted P (submit P world submission).2 := by
  have later := counted.advance (le_trans (getDelay_nonneg _ _) waits)
  exact later.attempt lawful submission.password forward

/-- However long the caller waits, a series is tested up to the fifth failure. -/
theorem Counted.series (lawful : P.Lawful) (series : List Submission) {world : World}
    (counted : Counted P world) (patient : Patient P world series) :
    (AllEvaluated P world series ↔ world.lockout.failedAttempts + series.length ≤ 5) ∧
      (submitAll P world series).2.lockout.lockedUntil = 0 := by
  induction series generalizing world with
  | nil =>
      constructor
      · constructor
        · intro _
          exact counted.streak
        · intro _ result member
          cases member
      · exact counted.unlocked
  | cons submission rest ih =>
      obtain ⟨waits, forward, wrong, later⟩ := patient
      have next := counted.submit lawful waits forward
      obtain ⟨evaluated, unlocked⟩ := ih next later
      refine ⟨?_, unlocked⟩
      have split : AllEvaluated P world (submission :: rest) ↔
          (Lockout.submit P world submission).1 = .ok false ∧
            AllEvaluated P (Lockout.submit P world submission).2 rest :=
        List.forall_mem_cons
      rw [split, evaluated, List.length_cons]
      have waited := counted.advance (le_trans (getDelay_nonneg _ _) waits)
      by_cases short : world.lockout.failedAttempts < 5
      · obtain ⟨result, login⟩ :=
          waited.attempt_open lawful short submission.password submission.elapsed
        have wrong : accepts P world.login.settings submission.password = false := wrong
        simp only [wrong, Bool.false_eq_true, if_false] at result login
        have counts := countFailure_of_short short
          (world.now + submission.wait + submission.elapsed)
        have streak : (Lockout.submit P world submission).2.lockout.failedAttempts =
            world.lockout.failedAttempts + 1 := by
          rw [Lockout.submit, World.lockout, login]
          exact congrArg LockoutManager.failedAttempts counts
        rw [streak]
        constructor
        · intro both
          omega
        · intro bounded
          exact ⟨result, by omega⟩
      · obtain ⟨⟨remaining, lockedUntil, raised⟩, _⟩ :=
          waited.attempt_shut lawful short submission.password submission.elapsed
        constructor
        · intro both
          have refused : (Lockout.submit P world submission).1 =
              .error (.lockoutError remaining lockedUntil) := raised
          rw [refused] at both
          cases both.1
        · intro bounded
          omega

/-- After any history, a password submitted when deadline and delay have passed is tested
exactly while fewer than five failures are recorded, and a patient series of wrong passwords
is tested throughout exactly when it ends with the fifth: the hard lockout is never set. -/
theorem lockout_temporary_iff (P : Primitives Priv Pub Pem) (lawful : P.Lawful) (world : World)
    (reachable : (history P).Reachable (fun _ _ => True) world) :
    (world.Waited → ∀ password elapsed,
      (Evaluates P world password elapsed ↔ world.lockout.failedAttempts < 5)) ∧
    ∀ series, Patient P world series →
      (AllEvaluated P world series ↔ world.lockout.failedAttempts + series.length ≤ 5) ∧
        (submitAll P world series).2.lockout.lockedUntil = 0 := by
  have counted := counted_of_reachable lawful reachable
  constructor
  · intro _ password elapsed
    exact counted.evaluates_iff lawful password elapsed
  · intro series patient
    exact counted.series lawful series patient

instance (world : World) (event : Event) :
    Decidable ((history toyLibraries).enabled world event) :=
  match event with
  | .advance seconds => inferInstanceAs (Decidable (0 ≤ seconds))
  | .attempt _ elapsed => inferInstanceAs (Decidable (0 ≤ elapsed))
  | .restart => inferInstanceAs (Decidable True)

instance (world : World) : Decidable world.Waited :=
  match last : world.lastFailure with
  | none => decidable_of_iff (world.lockout.lockedUntil ≤ world.now) (by
      simp only [World.Waited, last, reduceCtorEq, false_imp_iff, implies_true, and_true])
  | some failure =>
      decidable_of_iff (world.lockout.lockedUntil ≤ world.now ∧
        failure + backoff world.lockout.failedAttempts ≤ world.now) (by
          simp only [World.Waited, last, Option.some.injEq, forall_eq'])

def toyInstalled : World where
  now := 1000
  login := {
    store := { lockout := {} }
    settings := {
      globalSecret := some (wrap toyLibraries [42] [1, 2] (toyEntropy 7 8))
      duressVerifier := none
      lockoutData := none } }
  lastFailure := none

theorem toyInstalled_start : (history toyLibraries).start toyInstalled := by
  refine ⟨by decide, ⟨?_, ?_⟩, rfl, rfl, rfl⟩
  · intro wrapper found
    exact ⟨[42], [1, 2], toyEntropy 7 8, (Option.some.inj found).symm⟩
  · intro wrapper found
    cases found

/-- Five wrong passwords, then eleven days of waiting. -/
def toyShut : World :=
  (history toyLibraries).run toyInstalled
    (List.replicate 5 (fun _ => .attempt [3] 1) ++ [fun _ => .advance 1000000, fun _ => .restart])

instance Patient.decidable (world : World) :
    ∀ series, Decidable (Patient toyLibraries world series)
  | [] => inferInstanceAs (Decidable True)
  | submission :: rest =>
      have := Patient.decidable (submit toyLibraries world submission).2 rest
      inferInstanceAs (Decidable (_ ∧ _ ∧ _ ∧ _))

/-- Fifteen wrong passwords, an hour apart. -/
def toySeries : List Submission := List.replicate 15 { wait := 3600, password := [3], elapsed := 1 }

theorem toyInstalled_temporary :
    (Evaluates toyLibraries toyInstalled [1, 2] 1 ↔ toyInstalled.lockout.failedAttempts < 5) ∧
    (AllEvaluated toyLibraries toyInstalled toySeries ↔
        toyInstalled.lockout.failedAttempts + toySeries.length ≤ 5) ∧
      (submitAll toyLibraries toyInstalled toySeries).2.lockout.lockedUntil = 0 := by
  have temporary := lockout_temporary_iff toyLibraries toyLibraries_lawful toyInstalled
    (.start toyInstalled_start)
  exact ⟨temporary.1 (by decide +kernel) [1, 2] 1, temporary.2 toySeries (by decide +kernel)⟩

/-- The master password is refused, although every delay ran out long ago. -/
theorem toyShut_refuses :
    (history toyLibraries).Reachable (fun _ _ => True) toyShut ∧ toyShut.Waited ∧
      accepts toyLibraries toyShut.login.settings [1, 2] = true ∧
      (attempt toyLibraries toyShut [1, 2] 1).1 = .error (.lockoutError 5 0) :=
  ⟨.run (.start toyInstalled_start) (by decide +kernel), by decide +kernel, by decide +kernel,
    by decide +kernel⟩

end UltimateEnigma.Lockout
