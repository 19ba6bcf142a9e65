import UltimateEnigma.FriendCrud
import UltimateEnigma.Py.Logged
import UltimateEnigma.WrongKeys

set_option autoImplicit false

namespace UltimateEnigma.Lockout

open Py KeyStore

inductive Kdf where
  | argon2id
  | pbkdf2
deriving DecidableEq, Repr

/-- The rows of the table `settings` that a login looks up. -/
inductive VerifierRow where
  | globalSecret
  | duressVerifier
deriving DecidableEq, Repr

/-- What an observer of the unlock can tell apart. -/
inductive Work where
  | read (row : VerifierRow)
  | derive (kdf : Kdf) (salt : Bytes)
  | saveState (state : LockoutManager)
deriving DecidableEq, Repr

/-- A read or a derivation. -/
def Work.IsTesting : Work → Bool
  | .read _ | .derive _ _ => true
  | .saveState _ => false

/-- Legacy entries have another tag, or none. -/
def kdfOf (enc : EncDict) : Kdf :=
  if enc.kdf = some (.text "argon2id") then .argon2id else .pbkdf2

/-- A login, and the work that was done for it. -/
abbrev WorkCall (ε α : Type) : Type := Call ε (Logged Work Login) α

section Working

variable {Priv Pub Pem : Type} (P : Primitives Priv Pub Pem)

def Kdf.derive (kdf : Kdf) (password salt : Bytes) : Except Raised Bytes :=
  match kdf with
  | .argon2id => deriveKeyArgon2id P password salt
  | .pbkdf2 => .ok (P.pbkdf2 password salt)

namespace Working

/-- `database.decrypt_secret`. -/
def decryptSecret : EncValue → Bytes → WorkCall Raised Bytes
  | .other, _ => Call.raise .attributeError
  | .dict enc, password => do
      let salt ← Call.lift (entry "salt" enc.salt)
      let nonce ← Call.lift (entry "nonce" enc.nonce)
      let ct ← Call.lift (entry "ct" enc.ct)
      Call.note (.derive (kdfOf enc) salt)
      let key ← Call.lift ((kdfOf enc).derive P password salt)
      Call.lift (P.aesDecrypt key nonce ct)

/-- `try: … except (ValueError, TypeError, InvalidTag)` around one derivation. -/
def succeeds {α : Type} (call : WorkCall Raised α) : WorkCall Refusal Bool := fun logged =>
  match call.run logged with
  | (.ok _, after) => (.ok true, after)
  | (.error raised, after) =>
      if raised.isValueOrType || raised == .invalidTag then
        (.ok false, after)
      else
        (.error (.raised raised), after)

def testVerifier (password : Bytes) : Option EncValue → WorkCall Refusal Bool
  | none => return false
  | some enc => succeeds (decryptSecret P enc password)

def saveState (state : LockoutManager) : WorkCall Refusal Unit := do
  Call.note (.saveState state)
  Call.unlogged (Lockout.saveState state)

def setDuressMode (duressMode : Bool) : WorkCall Refusal Unit :=
  Call.unlogged (Lockout.setDuressMode duressMode)

/-- `KeyStore.verify_password`, with its reads, derivations and lockout writes. -/
def verifyPassword (now done : Rat) (password : Bytes) : WorkCall Refusal Bool := do
  let logged ← Call.read
  let login := logged.object
  let delay := login.store.lockout.getDelay now
  if 0 < delay then
    Call.raise (.lockoutError delay login.store.lockout.lockedUntil)
  else do
    Call.note (.read .globalSecret)
    Call.note (.read .duressVerifier)
    let verifiers := loadVerifiers login.settings
    let masterOk ← testVerifier P password verifiers.1
    let duressOk ← testVerifier P password verifiers.2
    if masterOk then do
      saveState {}
      setDuressMode false
      return true
    else if duressOk then do
      saveState {}
      setDuressMode true
      return true
    else do
      saveState (login.store.lockout.countFailure done)
      return false

end Working

/-- `FriendCrudService.verify_master_password`. -/
def verifyMasterPassword (now done : Rat) (password : Bytes) : LoginCall Bool := do
  let previous ← Call.read
  let isValid ← verifyPassword P now done password
  let login ← Call.read
  setDuressMode previous.store.duressMode
  return isValid && !login.store.duressMode

/-- What a submitted password comes to, and the work done for it. -/
def submitted (now done : Rat) (password : Bytes) (login : Login) :
    Except Refusal Bool × List Work :=
  let (answer, after) := (Working.verifyPassword P now done password).run ⟨login, []⟩
  (answer, after.log)

/-- The derivation that a verifier costs, once its three fields have been decoded. -/
def derivation (verifier : Option EncValue) : List Work :=
  match verifier with
  | none | some .other => []
  | some (.dict enc) =>
      match entry "salt" enc.salt, entry "nonce" enc.nonce, entry "ct" enc.ct with
      | .ok salt, .ok _, .ok _ => [.derive (kdfOf enc) salt]
      | _, _, _ => []

/-- The lockout as a failed or a successful test leaves it. -/
def settledLockout (done : Rat) (lockout : LockoutManager) (accepted : Bool) : LockoutManager :=
  if accepted then {} else lockout.countFailure done

/-- The work after the delay check, which depends on the password only through the two tests. -/
def testing (done : Rat) (password : Bytes) (login : Login) : List Work :=
  let verifiers := loadVerifiers login.settings
  derivation verifiers.1 ++
    match Lockout.testVerifier P password verifiers.1 with
    | .error _ => []
    | .ok masterOk =>
        derivation verifiers.2 ++
          match Lockout.testVerifier P password verifiers.2 with
          | .error _ => []
          | .ok duressOk =>
              [.saveState (settledLockout done login.store.lockout (masterOk || duressOk))]

end Working

variable {Priv Pub Pem : Type} {P : Primitives Priv Pub Pem}

theorem kdfOf_derive (enc : EncDict) (password salt : Bytes) :
    (kdfOf enc).derive P password salt = deriveKey P enc.kdf password salt := by
  unfold kdfOf deriveKey
  split <;> rfl

namespace Working

theorem decryptSecret_logs (enc : EncValue) (password : Bytes) :
    (decryptSecret P enc password).Logs (Call.lift (KeyStore.decryptSecret P enc password))
      fun _ => derivation (some enc) := by
  intro login log
  cases enc with
  | other => rw [derivation, List.append_nil]; rfl
  | dict enc =>
      rw [Call.run_lift, decryptSecret, KeyStore.decryptSecret, derivation]
      cases entry "salt" enc.salt with
      | error raised => rw [List.append_nil]; rfl
      | ok salt =>
          cases entry "nonce" enc.nonce with
          | error raised => rw [List.append_nil]; rfl
          | ok nonce =>
              cases entry "ct" enc.ct with
              | error raised => rw [List.append_nil]; rfl
              | ok ct =>
                  simp only [ok_bind, ← kdfOf_derive]
                  show (Call.lift ((kdfOf enc).derive P password salt) >>= fun key =>
                    (Call.lift (P.aesDecrypt key nonce ct) : WorkCall Raised Bytes)).run
                      ⟨login, log ++ [.derive (kdfOf enc) salt]⟩ = _
                  cases (kdfOf enc).derive P password salt with
                  | error raised => rfl
                  | ok key => exact Call.run_lift _ _

theorem testVerifier_logs (password : Bytes) (verifier : Option EncValue) :
    (testVerifier P password verifier).Logs (orRefuse (Lockout.testVerifier P password verifier))
      fun _ => derivation verifier := by
  cases verifier with
  | none => exact Call.logs_pure false
  | some enc =>
      intro login log
      show succeeds (decryptSecret P enc password) ⟨login, log⟩ = _
      have ran : (decryptSecret P enc password).run ⟨login, log⟩ = _ :=
        decryptSecret_logs enc password login log
      rw [Call.run_lift] at ran
      rw [succeeds, ran, Lockout.testVerifier]
      cases KeyStore.decryptSecret P enc password with
      | ok plain => rfl
      | error raised =>
          simp only
          split <;> rfl

/-- What follows the two tests. -/
theorem settle_logs (login : Login) (done : Rat) (masterOk duressOk : Bool) :
    (if masterOk then do
      saveState {}
      setDuressMode false
      return true
    else if duressOk then do
      saveState {}
      setDuressMode true
      return true
    else do
      saveState (login.store.lockout.countFailure done)
      return false : WorkCall Refusal Bool).Logs
      (if masterOk then do
        Lockout.saveState {}
        Lockout.setDuressMode false
        return true
      else if duressOk then do
        Lockout.saveState {}
        Lockout.setDuressMode true
        return true
      else do
        Lockout.saveState (login.store.lockout.countFailure done)
        return false)
      fun _ => [.saveState (settledLockout done login.store.lockout (masterOk || duressOk))] := by
  cases masterOk <;> cases duressOk <;> exact fun _ _ => rfl

/-- Forgetting the work, the login is the one of `verify_password`. -/
theorem verifyPassword_logs (now done : Rat) (password : Bytes) :
    (verifyPassword P now done password).Logs (Lockout.verifyPassword P now done password)
      fun login =>
        if 0 < login.store.lockout.getDelay now then
          []
        else
          .read .globalSecret :: .read .duressVerifier :: testing P done password login := by
  intro login log
  rw [verifyPassword, Lockout.verifyPassword, Call.run_read_bind, Call.run_read_bind]
  by_cases delayed : 0 < login.store.lockout.getDelay now
  · simp only [if_pos delayed]
    exact Call.logs_raise _ login log
  · simp only [if_neg delayed]
    -- The two lookups come first; both verifiers are tested whatever the first test says.
    have tested := Call.logs_note_bind (Work.read .globalSecret) fun _ =>
      Call.logs_note_bind (Work.read .duressVerifier) fun _ =>
        Call.logs_bind (testVerifier_logs (P := P) password (loadVerifiers login.settings).1)
          fun masterOk => Call.logs_bind
            (testVerifier_logs (P := P) password (loadVerifiers login.settings).2)
            (settle_logs login done masterOk)
    refine (tested login log).trans ?_
    rw [testing]
    cases Lockout.testVerifier P password (loadVerifiers login.settings).1 with
    | error raised => rw [List.append_nil]; rfl
    | ok masterOk =>
        cases Lockout.testVerifier P password (loadVerifiers login.settings).2 with
        | error raised => simp only [List.append_nil]; rfl
        | ok duressOk => rfl

end Working

variable {now done : Rat} {password : Bytes} {login : Login}

theorem submitted_eq (now done : Rat) (password : Bytes) (login : Login) :
    submitted P now done password login =
      (((verifyPassword P now done password).run login).1,
        if 0 < login.store.lockout.getDelay now then
          []
        else
          .read .globalSecret :: .read .duressVerifier :: testing P done password login) := by
  rw [submitted, Working.verifyPassword_logs now done password login []]
  rfl

/-- A salt that the derivation refuses is refused for every password. -/
theorem deriveKey_refused {kdf : Option JsonItem} {salt : Bytes} {raised : Raised}
    (refused : deriveKey P kdf password salt = .error raised) (other : Bytes) :
    deriveKey P kdf other salt = .error raised := by
  rw [deriveKey, deriveKeyArgon2id] at refused ⊢
  split at refused
  · split at refused
    · rename_i modern short
      rwa [if_pos modern, if_pos short]
    · cases refused
  · cases refused

/-- What `except (ValueError, TypeError, InvalidTag)` does not catch is about the stored entry,
and not about the password. -/
theorem decryptSecret_uncaught (documented : P.Documented) {enc : EncValue} {raised : Raised}
    (failed : decryptSecret P enc password = .error raised)
    (uncaught : (raised.isValueOrType || raised == .invalidTag) = false) (other : Bytes) :
    decryptSecret P enc other = .error raised := by
  cases enc with
  | other => exact failed
  | dict enc =>
      rw [decryptSecret] at failed ⊢
      obtain missing | ⟨salt, salt_ok, failed⟩ := error_of_bind failed
      · rw [missing]
        rfl
      · obtain missing | ⟨nonce, nonce_ok, failed⟩ := error_of_bind failed
        · rw [salt_ok, ok_bind, missing]
          rfl
        · obtain missing | ⟨ct, ct_ok, failed⟩ := error_of_bind failed
          · rw [salt_ok, ok_bind, nonce_ok, ok_bind, missing]
            rfl
          · obtain refused | ⟨key, _, failed⟩ := error_of_bind failed
            · rw [salt_ok, ok_bind, nonce_ok, ok_bind, ct_ok, ok_bind,
                deriveKey_refused refused other]
              rfl
            · obtain rfl | caught := documented.aesDecrypt failed
              · cases uncaught
              · rw [caught] at uncaught
                cases uncaught

/-- Whether a test of a verifier raises does not depend on the password. -/
theorem testVerifier_error (documented : P.Documented) {verifier : Option EncValue}
    {raised : Raised} (failed : testVerifier P password verifier = .error raised)
    (other : Bytes) : testVerifier P other verifier = .error raised := by
  cases verifier with
  | none => cases failed
  | some enc =>
      rw [testVerifier] at failed
      cases decrypted : decryptSecret P enc password with
      | ok plain =>
          rw [decrypted] at failed
          cases failed
      | error cause =>
          rw [decrypted] at failed
          simp only at failed
          split at failed
          · cases failed
          · rename_i uncaught
            cases failed
            rw [Bool.not_eq_true] at uncaught
            rw [testVerifier, decryptSecret_uncaught documented decrypted uncaught other]
            simp only [uncaught, Bool.false_eq_true, if_false]

/-- The derivations do not depend on the password. -/
theorem filter_testing (documented : P.Documented) (done done' : Rat) (password other : Bytes)
    (login : Login) :
    (testing P done password login).filter Work.IsTesting =
      (testing P done' other login).filter Work.IsTesting := by
  rw [testing, testing, List.filter_append, List.filter_append]
  congr 1
  cases master : testVerifier P password (loadVerifiers login.settings).1 with
  | error raised => rw [testVerifier_error documented master other]
  | ok masterOk =>
      cases master' : testVerifier P other (loadVerifiers login.settings).1 with
      | error raised =>
          rw [testVerifier_error documented master' password] at master
          cases master
      | ok masterOk' =>
          simp only [List.filter_append]
          congr 1
          cases duress : testVerifier P password (loadVerifiers login.settings).2 with
          | error raised => rw [testVerifier_error documented duress other]
          | ok duressOk =>
              cases duress' : testVerifier P other (loadVerifiers login.settings).2 with
              | error raised =>
                  rw [testVerifier_error documented duress' password] at duress
                  cases duress
              | ok duressOk' => rfl

/-- The run of `verify_password` by what the two tests give. -/
theorem verifyPassword_tested (now done : Rat) (password : Bytes) (login : Login) :
    (verifyPassword P now done password).run login =
      if 0 < login.store.lockout.getDelay now then
        (.error (.lockoutError (login.store.lockout.getDelay now)
          login.store.lockout.lockedUntil), login)
      else
        match testVerifier P password (loadVerifiers login.settings).1 with
        | .error raised => (.error (.raised raised), login)
        | .ok masterOk =>
            match testVerifier P password (loadVerifiers login.settings).2 with
            | .error raised => (.error (.raised raised), login)
            | .ok duressOk =>
                if masterOk || duressOk then
                  (.ok true, login.accepted (!masterOk))
                else
                  (.ok false, login.failed done) := by
  rw [verifyPassword, Call.run_read_bind]
  simp only [Call.run_ite]
  split
  · rfl
  · cases testVerifier P password (loadVerifiers login.settings).1 with
    | error raised => rfl
    | ok masterOk =>
        cases testVerifier P password (loadVerifiers login.settings).2 with
        | error raised => rfl
        | ok duressOk => cases masterOk <;> cases duressOk <;> rfl

/-- An answer says that there was no delay, and that both verifiers were tested. -/
theorem verifyPassword_answered {accepted : Bool} {after : Login}
    (answered : (verifyPassword P now done password).run login = (.ok accepted, after)) :
    ¬ 0 < login.store.lockout.getDelay now ∧ ∃ masterOk duressOk,
      testVerifier P password (loadVerifiers login.settings).1 = .ok masterOk ∧
      testVerifier P password (loadVerifiers login.settings).2 = .ok duressOk ∧
      accepted = (masterOk || duressOk) ∧
      (accepted = true → after = login.accepted (!masterOk)) := by
  rw [verifyPassword_tested] at answered
  split at answered
  · cases answered
  · rename_i passed
    refine ⟨passed, ?_⟩
    split at answered
    · cases answered
    · rename_i masterOk master
      split at answered
      · cases answered
      · rename_i duressOk duress
        refine ⟨masterOk, duressOk, master, duress, ?_⟩
        split at answered
        · rename_i either
          cases answered
          exact ⟨either.symm, fun _ => rfl⟩
        · rename_i neither
          cases answered
          exact ⟨(Bool.eq_false_iff.mpr neither).symm, fun said => by cases said⟩

/-- Whatever `verify_password` raises, it raises before it has written anything. -/
theorem verifyPassword_raised {refusal : Refusal} {after : Login}
    (failed : (verifyPassword P now done password).run login = (.error refusal, after)) :
    after = login := by
  rw [verifyPassword_tested] at failed
  split at failed
  · cases failed
    rfl
  · split at failed
    · cases failed
      rfl
    · split at failed
      · cases failed
        rfl
      · split at failed <;> cases failed

/-- A master verifier that was tested with success is one that opens. -/
theorem opens_of_testVerifier {settings : Settings}
    (tested : testVerifier P password (loadVerifiers settings).1 = .ok true) :
    opens P settings.globalSecret password = true := by
  cases stored : settings.globalSecret with
  | none =>
      rw [show (loadVerifiers settings).1 = none by
        rw [loadVerifiers, stored]
        simp only
        split <;> rfl] at tested
      cases tested
  | some wrapper =>
      cases wrapper with
      | malformed =>
          rw [loadVerifiers, stored] at tested
          cases tested
      | json enc =>
          rw [show (loadVerifiers settings).1 = some enc by
            rw [loadVerifiers, stored]
            simp only
            split <;> rfl, testVerifier] at tested
          show (decryptSecret P enc password).isOk = true
          cases decrypted : decryptSecret P enc password with
          | ok plain => rfl
          | error raised =>
              rw [decrypted] at tested
              simp only at tested
              split at tested <;> cases tested

theorem verifyMasterPassword_run (now done : Rat) (password : Bytes) (login : Login) :
    (verifyMasterPassword P now done password).run login =
      match (verifyPassword P now done password).run login with
      | (.ok isValid, after) =>
          (.ok (isValid && !after.store.duressMode),
            { after with
              store := { after.store with duressMode := login.store.duressMode } })
      | (.error refusal, after) => (.error refusal, after) := by
  rw [verifyMasterPassword, Call.run_read_bind, Call.run_bind]
  cases (verifyPassword P now done password).run login with
  | mk result after => cases result <;> rfl

theorem verifyMasterPassword_duressMode (now done : Rat) (password : Bytes) :
    (verifyMasterPassword P now done password).Keeps fun login => login.store.duressMode := by
  intro login
  rw [verifyMasterPassword_run]
  cases ran : (verifyPassword P now done password).run login with
  | mk result after =>
      cases result with
      | ok isValid => rfl
      | error refusal => rw [verifyPassword_raised ran]

/-- The flag tells an accepted duress password from the master password. -/
theorem opens_of_verifyMasterPassword {after : Login}
    (verified : (verifyMasterPassword P now done password).run login = (.ok true, after)) :
    opens P login.settings.globalSecret password = true := by
  rw [verifyMasterPassword_run] at verified
  cases ran : (verifyPassword P now done password).run login with
  | mk result between =>
      rw [ran] at verified
      cases result with
      | error refusal => cases verified
      | ok isValid =>
          obtain ⟨_, masterOk, duressOk, master, _, rfl, accepted⟩ := verifyPassword_answered ran
          have valid : ((masterOk || duressOk) && !between.store.duressMode) = true := by
            simp only [Prod.mk.injEq, Except.ok.injEq] at verified
            exact verified.1
          rw [Bool.and_eq_true] at valid
          have flag : between.store.duressMode = !masterOk := by rw [accepted valid.1]; rfl
          rw [flag, Bool.not_not] at valid
          rw [valid.2] at master
          exact opens_of_testVerifier master

/-- What was answered was looked up and tested first. -/
theorem submitted_answered {accepted : Bool}
    (answered : (submitted P now done password login).1 = .ok accepted) :
    (submitted P now done password login).2 =
        .read .globalSecret :: .read .duressVerifier :: testing P done password login ∧
      testing P done password login =
        derivation (loadVerifiers login.settings).1 ++
          (derivation (loadVerifiers login.settings).2 ++
            [.saveState (settledLockout done login.store.lockout accepted)]) := by
  rw [submitted_eq] at answered ⊢
  obtain ⟨passed, masterOk, duressOk, master, duress, rfl, _⟩ :=
    verifyPassword_answered (Prod.ext answered rfl)
  rw [if_neg passed]
  refine ⟨rfl, ?_⟩
  simp only [testing, master, duress]

/-- Accepted logins cannot be told apart by their work, nor from rejected ones by the reads and
derivations; and checking the master password never changes the mode. -/
theorem logins_do_the_same_work (documented : P.Documented) (login : Login) :
    (∀ now done password now' done' password',
      (submitted P now done password login).1 = .ok true →
      (submitted P now' done' password' login).1 = .ok true →
      (submitted P now done password login).2 = (submitted P now' done' password' login).2) ∧
    (∀ now done password accepted now' done' password' accepted',
      (submitted P now done password login).1 = .ok accepted →
      (submitted P now' done' password' login).1 = .ok accepted' →
      (submitted P now done password login).2.filter Work.IsTesting =
        (submitted P now' done' password' login).2.filter Work.IsTesting) ∧
    (∀ now done password done' password',
      (submitted P now done password login).2.filter Work.IsTesting =
        (submitted P now done' password' login).2.filter Work.IsTesting) ∧
    (∀ now done password,
      ((verifyMasterPassword P now done password).run login).2.store.duressMode =
        login.store.duressMode) ∧
    ∀ now done password,
      ((verifyMasterPassword P now done password).run login).1 = .ok true →
      opens P login.settings.globalSecret password = true := by
  refine ⟨?_, ?_, ?_, ?_, ?_⟩
  · intro now done password now' done' password' first second
    have left := submitted_answered first
    have right := submitted_answered second
    rw [left.1, right.1, left.2, right.2]
    rfl
  · intro now done password accepted now' done' password' accepted' first second
    rw [(submitted_answered first).1, (submitted_answered second).1]
    simp only [List.filter_cons, Work.IsTesting, if_true]
    rw [filter_testing documented done done' password password' login]
  · intro now done password done' password'
    simp only [submitted_eq]
    split
    · rfl
    · simp only [List.filter_cons, Work.IsTesting, if_true]
      rw [filter_testing documented done done' password password' login]
  · intro now done password
    exact verifyMasterPassword_duressMode now done password login
  · intro now done password verified
    exact opens_of_verifyMasterPassword (Prod.ext verified rfl)

section Toy

/-- A master password `[1]` and a duress password `[2]`, in the duress mode. -/
def toyUnlock : Login where
  store := { lockout := { failedAttempts := 3, lockedUntil := 0 }, duressMode := true }
  settings :=
    { globalSecret := some (wrap toyLibraries [7] [1] (toyEntropy 8 9))
      duressVerifier := some (wrap toyLibraries [6] [2] (toyEntropy 5 4))
      lockoutData := none }

theorem toyUnlock_same_work :
    (submitted toyLibraries 10 11 [1] toyUnlock).2 = (submitted toyLibraries 20 22 [2] toyUnlock).2 ∧
      (submitted toyLibraries 10 11 [1] toyUnlock).2.filter Work.IsTesting =
        (submitted toyLibraries 30 33 [3] toyUnlock).2.filter Work.IsTesting ∧
      opens toyLibraries toyUnlock.settings.globalSecret [1] = true :=
  have same := logins_do_the_same_work toyLibraries_documented toyUnlock
  ⟨same.1 10 11 [1] 20 22 [2] (by decide +kernel) (by decide +kernel),
    same.2.1 10 11 [1] true 30 33 [3] false (by decide +kernel) (by decide +kernel),
    same.2.2.2.2 10 11 [1] (by decide +kernel)⟩

end Toy

end UltimateEnigma.Lockout
