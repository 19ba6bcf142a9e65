import UltimateEnigma.DecoyMemory
import UltimateEnigma.FailedImports
import UltimateEnigma.TotpReplay

set_option autoImplicit false

namespace UltimateEnigma.AppLock

open Py KeyStore Totp

/-- `argon2.PasswordHasher`, of a password and the salt that it draws; `verify` raises
`VerifyMismatchError` where this is `false`. -/
structure PasswordHasher where
  hash : Bytes → Bytes → String
  verify : String → Bytes → Bool

structure PasswordHasher.Lawful (H : PasswordHasher) : Prop where
  verify_hash (password salt other : Bytes) :
    H.verify (H.hash password salt) other = true ↔ other = password

/-- `_DURESS_PLACEHOLDER`. -/
def duressPlaceholder : Bytes := encodeUtf8 "duress_placeholder"

/-- How the application was opened last. -/
inductive Entered where
  | master (password : Bytes)
  | decoy
deriving DecidableEq

/-- The password that `_master_password_hash` is of. -/
def Entered.password : Entered → Bytes
  | .master password => password
  | .decoy => duressPlaceholder

/-- The libraries of the key store and its backups, of TOTP and of the controller. -/
structure Libraries (Priv Pub Pem : Type) extends BackupService.Libraries Priv Pub Pem where
  totp : TotpLibrary
  hasher : PasswordHasher
  /-- `HAS_SQLCIPHER` -/
  hasSqlcipher : Bool

/-- `EnigmaApp` with its `AuthController`, and the ratchet storage key that `RatchetService` holds
for its class. `entered` is kept for the statements below only. -/
structure App (Priv Pub Pem : Type) where
  controller : Controller Priv Pub Pem
  masterPasswordHash : String
  isLocked : Bool
  storageKey : Option Bytes
  entered : Entered

/-- What is typed at the lock screen, with what the clock and the random source give. `none` is a
cancelled dialog. -/
structure Attempt (Priv : Type) where
  password : Option Bytes
  now : Rat
  loadDraws : LoadDraws
  tests : SelfTests
  codes : List (String × Rat)
  salt : Bytes
  generated : Priv
  fakeSecret : Bytes
  draws : Draws

section Model

variable {Priv Pub Pem : Type}

namespace App

def db (app : App Priv Pub Pem) : Database Pem := app.controller.session.db

def store (app : App Priv Pub Pem) : KeyStore Priv Pub := app.controller.session.store

def withDb (app : App Priv Pub Pem) (db : Database Pem) : App Priv Pub Pem :=
  { app with
    controller := { app.controller with session := { app.controller.session with db := db } } }

/-- What `AuthManager.verify_password` does to the key store when it accepts. -/
def markDuress (app : App Priv Pub Pem) (verified : Bool × Bool) : App Priv Pub Pem :=
  if verified.1 then
    { app with
      controller := { app.controller with
        session := { app.controller.session with
          store := { app.controller.session.store with duressMode := verified.2 } } } }
  else app

end App

/-- `is_totp_setup_complete`. -/
def isTotpSetupComplete (db : Database Pem) : Bool := db.texts .totpSetupComplete = some "1"

/-- `is_totp_enabled`. -/
def isTotpEnabled (db : Database Pem) : Bool :=
  match db.texts .totpEnabled with
  | none => isTotpSetupComplete db
  | some value => value = "1"

def totpRequired (db : Database Pem) : Bool := isTotpEnabled db && isTotpSetupComplete db

/-- `wipe_sensitive_data`. -/
def wipeSensitiveData (controller : Controller Priv Pub Pem) : Controller Priv Pub Pem where
  session := { controller.session with store := wiped controller.session.store }
  totpService := { controller.totpService with secret := none }

/-- `_emergency_lock`. -/
def emergencyLock (app : App Priv Pub Pem) : App Priv Pub Pem :=
  if app.isLocked then app
  else { app with controller := wipeSensitiveData app.controller, isLocked := true }

/-- `_init_ratchet_storage_key`; `none` is the `ValueError` of a key that has not 32 bytes. -/
def initRatchetStorageKey (store : KeyStore Priv Pub) (current : Option Bytes) :
    Option (Option Bytes) :=
  match store.ratchetStorageKey with
  | none => some current
  | some key => if key.length = 32 then some (some key) else none

/-- What `_request_unlock` and `_request_recovery_unlock` do with a new key store. Where
`rebuild_services` raises, it is already in its place. -/
def App.rebuilt (app : App Priv Pub Pem) (controller : Controller Priv Pub Pem)
    (entered : Entered) : App Priv Pub Pem :=
  match initRatchetStorageKey controller.session.store app.storageKey with
  | some storageKey =>
      { app with
        controller := controller
        entered := entered
        storageKey := storageKey
        isLocked := false }
  | none => { app with controller := controller, entered := entered }

variable (E : Libraries Priv Pub Pem)

/-- `AuthManager.verify_password`, after it has slept: `(is_valid, is_duress)`. -/
def verifyPassword (db : Database Pem) (password : Bytes) : Bool × Bool :=
  let verifiers := Lockout.loadVerifiers
    ⟨db.secrets .globalSecret, db.secrets .duressVerifier, none⟩
  let opens := fun verifier : Option EncValue =>
    verifier.any fun enc => (decryptSecret E.keyStore enc password).isOk
  if opens verifiers.1 then (true, false)
  else if opens verifiers.2 then (true, true)
  else (false, false)

/-- `TOTPVerifyDialog.show`, until a code is accepted or the dialog is closed. `verify` makes the
dialog's own check of the code again. -/
def verifyDialog : List (String × Rat) → Controller Priv Pub Pem → Bool × Controller Priv Pub Pem
  | [], controller => (false, controller)
  | (code, timestamp) :: rest, controller =>
      match (Totp.verify E.totp code timestamp true).run controller with
      | (.ok true, after) => (true, after)
      | (_, after) => verifyDialog rest after

/-- The TOTP part of `request_unlock`. -/
def secondFactor (password : Bytes) (attempt : Attempt Priv)
    (controller : Controller Priv Pub Pem) : Bool × Controller Priv Pub Pem :=
  match (loadTotpSecret E.keyStore E.totp (some password) attempt.tests).run controller with
  | (.ok loaded, after) =>
      if totpRequired controller.session.db then
        if loaded then verifyDialog E attempt.codes after else (false, after)
      else (true, after)
  | (.error _, after) => (false, after)

/-- The rest of `request_unlock` once the hash has been verified. -/
def reloadKeys (app : App Priv Pub Pem) (attempt : Attempt Priv) (password : Bytes) :
    Option (Controller Priv Pub Pem × Entered) × App Priv Pub Pem :=
  match (load E.keyStore E.platform password attempt.now attempt.loadDraws).run ⟨{}, app.db⟩ with
  | (.ok true, loaded) =>
      let checked := secondFactor E password attempt ⟨loaded, {}⟩
      (if checked.1 then some (checked.2, .master password) else none,
        app.withDb checked.2.session.db)
  | (_, loaded) => (none, app.withDb loaded.db)

/-- `request_unlock`: the new key store with its TOTP service, if it succeeds. -/
def requestUnlock (app : App Priv Pub Pem) (attempt : Attempt Priv) :
    Option (Controller Priv Pub Pem × Entered) × App Priv Pub Pem :=
  match nonemptyBytes attempt.password with
  | none => (none, app)
  | some password =>
      if E.hasher.verify app.masterPasswordHash password then reloadKeys E app attempt password
      else
        let verified := verifyPassword E app.db password
        if verified = (true, true) then
          let decoy := ((loadDuressDecoy E.keyStore (some password) attempt.generated
            attempt.fakeSecret attempt.draws).run ⟨{}, app.db⟩).2
          (some (⟨decoy, {}⟩, .decoy),
            { (app.markDuress verified).withDb decoy.db with
              masterPasswordHash := E.hasher.hash duressPlaceholder attempt.salt })
        else (none, app.markDuress verified)

/-- `_request_unlock`. -/
def unlock (app : App Priv Pub Pem) (attempt : Attempt Priv) : App Priv Pub Pem :=
  if app.isLocked then
    match requestUnlock E app attempt with
    | (some opened, after) => after.rebuilt opened.1 opened.2
    | (none, after) => after
  else app

/-- `_request_recovery_unlock`, where the dialog calls `on_recovered`. -/
def recoveryUnlock (app : App Priv Pub Pem) (newPassword : Bytes) (draws : ResetDraws Priv)
    (salt : Bytes) : App Priv Pub Pem :=
  if app.isLocked then
    match (resetKeys E.keyStore E.platform newPassword draws).run ⟨{}, app.db⟩ with
    | (.ok _, reset) =>
        { app with masterPasswordHash := E.hasher.hash newPassword salt }.rebuilt ⟨reset, {}⟩
          (.master newPassword)
    | (.error _, reset) => app.withDb reset.db
  else app

/-- `AuthController.change_password`. -/
def changePassword (app : App Priv Pub Pem) (oldPassword newPassword : Option Bytes)
    (draws persistDraws : Draws) (salt : Bytes) : App Priv Pub Pem :=
  match nonemptyBytes oldPassword with
  | none => app
  | some old =>
      let verified := verifyPassword E app.db old
      let marked := app.markDuress verified
      if verified ≠ (true, false) then marked
      else
        match nonemptyBytes newPassword with
        | none => marked
        | some new =>
            match (Totp.changePassword E.keyStore old new draws persistDraws).run
              marked.controller with
            | (.ok true, after) =>
                { marked with
                  controller := after
                  masterPasswordHash := E.hasher.hash new salt
                  entered := .master new }
            | (_, after) => { marked with controller := after }

/-- `AuthController.set_duress_password`. -/
def setDuressPassword (app : App Priv Pub Pem) (masterPassword duressPassword : Option Bytes)
    (dummySecret : Bytes) (decoy : Priv) (draws : Draws) : App Priv Pub Pem :=
  match nonemptyBytes masterPassword with
  | none => app
  | some master =>
      let verified := verifyPassword E app.db master
      let marked := app.markDuress verified
      if verified ≠ (true, false) then marked
      else
        match nonemptyBytes duressPassword with
        | none => marked
        | some duress =>
            if duress = master then marked
            else
              { marked with
                controller := { marked.controller with
                  session := ((KeyStore.setDuressPassword E.keyStore duress dummySecret decoy
                    draws).run marked.controller.session).2 } }

/-- `_import_backup` of the about tab, where the file holds `data`. The rows of other modules are no
part of the state, and neither the hash of the master password nor the ratchets are touched. -/
def importBackup (app : App Priv Pub Pem) (data : Json) (password : Option Bytes)
    (connection : Except TrustChain.Raised Unit) (now : Rat) (draws : LoadDraws) :
    App Priv Pub Pem :=
  match nonemptyBytes password with
  | none => app
  | some password =>
      { app with
        controller := { app.controller with
          session := ((BackupService.importBackup E.toLibraries data password connection now
            draws).run ⟨app.controller.session, fun _ => none⟩).2.session } }

/-- `_existing_user_login` with the master password, and the services that are built on it. -/
def masterLogin (db : Database Pem) (password : Bytes) (attempt : Attempt Priv)
    (newSecret : Bytes) : Option (App Priv Pub Pem) :=
  if password ≠ [] ∧ verifyPassword E db password = (true, false) then
    match (load E.keyStore E.platform password attempt.now attempt.loadDraws).run ⟨{}, db⟩ with
    | (.ok true, loaded) =>
        match (initTotp E.keyStore E.totp (some password) attempt.tests newSecret
          attempt.draws).run ⟨loaded, {}⟩ with
        | (.ok _, controller) =>
            (initRatchetStorageKey controller.session.store none).map fun storageKey =>
              { controller := controller
                masterPasswordHash := E.hasher.hash password attempt.salt
                isLocked := false
                storageKey := storageKey
                entered := .master password }
        | (.error _, _) => none
    | _ => none
  else none

/-- `_existing_user_login` with the duress password. -/
def duressLogin (db : Database Pem) (password : Bytes) (attempt : Attempt Priv) :
    Option (App Priv Pub Pem) :=
  if password ≠ [] ∧ verifyPassword E db password = (true, true) then
    let decoy := ((loadDuressDecoy E.keyStore (some password) attempt.generated attempt.fakeSecret
      attempt.draws).run ⟨{ duressMode := true }, db⟩).2
    some
      { controller := ⟨decoy, {}⟩
        masterPasswordHash := E.hasher.hash duressPlaceholder attempt.salt
        isLocked := false
        storageKey := none
        entered := .decoy }
  else none

end Model

/-- What happens to the application. `use` is an operation of the services on the key store. -/
inductive AppEvent (Priv : Type) where
  | lock
  | unlock (attempt : Attempt Priv)
  | recover (newPassword : Bytes) (draws : ResetDraws Priv) (salt : Bytes)
  | changePassword (oldPassword newPassword : Option Bytes) (draws persistDraws : Draws)
      (salt : Bytes)
  | setDuressPassword (masterPassword duressPassword : Option Bytes) (dummySecret : Bytes)
      (decoy : Priv) (draws : Draws)
  | regenerateTotp (newSecret : Bytes) (draws : Draws)
  | setTotp (setupComplete enabled : String)
  | importBackup (data : Json) (password : Option Bytes)
      (connection : Except TrustChain.Raised Unit) (now : Rat) (draws : LoadDraws)
  | use (operation : Operation Priv)

/-- The operations that the services make. -/
def OfServices {Priv : Type} : Operation Priv → Prop
  | .saveFriend _ _ _ _ | .removeFriend _ | .updateGlobalSecret _ _ _ | .ensurePqcKeys _ _ _
  | .ensurePqcKeysFull _ _ _ | .loadPqcBundle _ | .generateHybridSigKeys _ _ _
  | .rotateRsaKey _ _ _ _ | .persistTotpSecret _ _ _ => True
  | _ => False

section Runs

variable {Priv Pub Pem : Type} (E : Libraries Priv Pub Pem)

def App.onController (app : App Priv Pub Pem)
    (change : Controller Priv Pub Pem → Controller Priv Pub Pem) : App Priv Pub Pem :=
  { app with controller := change app.controller }

/-- While the application is locked, the lock screen lets nothing else through. A recovery where
`sqlcipher3` is installed leaves a database that no connection can read: the runs have none. -/
def appMachine : Machine (App Priv Pub Pem) (AppEvent Priv) where
  start app :=
    (∃ db password attempt newSecret, masterLogin E db password attempt newSecret = some app) ∨
      ∃ db password attempt, duressLogin E db password attempt = some app
  enabled app
    | .lock | .unlock _ => True
    | .recover _ _ _ => E.hasSqlcipher = false
    | .use operation => app.isLocked = false ∧ OfServices operation
    | _ => app.isLocked = false
  apply app
    | .lock => emergencyLock app
    | .unlock attempt => unlock E app attempt
    | .recover newPassword draws salt => recoveryUnlock E app newPassword draws salt
    | .changePassword oldPassword newPassword draws persistDraws salt =>
        changePassword E app oldPassword newPassword draws persistDraws salt
    | .setDuressPassword masterPassword duressPassword dummySecret decoy draws =>
        setDuressPassword E app masterPassword duressPassword dummySecret decoy draws
    | .regenerateTotp newSecret draws =>
        app.onController fun controller =>
          ((regenerateTotp E.keyStore newSecret draws).run controller).2
    | .setTotp setupComplete enabled =>
        app.withDb ((app.db.setText .totpSetupComplete setupComplete).setText .totpEnabled enabled)
    | .importBackup data password connection now draws =>
        importBackup E app data password connection now draws
    | .use operation =>
        app.onController fun controller =>
          { controller with
            session := operation.perform E.keyStore E.platform controller.session }

end Runs

section Lock

variable {Priv Pub Pem : Type} {E : Libraries Priv Pub Pem} {app : App Priv Pub Pem}

@[simp] theorem markDuress_isLocked (verified : Bool × Bool) :
    (app.markDuress verified).isLocked = app.isLocked := by
  unfold App.markDuress
  split <;> rfl

@[simp] theorem markDuress_entered (verified : Bool × Bool) :
    (app.markDuress verified).entered = app.entered := by
  unfold App.markDuress
  split <;> rfl

@[simp] theorem markDuress_masterPasswordHash (verified : Bool × Bool) :
    (app.markDuress verified).masterPasswordHash = app.masterPasswordHash := by
  unfold App.markDuress
  split <;> rfl

@[simp] theorem markDuress_storageKey (verified : Bool × Bool) :
    (app.markDuress verified).storageKey = app.storageKey := by
  unfold App.markDuress
  split <;> rfl

@[simp] theorem markDuress_totpService (verified : Bool × Bool) :
    (app.markDuress verified).controller.totpService = app.controller.totpService := by
  unfold App.markDuress
  split <;> rfl

theorem markDuress_duressMode (verified : Bool × Bool) :
    (app.markDuress verified).store.duressMode =
      if verified.1 then verified.2 else app.store.duressMode := by
  unfold App.markDuress
  split <;> rfl

theorem wiped_wiped (store : KeyStore Priv Pub) : wiped (wiped store) = wiped store := by
  simp only [wiped, List.map_map]
  rfl

/-- The flag of the duress mode is no secret. -/
theorem markDuress_erased (verified : Bool × Bool) (erased : wiped app.store = app.store) :
    wiped (app.markDuress verified).store = (app.markDuress verified).store := by
  unfold App.markDuress
  split
  · exact congrArg (fun store : KeyStore Priv Pub => { store with duressMode := verified.2 }) erased
  · exact erased

/-- A refused attempt sets the flag of the duress mode and writes to the database at most. -/
theorem requestUnlock_none {attempt : Attempt Priv} {after : App Priv Pub Pem}
    (refused : requestUnlock E app attempt = (none, after)) :
    ∃ verified db, after = (app.markDuress verified).withDb db := by
  have unmarked (db : Database Pem) :
      app.withDb db = (app.markDuress (false, false)).withDb db := rfl
  unfold requestUnlock at refused
  cases typed : nonemptyBytes attempt.password with
  | none =>
      rw [typed] at refused
      cases refused
      exact ⟨(false, false), app.db, rfl⟩
  | some password =>
      rw [typed] at refused
      dsimp only at refused
      split at refused
      · unfold reloadKeys at refused
        split at refused
        · obtain ⟨_, rfl⟩ := Prod.mk.inj refused
          exact ⟨(false, false), _, unmarked _⟩
        · cases refused
          exact ⟨(false, false), _, unmarked _⟩
      · split at refused
        · cases refused
        · cases refused
          exact ⟨_, (app.markDuress (verifyPassword E app.db password)).db, rfl⟩

/-- The password that opens the application, and what it opens. -/
structure Opened (E : Libraries Priv Pub Pem) (app : App Priv Pub Pem) (attempt : Attempt Priv)
    (controller : Controller Priv Pub Pem) (entered : Entered) (after : App Priv Pub Pem)
    (password : Bytes) : Prop where
  typed : nonemptyBytes attempt.password = some password
  opened :
    (E.hasher.verify app.masterPasswordHash password = true ∧ entered = .master password ∧
      after = app.withDb controller.session.db ∧
      ∃ loaded, (load E.keyStore E.platform password attempt.now attempt.loadDraws).run
          ⟨{}, app.db⟩ = (.ok true, loaded) ∧
        secondFactor E password attempt ⟨loaded, {}⟩ = (true, controller)) ∨
    (E.hasher.verify app.masterPasswordHash password = false ∧
      verifyPassword E app.db password = (true, true) ∧ entered = .decoy ∧
      controller = ⟨((loadDuressDecoy E.keyStore (some password) attempt.generated
        attempt.fakeSecret attempt.draws).run ⟨{}, app.db⟩).2, {}⟩ ∧
      after = { (app.markDuress (true, true)).withDb controller.session.db with
        masterPasswordHash := E.hasher.hash duressPlaceholder attempt.salt })

theorem requestUnlock_some {attempt : Attempt Priv} {controller : Controller Priv Pub Pem}
    {entered : Entered} {after : App Priv Pub Pem}
    (accepted : requestUnlock E app attempt = (some (controller, entered), after)) :
    ∃ password, Opened E app attempt controller entered after password := by
  unfold requestUnlock at accepted
  cases typed : nonemptyBytes attempt.password with
  | none =>
      rw [typed] at accepted
      cases accepted
  | some password =>
      rw [typed] at accepted
      dsimp only at accepted
      refine ⟨password, typed, ?_⟩
      split at accepted
      · next verified =>
          left
          unfold reloadKeys at accepted
          split at accepted
          · next loaded ran =>
              dsimp only at accepted
              split at accepted
              · next passed =>
                  cases accepted
                  refine ⟨verified, rfl, rfl, loaded, ran, ?_⟩
                  rw [← passed]
              · cases accepted
          · cases accepted
      · next mismatch =>
          right
          split at accepted
          · next duress =>
              rw [duress] at accepted
              cases accepted
              exact ⟨Bool.eq_false_iff.mpr mismatch, duress, rfl, rfl, rfl⟩
          · cases accepted

end Lock

section SecondFactor

variable {Priv Pub Pem : Type} {E : Libraries Priv Pub Pem} {controller : Controller Priv Pub Pem}

/-- The dialog changes nothing, or it accepts a counter above the last one. -/
theorem verifyDialog_cases (codes : List (String × Rat)) (controller : Controller Priv Pub Pem) :
    verifyDialog E codes controller = (false, controller) ∨
      ∃ counter, controller.totpService.lastCounter < counter ∧
        verifyDialog E codes controller = (true, acceptCounter counter controller) := by
  induction codes with
  | nil => exact .inl rfl
  | cons typed rest ih =>
      rcases verify_cases (L := E.totp) controller typed.1 typed.2 with
        ⟨same, fails⟩ | ⟨counter, above, accepts⟩
      · have passed : verifyDialog E (typed :: rest) controller =
            verifyDialog E rest controller := by
          rw [verifyDialog]
          split
          · next after ran =>
              rw [ran] at fails
              exact absurd rfl fails
          · next after _ ran =>
              rw [ran] at same
              rw [← same]
        rw [passed]
        exact ih
      · right
        refine ⟨counter, above, ?_⟩
        rw [verifyDialog, accepts]

theorem acceptCounter_store (counter : Int) :
    (acceptCounter counter controller).session.store = controller.session.store := by
  unfold acceptCounter
  dsimp only
  split <;> rfl

/-- A second factor never touches the key store. -/
theorem secondFactor_store (password : Bytes) (attempt : Attempt Priv)
    (controller : Controller Priv Pub Pem) :
    (secondFactor E password attempt controller).2.session.store = controller.session.store := by
  have kept := loadTotpSecret_keeps_session (P := E.keyStore) (L := E.totp) (some password)
    attempt.tests controller
  unfold secondFactor
  split
  · next loaded after ran =>
      rw [ran] at kept
      have same : after.session = controller.session := kept
      split
      · split
        · rcases verifyDialog_cases (E := E) attempt.codes after with
            refused | ⟨counter, _, accepted⟩
          · rw [refused, same]
          · rw [accepted, acceptCounter_store, same]
        · rw [same]
      · rw [same]
  · next raised after ran =>
      rw [ran] at kept
      exact congrArg Session.store kept

/-- A second factor that is required and passed uses up a counter above the stored one. -/
theorem secondFactor_counter (controller : Controller Priv Pub Pem) {password : Bytes}
    {attempt : Attempt Priv} {after : Controller Priv Pub Pem}
    (required : totpRequired controller.session.db = true)
    (passed : secondFactor E password attempt controller = (true, after)) :
    loadLastCounter controller.session.db < loadLastCounter after.session.db := by
  have kept := loadTotpSecret_keeps_session (P := E.keyStore) (L := E.totp) (some password)
    attempt.tests controller
  unfold secondFactor at passed
  split at passed
  · next loaded middle ran =>
      rw [ran] at kept
      have same : middle.session = controller.session := kept
      rw [if_pos required] at passed
      cases loaded with
      | false => cases passed
      | true =>
          obtain ⟨secret, wired⟩ := loadTotpSecret_service ran
          rcases verifyDialog_cases (E := E) attempt.codes middle with
            refused | ⟨counter, above, accepted⟩
          · rw [if_pos rfl, refused] at passed
            cases passed
          · rw [if_pos rfl, accepted] at passed
            cases passed
            have last := loadedService_lastCounter secret controller.session.db
            rw [← wired] at last
            have saved : (acceptCounter counter middle).session.db =
                middle.session.db.setText .totpLastCounter counter.repr := by
              rw [acceptCounter, wired]
              rfl
            rw [saved, loadLastCounter_setText]
            omega
  · cases passed

/-- A load leaves every text setting but the salt of the ratchet key alone. -/
theorem load_keeps_text (password : Bytes) (now : Rat) (draws : LoadDraws) (db : Database Pem)
    (setting : TextSetting) (other : setting ≠ .ratchetHkdfSalt) :
    ((load E.keyStore E.platform password now draws).run ⟨{}, db⟩).2.db.texts setting =
      db.texts setting := by
  have survives : SurvivesLoad E.keyStore fun after : Database Pem =>
      after.texts setting = db.texts setting := by
    constructor
    · exact fun _ same => same
    · intro password draws before after same made
      obtain ⟨_, _, texts, _⟩ := newRatchetStorageKey_settings made
      exact (texts _ other).trans same
  exact load_maintains_of survives password now draws ⟨{}, db⟩ rfl

theorem totpRequired_load (password : Bytes) (now : Rat) (draws : LoadDraws) (db : Database Pem) :
    totpRequired ((load E.keyStore E.platform password now draws).run ⟨{}, db⟩).2.db =
      totpRequired db := by
  have enabled := load_keeps_text (E := E) password now draws db .totpEnabled (by decide)
  have complete := load_keeps_text (E := E) password now draws db .totpSetupComplete (by decide)
  unfold totpRequired isTotpEnabled isTotpSetupComplete
  rw [enabled, complete]

end SecondFactor

/-- A key that `set_ratchet_storage_key` takes. -/
def Storable {Priv Pub : Type} (store : KeyStore Priv Pub) : Prop :=
  ∀ key, store.ratchetStorageKey = some key → key.length = 32

section Guarded

variable {Priv Pub Pem : Type} (E : Libraries Priv Pub Pem)

/-- The ratchet storage key that an unlock or a recovery brings has 32 bytes. -/
def Keyed (app : App Priv Pub Pem) : AppEvent Priv → Prop
  | .unlock attempt => ∀ password loaded, attempt.password = some password →
      (load E.keyStore E.platform password attempt.now attempt.loadDraws).run ⟨{}, app.db⟩ =
        (.ok true, loaded) → Storable loaded.store
  | .recover newPassword draws _ =>
      Storable ((resetKeys E.keyStore E.platform newPassword draws).run
        ⟨{}, app.db⟩).2.store
  | _ => True

/-- The hash is of the password that opened the application, and a lock has wiped all secrets. -/
structure Guarded (app : App Priv Pub Pem) : Prop where
  hash : ∃ salt, app.masterPasswordHash = E.hasher.hash app.entered.password salt
  erased : app.isLocked = true → wiped app.store = app.store
  forgotten : app.isLocked = true → app.controller.totpService.secret = none

variable {E} {app : App Priv Pub Pem}

theorem Guarded.verify_iff (guarded : Guarded E app) (hasher : E.hasher.Lawful)
    (password : Bytes) :
    E.hasher.verify app.masterPasswordHash password = true ↔ password = app.entered.password := by
  obtain ⟨salt, made⟩ := guarded.hash
  rw [made]
  exact hasher.verify_hash _ _ _

/-- An unlocked application has only its hash to guard. -/
theorem Guarded.of_unlocked (unlocked : app.isLocked = false)
    (hash : ∃ salt, app.masterPasswordHash = E.hasher.hash app.entered.password salt) :
    Guarded E app := by
  refine ⟨hash, fun locked => ?_, fun locked => ?_⟩
  · rw [unlocked] at locked
    cases locked
  · rw [unlocked] at locked
    cases locked

theorem Guarded.emergencyLock (guarded : Guarded E app) : Guarded E (emergencyLock app) := by
  unfold AppLock.emergencyLock
  split
  · exact guarded
  · exact ⟨guarded.hash, fun _ => wiped_wiped app.store, fun _ => rfl⟩

/-- What a refused attempt leaves is as well guarded. -/
theorem Guarded.refused (guarded : Guarded E app) (verified : Bool × Bool) (db : Database Pem) :
    Guarded E ((app.markDuress verified).withDb db) := by
  obtain ⟨salt, made⟩ := guarded.hash
  refine ⟨⟨salt, ?_⟩, fun locked => ?_, fun locked => ?_⟩
  · have entered : ((app.markDuress verified).withDb db).entered = app.entered :=
      markDuress_entered verified
    have hash : ((app.markDuress verified).withDb db).masterPasswordHash =
        app.masterPasswordHash := markDuress_masterPasswordHash verified
    rw [entered, hash, made]
  · exact markDuress_erased verified
      (guarded.erased ((markDuress_isLocked verified).symm.trans locked))
  · exact (congrArg TOTPService.secret (markDuress_totpService verified)).trans
      (guarded.forgotten ((markDuress_isLocked verified).symm.trans locked))

/-- A key store whose ratchet key is fit opens the application. -/
theorem rebuilt_of_storable {controller : Controller Priv Pub Pem} {entered : Entered}
    (fit : Storable controller.session.store) :
    app.rebuilt controller entered =
      { app with
        controller := controller
        entered := entered
        storageKey := controller.session.store.ratchetStorageKey <|> app.storageKey
        isLocked := false } := by
  unfold App.rebuilt initRatchetStorageKey
  cases found : controller.session.store.ratchetStorageKey with
  | none => rfl
  | some key =>
      dsimp only
      rw [if_pos (fit key found)]
      rfl

theorem decoyStore_storable (decoy : Priv) (fakeSecret : Bytes) (store : KeyStore Priv Pub) :
    Storable (decoyStore E.keyStore decoy fakeSecret store) := by
  intro key found
  cases found

/-- What opens the application brings a fit key store with it. -/
theorem Opened.storable {attempt : Attempt Priv} {controller : Controller Priv Pub Pem}
    {entered : Entered} {after : App Priv Pub Pem} {password : Bytes}
    (opened : Opened E app attempt controller entered after password)
    (keyed : Keyed E app (.unlock attempt)) : Storable controller.session.store := by
  rcases opened.opened with ⟨_, _, _, loaded, ran, passed⟩ | ⟨_, _, _, made, _⟩
  · have fit := keyed password loaded (eq_some_of_nonemptyBytes opened.typed) ran
    have kept := secondFactor_store (E := E) password attempt ⟨loaded, {}⟩
    rw [passed] at kept
    have same : controller.session.store = loaded.store := kept
    rw [same]
    exact fit
  · rw [made]
    dsimp only
    rw [loadDuressDecoy_store]
    exact decoyStore_storable _ _ _

theorem Guarded.unlock (guarded : Guarded E app) (hasher : E.hasher.Lawful)
    {attempt : Attempt Priv} (keyed : Keyed E app (.unlock attempt)) :
    Guarded E (unlock E app attempt) := by
  unfold AppLock.unlock
  split
  · split
    · next opened after accepted =>
        obtain ⟨password, opened⟩ := requestUnlock_some accepted
        rw [rebuilt_of_storable (opened.storable keyed)]
        apply Guarded.of_unlocked rfl
        rcases opened.opened with ⟨verified, entered, made, _⟩ | ⟨_, _, entered, _, made⟩
        · obtain ⟨salt, hash⟩ := guarded.hash
          refine ⟨salt, ?_⟩
          rw [guarded.verify_iff hasher] at verified
          dsimp only
          rw [made, entered, verified]
          exact hash
        · refine ⟨attempt.salt, ?_⟩
          dsimp only
          rw [made, entered]
          rfl
    · next after refused =>
        obtain ⟨verified, db, rfl⟩ := requestUnlock_none refused
        exact guarded.refused verified db
  · exact guarded

/-- A recovery opens the application with the new password, or it writes to the database at most. -/
theorem recoveryUnlock_cases {newPassword salt : Bytes} {draws : ResetDraws Priv}
    (keyed : Keyed E app (.recover newPassword draws salt)) :
    ((recoveryUnlock E app newPassword draws salt).isLocked = false ∧
      (recoveryUnlock E app newPassword draws salt).entered = .master newPassword ∧
      (recoveryUnlock E app newPassword draws salt).masterPasswordHash =
        E.hasher.hash newPassword salt) ∨
    ∃ db, recoveryUnlock E app newPassword draws salt = app.withDb db := by
  have fit : Storable ((resetKeys E.keyStore E.platform newPassword draws).run
      ⟨{}, app.db⟩).2.store := keyed
  unfold recoveryUnlock
  split
  · split
    · next reset ran =>
        rw [ran] at fit
        rw [rebuilt_of_storable fit]
        exact .inl ⟨rfl, rfl, rfl⟩
    · exact .inr ⟨_, rfl⟩
  · exact .inr ⟨app.db, rfl⟩

theorem Guarded.recoveryUnlock (guarded : Guarded E app) {newPassword salt : Bytes}
    {draws : ResetDraws Priv} (keyed : Keyed E app (.recover newPassword draws salt)) :
    Guarded E (recoveryUnlock E app newPassword draws salt) := by
  rcases recoveryUnlock_cases keyed with ⟨unlocked, entered, hash⟩ | ⟨db, same⟩
  · apply Guarded.of_unlocked unlocked
    exact ⟨salt, by rw [hash, entered]; rfl⟩
  · rw [same]
    exact guarded.refused (false, false) db

@[simp] theorem changePassword_isLocked (oldPassword newPassword : Option Bytes)
    (draws persistDraws : Draws) (salt : Bytes) :
    (changePassword E app oldPassword newPassword draws persistDraws salt).isLocked =
      app.isLocked := by
  unfold changePassword
  split
  · rfl
  · dsimp only
    split
    · exact markDuress_isLocked _
    · split
      · exact markDuress_isLocked _
      · split <;> exact markDuress_isLocked _

theorem Guarded.changePassword (guarded : Guarded E app) (unlocked : app.isLocked = false)
    (oldPassword newPassword : Option Bytes) (draws persistDraws : Draws) (salt : Bytes) :
    Guarded E (changePassword E app oldPassword newPassword draws persistDraws salt) := by
  apply Guarded.of_unlocked ((changePassword_isLocked ..).trans unlocked)
  obtain ⟨kept, made⟩ := guarded.hash
  have marked (verified : Bool × Bool) : (app.markDuress verified).masterPasswordHash =
      E.hasher.hash (app.markDuress verified).entered.password kept := by
    rw [markDuress_masterPasswordHash, markDuress_entered, made]
  unfold AppLock.changePassword
  split
  · exact guarded.hash
  · dsimp only
    split
    · exact ⟨kept, marked _⟩
    · split
      · exact ⟨kept, marked _⟩
      · split
        · exact ⟨salt, rfl⟩
        · exact ⟨kept, marked _⟩

/-- What `set_duress_password` changes is the session. -/
theorem setDuressPassword_session (app : App Priv Pub Pem)
    (masterPassword duressPassword : Option Bytes) (dummySecret : Bytes) (decoy : Priv)
    (draws : Draws) :
    ∃ session, setDuressPassword E app masterPassword duressPassword dummySecret decoy draws =
      { app with controller := { app.controller with session := session } } := by
  have marked (verified : Bool × Bool) : ∃ session, app.markDuress verified =
      { app with controller := { app.controller with session := session } } := by
    unfold App.markDuress
    split
    · exact ⟨_, rfl⟩
    · exact ⟨app.controller.session, rfl⟩
  unfold setDuressPassword
  split
  · exact ⟨app.controller.session, rfl⟩
  · next master _ =>
      obtain ⟨session, same⟩ := marked (verifyPassword E app.db master)
      dsimp only
      rw [same]
      split
      · exact ⟨_, rfl⟩
      · split
        · exact ⟨_, rfl⟩
        · split
          · exact ⟨_, rfl⟩
          · exact ⟨_, rfl⟩

/-- What an import changes is the session. -/
theorem importBackup_session (app : App Priv Pub Pem) (data : Json) (password : Option Bytes)
    (connection : Except TrustChain.Raised Unit) (now : Rat) (draws : LoadDraws) :
    ∃ session, importBackup E app data password connection now draws =
      { app with controller := { app.controller with session := session } } := by
  unfold importBackup
  split
  · exact ⟨app.controller.session, rfl⟩
  · exact ⟨_, rfl⟩

/-- Every event keeps the application guarded. -/
theorem guarded_step (hasher : E.hasher.Lawful) (guarded : Guarded E app) {event : AppEvent Priv}
    (enabled : (appMachine E).enabled app event) (keyed : Keyed E app event) :
    Guarded E ((appMachine E).apply app event) := by
  cases event with
  | lock => exact guarded.emergencyLock
  | unlock attempt => exact guarded.unlock hasher keyed
  | recover newPassword draws salt => exact guarded.recoveryUnlock keyed
  | changePassword oldPassword newPassword draws persistDraws salt =>
      exact guarded.changePassword enabled oldPassword newPassword draws persistDraws salt
  | setDuressPassword masterPassword duressPassword dummySecret decoy draws =>
      obtain ⟨session, same⟩ := setDuressPassword_session (E := E) app masterPassword
        duressPassword dummySecret decoy draws
      have unlocked : app.isLocked = false := enabled
      have applied : (appMachine E).apply app (.setDuressPassword masterPassword duressPassword
        dummySecret decoy draws) = { app with
          controller := { app.controller with session := session } } := same
      rw [applied]
      exact Guarded.of_unlocked unlocked guarded.hash
  | regenerateTotp newSecret draws => exact Guarded.of_unlocked enabled guarded.hash
  | setTotp setupComplete enabledNow => exact Guarded.of_unlocked enabled guarded.hash
  | importBackup data password connection now draws =>
      obtain ⟨session, same⟩ := importBackup_session (E := E) app data password connection now draws
      have unlocked : app.isLocked = false := enabled
      have applied : (appMachine E).apply app (.importBackup data password connection now draws) =
        { app with controller := { app.controller with session := session } } := same
      rw [applied]
      exact Guarded.of_unlocked unlocked guarded.hash
  | use operation => exact Guarded.of_unlocked enabled.1 guarded.hash

/-- What a login leaves: an open application, and the flag of the duress mode on the decoy. -/
theorem started_cases (started : (appMachine E).start app) :
    app.isLocked = false ∧
      (∃ salt, app.masterPasswordHash = E.hasher.hash app.entered.password salt) ∧
      (app.entered = .decoy → app.store.duressMode = true) := by
  rcases started with
    ⟨db, password, attempt, newSecret, opened⟩ | ⟨db, password, attempt, opened⟩
  · unfold masterLogin at opened
    split at opened
    · split at opened
      · split at opened
        · obtain ⟨storageKey, _, rfl⟩ := Option.map_eq_some_iff.mp opened
          refine ⟨rfl, ⟨attempt.salt, rfl⟩, fun decoy => ?_⟩
          cases decoy
        · cases opened
      · cases opened
    · cases opened
  · unfold duressLogin at opened
    split at opened
    · cases opened
      have store := loadDuressDecoy_store E.keyStore (some password) attempt.generated
        attempt.fakeSecret attempt.draws ⟨{ duressMode := true }, db⟩
      exact ⟨rfl, ⟨attempt.salt, rfl⟩, fun _ => congrArg KeyStore.duressMode store⟩
    · cases opened

theorem guarded_of_reachable (hasher : E.hasher.Lawful)
    (reachable : (appMachine E).Reachable (Keyed E) app) : Guarded E app :=
  Machine.Reachable.invariant (appMachine E) (Guarded E)
    (fun _ started => .of_unlocked (started_cases started).1 (started_cases started).2.1)
    (fun _ _ _ guarded enabled keyed => guarded_step hasher guarded enabled keyed) reachable

end Guarded

section Unlocking

variable {Priv Pub Pem : Type} (E : Libraries Priv Pub Pem)

/-- `load` takes the password, and the second factor passes where one is required. -/
def Reopens (app : App Priv Pub Pem) (attempt : Attempt Priv) (password : Bytes) : Prop :=
  ∃ loaded controller,
    (load E.keyStore E.platform password attempt.now attempt.loadDraws).run ⟨{}, app.db⟩ =
        (.ok true, loaded) ∧
      secondFactor E password attempt ⟨loaded, {}⟩ = (true, controller)

variable {E} {app : App Priv Pub Pem}

theorem unlock_of_locked (locked : app.isLocked = true) (attempt : Attempt Priv) :
    (∃ opened after, requestUnlock E app attempt = (some opened, after) ∧
        unlock E app attempt = after.rebuilt opened.1 opened.2) ∨
      ∃ after, requestUnlock E app attempt = (none, after) ∧ unlock E app attempt = after ∧
        after.isLocked = true := by
  unfold unlock
  rw [if_pos locked]
  cases asked : requestUnlock E app attempt with
  | mk outcome after =>
      cases outcome with
      | some opened => exact .inl ⟨opened, after, rfl, rfl⟩
      | none =>
          obtain ⟨verified, db, made⟩ := requestUnlock_none asked
          refine .inr ⟨after, rfl, rfl, ?_⟩
          rw [made]
          exact (markDuress_isLocked verified).trans locked

theorem requestUnlock_reopens {attempt : Attempt Priv} {password : Bytes}
    (typed : nonemptyBytes attempt.password = some password)
    (verified : E.hasher.verify app.masterPasswordHash password = true)
    (reopens : Reopens E app attempt password) :
    ∃ opened after, requestUnlock E app attempt = (some opened, after) := by
  obtain ⟨loaded, controller, ran, passed⟩ := reopens
  refine ⟨(controller, .master password), app.withDb controller.session.db, ?_⟩
  unfold requestUnlock reloadKeys
  rw [typed]
  dsimp only
  rw [if_pos verified, ran]
  dsimp only
  rw [passed]
  rfl

theorem requestUnlock_decoy {attempt : Attempt Priv} {password : Bytes}
    (typed : nonemptyBytes attempt.password = some password)
    (mismatch : ¬ E.hasher.verify app.masterPasswordHash password = true)
    (duress : verifyPassword E app.db password = (true, true)) :
    ∃ opened after, requestUnlock E app attempt = (some opened, after) := by
  unfold requestUnlock
  rw [typed]
  dsimp only
  rw [if_neg mismatch, if_pos duress]
  exact ⟨_, _, rfl⟩

/-- A locked application is opened by two passwords: the one that opened it last, which the key
store and the second factor have to take as well, and any other that opens the duress verifier. -/
theorem unlock_iff (guarded : Guarded E app) (hasher : E.hasher.Lawful)
    (locked : app.isLocked = true) {attempt : Attempt Priv}
    (keyed : Keyed E app (.unlock attempt)) :
    (unlock E app attempt).isLocked = false ↔
      ∃ password, nonemptyBytes attempt.password = some password ∧
        (password = app.entered.password ∧ Reopens E app attempt password ∨
          password ≠ app.entered.password ∧ verifyPassword E app.db password = (true, true)) := by
  constructor
  · intro unlocked
    rcases unlock_of_locked (E := E) locked attempt with
      ⟨_, after, accepted, _⟩ | ⟨after, _, same, still⟩
    · obtain ⟨password, opened⟩ := requestUnlock_some accepted
      refine ⟨password, opened.typed, ?_⟩
      rcases opened.opened with
        ⟨verified, _, _, loaded, ran, passed⟩ | ⟨mismatch, duress, _⟩
      · exact .inl ⟨(guarded.verify_iff hasher password).mp verified, loaded, _, ran, passed⟩
      · refine .inr ⟨fun same => ?_, duress⟩
        rw [(guarded.verify_iff hasher password).mpr same] at mismatch
        cases mismatch
    · rw [same, still] at unlocked
      cases unlocked
  · rintro ⟨password, typed, which⟩
    have accepted : ∃ opened after, requestUnlock E app attempt = (some opened, after) := by
      rcases which with ⟨same, reopens⟩ | ⟨differ, duress⟩
      · exact requestUnlock_reopens typed ((guarded.verify_iff hasher password).mpr same) reopens
      · exact requestUnlock_decoy typed
          (fun verified => differ ((guarded.verify_iff hasher password).mp verified)) duress
    obtain ⟨opened, after, accepted⟩ := accepted
    rcases unlock_of_locked (E := E) locked attempt with
      ⟨_, _, asked, same⟩ | ⟨_, asked, _⟩
    · obtain ⟨password, brought⟩ := requestUnlock_some asked
      rw [same, rebuilt_of_storable (brought.storable keyed)]
    · rw [accepted] at asked
      cases asked

/-- An unlock with the second factor raises the stored counter. -/
theorem unlock_counter (locked : app.isLocked = true) {attempt : Attempt Priv}
    (keyed : Keyed E app (.unlock attempt)) (required : totpRequired app.db = true)
    (unlocked : (unlock E app attempt).isLocked = false)
    (master : (unlock E app attempt).entered ≠ .decoy) :
    loadLastCounter app.db < loadLastCounter (unlock E app attempt).db := by
  rcases unlock_of_locked (E := E) locked attempt with
    ⟨opened, after, accepted, same⟩ | ⟨after, _, same, still⟩
  · obtain ⟨password, brought⟩ := requestUnlock_some accepted
    rw [same, rebuilt_of_storable (brought.storable keyed)] at master ⊢
    rcases brought.opened with ⟨_, _, _, loaded, ran, passed⟩ | ⟨_, _, decoy, _⟩
    · have kept := totpRequired_load (E := E) password attempt.now attempt.loadDraws app.db
      have counter : loadLastCounter ((load E.keyStore E.platform password attempt.now
          attempt.loadDraws).run ⟨{}, app.db⟩).2.db = loadLastCounter app.db :=
        loadLastCounter_load password attempt.now attempt.loadDraws app.db
      rw [ran] at kept counter
      have rises := secondFactor_counter (E := E) ⟨loaded, {}⟩ (kept.trans required) passed
      exact counter.symm.trans_lt rises
    · exact absurd decoy master
  · rw [same, still] at unlocked
    cases unlocked

/-- Whatever a run did before, a locked application holds no secret, and what opens it is a password
together with what that password calls for. -/
theorem locked_app_guarded (hasher : E.hasher.Lawful)
    (reachable : (appMachine E).Reachable (Keyed E) app) (locked : app.isLocked = true)
    {attempt : Attempt Priv} (keyed : Keyed E app (.unlock attempt)) :
    wiped app.store = app.store ∧ app.controller.totpService.secret = none ∧
      ((unlock E app attempt).isLocked = false ↔
        ∃ password, nonemptyBytes attempt.password = some password ∧
          (password = app.entered.password ∧ Reopens E app attempt password ∨
            password ≠ app.entered.password ∧
              verifyPassword E app.db password = (true, true))) ∧
      ((unlock E app attempt).isLocked = false → (unlock E app attempt).entered ≠ .decoy →
        totpRequired app.db = true →
          loadLastCounter app.db < loadLastCounter (unlock E app attempt).db) := by
  have guarded := guarded_of_reachable hasher reachable
  refine ⟨guarded.erased locked, guarded.forgotten locked, unlock_iff guarded hasher locked keyed,
    fun unlocked master required => ?_⟩
  exact unlock_counter locked keyed required unlocked master

end Unlocking

section Toy

/-- A hash that shows the password. -/
def toyHasher : PasswordHasher where
  hash password _ := b64encode password
  verify text password := text = b64encode password

theorem toyHasher_lawful : toyHasher.Lawful where
  verify_hash password salt other := by
    refine decide_eq_true_iff.trans ⟨fun same => ?_, fun same => by rw [same]; rfl⟩
    have decoded := congrArg b64decode same
    unfold toyHasher at decoded
    rw [b64decode_b64encode, b64decode_b64encode] at decoded
    exact (Except.ok.inj decoded).symm

def toyDesk : Libraries String String (String × Bytes) where
  toLibraries := { BackupService.toyBackupLibraries with platform := toyPlatform }
  totp := toyTotp
  hasher := toyHasher
  hasSqlcipher := false

abbrev ToyApp := App String String (String × Bytes)

def toyEntry (password : Bytes) : Attempt String where
  password := some password
  now := 0
  loadDraws := { toyLoadDraws with ratchetKey := List.replicate 32 8 }
  tests := toyTests
  codes := [("000010", 300)]
  salt := []
  generated := "decoy key"
  fakeSecret := List.replicate 32 9
  draws := toyDraws

/-- A first login with the password `[1]`. -/
def toyOpened : ToyApp :=
  (masterLogin toyDesk toyEnrolled.db [1] (toyEntry [1]) (List.replicate 32 15)).getD
    ⟨⟨toyEnrolled, {}⟩, "", false, none, .decoy⟩

/-- The second factor is switched on before the lock. -/
def toyLocked : ToyApp :=
  (appMachine toyDesk).run toyOpened [fun _ => .setTotp "1" "1", fun _ => .lock]

theorem toyLocked_reachable : (appMachine toyDesk).Reachable (Keyed toyDesk) toyLocked := by
  obtain ⟨entered, unlocked⟩ : (masterLogin toyDesk toyEnrolled.db [1] (toyEntry [1])
      (List.replicate 32 15)).isSome = true ∧ toyOpened.isLocked = false := by decide +kernel
  have opened : masterLogin toyDesk toyEnrolled.db [1] (toyEntry [1]) (List.replicate 32 15) =
      some toyOpened := by
    obtain ⟨app, made⟩ := Option.isSome_iff_exists.mp entered
    rw [toyOpened, made]
    rfl
  have started : (appMachine toyDesk).start toyOpened := Or.inl ⟨_, _, _, _, opened⟩
  exact Machine.Reachable.run (.start started) ⟨unlocked, trivial, trivial, trivial, trivial⟩

/-- The application that is locked after a login opens again with the same password and a code, and
the code is used up. -/
theorem toyLocked_reopens :
    wiped toyLocked.store = toyLocked.store ∧ totpRequired toyLocked.db = true ∧
    (unlock toyDesk toyLocked (toyEntry [1])).isLocked = false ∧
    loadLastCounter toyLocked.db <
      loadLastCounter (unlock toyDesk toyLocked (toyEntry [1])).db := by
  obtain ⟨locked, entered, required, loads, key, passed, master⟩ :
      toyLocked.isLocked = true ∧ toyLocked.entered = .master [1] ∧
        totpRequired toyLocked.db = true ∧
        ((load toyLibraries toyPlatform [1] 0 (toyEntry [1]).loadDraws).run
          ⟨{}, toyLocked.db⟩).1 = .ok true ∧
        ((load toyLibraries toyPlatform [1] 0 (toyEntry [1]).loadDraws).run
          ⟨{}, toyLocked.db⟩).2.store.ratchetStorageKey = some (List.replicate 32 8) ∧
        (secondFactor toyDesk [1] (toyEntry [1]) ⟨((load toyLibraries toyPlatform [1] 0
          (toyEntry [1]).loadDraws).run ⟨{}, toyLocked.db⟩).2, {}⟩).1 = true ∧
        (unlock toyDesk toyLocked (toyEntry [1])).entered ≠ .decoy := by
    decide +kernel
  have keyed : Keyed toyDesk toyLocked (.unlock (toyEntry [1])) := by
    intro password loaded typed ran
    cases typed
    have same : ((load toyLibraries toyPlatform [1] 0 (toyEntry [1]).loadDraws).run
      ⟨{}, toyLocked.db⟩).2 = loaded := congrArg Prod.snd ran
    intro found held
    rw [← same, key] at held
    cases held
    rfl
  obtain ⟨erased, _, opens, counts⟩ :=
    locked_app_guarded toyHasher_lawful toyLocked_reachable locked keyed
  have unlocked := opens.mpr ⟨[1], rfl, .inl ⟨congrArg Entered.password entered.symm, _, _,
    Prod.ext loads rfl, Prod.ext passed rfl⟩⟩
  exact ⟨erased, required, unlocked, counts unlocked master required⟩

end Toy

end UltimateEnigma.AppLock
