import UltimateEnigma.AppLock

set_option autoImplicit false

namespace UltimateEnigma.AppLock

open Py KeyStore Totp

section Frames

variable {Priv Pub Pem : Type} {P : Primitives Priv Pub Pem} {platform : Platform}

def duressFlag (session : Session Priv Pub Pem) : Bool := session.store.duressMode

theorem assign_keeps_duress {change : KeyStore Priv Pub → KeyStore Priv Pub}
    (same : ∀ store, (change store).duressMode = store.duressMode) :
    (assign change : StoreCall Priv Pub Pem Unit).Keeps duressFlag :=
  Call.keeps_modify fun session => same session.store

theorem commit_keeps_duress (change : Database Pem → Database Pem) :
    (commit change : StoreCall Priv Pub Pem Unit).Keeps duressFlag :=
  Call.keeps_modify fun _ => rfl

theorem saveFriend_keeps_duress (name : String) (update : FriendUpdate) (password : Bytes)
    (draws : Draws) : (saveFriend P platform name update password draws).Keeps duressFlag := by
  refine Call.keeps_bind (Call.keeps_lift _) fun secretColumn => ?_
  refine Call.keeps_bind (Call.keeps_lift _) fun ecdhColumn => ?_
  refine Call.keeps_bind (commit_keeps_duress _) fun _ => ?_
  refine Call.keeps_bind (Call.keeps_lift _) fun pub => ?_
  refine Call.keeps_bind (Call.keeps_lift _) fun pqcCombinedPub => ?_
  refine Call.keeps_bind (assign_keeps_duress fun _ => rfl) fun _ => ?_
  exact Call.keeps_bind (Call.keeps_lift _) fun _ => assign_keeps_duress fun _ => rfl

theorem ensurePqcKeys_keeps_duress (password : Bytes) (keys : PqcBundle) (draws : Draws) :
    (ensurePqcKeys P platform password keys draws).Keeps duressFlag := by
  refine Call.keeps_bind Call.keeps_read fun session => ?_
  refine Call.keeps_ite (Call.keeps_pure _) (Call.keeps_ite (Call.keeps_raise _) ?_)
  exact Call.keeps_bind (commit_keeps_duress _) fun _ => assign_keeps_duress fun _ => rfl

theorem ensurePqcKeysFull_keeps_duress (password : Bytes) (keys : PqcBundle) (draws : Draws) :
    (ensurePqcKeysFull P platform password keys draws).Keeps duressFlag := by
  refine Call.keeps_ite (Call.keeps_pure _) (Call.keeps_bind Call.keeps_read fun session => ?_)
  refine Call.keeps_bind (Call.keeps_lift _) fun stored => ?_
  cases stored with
  | some bundle => exact Call.keeps_pure _
  | none =>
      refine Call.keeps_bind (commit_keeps_duress _) fun _ => ?_
      exact Call.keeps_bind (assign_keeps_duress fun _ => rfl) fun _ => Call.keeps_pure _

theorem loadPqcBundle_keeps_duress (password : Bytes) :
    (loadPqcBundle P password).Keeps duressFlag := by
  refine Call.keeps_bind Call.keeps_read fun session => ?_
  refine Call.keeps_bind (Call.keeps_lift _) fun bundle => ?_
  cases bundle with
  | none => exact Call.keeps_pure _
  | some bundle =>
      exact Call.keeps_bind (assign_keeps_duress fun _ => rfl) fun _ => Call.keeps_pure _

theorem rotateRsaKey_keeps_duress (password : Bytes) (priv : Priv) (now : Rat) (draws : Draws) :
    (rotateRsaKey P password priv now draws).Keeps duressFlag := by
  refine Call.keeps_mapError _ (Call.keeps_bind Call.keeps_read fun session => ?_)
  refine Call.keeps_bind (Call.keeps_lift _) fun pems => ?_
  refine Call.keeps_bind (commit_keeps_duress _) fun _ => ?_
  refine Call.keeps_bind (assign_keeps_duress fun _ => rfl) fun _ => ?_
  exact Call.keeps_bind (Call.keeps_lift _) fun _ => assign_keeps_duress fun _ => rfl

theorem persistTotpSecret_keeps_duress (secret : Bytes) (password : Option Bytes) (draws : Draws) :
    (persistTotpSecret P secret password draws).Keeps duressFlag := by
  refine Call.keeps_bind Call.keeps_read fun session => ?_
  split
  · exact Call.keeps_pure _
  · exact commit_keeps_duress _

/-- The services never touch the flag of the duress mode. -/
theorem perform_keeps_duress {operation : Operation Priv} (services : OfServices operation)
    (session : Session Priv Pub Pem) :
    (operation.perform P platform session).store.duressMode = session.store.duressMode := by
  cases operation with
  | saveFriend name update password draws =>
      exact saveFriend_keeps_duress name update password draws session
  | removeFriend name =>
      have keeps : (removeFriend name : StoreCall Priv Pub Pem Unit).Keeps duressFlag :=
        Call.keeps_bind (commit_keeps_duress _) fun _ => assign_keeps_duress fun _ => rfl
      exact keeps session
  | updateGlobalSecret newSecret password draws =>
      have keeps : (updateGlobalSecret P newSecret password draws).Keeps duressFlag :=
        Call.keeps_bind (commit_keeps_duress _) fun _ => assign_keeps_duress fun _ => rfl
      exact keeps session
  | ensurePqcKeys password keys draws =>
      exact ensurePqcKeys_keeps_duress password keys draws session
  | ensurePqcKeysFull password keys draws =>
      exact ensurePqcKeysFull_keeps_duress password keys draws session
  | loadPqcBundle password => exact loadPqcBundle_keeps_duress password session
  | generateHybridSigKeys password keys draws =>
      have keeps : (generateHybridSigKeys P password keys draws).Keeps duressFlag :=
        Call.keeps_bind (commit_keeps_duress _) fun _ => assign_keeps_duress fun _ => rfl
      exact keeps session
  | rotateRsaKey password priv now draws =>
      exact rotateRsaKey_keeps_duress password priv now draws session
  | persistTotpSecret secret password draws =>
      exact persistTotpSecret_keeps_duress secret password draws session
  | _ => exact services.elim

theorem regenerateTotp_keeps_duress (newSecret : Bytes) (draws : Draws)
    (controller : Controller Priv Pub Pem) :
    ((regenerateTotp P newSecret draws).run controller).2.session.store.duressMode =
      controller.session.store.duressMode := by
  have keeps : (regenerateTotp P newSecret draws).Keeps
      fun controller : Controller Priv Pub Pem => controller.session.store.duressMode := by
    refine Call.keeps_bind ?_ fun _ => Call.keeps_bind ?_ fun secret => ?_
    · exact Call.keeps_ite (Call.keeps_raise _) (Call.keeps_modify fun _ => rfl)
    · exact Call.keeps_bind Call.keeps_read fun _ => Call.keeps_require _ _
    · intro controller
      rw [onKeyStore_after]
      exact persistTotpSecret_keeps_duress secret none draws controller.session
  exact keeps controller

theorem seesOnly_duress : SeesOnly KeyStore.duressMode
    (duressFlag : Session Priv Pub Pem → Bool) := fun _ _ same => same

theorem loadKeys_keeps_duress (password : Bytes) (now : Rat) :
    (loadKeys P platform password now).Keeps duressFlag := by
  have sees : SeesOnly KeyStore.duressMode (duressFlag : Session Priv Pub Pem → Bool) :=
    seesOnly_duress
  refine Call.keeps_bind (loadPublicKey_keeps sees) fun _ =>
    Call.keeps_bind (loadPrivateKey_keeps sees password) fun _ =>
    Call.keeps_ite ?_ (Call.keeps_pure _)
  refine Call.keeps_bind (loadLegacyKey_keeps sees (fun _ _ => rfl) password now) fun _ =>
    Call.keeps_bind (loadGlobalSecret_keeps sees password) fun _ =>
    Call.keeps_ite ?_ (Call.keeps_pure _)
  exact Call.keeps_bind (loadKyberKey_keeps sees password) fun _ =>
    Call.keeps_bind (loadPqcCombinedPub_keeps sees) fun _ =>
    Call.keeps_bind (cachePqcBundle_keeps sees password) fun _ =>
    Call.keeps_bind (loadHybridSigning_keeps sees password) fun _ =>
    Call.keeps_bind (loadFriends_keeps sees password) fun _ => Call.keeps_pure _

theorem loadRatchetStorageKey_keeps_duress (password : Bytes) (draws : LoadDraws) :
    (loadRatchetStorageKey P password draws).Keeps duressFlag := by
  have wipes : (assign wiped : StoreCall Priv Pub Pem Unit).Keeps duressFlag :=
    assign_keeps_duress fun _ => rfl
  refine Call.keeps_bind Call.keeps_read fun session => ?_
  split
  · refine Call.keeps_bind (Call.keeps_lift _) fun found => ?_
    cases found with
    | some key => exact Call.keeps_pure _
    | none => exact Call.keeps_bind wipes fun _ => Call.keeps_pure _
  · refine Call.keeps_bind (Call.keeps_lift _) fun made => ?_
    cases made with
    | some db => exact Call.keeps_bind (commit_keeps_duress _) fun _ => Call.keeps_pure _
    | none => exact Call.keeps_bind wipes fun _ => Call.keeps_pure _

theorem load_keeps_duress (password : Bytes) (now : Rat) (draws : LoadDraws) :
    (load P platform password now draws).Keeps duressFlag := by
  refine Call.keeps_bind (Call.keeps_mapError _ (loadKeys_keeps_duress password now)) fun _ =>
    Call.keeps_ite (Call.keeps_bind (loadRatchetStorageKey_keeps_duress password draws)
      fun key => ?_) (Call.keeps_pure _)
  cases key with
  | none => exact Call.keeps_pure _
  | some key => exact Call.keeps_bind (assign_keeps_duress fun _ => rfl) fun _ => Call.keeps_pure _

theorem importBackup_keeps_duress (L : BackupService.Libraries Priv Pub Pem) (data : Json)
    (password : Bytes) (connection : Except TrustChain.Raised Unit) (now : Rat)
    (draws : LoadDraws) : (BackupService.importBackup L data password connection now draws).Keeps
      fun installation => duressFlag installation.session := by
  refine Call.keeps_bind (Call.keeps_lift _) fun backup =>
    Call.keeps_bind (Call.keeps_modify fun _ => rfl) fun _ =>
    Call.keeps_bind (Call.keeps_lift _) fun _ => Call.keeps_bind (Call.keeps_lift _) fun rows =>
    Call.keeps_bind (Call.keeps_modify fun _ => rfl) fun _ => Call.keeps_bind ?_ fun _ =>
    Call.keeps_ite (Call.keeps_pure _) (Call.keeps_raise _)
  intro installation
  rw [BackupService.onKeyStore_run]
  exact load_keeps_duress password now draws installation.session

end Frames

section Decoy

variable {Priv Pub Pem : Type} (E : Libraries Priv Pub Pem)

/-- What opens the application as another than the decoy: a recovery, the master password where
`AuthController` asks for it, and the placeholder typed at the lock screen. -/
def Forces (app : App Priv Pub Pem) : AppEvent Priv → Prop
  | .unlock attempt => attempt.password = some duressPlaceholder
  | .recover _ _ _ => True
  | .changePassword oldPassword _ _ _ _ => ∃ password,
      nonemptyBytes oldPassword = some password ∧ verifyPassword E app.db password = (true, false)
  | .setDuressPassword masterPassword _ _ _ _ => ∃ password,
      nonemptyBytes masterPassword = some password ∧
        verifyPassword E app.db password = (true, false)
  | _ => False

/-- The runs in which nothing forces the decoy. -/
def Unforced (app : App Priv Pub Pem) (event : AppEvent Priv) : Prop :=
  Keyed E app event ∧ (app.entered = .decoy → ¬ Forces E app event)

/-- The flag of the duress mode is up while the decoy is shown. -/
def Flagged (app : App Priv Pub Pem) : Prop :=
  app.entered = .decoy → app.isLocked = false → app.store.duressMode = true

/-- What a step keeps of the decoy. -/
structure StaysDecoy (app after : App Priv Pub Pem) : Prop where
  flagged : Flagged after
  entered : app.entered = .decoy → after.entered = .decoy
  storageKey : app.entered = .decoy → after.storageKey = app.storageKey

variable {E} {app : App Priv Pub Pem}

/-- A step that leaves all but the session, and there the flag. -/
theorem StaysDecoy.of_flag {after : App Priv Pub Pem} (flagged : Flagged app)
    (entered : after.entered = app.entered) (locked : after.isLocked = app.isLocked)
    (storageKey : after.storageKey = app.storageKey)
    (raised : app.entered = .decoy → app.store.duressMode = true → after.store.duressMode = true) :
    StaysDecoy app after where
  flagged := fun decoy unlocked => raised (entered.symm.trans decoy)
    (flagged (entered.symm.trans decoy) (locked.symm.trans unlocked))
  entered := fun decoy => entered.trans decoy
  storageKey := fun _ => storageKey

theorem StaysDecoy.of_locked {after : App Priv Pub Pem} (entered : after.entered = app.entered)
    (locked : after.isLocked = true) (storageKey : after.storageKey = app.storageKey) :
    StaysDecoy app after where
  flagged := by
    intro _ unlocked
    rw [locked] at unlocked
    cases unlocked
  entered := fun decoy => entered.trans decoy
  storageKey := fun _ => storageKey

/-- Outside the decoy only the duress password leads to it. -/
theorem StaysDecoy.of_master {after : App Priv Pub Pem} (outside : app.entered ≠ .decoy)
    (entered : after.entered ≠ .decoy) : StaysDecoy app after where
  flagged := fun decoy => absurd decoy entered
  entered := fun decoy => absurd decoy outside
  storageKey := fun decoy => absurd decoy outside

theorem staysDecoy_emergencyLock (flagged : Flagged app) : StaysDecoy app (emergencyLock app) := by
  unfold emergencyLock
  split
  · exact .of_flag flagged rfl rfl rfl fun _ raised => raised
  · exact .of_locked rfl rfl rfl

/-- A password that `AuthController` does not take for the master password keeps the flag up. -/
theorem staysDecoy_markDuress (flagged : Flagged app) {verified : Bool × Bool}
    (unforced : app.entered = .decoy → verified ≠ (true, false)) :
    StaysDecoy app (app.markDuress verified) := by
  refine .of_flag flagged (markDuress_entered _) (markDuress_isLocked _) (markDuress_storageKey _)
    fun decoy raised => ?_
  rw [markDuress_duressMode]
  split
  · next valid =>
      cases duress : verified.2 with
      | true => rfl
      | false => exact absurd (Prod.ext valid duress) (unforced decoy)
  · exact raised

theorem staysDecoy_unlock (guarded : Guarded E app) (hasher : E.hasher.Lawful)
    (flagged : Flagged app) {attempt : Attempt Priv}
    (unforced : Unforced E app (.unlock attempt)) : StaysDecoy app (unlock E app attempt) := by
  by_cases locked : app.isLocked = true
  · rcases unlock_of_locked (E := E) locked attempt with
      ⟨opened, after, accepted, same⟩ | ⟨after, refused, same, still⟩
    · obtain ⟨password, brought⟩ := requestUnlock_some accepted
      have fit := brought.storable unforced.1
      rw [same, rebuilt_of_storable fit]
      rcases brought.opened with ⟨verified, entered, _⟩ | ⟨_, _, entered, made, after_eq⟩
      · -- the hash is of the placeholder while the decoy is shown
        apply StaysDecoy.of_master
        · intro decoy
          have typed := (guarded.verify_iff hasher password).mp verified
          rw [decoy] at typed
          rw [typed] at brought
          exact unforced.2 decoy (eq_some_of_nonemptyBytes brought.typed)
        · dsimp only
          rw [entered]
          intro shown
          cases shown
      · have store := loadDuressDecoy_store E.keyStore (some password) attempt.generated
          attempt.fakeSecret attempt.draws ⟨{}, app.db⟩
        refine ⟨fun _ _ => ?_, fun _ => entered, fun _ => ?_⟩
        · show opened.1.session.store.duressMode = true
          rw [made, store]
          rfl
        · dsimp only
          rw [made, store, after_eq]
          exact markDuress_storageKey (true, true)
    · obtain ⟨verified, db, made⟩ := requestUnlock_none refused
      rw [same]
      apply StaysDecoy.of_locked _ still
      · rw [made]
        exact markDuress_storageKey verified
      · rw [made]
        exact markDuress_entered verified
  · unfold unlock
    rw [if_neg locked]
    exact .of_flag flagged rfl rfl rfl fun _ raised => raised

theorem staysDecoy_changePassword (flagged : Flagged app)
    {oldPassword newPassword : Option Bytes} {draws persistDraws : Draws} {salt : Bytes}
    (unforced : app.entered = .decoy →
      ¬ Forces E app (.changePassword oldPassword newPassword draws persistDraws salt)) :
    StaysDecoy app (changePassword E app oldPassword newPassword draws persistDraws salt) := by
  unfold changePassword
  split
  · exact .of_flag flagged rfl rfl rfl fun _ raised => raised
  · next old typed =>
      dsimp only
      by_cases master : verifyPassword E app.db old = (true, false)
      · have outside : app.entered ≠ .decoy := fun decoy =>
          unforced decoy ⟨old, typed, master⟩
        apply StaysDecoy.of_master outside
        rw [if_neg (not_not_intro master)]
        split
        · rwa [markDuress_entered]
        · split
          · intro shown
            cases shown
          · rwa [markDuress_entered]
      · rw [if_pos master]
        exact staysDecoy_markDuress flagged fun _ => master

theorem staysDecoy_setDuressPassword (flagged : Flagged app)
    {masterPassword duressPassword : Option Bytes} {dummySecret : Bytes} {decoyKey : Priv}
    {draws : Draws} (unforced : app.entered = .decoy →
      ¬ Forces E app
        (.setDuressPassword masterPassword duressPassword dummySecret decoyKey draws)) :
    StaysDecoy app
      (setDuressPassword E app masterPassword duressPassword dummySecret decoyKey draws) := by
  by_cases decoy : app.entered = .decoy
  · unfold setDuressPassword
    split
    · exact .of_flag flagged rfl rfl rfl fun _ raised => raised
    · next master typed =>
        have refused : verifyPassword E app.db master ≠ (true, false) := fun verified =>
          unforced decoy ⟨master, typed, verified⟩
        dsimp only
        rw [if_pos refused]
        exact staysDecoy_markDuress flagged fun _ => refused
  · obtain ⟨session, same⟩ := setDuressPassword_session (E := E) app masterPassword
      duressPassword dummySecret decoyKey draws
    rw [same]
    exact .of_master decoy decoy

theorem staysDecoy_importBackup (flagged : Flagged app) (data : Json) (password : Option Bytes)
    (connection : Except TrustChain.Raised Unit) (now : Rat) (draws : LoadDraws) :
    StaysDecoy app (importBackup E app data password connection now draws) := by
  unfold importBackup
  split
  · exact .of_flag flagged rfl rfl rfl fun _ raised => raised
  · next typed _ =>
      exact .of_flag flagged rfl rfl rfl fun _ raised => (importBackup_keeps_duress E.toLibraries
        data typed connection now draws ⟨app.controller.session, fun _ => none⟩).trans raised

/-- No event that does not force the decoy leaves it. -/
theorem staysDecoy_step (guarded : Guarded E app) (hasher : E.hasher.Lawful)
    (flagged : Flagged app) {event : AppEvent Priv} (enabled : (appMachine E).enabled app event)
    (unforced : Unforced E app event) : StaysDecoy app ((appMachine E).apply app event) := by
  cases event with
  | lock => exact staysDecoy_emergencyLock flagged
  | unlock attempt => exact staysDecoy_unlock guarded hasher flagged unforced
  | recover newPassword draws salt =>
      have outside : app.entered ≠ .decoy := fun decoy => unforced.2 decoy trivial
      apply StaysDecoy.of_master outside
      show (recoveryUnlock E app newPassword draws salt).entered ≠ .decoy
      rcases recoveryUnlock_cases unforced.1 with ⟨_, entered, _⟩ | ⟨db, same⟩
      · rw [entered]
        intro shown
        cases shown
      · rw [same]
        exact outside
  | changePassword oldPassword newPassword draws persistDraws salt =>
      exact staysDecoy_changePassword flagged unforced.2
  | setDuressPassword masterPassword duressPassword dummySecret decoy draws =>
      exact staysDecoy_setDuressPassword flagged unforced.2
  | regenerateTotp newSecret draws =>
      exact .of_flag flagged rfl rfl rfl fun _ raised =>
        (regenerateTotp_keeps_duress newSecret draws app.controller).trans raised
  | setTotp setupComplete enabledNow => exact .of_flag flagged rfl rfl rfl fun _ raised => raised
  | importBackup data password connection now draws =>
      exact staysDecoy_importBackup flagged data password connection now draws
  | use operation =>
      exact .of_flag flagged rfl rfl rfl fun _ raised =>
        (perform_keeps_duress enabled.2 app.controller.session).trans raised

theorem flagged_of_start (started : (appMachine E).start app) : Flagged app :=
  fun decoy _ => (started_cases started).2.2 decoy

theorem flagged_of_reachable (hasher : E.hasher.Lawful)
    (reachable : (appMachine E).Reachable (Unforced E) app) : Flagged app := by
  refine Machine.Reachable.invariant (appMachine E) Flagged (fun _ => flagged_of_start)
    (fun state event before flagged enabled unforced => ?_) reachable
  have guarded := guarded_of_reachable hasher
    (before.weaken fun _ _ _ _ unforced => unforced.1)
  exact (staysDecoy_step guarded hasher flagged enabled unforced).flagged

/-- The password that opens the master verifier does not get past the hash of the placeholder. -/
theorem unlock_refuses_master (guarded : Guarded E app) (hasher : E.hasher.Lawful)
    (decoy : app.entered = .decoy) {attempt : Attempt Priv} {password : Bytes}
    (typed : nonemptyBytes attempt.password = some password)
    (differs : password ≠ duressPlaceholder)
    (master : verifyPassword E app.db password = (true, false)) :
    (unlock E app attempt).isLocked = app.isLocked := by
  by_cases locked : app.isLocked = true
  · rcases unlock_of_locked (E := E) locked attempt with
      ⟨_, after, accepted, _⟩ | ⟨after, _, same, still⟩
    · obtain ⟨other, brought⟩ := requestUnlock_some accepted
      have same : other = password := Option.some.inj (brought.typed.symm.trans typed)
      subst same
      rcases brought.opened with ⟨verified, _⟩ | ⟨_, duress, _⟩
      · have typed := (guarded.verify_iff hasher other).mp verified
        rw [decoy] at typed
        exact absurd typed differs
      · rw [duress] at master
        cases master
    · rw [same, still, locked]
  · unfold unlock
    rw [if_neg locked]

/-- Once the decoy is shown it stays, through every lock and unlock, until something forces it: the
flag of the duress mode is up whenever the application is open, the ratchets keep the storage key
that they had, and the master password does not open the lock screen. A backup that is imported on
the way brings its keys in under the same flag and the same lock. -/
theorem decoy_stays (hasher : E.hasher.Lawful) {after : App Priv Pub Pem}
    (reachable : (appMachine E).Reachable (Unforced E) app) (decoy : app.entered = .decoy)
    (later : (appMachine E).Follows (Unforced E) app after) :
    after.entered = .decoy ∧ (after.isLocked = false → after.store.duressMode = true) ∧
      after.storageKey = app.storageKey ∧
      ∀ attempt password, nonemptyBytes attempt.password = some password →
        password ≠ duressPlaceholder → verifyPassword E after.db password = (true, false) →
          (unlock E after attempt).isLocked = after.isLocked := by
  have guardedOf {state : App Priv Pub Pem}
      (reached : (appMachine E).Reachable (Unforced E) state) : Guarded E state :=
    guarded_of_reachable hasher (reached.weaken fun _ _ _ _ unforced => unforced.1)
  have kept : after.entered = .decoy ∧ after.storageKey = app.storageKey := by
    refine later.relation (fun state => state.entered = .decoy ∧ state.storageKey = app.storageKey)
      ⟨decoy, rfl⟩ fun middle event earlier same enabled unforced => ?_
    have reached := earlier.reachable reachable
    have stays := staysDecoy_step (guardedOf reached) hasher (flagged_of_reachable hasher reached)
      enabled unforced
    exact ⟨stays.entered same.1, (stays.storageKey same.1).trans same.2⟩
  have reached := later.reachable reachable
  exact ⟨kept.1, flagged_of_reachable hasher reached kept.1, kept.2, fun attempt password =>
    unlock_refuses_master (guardedOf reached) hasher kept.1⟩

end Decoy

section Toy

/-- A database with the duress password `[2]`. -/
def toyDuress : ToySession :=
  ((KeyStore.setDuressPassword toyLibraries [2] [21] "decoy key" toyDraws).run toyEnrolled).2

/-- A login with that password. -/
def toyDecoy : ToyApp :=
  (duressLogin toyDesk toyDuress.db [2] (toyEntry [2])).getD
    ⟨⟨toyDuress, {}⟩, "", true, none, .master []⟩

/-- The decoy is locked, and the duress password opens it again. -/
def toyShown : ToyApp :=
  (appMachine toyDesk).run toyDecoy
    [fun _ => .lock, fun _ => .unlock (toyEntry [2]), fun _ => .lock]

theorem toyDecoy_start : (appMachine toyDesk).start toyDecoy := by
  have entered : (duressLogin toyDesk toyDuress.db [2] (toyEntry [2])).isSome = true := by
    decide +kernel
  obtain ⟨app, made⟩ := Option.isSome_iff_exists.mp entered
  have opened : duressLogin toyDesk toyDuress.db [2] (toyEntry [2]) = some toyDecoy := by
    rw [toyDecoy, made]
    rfl
  exact Or.inr ⟨_, _, _, opened⟩

/-- The master password does not open the lock screen any more. -/
theorem toyShown_stays :
    toyShown.entered = .decoy ∧ toyShown.isLocked = true ∧
    verifyPassword toyDesk toyShown.db [1] = (true, false) ∧
    (unlock toyDesk toyShown (toyEntry [1])).isLocked = true := by
  obtain ⟨decoy, locked, master, refused⟩ :
      toyDecoy.entered = .decoy ∧ toyShown.isLocked = true ∧
        verifyPassword toyDesk toyShown.db [1] = (true, false) ∧
        ((load toyLibraries toyPlatform [2] 0 (toyEntry [2]).loadDraws).run
          ⟨{}, (emergencyLock toyDecoy).db⟩).1 ≠ .ok true := by
    decide +kernel
  have differs (byte : UInt8) : [byte] ≠ duressPlaceholder := by
    intro same
    have length : 1 = duressPlaceholder.length := congrArg List.length same
    exact absurd length (by decide +kernel)
  have unforced : Unforced toyDesk (emergencyLock toyDecoy) (.unlock (toyEntry [2])) := by
    refine ⟨fun password loaded typed ran => ?_, fun _ forced => ?_⟩
    · cases typed
      exact absurd (congrArg Prod.fst ran) refused
    · exact differs 2 (Option.some.inj forced)
  have later : (appMachine toyDesk).Follows (Unforced toyDesk) toyDecoy toyShown :=
    Machine.Follows.run (.refl _)
      ⟨trivial, ⟨trivial, fun _ forced => forced⟩, trivial, unforced,
        trivial, ⟨trivial, fun _ forced => forced⟩, trivial⟩
  obtain ⟨entered, _, _, stays⟩ :=
    decoy_stays toyHasher_lawful (.start toyDecoy_start) decoy later
  exact ⟨entered, locked, master,
    (stays (toyEntry [1]) [1] rfl (differs 1) master).trans locked⟩

end Toy

end UltimateEnigma.AppLock
