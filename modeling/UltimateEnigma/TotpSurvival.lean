import UltimateEnigma.FriendCrud
import UltimateEnigma.Machine
import UltimateEnigma.PasswordChange
import UltimateEnigma.Totp

set_option autoImplicit false

namespace UltimateEnigma.Totp

open Py KeyStore
open Friends (Guard)

/-- The controller, the master password, what the user's authenticator was last given, and the
counters of the codes accepted since the secret last changed. -/
structure World (Priv Pub Pem : Type) where
  controller : Controller Priv Pub Pem
  master : Bytes
  authenticator : Option Bytes
  accepted : List Int

inductive TotpStep where
  | generateNewTotp (newSecret : Bytes) (withPassword : Bool) (draws : Draws)
  | regenerateTotp (newSecret : Bytes) (draws : Draws)
  | showTotpSetup (newSecret : Bytes) (draws : Draws)
  | updateSecret (guard : Guard) (newSecret password : Bytes) (draws : Draws)
  | changePassword (newPassword : Bytes) (draws persistDraws : Draws)
  | verify (code : String) (timestamp : Rat)
  | restart (now : Rat) (loadDraws : LoadDraws) (tests : SelfTests) (newSecret : Bytes)
      (draws : Draws)

section Steps

variable {Priv Pub Pem : Type}

def World.db (world : World Priv Pub Pem) : Database Pem := world.controller.session.db

def World.store (world : World Priv Pub Pem) : KeyStore Priv Pub := world.controller.session.store

/-- A change of the controller. With another secret the codes accepted so far do not matter. -/
def World.become (world : World Priv Pub Pem) (after : Controller Priv Pub Pem)
    (accepted : List Int) : World Priv Pub Pem :=
  { world with
    controller := after
    accepted :=
      if after.totpService.secret = world.controller.totpService.secret then
        world.accepted ++ accepted
      else [] }

/-- The user scans the secret that the service holds. -/
def World.provision (world : World Priv Pub Pem) : World Priv Pub Pem :=
  { world with authenticator := world.controller.totpService.secret }

variable (P : Primitives Priv Pub Pem) (platform : Platform) (L : TotpLibrary)

def TotpStep.perform (world : World Priv Pub Pem) : TotpStep → World Priv Pub Pem
  | .generateNewTotp newSecret withPassword draws =>
      let password := if withPassword then some world.master else none
      (world.become ((Totp.generateNewTotp P newSecret password draws).run world.controller).2
        []).provision
  | .regenerateTotp newSecret draws =>
      (world.become ((Totp.regenerateTotp P newSecret draws).run world.controller).2 []).provision
  | .showTotpSetup newSecret draws =>
      (world.become ((Totp.showTotpSetup P newSecret draws).run world.controller).2 []).provision
  | .updateSecret guard newSecret password draws =>
      let after := ((Friends.updateSecret P guard newSecret password draws).run
        world.controller.session).2
      world.become { world.controller with session := after } []
  | .changePassword newPassword draws persistDraws =>
      match (Totp.changePassword P world.master newPassword draws persistDraws).run
          world.controller with
      | (.ok true, after) => { world.become after [] with master := newPassword }
      | (_, after) => world.become after []
  | .verify code timestamp =>
      match (Totp.verify L code timestamp true).run world.controller with
      | (.ok true, after) => world.become after [after.totpService.lastCounter]
      | (_, after) => world.become after []
  | .restart now loadDraws tests newSecret draws =>
      let loaded := ((load P platform world.master now loadDraws).run ⟨{}, world.db⟩).2
      world.become
        ((initTotp P L (some world.master) tests newSecret draws).run ⟨loaded, {}⟩).2 []

/-- Secrets are drawn with `token_bytes(32)`, and a restart is one that loads the keys. -/
def TotpStep.Enabled (world : World Priv Pub Pem) : TotpStep → Prop
  | .generateNewTotp newSecret _ _ | .regenerateTotp newSecret _ | .showTotpSetup newSecret _ =>
      newSecret.length = 32
  | .restart now loadDraws _ newSecret _ =>
      newSecret.length = 32 ∧
        ((load P platform world.master now loadDraws).run ⟨{}, world.db⟩).1 = .ok true
  | _ => True

/-- A login over any database of the key store, whose global secret has its 32 bytes. -/
def Started (world : World Priv Pub Pem) : Prop :=
  ∃ store db now loadDraws tests newSecret draws loaded,
    (KeyStore.machine P platform).Reachable (fun _ _ => True) ⟨store, db⟩ ∧
    world.master ≠ [] ∧ newSecret.length = 32 ∧
    (load P platform world.master now loadDraws).run ⟨{}, db⟩ = (.ok true, loaded) ∧
    (∀ secret, loaded.store.globalSecret = some secret → secret.length = 32) ∧
    world.controller =
      ((initTotp P L (some world.master) tests newSecret draws).run ⟨loaded, {}⟩).2 ∧
    world.authenticator = none ∧ world.accepted = []

def totpMachine : Machine (World Priv Pub Pem) TotpStep where
  start := Started P platform L
  enabled := TotpStep.Enabled P platform
  apply := TotpStep.perform P platform L

/-- The stored secret opens with a key. -/
def OpensWith (db : Database Pem) (key : Bytes) : Prop :=
  ∃ wrapper plain, db.secrets .totpSecretEncrypted = some wrapper ∧
    unwrap P wrapper key = .ok plain

/-- The steps that keep the secret: where the global secret changes, or the master password, the
stored secret does not depend on the global secret; and the clock lets the self-test of a restart
through. -/
def Careful (world : World Priv Pub Pem) : TotpStep → Prop
  | .updateSecret _ newSecret password _ =>
      password ≠ world.master ∨ newSecret.length ≠ 32 ∨
        world.store.globalSecret = some newSecret ∨ OpensWith P world.db world.master
  | .changePassword newPassword _ _ =>
      newPassword = [] ∨ newPassword = world.master ∨
        world.db.secrets .totpSecretEncrypted = none ∨ OpensWith P world.db world.master
  | .restart _ _ tests _ _ =>
      (OpensWith P world.db world.master → tests.password.Steady) ∧
        (world.db.secrets .totpSecretEncrypted ≠ none → ¬ OpensWith P world.db world.master →
          tests.globalSecret.Steady)
  | _ => True

/-- The password change fails, and would not without the stored TOTP secret. -/
def FailsForTotp (world : World Priv Pub Pem) (newPassword : Bytes) (draws persistDraws : Draws) :
    Prop :=
  let without := { world.controller.session with db := world.db.deleteSecret .totpSecretEncrypted }
  (∃ raised, ((changePassword P world.master newPassword draws persistDraws).run
    world.controller).1 = .error raised) ∧
  ((changePassword P world.master newPassword draws persistDraws).run
    { world.controller with session := without }).1 = .ok true

end Steps

section Secured

variable {Priv Pub Pem : Type} {P : Primitives Priv Pub Pem} {platform : Platform} {L : TotpLibrary}
variable {session loaded : Session Priv Pub Pem} {globalSecret master secret : Bytes}
variable {service : TOTPService}

variable (P) in
/-- A restart finds the secret: it is stored under the master password or under the global secret,
or nothing is stored and it is derived from the global secret. -/
def Durable (db : Database Pem) (globalSecret master secret : Bytes) : Prop :=
  (db.secrets .totpSecretEncrypted = none ∧ secret = globalSecret.take 20) ∨
  ∃ plain key entropy, (key = master ∨ key = hex globalSecret) ∧ 20 ≤ plain.length ∧
    secret = plain.take 20 ∧ db.secrets .totpSecretEncrypted = some (wrap P plain key entropy)

variable (P) in
/-- Someone is logged in with the master password. -/
structure LoggedIn (session : Session Priv Pub Pem) (globalSecret master : Bytes) : Prop where
  sound : Sound P session.db
  long : globalSecret.length = 32
  inMemory : session.store.globalSecret = some globalSecret
  stored : ∃ entropy, session.db.secrets .globalSecret = some (wrap P globalSecret master entropy)

variable (P) in
/-- Besides, a restart finds the TOTP secret. -/
structure Secured (session : Session Priv Pub Pem) (globalSecret master secret : Bytes) : Prop
    extends LoggedIn P session globalSecret master where
  durable : Durable P session.db globalSecret master secret

theorem Secured.length (secured : Secured P session globalSecret master secret) :
    secret.length = 20 := by
  have long := secured.long
  rcases secured.durable with ⟨_, rfl⟩ | ⟨plain, _, _, _, enough, rfl, _⟩
  · rw [List.length_take]
    omega
  · rw [List.length_take]
    omega

theorem nonemptyBytes_of_ne_nil {bytes : Bytes} (filled : bytes ≠ []) :
    nonemptyBytes (some bytes) = some bytes := by
  have given : ¬ bytes.isEmpty = true := by
    rw [List.isEmpty_iff]
    exact filled
  exact if_neg given

theorem ne_nil_of_length {bytes : Bytes} {length : Nat} (long : bytes.length = length + 1) :
    bytes ≠ [] := by
  rintro rfl
  cases long

/-- The rows that `persist_totp_secret` writes. -/
def persistedRows (P : Primitives Priv Pub Pem) (secret key : Bytes) (draws : Draws)
    (db : Database Pem) : Database Pem :=
  (db.setSecret .totpSecretEncrypted
    (wrap P secret key (draws.secret .totpSecretEncrypted))).setText .totpLastCounter "-1"

theorem persistedRows_totp (secret key : Bytes) (draws : Draws) (db : Database Pem) :
    (persistedRows P secret key draws db).secrets .totpSecretEncrypted =
      some (wrap P secret key (draws.secret .totpSecretEncrypted)) :=
  Function.update_self SecretSetting.totpSecretEncrypted _ db.secrets

theorem persistedRows_globalSecret (secret key : Bytes) (draws : Draws) (db : Database Pem) :
    (persistedRows P secret key draws db).secrets .globalSecret = db.secrets .globalSecret := by
  simp only [persistedRows, Database.setSecret, Database.setText, Function.update_apply, reduceCtorEq,
    if_false]

/-- Without a password the hex of the global secret is the key. -/
theorem persistTotpSecret_run (long : globalSecret.length = 32)
    (inMemory : session.store.globalSecret = some globalSecret) {password : Option Bytes}
    (entered : password ≠ some []) (draws : Draws) :
    (persistTotpSecret P secret password draws).run session =
      (.ok (), { session with
        db := persistedRows P secret (password.getD (hex globalSecret)) draws session.db }) := by
  rw [persistTotpSecret, Call.run_read_bind, inMemory,
    nonemptyBytes_of_ne_nil (ne_nil_of_length long)]
  cases password with
  | none => rfl
  | some password =>
      have given : password ≠ [] := fun empty => entered (congrArg some empty)
      rw [nonemptyBytes_of_ne_nil given]
      rfl

theorem LoggedIn.persist (loggedIn : LoggedIn P session globalSecret master) {other : Bytes}
    (length : other.length = 20) {key : Bytes} (keyed : key = master ∨ key = hex globalSecret)
    (draws : Draws) :
    Secured P { session with db := persistedRows P other key draws session.db } globalSecret master
      other where
  sound := (loggedIn.sound.setSecret .totpSecretEncrypted _ _ _ trivial (by decide)).changeText _ _
    (by decide) (by decide) nofun
  long := loggedIn.long
  inMemory := loggedIn.inMemory
  stored := by
    obtain ⟨entropy, stored⟩ := loggedIn.stored
    exact ⟨entropy, (persistedRows_globalSecret other key draws session.db).trans stored⟩
  durable := .inr ⟨other, key, draws.secret .totpSecretEncrypted, keyed, length.ge,
    (List.take_of_length_le length.le).symm, persistedRows_totp other key draws session.db⟩

theorem generateNewTotp_run (loggedIn : LoggedIn P session globalSecret master)
    {newSecret : Bytes} (drawn : newSecret.length = 32) {password : Option Bytes}
    (entered : password ≠ some []) (draws : Draws) :
    (generateNewTotp P newSecret password draws).run ⟨session, service⟩ =
      (.ok (), {
        session := { session with
          db := persistedRows P (newSecret.take 20) (password.getD (hex globalSecret)) draws
            session.db }
        totpService := { service with secret := some (newSecret.take 20), lastCounter := -1 } }) := by
  have persists : (persistTotpSecret P (newSecret.take 20) password draws).run session = _ :=
    persistTotpSecret_run loggedIn.long loggedIn.inMemory entered draws
  rw [generateNewTotp_run_eq drawn]
  exact onKeyStore_run_ok persists

/-- `update_secret` is refused, or it is given the master password and 32 bytes. -/
theorem updateSecret_cases (lawful : P.Lawful) {guard : Guard} {newSecret password : Bytes}
    {draws : Draws} (loggedIn : LoggedIn P session globalSecret master) :
    ((Friends.updateSecret P guard newSecret password draws).run session).2 = session ∨
      password = master ∧ newSecret.length = 32 ∧
        ((Friends.updateSecret P guard newSecret password draws).run session).2 =
          ⟨{ session.store with globalSecret := some newSecret },
            session.db.updateSecret .globalSecret
              (wrap P newSecret password (draws.secret .globalSecret))⟩ := by
  obtain ⟨entropy, stored⟩ := loggedIn.stored
  unfold Friends.updateSecret
  split
  · exact .inl rfl
  rw [Call.run_read_bind]
  cases verified : Friends.verifyMasterPassword P guard password session with
  | error raised => exact .inl rfl
  | ok valid =>
      rw [Call.run_lift_ok_bind]
      cases valid with
      | false => exact .inl rfl
      | true =>
          have same := Friends.master_of_verified lawful stored verified
          by_cases duress : session.store.duressMode = true
          · rw [duress]
            exact .inl rfl
          · by_cases size : newSecret.length = 32
            · refine .inr ⟨same, size, ?_⟩
              have exact_ : ¬ newSecret.length ≠ 32 := not_not.mpr size
              rw [Bool.eq_false_iff.mpr duress]
              simp only [Bool.not_true, Bool.false_eq_true, if_false, exact_]
              rfl
            · rw [Bool.eq_false_iff.mpr duress]
              simp only [Bool.not_true, Bool.false_eq_true, if_false, ne_eq, size, not_false_eq_true,
                if_true]
              exact .inl rfl

/-- A stored secret that opens with the master password is stored under it. -/
theorem Durable.underMaster (lawful : P.Lawful) {db : Database Pem}
    (durable : Durable P db globalSecret master secret)
    (under : OpensWith P db master) :
    ∃ plain entropy, 20 ≤ plain.length ∧ secret = plain.take 20 ∧
      db.secrets .totpSecretEncrypted = some (wrap P plain master entropy) := by
  obtain ⟨wrapper, opened, stored, opens⟩ := under
  rcases durable with ⟨absent, _⟩ | ⟨plain, key, entropy, _, long, same, found⟩
  · rw [absent] at stored
    cases stored
  · rw [found] at stored
    cases stored
    rw [unwrap_wrap lawful] at opens
    split at opens
    · rename_i keyed
      exact ⟨plain, entropy, long, same, by rw [found, keyed]⟩
    · cases opens

/-- The global secret may change where the stored TOTP secret does not depend on it. -/
theorem Secured.updateGlobalSecret (lawful : P.Lawful)
    (secured : Secured P session globalSecret master secret) {newSecret : Bytes}
    (long : newSecret.length = 32)
    (careful : session.store.globalSecret = some newSecret ∨ OpensWith P session.db master)
    (entropy : Entropy) :
    Secured P ⟨{ session.store with globalSecret := some newSecret },
      session.db.updateSecret .globalSecret (wrap P newSecret master entropy)⟩ newSecret master
        secret where
  sound := secured.sound.updateSecret .globalSecret _ _ _ trivial (by decide)
  long := long
  inMemory := rfl
  stored := by
    obtain ⟨before, stored⟩ := secured.stored
    have updated : (session.db.updateSecret .globalSecret (wrap P newSecret master entropy)).secrets
        .globalSecret = (session.db.secrets .globalSecret).map fun _ => wrap P newSecret master entropy :=
      Function.update_self SecretSetting.globalSecret _ session.db.secrets
    rw [stored] at updated
    exact ⟨entropy, updated⟩
  durable := by
    have kept : (session.db.updateSecret .globalSecret (wrap P newSecret master entropy)).secrets
        .totpSecretEncrypted = session.db.secrets .totpSecretEncrypted := by
      simp only [Database.updateSecret, Function.update_apply, reduceCtorEq, if_false]
    unfold Durable
    rw [kept]
    rcases careful with same | under
    · rw [secured.inMemory] at same
      cases same
      exact secured.durable
    · obtain ⟨plain, entropy, enough, same, found⟩ := secured.durable.underMaster lawful under
      exact .inr ⟨plain, master, entropy, .inl rfl, enough, same, found⟩

/-- A password change that succeeds leaves the user logged in with the new password. -/
theorem LoggedIn.changePassword (lawful : P.Lawful) (loggedIn : LoggedIn P session globalSecret master)
    {newPassword : Bytes} {draws : Draws} {rewrapped : Rewrapped Priv Pem}
    (made : rewrapSecrets P master newPassword draws session.db = .ok rewrapped) :
    LoggedIn P ⟨changedStore rewrapped session.store, changedRows P newPassword draws rewrapped
      session.store.ratchetStorageKey session.db⟩ globalSecret newPassword := by
  have ran := changePassword_run_ok made
  have changed := changePassword_changed lawful loggedIn.sound ran
  have sound : Sound P (changedRows P newPassword draws rewrapped session.store.ratchetStorageKey
      session.db) := by
    have sound := changePassword_sound loggedIn.sound master newPassword draws
    rw [ran] at sound
    exact sound
  obtain ⟨entropy, stored⟩ := loggedIn.stored
  obtain ⟨⟨wrapper, found, opened⟩, _⟩ := rewrapSecrets_ok made
  have same : rewrapped.globalSecret = globalSecret := by
    rw [stored] at found
    cases found
    rw [attempt_eq_some_iff, unwrap_wrap lawful, if_pos rfl] at opened
    cases opened
    rfl
  have inMemory : (changedStore rewrapped session.store).globalSecret = some globalSecret :=
    congrArg some same
  have storedAgain : ∃ entropy, (changedRows P newPassword draws rewrapped
      session.store.ratchetStorageKey session.db).secrets .globalSecret =
        some (wrap P globalSecret newPassword entropy) := by
    have rewraps := changed.globalSecret
    rw [stored] at rewraps
    obtain ⟨plain, renewed, opens, after⟩ := rewraps
    rw [unwrap_wrap lawful, if_pos rfl] at opens
    cases opens
    exact ⟨renewed, after⟩
  exact ⟨sound, loggedIn.long, inMemory, storedAgain⟩

/-- A load finds the global secret, and leaves the stored TOTP secret alone. -/
theorem load_finds (lawful : P.Lawful) {db : Database Pem} (sound : Sound P db) {now : Rat}
    {draws : LoadDraws}
    (loads : (load P platform master now draws).run ⟨{}, db⟩ = (.ok true, loaded)) :
    Sound P loaded.db ∧
    (∃ plain entropy, db.secrets .globalSecret = some (wrap P plain master entropy) ∧
      loaded.store.globalSecret = some plain) ∧
    ∀ key, key ≠ .ratchetStorageKey → loaded.db.secrets key = db.secrets key := by
  have fresh : Sound P (Session.mk ({} : KeyStore Priv Pub) db).db := sound
  obtain ⟨wrapper, stored⟩ := Option.isSome_iff_exists.mp sound.globalSecret
  obtain ⟨plain, password, entropy, _, rfl⟩ := sound.secrets _ wrapper stored
  have maintained : Sound P loaded.db := by
    have maintained : Sound P ((load P platform master now draws).run ⟨{}, db⟩).2.db :=
      load_maintains master now draws ⟨{}, db⟩ fresh
    rw [loads] at maintained
    exact maintained
  obtain ⟨readings, key, reads, _, rfl⟩ := (load_true_iff lawful fresh).mp loads
  obtain ⟨_, _, _, globalStore, _⟩ := Readings.attributes P platform db readings {}
  have read : unwrapColumn P (db.secrets .globalSecret) master = .ok readings.globalSecret :=
    reads.globalSecret
  rw [stored, unwrapColumn, unwrap_wrap lawful] at read
  split at read
  · rename_i same
    subst same
    exact ⟨maintained, ⟨plain, entropy, stored, globalStore.trans (Except.ok.inj read).symm⟩,
      fun _ apart => loadedRows_secrets _ _ _ _ apart⟩
  · cases read

theorem Secured.load (lawful : P.Lawful) (secured : Secured P session globalSecret master secret)
    {now : Rat} {draws : LoadDraws}
    (loads : (KeyStore.load P platform master now draws).run ⟨{}, session.db⟩ = (.ok true, loaded)) :
    Secured P loaded globalSecret master secret := by
  obtain ⟨sound, ⟨plain, entropy, stored, inMemory⟩, kept⟩ := load_finds lawful secured.sound loads
  obtain ⟨before, storedBefore⟩ := secured.stored
  have same : plain = globalSecret := by
    have opened := unwrap_wrap lawful plain master master entropy
    have again := unwrap_wrap lawful globalSecret master master before
    rw [stored, Option.some.injEq] at storedBefore
    rw [storedBefore, again, if_pos rfl, if_pos rfl] at opened
    exact (Except.ok.inj opened).symm
  subst same
  refine ⟨⟨sound, secured.long, inMemory, entropy, (kept _ (by decide)).trans stored⟩, ?_⟩
  have durable := secured.durable
  unfold Durable at durable ⊢
  rw [kept _ (by decide)]
  exact durable

/-- A restart fills the service with the secret. -/
theorem Secured.initTotp (lawful : P.Lawful) (digits : L.Lawful)
    (secured : Secured P session globalSecret master secret) (entered : master ≠ [])
    {tests : SelfTests} (password : OpensWith P session.db master → tests.password.Steady)
    (global : session.db.secrets .totpSecretEncrypted ≠ none → ¬ OpensWith P session.db master →
      tests.globalSecret.Steady) (newSecret : Bytes) (draws : Draws) :
    (Totp.initTotp P L (some master) tests newSecret draws).run ⟨session, {}⟩ =
      (.ok (), ⟨session, loadedService secret session.db⟩) := by
  suffices loaded : (loadTotpSecret P L (some master) tests).run ⟨session, {}⟩ =
      (.ok true, ⟨session, loadedService secret session.db⟩) by
    rw [Totp.initTotp, Call.run_bind_of_ok (orElseLog_run_ok loaded)]
    rfl
  have filled := nonemptyBytes_of_ne_nil (ne_nil_of_length secured.long)
  rw [loadTotpSecret, Call.run_read_bind]
  dsimp only
  rw [secured.inMemory, filled, nonemptyBytes_of_ne_nil entered]
  rcases secured.durable with ⟨absent, rfl⟩ | ⟨plain, key, entropy, keyed, long, rfl, stored⟩
  · rw [absent]
    have long := secured.long
    exact firstOf_cons_true (loadDerived_run (by omega))
  · rw [stored]
    have first : decryptSecret P (.dict (encryptSecret P plain key entropy)) master =
        if master = key then .ok plain else .error .invalidTag := unwrap_wrap lawful _ _ _ _
    have second : decryptSecret P (.dict (encryptSecret P plain key entropy)) (hex globalSecret) =
        if hex globalSecret = key then .ok plain else .error .invalidTag := unwrap_wrap lawful _ _ _ _
    have parsed : (onKeyStore (Call.lift (jsonLoads (wrap P plain key entropy)))).run
        (⟨session, {}⟩ : Controller Priv Pub Pem) =
          (.ok (.dict (encryptSecret P plain key entropy)), ⟨session, {}⟩) := rfl
    rw [Call.run_bind_of_ok parsed, Option.map_some, Option.map_some, Option.toList_some,
      Option.toList_some, List.singleton_append]
    by_cases same : master = key
    · rw [if_pos same] at first
      have steady := password ⟨_, plain, stored, first⟩
      exact firstOf_cons_true (loadWith_run digits first long steady)
    · have hexed : hex globalSecret = key := (keyed.resolve_left fun eq => same eq.symm).symm
      rw [if_neg same] at first
      rw [if_pos hexed] at second
      have closed : ¬ OpensWith P session.db master := by
        rintro ⟨wrapper, other, found, opens⟩
        rw [stored] at found
        cases found
        rw [unwrap_wrap lawful, if_neg same] at opens
        cases opens
      have steady := global (by rw [stored]; exact Option.some_ne_none _) closed
      rw [firstOf_cons_false (orElseLog_loadWith_refused first)]
      exact firstOf_cons_true (loadWith_run digits second long steady)

/-- What `load_totp_secret` loads once, a restart finds again. -/
theorem loadTotpSecret_ok (lawful : P.Lawful) (loggedIn : LoggedIn P session globalSecret master)
    {tests : SelfTests} {after : Controller Priv Pub Pem}
    (ran : (loadTotpSecret P L (some master) tests).run ⟨session, service⟩ = (.ok true, after)) :
    ∃ secret, after.totpService.secret = some secret ∧
      Durable P session.db globalSecret master secret := by
  rcases loadTotpSecret_cases ran with ⟨row, enc, key, test, middle, stored, parsed, keyed, _, loaded⟩ |
    ⟨found, middle, absent, held, _, loaded⟩
  · obtain ⟨plain, owner, entropy, _, rfl⟩ := loggedIn.sound.secrets _ row stored
    cases parsed
    have opened : decryptSecret P (.dict (encryptSecret P plain owner entropy)) key =
        if key = owner then .ok plain else .error .invalidTag := unwrap_wrap lawful _ _ _ _
    obtain ⟨other, opens, long, rfl⟩ := loadWith_ok loaded
    rw [opened] at opens
    split at opens
    · rename_i same
      cases opens
      refine ⟨plain.take 20, rfl, .inr ⟨plain, owner, entropy, ?_, long, rfl, stored⟩⟩
      rcases keyed with entered | ⟨held, inMemory, hexed⟩
      · exact .inl (same.symm.trans (Option.some.inj entered).symm)
      · rw [loggedIn.inMemory] at inMemory
        cases inMemory
        exact .inr (same.symm.trans hexed)
    · cases opens
  · have held : session.store.globalSecret = some found := held
    rw [loggedIn.inMemory] at held
    cases held
    obtain ⟨_, rfl⟩ := loadDerived_ok loaded
    exact ⟨globalSecret.take 20, rfl, .inl ⟨absent, rfl⟩⟩

/-- After a login a restart finds the secret, whichever it is. -/
theorem LoggedIn.initTotp (lawful : P.Lawful) (loggedIn : LoggedIn P session globalSecret master)
    (entered : master ≠ []) (tests : SelfTests) {newSecret : Bytes} (drawn : newSecret.length = 32)
    (draws : Draws) :
    ∃ secret after service, service.secret = some secret ∧
      Secured P after globalSecret master secret ∧
      (Totp.initTotp P L (some master) tests newSecret draws).run ⟨session, {}⟩ =
        (.ok (), ⟨after, service⟩) := by
  have filled := nonemptyBytes_of_ne_nil (ne_nil_of_length loggedIn.long)
  rcases initTotp_run (P := P) (L := L) ⟨session, {}⟩ (some master) tests newSecret draws with
    ⟨⟨after, service⟩, loaded, ran⟩ | ⟨⟨middle, service⟩, same, ran⟩
  · have kept := loadTotpSecret_keeps_session (P := P) (L := L) (some master) tests ⟨session, {}⟩
    rw [loaded] at kept
    have kept : after = session := kept
    subst kept
    obtain ⟨secret, held, durable⟩ := loadTotpSecret_ok lawful loggedIn loaded
    exact ⟨secret, _, service, held, ⟨loggedIn, durable⟩, ran⟩
  · have same : middle = session := same
    subst same
    have given : some master ≠ some [] := fun empty => entered (Option.some.inj empty)
    rw [generateNewTotp_run loggedIn drawn given] at ran
    exact ⟨newSecret.take 20, _, _, rfl, loggedIn.persist (by rw [List.length_take]; omega)
      (.inl rfl) draws, ran⟩

/-- Neither the secrets nor the memory of the key store change when a code is accepted. -/
theorem Secured.acceptCounter {controller : Controller Priv Pub Pem}
    (secured : Secured P controller.session globalSecret master secret) (counter : Int) :
    Secured P (Totp.acceptCounter counter controller).session globalSecret master secret := by
  unfold Totp.acceptCounter
  dsimp only
  split
  · have sound := secured.sound.changeText .totpLastCounter (some counter.repr) (by decide) (by decide)
      nofun
    exact ⟨⟨sound, secured.long, secured.inMemory, secured.stored⟩, secured.durable⟩
  · exact secured

end Secured

section Runs

variable {Priv Pub Pem : Type} {P : Primitives Priv Pub Pem} {platform : Platform} {L : TotpLibrary}
variable {world : World Priv Pub Pem} {globalSecret secret : Bytes}

variable (P) in
/-- The service holds the secret that the authenticator was last given, and a restart finds it. -/
structure Intact (world : World Priv Pub Pem) (globalSecret secret : Bytes) : Prop where
  entered : world.master ≠ []
  held : world.controller.totpService.secret = some secret
  secured : Secured P world.controller.session globalSecret world.master secret
  shown : ∀ given, world.authenticator = some given → given = secret

/-- A step that keeps the secret. -/
theorem Intact.become (intact : Intact P world globalSecret secret) {globalAfter : Bytes}
    {after : Controller Priv Pub Pem} {accepted : List Int}
    (held : after.totpService.secret = some secret)
    (secured : Secured P after.session globalAfter world.master secret) :
    Intact P (world.become after accepted) globalAfter secret :=
  ⟨intact.entered, held, secured, intact.shown⟩

/-- A step that changes it, and shows it to the user. -/
theorem Intact.provision (intact : Intact P world globalSecret secret)
    {after : Controller Priv Pub Pem} {accepted : List Int} {other : Bytes}
    (held : after.totpService.secret = some other)
    (secured : Secured P after.session globalSecret world.master other) :
    Intact P (world.become after accepted).provision globalSecret other := by
  refine ⟨intact.entered, held, secured, fun given shown => ?_⟩
  have shown : after.totpService.secret = some given := shown
  rw [held] at shown
  exact (Option.some.inj shown).symm

theorem Intact.generateNewTotp (intact : Intact P world globalSecret secret) {newSecret : Bytes}
    (drawn : newSecret.length = 32) {password : Option Bytes}
    (entered : password = none ∨ password = some world.master) (draws : Draws) :
    Intact P (world.become ((Totp.generateNewTotp P newSecret password draws).run world.controller).2
      []).provision globalSecret (newSecret.take 20) := by
  have loggedIn := intact.secured.toLoggedIn
  have given : password ≠ some [] := by
    rcases entered with rfl | rfl
    · nofun
    · exact fun empty => intact.entered (Option.some.inj empty)
  have keyed : password.getD (hex globalSecret) = world.master ∨
      password.getD (hex globalSecret) = hex globalSecret := by
    rcases entered with rfl | rfl
    · exact .inr rfl
    · exact .inl rfl
  have ran : (Totp.generateNewTotp P newSecret password draws).run world.controller = _ :=
    generateNewTotp_run loggedIn drawn given draws
  rw [ran]
  exact intact.provision rfl (loggedIn.persist (by rw [List.length_take]; omega) keyed draws)

section ChangePassword

variable {controller : Controller Priv Pub Pem} {master newPassword : Bytes}
variable {draws persistDraws : Draws}

/-- `AuthController.change_password` passes on what the key store raises. -/
theorem changePassword_raises {raised : KeyStore.Raised}
    (given : ¬ (newPassword.isEmpty || master = newPassword) = true)
    (failed : (rewrapSecrets P master newPassword draws controller.session.db :
      Except _ (Rewrapped Priv Pem)) = .error raised) :
    ∃ passed, (changePassword P master newPassword draws persistDraws).run controller =
      (.error passed, controller) := by
  obtain ⟨passed, ran⟩ := changePassword_run_error failed
  refine ⟨.passed passed, ?_⟩
  rw [changePassword, Call.run_ite, if_neg given, Call.run_bind_of_error (onKeyStore_run_error ran)]

/-- It puts every secret under the new password. -/
theorem changePassword_renews (lawful : P.Lawful)
    (held : controller.totpService.secret = some secret)
    (secured : Secured P controller.session globalSecret master secret)
    (given : ¬ (newPassword.isEmpty || master = newPassword) = true)
    {rewrapped : Rewrapped Priv Pem}
    (made : rewrapSecrets P master newPassword draws controller.session.db = .ok rewrapped) :
    ∃ after : Controller Priv Pub Pem,
      (changePassword P master newPassword draws persistDraws).run controller =
        (.ok true, after) ∧
      after.totpService = controller.totpService ∧
      Secured P after.session globalSecret newPassword secret := by
  have ran : (KeyStore.changePassword P master newPassword draws).run controller.session = _ :=
    changePassword_run_ok made
  have changed := secured.toLoggedIn.changePassword lawful made
  have entered : some newPassword ≠ some [] := by
    intro empty
    rw [Option.some.inj empty] at given
    exact given rfl
  have persists : (persistTotpSecret P secret (some newPassword) persistDraws).run
      ⟨changedStore rewrapped controller.session.store, changedRows P newPassword draws
        rewrapped controller.session.store.ratchetStorageKey controller.session.db⟩ = _ :=
    persistTotpSecret_run secured.long changed.inMemory entered persistDraws
  refine ⟨⟨⟨changedStore rewrapped controller.session.store,
    persistedRows P secret newPassword persistDraws (changedRows P newPassword draws rewrapped
      controller.session.store.ratchetStorageKey controller.session.db)⟩,
    controller.totpService⟩, ?_, rfl, changed.persist secured.length (.inl rfl) persistDraws⟩
  rw [changePassword, Call.run_ite, if_neg given, Call.run_bind_of_ok (onKeyStore_run_ok ran),
    Bool.not_true, if_neg Bool.false_ne_true, Call.run_read_bind, held]
  dsimp only
  rw [Call.run_bind_of_ok (onKeyStore_run_ok persists)]
  rfl

theorem changePassword_cases (lawful : P.Lawful)
    (held : controller.totpService.secret = some secret)
    (secured : Secured P controller.session globalSecret master secret) (newPassword : Bytes)
    (draws persistDraws : Draws) :
    (((changePassword P master newPassword draws persistDraws).run controller).2 = controller ∧
        ((changePassword P master newPassword draws persistDraws).run controller).1 ≠ .ok true) ∨
      newPassword ≠ [] ∧ ∃ after : Controller Priv Pub Pem,
        (changePassword P master newPassword draws persistDraws).run controller =
          (.ok true, after) ∧
        after.totpService = controller.totpService ∧
        Secured P after.session globalSecret newPassword secret := by
  by_cases given : (newPassword.isEmpty || master = newPassword) = true
  · rw [changePassword, Call.run_ite, if_pos given]
    exact .inl ⟨rfl, nofun⟩
  · cases made : rewrapSecrets P master newPassword draws controller.session.db with
    | error raised =>
        obtain ⟨passed, ran⟩ := changePassword_raises (P := P) given made
        rw [ran]
        exact .inl ⟨rfl, nofun⟩
    | ok rewrapped =>
        refine .inr ⟨?_, changePassword_renews lawful held secured given made⟩
        rintro rfl
        exact given rfl

end ChangePassword

/-- A careful step keeps the secret, or shows the new one to the user. -/
theorem intact_step (lawful : P.Lawful) (digits : L.Lawful)
    (intact : Intact P world globalSecret secret) {step : TotpStep}
    (enabled : step.Enabled P platform world) (careful : Careful P world step) :
    ∃ globalAfter secretAfter, Intact P (step.perform P platform L world) globalAfter secretAfter := by
  have secured := intact.secured
  have held := intact.held
  cases step with
  | generateNewTotp newSecret withPassword draws =>
      refine ⟨globalSecret, newSecret.take 20, intact.generateNewTotp enabled ?_ draws⟩
      cases withPassword
      · exact .inl rfl
      · exact .inr rfl
  | regenerateTotp newSecret draws =>
      exact ⟨globalSecret, newSecret.take 20, intact.generateNewTotp enabled (.inl rfl) draws⟩
  | showTotpSetup newSecret draws =>
      have ran : (Totp.showTotpSetup P newSecret draws).run world.controller =
          (.ok (), world.controller) := by
        rw [Totp.showTotpSetup, Call.run_read_bind, held]
        rfl
      refine ⟨globalSecret, secret, ?_⟩
      show Intact P (world.become _ []).provision globalSecret secret
      rw [ran]
      exact intact.provision held secured
  | updateSecret guard newSecret password draws =>
      rcases updateSecret_cases lawful secured.toLoggedIn with same | ⟨entered, long, updated⟩
      · refine ⟨globalSecret, secret, ?_⟩
        show Intact P (world.become { world.controller with session := _ } []) globalSecret secret
        rw [same]
        exact intact.become held secured
      · subst entered
        refine ⟨newSecret, secret, ?_⟩
        show Intact P (world.become { world.controller with session := _ } []) newSecret secret
        rw [updated]
        have independent := (careful.resolve_left fun apart => apart rfl).resolve_left fun short =>
          short long
        exact intact.become held (secured.updateGlobalSecret lawful long independent _)
  | changePassword newPassword draws persistDraws =>
      refine ⟨globalSecret, secret, ?_⟩
      rw [TotpStep.perform]
      rcases changePassword_cases lawful held secured newPassword draws persistDraws with
        ⟨same, refused⟩ | ⟨entered, after, ran, service, changed⟩
      · split
        · rename_i ran
          rw [ran] at refused
          exact absurd rfl refused
        · rename_i ran
          rw [ran] at same
          cases same
          exact intact.become held secured
      · rw [ran]
        exact ⟨entered, (congrArg TOTPService.secret service).trans held, changed, intact.shown⟩
  | verify code timestamp =>
      refine ⟨globalSecret, secret, ?_⟩
      rw [TotpStep.perform]
      rcases verify_cases (L := L) world.controller code timestamp with
        ⟨same, refused⟩ | ⟨counter, _, ran⟩
      · split
        · rename_i ran
          rw [ran] at refused
          exact absurd rfl refused
        · rename_i ran
          rw [ran] at same
          cases same
          exact intact.become held secured
      · rw [ran]
        exact intact.become held (secured.acceptCounter counter)
  | restart now loadDraws tests newSecret draws =>
      obtain ⟨_, loads⟩ := enabled
      obtain ⟨password, global⟩ := careful
      have loaded := secured.load lawful (Prod.ext loads rfl)
      obtain ⟨_, _, kept⟩ := load_finds lawful secured.sound (Prod.ext loads rfl)
      unfold OpensWith World.db at password global
      rw [← kept .totpSecretEncrypted (by decide)] at password global
      refine ⟨globalSecret, secret, ?_⟩
      rw [TotpStep.perform]
      have ran := loaded.initTotp lawful digits intact.entered password global newSecret draws
      rw [World.db, ran]
      exact intact.become rfl loaded

/-- After a login the service holds a secret that a restart finds. -/
theorem intact_of_started (lawful : P.Lawful) (started : Started P platform L world) :
    ∃ globalSecret secret, Intact P world globalSecret secret := by
  obtain ⟨store, db, now, loadDraws, tests, newSecret, draws, loaded, reachable, entered, drawn, loads,
    long, became, unseen, _⟩ := started
  have sound : Sound P db := reachable_sound reachable
  obtain ⟨maintained, ⟨globalSecret, entropy, stored, inMemory⟩, kept⟩ := load_finds lawful sound loads
  have loggedIn : LoggedIn P loaded globalSecret world.master :=
    ⟨maintained, long globalSecret inMemory, inMemory, entropy, (kept _ (by decide)).trans stored⟩
  obtain ⟨secret, after, service, held, secured, ran⟩ :=
    loggedIn.initTotp (L := L) lawful entered tests drawn draws
  rw [ran] at became
  refine ⟨globalSecret, secret, entered, ?_, ?_, fun given shown => ?_⟩
  · rw [became]
    exact held
  · rw [became]
    exact secured
  · rw [unseen] at shown
    cases shown

theorem intact_of_reachable (lawful : P.Lawful) (digits : L.Lawful)
    (reachable : (totpMachine P platform L).Reachable (Careful P) world) :
    ∃ globalSecret secret, Intact P world globalSecret secret :=
  reachable.invariant _ (fun world => ∃ globalSecret secret, Intact P world globalSecret secret)
    (fun _ started => intact_of_started lawful started)
    (fun _ _ _ ⟨_, _, intact⟩ enabled careful => intact_step lawful digits intact enabled careful)

/-- The secrets can be re-wrapped with the stored TOTP secret where they can without. -/
theorem rewrapSecrets_of_without {db : Database Pem} {master newPassword : Bytes} {draws : Draws}
    {rewrapped : Rewrapped Priv Pem} {totp : Option Bytes}
    (without : rewrapSecrets P master newPassword draws (db.deleteSecret .totpSecretEncrypted) =
      .ok rewrapped)
    (opened : attemptColumn (db.secrets .totpSecretEncrypted) (unwrap P · master) = .ok totp) :
    rewrapSecrets P master newPassword draws db = .ok { rewrapped with totp := totp } := by
  obtain ⟨⟨wrapper, stored, opens⟩, ⟨pem, present, privOk⟩, friendsOk, _, pemOk⟩ :=
    rewrapSecrets_ok without
  have stored : db.secrets .globalSecret = some wrapper := stored
  have present : db.keys .privateKeyEncrypted = some pem := present
  have friendsOk : rewrapFriends P master newPassword draws db.friends.items db.friends .empty =
      .ok (rewrapped.friends, rewrapped.friendSecrets) := friendsOk
  rw [attempt_eq_some_iff] at opens
  cases wrapper with
  | malformed => cases opens
  | json enc =>
      have opens : decryptSecret P enc master = .ok rewrapped.globalSecret := opens
      rw [rewrapSecrets, stored]
      show orKeyStoreError _ (decryptSecret P enc master) >>= _ = _
      rw [opens, present]
      show orKeyStoreError _ (P.pemToPrivkey pem master) >>= _ = _
      rw [privOk]
      show rewrapFriends P master newPassword draws db.friends.items db.friends .empty >>= _ = _
      rw [friendsOk]
      show attemptColumn (db.secrets .totpSecretEncrypted) (unwrap P · master) >>= _ = _
      rw [opened]
      show P.privkeyToEncryptedPem rewrapped.priv newPassword (draws.key .privateKeyEncrypted) >>=
        _ = _
      rw [pemOk]
      rfl

/-- A careful password change does not fail because of the stored TOTP secret. -/
theorem Intact.not_failsForTotp (lawful : P.Lawful) (intact : Intact P world globalSecret secret)
    {newPassword : Bytes} {draws persistDraws : Draws}
    (careful : Careful P world (.changePassword newPassword draws persistDraws)) :
    ¬ FailsForTotp P world newPassword draws persistDraws := by
  rintro ⟨⟨raised, fails⟩, succeeds⟩
  by_cases given : (newPassword.isEmpty || world.master = newPassword) = true
  · rw [changePassword, Call.run_ite, if_pos given] at fails
    cases fails
  · have opened : ∃ totp, attemptColumn (world.db.secrets .totpSecretEncrypted)
        (unwrap P · world.master) = .ok totp := by
      rcases careful with rfl | rfl | absent | ⟨wrapper, plain, stored, opens⟩
      · exact absurd rfl given
      · exact absurd (by simp) given
      · exact ⟨none, by rw [absent]; rfl⟩
      · refine ⟨some plain, ?_⟩
        rw [stored]
        exact attempt_eq_some_iff.mpr opens
    obtain ⟨totp, opened⟩ := opened
    let without : Session Priv Pub Pem :=
      { world.controller.session with db := world.db.deleteSecret .totpSecretEncrypted }
    have succeeds : ((changePassword P world.master newPassword draws persistDraws).run
      { world.controller with session := without }).1 = .ok true := succeeds
    cases found : rewrapSecrets P world.master newPassword draws without.db with
    | error raised =>
        obtain ⟨passed, ran⟩ : ∃ passed, (changePassword P world.master newPassword draws
            persistDraws).run { world.controller with session := without } = (.error passed, _) :=
          changePassword_raises given found
        rw [ran] at succeeds
        cases succeeds
    | ok rewrapped =>
        have made : rewrapSecrets P world.master newPassword draws world.controller.session.db = _ :=
          rewrapSecrets_of_without found opened
        obtain ⟨after, ran, _⟩ : ∃ after, (changePassword P world.master newPassword draws
            persistDraws).run world.controller = (.ok true, after) ∧ _ :=
          changePassword_renews lawful intact.held intact.secured given made
        rw [ran] at fails
        cases fails

/-- After every careful run the service holds what the user's authenticator was given, and no
password change fails because of the stored secret. -/
theorem totp_secret_survives (lawful : P.Lawful) (digits : L.Lawful)
    (reachable : (totpMachine P platform L).Reachable (Careful P) world) :
    (∀ given, world.authenticator = some given →
      world.controller.totpService.secret = some given) ∧
    ∀ newPassword draws persistDraws,
      Careful P world (.changePassword newPassword draws persistDraws) →
        ¬ FailsForTotp P world newPassword draws persistDraws := by
  obtain ⟨globalSecret, secret, intact⟩ := intact_of_reachable lawful digits reachable
  constructor
  · intro given shown
    rw [intact.shown given shown]
    exact intact.held
  · intro newPassword draws persistDraws careful
    exact intact.not_failsForTotp lawful careful

end Runs

section Toy

/-- A digest that shows the counter, so that the code is the counter. -/
def toyTotp : TotpLibrary where
  hmacSha1 _ msg := msg.drop 4 ++ List.replicate 16 0
  isDigit := Char.isDigit

theorem toyTotp_lawful : toyTotp.Lawful where
  ascii_digit := by decide

def toyEnrolled : ToySession :=
  ((initDb toyLibraries toyPlatform [1] "my key" (List.replicate 32 14) toyDraws none).run
    ⟨{}, .empty⟩).2

def toyTests : SelfTests where
  password := ⟨300, 300⟩
  globalSecret := ⟨300, 300⟩

abbrev ToyWorld := World String String (String × Bytes)

abbrev ToyTotp : Machine ToyWorld TotpStep := totpMachine toyLibraries toyPlatform toyTotp

def toyLoaded : ToySession :=
  ((load toyLibraries toyPlatform [1] 0 toyLoadDraws).run ⟨{}, toyEnrolled.db⟩).2

/-- The first login, where the legacy mode derives the secret. -/
def toyLoggedIn : ToyWorld where
  controller := ((initTotp toyLibraries toyTotp (some [1]) toyTests (List.replicate 32 15)
    toyDraws).run ⟨toyLoaded, {}⟩).2
  master := [1]
  authenticator := none
  accepted := []

theorem toyLoggedIn_start : ToyTotp.start toyLoggedIn := by
  have enrolled : (KeyStore.machine toyLibraries toyPlatform).start toyEnrolled :=
    ⟨[1], "my key", List.replicate 32 14, toyDraws, none, nofun, rfl⟩
  obtain ⟨loads, inMemory⟩ :
      ((load toyLibraries toyPlatform [1] 0 toyLoadDraws).run ⟨{}, toyEnrolled.db⟩).1 = .ok true ∧
        toyLoaded.store.globalSecret = some (List.replicate 32 14) := by decide +kernel
  refine ⟨toyEnrolled.store, toyEnrolled.db, 0, toyLoadDraws, toyTests, List.replicate 32 15,
    toyDraws, toyLoaded, .start enrolled, nofun, rfl, Prod.ext loads rfl, ?_, rfl, rfl, rfl⟩
  intro secret held
  rw [inMemory] at held
  cases held
  rfl

/-- A secret provisioned with the password, and a password change. -/
def toyProvisioned : ToyWorld :=
  ToyTotp.run toyLoggedIn
    [fun _ => .generateNewTotp (List.replicate 32 16) true toyDraws,
     fun _ => .changePassword [2] toyDraws toyDraws]

theorem toyProvisioned_survives :
    toyProvisioned.master = [2] ∧
    toyProvisioned.controller.totpService.secret = some (List.replicate 20 16) ∧
    ¬ FailsForTotp toyLibraries toyProvisioned [] toyDraws toyDraws := by
  obtain ⟨stored, opened, master, secret⟩ :
      (ToyTotp.run toyLoggedIn [fun _ => .generateNewTotp (List.replicate 32 16) true toyDraws]).db.secrets
          .totpSecretEncrypted = some (wrap toyLibraries (List.replicate 20 16) [1] (toyEntropy 1 2)) ∧
        unwrap toyLibraries (wrap toyLibraries (List.replicate 20 16) [1] (toyEntropy 1 2)) [1] =
          .ok (List.replicate 20 16) ∧
        toyProvisioned.master = [2] ∧ toyProvisioned.authenticator = some (List.replicate 20 16) := by
    decide +kernel
  have reachable : ToyTotp.Reachable (Careful toyLibraries) toyProvisioned :=
    .run (.start toyLoggedIn_start)
      ⟨rfl, trivial, trivial, .inr (.inr (.inr ⟨_, _, stored, opened⟩)), trivial⟩
  obtain ⟨held, changes⟩ := totp_secret_survives toyLibraries_lawful toyTotp_lawful reachable
  exact ⟨master, held _ secret, changes [] toyDraws toyDraws (.inl rfl)⟩

/-- A secret regenerated from the setup dialog. -/
def toyRegenerated : ToyWorld :=
  ToyTotp.run toyLoggedIn [fun _ => .regenerateTotp (List.replicate 32 16) toyDraws]

/-- The same, then a new global secret and a restart. -/
def toyReplaced : ToyWorld :=
  ToyTotp.run toyRegenerated
    [fun _ => .updateSecret ⟨{}, 0, 0⟩ (List.replicate 32 17) [1] toyDraws,
     fun _ => .restart 0 toyLoadDraws toyTests (List.replicate 32 18) toyDraws]

/-- The regenerated secret is stored under the global secret: the password change raises
`InvalidTag` on it, and after an update of the global secret a restart replaces it. -/
theorem toyRegenerated_lost :
    ToyTotp.Reachable (fun _ _ => True) toyRegenerated ∧
    FailsForTotp toyLibraries toyRegenerated [2] toyDraws toyDraws ∧
    ToyTotp.Reachable (fun _ _ => True) toyReplaced ∧
    toyReplaced.authenticator = some (List.replicate 20 16) ∧
    toyReplaced.controller.totpService.secret = some (List.replicate 20 18) := by
  have reachable : ToyTotp.Reachable (fun _ _ => True) toyRegenerated :=
    .run (.start toyLoggedIn_start) ⟨rfl, trivial, trivial⟩
  obtain ⟨refused, succeeds, shown, loads, replaced⟩ :
      ((Totp.changePassword toyLibraries [1] [2] toyDraws toyDraws).run
          toyRegenerated.controller).1 = .error (.passed .invalidTag) ∧
        ((Totp.changePassword toyLibraries [1] [2] toyDraws toyDraws).run
          { toyRegenerated.controller with session := { toyRegenerated.controller.session with
              db := toyRegenerated.db.deleteSecret .totpSecretEncrypted } }).1 = .ok true ∧
        toyReplaced.authenticator = some (List.replicate 20 16) ∧
        ((load toyLibraries toyPlatform [1] 0 toyLoadDraws).run
          ⟨{}, (ToyTotp.run toyRegenerated
            [fun _ => .updateSecret ⟨{}, 0, 0⟩ (List.replicate 32 17) [1] toyDraws]).db⟩).1 = .ok true ∧
        toyReplaced.controller.totpService.secret = some (List.replicate 20 18) := by decide +kernel
  exact ⟨reachable, ⟨⟨_, refused⟩, succeeds⟩,
    reachable.run ⟨trivial, trivial, ⟨rfl, loads⟩, trivial, trivial⟩, shown, replaced⟩

end Toy

end UltimateEnigma.Totp
