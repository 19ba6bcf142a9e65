import UltimateEnigma.MessageOptions
import UltimateEnigma.PasswordChange
import UltimateEnigma.WrongKeys

set_option autoImplicit false

namespace UltimateEnigma.KeyStore

open Py Crypto Encryption

/-- A key store in time, with the public keys that its rotations retired and when. -/
structure Timeline (Priv Pub Pem : Type) where
  session : Session Priv Pub Pem
  now : Rat
  retired : List (Pub × Rat)

/-- A load works on the same object, or on a new one after a restart. -/
inductive TimelineStep (Priv : Type) where
  | rotateRsaKey (password : Bytes) (priv : Priv) (draws : Draws)
  | changePassword (oldPassword newPassword : Bytes) (draws : Draws)
  | load (restarted : Bool) (password : Bytes) (draws : LoadDraws)
  | advance (elapsed : Rat)

section Timelines

variable {Priv Pub Pem : Type} (P : Primitives Priv Pub Pem) (platform : Platform)

/-- The public key that the database gives as the user's own. -/
def currentPub (db : Database Pem) : Option Pub :=
  (db.texts .publicKey).bind fun pem => (P.pemToPubkey pem).toOption

/-- The session that a load works on. -/
def Timeline.opened (world : Timeline Priv Pub Pem) (restarted : Bool) : Session Priv Pub Pem :=
  if restarted then { world.session with store := {} } else world.session

def TimelineStep.perform (world : Timeline Priv Pub Pem) : TimelineStep Priv → Timeline Priv Pub Pem
  | .rotateRsaKey password priv draws =>
      { world with
        session := ((KeyStore.rotateRsaKey P password priv world.now draws).run world.session).2
        retired :=
          match rotatedKeys P password priv draws world.session.db with
          | .ok _ => (currentPub P world.session.db).toList.map (·, world.now) ++ world.retired
          | .error _ => world.retired }
  | .changePassword oldPassword newPassword draws =>
      { world with
        session := ((KeyStore.changePassword P oldPassword newPassword draws).run world.session).2 }
  | .load restarted password draws =>
      { world with
        session := ((KeyStore.load P platform password world.now draws).run
          (world.opened restarted)).2 }
  | .advance elapsed => { world with now := world.now + elapsed }

/-- Time does not run backwards, and a restarted application is used after a login only. -/
def TimelineStep.Enabled (world : Timeline Priv Pub Pem) : TimelineStep Priv → Prop
  | .load restarted password draws => restarted = true →
      ((KeyStore.load P platform password world.now draws).run (world.opened restarted)).1 = .ok true
  | .advance elapsed => 0 ≤ elapsed
  | _ => True

/-- A run begins after a login with a key pair that is stored together, where no key is retired. -/
def timeline : Machine (Timeline Priv Pub Pem) (TimelineStep Priv) where
  start := fun world => ∃ before password priv pem draws, Sound P before.db ∧
    before.db.texts .publicKey = some (P.pubkeyToPem (P.publicKey priv)) ∧
    before.db.keys .privateKeyEncrypted = some pem ∧ P.pemToPrivkey pem password = .ok priv ∧
    (KeyStore.load P platform password world.now draws).run before = (.ok true, world.session) ∧
    world.retired = []
  enabled := TimelineStep.Enabled P platform
  apply := TimelineStep.perform P platform

/-- The steps that keep the one retired key that there is a row for: no rotation takes the row
within the retention of another key, and no load finds it wrapped under an older password. -/
def KeepsRetired (world : Timeline Priv Pub Pem) : TimelineStep Priv → Prop
  | .rotateRsaKey password _ _ => OpensGlobalSecret P password world.session.db →
      ∀ entry ∈ world.retired, entry.2 + legacyKeyRetention ≤ world.now
  | .load _ password _ => ReadsPrivateKey P password world.session.db →
      ∀ pem ∈ world.session.db.keys .legacyPrivateKeyEncrypted,
        world.now < world.session.db.legacyKeyExpiry.getD 0 →
          ∃ priv, P.pemToPrivkey pem password = .ok priv
  | _ => True

end Timelines

section Invariant

variable {Priv Pub Pem : Type} (P : Primitives Priv Pub Pem)

/-- The key pair that is stored and loaded, under the password that also wraps the global secret. -/
structure CurrentKey (master : Bytes) (priv : Priv) (session : Session Priv Pub Pem) : Prop where
  pub : session.db.texts .publicKey = some (P.pubkeyToPem (P.publicKey priv))
  pem : ∃ salt pem, session.db.keys .privateKeyEncrypted = some pem ∧
    P.privkeyToEncryptedPem priv master salt = .ok pem
  globalSecret : ∃ plain entropy,
    session.db.secrets .globalSecret = some (wrap P plain master entropy)
  loaded : session.store.myPriv = some priv

/-- The row and the attribute of a retired key. -/
structure RetiredKey (entry : Pub × Rat) (session : Session Priv Pub Pem) : Prop where
  expiry : session.db.legacyKeyExpiry = some (entry.2 + legacyKeyRetention)
  stored : ∃ priv password salt pem, P.publicKey priv = entry.1 ∧
    session.store.legacyPriv = some priv ∧
    session.db.keys .legacyPrivateKeyEncrypted = some pem ∧
    P.privkeyToEncryptedPem priv password salt = .ok pem

structure KeysHeld (world : Timeline Priv Pub Pem) : Prop where
  sound : Sound P world.session.db
  current : ∃ master priv, CurrentKey P master priv world.session
  retired : ∀ entry ∈ world.retired, world.now < entry.2 + legacyKeyRetention →
    RetiredKey P entry world.session

end Invariant

section Loading

variable {Priv Pub Pem : Type} {P : Primitives Priv Pub Pem} {platform : Platform}
variable {password : Bytes} {now : Rat} {draws : LoadDraws} {session after : Session Priv Pub Pem}

/-- What the current key and a retired one are read from. -/
def rsaSettings (session : Session Priv Pub Pem) :
    Option Priv × Option Priv × (KeySetting → Option Pem) × Option Rat × Option Wrapper ×
      Option String :=
  (session.store.myPriv, session.store.legacyPriv, session.db.keys, session.db.legacyKeyExpiry,
    session.db.secrets .globalSecret, session.db.texts .publicKey)

theorem loadBehindRsa_keeps :
    (loadBehindRsa P platform password).Keeps (rsaSettings : Session Priv Pub Pem → _) := by
  have sees : SeesOnly (fun store : KeyStore Priv Pub => (store.myPriv, store.legacyPriv))
      (rsaSettings : Session Priv Pub Pem → _) := by
    intro session store same
    obtain ⟨myPriv, legacyPriv⟩ := Prod.mk.inj same
    rw [rsaSettings, rsaSettings, myPriv, legacyPriv]
  refine Call.keeps_bind (loadGlobalSecret_keeps sees password) fun _ =>
    Call.keeps_ite ?_ (Call.keeps_pure _)
  exact Call.keeps_bind (loadKyberKey_keeps sees password) fun _ =>
    Call.keeps_bind (loadPqcCombinedPub_keeps sees) fun _ =>
    Call.keeps_bind (cachePqcBundle_keeps sees password) fun _ =>
    Call.keeps_bind (loadHybridSigning_keeps sees password) fun _ =>
    Call.keeps_bind (loadFriends_keeps sees password) fun _ => Call.keeps_pure _

/-- In a sound database the ratchet storage key is found, or an exception escapes: the store is not
wiped. -/
theorem loadRatchetStorageKey_unwiped (lawful : P.Lawful) (sound : Sound P session.db) :
    ((loadRatchetStorageKey P password draws).run session).2.store = session.store := by
  rw [loadRatchetStorageKey, Call.run_read_bind]
  cases stored : session.db.secrets .ratchetStorageKey with
  | some wrapper =>
      dsimp only
      rw [attempt_unwrap lawful (sound.wrapped _ wrapper stored)]
      cases unwrap P wrapper password <;> rfl
  | none =>
      dsimp only
      rw [newRatchetStorageKey_unsalted sound.noLegacySalt]
      rfl

variable (password draws) in
theorem loadRatchetStorageKey_rsaSettings (lawful : P.Lawful) (sound : Sound P session.db) :
    rsaSettings ((loadRatchetStorageKey P password draws).run session).2 = rsaSettings session := by
  have store : ((loadRatchetStorageKey P password draws).run session).2.store = session.store :=
    loadRatchetStorageKey_unwiped lawful sound
  let kept (db : Database Pem) : Prop := db.keys = session.db.keys ∧
    db.legacyKeyExpiry = session.db.legacyKeyExpiry ∧
    db.secrets .globalSecret = session.db.secrets .globalSecret ∧
    db.texts .publicKey = session.db.texts .publicKey
  have survives : ∀ used drawn db after, kept db → newRatchetStorageKey P used drawn db = .ok after →
      kept after := by
    rintro used drawn db after ⟨keys, expiry, secret, text⟩ made
    obtain ⟨secrets', keys', texts', expiry'⟩ := newRatchetStorageKey_settings made
    exact ⟨keys'.trans keys, expiry'.trans expiry, (secrets' _ (by decide)).trans secret,
      (texts' _ (by decide)).trans text⟩
  have rows : (loadRatchetStorageKey P password draws).Maintains
      fun after : Session Priv Pub Pem => kept after.db :=
    loadRatchetStorageKey_maintains survives password draws
  obtain ⟨keys, expiry, secret, text⟩ := rows session ⟨rfl, rfl, rfl, rfl⟩
  rw [rsaSettings, rsaSettings, store, keys, expiry, secret, text]

theorem Sound.readLegacyKey_ok (lawful : P.Lawful) (sound : Sound P session.db) (password : Bytes)
    (now : Rat) : ∃ legacy, readLegacyKey P session.db password now = .ok legacy := by
  unfold readLegacyKey
  cases stored : session.db.keys .legacyPrivateKeyEncrypted with
  | none => exact ⟨none, rfl⟩
  | some pem =>
      dsimp only
      split
      · obtain ⟨priv, own, salt, made⟩ := sound.keys _ pem stored
        by_cases same : password = own
        · exact ⟨some priv, by rw [same, lawful.pem_opens made]; rfl⟩
        · obtain ⟨raised, caught, refused⟩ := lawful.pem_refuses made same
          exact ⟨none, by rw [refused, attempt, caught]; rfl⟩
      · exact ⟨none, rfl⟩

variable (platform draws) in
/-- A load that opens the private key takes both RSA keys from their rows, whatever else fails. -/
theorem load_rsaSettings (lawful : P.Lawful) (sound : Sound P session.db) {priv : Priv}
    {legacy : Option Priv}
    (privRead : ∃ pem, session.db.keys .privateKeyEncrypted = some pem ∧
      P.pemToPrivkey pem password = .ok priv)
    (legacyRead : readLegacyKey P session.db password now = .ok legacy) :
    rsaSettings ((load P platform password now draws).run session).2 =
      (some priv, legacy, (keepUnexpired session.db now).keys,
        (keepUnexpired session.db now).legacyKeyExpiry, session.db.secrets .globalSecret,
        session.db.texts .publicKey) := by
  obtain ⟨pub, stored⟩ := sound.publicKey
  have keysRun : (loadKeys P platform password now).run session = _ :=
    loadKeys_run_behind ⟨_, stored, lawful.pubkey_round pub⟩ privRead legacyRead
  have kept : rsaSettings ((loadKeys P platform password now).run session).2 =
      (some priv, legacy, (keepUnexpired session.db now).keys,
        (keepUnexpired session.db now).legacyKeyExpiry, session.db.secrets .globalSecret,
        session.db.texts .publicKey) := by
    rw [keysRun, loadBehindRsa_keeps]
    rw [rsaSettings, keepUnexpired_secrets, keepUnexpired_texts]
    rfl
  have middleSound : Sound P ((loadKeys P platform password now).run session).2.db :=
    loadKeys_maintains (fun _ sound => sound.deleteLegacyKey) password now session sound
  cases ran : (loadKeys P platform password now).run session with
  | mk outcome middle =>
      rw [ran] at kept middleSound
      rw [← kept]
      cases outcome with
      | error raised =>
          have failed : (Call.mapError (asKeyStoreError "Key loading failed: ")
              (loadKeys P platform password now)).run session =
              (.error (asKeyStoreError "Key loading failed: " raised), middle) := by
            rw [Call.run_mapError, ran]
          rw [load, Call.run_bind_of_error failed]
      | ok went =>
          have returned := (Call.run_mapError_ok_iff (asKeyStoreError "Key loading failed: ")
            (loadKeys P platform password now) session middle went).mpr ran
          rw [load, Call.run_bind_of_ok returned]
          cases went with
          | false => rfl
          | true =>
              have found := loadRatchetStorageKey_rsaSettings password draws lawful middleSound
              rw [if_pos rfl, ← found]
              refine Call.Keeps.behind (fun key => ?_) middle
              cases key with
              | none => exact Call.keeps_pure _
              | some key => exact Call.keeps_bind (Call.keeps_modify fun _ => rfl) fun _ => Call.keeps_pure _

variable (platform now draws) in
/-- A load that the private key stops takes nothing from the rows. -/
theorem load_closed (lawful : P.Lawful) (sound : Sound P session.db)
    (closed : ¬ ReadsPrivateKey P password session.db) :
    ∃ store, (load P platform password now draws).run session =
      (.ok false, { session with store := store }) ∧
      rsaSettings { session with store := store } = rsaSettings session := by
  obtain ⟨pub, stored⟩ := sound.publicKey
  obtain ⟨pem, present⟩ := Option.isSome_iff_exists.mp sound.privateKey
  obtain ⟨priv, own, salt, made⟩ := sound.keys _ pem present
  have apart : password ≠ own := by
    intro same
    exact closed ⟨priv, pem, present, by rw [same, lawful.pem_opens made]⟩
  obtain ⟨raised, caught, refused⟩ := lawful.pem_refuses made apart
  have first : (loadPublicKey P).run session = (.ok (), ⟨withPub P session.store pub, session.db⟩) :=
    loadPublicKey_ok_iff.mpr ⟨pub, ⟨_, stored, lawful.pubkey_round pub⟩, rfl⟩
  have second : (loadPrivateKey P password).run ⟨withPub P session.store pub, session.db⟩ =
      (.ok false, ⟨withPub P session.store pub, session.db⟩) := by
    have nothing : attempt (P.pemToPrivkey pem password) = .ok none := by
      rw [refused, attempt, caught]
      rfl
    rw [loadPrivateKey, Call.run_read_bind, present, Call.run_require_bind, nothing]
    rfl
  have keysRun : (loadKeys P platform password now).run session =
      (.ok false, ⟨withPub P session.store pub, session.db⟩) := by
    rw [loadKeys, Call.run_bind_of_ok first, Call.run_bind_of_ok second]
    rfl
  refine ⟨withPub P session.store pub, ?_, rfl⟩
  have stopped := (Call.run_mapError_ok_iff (asKeyStoreError "Key loading failed: ")
    (loadKeys P platform password now) session _ _).mpr keysRun
  rw [load, Call.run_bind_of_ok stopped]
  rfl

end Loading

section Steps

variable {Priv Pub Pem : Type} {P : Primitives Priv Pub Pem} {platform : Platform}
variable {master : Bytes} {priv : Priv} {session after : Session Priv Pub Pem}

theorem CurrentKey.of_rsaSettings (current : CurrentKey P master priv session)
    (same : rsaSettings after = rsaSettings session) : CurrentKey P master priv after := by
  simp only [rsaSettings, Prod.mk.injEq] at same
  obtain ⟨loaded, -, keys, -, secret, text⟩ := same
  exact ⟨text.trans current.pub, by rw [keys]; exact current.pem,
    by rw [secret]; exact current.globalSecret, loaded.trans current.loaded⟩

theorem RetiredKey.of_rsaSettings {entry : Pub × Rat} (retired : RetiredKey P entry session)
    (same : rsaSettings after = rsaSettings session) : RetiredKey P entry after := by
  simp only [rsaSettings, Prod.mk.injEq] at same
  obtain ⟨-, loaded, keys, expiry, -, -⟩ := same
  exact ⟨expiry.trans retired.expiry, by rw [loaded, keys]; exact retired.stored⟩

theorem CurrentKey.readsPrivateKey_iff (current : CurrentKey P master priv session)
    (lawful : P.Lawful) {password : Bytes} :
    ReadsPrivateKey P password session.db ↔ password = master := by
  obtain ⟨salt, pem, stored, made⟩ := current.pem
  constructor
  · rintro ⟨found, other, present, opened⟩
    rw [stored] at present
    cases present
    by_contra apart
    obtain ⟨raised, -, refused⟩ := lawful.pem_refuses made apart
    rw [refused] at opened
    cases opened
  · rintro rfl
    exact ⟨priv, pem, stored, lawful.pem_opens made⟩

theorem CurrentKey.opensGlobalSecret_iff (current : CurrentKey P master priv session)
    (lawful : P.Lawful) {password : Bytes} :
    OpensGlobalSecret P password session.db ↔ password = master := by
  obtain ⟨plain, entropy, stored⟩ := current.globalSecret
  constructor
  · intro opens
    by_contra apart
    refine opens _ stored fun found opened => ?_
    rw [unwrap_wrap lawful, if_neg apart] at opened
    cases opened
  · rintro rfl wrapper present closed
    rw [stored] at present
    cases present
    exact closed plain (by rw [unwrap_wrap lawful, if_pos rfl])

theorem CurrentKey.currentPub_eq (current : CurrentKey P master priv session) (lawful : P.Lawful) :
    currentPub P session.db = some (P.publicKey priv) := by
  rw [currentPub, current.pub]
  show (P.pemToPubkey (P.pubkeyToPem (P.publicKey priv))).toOption = _
  rw [lawful.pubkey_round]
  rfl

/-- A password change keeps the loaded key and takes its rows over to the new password. -/
theorem CurrentKey.changePassword (lawful : P.Lawful) (sound : Sound P session.db)
    (current : CurrentKey P master priv session) {oldPassword newPassword : Bytes} {draws : Draws}
    {rewrapped : Rewrapped Priv Pem}
    (made : rewrapSecrets P oldPassword newPassword draws session.db = .ok rewrapped) :
    CurrentKey P newPassword priv
      ((KeyStore.changePassword P oldPassword newPassword draws).run session).2 := by
  have ran := changePassword_run_ok made
  have changed := changePassword_changed lawful sound ran
  rw [ran]
  obtain ⟨-, ⟨pem', present', opened'⟩, -⟩ := rewrapSecrets_ok made
  obtain ⟨pem, found, renewed, salt, present, opened, made', stored⟩ := changed.privateKey
  obtain ⟨ownSalt, own, ownStored, ownMade⟩ := current.pem
  rw [ownStored] at present present'
  cases present
  cases present'
  have same : found = priv :=
    pem_unique lawful ⟨_, _, _, ownMade⟩ opened (lawful.pem_opens ownMade)
  have same' : rewrapped.priv = priv :=
    pem_unique lawful ⟨_, _, _, ownMade⟩ opened' (lawful.pem_opens ownMade)
  refine ⟨?_, ⟨salt, renewed, stored, by rw [← same]; exact made'⟩, ?_, congrArg some same'⟩
  · rw [changed.texts]
    exact current.pub
  · have rewraps := changed.globalSecret
    obtain ⟨plain, entropy, secret⟩ := current.globalSecret
    rw [secret] at rewraps
    obtain ⟨plain, entropy, -, secret'⟩ := rewraps
    exact ⟨plain, entropy, secret'⟩

theorem RetiredKey.changePassword (lawful : P.Lawful) (sound : Sound P session.db)
    {entry : Pub × Rat} (retired : RetiredKey P entry session) {oldPassword newPassword : Bytes}
    {draws : Draws} {rewrapped : Rewrapped Priv Pem}
    (made : rewrapSecrets P oldPassword newPassword draws session.db = .ok rewrapped) :
    RetiredKey P entry
      ((KeyStore.changePassword P oldPassword newPassword draws).run session).2 := by
  have ran := changePassword_run_ok made
  have changed := changePassword_changed lawful sound ran
  rw [ran]
  exact ⟨changed.expiry.trans retired.expiry, by rw [changed.legacy]; exact retired.stored⟩

/-- A rotation retires the key that the store has, and keeps the password. -/
theorem rotateRsaKey_run_ok {password : Bytes} {fresh old : Priv} (now : Rat) {draws : Draws}
    {current renewed : Pem}
    (rotated : rotatedKeys P password fresh draws session.db = .ok (current, renewed))
    (opened : P.pemToPrivkey current password = .ok old) :
    (rotateRsaKey P password fresh now draws).run session =
      (.ok (), ⟨{ session.store with
          myPriv := some fresh
          myPub := some (P.publicKey fresh)
          legacyPriv := some old
          needsRotation := false },
        (({ session.db.setKey .legacyPrivateKeyEncrypted current with
            legacyKeyExpiry := some (now + legacyKeyRetention) }.updateText .publicKey
          (P.pubkeyToPem (P.publicKey fresh))).updateKey .privateKeyEncrypted renewed)⟩) := by
  rw [rotateRsaKey, Call.run_mapError, Call.run_read_bind]
  simp only [rotated, Call.run_lift_ok_bind, run_commit_bind, run_assign_bind, opened]
  rfl

theorem rotatedKeys_opens {password : Bytes} {fresh : Priv} {draws : Draws} {rotated : Pem × Pem}
    (success : rotatedKeys P password fresh draws session.db = .ok rotated) :
    OpensGlobalSecret P password session.db := by
  intro wrapper stored closed
  rw [rotatedKeys, Option.mem_def.mp stored] at success
  obtain ⟨enc, parsed, success⟩ := ok_of_bind success
  obtain ⟨plain, opening, _⟩ := ok_of_bind success
  refine closed plain ?_
  rw [unwrap, parsed, ok_bind]
  exact ok_of_orKeyStoreError opening

end Steps

section Runs

variable {Priv Pub Pem : Type} {P : Primitives Priv Pub Pem} {platform : Platform}
variable {world : Timeline Priv Pub Pem}

theorem keepUnexpired_of_timely {db : Database Pem} {now expiry : Rat}
    (expires : db.legacyKeyExpiry = some expiry) (timely : now < expiry) :
    keepUnexpired db now = db := by
  unfold keepUnexpired
  split
  · rfl
  · rw [expires, Option.getD_some, if_pos timely]

theorem keepUnexpired_privateKey (db : Database Pem) (now : Rat) :
    (keepUnexpired db now).keys .privateKeyEncrypted = db.keys .privateKeyEncrypted := by
  unfold keepUnexpired
  split
  · rfl
  · split <;> rfl

/-- A load keeps a retired key that is not expired and opens. -/
theorem KeysHeld.load (lawful : P.Lawful) (held : KeysHeld P world) {restarted : Bool}
    {password : Bytes} {draws : LoadDraws}
    (enabled : TimelineStep.Enabled P platform world (.load restarted password draws))
    (kept : KeepsRetired P world (.load restarted password draws)) :
    KeysHeld P (TimelineStep.perform P platform world (.load restarted password draws)) := by
  obtain ⟨master, priv, current⟩ := held.current
  have sameDb : (world.opened restarted).db = world.session.db := by
    unfold Timeline.opened
    split <;> rfl
  have sound : Sound P (world.opened restarted).db := by
    rw [sameDb]
    exact held.sound
  have soundAfter : Sound P ((KeyStore.load P platform password world.now draws).run
      (world.opened restarted)).2.db := load_maintains password world.now draws _ sound
  by_cases reads : ReadsPrivateKey P password world.session.db
  · obtain rfl := (current.readsPrivateKey_iff lawful).mp reads
    obtain ⟨legacy, legacyRead⟩ := sound.readLegacyKey_ok lawful password world.now
    obtain ⟨salt, pem, stored, made⟩ := current.pem
    have after := load_rsaSettings platform draws lawful sound
      ⟨pem, by rw [sameDb]; exact stored, lawful.pem_opens made⟩ legacyRead
    rw [sameDb] at after legacyRead
    simp only [rsaSettings, Prod.mk.injEq] at after
    obtain ⟨loaded, legacyLoaded, keys, expiry, secret, text⟩ := after
    refine ⟨soundAfter, ⟨password, priv, text.trans current.pub, ⟨salt, pem, ?_, made⟩, ?_, loaded⟩, ?_⟩
    · refine (congrFun keys .privateKeyEncrypted).trans ?_
      rw [keepUnexpired_privateKey]
      exact stored
    · obtain ⟨plain, entropy, wrapped⟩ := current.globalSecret
      exact ⟨plain, entropy, secret.trans wrapped⟩
    · intro entry inside timely
      obtain ⟨expires, old, own, oldSalt, oldPem, pub, _, oldStored, oldMade⟩ :=
        held.retired entry inside timely
      have kept' : keepUnexpired world.session.db world.now = world.session.db :=
        keepUnexpired_of_timely expires timely
      have timely' : world.now < world.session.db.legacyKeyExpiry.getD 0 := by
        rw [expires]
        exact timely
      obtain ⟨found, opens⟩ := kept reads oldPem oldStored timely'
      have same : found = old :=
        pem_unique lawful ⟨_, _, _, oldMade⟩ opens (lawful.pem_opens oldMade)
      have read : readLegacyKey P world.session.db password world.now = .ok (some old) := by
        rw [readLegacyKey, oldStored]
        dsimp only
        rw [if_pos timely', opens, same]
        rfl
      rw [legacyRead] at read
      refine ⟨(expiry.trans (congrArg Database.legacyKeyExpiry kept')).trans expires, old, own, oldSalt,
        oldPem, pub, legacyLoaded.trans (Except.ok.inj read), ?_, oldMade⟩
      refine (congrFun keys .legacyPrivateKeyEncrypted).trans ?_
      rw [kept']
      exact oldStored
  · obtain ⟨store, ran, same⟩ := load_closed platform world.now draws lawful sound
      (by rw [sameDb]; exact reads)
    have continued : restarted = false := by
      by_contra wasRestarted
      have went := enabled (Bool.eq_true_of_not_eq_false wasRestarted)
      rw [ran] at went
      cases went
    subst continued
    have same' : rsaSettings ((KeyStore.load P platform password world.now draws).run
        world.session).2 = rsaSettings world.session := by
      have ran' : (KeyStore.load P platform password world.now draws).run world.session = _ := ran
      rw [ran']
      exact same
    refine ⟨soundAfter, ⟨master, priv, current.of_rsaSettings same'⟩, ?_⟩
    intro entry inside timely
    exact (held.retired entry inside timely).of_rsaSettings same'

/-- A rotation puts the current key in the place of an expired one. -/
theorem KeysHeld.rotateRsaKey (lawful : P.Lawful) (held : KeysHeld P world) {password : Bytes}
    {fresh : Priv} {draws : Draws} (kept : KeepsRetired P world (.rotateRsaKey password fresh draws)) :
    KeysHeld P (TimelineStep.perform P platform world (.rotateRsaKey password fresh draws)) := by
  obtain ⟨master, priv, current⟩ := held.current
  have soundAfter := rotateRsaKey_sound held.sound password fresh world.now draws
  cases rotated : rotatedKeys P password fresh draws world.session.db with
  | error raised =>
      have ran : ((KeyStore.rotateRsaKey P password fresh world.now draws).run world.session).2 =
          world.session := by
        rw [KeyStore.rotateRsaKey, Call.run_mapError, Call.run_read_bind, rotated]
        rfl
      have unchanged : TimelineStep.perform P platform world (.rotateRsaKey password fresh draws) =
          world := by
        simp only [TimelineStep.perform, rotated, ran]
      rw [unchanged]
      exact held
  | ok pair =>
      obtain ⟨old, renewed⟩ := pair
      have opens := rotatedKeys_opens rotated
      obtain rfl := (current.opensGlobalSecret_iff lawful).mp opens
      obtain ⟨present, made⟩ := rotatedKeys_ok rotated
      obtain ⟨salt, pem, stored, oldMade⟩ := current.pem
      rw [stored] at present
      cases present
      have ran := rotateRsaKey_run_ok world.now rotated (lawful.pem_opens oldMade)
      have after : TimelineStep.perform P platform world (.rotateRsaKey password fresh draws) =
          { world with
            session := ((KeyStore.rotateRsaKey P password fresh world.now draws).run
              world.session).2
            retired := (P.publicKey priv, world.now) :: world.retired } := by
        simp only [TimelineStep.perform, rotated, current.currentPub_eq lawful]
        rfl
      rw [after]
      rw [ran] at soundAfter ⊢
      refine ⟨soundAfter, ⟨password, fresh, ?_, ⟨_, renewed, ?_, made⟩, ?_, rfl⟩, ?_⟩
      · simp only [Database.updateKey, Database.updateText, Database.setKey, Function.update_self,
          current.pub, Option.map_some]
      · simp only [Database.updateKey, Database.updateText, Database.setKey, Function.update_self,
          Function.update_apply, reduceCtorEq, if_false, stored, Option.map_some]
      · exact current.globalSecret
      · intro entry inside timely
        rcases List.mem_cons.mp inside with rfl | earlier
        · refine ⟨rfl, priv, password, salt, old, rfl, rfl, ?_, oldMade⟩
          simp only [Database.updateKey, Database.updateText, Database.setKey,
            Function.update_self, Function.update_apply, reduceCtorEq, if_false]
        · exact absurd timely (not_lt.mpr (kept opens entry earlier))

theorem KeysHeld.changePassword (lawful : P.Lawful) (held : KeysHeld P world)
    {oldPassword newPassword : Bytes} {draws : Draws} :
    KeysHeld P (TimelineStep.perform P platform world
      (.changePassword oldPassword newPassword draws)) := by
  obtain ⟨master, priv, current⟩ := held.current
  have soundAfter := changePassword_sound held.sound oldPassword newPassword draws
  cases made : rewrapSecrets P oldPassword newPassword draws world.session.db with
  | error raised =>
      obtain ⟨passed, ran⟩ := changePassword_run_error made
      have unchanged : TimelineStep.perform P platform world
          (.changePassword oldPassword newPassword draws) = world := by
        simp only [TimelineStep.perform, ran]
      rw [unchanged]
      exact held
  | ok rewrapped =>
      exact ⟨soundAfter, ⟨newPassword, priv, current.changePassword lawful held.sound made⟩,
        fun entry inside timely =>
          (held.retired entry inside timely).changePassword lawful held.sound made⟩

theorem KeysHeld.advance (held : KeysHeld P world) {elapsed : Rat} (forward : 0 ≤ elapsed) :
    KeysHeld P (TimelineStep.perform P platform world (.advance elapsed)) := by
  refine ⟨held.sound, held.current, fun entry inside timely => held.retired entry inside ?_⟩
  have later : world.now + elapsed < entry.2 + legacyKeyRetention := timely
  linarith

theorem KeysHeld.step (lawful : P.Lawful) (held : KeysHeld P world) {step : TimelineStep Priv}
    (enabled : TimelineStep.Enabled P platform world step) (kept : KeepsRetired P world step) :
    KeysHeld P (TimelineStep.perform P platform world step) := by
  cases step with
  | rotateRsaKey password fresh draws => exact held.rotateRsaKey lawful kept
  | changePassword oldPassword newPassword draws => exact held.changePassword lawful
  | load restarted password draws => exact held.load lawful enabled kept
  | advance elapsed => exact held.advance enabled

/-- The login that a run begins with has both keys under its password. -/
theorem KeysHeld.start (lawful : P.Lawful) (started : (timeline P platform).start world) :
    KeysHeld P world := by
  obtain ⟨before, password, priv, pem, draws, sound, pub, stored, opened, ran, none⟩ := started
  have soundAfter : Sound P ((KeyStore.load P platform password world.now draws).run before).2.db :=
    load_maintains password world.now draws _ sound
  rw [ran] at soundAfter
  obtain ⟨readings, _, reads, _, _⟩ := (load_true_iff lawful sound).mp ran
  have after := load_rsaSettings platform draws lawful sound
    ⟨pem, stored, opened⟩ reads.legacy
  rw [ran] at after
  simp only [rsaSettings, Prod.mk.injEq] at after
  obtain ⟨loaded, -, keys, -, secret, text⟩ := after
  obtain ⟨found, own, salt, made⟩ := sound.keys _ pem stored
  have same : password = own := by
    by_contra apart
    obtain ⟨raised, -, refused⟩ := lawful.pem_refuses made apart
    rw [refused] at opened
    cases opened
  subst same
  have samePriv : found = priv := pem_unique lawful ⟨_, _, _, made⟩ (lawful.pem_opens made) opened
  subst samePriv
  refine ⟨soundAfter, ⟨password, found, text.trans pub, ⟨salt, pem, ?_, made⟩, ?_, loaded⟩, ?_⟩
  · refine (congrFun keys .privateKeyEncrypted).trans ?_
    rw [keepUnexpired_privateKey]
    exact stored
  · obtain ⟨wrapper, present⟩ := Option.isSome_iff_exists.mp sound.globalSecret
    obtain ⟨plain, wrapPassword, entropy, rfl⟩ := sound.wrapped _ wrapper present
    have secretRead := reads.globalSecret
    rw [present, unwrapColumn, unwrap_wrap lawful] at secretRead
    by_cases under : password = wrapPassword
    · exact ⟨plain, entropy, by rw [secret, present, under]⟩
    · rw [if_neg under] at secretRead
      cases secretRead
  · intro entry inside
    rw [none] at inside
    cases inside

theorem timeline_keysHeld (lawful : P.Lawful)
    (reachable : (timeline P platform).Reachable (KeepsRetired P) world) : KeysHeld P world :=
  Machine.Reachable.invariant (timeline P platform) (KeysHeld P)
    (fun _ started => .start lawful started)
    (fun _ _ _ held enabled kept => held.step lawful enabled kept) reachable

end Runs

section Messages

variable {Priv Pub Pem : Type} (L : MessageLibrary Priv Pub)

/-- What was encrypted to the public key is read, as long as the message itself is valid. -/
def ReadsUnder (store : KeyStore Priv Pub) (pub : Pub) : Prop :=
  ∀ (options : EncryptOptions Priv Pub) (draws : EncryptDraws) (plaintext : String)
    (constKey packet : Bytes) (timestamp : Rat) (time : Nat) (clocks : Clocks),
    options.encryptForFriendPub = some pub → draws.aesKey.length = 32 → draws.nonce.length = 12 →
    encryptMessage L options (encodeUtf8 plaintext) constKey timestamp draws =
      .ok (packet, (time : Int)) → time < 2 ^ 62 → 60 ≤ clocks.present → clocks.present < 2 ^ 62 →
    checkTime clocks.present time options.seconds = .ok () →
    ∃ line, legacyDecrypt L store clocks packet = .ok (line ++ plaintext)

variable {L}

theorem readsUnder_of_hasKey (lawful : L.Lawful) (authentic : L.Authentic)
    {store : KeyStore Priv Pub} {priv : Priv}
    (loaded : store.myPriv = some priv ∨ store.legacyPriv = some priv) :
    ReadsUnder L store (L.publicKey priv) := by
  intro options draws plaintext constKey packet timestamp time clocks friend aesDrawn nonceDrawn made
    timeFits late nowFits timely
  have stamped : toInt timestamp = time := (encryptMessage_time made).symm
  rw [encryptMessage_toInt, stamped] at made
  obtain ⟨_, aesKey, signature, sealing⟩ := sealed_of_encryptMessage lawful aesDrawn timeFits made
  have keyed : HasKey L store constKey options.encryptForFriendPub := by
    rw [friend]
    exact ⟨priv, loaded, rfl⟩
  exact ⟨_, legacyDecrypt_timely authentic lawful sealing nonceDrawn timeFits keyed late nowFits timely⟩

variable {P : Primitives Priv Pub Pem} {platform : Platform}

variable (P) in
/-- The public keys that the retention promises to serve: the current one, and those whose time has
not run out. -/
def Served (world : Timeline Priv Pub Pem) (pub : Pub) : Prop :=
  currentPub P world.session.db = some pub ∨
    ∃ retiredAt, (pub, retiredAt) ∈ world.retired ∧ world.now < retiredAt + legacyKeyRetention

/-- Through every run in which no step takes the single row of the retired key away from one that is
still to be served, messages to every served key are read. -/
theorem served_keys_read (messages : L.Lawful) (authentic : L.Authentic) (keys : P.Lawful)
    (agree : ∀ priv, L.publicKey priv = P.publicKey priv) {world : Timeline Priv Pub Pem}
    (reachable : (timeline P platform).Reachable (KeepsRetired P) world) {pub : Pub}
    (served : Served P world pub) : ReadsUnder L world.session.store pub := by
  have held : KeysHeld P world := timeline_keysHeld keys reachable
  rcases served with current | ⟨retiredAt, inside, timely⟩
  · obtain ⟨master, priv, key⟩ := held.current
    rw [key.currentPub_eq keys] at current
    rw [← Option.some.inj current, ← agree]
    exact readsUnder_of_hasKey messages authentic (.inl key.loaded)
  · obtain ⟨priv, _, _, _, same, loaded, _⟩ := (held.retired _ inside timely).stored
    have samePub : P.publicKey priv = pub := same
    rw [← samePub, ← agree]
    exact readsUnder_of_hasKey messages authentic (.inr loaded)

end Messages

section Toy

/-- A key store over the keys that `toyMessages` encrypts to. -/
def toyKeyPairs : Primitives Bytes Bytes (Bytes × Bytes) where
  publicKey := toyMessages.publicKey
  keySize _ := 4096
  pubkeyToPem := b64encode
  pemToPubkey := decodeBase64
  privkeyToEncryptedPem priv password _ := .ok (priv, password)
  pemToPrivkey pem password := if password = pem.2 then .ok pem.1 else .error .valueError
  argon2id := toyLibraries.argon2id
  pbkdf2 := toyLibraries.pbkdf2
  hkdf := toyLibraries.hkdf
  aesEncrypt := toyLibraries.aesEncrypt
  aesDecrypt := toyLibraries.aesDecrypt

theorem toyKeyPairs_lawful : toyKeyPairs.Lawful where
  pubkey_round := decodeBase64_b64encode
  pem_opens made := by
    cases made
    exact if_pos rfl
  pem_refuses made differ := by
    cases made
    exact ⟨.valueError, rfl, if_neg differ⟩
  argon2id_injective same := same
  aes_opens := toyLibraries_lawful.aes_opens
  aes_refuses := toyLibraries_lawful.aes_refuses

abbrev ToyTimeline := Timeline Bytes Bytes (Bytes × Bytes)

abbrev ToyTimelines : Machine ToyTimeline (TimelineStep Bytes) := timeline toyKeyPairs toyPlatform

/-- The first keys, under the password `[1]`. -/
def toyFirstKeys : Session Bytes Bytes (Bytes × Bytes) :=
  ((initDb toyKeyPairs toyPlatform [1] [4] [14] toyDraws none).run ⟨{}, .empty⟩).2

def toyEntered : ToyTimeline where
  session := ((load toyKeyPairs toyPlatform [1] 0 toyLoadDraws).run toyFirstKeys).2
  now := 0
  retired := []

theorem toyEntered_start : ToyTimelines.start toyEntered := by
  refine ⟨toyFirstKeys, [1], [4], ([4], [1]), toyLoadDraws, ?_, rfl, rfl, rfl, ?_, rfl⟩
  · have first : (machine toyKeyPairs toyPlatform).start toyFirstKeys :=
      ⟨[1], [4], [14], toyDraws, none, by simp, rfl⟩
    exact start_sound first
  · exact Prod.ext (by decide +kernel) rfl

/-- A rotation, a day and a restart. -/
def toyRotated : ToyTimeline :=
  ToyTimelines.run toyEntered
    [fun _ => .rotateRsaKey [1] [5] toyDraws, fun _ => .advance 86400,
      fun _ => .load true [1] toyLoadDraws]

theorem toyRotated_reads :
    Served toyKeyPairs toyRotated [4] ∧ ReadsUnder toyMessages toyRotated.session.store [4] := by
  have reachable : ToyTimelines.Reachable (KeepsRetired toyKeyPairs) toyRotated := by
    refine .run (.start toyEntered_start) ⟨trivial, ?_, ?_, trivial, ?_, ?_, trivial⟩
    · intro _ entry inside
      cases inside
    · show (0 : Rat) ≤ 86400
      norm_num
    · intro _
      decide +kernel
    · intro _ pem stored _
      have same : pem = ([4], [1]) := Option.some.inj (stored.symm.trans rfl)
      exact ⟨[4], by rw [same]; rfl⟩
  have served : Served toyKeyPairs toyRotated [4] :=
    .inr ⟨0, by decide +kernel, by decide +kernel⟩
  exact ⟨served, served_keys_read toyMessages_lawful toyMessages_authentic toyKeyPairs_lawful
    (fun _ => rfl) reachable served⟩

/-- Two rotations on one day. -/
def toyTwiceRotated : ToyTimeline :=
  ToyTimelines.run toyEntered
    [fun _ => .rotateRsaKey [1] [5] toyDraws, fun _ => .rotateRsaKey [1] [6] toyDraws]

/-- The second rotation takes the row of the first key, and a message to that key is lost. -/
theorem toyTwiceRotated_loses :
    ToyTimelines.Reachable (fun _ _ => True) toyTwiceRotated ∧
      Served toyKeyPairs toyTwiceRotated [4] ∧
      ¬ ReadsUnder toyMessages toyTwiceRotated.session.store [4] := by
  refine ⟨.run (.start toyEntered_start) ⟨trivial, trivial, trivial, trivial, trivial⟩,
    .inr ⟨0, by decide +kernel, by decide +kernel⟩, fun reads => ?_⟩
  have sent : (encryptMessage toyMessages (legacyOptions {} (some [4]) false none) (encodeUtf8 "hi") []
      (100 : Nat) Crypto.toyDraws).toOption.map
        (fun sent => (sent.2, (legacyDecrypt toyMessages toyTwiceRotated.session.store ⟨none, 100⟩
          sent.1).toOption)) = some (((100 : Nat) : Int), none) := by decide +kernel
  cases made : encryptMessage toyMessages (legacyOptions {} (some [4]) false none) (encodeUtf8 "hi") []
      (100 : Nat) Crypto.toyDraws with
  | error raised =>
      rw [made] at sent
      cases sent
  | ok message =>
      obtain ⟨packet, time⟩ := message
      rw [made] at sent
      obtain ⟨rfl, lost⟩ := Prod.mk.inj (Option.some.inj sent)
      obtain ⟨line, read⟩ := reads _ _ "hi" [] packet _ 100 ⟨none, 100⟩ rfl rfl rfl made (by omega)
        (by decide) (by decide) (by decide)
      dsimp only at lost
      rw [read] at lost
      cases lost

end Toy

end UltimateEnigma.KeyStore
