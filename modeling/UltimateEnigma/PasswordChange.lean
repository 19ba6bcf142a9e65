import UltimateEnigma.LoadReadings

set_option autoImplicit false

namespace UltimateEnigma

open Py

namespace KeyStore

/-- The secrets that a key store holds. -/
inductive Secret where
  | globalSecret
  | privateKey
  | legacyKey
  | kyberKey
  | x25519Key
  | ed25519Key
  | dilithiumKey
  | sharedSecret (friend : String)
  | ecdhKey (friend : String)
  | ratchetStorageKey
deriving DecidableEq, Repr

section Secrets

variable {Priv Pub Pem : Type}

/-- What a store holds in memory; `get_friend_secret` takes the first entry of the name. -/
def secretOf (store : KeyStore Priv Pub) : Secret → Option (Priv ⊕ Bytes)
  | .globalSecret => store.globalSecret.map .inr
  | .privateKey => store.myPriv.map .inl
  | .legacyKey => store.legacyPriv.map .inl
  | .kyberKey => store.myKyberPriv.map .inr
  | .x25519Key => store.cachedPqcBundle.map fun bundle => .inr bundle.x25519Priv
  | .ed25519Key => store.myEdPriv.map .inr
  | .dilithiumKey => store.myDilPriv.map .inr
  | .sharedSecret friend => ((store.friends.lookup friend).bind Prod.snd).map .inr
  | .ecdhKey friend => (store.friendsEcdhPriv.get? friend).map .inr
  | .ratchetStorageKey => store.ratchetStorageKey.map .inr

variable (P : Primitives Priv Pub Pem) (platform : Platform)

/-- The wrapped column of a secret. A signing key counts where its twin is stored too. -/
def wrapperOf (db : Database Pem) : Secret → Option Wrapper
  | .globalSecret => db.secrets .globalSecret
  | .kyberKey => db.secrets .kyberPrivEncrypted
  | .x25519Key => db.secrets .pqcX25519PrivEncrypted
  | .ed25519Key =>
      if platform.hybridSigAvailable && (db.secrets .dilithiumPrivEncrypted).isSome then
        db.secrets .ed25519PrivEncrypted
      else none
  | .dilithiumKey =>
      if platform.hybridSigAvailable && (db.secrets .ed25519PrivEncrypted).isSome then
        db.secrets .dilithiumPrivEncrypted
      else none
  | .sharedSecret friend => (db.friends.get? friend).bind FriendRow.sharedSecret
  | .ecdhKey friend => (db.friends.get? friend).bind FriendRow.ecdhPrivEncrypted
  | .ratchetStorageKey => db.secrets .ratchetStorageKey
  | .privateKey | .legacyKey => none

/-- The encrypted PEM of a secret. A retired key counts until it expires. -/
def pemOf (db : Database Pem) (now : Rat) : Secret → Option Pem
  | .privateKey => db.keys .privateKeyEncrypted
  | .legacyKey =>
      if now < db.legacyKeyExpiry.getD 0 then db.keys .legacyPrivateKeyEncrypted else none
  | _ => none

/-- The database holds a value of the secret: its column opens to it under some password. -/
def Holds (db : Database Pem) (now : Rat) (secret : Secret) : Priv ⊕ Bytes → Prop
  | .inr plain => ∃ wrapper password, wrapperOf platform db secret = some wrapper ∧
      unwrap P wrapper password = .ok plain
  | .inl priv => ∃ pem password, pemOf db now secret = some pem ∧
      P.pemToPrivkey pem password = .ok priv

/-- A fresh store loads with the new password and finds every secret that was held before; the
TOTP secret opens with it too. -/
def EverySecretSurvives (before after : Database Pem) (newPassword : Bytes) (now : Rat)
    (draws : LoadDraws) : Prop :=
  (∃ loaded : Session Priv Pub Pem,
    (load P platform newPassword now draws).run ⟨{}, after⟩ = (.ok true, loaded) ∧
    ∀ secret value, Holds P platform before now secret value →
      secretOf loaded.store secret = some value) ∧
  ∀ wrapper password plain, before.secrets .totpSecretEncrypted = some wrapper →
    unwrap P wrapper password = .ok plain →
    ∃ rewrapped, after.secrets .totpSecretEncrypted = some rewrapped ∧
      unwrap P rewrapped newPassword = .ok plain

/-- What `change_password` does not wrap anew opens with the new password already, and the store
has the ratchet storage key in memory. The last field is about plain columns that no password
changes: every friend's public keys parse. -/
structure Covered (session : Session Priv Pub Pem) (newPassword : Bytes) (now : Rat) : Prop where
  legacy : ∀ pem, session.db.keys .legacyPrivateKeyEncrypted = some pem →
    now < session.db.legacyKeyExpiry.getD 0 → ∃ priv, P.pemToPrivkey pem newPassword = .ok priv
  pqc : ∀ key, key.IsPqc → ∀ wrapper, session.db.secrets key = some wrapper →
    ∃ plain, unwrap P wrapper newPassword = .ok plain
  hybrid : platform.hybridSigAvailable = true → ∀ edWrapper dilWrapper,
    session.db.secrets .ed25519PrivEncrypted = some edWrapper →
    session.db.secrets .dilithiumPrivEncrypted = some dilWrapper →
    (∃ plain, unwrap P edWrapper newPassword = .ok plain) ∧
      ∃ plain, unwrap P dilWrapper newPassword = .ok plain
  ecdh : ∀ name row wrapper, session.db.friends.get? name = some row →
    row.sharedSecret = none → row.ecdhPrivEncrypted = some wrapper →
    ∃ plain, unwrap P wrapper newPassword = .ok plain
  ratchet : ∀ wrapper, session.db.secrets .ratchetStorageKey = some wrapper →
    match session.store.ratchetStorageKey with
    | none => ∃ plain, unwrap P wrapper newPassword = .ok plain
    | some key => ∃ password, unwrap P wrapper password = .ok key
  publicKeys : ∀ name row, session.db.friends.get? name = some row →
    (∃ pub, P.pemToPubkey row.publicKeyPem = .ok pub) ∧
      ∃ pubs, attemptColumn (row.hybridSigPub platform)
        (fun text => decodeBase64 text >>= parseCombinedPub) = .ok pubs

end Secrets

section Rewrapping

variable {Priv Pub Pem : Type} {P : Primitives Priv Pub Pem} {platform : Platform}

/-- A wrapper opens to one plaintext, whichever password opens it. -/
theorem unwrap_unique (lawful : P.Lawful) {wrapper : Wrapper}
    (wrapped : ∃ plain password entropy, wrapper = wrap P plain password entropy)
    {first second one other : Bytes} (opened : unwrap P wrapper first = .ok one)
    (opened' : unwrap P wrapper second = .ok other) : one = other := by
  obtain ⟨plain, password, entropy, rfl⟩ := wrapped
  rw [unwrap_wrap lawful] at opened opened'
  split at opened
  · split at opened'
    · cases opened
      cases opened'
      rfl
    · cases opened'
  · cases opened

theorem pem_unique (lawful : P.Lawful) {pem : Pem}
    (made : ∃ priv password salt, P.privkeyToEncryptedPem priv password salt = .ok pem)
    {first second : Bytes} {one other : Priv} (opened : P.pemToPrivkey pem first = .ok one)
    (opened' : P.pemToPrivkey pem second = .ok other) : one = other := by
  obtain ⟨priv, password, salt, made⟩ := made
  have only : ∀ {tried : Bytes} {found : Priv}, P.pemToPrivkey pem tried = .ok found →
      found = priv := by
    intro tried found success
    by_cases same : tried = password
    · rw [same, lawful.pem_opens made] at success
      cases success
      rfl
    · obtain ⟨raised, -, refused⟩ := lawful.pem_refuses made same
      rw [refused] at success
      cases success
  rw [only opened, only opened']

/-- A column that was opened with the old password and wrapped under the new one. -/
def Rewraps (P : Primitives Priv Pub Pem) (oldPassword newPassword : Bytes)
    (before after : Option Wrapper) : Prop :=
  match before with
  | none => after = none
  | some wrapper => ∃ plain entropy, unwrap P wrapper oldPassword = .ok plain ∧
      after = some (wrap P plain newPassword entropy)

/-- The column reads with the new password, and gives what was wrapped in it before. -/
def Carries (P : Primitives Priv Pub Pem) (newPassword : Bytes) (before after : Option Wrapper) :
    Prop :=
  ∃ value, unwrapColumn P after newPassword = .ok value ∧
    ∀ wrapper password plain, before = some wrapper →
      unwrap P wrapper password = .ok plain → value = some plain

theorem Rewraps.carries (lawful : P.Lawful) {oldPassword newPassword : Bytes}
    {before after : Option Wrapper} (rewraps : Rewraps P oldPassword newPassword before after)
    (wrapped : ∀ wrapper ∈ before, ∃ plain password entropy,
      wrapper = wrap P plain password entropy) : Carries P newPassword before after := by
  cases before with
  | none =>
      cases rewraps
      exact ⟨none, rfl, fun _ _ _ absent => nomatch absent⟩
  | some wrapper =>
      obtain ⟨plain, entropy, opened, rfl⟩ := rewraps
      refine ⟨some plain, ?_, ?_⟩
      · rw [unwrapColumn, unwrap_wrap lawful, if_pos rfl]
        rfl
      · intro found password other same opened'
        cases same
        rw [unwrap_unique lawful (wrapped wrapper rfl) opened opened']

/-- A column that was left alone carries its secret when the new password opens it. -/
theorem carries_of_opens (lawful : P.Lawful) {newPassword : Bytes} {column : Option Wrapper}
    (wrapped : ∀ wrapper ∈ column, ∃ plain password entropy,
      wrapper = wrap P plain password entropy)
    (opens : ∀ wrapper, column = some wrapper → ∃ plain, unwrap P wrapper newPassword = .ok plain) :
    Carries P newPassword column column := by
  cases column with
  | none => exact ⟨none, rfl, fun _ _ _ absent => nomatch absent⟩
  | some wrapper =>
      obtain ⟨plain, opened⟩ := opens wrapper rfl
      refine ⟨some plain, by rw [unwrapColumn, opened]; rfl, ?_⟩
      intro found password other same opened'
      cases same
      rw [unwrap_unique lawful (wrapped wrapper rfl) opened opened']

theorem rewraps_of_attempt (lawful : P.Lawful) {oldPassword newPassword : Bytes}
    {entropy : Entropy} {wrapper : Wrapper} {made : Option (Bytes × Wrapper)}
    (wrapped : ∃ plain password entropy, wrapper = wrap P plain password entropy)
    (rewrapped : attempt (rewrap P oldPassword newPassword entropy wrapper) = .ok made)
    (column : Option Wrapper) :
    Rewraps P oldPassword newPassword (some wrapper) ((made.map Prod.snd).or column) := by
  cases opened : unwrap P wrapper oldPassword with
  | ok plain =>
      have done : rewrap P oldPassword newPassword entropy wrapper =
          .ok (plain, wrap P plain newPassword entropy) := by
        rw [rewrap, opened]
        rfl
      rw [done] at rewrapped
      cases rewrapped
      exact ⟨plain, entropy, opened, rfl⟩
  | error raised =>
      -- a wrong password raises `InvalidTag`, which the loop does not catch
      have uncaught := attempt_unwrap lawful wrapped oldPassword
      rw [opened, attempt] at uncaught
      have done : rewrap P oldPassword newPassword entropy wrapper = .error raised := by
        rw [rewrap, opened]
        rfl
      rw [done, attempt] at rewrapped
      split at uncaught
      · cases uncaught
      · rename_i passes
        rw [if_neg passes] at rewrapped
        cases rewrapped

/-- A friend's row before and after the change. -/
structure RewrapsRow (P : Primitives Priv Pub Pem) (oldPassword newPassword : Bytes)
    (before after : FriendRow) : Prop where
  publicKeyPem : after.publicKeyPem = before.publicKeyPem
  pqcCombinedPub : after.pqcCombinedPubB64 = before.pqcCombinedPubB64
  hybridSigPub : after.hybridSigPubB64 = before.hybridSigPubB64
  sharedSecret : Rewraps P oldPassword newPassword before.sharedSecret after.sharedSecret
  ecdhPriv : before.sharedSecret ≠ none →
    Rewraps P oldPassword newPassword before.ecdhPrivEncrypted after.ecdhPrivEncrypted
  skipped : before.sharedSecret = none → after = before

theorem rewrapFriend_rewraps (lawful : P.Lawful) {oldPassword newPassword : Bytes}
    {draws : Draws} {name : String} {row after : FriendRow} {plain : Option Bytes}
    (wrapped : row.Wrapped P)
    (rewrapped : rewrapFriend P oldPassword newPassword draws name row = .ok (after, plain)) :
    RewrapsRow P oldPassword newPassword row after := by
  cases shared : row.sharedSecret with
  | none =>
      rw [rewrapFriend, shared] at rewrapped
      cases rewrapped
      refine ⟨rfl, rfl, rfl, ?_, fun some => absurd shared some, fun _ => rfl⟩
      rw [shared]
      rfl
  | some wrapper =>
      rw [rewrapFriend, shared] at rewrapped
      obtain ⟨secret, secret_ok, rewrapped⟩ := ok_of_bind rewrapped
      obtain ⟨ecdhPriv, ecdh_ok, rewrapped⟩ := ok_of_bind rewrapped
      cases rewrapped
      have column : row.hasSharedSecret = true ∧ row.sharedSecretEncrypted = some wrapper := by
        rw [FriendRow.sharedSecret] at shared
        split at shared
        · rename_i has
          exact ⟨has, shared⟩
        · cases shared
      refine ⟨rfl, rfl, rfl, ?_, fun _ => ?_, fun absent => by rw [absent] at shared; cases shared⟩
      · have rewraps := rewraps_of_attempt lawful (wrapped.1 wrapper column.2) secret_ok
          row.sharedSecretEncrypted
        simp only [FriendRow.sharedSecret, column.1, if_true]
        rw [← column.2] at rewraps
        exact rewraps
      · cases ecdh : row.ecdhPrivEncrypted with
        | none =>
            rw [ecdh] at ecdh_ok
            cases ecdh_ok
            rfl
        | some ecdhWrapper =>
            rw [ecdh] at ecdh_ok
            exact rewraps_of_attempt lawful (wrapped.2 ecdhWrapper ecdh) ecdh_ok _

/-- What a successful change makes of the database. -/
structure Changed (P : Primitives Priv Pub Pem) (oldPassword newPassword : Bytes)
    (session : Session Priv Pub Pem) (after : Database Pem) : Prop where
  texts : after.texts = session.db.texts
  expiry : after.legacyKeyExpiry = session.db.legacyKeyExpiry
  legacy : after.keys .legacyPrivateKeyEncrypted = session.db.keys .legacyPrivateKeyEncrypted
  pqc : ∀ key, key.IsPqc → after.secrets key = session.db.secrets key
  ed25519 : after.secrets .ed25519PrivEncrypted = session.db.secrets .ed25519PrivEncrypted
  dilithium : after.secrets .dilithiumPrivEncrypted = session.db.secrets .dilithiumPrivEncrypted
  globalSecret : Rewraps P oldPassword newPassword (session.db.secrets .globalSecret)
    (after.secrets .globalSecret)
  totp : Rewraps P oldPassword newPassword (session.db.secrets .totpSecretEncrypted)
    (after.secrets .totpSecretEncrypted)
  privateKey : ∃ pem priv rewrapped salt, session.db.keys .privateKeyEncrypted = some pem ∧
    P.pemToPrivkey pem oldPassword = .ok priv ∧
    P.privkeyToEncryptedPem priv newPassword salt = .ok rewrapped ∧
    after.keys .privateKeyEncrypted = some rewrapped
  ratchet : match session.store.ratchetStorageKey with
    | none => after.secrets .ratchetStorageKey = session.db.secrets .ratchetStorageKey
    | some key => ∃ entropy, after.secrets .ratchetStorageKey =
        some (wrap P key newPassword entropy)
  known : ∀ name row, session.db.friends.get? name = some row → ∃ rewrapped,
    after.friends.get? name = some rewrapped ∧ RewrapsRow P oldPassword newPassword row rewrapped
  unknown : ∀ name, session.db.friends.get? name = none → after.friends.get? name = none

/-- The rows of a friend after the loop. -/
theorem rewrapSecrets_friends (lawful : P.Lawful) {oldPassword newPassword : Bytes}
    {draws : Draws} {db : Database Pem} (sound : Sound P db) {rewrapped : Rewrapped Priv Pem}
    (friends_ok : rewrapFriends P oldPassword newPassword draws db.friends.items db.friends .empty =
      .ok (rewrapped.friends, rewrapped.friendSecrets)) :
    (∀ name row, db.friends.get? name = some row → ∃ after,
      rewrapped.friends.get? name = some after ∧
        RewrapsRow P oldPassword newPassword row after) ∧
    ∀ name, db.friends.get? name = none → rewrapped.friends.get? name = none := by
  obtain ⟨others, inside⟩ := rewrapFriends_ok db.friends.nodup friends_ok
  constructor
  · intro name row stored
    obtain ⟨after, plain, one_ok, found⟩ := inside name row (Dict.mem_of_get? stored)
    exact ⟨after, found, rewrapFriend_rewraps lawful (sound.friends name row stored) one_ok⟩
  · intro name missing
    rw [others name ((Dict.get?_eq_none_iff db.friends name).mp missing), missing]

theorem rewriteTotp_other (P : Primitives Priv Pub Pem) (newPassword : Bytes) (draws : Draws)
    (totp : Option Bytes)
    (db : Database Pem) :
    (rewriteTotp P newPassword draws totp db).texts = db.texts ∧
    (rewriteTotp P newPassword draws totp db).keys = db.keys ∧
    (rewriteTotp P newPassword draws totp db).legacyKeyExpiry = db.legacyKeyExpiry ∧
    (rewriteTotp P newPassword draws totp db).friends = db.friends ∧
    ∀ key, key ≠ .totpSecretEncrypted →
      (rewriteTotp P newPassword draws totp db).secrets key = db.secrets key := by
  cases totp with
  | none => exact ⟨rfl, rfl, rfl, rfl, fun _ _ => rfl⟩
  | some plain => exact ⟨rfl, rfl, rfl, rfl, fun _ apart => Function.update_of_ne apart _ _⟩

theorem rewriteRatchetKey_other (P : Primitives Priv Pub Pem) (newPassword : Bytes) (draws : Draws)
    (key : Option Bytes)
    (db : Database Pem) :
    (rewriteRatchetKey P newPassword draws key db).texts = db.texts ∧
    (rewriteRatchetKey P newPassword draws key db).keys = db.keys ∧
    (rewriteRatchetKey P newPassword draws key db).legacyKeyExpiry = db.legacyKeyExpiry ∧
    (rewriteRatchetKey P newPassword draws key db).friends = db.friends ∧
    ∀ setting, setting ≠ .ratchetStorageKey →
      (rewriteRatchetKey P newPassword draws key db).secrets setting = db.secrets setting := by
  cases key with
  | none => exact ⟨rfl, rfl, rfl, rfl, fun _ _ => rfl⟩
  | some plain => exact ⟨rfl, rfl, rfl, rfl, fun _ apart => Function.update_of_ne apart _ _⟩

theorem rewrittenTotp (lawful : P.Lawful) {oldPassword newPassword : Bytes} {draws : Draws}
    {db before : Database Pem} (sound : Sound P before) {totp : Option Bytes}
    (same : db.secrets .totpSecretEncrypted = before.secrets .totpSecretEncrypted)
    (totp_ok : attemptColumn (before.secrets .totpSecretEncrypted) (unwrap P · oldPassword) =
      .ok totp) :
    Rewraps P oldPassword newPassword (before.secrets .totpSecretEncrypted)
      ((rewriteTotp P newPassword draws totp db).secrets .totpSecretEncrypted) := by
  rw [attemptColumn_unwrap lawful (sound.wrapped .totpSecretEncrypted) oldPassword] at totp_ok
  rcases unwrapColumn_ok_iff.mp totp_ok with ⟨absent, rfl⟩ | ⟨wrapper, plain, stored, opened, rfl⟩
  · rw [absent] at same ⊢
    exact same
  · rw [stored] at same ⊢
    exact ⟨plain, _, opened, by
      simp only [rewriteTotp, Database.updateSecret, Function.update_self, same, Option.map_some]
      rfl⟩

theorem changePassword_run_ok {oldPassword newPassword : Bytes} {draws : Draws}
    {session : Session Priv Pub Pem} {rewrapped : Rewrapped Priv Pem}
    (made : rewrapSecrets P oldPassword newPassword draws session.db = .ok rewrapped) :
    (changePassword P oldPassword newPassword draws).run session =
      (.ok true, ⟨changedStore rewrapped session.store,
        changedRows P newPassword draws rewrapped session.store.ratchetStorageKey session.db⟩) := by
  rw [changePassword, Call.run_mapError, Call.run_read_bind, made]
  rfl

theorem changePassword_run_error {oldPassword newPassword : Bytes} {draws : Draws}
    {session : Session Priv Pub Pem} {raised : Raised}
    (failed : (rewrapSecrets P oldPassword newPassword draws session.db :
      Except _ (Rewrapped Priv Pem)) = .error raised) :
    ∃ passed, (changePassword P oldPassword newPassword draws).run session =
      (.error passed, session) := by
  refine ⟨valueOrTypeAs "change_password failed: " raised, ?_⟩
  rw [changePassword, Call.run_mapError, Call.run_read_bind, failed]
  rfl

theorem changePassword_changed (lawful : P.Lawful) {oldPassword newPassword : Bytes}
    {draws : Draws} {session after : Session Priv Pub Pem} (sound : Sound P session.db)
    (changed : (changePassword P oldPassword newPassword draws).run session = (.ok true, after)) :
    Changed P oldPassword newPassword session after.db := by
  rw [changePassword, Call.run_mapError_ok_iff, Call.run_read_bind] at changed
  obtain ⟨rewrapped, _, lifted, changed⟩ := Call.ok_of_run_bind changed
  obtain ⟨success, same⟩ := Call.ok_of_run_lift lifted
  rw [same] at changed
  cases changed
  obtain ⟨⟨wrapper, stored, opened⟩, ⟨pem, present, priv_ok⟩, friends_ok, totp_ok, made⟩ :=
    rewrapSecrets_ok success
  obtain ⟨known, unknown⟩ := rewrapSecrets_friends lawful sound friends_ok
  -- the settings before the TOTP secret and the ratchet storage key are written
  let middle := ({ session.db with friends := rewrapped.friends }.updateSecret .globalSecret
    (wrap P rewrapped.globalSecret newPassword (draws.secret .globalSecret))).updateKey
      .privateKeyEncrypted rewrapped.pem
  let second := rewriteTotp P newPassword draws rewrapped.totp middle
  obtain ⟨texts, keys, expiry, friends, secrets⟩ :=
    rewriteTotp_other P newPassword draws rewrapped.totp middle
  obtain ⟨texts', keys', expiry', friends', secrets'⟩ :=
    rewriteRatchetKey_other P newPassword draws session.store.ratchetStorageKey second
  have untouched : ∀ key, key ≠ .globalSecret → key ≠ .totpSecretEncrypted →
      key ≠ .ratchetStorageKey →
      (rewriteRatchetKey P newPassword draws session.store.ratchetStorageKey second).secrets key =
        session.db.secrets key := by
    intro key notGlobal notTotp notRatchet
    rw [secrets' key notRatchet, secrets key notTotp]
    exact Function.update_of_ne notGlobal _ _
  refine ⟨texts'.trans texts, expiry'.trans expiry, ?_, ?_, untouched _ (by decide) (by decide) (by decide),
    untouched _ (by decide) (by decide) (by decide), ?_, ?_, ?_, ?_, ?_, ?_⟩
  · refine (congrFun (keys'.trans keys) .legacyPrivateKeyEncrypted).trans ?_
    simp only [middle, Database.updateKey, Database.updateSecret, Function.update_apply,
      reduceCtorEq, if_false]
  · rintro key (rfl | rfl)
    · exact untouched _ (by decide) (by decide) (by decide)
    · exact untouched _ (by decide) (by decide) (by decide)
  · rw [stored]
    refine ⟨rewrapped.globalSecret, draws.secret .globalSecret, attempt_eq_some_iff.mp opened, ?_⟩
    refine ((secrets' .globalSecret (by decide)).trans (secrets .globalSecret (by decide))).trans ?_
    simp only [middle, Database.updateSecret, Database.updateKey, Function.update_self, stored,
      Option.map_some]
  · have kept : middle.secrets .totpSecretEncrypted = session.db.secrets .totpSecretEncrypted := by
      simp only [middle, Database.updateKey, Database.updateSecret, Function.update_apply,
        reduceCtorEq, if_false]
    have rewraps : Rewraps P oldPassword newPassword (session.db.secrets .totpSecretEncrypted)
        (second.secrets .totpSecretEncrypted) := rewrittenTotp lawful sound kept totp_ok
    rw [← secrets' .totpSecretEncrypted (by decide)] at rewraps
    exact rewraps
  · refine ⟨pem, rewrapped.priv, rewrapped.pem, _, present, priv_ok, made, ?_⟩
    refine (congrFun (keys'.trans keys) .privateKeyEncrypted).trans ?_
    simp only [middle, Database.updateKey, Database.updateSecret, Function.update_self, present,
      Option.map_some]
  · cases held : session.store.ratchetStorageKey with
    | none =>
        have kept : middle.secrets .ratchetStorageKey = session.db.secrets .ratchetStorageKey := by
          simp only [middle, Database.updateKey, Database.updateSecret, Function.update_apply,
            reduceCtorEq, if_false]
        simp only [changedRows, rewriteRatchetKey]
        exact (secrets .ratchetStorageKey (by decide)).trans kept
    | some key =>
        refine ⟨draws.secret .ratchetStorageKey, ?_⟩
        simp only [changedRows, rewriteRatchetKey, Database.setSecret, Function.update_self]
  · intro name row found
    obtain ⟨after, after_found, rewraps⟩ := known name row found
    exact ⟨after, (congrArg (Dict.get? · name) (friends'.trans friends)).trans after_found, rewraps⟩
  · intro name missing
    exact (congrArg (Dict.get? · name) (friends'.trans friends)).trans (unknown name missing)

section Loaded

variable {db : Database Pem} {readings : Readings Priv Pub}

variable (P platform) in
theorem secretOf_store (db : Database Pem) (readings : Readings Priv Pub)
    (before : KeyStore Priv Pub) (key : Bytes) :
    let store := withRatchetKey (readings.store P platform db before) key
    secretOf store .globalSecret = readings.globalSecret.map .inr ∧
    secretOf store .privateKey = some (.inl readings.priv) ∧
    secretOf store .legacyKey = readings.legacy.map .inl ∧
    secretOf store .kyberKey = readings.kyber.map .inr ∧
    secretOf store .x25519Key = readings.x25519.map .inr ∧
    secretOf store .ed25519Key = (readings.hybrid.map Prod.fst).map .inr ∧
    secretOf store .dilithiumKey = (readings.hybrid.map Prod.snd).map .inr ∧
    secretOf store .ratchetStorageKey = some (.inr key) := by
  obtain ⟨-, priv, legacy, globalSecret, kyber, -, bundle, ed, dil, -⟩ :=
    Readings.attributes P platform db readings before
  refine ⟨congrArg (Option.map _) globalSecret, congrArg (Option.map _) priv,
    congrArg (Option.map _) legacy, congrArg (Option.map _) kyber, ?_,
    congrArg (Option.map _) ed, congrArg (Option.map _) dil, rfl⟩
  exact (congrArg (Option.map _) bundle).trans (Option.map_map _ _ _)

/-- What the loaded store holds of a friend is what his row gave. -/
theorem friend_store (before : KeyStore Priv Pub) (key : Bytes) {password : Bytes}
    (reads : readFriends P platform password db.friends.items = .ok readings.friends)
    {name : String} {row : FriendRow} (stored : db.friends.get? name = some row) :
    ∃ loaded, readFriend P platform password row = .ok loaded ∧
      secretOf (withRatchetKey (readings.store P platform db before) key) (.sharedSecret name) =
        loaded.secret.map .inr ∧
      secretOf (withRatchetKey (readings.store P platform db before) key) (.ecdhKey name) =
        loaded.ecdhPriv.map .inr := by
  obtain ⟨loaded, read, named⟩ := (readFriends_named reads name).2 row stored
  have unique : (readings.friends.map fun friend => friend.1.1).Nodup := by
    rw [readFriends_names reads]
    exact db.friends.nodup
  refine ⟨loaded, read, ?_, ?_⟩
  · have list := Readings.lookup_store P platform db readings before name
    rw [named] at list
    exact congrArg (fun found => (Option.bind found Prod.snd).map Sum.inr) list
  · have ecdh := Readings.get?_store P platform KeyStore.friendsEcdhPriv
      (fun _ loaded => loaded.ecdhPriv) (fun _ _ _ => rfl) (fun _ => rfl) db unique before name
    rw [named] at ecdh
    exact congrArg (Option.map Sum.inr) ecdh

end Loaded

section Change

variable {session after : Session Priv Pub Pem} {oldPassword newPassword : Bytes}
variable {now : Rat} {draws : LoadDraws}

theorem RewrapsRow.hybridSigPub_eq {before after : FriendRow}
    (rewraps : RewrapsRow P oldPassword newPassword before after) (platform : Platform) :
    after.hybridSigPub platform = before.hybridSigPub platform := by
  simp only [FriendRow.hybridSigPub, rewraps.hybridSigPub]

theorem covered_of_survives (lawful : P.Lawful) (sound : Sound P session.db)
    (soundAfter : Sound P after.db)
    (changed : Changed P oldPassword newPassword session after.db)
    (survives : EverySecretSurvives P platform session.db after.db newPassword now draws) :
    Covered P platform session newPassword now := by
  obtain ⟨⟨loaded, success, kept⟩, -⟩ := survives
  obtain ⟨readings, key, reads, key_read, rfl⟩ :=
    (load_true_iff lawful (by exact soundAfter)).mp success
  obtain ⟨-, -, legacyKept, -, -, -, -, ratchetKept⟩ :=
    secretOf_store P platform after.db readings {} key
  have friendReads : ∀ name row, session.db.friends.get? name = some row → ∃ rewrapped loaded,
      RewrapsRow P oldPassword newPassword row rewrapped ∧ rewrapped.Wrapped P ∧
      readFriend P platform newPassword rewrapped = .ok loaded := by
    intro name row stored
    obtain ⟨rewrapped, found, rewraps⟩ := changed.known name row stored
    obtain ⟨loaded, read⟩ := readFriends_ok_iff.mp ⟨_, reads.friends⟩ _ (Dict.mem_of_get? found)
    exact ⟨rewrapped, loaded, rewraps, soundAfter.friends name rewrapped found, read⟩
  refine ⟨?_, ?_, ?_, ?_, ?_, ?_⟩
  · intro pem stored unexpired
    obtain ⟨priv, password, salt, made⟩ := sound.keys _ pem stored
    have held := kept .legacyKey (.inl priv)
      ⟨pem, password, by rw [pemOf, if_pos unexpired, stored], lawful.pem_opens made⟩
    have read : readings.legacy = some priv := by
      rw [legacyKept] at held
      cases legacy : readings.legacy with
      | none => rw [legacy] at held; cases held
      | some found => rw [legacy] at held; cases held; rfl
    have opened := reads.legacy
    rw [readLegacyKey, changed.legacy, stored, changed.expiry] at opened
    simp only [unexpired, if_true, read] at opened
    exact ⟨priv, attempt_eq_some_iff.mp opened⟩
  · rintro key (rfl | rfl) wrapper stored
    · have opened := reads.kyber
      rw [changed.pqc _ (.inl rfl), stored] at opened
      rcases unwrapColumn_ok_iff.mp opened with ⟨absent, -⟩ | ⟨_, plain, same, opened, -⟩
      · cases absent
      · cases same
        exact ⟨plain, opened⟩
    · have opened := reads.x25519
      rw [changed.pqc _ (.inr rfl), stored] at opened
      rcases unwrapColumn_ok_iff.mp opened with ⟨absent, -⟩ | ⟨_, plain, same, opened, -⟩
      · cases absent
      · cases same
        exact ⟨plain, opened⟩
  · intro available edWrapper dilWrapper edStored dilStored
    have opened := reads.hybrid
    rw [readHybridKeys, changed.ed25519, changed.dilithium, edStored, dilStored] at opened
    simp only [available, if_true] at opened
    obtain ⟨edPriv, ed_ok, opened⟩ := ok_of_bind opened
    obtain ⟨dilPriv, dil_ok, opened⟩ := ok_of_bind opened
    exact ⟨⟨edPriv, ed_ok⟩, dilPriv, dil_ok⟩
  · intro name row wrapper stored unshared ecdh
    obtain ⟨rewrapped, loaded, rewraps, wrapped, read⟩ := friendReads name row stored
    have same := rewraps.skipped unshared
    subst same
    have opened := ((readFriend_ok_iff lawful wrapped).mp read).2.2.1
    rw [ecdh] at opened
    rcases unwrapColumn_ok_iff.mp opened with ⟨absent, -⟩ | ⟨_, plain, same, opened, -⟩
    · cases absent
    · cases same
      exact ⟨plain, opened⟩
  · intro wrapper stored
    obtain ⟨plain, password, entropy, -, rfl⟩ := sound.secrets _ wrapper stored
    have own : unwrap P (wrap P plain password entropy) password = .ok plain := by
      rw [unwrap_wrap lawful, if_pos rfl]
    have held := kept .ratchetStorageKey (.inr plain) ⟨_, password, stored, own⟩
    rw [ratchetKept] at held
    have same : key = plain := Sum.inr.inj (Option.some.inj held)
    rw [same] at key_read
    have ratchet := changed.ratchet
    cases memory : session.store.ratchetStorageKey with
    | none =>
        rw [memory] at ratchet
        simp only at ratchet
        rw [readRatchetKey, ratchet, stored] at key_read
        cases opened : unwrap P (wrap P plain password entropy) newPassword with
        | ok found => exact ⟨found, rfl⟩
        | error raised =>
            rw [unwrapColumn, opened] at key_read
            cases key_read
    | some inMemory =>
        rw [memory] at ratchet
        obtain ⟨fresh, ratchet⟩ := ratchet
        rw [readRatchetKey, ratchet, unwrapColumn, unwrap_wrap lawful, if_pos rfl] at key_read
        cases key_read
        exact ⟨password, own⟩
  · intro name row stored
    obtain ⟨rewrapped, loaded, rewraps, wrapped, read⟩ := friendReads name row stored
    obtain ⟨pub_ok, -, -, -, hybrid_ok⟩ := (readFriend_ok_iff lawful wrapped).mp read
    rw [rewraps.publicKeyPem] at pub_ok
    rw [rewraps.hybridSigPub_eq platform] at hybrid_ok
    exact ⟨⟨_, pub_ok⟩, _, hybrid_ok⟩

/-- The rows of the friends read, and give the secrets that the rows before gave. -/
theorem RewrapsRow.reads (lawful : P.Lawful) {before after : FriendRow}
    (rewraps : RewrapsRow P oldPassword newPassword before after) (wrapped : before.Wrapped P)
    (wrappedAfter : after.Wrapped P)
    (publicKeys : (∃ pub, P.pemToPubkey before.publicKeyPem = .ok pub) ∧
      ∃ pubs, attemptColumn (before.hybridSigPub platform)
        (fun text => decodeBase64 text >>= parseCombinedPub) = .ok pubs)
    (ecdh : ∀ wrapper, before.sharedSecret = none → before.ecdhPrivEncrypted = some wrapper →
      ∃ plain, unwrap P wrapper newPassword = .ok plain) :
    ∃ loaded, readFriend P platform newPassword after = .ok loaded ∧
      (∀ wrapper password plain, before.sharedSecret = some wrapper →
        unwrap P wrapper password = .ok plain → loaded.secret = some plain) ∧
      ∀ wrapper password plain, before.ecdhPrivEncrypted = some wrapper →
        unwrap P wrapper password = .ok plain → loaded.ecdhPriv = some plain := by
  have shared : ∀ wrapper ∈ before.sharedSecret, ∃ plain password entropy,
      wrapper = wrap P plain password entropy := by
    intro wrapper stored
    rw [FriendRow.sharedSecret] at stored
    split at stored
    · exact wrapped.1 wrapper stored
    · cases stored
  obtain ⟨secret, secret_ok, secret_kept⟩ := rewraps.sharedSecret.carries lawful shared
  have ecdhCarries : Carries P newPassword before.ecdhPrivEncrypted after.ecdhPrivEncrypted := by
    by_cases unshared : before.sharedSecret = none
    · rw [rewraps.skipped unshared]
      exact carries_of_opens lawful wrapped.2 fun wrapper => ecdh wrapper unshared
    · exact (rewraps.ecdhPriv unshared).carries lawful wrapped.2
  obtain ⟨ecdhPriv, ecdh_ok, ecdh_kept⟩ := ecdhCarries
  obtain ⟨⟨pub, pub_ok⟩, hybridPubs, hybrid_ok⟩ := publicKeys
  obtain ⟨pqcPub, pqc_ok⟩ := attemptColumn_decodeBase64 (nonempty after.pqcCombinedPubB64)
  rw [← rewraps.publicKeyPem] at pub_ok
  rw [← rewraps.hybridSigPub_eq platform] at hybrid_ok
  exact ⟨⟨pub, secret, ecdhPriv, pqcPub, hybridPubs⟩, (readFriend_ok_iff lawful wrappedAfter).mpr
    ⟨pub_ok, secret_ok, ecdh_ok, pqc_ok, hybrid_ok⟩, secret_kept, ecdh_kept⟩

/-- The legacy key reads, and is the one that was stored before. -/
theorem readLegacyKey_carries (lawful : P.Lawful) (sound : Sound P session.db)
    (changed : Changed P oldPassword newPassword session after.db)
    (covered : Covered P platform session newPassword now) :
    ∃ legacy, readLegacyKey P after.db newPassword now = .ok legacy ∧
      ∀ pem password priv, pemOf session.db now .legacyKey = some pem →
        P.pemToPrivkey pem password = .ok priv → legacy = some priv := by
  rw [readLegacyKey, changed.legacy, changed.expiry, pemOf]
  cases stored : session.db.keys .legacyPrivateKeyEncrypted with
  | none =>
      refine ⟨none, rfl, fun pem _ _ held => ?_⟩
      split at held <;> cases held
  | some pem =>
      by_cases unexpired : now < session.db.legacyKeyExpiry.getD 0
      · obtain ⟨priv, opened⟩ := covered.legacy pem stored unexpired
        simp only [unexpired, if_true]
        refine ⟨some priv, attempt_eq_some_iff.mpr opened, fun found _ other held opened' => ?_⟩
        cases held
        rw [pem_unique lawful (sound.keys _ pem stored) opened opened']
      · simp only [unexpired, if_false]
        exact ⟨none, rfl, fun _ _ _ held => by cases held⟩

/-- The signing keys read, and are the ones that were stored before. -/
theorem readHybridKeys_carries (lawful : P.Lawful) (sound : Sound P session.db)
    (changed : Changed P oldPassword newPassword session after.db)
    (covered : Covered P platform session newPassword now) :
    ∃ hybrid, readHybridKeys P platform after.db newPassword = .ok hybrid ∧
      (∀ wrapper password plain, wrapperOf platform session.db .ed25519Key = some wrapper →
        unwrap P wrapper password = .ok plain → hybrid.map Prod.fst = some plain) ∧
      ∀ wrapper password plain, wrapperOf platform session.db .dilithiumKey = some wrapper →
        unwrap P wrapper password = .ok plain → hybrid.map Prod.snd = some plain := by
  rw [readHybridKeys, changed.ed25519, changed.dilithium, wrapperOf, wrapperOf]
  cases available : platform.hybridSigAvailable with
  | false =>
      refine ⟨none, ?_, fun _ _ _ held => (by simp at held), fun _ _ _ held => (by simp at held)⟩
      split <;> rfl
  | true =>
      cases edStored : session.db.secrets .ed25519PrivEncrypted with
      | none => exact ⟨none, rfl, fun _ _ _ held => (by simp at held),
          fun _ _ _ held => (by simp at held)⟩
      | some edWrapper =>
          cases dilStored : session.db.secrets .dilithiumPrivEncrypted with
          | none => exact ⟨none, rfl, fun _ _ _ held => (by simp at held),
              fun _ _ _ held => (by simp at held)⟩
          | some dilWrapper =>
              obtain ⟨⟨edPriv, ed_ok⟩, dilPriv, dil_ok⟩ :=
                covered.hybrid available edWrapper dilWrapper edStored dilStored
              refine ⟨some (edPriv, dilPriv), ?_, ?_, ?_⟩
              · simp only [if_true, ed_ok, dil_ok]
                rfl
              · intro wrapper password plain held opened
                cases held
                rw [unwrap_unique lawful (sound.wrapped _ edWrapper edStored) opened ed_ok]
                rfl
              · intro wrapper password plain held opened
                cases held
                rw [unwrap_unique lawful (sound.wrapped _ dilWrapper dilStored) opened dil_ok]
                rfl

/-- The ratchet storage key reads, and is the one that was stored before. -/
theorem readRatchetKey_carries (draws : LoadDraws) (lawful : P.Lawful) (sound : Sound P session.db)
    (changed : Changed P oldPassword newPassword session after.db)
    (covered : Covered P platform session newPassword now) :
    ∃ key, readRatchetKey P after.db newPassword draws = .ok key ∧
      ∀ wrapper password plain, session.db.secrets .ratchetStorageKey = some wrapper →
        unwrap P wrapper password = .ok plain → key = plain := by
  have ratchet := changed.ratchet
  have carried := covered.ratchet
  cases memory : session.store.ratchetStorageKey with
  | none =>
      rw [memory] at ratchet carried
      obtain ⟨value, value_ok, kept⟩ :=
        carries_of_opens lawful (sound.wrapped .ratchetStorageKey) carried
      refine ⟨value.getD draws.ratchetKey, ?_, ?_⟩
      · rw [readRatchetKey, ratchet, value_ok]
        rfl
      · intro wrapper password plain stored opened
        rw [kept wrapper password plain stored opened]
        rfl
  | some key =>
      rw [memory] at ratchet carried
      obtain ⟨entropy, ratchet⟩ := ratchet
      refine ⟨key, ?_, ?_⟩
      · rw [readRatchetKey, ratchet, unwrapColumn, unwrap_wrap lawful, if_pos rfl]
        rfl
      · intro wrapper password plain stored opened
        obtain ⟨own, opened'⟩ := carried wrapper stored
        exact unwrap_unique lawful (sound.wrapped _ wrapper stored) opened' opened

/-- What the friends' rows of the database before give when those of the one after are read. -/
def FriendsCarry (P : Primitives Priv Pub Pem) (platform : Platform) (newPassword : Bytes)
    (before after : Database Pem) : Prop :=
  ∀ name row, before.friends.get? name = some row →
    ∃ rewrapped, after.friends.get? name = some rewrapped ∧
      ∃ loaded, readFriend P platform newPassword rewrapped = .ok loaded ∧
        (∀ wrapper password plain, row.sharedSecret = some wrapper →
          unwrap P wrapper password = .ok plain → loaded.secret = some plain) ∧
        ∀ wrapper password plain, row.ecdhPrivEncrypted = some wrapper →
          unwrap P wrapper password = .ok plain → loaded.ecdhPriv = some plain

theorem friends_carry (lawful : P.Lawful) (sound : Sound P session.db)
    (soundAfter : Sound P after.db)
    (changed : Changed P oldPassword newPassword session after.db)
    (covered : Covered P platform session newPassword now) :
    FriendsCarry P platform newPassword session.db after.db ∧
      ∃ friends, readFriends P platform newPassword after.db.friends.items = .ok friends := by
  have friendReads : FriendsCarry P platform newPassword session.db after.db := by
    intro name row stored
    obtain ⟨rewrapped, found, rewraps⟩ := changed.known name row stored
    exact ⟨rewrapped, found, rewraps.reads lawful (sound.friends name row stored)
      (soundAfter.friends name rewrapped found) (covered.publicKeys name row stored)
      (covered.ecdh name row · stored)⟩
  have everyRow : ∀ item ∈ after.db.friends.items,
      ∃ loaded, readFriend P platform newPassword item.2 = .ok loaded := by
    rintro ⟨name, rewrapped⟩ member
    have found := Dict.get?_of_mem after.db.friends member
    cases stored : session.db.friends.get? name with
    | none =>
        rw [changed.unknown name stored] at found
        cases found
    | some row =>
        obtain ⟨same, same_found, loaded, read, -⟩ := friendReads name row stored
        rw [found] at same_found
        cases same_found
        exact ⟨loaded, read⟩
  exact ⟨friendReads, readFriends_ok_iff.mpr everyRow⟩

theorem survives_of_covered (lawful : P.Lawful) (sound : Sound P session.db)
    (soundAfter : Sound P after.db)
    (changed : Changed P oldPassword newPassword session after.db)
    (covered : Covered P platform session newPassword now) :
    EverySecretSurvives P platform session.db after.db newPassword now draws := by
  obtain ⟨pub, pub_stored⟩ := soundAfter.publicKey
  obtain ⟨pem, priv, renewed, salt, priv_stored, priv_ok, made, renewed_stored⟩ :=
    changed.privateKey
  obtain ⟨legacy, legacy_ok, legacy_kept⟩ := readLegacyKey_carries lawful sound changed covered
  obtain ⟨globalSecret, global_ok, global_kept⟩ :=
    changed.globalSecret.carries lawful (sound.wrapped _)
  have pqcCarries : ∀ key, key.IsPqc →
      Carries P newPassword (session.db.secrets key) (after.db.secrets key) := by
    intro key isPqc
    rw [changed.pqc key isPqc]
    exact carries_of_opens lawful (sound.wrapped key) (covered.pqc key isPqc)
  obtain ⟨kyber, kyber_ok, kyber_kept⟩ := pqcCarries .kyberPrivEncrypted (.inl rfl)
  obtain ⟨x25519, x25519_ok, x25519_kept⟩ := pqcCarries .pqcX25519PrivEncrypted (.inr rfl)
  obtain ⟨hybrid, hybrid_ok, ed_kept, dil_kept⟩ :=
    readHybridKeys_carries lawful sound changed covered
  obtain ⟨key, key_ok, key_kept⟩ :=
    readRatchetKey_carries draws lawful sound changed covered
  obtain ⟨friendReads, friends, friends_ok⟩ := friends_carry lawful sound soundAfter changed covered
  let readings : Readings Priv Pub := ⟨pub, priv, legacy, globalSecret, kyber, x25519, hybrid, friends⟩
  have reads : Reads P platform after.db newPassword now readings := by
    refine ⟨⟨_, pub_stored, lawful.pubkey_round pub⟩, ⟨renewed, renewed_stored, ?_⟩, legacy_ok,
      global_ok, kyber_ok, x25519_ok, hybrid_ok, friends_ok⟩
    exact lawful.pem_opens made
  obtain ⟨globalStored, privStored, legacyStored, kyberStored, x25519Stored, edStored, dilStored,
    ratchetStored⟩ := secretOf_store P platform after.db readings {} key
  constructor
  · refine ⟨_, (load_true_iff lawful (by exact soundAfter)).mpr
      ⟨readings, key, reads, key_ok, rfl⟩, fun secret value held => ?_⟩
    cases value with
    | inl held_priv =>
        obtain ⟨found, password, stored, opened⟩ := held
        cases secret with
        | privateKey =>
            rw [privStored]
            rw [pemOf, priv_stored] at stored
            cases stored
            rw [pem_unique lawful (sound.keys _ pem priv_stored) opened priv_ok]
        | legacyKey =>
            exact legacyStored.trans
              (congrArg (Option.map Sum.inl) (legacy_kept found password held_priv stored opened))
        | _ => cases stored
    | inr plain =>
        obtain ⟨wrapper, password, stored, opened⟩ := held
        cases secret with
        | globalSecret =>
            exact globalStored.trans
              (congrArg (Option.map Sum.inr) (global_kept wrapper password plain stored opened))
        | kyberKey =>
            exact kyberStored.trans
              (congrArg (Option.map Sum.inr) (kyber_kept wrapper password plain stored opened))
        | x25519Key =>
            exact x25519Stored.trans
              (congrArg (Option.map Sum.inr) (x25519_kept wrapper password plain stored opened))
        | ed25519Key =>
            exact edStored.trans
              (congrArg (Option.map Sum.inr) (ed_kept wrapper password plain stored opened))
        | dilithiumKey =>
            exact dilStored.trans
              (congrArg (Option.map Sum.inr) (dil_kept wrapper password plain stored opened))
        | ratchetStorageKey =>
            rw [ratchetStored, key_kept wrapper password plain stored opened]
        | sharedSecret name =>
            obtain ⟨row, row_stored, column⟩ := Option.bind_eq_some_iff.mp stored
            obtain ⟨rewrapped, found, loaded, read, secret_kept, -⟩ :=
              friendReads name row row_stored
            obtain ⟨same, same_read, secret_found, -⟩ :=
              friend_store {} key reads.friends found
            rw [read] at same_read
            cases same_read
            rw [secret_found, secret_kept wrapper password plain column opened]
            rfl
        | ecdhKey name =>
            obtain ⟨row, row_stored, column⟩ := Option.bind_eq_some_iff.mp stored
            obtain ⟨rewrapped, found, loaded, read, -, ecdh_kept⟩ :=
              friendReads name row row_stored
            obtain ⟨same, same_read, -, ecdh_found⟩ :=
              friend_store {} key reads.friends found
            rw [read] at same_read
            cases same_read
            rw [ecdh_found, ecdh_kept wrapper password plain column opened]
            rfl
        | _ => cases stored
  · intro wrapper password plain stored opened
    obtain ⟨value, value_ok, kept⟩ := changed.totp.carries lawful (sound.wrapped _)
    rw [kept wrapper password plain stored opened] at value_ok
    exact unwrapColumn_some_iff.mp value_ok

/-- After a successful `change_password` every secret survives, and a fresh store loads, exactly
when what the change passes over opens with the new password. -/
theorem change_password_keeps_secrets_iff (lawful : P.Lawful)
    (reachable : (machine P platform).Reachable (fun _ _ => True) session) {wrappers : Draws}
    (changed : (changePassword P oldPassword newPassword wrappers).run session =
      (.ok true, after)) :
    EverySecretSurvives P platform session.db after.db newPassword now draws ↔
      Covered P platform session newPassword now := by
  have sound : Sound P session.db := reachable_sound reachable
  have soundAfter := changePassword_sound sound oldPassword newPassword wrappers
  rw [changed] at soundAfter
  have what := changePassword_changed lawful sound changed
  exact ⟨covered_of_survives lawful sound soundAfter what,
    survives_of_covered lawful sound soundAfter what⟩

end Change

end Rewrapping

section Toy

def toyPlatform : Platform where
  hybridSigAvailable := true
  pqcAvailable := true

def toyDraws : Draws where
  secret _ := toyEntropy 1 2
  key _ := [3]
  sharedSecret _ := toyEntropy 4 5
  ecdhPriv _ := toyEntropy 6 7

def toyLoadDraws : LoadDraws where
  ratchetKey := [8]
  ratchetKeyEntropy := toyEntropy 9 10
  blobNonce _ := [11]

/-- A friend with a shared secret and an ECDH key. -/
def toyFriend : FriendUpdate where
  pem := "bob's key"
  sharedSecret := some [12]
  x25519PubB64 := none
  capabilities := none
  pqcCombinedPubB64 := none
  hybridSigPubB64 := none
  ecdhPrivBytes := some [13]

abbrev ToySession := Session String String (String × Bytes)

/-- The first keys, under the password `[1]`. -/
def toyStarted : ToySession :=
  ((initDb toyLibraries toyPlatform [1] "my key" [14] toyDraws none).run ⟨{}, .empty⟩).2

theorem toyStarted_start : (machine toyLibraries toyPlatform).start toyStarted :=
  ⟨[1], "my key", [14], toyDraws, none, nofun, rfl⟩

/-- A login, and a friend. -/
def toyBefriended : ToySession :=
  (machine toyLibraries toyPlatform).run toyStarted
    [fun _ => .load [1] 0 toyLoadDraws, fun _ => .saveFriend "bob" toyFriend [1] toyDraws]

theorem toyBefriended_reachable :
    (machine toyLibraries toyPlatform).Reachable (fun _ _ => True) toyBefriended :=
  .run (.start toyStarted_start) ⟨trivial, trivial, trivial, trivial, trivial⟩

theorem toyBefriended_keeps_secrets :
    EverySecretSurvives toyLibraries toyPlatform toyBefriended.db
        ((changePassword toyLibraries [1] [2] toyDraws).run toyBefriended).2.db [2] 0 toyLoadDraws ↔
      Covered toyLibraries toyPlatform toyBefriended [2] 0 :=
  change_password_keeps_secrets_iff toyLibraries_lawful toyBefriended_reachable
    (Prod.ext (by decide +kernel) rfl)

def toyPqcKeys : PqcBundle where
  x25519Priv := List.replicate 32 15
  kyberPriv := [16]
  combinedPub := [17]

theorem toyPqcKeys_wellFormed : toyPqcKeys.WellFormed := by decide

/-- The same with PQC keys. -/
def toyEnsured : ToySession :=
  (machine toyLibraries toyPlatform).run toyStarted
    [fun _ => .load [1] 0 toyLoadDraws, fun _ => .ensurePqcKeysFull [1] toyPqcKeys toyDraws]

/-- The change returns `True`; the next login raises `InvalidTag` on the Kyber key. -/
theorem toyEnsured_loses_secrets :
    (machine toyLibraries toyPlatform).Reachable (fun _ _ => True) toyEnsured ∧
    ((changePassword toyLibraries [1] [2] toyDraws).run toyEnsured).1 = .ok true ∧
    ((load toyLibraries toyPlatform [2] 0 toyLoadDraws).run
        ⟨{}, ((changePassword toyLibraries [1] [2] toyDraws).run toyEnsured).2.db⟩).1 =
      .error (.keyStoreErrorFrom "Key loading failed: " .invalidTag) ∧
    ¬ EverySecretSurvives toyLibraries toyPlatform toyEnsured.db
        ((changePassword toyLibraries [1] [2] toyDraws).run toyEnsured).2.db [2] 0 toyLoadDraws := by
  have refused : ((load toyLibraries toyPlatform [2] 0 toyLoadDraws).run
      ⟨{}, ((changePassword toyLibraries [1] [2] toyDraws).run toyEnsured).2.db⟩).1 =
        .error (.keyStoreErrorFrom "Key loading failed: " .invalidTag) := by decide +kernel
  refine ⟨.run (.start toyStarted_start) ⟨trivial, trivial, toyPqcKeys_wellFormed, trivial, trivial⟩,
    by decide +kernel, refused, ?_⟩
  rintro ⟨⟨loaded, success, -⟩, -⟩
  rw [success] at refused
  cases refused

end Toy

end KeyStore

end UltimateEnigma
