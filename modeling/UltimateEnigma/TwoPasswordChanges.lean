import UltimateEnigma.AtomicChange
import UltimateEnigma.ClosedWrappers

set_option autoImplicit false

namespace UltimateEnigma.KeyStore

open Py

namespace AuthManager

/-- `except Exception as e: raise KeyStoreError(…) from e`. -/
def orFails {α : Type} (message : String) : Except Raised α → Except Raised α
  | .ok value => .ok value
  | .error raised => .error (.keyStoreErrorFrom message raised)

section Operations

variable {Priv Pub Pem : Type} (P : Primitives Priv Pub Pem)
variable (oldPassword newPassword : Bytes) (draws : Draws)

/-- `try: … except Exception: log`, for a column that may be missing. -/
def openedColumn (column : Option Wrapper) : Option Bytes :=
  column.bind fun wrapper => (unwrap P wrapper oldPassword).toOption

/-- `friend_secrets`, filled by the first loop. -/
def readFriendSecrets (items : List (String × FriendRow)) (secrets : Dict String Bytes) :
    Dict String Bytes :=
  items.foldl (fun secrets item =>
    setIfSome secrets item.1 (openedColumn P oldPassword item.2.sharedSecret)) secrets

/-- What was read when the first statement is executed. The new PEM is made among the statements,
all of which come before the commit. -/
structure Secrets (Priv Pem : Type) where
  globalSecret : Bytes
  priv : Priv
  friendSecrets : Dict String Bytes
  totp : Option Bytes
  pem : Pem

def readSecrets (db : Database Pem) : Except Raised (Secrets Priv Pem) :=
  match db.secrets .globalSecret with
  | none => .error (.keyStoreError "change_password: global_secret not found")
  | some wrapper => do
      let enc ← jsonLoads wrapper
      let globalSecret ← orFails "change_password: old password verification failed"
        (decryptSecret P enc oldPassword)
      match db.keys .privateKeyEncrypted with
      | none => .error (.keyStoreError "change_password: private_key_encrypted not found")
      | some current => do
          let priv ← orFails "change_password: cannot decrypt private key: "
            (P.pemToPrivkey current oldPassword)
          let friendSecrets := readFriendSecrets P oldPassword db.friends.items .empty
          let totp := openedColumn P oldPassword (db.secrets .totpSecretEncrypted)
          let pem ← P.privkeyToEncryptedPem priv newPassword (draws.key .privateKeyEncrypted)
          return { globalSecret, priv, friendSecrets, totp, pem }

/-- `for fname, sec_plain in friend_secrets.items(): UPDATE friends …`. -/
def writeFriendSecrets (secrets : List (String × Bytes)) (db : Database Pem) : Database Pem :=
  secrets.foldl (fun db secret =>
    Stepwise.updateFriend secret.1 (fun row => { row with
      sharedSecretEncrypted :=
        some (wrap P secret.2 newPassword (draws.sharedSecret secret.1)) }) db) db

/-- The statements in order. Neither the friends' ECDH keys nor the ratchet storage key are among
them. -/
def changedRows (secrets : Secrets Priv Pem) (db : Database Pem) : Database Pem :=
  let secret := db.updateSecret .globalSecret
    (wrap P secrets.globalSecret newPassword (draws.secret .globalSecret))
  let key := secret.updateKey .privateKeyEncrypted secrets.pem
  let friends := writeFriendSecrets P newPassword draws secrets.friendSecrets.items key
  rewriteTotp P newPassword draws secrets.totp friends

def changedStore (secrets : Secrets Priv Pem) (store : KeyStore Priv Pub) : KeyStore Priv Pub :=
  { store with
    globalSecret := some secrets.globalSecret
    myPriv := some secrets.priv
    friends := store.friends.map fun friend =>
      (friend.1, friend.2.1, (secrets.friendSecrets.get? friend.1).or friend.2.2) }

/-- `AuthManager.change_password`. -/
def changePassword : StoreCall Priv Pub Pem Unit :=
  Call.mapError (asKeyStoreError "change_password failed: ") do
    let session ← Call.read
    let secrets ← Call.lift (readSecrets P oldPassword newPassword draws session.db)
    commit (changedRows P newPassword draws secrets)
    assign (changedStore secrets)

end Operations

end AuthManager

section Agreement

variable {Priv Pub Pem : Type} (P : Primitives Priv Pub Pem)
variable (oldPassword newPassword : Bytes) (draws : Draws)

/-- What every setting and every column of a friend unwraps to. -/
structure Unwrapped (Priv : Type) where
  settings : SecretSetting → Option Bytes
  keys : KeySetting → Option Priv
  sharedSecrets : String → Option Bytes
  ecdhPrivs : String → Option Bytes

def unwrapped (password : Bytes) (db : Database Pem) : Unwrapped Priv where
  settings key := opened P password (db.secrets key)
  keys key := (db.keys key).bind fun pem => (P.pemToPrivkey pem password).toOption
  sharedSecrets name := (db.friends.get? name).bind fun row =>
    opened P password row.sharedSecretEncrypted
  ecdhPrivs name := (db.friends.get? name).bind fun row => opened P password row.ecdhPrivEncrypted

/-- Both implementations succeed on the session or neither does, and where they do, their databases
unwrap to the same secrets under the new password and their stores are the same. -/
structure ChangesAgree (session : Session Priv Pub Pem) : Prop where
  success : (∃ after, (changePassword P oldPassword newPassword draws).run session =
      (.ok true, after)) ↔
    ∃ after, (AuthManager.changePassword P oldPassword newPassword draws).run session =
      (.ok (), after)
  secrets {first second : Session Priv Pub Pem}
    (changed : (changePassword P oldPassword newPassword draws).run session = (.ok true, first))
    (changed' : (AuthManager.changePassword P oldPassword newPassword draws).run session =
      (.ok (), second)) :
    unwrapped P newPassword first.db = unwrapped P newPassword second.db ∧
      first.store = second.store

/-- Either change goes through as far as the settings that both insist on are concerned. -/
def Changeable (db : Database Pem) : Prop :=
  (∃ wrapper plain, db.secrets .globalSecret = some wrapper ∧
    unwrap P wrapper oldPassword = .ok plain) ∧
  ∃ current priv pem, db.keys .privateKeyEncrypted = some current ∧
    P.pemToPrivkey current oldPassword = .ok priv ∧
    P.privkeyToEncryptedPem priv newPassword (draws.key .privateKeyEncrypted) = .ok pem

/-- A row that `KeyStore.change_password` gets past. -/
def QuietRow (row : FriendRow) : Prop :=
  ∀ wrapper ∈ row.sharedSecret, Quiet P oldPassword wrapper ∧
    QuietColumn P oldPassword row.ecdhPrivEncrypted

/-- What the older copy leaves as it is unwraps to the same under the new password already. -/
structure NothingMissed (session : Session Priv Pub Pem) : Prop where
  rows : ∀ item ∈ session.db.friends.items, QuietRow P oldPassword item.2
  totp : QuietColumn P oldPassword (session.db.secrets .totpSecretEncrypted)
  ecdhPrivs : ∀ name row wrapper plain, session.db.friends.get? name = some row →
    row.sharedSecret ≠ none → row.ecdhPrivEncrypted = some wrapper →
    unwrap P wrapper oldPassword = .ok plain → unwrap P wrapper newPassword = .ok plain
  ratchetStorageKey : ∀ key, session.store.ratchetStorageKey = some key →
    opened P newPassword (session.db.secrets .ratchetStorageKey) = some key

end Agreement

section Success

variable {Priv Pub Pem : Type} {P : Primitives Priv Pub Pem}
variable {oldPassword newPassword : Bytes} {draws : Draws}

theorem attempt_rewrap_ok_iff {entropy : Entropy} {wrapper : Wrapper} :
    (∃ made, attempt (rewrap P oldPassword newPassword entropy wrapper) = .ok made) ↔
      Quiet P oldPassword wrapper := by
  unfold rewrap Quiet
  cases opening : unwrap P wrapper oldPassword with
  | ok plain => exact iff_of_true ⟨_, rfl⟩ nofun
  | error raised =>
      show (∃ made, attempt (.error raised) = .ok made) ↔ _
      rw [attempt]
      constructor
      · rintro ⟨made, done⟩ _ ⟨⟩
        split at done
        · assumption
        · cases done
      · intro quiet
        rw [if_pos (quiet raised rfl)]
        exact ⟨none, rfl⟩

/-- What the `try` around a column makes of it. -/
theorem attempt_rewrap_of_quiet {entropy : Entropy} {wrapper : Wrapper}
    (quiet : Quiet P oldPassword wrapper) :
    attempt (rewrap P oldPassword newPassword entropy wrapper) =
      .ok ((unwrap P wrapper oldPassword).toOption.map fun plain =>
        (plain, wrap P plain newPassword entropy)) := by
  unfold rewrap
  cases opening : unwrap P wrapper oldPassword with
  | ok plain => rfl
  | error raised =>
      show attempt (.error raised) = _
      rw [attempt, quiet raised opening]
      rfl

theorem rewrapFriend_ok_iff (newPassword : Bytes) (draws : Draws) (name : String)
    {row : FriendRow} :
    (∃ made, rewrapFriend P oldPassword newPassword draws name row = .ok made) ↔
      QuietRow P oldPassword row := by
  unfold rewrapFriend QuietRow
  cases row.sharedSecret with
  | none => exact iff_of_true ⟨_, rfl⟩ nofun
  | some wrapper =>
      have one : (∀ found ∈ some wrapper, Quiet P oldPassword found ∧
          QuietColumn P oldPassword row.ecdhPrivEncrypted) ↔
          Quiet P oldPassword wrapper ∧ QuietColumn P oldPassword row.ecdhPrivEncrypted :=
        ⟨fun all => all wrapper rfl, by rintro both _ ⟨⟩; exact both⟩
      rw [one]
      constructor
      · rintro ⟨made, done⟩
        obtain ⟨secret, secret_ok, done⟩ := ok_of_bind done
        obtain ⟨ecdhPriv, ecdh_ok, done⟩ := ok_of_bind done
        refine ⟨attempt_rewrap_ok_iff.mp ⟨secret, secret_ok⟩, ?_⟩
        intro ecdhWrapper stored
        rw [Option.mem_def.mp stored] at ecdh_ok
        exact attempt_rewrap_ok_iff.mp ⟨ecdhPriv, ecdh_ok⟩
      · rintro ⟨shared, ecdh⟩
        obtain ⟨secret, secret_ok⟩ : ∃ made, attempt (rewrap P oldPassword newPassword
            (draws.sharedSecret name) wrapper) = .ok made := attempt_rewrap_ok_iff.mpr shared
        obtain ⟨ecdhPriv, ecdh_ok⟩ : ∃ made, attemptColumn row.ecdhPrivEncrypted
            (rewrap P oldPassword newPassword (draws.ecdhPriv name)) = .ok made := by
          cases stored : row.ecdhPrivEncrypted with
          | none => exact ⟨none, rfl⟩
          | some ecdhWrapper => exact attempt_rewrap_ok_iff.mpr (ecdh ecdhWrapper stored)
        refine ⟨({ row with
          sharedSecretEncrypted := (secret.map Prod.snd).or row.sharedSecretEncrypted
          ecdhPrivEncrypted := (ecdhPriv.map Prod.snd).or row.ecdhPrivEncrypted },
          secret.map Prod.fst), ?_⟩
        dsimp only
        rw [secret_ok, ok_bind, ecdh_ok]
        rfl

/-- The loop goes through when each row does, and has collected what `AuthManager` collects. -/
theorem rewrapFriends_ok_iff {items : List (String × FriendRow)} {friends : Dict String FriendRow}
    {updates : Dict String Bytes} :
    (∃ made, rewrapFriends P oldPassword newPassword draws items friends updates = .ok made) ↔
      ∀ item ∈ items, QuietRow P oldPassword item.2 := by
  induction items generalizing friends updates with
  | nil => exact iff_of_true ⟨_, rfl⟩ fun _ absent => absurd absent List.not_mem_nil
  | cons item rest ih =>
      rw [List.forall_mem_cons, ← rewrapFriend_ok_iff newPassword draws item.1]
      constructor
      · rintro ⟨made, done⟩
        obtain ⟨first, first_ok, rest_ok⟩ := ok_of_bind done
        exact ⟨⟨first, first_ok⟩, ih.mp ⟨made, rest_ok⟩⟩
      · rintro ⟨⟨first, first_ok⟩, others⟩
        obtain ⟨made, rest_ok⟩ : ∃ made, rewrapFriends P oldPassword newPassword draws rest
            (friends.set item.1 first.1) (setIfSome updates item.1 first.2) = .ok made :=
          ih.mpr others
        refine ⟨made, ?_⟩
        rw [rewrapFriends, first_ok]
        exact rest_ok

theorem rewrapFriend_secret {name : String} {row after : FriendRow} {plain : Option Bytes}
    (done : rewrapFriend P oldPassword newPassword draws name row = .ok (after, plain)) :
    plain = AuthManager.openedColumn P oldPassword row.sharedSecret := by
  have quiet := (rewrapFriend_ok_iff newPassword draws name).mp ⟨_, done⟩
  unfold rewrapFriend at done
  cases shared : row.sharedSecret with
  | none =>
      rw [shared] at done
      cases done
      rfl
  | some wrapper =>
      rw [shared] at done
      obtain ⟨secret, secret_ok, done⟩ := ok_of_bind done
      obtain ⟨ecdhPriv, _, done⟩ := ok_of_bind done
      rw [attempt_rewrap_of_quiet (quiet wrapper shared).1] at secret_ok
      cases secret_ok
      cases done
      show _ = (unwrap P wrapper oldPassword).toOption
      cases (unwrap P wrapper oldPassword).toOption <;> rfl

theorem rewrapFriends_secrets {items : List (String × FriendRow)}
    {friends made : Dict String FriendRow} {updates secrets : Dict String Bytes}
    (done : rewrapFriends P oldPassword newPassword draws items friends updates =
      .ok (made, secrets)) :
    secrets = AuthManager.readFriendSecrets P oldPassword items updates := by
  induction items generalizing friends updates with
  | nil =>
      cases done
      rfl
  | cons item rest ih =>
      obtain ⟨⟨after, plain⟩, first_ok, rest_ok⟩ := ok_of_bind done
      rw [ih rest_ok, rewrapFriend_secret first_ok]
      rfl

theorem attemptColumn_unwrap_ok_iff {column : Option Wrapper} :
    (∃ found, attemptColumn column (unwrap P · oldPassword) = .ok found) ↔
      QuietColumn P oldPassword column := by
  cases column with
  | none => exact iff_of_true ⟨none, rfl⟩ nofun
  | some wrapper =>
      constructor
      · rintro ⟨found, done⟩ _ ⟨⟩ raised failed
        have attempted : attempt (unwrap P wrapper oldPassword) = .ok found := done
        rw [failed, attempt] at attempted
        split at attempted
        · assumption
        · cases attempted
      · intro quiet
        show ∃ found, attempt (unwrap P wrapper oldPassword) = .ok found
        cases opening : unwrap P wrapper oldPassword with
        | ok plain => exact ⟨some plain, rfl⟩
        | error raised =>
            refine ⟨none, ?_⟩
            rw [attempt, quiet wrapper rfl raised opening]
            rfl

theorem attemptColumn_unwrap_eq {column : Option Wrapper} {found : Option Bytes}
    (done : attemptColumn column (unwrap P · oldPassword) = .ok found) :
    found = AuthManager.openedColumn P oldPassword column := by
  cases column with
  | none =>
      cases done
      rfl
  | some wrapper =>
      have attempted : attempt (unwrap P wrapper oldPassword) = .ok found := done
      show found = (unwrap P wrapper oldPassword).toOption
      cases opening : unwrap P wrapper oldPassword with
      | ok plain =>
          rw [opening] at attempted
          cases attempted
          rfl
      | error raised =>
          rw [opening, attempt] at attempted
          split at attempted <;> cases attempted
          rfl

theorem ok_of_orFails {α : Type} {message : String} {computed : Except Raised α} {value : α}
    (success : AuthManager.orFails message computed = .ok value) : computed = .ok value := by
  cases computed with
  | ok found => exact success
  | error raised => cases success

theorem orKeyStoreError_ok {α : Type} {message : String} {value : α} :
    orKeyStoreError message (.ok value : Except Raised α) = .ok value := rfl

/-- `KeyStore.change_password` gets to the commit when both RSA key and global secret change, each
row is passed and the TOTP secret is. -/
theorem rewrapSecrets_ok_iff {db : Database Pem} :
    (∃ made, rewrapSecrets P oldPassword newPassword draws db = .ok made) ↔
      Changeable P oldPassword newPassword draws db ∧
        (∀ item ∈ db.friends.items, QuietRow P oldPassword item.2) ∧
        QuietColumn P oldPassword (db.secrets .totpSecretEncrypted) := by
  constructor
  · rintro ⟨made, done⟩
    obtain ⟨⟨wrapper, stored, opened⟩, ⟨current, present, priv_ok⟩, friends_ok, totp_ok, pem_ok⟩ :=
      rewrapSecrets_ok done
    exact ⟨⟨⟨wrapper, _, stored, attempt_eq_some_iff.mp opened⟩,
      ⟨current, _, _, present, priv_ok, pem_ok⟩⟩, rewrapFriends_ok_iff.mp ⟨_, friends_ok⟩,
      attemptColumn_unwrap_ok_iff.mp ⟨_, totp_ok⟩⟩
  · rintro ⟨⟨⟨wrapper, plain, stored, opened⟩, current, priv, pem, present, priv_ok, pem_ok⟩, rows,
      totpQuiet⟩
    obtain ⟨⟨friends, secrets⟩, friends_ok⟩ : ∃ made, rewrapFriends P oldPassword newPassword draws
        db.friends.items db.friends .empty = .ok made := rewrapFriends_ok_iff.mpr rows
    obtain ⟨totp, totp_ok⟩ := attemptColumn_unwrap_ok_iff.mpr totpQuiet
    cases wrapper with
    | malformed => cases opened
    | json enc =>
        have decrypted : decryptSecret P enc oldPassword = .ok plain := opened
        refine ⟨⟨plain, priv, pem, friends, secrets, totp⟩, ?_⟩
        rw [rewrapSecrets, stored]
        dsimp only
        rw [jsonLoads, ok_bind, decrypted, orKeyStoreError_ok, ok_bind, present]
        dsimp only
        rw [priv_ok, orKeyStoreError_ok, ok_bind, friends_ok, ok_bind]
        dsimp only
        rw [totp_ok, ok_bind, pem_ok]
        rfl

/-- What `AuthManager.change_password` has read when it writes. -/
theorem readSecrets_ok_iff {db : Database Pem} {secrets : AuthManager.Secrets Priv Pem} :
    AuthManager.readSecrets P oldPassword newPassword draws db = .ok secrets ↔
      (∃ wrapper, db.secrets .globalSecret = some wrapper ∧
        unwrap P wrapper oldPassword = .ok secrets.globalSecret) ∧
      (∃ current, db.keys .privateKeyEncrypted = some current ∧
        P.pemToPrivkey current oldPassword = .ok secrets.priv) ∧
      P.privkeyToEncryptedPem secrets.priv newPassword (draws.key .privateKeyEncrypted) =
        .ok secrets.pem ∧
      secrets.friendSecrets =
        AuthManager.readFriendSecrets P oldPassword db.friends.items .empty ∧
      secrets.totp = AuthManager.openedColumn P oldPassword (db.secrets .totpSecretEncrypted) := by
  constructor
  · intro done
    unfold AuthManager.readSecrets at done
    cases stored : db.secrets .globalSecret with
    | none =>
        rw [stored] at done
        cases done
    | some wrapper =>
        rw [stored] at done
        obtain ⟨enc, parsed, done⟩ := ok_of_bind done
        obtain ⟨plain, opened, done⟩ := ok_of_bind done
        cases present : db.keys .privateKeyEncrypted with
        | none =>
            rw [present] at done
            cases done
        | some current =>
            rw [present] at done
            obtain ⟨priv, priv_ok, done⟩ := ok_of_bind done
            obtain ⟨pem, pem_ok, done⟩ := ok_of_bind done
            cases done
            refine ⟨⟨wrapper, rfl, ?_⟩, ⟨current, rfl, ok_of_orFails priv_ok⟩, pem_ok, rfl, rfl⟩
            rw [unwrap, parsed, ok_bind]
            exact ok_of_orFails opened
  · rintro ⟨⟨wrapper, stored, opened⟩, ⟨current, present, priv_ok⟩, pem_ok, friends, totp⟩
    cases wrapper with
    | malformed => cases opened
    | json enc =>
        have decrypted : decryptSecret P enc oldPassword = .ok secrets.globalSecret := opened
        rw [AuthManager.readSecrets, stored]
        dsimp only
        rw [jsonLoads, ok_bind, decrypted]
        show (match db.keys .privateKeyEncrypted with | none => _ | some current => _) = _
        rw [present]
        dsimp only
        rw [priv_ok]
        show (P.privkeyToEncryptedPem secrets.priv newPassword _ >>= _) = _
        rw [pem_ok, ← friends, ← totp]
        rfl

theorem readSecrets_succeeds_iff {db : Database Pem} :
    (∃ secrets, AuthManager.readSecrets P oldPassword newPassword draws db = .ok secrets) ↔
      Changeable P oldPassword newPassword draws db := by
  constructor
  · rintro ⟨secrets, done⟩
    obtain ⟨⟨wrapper, stored, opened⟩, ⟨current, present, priv_ok⟩, pem_ok, _⟩ :=
      readSecrets_ok_iff.mp done
    exact ⟨⟨wrapper, _, stored, opened⟩, current, _, _, present, priv_ok, pem_ok⟩
  · rintro ⟨⟨wrapper, plain, stored, opened⟩, current, priv, pem, present, priv_ok, pem_ok⟩
    exact ⟨⟨plain, priv, _, _, pem⟩, readSecrets_ok_iff.mpr ⟨⟨wrapper, stored, opened⟩,
      ⟨current, present, priv_ok⟩, pem_ok, rfl, rfl⟩⟩

theorem changePassword_true_iff {session after : Session Priv Pub Pem} :
    (changePassword P oldPassword newPassword draws).run session = (.ok true, after) ↔
      ∃ made, rewrapSecrets P oldPassword newPassword draws session.db = .ok made ∧
        after = ⟨changedStore made session.store, changedRows P newPassword draws made
          session.store.ratchetStorageKey session.db⟩ := by
  rw [changePassword, Call.run_mapError_ok_iff, Call.run_read_bind]
  constructor
  · intro ran
    obtain ⟨made, done, ran⟩ := Call.ok_of_run_lift_bind ran
    cases ran
    exact ⟨made, done, rfl⟩
  · rintro ⟨made, done, rfl⟩
    rw [done]
    rfl

theorem authChangePassword_ok_iff {session after : Session Priv Pub Pem} :
    (AuthManager.changePassword P oldPassword newPassword draws).run session = (.ok (), after) ↔
      ∃ secrets, AuthManager.readSecrets P oldPassword newPassword draws session.db =
          .ok secrets ∧
        after = ⟨AuthManager.changedStore secrets session.store,
          AuthManager.changedRows P newPassword draws secrets session.db⟩ := by
  rw [AuthManager.changePassword, Call.run_mapError_ok_iff, Call.run_read_bind]
  constructor
  · intro ran
    obtain ⟨secrets, done, ran⟩ := Call.ok_of_run_lift_bind ran
    cases ran
    exact ⟨secrets, done, rfl⟩
  · rintro ⟨secrets, done, rfl⟩
    rw [done]
    rfl

theorem lookup_of_not_mem {ν : Type} {items : List (String × ν)} {name : String}
    (absent : name ∉ items.map Prod.fst) : items.lookup name = none := by
  refine List.lookup_eq_none_iff.mpr fun other member => bne_iff_ne.mpr fun clash => absent ?_
  exact clash ▸ List.mem_map_of_mem member

theorem readFriendSecrets_get? {items : List (String × FriendRow)} {secrets : Dict String Bytes}
    (unique : (items.map Prod.fst).Nodup) (name : String) :
    (AuthManager.readFriendSecrets P oldPassword items secrets).get? name =
      match items.lookup name with
      | none => secrets.get? name
      | some row => (AuthManager.openedColumn P oldPassword row.sharedSecret).or
          (secrets.get? name) := by
  induction items generalizing secrets with
  | nil => rfl
  | cons item rest ih =>
      rw [List.map_cons, List.nodup_cons] at unique
      have step : AuthManager.readFriendSecrets P oldPassword (item :: rest) secrets =
          AuthManager.readFriendSecrets P oldPassword rest (setIfSome secrets item.1
            (AuthManager.openedColumn P oldPassword item.2.sharedSecret)) := rfl
      have set : (setIfSome secrets item.1
          (AuthManager.openedColumn P oldPassword item.2.sharedSecret)).get? name =
          if name = item.1 then
            (AuthManager.openedColumn P oldPassword item.2.sharedSecret).or (secrets.get? name)
          else secrets.get? name := by
        cases AuthManager.openedColumn P oldPassword item.2.sharedSecret with
        | none => simp only [setIfSome, Option.none_or, ite_self]
        | some plain => simp only [setIfSome, Dict.get?_set, Option.some_or]
      rw [step, ih unique.2, set]
      by_cases same : name = item.1
      · have absent : rest.lookup name = none := by
          rw [same]
          exact lookup_of_not_mem unique.1
        have found : (item :: rest).lookup name = some item.2 := by
          rw [same]
          exact List.lookup_cons_self
        rw [absent, found]
        simp only [same, if_true]
      · have later : (item :: rest).lookup name = rest.lookup name := by
          rw [List.lookup_cons, beq_false_of_ne same]
        rw [later]
        simp only [same, if_false]

/-- The row that `AuthManager` leaves of a friend. -/
def authRow (P : Primitives Priv Pub Pem) (newPassword : Bytes) (draws : Draws) (name : String)
    (plain : Option Bytes) (row : FriendRow) : FriendRow :=
  match plain with
  | none => row
  | some plain => { row with
      sharedSecretEncrypted := some (wrap P plain newPassword (draws.sharedSecret name)) }

theorem updateFriend_get? (name other : String) (change : FriendRow → FriendRow)
    (db : Database Pem) :
    (Stepwise.updateFriend name change db).friends.get? other =
      (db.friends.get? other).map fun row => if other = name then change row else row := by
  unfold Stepwise.updateFriend
  cases stored : db.friends.get? name with
  | none =>
      by_cases same : other = name
      · rw [same, stored]
        rfl
      · simp only [same, if_false, Option.map_id']
  | some row =>
      by_cases same : other = name
      · rw [same, stored]
        simp only [Dict.get?_set_self, if_true, Option.map_some]
      · simp only [Dict.get?_set_of_ne _ _ same, same, if_false, Option.map_id']

theorem writeFriendSecrets_get? {secrets : List (String × Bytes)}
    (unique : (secrets.map Prod.fst).Nodup) (db : Database Pem) (name : String) :
    (AuthManager.writeFriendSecrets P newPassword draws secrets db).friends.get? name =
      (db.friends.get? name).map (authRow P newPassword draws name (secrets.lookup name)) := by
  induction secrets generalizing db with
  | nil =>
      show db.friends.get? name = (db.friends.get? name).map id
      rw [Option.map_id]
      rfl
  | cons secret rest ih =>
      rw [List.map_cons, List.nodup_cons] at unique
      have step : AuthManager.writeFriendSecrets P newPassword draws (secret :: rest) db =
          AuthManager.writeFriendSecrets P newPassword draws rest
            (Stepwise.updateFriend secret.1 (fun row => { row with
              sharedSecretEncrypted :=
                some (wrap P secret.2 newPassword (draws.sharedSecret secret.1)) }) db) := rfl
      rw [step, ih unique.2, updateFriend_get?, Option.map_map]
      by_cases same : name = secret.1
      · have absent : rest.lookup name = none := by
          rw [same]
          exact lookup_of_not_mem unique.1
        have found : (secret :: rest).lookup name = some secret.2 := by
          rw [same]
          exact List.lookup_cons_self
        rw [absent, found]
        congr 1
        funext row
        simp only [Function.comp, same, if_true, authRow]
      · have later : (secret :: rest).lookup name = rest.lookup name := by
          rw [List.lookup_cons, beq_false_of_ne same]
        rw [later]
        congr 1
        funext row
        simp only [Function.comp, same, if_false]

theorem writeFriendSecrets_rest (secrets : List (String × Bytes)) (db : Database Pem) :
    (AuthManager.writeFriendSecrets P newPassword draws secrets db).secrets = db.secrets ∧
      (AuthManager.writeFriendSecrets P newPassword draws secrets db).keys = db.keys := by
  induction secrets generalizing db with
  | nil => exact ⟨rfl, rfl⟩
  | cons secret rest ih =>
      obtain ⟨secrets_eq, keys_eq⟩ := ih (Stepwise.updateFriend secret.1 (fun row => { row with
        sharedSecretEncrypted :=
          some (wrap P secret.2 newPassword (draws.sharedSecret secret.1)) }) db)
      have kept : (Stepwise.updateFriend secret.1 (fun row => { row with
          sharedSecretEncrypted :=
            some (wrap P secret.2 newPassword (draws.sharedSecret secret.1)) }) db).secrets =
            db.secrets ∧
          (Stepwise.updateFriend secret.1 (fun row => { row with
            sharedSecretEncrypted :=
              some (wrap P secret.2 newPassword (draws.sharedSecret secret.1)) }) db).keys =
            db.keys := by
        unfold Stepwise.updateFriend
        cases db.friends.get? secret.1 <;> exact ⟨rfl, rfl⟩
      exact ⟨secrets_eq.trans kept.1, keys_eq.trans kept.2⟩

end Success

section Comparison

variable {Priv Pub Pem : Type} {P : Primitives Priv Pub Pem}
variable {oldPassword newPassword : Bytes} {draws : Draws} {session : Session Priv Pub Pem}

/-- What both changes read of a session that both can change. -/
structure BothRead (P : Primitives Priv Pub Pem) (oldPassword newPassword : Bytes) (draws : Draws)
    (db : Database Pem) (made : Rewrapped Priv Pem) (secrets : AuthManager.Secrets Priv Pem) :
    Prop where
  globalSecret : made.globalSecret = secrets.globalSecret
  priv : made.priv = secrets.priv
  pem : made.pem = secrets.pem
  friendSecrets : made.friendSecrets = secrets.friendSecrets
  totp : made.totp = secrets.totp

theorem bothRead {db : Database Pem} {made : Rewrapped Priv Pem}
    {secrets : AuthManager.Secrets Priv Pem}
    (done : rewrapSecrets P oldPassword newPassword draws db = .ok made)
    (read : AuthManager.readSecrets P oldPassword newPassword draws db = .ok secrets) :
    BothRead P oldPassword newPassword draws db made secrets := by
  obtain ⟨⟨wrapper, stored, opened⟩, ⟨current, present, priv_ok⟩, friends_ok, totp_ok, pem_ok⟩ :=
    rewrapSecrets_ok done
  obtain ⟨⟨wrapper', stored', opened'⟩, ⟨current', present', priv_ok'⟩, pem_ok', friends, totp⟩ :=
    readSecrets_ok_iff.mp read
  rw [stored] at stored'
  cases stored'
  rw [present] at present'
  cases present'
  have opens := attempt_eq_some_iff.mp opened
  rw [opened'] at opens
  rw [priv_ok'] at priv_ok
  have priv_eq : secrets.priv = made.priv := Except.ok.inj priv_ok
  rw [← priv_eq, pem_ok'] at pem_ok
  exact ⟨(Except.ok.inj opens).symm, priv_eq.symm, (Except.ok.inj pem_ok).symm,
    (rewrapFriends_secrets friends_ok).trans friends.symm,
    (attemptColumn_unwrap_eq totp_ok).trans totp.symm⟩

theorem changedStores_eq {made : Rewrapped Priv Pem} {secrets : AuthManager.Secrets Priv Pem}
    (both : BothRead P oldPassword newPassword draws session.db made secrets)
    (store : KeyStore Priv Pub) : changedStore made store = AuthManager.changedStore secrets store := by
  unfold changedStore AuthManager.changedStore
  rw [both.globalSecret, both.priv, both.friendSecrets]

theorem rewriteTotp_secrets (P : Primitives Priv Pub Pem) (newPassword : Bytes) (draws : Draws)
    (totp : Option Bytes) {first second : Database Pem} (same : first.secrets = second.secrets) :
    (rewriteTotp P newPassword draws totp first).secrets =
      (rewriteTotp P newPassword draws totp second).secrets := by
  cases totp with
  | none => exact same
  | some plain =>
      simp only [rewriteTotp, Database.updateSecret, same]

/-- The settings differ at most in the ratchet storage key. -/
theorem changedRows_settings {made : Rewrapped Priv Pem} {secrets : AuthManager.Secrets Priv Pem}
    {db : Database Pem} (both : BothRead P oldPassword newPassword draws db made secrets)
    (ratchetStorageKey : Option Bytes) :
    (changedRows P newPassword draws made ratchetStorageKey db).keys =
        (AuthManager.changedRows P newPassword draws secrets db).keys ∧
      (∀ key, key ≠ .ratchetStorageKey →
        (changedRows P newPassword draws made ratchetStorageKey db).secrets key =
          (AuthManager.changedRows P newPassword draws secrets db).secrets key) ∧
      (AuthManager.changedRows P newPassword draws secrets db).secrets .ratchetStorageKey =
        db.secrets .ratchetStorageKey ∧
      (changedRows P newPassword draws made ratchetStorageKey db).secrets .ratchetStorageKey =
        match ratchetStorageKey with
        | none => db.secrets .ratchetStorageKey
        | some key => some (wrap P key newPassword (draws.secret .ratchetStorageKey)) := by
  let written := (db.updateSecret .globalSecret
    (wrap P secrets.globalSecret newPassword (draws.secret .globalSecret))).updateKey
      .privateKeyEncrypted secrets.pem
  let first := ({ db with friends := made.friends }.updateSecret .globalSecret
    (wrap P made.globalSecret newPassword (draws.secret .globalSecret))).updateKey
      .privateKeyEncrypted made.pem
  let second := AuthManager.writeFriendSecrets P newPassword draws secrets.friendSecrets.items
    written
  obtain ⟨second_secrets, second_keys⟩ : second.secrets = written.secrets ∧
      second.keys = written.keys := writeFriendSecrets_rest _ _
  have first_secrets : first.secrets = second.secrets := by
    rw [second_secrets]
    show _ = Function.update _ _ _
    rw [← both.globalSecret]
    rfl
  have first_keys : first.keys = second.keys := by
    rw [second_keys]
    show _ = Function.update _ _ _
    rw [← both.pem]
    rfl
  have totp_secrets := rewriteTotp_secrets P newPassword draws secrets.totp first_secrets
  obtain ⟨_, totp_keys, _, _, kept⟩ := rewriteTotp_other P newPassword draws secrets.totp second
  obtain ⟨_, totp_keys', _, _, kept'⟩ := rewriteTotp_other P newPassword draws secrets.totp first
  obtain ⟨_, ratchet_keys, _, _, others⟩ := rewriteRatchetKey_other P newPassword draws
    ratchetStorageKey (rewriteTotp P newPassword draws secrets.totp first)
  have unwritten : second.secrets .ratchetStorageKey = db.secrets .ratchetStorageKey := by
    have apart : SecretSetting.ratchetStorageKey ≠ .globalSecret := by decide
    rw [second_secrets]
    simp only [written, Database.updateSecret, Database.updateKey, Function.update_of_ne apart]
  unfold changedRows AuthManager.changedRows
  rw [both.totp]
  refine ⟨?_, fun key apart => ?_, ?_, ?_⟩
  · exact ratchet_keys.trans (totp_keys'.trans (first_keys.trans totp_keys.symm))
  · exact (others key apart).trans (congrFun totp_secrets key)
  · exact (kept .ratchetStorageKey (by decide)).trans unwritten
  · cases ratchetStorageKey with
    | none =>
        exact (kept' .ratchetStorageKey (by decide)).trans
          ((congrFun first_secrets .ratchetStorageKey).trans unwritten)
    | some key => simp only [rewriteRatchetKey, Database.setSecret, Function.update_self]

/-- The columns that `KeyStore.change_password` leaves of a friend. -/
theorem rewrapFriend_columns {name : String} {row after : FriendRow} {plain : Option Bytes}
    (done : rewrapFriend P oldPassword newPassword draws name row = .ok (after, plain)) :
    after.sharedSecretEncrypted = (authRow P newPassword draws name
        (AuthManager.openedColumn P oldPassword row.sharedSecret) row).sharedSecretEncrypted ∧
      after.ecdhPrivEncrypted = if row.sharedSecret.isSome then
        ((AuthManager.openedColumn P oldPassword row.ecdhPrivEncrypted).map fun plain =>
          wrap P plain newPassword (draws.ecdhPriv name)).or row.ecdhPrivEncrypted
        else row.ecdhPrivEncrypted := by
  have quiet := (rewrapFriend_ok_iff newPassword draws name).mp ⟨_, done⟩
  unfold rewrapFriend at done
  cases shared : row.sharedSecret with
  | none =>
      rw [shared] at done
      cases done
      exact ⟨rfl, rfl⟩
  | some wrapper =>
      rw [shared] at done
      obtain ⟨sharedQuiet, ecdhQuiet⟩ := quiet wrapper shared
      obtain ⟨secret, secret_ok, done⟩ := ok_of_bind done
      obtain ⟨ecdhPriv, ecdh_ok, done⟩ := ok_of_bind done
      rw [attempt_rewrap_of_quiet sharedQuiet] at secret_ok
      cases secret_ok
      cases done
      constructor
      · show _ = (authRow P newPassword draws name
          (unwrap P wrapper oldPassword).toOption row).sharedSecretEncrypted
        cases (unwrap P wrapper oldPassword).toOption <;> rfl
      · rw [Option.isSome_some, if_pos rfl]
        cases stored : row.ecdhPrivEncrypted with
        | none =>
            rw [stored] at ecdh_ok
            cases ecdh_ok
            rfl
        | some ecdhWrapper =>
            rw [stored] at ecdh_ok
            have attempted : attempt (rewrap P oldPassword newPassword (draws.ecdhPriv name)
                ecdhWrapper) = .ok ecdhPriv := ecdh_ok
            rw [attempt_rewrap_of_quiet (ecdhQuiet ecdhWrapper stored)] at attempted
            cases attempted
            show (((unwrap P ecdhWrapper oldPassword).toOption.map fun plain =>
                (plain, wrap P plain newPassword (draws.ecdhPriv name))).map Prod.snd).or _ =
              ((unwrap P ecdhWrapper oldPassword).toOption.map _).or _
            cases (unwrap P ecdhWrapper oldPassword).toOption <;> rfl

/-- The rows of a friend differ at most in the ECDH key. -/
theorem changedRows_friend {made : Rewrapped Priv Pem} {secrets : AuthManager.Secrets Priv Pem}
    {db : Database Pem} (done : rewrapSecrets P oldPassword newPassword draws db = .ok made)
    (read : AuthManager.readSecrets P oldPassword newPassword draws db = .ok secrets)
    (ratchetStorageKey : Option Bytes) (name : String) :
    match db.friends.get? name with
    | none =>
        (changedRows P newPassword draws made ratchetStorageKey db).friends.get? name = none ∧
          (AuthManager.changedRows P newPassword draws secrets db).friends.get? name = none
    | some row => ∃ first second,
        (changedRows P newPassword draws made ratchetStorageKey db).friends.get? name =
          some first ∧
        (AuthManager.changedRows P newPassword draws secrets db).friends.get? name =
          some second ∧
        first.sharedSecretEncrypted = second.sharedSecretEncrypted ∧
        second.ecdhPrivEncrypted = row.ecdhPrivEncrypted ∧
        first.ecdhPrivEncrypted = if row.sharedSecret.isSome then
          ((AuthManager.openedColumn P oldPassword row.ecdhPrivEncrypted).map fun plain =>
            wrap P plain newPassword (draws.ecdhPriv name)).or row.ecdhPrivEncrypted
          else row.ecdhPrivEncrypted := by
  obtain ⟨_, _, friends_ok, _, _⟩ := rewrapSecrets_ok done
  obtain ⟨_, _, _, friendSecrets, _⟩ := readSecrets_ok_iff.mp read
  obtain ⟨others, inside⟩ := rewrapFriends_ok db.friends.nodup friends_ok
  have first_friends : (changedRows P newPassword draws made ratchetStorageKey db).friends =
      made.friends :=
    (rewriteRatchetKey_other P newPassword draws ratchetStorageKey _).2.2.2.1.trans
      (rewriteTotp_other P newPassword draws made.totp _).2.2.2.1
  have second_friends : (AuthManager.changedRows P newPassword draws secrets db).friends.get? name =
      (db.friends.get? name).map
        (authRow P newPassword draws name (secrets.friendSecrets.get? name)) := by
    have kept := (rewriteTotp_other P newPassword draws secrets.totp
      (AuthManager.writeFriendSecrets P newPassword draws secrets.friendSecrets.items
        ((db.updateSecret .globalSecret
          (wrap P secrets.globalSecret newPassword (draws.secret .globalSecret))).updateKey
            .privateKeyEncrypted secrets.pem))).2.2.2.1
    unfold AuthManager.changedRows
    exact (congrArg (fun friends : Dict String FriendRow => friends.get? name) kept).trans
      (writeFriendSecrets_get? secrets.friendSecrets.nodup _ name)
  cases stored : db.friends.get? name with
  | none =>
      rw [stored] at second_friends
      rw [first_friends]
      exact ⟨(others name ((Dict.get?_eq_none_iff _ _).mp stored)).trans stored, second_friends⟩
  | some row =>
      obtain ⟨after, plain, row_ok, found⟩ := inside name row (Dict.mem_of_get? stored)
      have secret : secrets.friendSecrets.get? name =
          AuthManager.openedColumn P oldPassword row.sharedSecret := by
        have lookup : db.friends.items.lookup name = some row := stored
        rw [friendSecrets, readFriendSecrets_get? db.friends.nodup, lookup]
        exact Option.or_none
      rw [stored, secret] at second_friends
      rw [first_friends]
      obtain ⟨shared, ecdh⟩ := rewrapFriend_columns row_ok
      refine ⟨after, _, found, second_friends, shared, ?_, ecdh⟩
      unfold authRow
      cases AuthManager.openedColumn P oldPassword row.sharedSecret <;> rfl

theorem opened_wrap (lawful : P.Lawful) (plain password : Bytes) (entropy : Entropy) :
    opened P password (some (wrap P plain password entropy)) = some plain := by
  show (unwrap P (wrap P plain password entropy) password).toOption = some plain
  rw [unwrap_wrap lawful, if_pos rfl]
  rfl

/-- Under the new password a re-wrapped column opens to what it held; one that was left does so
only if it opened to that already. -/
theorem opened_rewrapped_iff (lawful : P.Lawful) {entropy : Entropy} {column : Option Wrapper} :
    opened P newPassword (((AuthManager.openedColumn P oldPassword column).map fun plain =>
        wrap P plain newPassword entropy).or column) = opened P newPassword column ↔
      ∀ wrapper plain, column = some wrapper → unwrap P wrapper oldPassword = .ok plain →
        unwrap P wrapper newPassword = .ok plain := by
  cases column with
  | none => exact iff_of_true rfl nofun
  | some wrapper =>
      have read : AuthManager.openedColumn P oldPassword (some wrapper) =
          (unwrap P wrapper oldPassword).toOption := rfl
      rw [read]
      cases opening : unwrap P wrapper oldPassword with
      | error raised =>
          refine iff_of_true rfl ?_
          rintro _ plain ⟨⟩ opened
          rw [opening] at opened
          cases opened
      | ok plain =>
          show opened P newPassword (some (wrap P plain newPassword entropy)) =
            (unwrap P wrapper newPassword).toOption ↔ _
          rw [opened_wrap lawful]
          constructor
          · rintro same _ other ⟨⟩ opened
            rw [opening] at opened
            cases opened
            cases renewed : unwrap P wrapper newPassword with
            | ok found =>
                rw [renewed] at same
                cases same
                rfl
            | error raised =>
                rw [renewed] at same
                cases same
          · intro carries
            rw [carries wrapper plain rfl opening]
            rfl

theorem unwrapped_eq_iff (lawful : P.Lawful) {made : Rewrapped Priv Pem}
    {secrets : AuthManager.Secrets Priv Pem}
    (done : rewrapSecrets P oldPassword newPassword draws session.db = .ok made)
    (read : AuthManager.readSecrets P oldPassword newPassword draws session.db = .ok secrets) :
    unwrapped P newPassword (changedRows P newPassword draws made
        session.store.ratchetStorageKey session.db) =
      unwrapped P newPassword (AuthManager.changedRows P newPassword draws secrets session.db) ↔
    (∀ name row wrapper plain, session.db.friends.get? name = some row →
      row.sharedSecret ≠ none → row.ecdhPrivEncrypted = some wrapper →
      unwrap P wrapper oldPassword = .ok plain → unwrap P wrapper newPassword = .ok plain) ∧
    ∀ key, session.store.ratchetStorageKey = some key →
      opened P newPassword (session.db.secrets .ratchetStorageKey) = some key := by
  obtain ⟨keys, settings, left, written⟩ := changedRows_settings (bothRead done read)
    session.store.ratchetStorageKey
  have friend := changedRows_friend done read session.store.ratchetStorageKey
  constructor
  · intro same
    constructor
    · intro name row wrapper plain stored shared ecdh opens
      have columns := congrFun (congrArg Unwrapped.ecdhPrivs same) name
      have rows := friend name
      rw [stored] at rows
      obtain ⟨first, second, first_row, second_row, _, second_ecdh, first_ecdh⟩ := rows
      simp only [unwrapped, first_row, second_row, Option.bind_some, second_ecdh, first_ecdh,
        if_pos (Option.isSome_iff_ne_none.mpr shared)] at columns
      exact (opened_rewrapped_iff lawful).mp columns wrapper plain ecdh opens
    · intro key held
      have columns : opened P newPassword _ = opened P newPassword _ :=
        congrFun (congrArg Unwrapped.settings same) .ratchetStorageKey
      rw [left, written, held] at columns
      rw [← columns]
      exact opened_wrap lawful _ _ _
  · rintro ⟨ecdh, ratchet⟩
    unfold unwrapped
    congr 1
    · funext key
      by_cases same : key = .ratchetStorageKey
      · rw [same, left, written]
        cases held : session.store.ratchetStorageKey with
        | none => rfl
        | some plain =>
            dsimp only
            rw [opened_wrap lawful, ratchet plain held]
      · rw [settings key same]
    · rw [keys]
    · funext name
      have rows := friend name
      cases stored : session.db.friends.get? name with
      | none =>
          rw [stored] at rows
          rw [rows.1, rows.2]
      | some row =>
          rw [stored] at rows
          obtain ⟨first, second, first_row, second_row, shared, _, _⟩ := rows
          rw [first_row, second_row, Option.bind_some, Option.bind_some, shared]
    · funext name
      have rows := friend name
      cases stored : session.db.friends.get? name with
      | none =>
          rw [stored] at rows
          rw [rows.1, rows.2]
      | some row =>
          rw [stored] at rows
          obtain ⟨first, second, first_row, second_row, _, second_ecdh, first_ecdh⟩ := rows
          rw [first_row, second_row, Option.bind_some, Option.bind_some, second_ecdh, first_ecdh]
          split
          · rename_i shared
            exact (opened_rewrapped_iff lawful).mpr fun wrapper plain column opens =>
              ecdh name row wrapper plain stored (Option.isSome_iff_ne_none.mp shared) column opens
          · rfl

theorem nothingMissed_of_agree (lawful : P.Lawful)
    (agree : ChangesAgree P oldPassword newPassword draws session)
    (changeable : Changeable P oldPassword newPassword draws session.db) :
    NothingMissed P oldPassword newPassword session := by
  obtain ⟨secrets, read⟩ := readSecrets_succeeds_iff.mpr changeable
  have ran := authChangePassword_ok_iff.mpr ⟨secrets, read, rfl⟩
  obtain ⟨first, ran'⟩ := agree.success.mpr ⟨_, ran⟩
  obtain ⟨made, done, rfl⟩ := changePassword_true_iff.mp ran'
  obtain ⟨_, rows, totp⟩ := rewrapSecrets_ok_iff.mp ⟨made, done⟩
  obtain ⟨ecdh, ratchet⟩ := (unwrapped_eq_iff lawful done read).mp (agree.secrets ran' ran).1
  exact ⟨rows, totp, ecdh, ratchet⟩

theorem agree_of_nothingMissed (lawful : P.Lawful)
    (missed : Changeable P oldPassword newPassword draws session.db →
      NothingMissed P oldPassword newPassword session) :
    ChangesAgree P oldPassword newPassword draws session := by
  refine ⟨⟨?_, ?_⟩, ?_⟩
  · rintro ⟨after, ran⟩
    obtain ⟨made, done, _⟩ := changePassword_true_iff.mp ran
    obtain ⟨secrets, read⟩ := readSecrets_succeeds_iff.mpr (rewrapSecrets_ok_iff.mp ⟨made, done⟩).1
    exact ⟨_, authChangePassword_ok_iff.mpr ⟨secrets, read, rfl⟩⟩
  · rintro ⟨after, ran⟩
    obtain ⟨secrets, read, _⟩ := authChangePassword_ok_iff.mp ran
    have changeable := readSecrets_succeeds_iff.mp ⟨secrets, read⟩
    obtain ⟨rows, totp, _, _⟩ := missed changeable
    obtain ⟨made, done⟩ := rewrapSecrets_ok_iff.mpr ⟨changeable, rows, totp⟩
    exact ⟨_, changePassword_true_iff.mpr ⟨made, done, rfl⟩⟩
  · intro first second ran ran'
    obtain ⟨made, done, rfl⟩ := changePassword_true_iff.mp ran
    obtain ⟨secrets, read, rfl⟩ := authChangePassword_ok_iff.mp ran'
    obtain ⟨_, _, ecdh, ratchet⟩ := missed (readSecrets_succeeds_iff.mp ⟨secrets, read⟩)
    exact ⟨(unwrapped_eq_iff lawful done read).mpr ⟨ecdh, ratchet⟩,
      changedStores_eq (bothRead done read) session.store⟩

/-- The two implementations of the password change agree on a session just where the older one
misses nothing. -/
theorem password_changes_agree_iff (lawful : P.Lawful) (oldPassword newPassword : Bytes)
    (draws : Draws) (session : Session Priv Pub Pem) :
    ChangesAgree P oldPassword newPassword draws session ↔
      (Changeable P oldPassword newPassword draws session.db →
        NothingMissed P oldPassword newPassword session) :=
  ⟨nothingMissed_of_agree lawful, agree_of_nothingMissed lawful⟩

end Comparison

section Toy

/-- An unlocked store whose ratchet storage key was wrapped at login. -/
def ratchetSession : Session String String (String × Bytes) where
  store := { ratchetStorageKey := some [8] }
  db := { (Database.empty : Database (String × Bytes)) with
    secrets := fun
      | .globalSecret => some (wrap toyLibraries [7] [1] (toyEntropy 0 0))
      | .ratchetStorageKey => some (wrap toyLibraries [8] [1] (toyEntropy 0 0))
      | _ => none
    keys := fun
      | .privateKeyEncrypted => some ("me", [1])
      | _ => none }

def ratchetDraws : Draws :=
  ⟨fun _ => toyEntropy 0 0, fun _ => [], fun _ => toyEntropy 0 0, fun _ => toyEntropy 0 0⟩

theorem password_changes_agree_iff_ratchet :
    ChangesAgree toyLibraries [1] [2] ratchetDraws ratchetSession ↔
      (Changeable toyLibraries [1] [2] ratchetDraws ratchetSession.db →
        NothingMissed toyLibraries [1] [2] ratchetSession) :=
  password_changes_agree_iff toyLibraries_lawful [1] [2] ratchetDraws ratchetSession

/-- The older copy leaves the ratchet storage key under the old password. -/
theorem auth_manager_misses_ratchet_key :
    ¬ ChangesAgree toyLibraries [1] [2] ratchetDraws ratchetSession := by
  intro agree
  have changeable : Changeable toyLibraries [1] [2] ratchetDraws ratchetSession.db := by
    refine ⟨⟨_, [7], rfl, ?_⟩, ("me", [1]), "me", ("me", [2]), rfl, rfl, rfl⟩
    rw [unwrap_wrap toyLibraries_lawful, if_pos rfl]
  have carried := (nothingMissed_of_agree toyLibraries_lawful agree changeable).ratchetStorageKey
    [8] rfl
  have shut : unwrap toyLibraries (wrap toyLibraries [8] [1] (toyEntropy 0 0)) [2] =
      .error .invalidTag := by
    rw [unwrap_wrap toyLibraries_lawful, if_neg (by decide)]
  have missing : opened toyLibraries [2] (some (wrap toyLibraries [8] [1] (toyEntropy 0 0))) = none := by
    show (unwrap toyLibraries (wrap toyLibraries [8] [1] (toyEntropy 0 0)) [2]).toOption = none
    rw [shut]
    rfl
  have column : ratchetSession.db.secrets .ratchetStorageKey =
      some (wrap toyLibraries [8] [1] (toyEntropy 0 0)) := rfl
  rw [column, missing] at carried
  cases carried

end Toy

end UltimateEnigma.KeyStore
