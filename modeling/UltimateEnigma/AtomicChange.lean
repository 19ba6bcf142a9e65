import UltimateEnigma.PasswordChange
import UltimateEnigma.Py.Transaction

set_option autoImplicit false

namespace UltimateEnigma.KeyStore.Stepwise

open Py

/-- What can be raised in the middle of `change_password`; other exceptions go by their name. -/
inductive Failure where
  | raised (exception : Raised)
  | sqliteError
  | other (name : String)
  | keyStoreErrorFrom (message : String) (cause : Failure)
deriving DecidableEq, Repr

/-- Caught by `except (ValueError, TypeError, json.JSONDecodeError)`. -/
def Failure.isValueOrType : Failure → Bool
  | .raised exception => exception.isValueOrType
  | _ => false

def Failure.isKeyStoreError : Failure → Bool
  | .raised exception => exception.isKeyStoreError
  | .keyStoreErrorFrom _ _ => true
  | _ => false

/-- `except (ValueError, TypeError) as e: raise KeyStoreError(…) from e`. -/
def Failure.as (message : String) (failure : Failure) : Failure :=
  if failure.isValueOrType then .keyStoreErrorFrom message failure else failure

def keyStoreError (message : String) : Failure := .raised (.keyStoreError message)

/-- `UPDATE friends SET … WHERE name=?`. -/
def updateFriend {Pem : Type} (name : String) (change : FriendRow → FriendRow)
    (db : Database Pem) : Database Pem :=
  match db.friends.get? name with
  | none => db
  | some row => { db with friends := db.friends.set name (change row) }

abbrev StepCall (Priv Pub Pem α : Type) : Type :=
  Call Failure (Transaction (KeyStore Priv Pub) (Database Pem)) α

section Operations

variable {Priv Pub Pem : Type} (P : Primitives Priv Pub Pem)
variable (faults : Point → Nat → Option Failure) (oldPassword newPassword : Bytes) (draws : Draws)

open Transaction (query execute compute rollback)

def asFailure {α : Type} (computed : Except Raised α) : Except Failure α :=
  computed.mapError .raised

def decrypt (enc : EncValue) : StepCall Priv Pub Pem Bytes :=
  compute faults .decryption (asFailure (decryptSecret P enc oldPassword))

def encrypt (plain : Bytes) (entropy : Entropy) : StepCall Priv Pub Pem Wrapper :=
  compute faults .encryption (.ok (wrap P plain newPassword entropy))

/-- One `try` of the loop: a column is decrypted, encrypted and written back. -/
def rewrapColumn (name : String) (entropy : Entropy) (write : Wrapper → FriendRow → FriendRow)
    (wrapper : Wrapper) : StepCall Priv Pub Pem (Option Bytes) :=
  Call.tryExcept Failure.isValueOrType do
    let enc ← Call.lift (asFailure (jsonLoads wrapper))
    let plain ← decrypt P faults oldPassword enc
    let wrapped ← encrypt P faults newPassword plain entropy
    execute faults (updateFriend name (write wrapped))
    return plain

def rewrapFriend (name : String) (row : FriendRow) : StepCall Priv Pub Pem (Option Bytes) :=
  match row.sharedSecret with
  | none => return none
  | some wrapper => do
      let plain ← rewrapColumn P faults oldPassword newPassword name (draws.sharedSecret name)
        (fun wrapped row => { row with sharedSecretEncrypted := some wrapped }) wrapper
      match row.ecdhPrivEncrypted with
      | none => return plain
      | some ecdhWrapper => do
          let _ ← rewrapColumn P faults oldPassword newPassword name (draws.ecdhPriv name)
            (fun wrapped row => { row with ecdhPrivEncrypted := some wrapped }) ecdhWrapper
          return plain

/-- The loop over the rows that were fetched, with `friend_updates` so far. -/
def rewrapFriends : List (String × FriendRow) → Dict String Bytes →
    StepCall Priv Pub Pem (Dict String Bytes)
  | [], updates => return updates
  | (name, row) :: rest, updates => do
      let plain ← rewrapFriend P faults oldPassword newPassword draws name row
      rewrapFriends rest (setIfSome updates name plain)

/-- The global secret, decrypted once to verify the password and once more. -/
def readGlobalSecret : StepCall Priv Pub Pem Bytes := do
  match ← query faults fun db => db.secrets .globalSecret with
  | none => Call.raise (keyStoreError "change_password: global_secret not found")
  | some wrapper => do
      let enc ← Call.lift (asFailure (jsonLoads wrapper))
      let _ ← Call.mapError (Failure.as "change_password: old password verification failed")
        (decrypt P faults oldPassword enc)
      decrypt P faults oldPassword enc

def readPrivateKey : StepCall Priv Pub Pem Priv := do
  match ← query faults fun db => db.keys .privateKeyEncrypted with
  | none => Call.raise (keyStoreError "change_password: private_key_encrypted not found")
  | some pem =>
      Call.mapError (Failure.as "change_password: cannot decrypt private key: ")
        (compute faults .decryption (asFailure (P.pemToPrivkey pem oldPassword)))

def readTotp : StepCall Priv Pub Pem (Option Bytes) := do
  match ← query faults fun db => db.secrets .totpSecretEncrypted with
  | none => return none
  | some wrapper => Call.tryExcept Failure.isValueOrType do
      let enc ← Call.lift (asFailure (jsonLoads wrapper))
      decrypt P faults oldPassword enc

/-- What the statements up to the commit have read, for the memory. -/
structure Prepared (Priv : Type) where
  globalSecret : Bytes
  priv : Priv
  friendSecrets : Dict String Bytes

def writeTotp (totp : Option Bytes) : StepCall Priv Pub Pem Unit :=
  match totp with
  | none => return ()
  | some plain => do
      let wrapped ← encrypt P faults newPassword plain (draws.secret .totpSecretEncrypted)
      execute faults fun db => db.updateSecret .totpSecretEncrypted wrapped

def writeRatchetKey : StepCall Priv Pub Pem Unit := do
  let transaction ← Call.read
  match transaction.memory.ratchetStorageKey with
  | none => return ()
  | some key => do
      let wrapped ← encrypt P faults newPassword key (draws.secret .ratchetStorageKey)
      execute faults fun db => db.setSecret .ratchetStorageKey wrapped

/-- Everything before `conn.commit()`. -/
def prepare : StepCall Priv Pub Pem (Prepared Priv) := do
  let globalSecret ← readGlobalSecret P faults oldPassword
  let priv ← readPrivateKey P faults oldPassword
  let rows ← query faults fun db => db.friends.items
  let friendSecrets ← rewrapFriends P faults oldPassword newPassword draws rows .empty
  let totp ← readTotp P faults oldPassword
  let wrapped ← encrypt P faults newPassword globalSecret (draws.secret .globalSecret)
  execute faults fun db => db.updateSecret .globalSecret wrapped
  let pem ← compute faults .encryption
    (asFailure (P.privkeyToEncryptedPem priv newPassword (draws.key .privateKeyEncrypted)))
  execute faults fun db => db.updateKey .privateKeyEncrypted pem
  writeTotp P faults newPassword draws totp
  writeRatchetKey P faults newPassword draws
  return { globalSecret, priv, friendSecrets }

/-- Step 4, behind the commit. -/
def changedStore (prepared : Prepared Priv) (store : KeyStore Priv Pub) : KeyStore Priv Pub :=
  { store with
    globalSecret := some prepared.globalSecret
    myPriv := some prepared.priv
    friends := store.friends.map fun friend =>
      (friend.1, friend.2.1, (prepared.friendSecrets.get? friend.1).or friend.2.2) }

/-- The `except` clauses of `change_password`. -/
def rollingBack (failure : Failure) : StepCall Priv Pub Pem Bool :=
  if failure.isKeyStoreError then do
    rollback faults
    Call.raise failure
  else if failure.isValueOrType || failure = .sqliteError then do
    rollback faults
    Call.raise (.keyStoreErrorFrom "change_password failed: " failure)
  else Call.raise failure

/-- `KeyStore.change_password`, point by point. -/
def changePassword : StepCall Priv Pub Pem Bool :=
  Call.handle (rollingBack faults) do
    let prepared ← prepare P faults oldPassword newPassword draws
    Transaction.commit faults
    Transaction.assign (changedStore prepared)
    return true

end Operations

section Outside

variable {Priv Pub Pem : Type} {P : Primitives Priv Pub Pem}
variable {faults : Point → Nat → Option Failure} {oldPassword newPassword : Bytes} {draws : Draws}

/-- What other connections and the rest of the program see of the call. -/
abbrev view : Transaction (KeyStore Priv Pub) (Database Pem) → KeyStore Priv Pub × Database Pem :=
  Transaction.outside

open Transaction (Uncounted keeps_query keeps_compute keeps_execute keeps_rollback
  uncounted_outside)

theorem rewrapColumn_keeps (name : String) (entropy : Entropy)
    (write : Wrapper → FriendRow → FriendRow) (wrapper : Wrapper) :
    (rewrapColumn P faults oldPassword newPassword name entropy write wrapper).Keeps
      (view : Transaction (KeyStore Priv Pub) (Database Pem) → _) :=
  Call.keeps_tryExcept (Call.keeps_bind (Call.keeps_lift _) fun _ =>
    Call.keeps_bind (keeps_compute uncounted_outside _ _) fun _ =>
    Call.keeps_bind (keeps_compute uncounted_outside _ _) fun _ =>
    Call.keeps_bind (keeps_execute _) fun _ => Call.keeps_pure _)

theorem rewrapFriend_keeps (name : String) (row : FriendRow) :
    (rewrapFriend P faults oldPassword newPassword draws name row).Keeps
      (view : Transaction (KeyStore Priv Pub) (Database Pem) → _) := by
  unfold rewrapFriend
  cases row.sharedSecret with
  | none => exact Call.keeps_pure none
  | some wrapper =>
      refine Call.keeps_bind (rewrapColumn_keeps _ _ _ _) fun plain => ?_
      cases row.ecdhPrivEncrypted with
      | none => exact Call.keeps_pure plain
      | some ecdhWrapper =>
          exact Call.keeps_bind (rewrapColumn_keeps _ _ _ _) fun _ => Call.keeps_pure plain

theorem rewrapFriends_keeps (rows : List (String × FriendRow)) (updates : Dict String Bytes) :
    (rewrapFriends P faults oldPassword newPassword draws rows updates).Keeps
      (view : Transaction (KeyStore Priv Pub) (Database Pem) → _) := by
  induction rows generalizing updates with
  | nil => exact Call.keeps_pure updates
  | cons item rest ih => exact Call.keeps_bind (rewrapFriend_keeps _ _) fun _ => ih _

theorem readGlobalSecret_keeps {τ : Type} {seen : Transaction (KeyStore Priv Pub) (Database Pem) → τ}
    (uncounted : Uncounted seen) : (readGlobalSecret P faults oldPassword).Keeps seen := by
  refine Call.keeps_bind (keeps_query uncounted _) fun stored => ?_
  cases stored with
  | none => exact Call.keeps_raise _
  | some wrapper =>
      exact Call.keeps_bind (Call.keeps_lift _) fun _ =>
        Call.keeps_bind (Call.keeps_mapError _ (keeps_compute uncounted _ _)) fun _ =>
        keeps_compute uncounted _ _

theorem readPrivateKey_keeps {τ : Type} {seen : Transaction (KeyStore Priv Pub) (Database Pem) → τ}
    (uncounted : Uncounted seen) : (readPrivateKey P faults oldPassword).Keeps seen := by
  refine Call.keeps_bind (keeps_query uncounted _) fun stored => ?_
  cases stored with
  | none => exact Call.keeps_raise _
  | some pem => exact Call.keeps_mapError _ (keeps_compute uncounted _ _)

theorem readTotp_keeps {τ : Type} {seen : Transaction (KeyStore Priv Pub) (Database Pem) → τ}
    (uncounted : Uncounted seen) : (readTotp P faults oldPassword).Keeps seen := by
  refine Call.keeps_bind (keeps_query uncounted _) fun stored => ?_
  cases stored with
  | none => exact Call.keeps_pure none
  | some wrapper =>
      exact Call.keeps_tryExcept (Call.keeps_bind (Call.keeps_lift _) fun _ =>
        keeps_compute uncounted _ _)

theorem writeTotp_keeps (totp : Option Bytes) : (writeTotp P faults newPassword draws totp).Keeps
    (view : Transaction (KeyStore Priv Pub) (Database Pem) → _) := by
  cases totp with
  | none => exact Call.keeps_pure ()
  | some plain =>
      exact Call.keeps_bind (keeps_compute uncounted_outside _ _) fun _ => keeps_execute _

theorem writeRatchetKey_keeps : (writeRatchetKey P faults newPassword draws).Keeps
    (view : Transaction (KeyStore Priv Pub) (Database Pem) → _) := by
  refine Call.keeps_bind Call.keeps_read fun transaction => ?_
  cases transaction.memory.ratchetStorageKey with
  | none => exact Call.keeps_pure ()
  | some key =>
      exact Call.keeps_bind (keeps_compute uncounted_outside _ _) fun _ => keeps_execute _

/-- Up to the commit nothing is changed that anyone else sees. -/
theorem prepare_keeps : (prepare P faults oldPassword newPassword draws).Keeps
    (view : Transaction (KeyStore Priv Pub) (Database Pem) → _) :=
  Call.keeps_bind (readGlobalSecret_keeps uncounted_outside) fun _ =>
    Call.keeps_bind (readPrivateKey_keeps uncounted_outside) fun _ =>
    Call.keeps_bind (keeps_query uncounted_outside _) fun _ =>
    Call.keeps_bind (rewrapFriends_keeps _ _) fun _ =>
    Call.keeps_bind (readTotp_keeps uncounted_outside) fun _ =>
    Call.keeps_bind (keeps_compute uncounted_outside _ _) fun _ =>
    Call.keeps_bind (keeps_execute _) fun _ =>
    Call.keeps_bind (keeps_compute uncounted_outside _ _) fun _ =>
    Call.keeps_bind (keeps_execute _) fun _ =>
    Call.keeps_bind (writeTotp_keeps _) fun _ =>
    Call.keeps_bind writeRatchetKey_keeps fun _ => Call.keeps_pure _

theorem rollingBack_keeps (failure : Failure) : (rollingBack faults failure).Keeps
    (view : Transaction (KeyStore Priv Pub) (Database Pem) → _) :=
  Call.keeps_ite (Call.keeps_bind keeps_rollback fun _ => Call.keeps_raise _)
    (Call.keeps_ite (Call.keeps_bind keeps_rollback fun _ => Call.keeps_raise _)
      (Call.keeps_raise _))

theorem rollingBack_fails (failure : Failure)
    (before : Transaction (KeyStore Priv Pub) (Database Pem)) :
    ∃ other after, (rollingBack faults failure).run before = (.error other, after) := by
  have raising (raised : Failure) : ∃ other after,
      ((Transaction.rollback faults >>= fun _ => Call.raise raised : StepCall Priv Pub Pem Bool).run
        before) = (.error other, after) := by
    rw [Call.run_bind]
    cases (Transaction.rollback faults).run before with
    | mk result after => cases result <;> exact ⟨_, _, rfl⟩
  unfold rollingBack
  split
  · exact raising failure
  · split
    · exact raising _
    · exact ⟨failure, before, rfl⟩

end Outside

section Together

variable {Priv Pub Pem : Type} (P : Primitives Priv Pub Pem) (oldPassword newPassword : Bytes)

/-- A column that opened to this with the old password was wrapped under the new one. -/
def ColumnChanged (plain : Bytes) (before after : Option Wrapper) : Prop :=
  ∃ wrapper entropy, before = some wrapper ∧ unwrap P wrapper oldPassword = .ok plain ∧
    after = some (wrap P plain newPassword entropy)

/-- A friend's row, and the secret that goes to the memory. -/
structure FriendChanged (before after : FriendRow) (update : Option Bytes) : Prop where
  secret : match update with
    | some plain => before.hasSharedSecret = true ∧ ColumnChanged P oldPassword newPassword plain
        before.sharedSecretEncrypted after.sharedSecretEncrypted
    | none => after.sharedSecretEncrypted = before.sharedSecretEncrypted
  ecdhPriv : after.ecdhPrivEncrypted = before.ecdhPrivEncrypted ∨ ∃ plain,
    ColumnChanged P oldPassword newPassword plain before.ecdhPrivEncrypted after.ecdhPrivEncrypted
  rest : { after with
    sharedSecretEncrypted := before.sharedSecretEncrypted
    ecdhPrivEncrypted := before.ecdhPrivEncrypted } = before

/-- What a change that returned has done to the database and to the memory at once. -/
structure ChangedTogether (before after : KeyStore Priv Pub × Database Pem) : Prop where
  globalSecret : ∃ plain, ColumnChanged P oldPassword newPassword plain
      (before.2.secrets .globalSecret) (after.2.secrets .globalSecret) ∧
    after.1.globalSecret = some plain
  privateKey : ∃ pem priv salt rewrapped, before.2.keys .privateKeyEncrypted = some pem ∧
    P.pemToPrivkey pem oldPassword = .ok priv ∧
    P.privkeyToEncryptedPem priv newPassword salt = .ok rewrapped ∧
    after.2.keys .privateKeyEncrypted = some rewrapped ∧ after.1.myPriv = some priv
  friends : ∃ updates : Dict String Bytes,
    after.1.friends = before.1.friends.map (fun friend =>
      (friend.1, friend.2.1, (updates.get? friend.1).or friend.2.2)) ∧
    ∀ name, match before.2.friends.get? name with
      | none => after.2.friends.get? name = none ∧ updates.get? name = none
      | some row => ∃ changed, after.2.friends.get? name = some changed ∧
          FriendChanged P oldPassword newPassword row changed (updates.get? name)
  totp : after.2.secrets .totpSecretEncrypted = before.2.secrets .totpSecretEncrypted ∨
    ∃ plain, ColumnChanged P oldPassword newPassword plain
      (before.2.secrets .totpSecretEncrypted) (after.2.secrets .totpSecretEncrypted)
  ratchetStorageKey : match before.1.ratchetStorageKey with
    | none => after.2.secrets .ratchetStorageKey = before.2.secrets .ratchetStorageKey
    | some key => ∃ entropy, after.2.secrets .ratchetStorageKey =
        some (wrap P key newPassword entropy)
  memory : after.1 = { before.1 with
    globalSecret := after.1.globalSecret
    myPriv := after.1.myPriv
    friends := after.1.friends }
  otherSecrets : ∀ key, key ≠ .globalSecret → key ≠ .totpSecretEncrypted →
    key ≠ .ratchetStorageKey → after.2.secrets key = before.2.secrets key
  otherRows : after.2.texts = before.2.texts ∧
    after.2.legacyKeyExpiry = before.2.legacyKeyExpiry ∧
      ∀ key, key ≠ .privateKeyEncrypted → after.2.keys key = before.2.keys key

variable {P oldPassword newPassword} {faults : Point → Nat → Option Failure} {draws : Draws}
variable {before after : Transaction (KeyStore Priv Pub) (Database Pem)}

theorem ok_of_asFailure {α : Type} {computed : Except Raised α} {value : α}
    (success : asFailure computed = .ok value) : computed = .ok value := by
  cases computed with
  | ok found =>
      cases success
      rfl
  | error raised => cases success

open Transaction (ok_of_query ok_of_compute ok_of_execute error_of_execute keeps_query
  keeps_compute keeps_execute uncounted_working uncounted_outside)

/-- What could be decrypted is written back; what was passed over stays. -/
theorem rewrapColumn_ok {name : String} {entropy : Entropy}
    {write : Wrapper → FriendRow → FriendRow} {wrapper : Wrapper} {result : Option Bytes}
    (ran : (rewrapColumn P faults oldPassword newPassword name entropy write wrapper).run before =
      (.ok result, after)) :
    (∃ plain, result = some plain ∧ unwrap P wrapper oldPassword = .ok plain ∧
      after.working =
        updateFriend name (write (wrap P plain newPassword entropy)) before.working) ∨
    (result = none ∧ after.working = before.working) := by
  obtain ⟨plain, rfl, wrote⟩ | ⟨raised, rfl, failed⟩ := Call.tryExcept_cases ran
  · obtain ⟨enc, parsed, wrote⟩ := Call.ok_of_run_lift_bind wrote
    obtain ⟨opened, first, decrypted, wrote⟩ := Call.ok_of_run_bind wrote
    obtain ⟨opens, first_eq⟩ := ok_of_compute decrypted
    obtain ⟨wrapped, second, encrypted, wrote⟩ := Call.ok_of_run_bind wrote
    obtain ⟨made, second_eq⟩ := ok_of_compute encrypted
    obtain ⟨_, third, written, returned⟩ := Call.ok_of_run_bind wrote
    cases made
    cases returned
    refine .inl ⟨plain, rfl, ?_, ?_⟩
    · rw [unwrap, ok_of_asFailure parsed, ok_bind]
      exact ok_of_asFailure opens
    · rw [ok_of_execute written, second_eq, first_eq]
  · refine .inr ⟨rfl, ?_⟩
    obtain stopped | ⟨enc, start, parsed, rest⟩ := Call.error_of_run_bind failed
    · rw [Call.run_lift] at stopped
      exact (congrArg (fun outcome => outcome.2.working) stopped).symm
    · rw [Call.run_lift] at parsed
      have start_eq : before = start := congrArg Prod.snd parsed
      have decrypting : ((decrypt P faults oldPassword enc).run start).2.working =
          start.working := keeps_compute uncounted_working _ _ start
      rw [← start_eq] at decrypting
      obtain stopped | ⟨opened, first, decrypted, rest⟩ := Call.error_of_run_bind rest
      · rw [← start_eq] at stopped
        rwa [stopped] at decrypting
      · rw [← start_eq] at decrypted
        rw [decrypted] at decrypting
        have encrypting : ((encrypt P faults newPassword opened entropy).run first).2.working =
            first.working := keeps_compute uncounted_working _ _ first
        obtain stopped | ⟨wrapped, second, encrypted, rest⟩ := Call.error_of_run_bind rest
        · rw [stopped] at encrypting
          exact encrypting.trans decrypting
        · rw [encrypted] at encrypting
          obtain stopped | ⟨_, third, _, rest⟩ := Call.error_of_run_bind rest
          · exact (error_of_execute stopped).trans (encrypting.trans decrypting)
          · cases rest

/-- At most the row of one friend is another. -/
structure OnlyFriend (name : String) (changed : FriendRow) (before after : Database Pem) : Prop where
  named : after.friends.get? name = some changed
  others : ∀ other, other ≠ name → after.friends.get? other = before.friends.get? other
  rest : { after with friends := before.friends } = before

theorem onlyFriend_self {name : String} {row : FriendRow} {db : Database Pem}
    (stored : db.friends.get? name = some row) : OnlyFriend name row db db :=
  ⟨stored, fun _ _ => rfl, rfl⟩

theorem onlyFriend_update {name : String} {row : FriendRow} {db : Database Pem}
    (stored : db.friends.get? name = some row) (change : FriendRow → FriendRow) :
    OnlyFriend name (change row) db (updateFriend name change db) := by
  rw [updateFriend, stored]
  refine ⟨Dict.get?_set_self _ _ _, fun other apart => Dict.get?_set_of_ne _ _ apart, rfl⟩

theorem OnlyFriend.trans {name : String} {row changed : FriendRow}
    {first second third : Database Pem} (start : OnlyFriend name row first second)
    (next : OnlyFriend name changed second third) : OnlyFriend name changed first third := by
  refine ⟨next.named, fun other apart => (next.others other apart).trans (start.others other apart),
    ?_⟩
  have rest := congrArg (fun db : Database Pem => { db with friends := first.friends }) next.rest
  exact rest.trans start.rest

theorem rewrapFriend_ok {name : String} {row : FriendRow} {plain : Option Bytes}
    (stored : before.working.friends.get? name = some row)
    (ran : (rewrapFriend P faults oldPassword newPassword draws name row).run before =
      (.ok plain, after)) :
    ∃ changed, OnlyFriend name changed before.working after.working ∧
      FriendChanged P oldPassword newPassword row changed plain := by
  unfold rewrapFriend at ran
  cases shared : row.sharedSecret with
  | none =>
      rw [shared] at ran
      cases ran
      exact ⟨row, onlyFriend_self stored, rfl, .inl rfl, rfl⟩
  | some wrapper =>
      rw [shared] at ran
      obtain ⟨has, column⟩ : row.hasSharedSecret = true ∧
          row.sharedSecretEncrypted = some wrapper := by
        rw [FriendRow.sharedSecret] at shared
        split at shared
        · rename_i has
          exact ⟨has, shared⟩
        · cases shared
      obtain ⟨secret, middle, secretRan, ran⟩ := Call.ok_of_run_bind ran
      -- the shared secret's `try`
      obtain ⟨half, only, changed, same, halfRow⟩ : ∃ half,
          OnlyFriend name half before.working middle.working ∧
          FriendChanged P oldPassword newPassword row half secret ∧
          half.ecdhPrivEncrypted = row.ecdhPrivEncrypted ∧
          half = { row with sharedSecretEncrypted := half.sharedSecretEncrypted } := by
        obtain ⟨opened, rfl, opens, written⟩ | ⟨rfl, kept⟩ := rewrapColumn_ok secretRan
        · rw [written]
          exact ⟨_, onlyFriend_update stored _,
            ⟨⟨has, wrapper, _, column, opens, rfl⟩, .inl rfl, rfl⟩, rfl, rfl⟩
        · rw [kept]
          exact ⟨row, onlyFriend_self stored, ⟨rfl, .inl rfl, rfl⟩, rfl, rfl⟩
      cases ecdh : row.ecdhPrivEncrypted with
      | none =>
          rw [ecdh] at ran
          cases ran
          exact ⟨half, only, changed⟩
      | some ecdhWrapper =>
          rw [ecdh] at ran
          obtain ⟨ecdhPlain, last, ecdhRan, returned⟩ := Call.ok_of_run_bind ran
          cases returned
          obtain ⟨opened, _, opens, written⟩ | ⟨_, kept⟩ := rewrapColumn_ok ecdhRan
          · rw [written]
            refine ⟨_, only.trans (onlyFriend_update only.named _), changed.secret,
              .inr ⟨opened, ecdhWrapper, _, ecdh, opens, rfl⟩, ?_⟩
            rw [halfRow]
          · rw [kept]
            exact ⟨half, only, changed⟩

/-- The loop over rows of different names, as they are stored. -/
theorem rewrapFriends_ok {rows : List (String × FriendRow)} {updates result : Dict String Bytes}
    (unique : (rows.map Prod.fst).Nodup)
    (stored : ∀ item ∈ rows, before.working.friends.get? item.1 = some item.2 ∧
      updates.get? item.1 = none)
    (ran : (rewrapFriends P faults oldPassword newPassword draws rows updates).run before =
      (.ok result, after)) :
    (∀ item ∈ rows, ∃ changed, after.working.friends.get? item.1 = some changed ∧
      FriendChanged P oldPassword newPassword item.2 changed (result.get? item.1)) ∧
    (∀ name, name ∉ rows.map Prod.fst →
      after.working.friends.get? name = before.working.friends.get? name ∧
        result.get? name = updates.get? name) ∧
    { after.working with friends := before.working.friends } = before.working := by
  induction rows generalizing before updates with
  | nil =>
      cases ran
      exact ⟨fun _ absent => absurd absent List.not_mem_nil, fun _ _ => ⟨rfl, rfl⟩, rfl⟩
  | cons item rest ih =>
      obtain ⟨plain, middle, first, ran⟩ := Call.ok_of_run_bind ran
      obtain ⟨row_stored, unset⟩ := stored item List.mem_cons_self
      obtain ⟨changed, only, friend⟩ := rewrapFriend_ok row_stored first
      rw [List.map_cons, List.nodup_cons] at unique
      have update : ∀ name, (setIfSome updates item.1 plain).get? name =
          if name = item.1 then plain else updates.get? name := by
        intro name
        cases plain with
        | none =>
            by_cases same : name = item.1
            · rw [if_pos same, same]
              exact unset
            · rw [if_neg same]
              rfl
        | some bytes =>
            rw [setIfSome, Dict.get?_set]
      obtain ⟨members, others, same⟩ := ih unique.2 (fun other member => by
        have apart : other.1 ≠ item.1 := fun clash =>
          unique.1 (clash ▸ List.mem_map_of_mem member)
        obtain ⟨other_stored, other_unset⟩ := stored other (List.mem_cons_of_mem _ member)
        rw [only.others _ apart, update, if_neg apart]
        exact ⟨other_stored, other_unset⟩) ran
      refine ⟨?_, ?_, ?_⟩
      · intro other member
        obtain rfl | later := List.mem_cons.mp member
        · obtain ⟨kept, updated⟩ := others other.1 unique.1
          refine ⟨changed, kept.trans only.named, ?_⟩
          rw [updated, update, if_pos rfl]
          exact friend
        · exact members other later
      · intro name absent
        rw [List.map_cons, List.mem_cons, not_or] at absent
        obtain ⟨kept, updated⟩ := others name absent.2
        rw [kept, updated, only.others _ absent.1, update, if_neg absent.1]
        exact ⟨rfl, rfl⟩
      · have rest_same := congrArg
          (fun db : Database Pem => { db with friends := before.working.friends }) same
        exact rest_same.trans only.rest

theorem ok_of_mapError {ε σ α : Type} {change : ε → ε} {call : Call ε σ α} {object last : σ}
    {value : α} (ran : (Call.mapError change call).run object = (.ok value, last)) :
    call.run object = (.ok value, last) :=
  (Call.run_mapError_ok_iff _ _ _ _ _).mp ran

theorem readGlobalSecret_ok {plain : Bytes}
    (ran : (readGlobalSecret P faults oldPassword).run before = (.ok plain, after)) :
    after.working = before.working ∧ ∃ wrapper,
      before.working.secrets .globalSecret = some wrapper ∧
        unwrap P wrapper oldPassword = .ok plain := by
  refine ⟨(readGlobalSecret_keeps uncounted_working).of_run ran, ?_⟩
  obtain ⟨stored, first, read, ran⟩ := Call.ok_of_run_bind ran
  obtain ⟨stored_eq, _⟩ := ok_of_query read
  cases stored with
  | none => cases ran
  | some wrapper =>
      obtain ⟨enc, parsed, ran⟩ := Call.ok_of_run_lift_bind ran
      obtain ⟨_, second, _, ran⟩ := Call.ok_of_run_bind ran
      obtain ⟨opens, _⟩ := ok_of_compute ran
      refine ⟨wrapper, stored_eq.symm, ?_⟩
      rw [unwrap, ok_of_asFailure parsed, ok_bind]
      exact ok_of_asFailure opens

theorem readPrivateKey_ok {priv : Priv}
    (ran : (readPrivateKey P faults oldPassword).run before = (.ok priv, after)) :
    after.working = before.working ∧ ∃ pem,
      before.working.keys .privateKeyEncrypted = some pem ∧
        P.pemToPrivkey pem oldPassword = .ok priv := by
  refine ⟨(readPrivateKey_keeps uncounted_working).of_run ran, ?_⟩
  obtain ⟨stored, first, read, ran⟩ := Call.ok_of_run_bind ran
  obtain ⟨stored_eq, _⟩ := ok_of_query read
  cases stored with
  | none => cases ran
  | some pem =>
      obtain ⟨opens, _⟩ := ok_of_compute (ok_of_mapError ran)
      exact ⟨pem, stored_eq.symm, ok_of_asFailure opens⟩

theorem readTotp_ok {totp : Option Bytes}
    (ran : (readTotp P faults oldPassword).run before = (.ok totp, after)) :
    after.working = before.working ∧ ∀ plain, totp = some plain → ∃ wrapper,
      before.working.secrets .totpSecretEncrypted = some wrapper ∧
        unwrap P wrapper oldPassword = .ok plain := by
  refine ⟨(readTotp_keeps uncounted_working).of_run ran, ?_⟩
  rintro plain rfl
  obtain ⟨stored, first, read, ran⟩ := Call.ok_of_run_bind ran
  obtain ⟨stored_eq, _⟩ := ok_of_query read
  cases stored with
  | none => cases ran
  | some wrapper =>
      obtain ⟨_, ⟨⟩, opened⟩ | ⟨_, ⟨⟩, _⟩ := Call.tryExcept_cases ran
      obtain ⟨enc, parsed, opened⟩ := Call.ok_of_run_lift_bind opened
      obtain ⟨opens, _⟩ := ok_of_compute opened
      refine ⟨wrapper, stored_eq.symm, ?_⟩
      rw [unwrap, ok_of_asFailure parsed, ok_bind]
      exact ok_of_asFailure opens

theorem writeTotp_ok {totp : Option Bytes} {result : Unit}
    (ran : (writeTotp P faults newPassword draws totp).run before = (.ok result, after)) :
    after.working = rewriteTotp P newPassword draws totp before.working := by
  cases totp with
  | none =>
      cases ran
      rfl
  | some plain =>
      obtain ⟨wrapped, first, encrypted, written⟩ := Call.ok_of_run_bind ran
      obtain ⟨made, kept⟩ := ok_of_compute encrypted
      cases made
      rw [ok_of_execute written, kept]
      rfl

theorem writeRatchetKey_ok {result : Unit}
    (ran : (writeRatchetKey P faults newPassword draws).run before = (.ok result, after)) :
    after.working = rewriteRatchetKey P newPassword draws before.memory.ratchetStorageKey
      before.working := by
  rw [writeRatchetKey, Call.run_read_bind] at ran
  cases held : before.memory.ratchetStorageKey with
  | none =>
      rw [held] at ran
      cases ran
      rfl
  | some key =>
      rw [held] at ran
      obtain ⟨wrapped, first, encrypted, written⟩ := Call.ok_of_run_bind ran
      obtain ⟨made, kept⟩ := ok_of_compute encrypted
      cases made
      rw [ok_of_execute written, kept]
      rfl

/-- The rows that the statements up to the commit leave, and what was read for the memory. -/
theorem prepare_ok {prepared : Prepared Priv}
    (ran : (prepare P faults oldPassword newPassword draws).run before = (.ok prepared, after)) :
    ∃ friends totp pem,
      (∃ wrapper, before.working.secrets .globalSecret = some wrapper ∧
        unwrap P wrapper oldPassword = .ok prepared.globalSecret) ∧
      (∃ current, before.working.keys .privateKeyEncrypted = some current ∧
        P.pemToPrivkey current oldPassword = .ok prepared.priv) ∧
      P.privkeyToEncryptedPem prepared.priv newPassword (draws.key .privateKeyEncrypted) =
        .ok pem ∧
      (∀ plain, totp = some plain → ∃ wrapper,
        before.working.secrets .totpSecretEncrypted = some wrapper ∧
          unwrap P wrapper oldPassword = .ok plain) ∧
      (∀ name, match before.working.friends.get? name with
        | none => friends.get? name = none ∧ prepared.friendSecrets.get? name = none
        | some row => ∃ changed, friends.get? name = some changed ∧ FriendChanged P oldPassword
            newPassword row changed (prepared.friendSecrets.get? name)) ∧
      after.working = rewriteRatchetKey P newPassword draws before.memory.ratchetStorageKey
        (rewriteTotp P newPassword draws totp
          (({ before.working with friends := friends }.updateSecret .globalSecret
            (wrap P prepared.globalSecret newPassword (draws.secret .globalSecret))).updateKey
              .privateKeyEncrypted pem)) := by
  obtain ⟨globalSecret, first, globalRan, ran⟩ := Call.ok_of_run_bind ran
  obtain ⟨priv, second, privRan, ran⟩ := Call.ok_of_run_bind ran
  obtain ⟨rows, third, rowsRan, ran⟩ := Call.ok_of_run_bind ran
  obtain ⟨friendSecrets, fourth, friendsRan, ran⟩ := Call.ok_of_run_bind ran
  obtain ⟨totp, fifth, totpRan, ran⟩ := Call.ok_of_run_bind ran
  obtain ⟨wrapped, sixth, wrapRan, ran⟩ := Call.ok_of_run_bind ran
  obtain ⟨_, seventh, globalWritten, ran⟩ := Call.ok_of_run_bind ran
  obtain ⟨pem, eighth, pemRan, ran⟩ := Call.ok_of_run_bind ran
  obtain ⟨_, ninth, pemWritten, ran⟩ := Call.ok_of_run_bind ran
  obtain ⟨_, tenth, totpWritten, ran⟩ := Call.ok_of_run_bind ran
  obtain ⟨_, last, ratchetWritten, returned⟩ := Call.ok_of_run_bind ran
  cases returned
  -- the reads leave the rows alone
  obtain ⟨first_rows, global⟩ := readGlobalSecret_ok globalRan
  obtain ⟨second_rows, current⟩ := readPrivateKey_ok privRan
  rw [first_rows] at second_rows current
  obtain ⟨rfl, third_eq⟩ := ok_of_query rowsRan
  have third_rows : third.working = before.working := by
    rw [third_eq]
    exact second_rows
  rw [second_rows] at friendsRan
  have loop := rewrapFriends_ok before.working.friends.nodup (fun item member =>
    ⟨by rw [third_rows]; exact before.working.friends.get?_of_mem member, Dict.get?_empty _⟩)
    friendsRan
  obtain ⟨members, others, fourth_rest⟩ := loop
  rw [third_rows] at fourth_rest others
  obtain ⟨fifth_rows, totpRow⟩ := readTotp_ok totpRan
  have totp_column : fourth.working.secrets = before.working.secrets := by
    have column := congrArg Database.secrets fourth_rest
    exact column
  rw [totp_column] at totpRow
  obtain ⟨made, sixth_rows⟩ := ok_of_compute wrapRan
  cases made
  have seventh_rows := ok_of_execute globalWritten
  obtain ⟨pemMade, eighth_rows⟩ := ok_of_compute pemRan
  have ninth_rows := ok_of_execute pemWritten
  have tenth_rows := writeTotp_ok totpWritten
  have last_rows := writeRatchetKey_ok ratchetWritten
  -- what is in memory is the same when the storage key is written
  have memory : tenth.memory = before.memory := by
    have kept : (view tenth) = view before :=
      ((writeTotp_keeps totp).of_run totpWritten).trans
        (((keeps_execute _).of_run pemWritten).trans
          (((keeps_compute uncounted_outside _ _).of_run pemRan).trans
            (((keeps_execute _).of_run globalWritten).trans
              (((keeps_compute uncounted_outside _ _).of_run wrapRan).trans
                (((readTotp_keeps uncounted_outside).of_run totpRan).trans
                  (((rewrapFriends_keeps _ _).of_run friendsRan).trans
                    (((keeps_query uncounted_outside _).of_run rowsRan).trans
                      (((readPrivateKey_keeps uncounted_outside).of_run privRan).trans
                        ((readGlobalSecret_keeps uncounted_outside).of_run globalRan)))))))))
    exact congrArg Prod.fst kept
  refine ⟨fourth.working.friends, totp, pem, global, current, ok_of_asFailure pemMade, totpRow,
    fun name => ?_, ?_⟩
  · cases stored : before.working.friends.get? name with
    | none =>
        obtain ⟨kept, unset⟩ := others name ((Dict.get?_eq_none_iff _ _).mp stored)
        exact ⟨kept.trans stored, unset.trans (Dict.get?_empty _)⟩
    | some row => exact members (name, row) (Dict.mem_of_get? stored)
  · have fourth_rows : fourth.working =
        { before.working with friends := fourth.working.friends } :=
      congrArg (fun db : Database Pem => { db with friends := fourth.working.friends }) fourth_rest
    rw [last_rows, memory, tenth_rows, ninth_rows, eighth_rows, seventh_rows, sixth_rows,
      fifth_rows, fourth_rows]

/-- The statements up to the commit, committed, and what is assigned behind it belong together. -/
theorem changedTogether_of_prepare {prepared : Prepared Priv}
    (ran : (prepare P faults oldPassword newPassword draws).run before = (.ok prepared, after)) :
    ChangedTogether P oldPassword newPassword (before.memory, before.working)
      (changedStore prepared before.memory, after.working) := by
  obtain ⟨friends, totp, pem, ⟨wrapper, stored, opens⟩, ⟨current, present, priv_ok⟩, made, totpRow,
    rows, working⟩ := prepare_ok ran
  let middle := ({ before.working with friends := friends }.updateSecret .globalSecret
    (wrap P prepared.globalSecret newPassword (draws.secret .globalSecret))).updateKey
      .privateKeyEncrypted pem
  let second := rewriteTotp P newPassword draws totp middle
  obtain ⟨texts, keys, expiry, friends_eq, secrets⟩ := rewriteTotp_other P newPassword draws totp
    middle
  obtain ⟨texts', keys', expiry', friends_eq', secrets'⟩ := rewriteRatchetKey_other P newPassword
    draws before.memory.ratchetStorageKey second
  have after_eq : after.working =
      rewriteRatchetKey P newPassword draws before.memory.ratchetStorageKey second := working
  rw [after_eq]
  have middle_global : middle.secrets .globalSecret =
      some (wrap P prepared.globalSecret newPassword (draws.secret .globalSecret)) := by
    simp only [middle, Database.updateSecret, Database.updateKey, Function.update_self, stored,
      Option.map_some]
  have middle_other : ∀ key, key ≠ .globalSecret →
      middle.secrets key = before.working.secrets key := by
    intro key apart
    exact Function.update_of_ne apart _ _
  have untouched : ∀ key, key ≠ .globalSecret → key ≠ .totpSecretEncrypted →
      key ≠ .ratchetStorageKey →
      (rewriteRatchetKey P newPassword draws before.memory.ratchetStorageKey second).secrets key =
        before.working.secrets key := by
    intro key notGlobal notTotp notRatchet
    rw [secrets' key notRatchet, secrets key notTotp, middle_other key notGlobal]
  refine ⟨⟨prepared.globalSecret, ⟨wrapper, draws.secret .globalSecret, stored, opens, ?_⟩, rfl⟩,
    ⟨current, prepared.priv, _, pem, present, priv_ok, made, ?_, rfl⟩,
    ⟨prepared.friendSecrets, rfl, ?_⟩, ?_, ?_, rfl, untouched,
    texts'.trans texts, expiry'.trans expiry, ?_⟩
  · exact (secrets' .globalSecret (by decide)).trans
      ((secrets .globalSecret (by decide)).trans middle_global)
  · refine (congrFun (keys'.trans keys) _).trans ?_
    simp only [middle, Database.updateSecret, Database.updateKey, Function.update_self, present,
      Option.map_some]
  · rw [friends_eq'.trans friends_eq]
    exact rows
  · cases totp with
    | none =>
        exact .inl ((secrets' .totpSecretEncrypted (by decide)).trans
          (middle_other .totpSecretEncrypted (by decide)))
    | some plain =>
        obtain ⟨totpWrapper, totpStored, totpOpens⟩ := totpRow plain rfl
        refine .inr ⟨plain, totpWrapper, draws.secret .totpSecretEncrypted, totpStored, totpOpens,
          (secrets' .totpSecretEncrypted (by decide)).trans ?_⟩
        have column : middle.secrets .totpSecretEncrypted = some totpWrapper :=
          (middle_other .totpSecretEncrypted (by decide)).trans totpStored
        simp only [second, rewriteTotp, Database.updateSecret, Function.update_self, column,
          Option.map_some]
  · dsimp only
    cases held : before.memory.ratchetStorageKey with
    | none =>
        exact (secrets .ratchetStorageKey (by decide)).trans
          (middle_other .ratchetStorageKey (by decide))
    | some key =>
        refine ⟨draws.secret .ratchetStorageKey, ?_⟩
        simp only [rewriteRatchetKey, Database.setSecret, Function.update_self]
  · intro key apart
    refine (congrFun (keys'.trans keys) key).trans ?_
    exact Function.update_of_ne apart _ _

end Together

section Atomicity

variable {Priv Pub Pem : Type}

/-- The call leaves the outside alone, or it has prepared, committed and assigned. -/
theorem changePassword_cases (P : Primitives Priv Pub Pem)
    (faults : Point → Nat → Option Failure) (oldPassword newPassword : Bytes) (draws : Draws)
    (before : Transaction (KeyStore Priv Pub) (Database Pem)) :
    (∃ raised after, (changePassword P faults oldPassword newPassword draws).run before =
        (.error raised, after) ∧ after.outside = before.outside) ∨
    ∃ prepared middle after,
      (prepare P faults oldPassword newPassword draws).run before = (.ok prepared, middle) ∧
      (changePassword P faults oldPassword newPassword draws).run before = (.ok true, after) ∧
      after.outside = (changedStore prepared before.memory, middle.working) :=
  Transaction.atomic_of_prepares prepare_keeps rollingBack_keeps rollingBack_fails before

/-- Wherever a read, a decryption, an encryption or a statement fails, with whatever exception: a
password change that raises leaves the memory and the committed rows exactly as they were, and one
that returns `True` has changed both together. -/
theorem change_password_atomic (P : Primitives Priv Pub Pem) (faults : Point → Nat → Option Failure)
    (oldPassword newPassword : Bytes) (draws : Draws) (session : Session Priv Pub Pem) :
    match (changePassword P faults oldPassword newPassword draws).run
      (.opened session.store session.db) with
    | (.error _, after) => after.outside = (session.store, session.db)
    | (.ok changed, after) => changed = true ∧
        ChangedTogether P oldPassword newPassword (session.store, session.db) after.outside := by
  obtain ⟨raised, after, failed, kept⟩ | ⟨prepared, middle, after, ran, returned, left⟩ :=
    changePassword_cases P faults oldPassword newPassword draws (.opened session.store session.db)
  · rw [failed]
    exact kept
  · rw [returned]
    refine ⟨rfl, ?_⟩
    rw [left]
    exact changedTogether_of_prepare ran

end Atomicity

end UltimateEnigma.KeyStore.Stepwise
