import UltimateEnigma.BackupExport
import UltimateEnigma.ClosedWrappers
import UltimateEnigma.FailedImports
import UltimateEnigma.LoadFrames

set_option autoImplicit false

namespace UltimateEnigma

open Py

namespace KeyStore

section Bare

variable {Priv Pub Pem : Type} {P : Primitives Priv Pub Pem} {platform : Platform}
variable {password : Bytes} {now : Rat} {draws : LoadDraws}

/-- The row of a friend whose other columns are `NULL`. -/
def bareRow (row : FriendRow) : FriendRow :=
  { row with
    capabilitiesJson := none
    ratchetStateJson := none
    pqcCombinedPubB64 := none
    hybridSigPubB64 := none
    ecdhPrivEncrypted := none }

/-- No keys but the first ones are stored. -/
structure FirstKeysOnly (db : Database Pem) : Prop where
  legacy : db.keys .legacyPrivateKeyEncrypted = none
  kyber : db.secrets .kyberPrivEncrypted = none
  x25519 : db.secrets .pqcX25519PrivEncrypted = none
  pqcPub : db.texts .pqcCombinedPubB64 = none
  ed25519 : db.secrets .ed25519PrivEncrypted = none
  dilithium : db.secrets .dilithiumPrivEncrypted = none
  hybridPub : db.texts .hybridSigCombinedPubB64 = none

/-- What is read of the first keys. -/
structure ReadsFirstKeys (P : Primitives Priv Pub Pem) (password : Bytes) (db : Database Pem)
    (pub : Pub) (priv : Priv) (globalSecret : Option Bytes) : Prop where
  pub : ∃ pem, db.texts .publicKey = some pem ∧ P.pemToPubkey pem = .ok pub
  priv : ∃ pem, db.keys .privateKeyEncrypted = some pem ∧ P.pemToPrivkey pem password = .ok priv
  globalSecret : unwrapColumn P (db.secrets .globalSecret) password = .ok globalSecret

variable (P) in
/-- The store with the first keys and no others. -/
def withFirstKeys (store : KeyStore Priv Pub) (pub : Pub) (priv : Priv)
    (globalSecret : Option Bytes) : KeyStore Priv Pub :=
  { withGlobalSecret (withLegacy (withPriv (withPub P store pub) priv) none) globalSecret with
    myKyberPriv := none
    myPqcCombinedPub := none
    cachedPqcBundle := none
    myEdPriv := none
    myDilPriv := none
    myHybridSigCombinedPub := none }

theorem loadOwnKeys_firstKeys {db : Database Pem} (only : FirstKeysOnly db) {pub : Pub}
    {priv : Priv} {globalSecret : Option Bytes}
    (reads : ReadsFirstKeys P password db pub priv globalSecret) (store : KeyStore Priv Pub) :
    (loadOwnKeys P platform password now).run ⟨store, db⟩ =
      (.ok true, ⟨withFirstKeys P store pub priv globalSecret, db⟩) := by
  have first : (loadPublicKey P).run ⟨store, db⟩ = (.ok (), ⟨withPub P store pub, db⟩) :=
    loadPublicKey_ok_iff.mpr ⟨pub, reads.pub, rfl⟩
  have second : (loadPrivateKey P password).run ⟨withPub P store pub, db⟩ =
      (.ok true, ⟨withPriv (withPub P store pub) priv, db⟩) :=
    loadPrivateKey_true_iff.mpr ⟨priv, reads.priv, rfl⟩
  have third : (loadLegacyKey P password now).run ⟨withPriv (withPub P store pub) priv, db⟩ =
      (.ok (), ⟨withLegacy (withPriv (withPub P store pub) priv) none, db⟩) := by
    refine loadLegacyKey_ok_iff.mpr ⟨none, ?_, ?_⟩
    · rw [readLegacyKey, only.legacy]
    · rw [keepUnexpired, only.legacy]
  have fourth : (loadGlobalSecret P password).run
      ⟨withLegacy (withPriv (withPub P store pub) priv) none, db⟩ = (.ok true, ⟨withGlobalSecret
        (withLegacy (withPriv (withPub P store pub) priv) none) globalSecret, db⟩) :=
    loadGlobalSecret_true_iff.mpr ⟨globalSecret, reads.globalSecret, rfl⟩
  have kyber (store : KeyStore Priv Pub) : (loadKyberKey P password).run ⟨store, db⟩ =
      (.ok (), ⟨withKyber store none, db⟩) := by
    rw [loadKyberKey, run_assign_bind, Call.run_read_bind, only.kyber]
    rfl
  have pqcPub (store : KeyStore Priv Pub) : (loadPqcCombinedPub : StoreCall Priv Pub Pem Unit).run
      ⟨store, db⟩ = (.ok (), ⟨store, db⟩) := by
    rw [loadPqcCombinedPub, Call.run_read_bind, only.pqcPub]
    rfl
  have bundle (store : KeyStore Priv Pub) : (cachePqcBundle P password).run
      ⟨withKyber store none, db⟩ =
        (.ok (), ⟨{ withKyber store none with cachedPqcBundle := none }, db⟩) := by
    rw [cachePqcBundle, run_assign_bind, Call.run_read_bind]
    rfl
  have hybrid (store : KeyStore Priv Pub) : (loadHybridSigning P platform password).run
      ⟨store, db⟩ = (.ok (), ⟨withHybrid store none none, db⟩) := by
    rw [loadHybridSigning, run_assign_bind, Call.run_ite]
    split
    · have keys (other : KeyStore Priv Pub) : (loadHybridPrivateKeys P password).run ⟨other, db⟩ =
          (.ok (), ⟨other, db⟩) := by
        rw [loadHybridPrivateKeys, Call.run_read_bind, only.ed25519]
        rfl
      rw [Call.run_bind_of_ok (keys _), loadHybridCombinedPub, Call.run_read_bind, only.hybridPub]
      rfl
    · rfl
  rw [loadOwnKeys, Call.run_bind_of_ok first, Call.run_bind_of_ok second, if_pos rfl,
    Call.run_bind_of_ok third, Call.run_bind_of_ok fourth, if_pos rfl,
    Call.run_bind_of_ok (kyber _), Call.run_bind_of_ok (pqcPub _), Call.run_bind_of_ok (bundle _),
    Call.run_bind_of_ok (hybrid _)]
  rfl

/-- A load with any other rows has read the first keys too. -/
theorem readsFirstKeys_of_load {session after : Session Priv Pub Pem}
    (loaded : (load P platform password now draws).run session = (.ok true, after)) :
    ∃ pub priv globalSecret, ReadsFirstKeys P password session.db pub priv globalSecret ∧
      after.store.myPub = some pub ∧ after.store.myPriv = some priv ∧
      after.store.globalSecret = globalSecret := by
  obtain ⟨middle, read, key, db, own, _, _, rfl⟩ := load_true_iff_stages.mp loaded
  obtain ⟨_, _, first, own⟩ := Call.ok_of_run_bind own
  obtain ⟨pub, pubRead, rfl⟩ := loadPublicKey_ok_iff.mp first
  obtain ⟨opened, _, second, own⟩ := Call.ok_of_run_bind own
  cases opened with
  | false => cases own
  | true =>
      obtain ⟨priv, privRead, rfl⟩ := loadPrivateKey_true_iff.mp second
      obtain ⟨_, _, third, own⟩ := Call.ok_of_run_bind own
      obtain ⟨legacy, legacyRead, rfl⟩ := loadLegacyKey_ok_iff.mp third
      obtain ⟨opened, _, fourth, own⟩ := Call.ok_of_run_bind own
      cases opened with
      | false => cases own
      | true =>
          obtain ⟨globalSecret, secretRead, rfl⟩ := loadGlobalSecret_true_iff.mp fourth
          rw [keepUnexpired_secrets] at secretRead
          have sees : SeesOnly (fun store : KeyStore Priv Pub =>
              (store.myPub, store.myPriv, store.globalSecret))
              (fun session : Session Priv Pub Pem =>
                (session.store.myPub, session.store.myPriv, session.store.globalSecret)) :=
            fun _ _ same => same
          have hybrid : (loadHybridSigning P platform password).Keeps _ :=
            loadHybridSigning_keeps sees password
          have kept := Call.keeps_bind (loadKyberKey_keeps (P := P) sees password) fun _ =>
            Call.keeps_bind (loadPqcCombinedPub_keeps sees) fun _ =>
            Call.keeps_bind (cachePqcBundle_keeps (P := P) sees password) fun _ =>
            Call.keeps_bind hybrid fun _ => Call.keeps_pure (ε := Raised) true
          rw [if_pos rfl] at own
          have same := kept.of_run own
          simp only [Prod.mk.injEq] at same
          obtain ⟨samePub, samePriv, sameSecret⟩ := same
          refine ⟨pub, priv, globalSecret, ⟨pubRead, privRead, secretRead⟩, ?_, ?_, ?_⟩
          · exact (addFriends_keeps myPub (fun _ _ _ => rfl) read _).trans samePub
          · exact (addFriends_keeps myPriv (fun _ _ _ => rfl) read _).trans samePriv
          · exact (addFriends_keeps KeyStore.globalSecret (fun _ _ _ => rfl) read _).trans
              sameSecret

variable (P) in
/-- The rows after a ratchet storage key was made for them. -/
def withStorageKey (password : Bytes) (draws : LoadDraws) (db : Database Pem) : Database Pem :=
  (db.setSecret .ratchetStorageKey
    (wrap P draws.ratchetKey password draws.ratchetKeyEntropy)).deleteText .ratchetHkdfSalt

theorem withStorageKey_secrets (db : Database Pem) {key : SecretSetting}
    (apart : key ≠ .ratchetStorageKey) :
    (withStorageKey P password draws db).secrets key = db.secrets key :=
  Function.update_of_ne apart _ _

section Reloading

variable {db : Database Pem} {pub : Pub} {priv : Priv} {globalSecret : Option Bytes}
variable {read : List ((String × FriendRow) × LoadedFriend Pub)}

/-- A load of the first keys and the friends, with whatever ratchet storage key it comes to. -/
theorem load_firstKeys (only : FirstKeysOnly db)
    (reads : ReadsFirstKeys P password db pub priv globalSecret)
    (friends : readFriends P platform password db.friends.items = .ok read)
    (store : KeyStore Priv Pub) {key : Bytes} {after : Database Pem}
    (ratchet : ∀ store : KeyStore Priv Pub, (loadRatchetStorageKey P password draws).run
      ⟨store, db⟩ = (.ok (some key), ⟨store, after⟩)) :
    (load P platform password now draws).run ⟨store, db⟩ =
      (.ok true, ⟨withRatchetKey (addFriends read (withoutFriends
        (withFirstKeys P store pub priv globalSecret))) key, after⟩) :=
  load_true_iff_stages.mpr ⟨_, read, key, after, loadOwnKeys_firstKeys only reads store, friends,
    ratchet _, rfl⟩

theorem loadRatchetStorageKey_made (unstored : db.secrets .ratchetStorageKey = none)
    (unsalted : db.texts .ratchetHkdfSalt = none) (store : KeyStore Priv Pub) :
    (loadRatchetStorageKey P password draws).run ⟨store, db⟩ =
      (.ok (some draws.ratchetKey), ⟨store, withStorageKey P password draws db⟩) := by
  rw [loadRatchetStorageKey, Call.run_read_bind, unstored]
  dsimp only
  rw [newRatchetStorageKey_unsalted unsalted]
  rfl

theorem loadRatchetStorageKey_stored {wrapper : Wrapper} {key : Bytes}
    (stored : db.secrets .ratchetStorageKey = some wrapper)
    (opened : unwrap P wrapper password = .ok key) (store : KeyStore Priv Pub) :
    (loadRatchetStorageKey P password draws).run ⟨store, db⟩ = (.ok (some key), ⟨store, db⟩) := by
  rw [loadRatchetStorageKey, Call.run_read_bind, stored]
  dsimp only
  rw [attempt_eq_some_iff.mpr opened]
  rfl

theorem FirstKeysOnly.withStorageKey (only : FirstKeysOnly db) (password : Bytes)
    (draws : LoadDraws) : FirstKeysOnly (withStorageKey P password draws db) :=
  ⟨only.legacy, only.kyber, only.x25519, only.pqcPub, only.ed25519, only.dilithium, only.hybridPub⟩

/-- What the first load makes of the rows, the next one finds. -/
theorem load_reloaded (lawful : P.Lawful) (only : FirstKeysOnly db)
    (reads : ReadsFirstKeys P password db pub priv globalSecret)
    (friends : readFriends P platform password db.friends.items = .ok read)
    (store : KeyStore Priv Pub) {drawn : LoadDraws} :
    (load P platform password now draws).run ⟨store, withStorageKey P password drawn db⟩ =
      (.ok true, ⟨withRatchetKey (addFriends read (withoutFriends
        (withFirstKeys P store pub priv globalSecret))) drawn.ratchetKey,
          withStorageKey P password drawn db⟩) := by
  have stored : (withStorageKey P password drawn db).secrets .ratchetStorageKey =
      some (wrap P drawn.ratchetKey password drawn.ratchetKeyEntropy) := rfl
  have opened : unwrap P (wrap P drawn.ratchetKey password drawn.ratchetKeyEntropy) password =
      .ok drawn.ratchetKey := by
    rw [unwrap_wrap lawful, if_pos rfl]
  exact load_firstKeys (only.withStorageKey password drawn)
    ⟨reads.pub, reads.priv, reads.globalSecret⟩ friends store
    (loadRatchetStorageKey_stored stored opened)

end Reloading

/-- What a load finds in a bare row of what it finds in the whole one. -/
def LoadedFriend.bare (loaded : LoadedFriend Pub) : LoadedFriend Pub :=
  { loaded with ecdhPriv := none, pqcCombinedPub := none, hybridSigPubs := none }

theorem readFriend_bareRow {row : FriendRow} {loaded : LoadedFriend Pub}
    (read : readFriend P platform password row = .ok loaded) :
    readFriend P platform password (bareRow row) = .ok loaded.bare := by
  obtain ⟨pub, pub_ok, read⟩ := ok_of_bind read
  obtain ⟨secret, secret_ok, read⟩ := ok_of_bind read
  obtain ⟨ecdhPriv, _, read⟩ := ok_of_bind read
  obtain ⟨pqcPub, _, read⟩ := ok_of_bind read
  obtain ⟨hybridPubs, _, read⟩ := ok_of_bind read
  cases read
  have hybrid : (bareRow row).hybridSigPub platform = none := by
    rw [FriendRow.hybridSigPub]
    split <;> rfl
  have samePem : P.pemToPubkey (bareRow row).publicKeyPem = .ok pub := pub_ok
  have sameSecret : attemptColumn (bareRow row).sharedSecret (unwrap P · password) = .ok secret :=
    secret_ok
  rw [readFriend, samePem, ok_bind, sameSecret, ok_bind, hybrid]
  rfl

end Bare

end KeyStore

namespace BackupService

open Friends (Guard)
open KeyStore (Database FriendRecord LoadDraws Primitives Session friendRecord hex load nonempty
  nonemptyBytes opened)

section RoundTrip

variable {Priv Pub Pem : Type} (L : Libraries Priv Pub Pem)

/-- The stored TOTP secret: `load_totp_secret` tries the master password, then the global secret. -/
def storedTotpSecret (password : Bytes) (globalSecret : Option Bytes) (db : Database Pem) :
    Option Bytes :=
  (opened L.keyStore password (db.secrets .totpSecretEncrypted)).or
    ((nonemptyBytes globalSecret).bind fun secret =>
      opened L.keyStore (hex secret) (db.secrets .totpSecretEncrypted))

/-- The name of a user who has stored none; `fingerprint` is the SHA-256 of a text, in hex. -/
def fallbackName (fingerprint : String → String) (myPub : Option Pub) : String :=
  match myPub with
  | some pub =>
      "user-" ++ String.ofList ((fingerprint (L.keyStore.pubkeyToPem pub)).toList.take 8)
  | none => "anonymous"

/-- `KeyStore.my_name`. -/
def myName (fingerprint : String → String) (stored : Option String) (myPub : Option Pub) : String :=
  (nonempty stored).getD (fallbackName L fingerprint myPub)

def ratchetStateOf (db : Database Pem) (name : String) : Option String :=
  (db.friends.get? name).bind KeyStore.FriendRow.ratchetStateJson

/-- The identity and the friends are as they were loaded before the export. -/
structure SameIdentity (fingerprint : String → String) (password : Bytes) (tables : Tables)
    (before loaded : KeyStore Priv Pub) (restored : Installation Priv Pub Pem) : Prop where
  publicKey : loaded.myPub = before.myPub
  privateKey : loaded.myPriv = before.myPriv
  globalSecret : loaded.globalSecret = before.globalSecret
  pqc : loaded.myKyberPriv = before.myKyberPriv ∧
    loaded.myPqcCombinedPub = before.myPqcCombinedPub ∧
    loaded.cachedPqcBundle = before.cachedPqcBundle
  hybrid : loaded.myEdPriv = before.myEdPriv ∧ loaded.myDilPriv = before.myDilPriv ∧
    loaded.myHybridSigCombinedPub = before.myHybridSigCombinedPub
  ratchetStorageKey : loaded.ratchetStorageKey = before.ratchetStorageKey
  totp : storedTotpSecret L password loaded.globalSecret restored.session.db =
    storedTotpSecret L password before.globalSecret (tables.database L)
  name : myName L fingerprint (restored.otherSettings "my_name") loaded.myPub =
    myName L fingerprint (tables.settings.get? "my_name") before.myPub
  friends : ∀ name, friendRecord loaded name = friendRecord before name
  ratchets : ∀ name, ratchetStateOf restored.session.db name =
    ratchetStateOf (tables.database L) name

/-- A fresh store loads the same from the tables and, on whatever database the backup of them was
imported after it had been written to JSON and read back, from the restored ones. -/
def RoundTrips (text : JsonText) (fingerprint : String → String) (password : Bytes)
    (tables : Tables) (data : Json) (now : Rat) (firstDraws draws : LoadDraws) : Prop :=
  ∃ before : Session Priv Pub Pem,
    (load L.keyStore L.platform password now firstDraws).run ⟨{}, tables.database L⟩ =
      (.ok true, before) ∧
    ∃ read, text.loads (text.dumps data) = some read ∧
    ∀ (installation : Installation Priv Pub Pem) (importedAt later : Rat) (laterDraws : LoadDraws),
      ∃ restored loaded,
        (importBackup L read password (.ok ()) importedAt draws).run installation =
          (.ok (), restored) ∧
        (load L.keyStore L.platform password later laterDraws).run ⟨{}, restored.session.db⟩ =
          (.ok true, loaded) ∧
        SameIdentity L fingerprint password tables before.store loaded.store restored

/-- Nothing is kept of a friend but what an export takes along. -/
def Bare (record : FriendRecord Pub) : Prop :=
  record.ecdhPriv = none ∧ record.pqcCombinedPub = none ∧ record.hybridSigPubs = none ∧
    ∀ capabilities ∈ record.capabilities, capabilities = []

/-- Nothing was loaded or stored before the export that it leaves out, and the ratchet storage key
that the import draws is the one that there was. -/
structure NothingLeftOut (fingerprint : String → String) (password : Bytes) (tables : Tables)
    (before : KeyStore Priv Pub) (draws : LoadDraws) : Prop where
  pqc : before.myKyberPriv = none ∧ before.myPqcCombinedPub = none ∧ before.cachedPqcBundle = none
  hybrid : before.myEdPriv = none ∧ before.myDilPriv = none ∧ before.myHybridSigCombinedPub = none
  ratchetStorageKey : before.ratchetStorageKey = some draws.ratchetKey
  totp : storedTotpSecret L password before.globalSecret (tables.database L) = none
  name : myName L fingerprint (tables.settings.get? "my_name") before.myPub =
    fallbackName L fingerprint before.myPub
  friends : ∀ name, Bare (friendRecord before name)
  ratchets : ∀ name, ratchetStateOf (tables.database L) name = none

end RoundTrip

section Restoring

variable {Priv Pub Pem : Type} {L : Libraries Priv Pub Pem} {tables : Tables}
variable {texts : RequiredTexts} {password : Bytes}

theorem exportedFriend_portable (name : String) (friend : RestoredFriend) :
    (exportedFriend name friend).Portable := by
  have optional (text : Option String) : (optionalText text).Portable := by
    cases text with
    | none => exact .null
    | some text => exact .str text
  refine .dict (by simp) fun item member => ?_
  simp only [List.mem_cons, List.not_mem_nil, or_false] at member
  rcases member with rfl | rfl | rfl | rfl | rfl
  · exact .str name
  · exact .str _
  · exact .int _
  · exact optional _
  · exact optional _

/-- A backup survives as a JSON file. -/
theorem taggedPayload_portable (texts : RequiredTexts) (now : Int) :
    (taggedPayload L (exportedPayload tables texts.settings now) password).Portable := by
  have settings : (Json.dict texts.settings).Portable := by
    refine .dict (by simp [RequiredTexts.settings]) fun item member => ?_
    simp only [RequiredTexts.settings, List.mem_cons, List.not_mem_nil, or_false] at member
    rcases member with rfl | rfl | rfl <;> exact .str _
  have friends : (Json.list (exportedFriends tables)).Portable := by
    refine .list fun item member => ?_
    obtain ⟨friend, _, rfl⟩ := List.mem_map.mp member
    exact exportedFriend_portable _ _
  refine .dict (by simp [exportedPayload]) fun item member => ?_
  simp only [exportedPayload, List.cons_append, List.nil_append, List.mem_cons, List.not_mem_nil,
    or_false] at member
  rcases member with rfl | rfl | rfl | rfl | rfl
  · exact .int _
  · exact .int _
  · exact settings
  · exact friends
  · exact .str _

/-- The rows that an import of the tables' backup leaves, before its reload. -/
def restoredTables (tables : Tables) (texts : RequiredTexts) : RestoredRows :=
  ⟨texts.table, tables.rows.friends⟩

theorem RequiredTexts.table_get? (texts : RequiredTexts) (key : String) :
    texts.table.get? key =
      if key = "global_secret" then some texts.globalSecret
      else if key = "private_key_encrypted" then some texts.privateKey
      else if key = "public_key" then some texts.publicKey
      else none := by
  simp only [RequiredTexts.table, Dict.get?_set, Dict.get?_empty]

theorem settings_restored {key : String} (other : key ∉ requiredSettings) :
    (restoredTables tables texts).settings.get? key = none := by
  simp only [requiredSettings, List.mem_cons, List.not_mem_nil, or_false, not_or] at other
  show texts.table.get? key = none
  rw [texts.table_get?, if_neg other.2.2, if_neg other.2.1, if_neg other.1]

theorem secrets_restored {key : KeyStore.SecretSetting} (other : key.key ∉ requiredSettings) :
    ((restoredTables tables texts).database L).secrets key = none :=
  congrArg (Option.map L.readWrapper) (settings_restored other)

theorem texts_restored {key : KeyStore.TextSetting} (other : key.key ∉ requiredSettings) :
    ((restoredTables tables texts).database L).texts key = none := by
  show (restoredTables tables texts).settings.get? key.key = none
  exact settings_restored other

theorem firstKeysOnly_restored :
    KeyStore.FirstKeysOnly ((restoredTables tables texts).database L) where
  legacy := by
    have none : (restoredTables tables texts).settings.get? "legacy_private_key_encrypted" = none :=
      settings_restored (by decide)
    simp only [RestoredRows.database, KeyStore.KeySetting.key, none, Option.map_none, ite_self]
  kyber := secrets_restored (by decide)
  x25519 := secrets_restored (by decide)
  pqcPub := texts_restored (by decide)
  ed25519 := secrets_restored (by decide)
  dilithium := secrets_restored (by decide)
  hybridPub := texts_restored (by decide)

/-- The required rows read the same from the restored tables. -/
theorem readsFirstKeys_restored {pub : Pub} {priv : Priv} {globalSecret : Option Bytes}
    (stored : texts.Stored tables.settings)
    (reads : KeyStore.ReadsFirstKeys L.keyStore password (tables.database L) pub priv
      globalSecret) :
    KeyStore.ReadsFirstKeys L.keyStore password ((restoredTables tables texts).database L) pub priv
      globalSecret := by
  have same {key : String} {value : String} (found : tables.settings.get? key = some value)
      (kept : texts.table.get? key = some value) :
      (restoredTables tables texts).settings.get? key = tables.rows.settings.get? key :=
    kept.trans found.symm
  have publicKey := same stored.publicKey (by rw [texts.table_get?]; rfl)
  have privateKey := same stored.privateKey (by rw [texts.table_get?]; rfl)
  have secret := same stored.globalSecret (by rw [texts.table_get?]; rfl)
  have texts_eq : ((restoredTables tables texts).database L).texts .publicKey =
      (tables.database L).texts .publicKey := publicKey
  have keys_eq : ((restoredTables tables texts).database L).keys .privateKeyEncrypted =
      (tables.database L).keys .privateKeyEncrypted := congrArg (Option.map L.readPem) privateKey
  have secrets_eq : ((restoredTables tables texts).database L).secrets .globalSecret =
      (tables.database L).secrets .globalSecret := congrArg (Option.map L.readWrapper) secret
  refine ⟨?_, ?_, ?_⟩
  · rw [texts_eq]
    exact reads.pub
  · rw [keys_eq]
    exact reads.priv
  · rw [secrets_eq]
    exact reads.globalSecret

theorem friends_restored (tables : Tables) (texts : RequiredTexts) :
    ((restoredTables tables texts).database L).friends =
      (tables.database L).friends.mapValues fun _ row => KeyStore.bareRow row := by
  apply Dict.ext_items
  show ((tables.friends.items.map _).map _) = (tables.friends.items.map _).map _
  rw [List.map_map, List.map_map]
  rfl

variable (texts) in
/-- The friends of the restored tables read where those of the whole tables do. -/
theorem readFriends_restored
    {read : List ((String × KeyStore.FriendRow) × KeyStore.LoadedFriend Pub)}
    (reads : KeyStore.readFriends L.keyStore L.platform password (tables.database L).friends.items =
      .ok read) :
    ∃ others, KeyStore.readFriends L.keyStore L.platform password
      ((restoredTables tables texts).database L).friends.items = .ok others := by
  rw [friends_restored]
  refine KeyStore.readFriends_ok_iff.mpr fun item member => ?_
  obtain ⟨original, inside, rfl⟩ := List.mem_map.mp member
  obtain ⟨loaded, readRow⟩ := KeyStore.readFriends_ok_iff.mp ⟨read, reads⟩ original inside
  exact ⟨_, KeyStore.readFriend_bareRow readRow⟩

/-- The import of an exported backup succeeds on any database, where the first keys and the friends
of the tables can be read. -/
theorem importBackup_exported (lawful : L.Lawful) {exportedAt : Int} {importedAt : Rat}
    {draws : LoadDraws} {pub : Pub} {priv : Priv} {globalSecret : Option Bytes}
    {read : List ((String × KeyStore.FriendRow) × KeyStore.LoadedFriend Pub)}
    (reads : KeyStore.ReadsFirstKeys L.keyStore password ((restoredTables tables texts).database L)
      pub priv globalSecret)
    (friends : KeyStore.readFriends L.keyStore L.platform password
      ((restoredTables tables texts).database L).friends.items = .ok read)
    (installation : Installation Priv Pub Pem) :
    ∃ store, (importBackup L (taggedPayload L (exportedPayload tables texts.settings exportedAt)
        password) password (.ok ()) importedAt draws).run installation =
      (.ok (), ⟨⟨store, KeyStore.withStorageKey L.keyStore password draws
        ((restoredTables tables texts).database L)⟩,
          (restoredTables tables texts).otherSettings⟩) := by
  have checked := checkedBackup_exported lawful tables texts exportedAt password
  have restored : restoredRows L (exportedBackup tables texts exportedAt
      (computeHmac L (.dict (exportedPayload tables texts.settings exportedAt)) password)) =
        .ok (restoredTables tables texts) := restoredRows_exported tables texts exportedAt _
  have ran : reloadRun L password importedAt draws installation (restoredTables tables texts) = _ :=
    KeyStore.load_firstKeys firstKeysOnly_restored reads friends
      (KeyStore.wiped installation.session.store)
      (KeyStore.loadRatchetStorageKey_made (secrets_restored (by decide))
        (texts_restored (by decide)))
  have loaded := importBackup_loaded checked restored (congrArg Prod.fst ran)
  rw [ran] at loaded
  exact ⟨_, loaded⟩

/-- What is left of a friend's record. -/
def bareRecord (record : FriendRecord Pub) : FriendRecord Pub :=
  { record with
    ecdhPriv := none
    capabilities := record.capabilities.map fun _ => []
    pqcCombinedPub := none
    hybridSigPubs := none }

theorem bareRecord_eq_iff (record : FriendRecord Pub) :
    bareRecord record = record ↔ Bare record := by
  obtain ⟨key, x25519, ecdhPriv, capabilities, pqcCombinedPub, hybridSigPubs⟩ := record
  cases capabilities with
  | none => simp [bareRecord, Bare, eq_comm]
  | some found => simp [bareRecord, Bare, eq_comm, and_comm, and_left_comm]

/-- The store that is loaded from the restored rows of what `before` was loaded from. -/
structure LeftOf (before loaded : KeyStore Priv Pub) (draws : LoadDraws) : Prop where
  publicKey : loaded.myPub = before.myPub
  privateKey : loaded.myPriv = before.myPriv
  globalSecret : loaded.globalSecret = before.globalSecret
  pqc : loaded.myKyberPriv = none ∧ loaded.myPqcCombinedPub = none ∧ loaded.cachedPqcBundle = none
  hybrid : loaded.myEdPriv = none ∧ loaded.myDilPriv = none ∧ loaded.myHybridSigCombinedPub = none
  ratchetStorageKey : loaded.ratchetStorageKey = some draws.ratchetKey
  friends : ∀ name, friendRecord loaded name = bareRecord (friendRecord before name)

/-- After the import of an exported backup a fresh store loads the first keys, a new ratchet storage
key and what was exported of the friends. -/
theorem load_restored (lawful : L.Lawful) (stored : texts.Stored tables.settings) {now : Rat}
    {firstDraws : LoadDraws} {before : Session Priv Pub Pem}
    (opened : (load L.keyStore L.platform password now firstDraws).run ⟨{}, tables.database L⟩ =
      (.ok true, before)) (exportedAt : Int) (draws : LoadDraws) :
    ∃ loaded, LeftOf before.store loaded draws ∧
      ∀ (installation : Installation Priv Pub Pem) (importedAt later : Rat)
        (laterDraws : LoadDraws), ∃ store rows,
          rows = KeyStore.withStorageKey L.keyStore password draws
            ((restoredTables tables texts).database L) ∧
          (importBackup L (taggedPayload L (exportedPayload tables texts.settings exportedAt)
            password) password (.ok ()) importedAt draws).run installation =
              (.ok (), ⟨⟨store, rows⟩, (restoredTables tables texts).otherSettings⟩) ∧
          (load L.keyStore L.platform password later laterDraws).run ⟨{}, rows⟩ =
            (.ok true, ⟨loaded, rows⟩) := by
  obtain ⟨pub, priv, globalSecret, keys, publicKey, privateKey, secret⟩ :=
    KeyStore.readsFirstKeys_of_load opened
  obtain ⟨read, reads, same⟩ := KeyStore.load_reads opened
  have keys' := readsFirstKeys_restored stored keys
  obtain ⟨others, reads'⟩ := readFriends_restored texts reads
  refine ⟨KeyStore.withRatchetKey (KeyStore.addFriends others (KeyStore.withoutFriends
    (KeyStore.withFirstKeys L.keyStore {} pub priv globalSecret))) draws.ratchetKey, ?_, ?_⟩
  · have kept {τ : Type} (view : KeyStore Priv Pub → τ)
        (apart : ∀ item loaded store, view (KeyStore.addFriend item loaded store) = view store) :
        view (KeyStore.addFriends others (KeyStore.withoutFriends
          (KeyStore.withFirstKeys L.keyStore {} pub priv globalSecret))) =
            view (KeyStore.withoutFriends
              (KeyStore.withFirstKeys L.keyStore {} pub priv globalSecret)) :=
      KeyStore.addFriends_keeps view apart others _
    refine ⟨?_, ?_, ?_, ⟨?_, ?_, ?_⟩, ⟨?_, ?_, ?_⟩, rfl, fun name => ?_⟩
    · exact (kept KeyStore.myPub fun _ _ _ => rfl).trans publicKey.symm
    · exact (kept KeyStore.myPriv fun _ _ _ => rfl).trans privateKey.symm
    · exact (kept KeyStore.globalSecret fun _ _ _ => rfl).trans secret.symm
    · exact kept KeyStore.myKyberPriv fun _ _ _ => rfl
    · exact kept KeyStore.myPqcCombinedPub fun _ _ _ => rfl
    · exact kept KeyStore.cachedPqcBundle fun _ _ _ => rfl
    · exact kept KeyStore.myEdPriv fun _ _ _ => rfl
    · exact kept KeyStore.myDilPriv fun _ _ _ => rfl
    · exact kept KeyStore.myHybridSigCombinedPub fun _ _ _ => rfl
    · have original : friendRecord before.store name = _ := congrArg (friendRecord · name) same
      rw [original]
      show friendRecord (KeyStore.addFriends others _) name = _
      have restored : ((restoredTables tables texts).database L).friends.get? name =
          ((tables.database L).friends.get? name).map KeyStore.bareRow := by
        rw [friends_restored, Dict.get?_mapValues]
      cases found : (tables.database L).friends.get? name with
      | none =>
          rw [found] at restored
          rw [KeyStore.friendRecord_unlisted reads _ found,
            KeyStore.friendRecord_unlisted reads' _ restored]
          rfl
      | some row =>
          rw [found] at restored
          obtain ⟨loaded, readRow, record⟩ :=
            KeyStore.friendRecord_reloaded reads before.store found
          obtain ⟨bare, readBare, record'⟩ := KeyStore.friendRecord_reloaded reads'
            (KeyStore.withFirstKeys L.keyStore {} pub priv globalSecret) restored
          rw [KeyStore.readFriend_bareRow readRow] at readBare
          cases readBare
          rw [record, record']
          rfl
  · intro installation importedAt later laterDraws
    obtain ⟨store, imported⟩ := importBackup_exported lawful keys' reads' installation
    exact ⟨store, _, rfl, imported,
      KeyStore.load_reloaded lawful.keyStore firstKeysOnly_restored keys' reads' {}⟩

end Restoring

section Exactness

variable {Priv Pub Pem : Type} {L : Libraries Priv Pub Pem}

theorem storedTotpSecret_none {password : Bytes} {globalSecret : Option Bytes} {db : Database Pem}
    (unstored : db.secrets .totpSecretEncrypted = none) :
    storedTotpSecret L password globalSecret db = none := by
  rw [storedTotpSecret, unstored]
  cases nonemptyBytes globalSecret <;> rfl

/-- What is left of the identity and the friends is everything where nothing was left out. -/
theorem sameIdentity_iff {fingerprint : String → String} {password : Bytes} {tables : Tables}
    {texts : RequiredTexts} {before loaded store : KeyStore Priv Pub} {draws : LoadDraws}
    (left : LeftOf before loaded draws) :
    SameIdentity L fingerprint password tables before loaded
        ⟨⟨store, KeyStore.withStorageKey L.keyStore password draws
          ((restoredTables tables texts).database L)⟩,
            (restoredTables tables texts).otherSettings⟩ ↔
      NothingLeftOut L fingerprint password tables before draws := by
  have totp : storedTotpSecret L password loaded.globalSecret
      (KeyStore.withStorageKey L.keyStore password draws
        ((restoredTables tables texts).database L)) = none := by
    apply storedTotpSecret_none
    rw [KeyStore.withStorageKey_secrets _ (by decide)]
    exact secrets_restored (by decide)
  have unnamed : (restoredTables tables texts).otherSettings "my_name" = none := by
    have other : (restoredTables tables texts).settings.get? "my_name" = none :=
      settings_restored (by decide)
    rw [RestoredRows.otherSettings, other, ite_self]
  have name : myName L fingerprint ((restoredTables tables texts).otherSettings "my_name")
      loaded.myPub = fallbackName L fingerprint before.myPub := by
    rw [unnamed, left.publicKey]
    rfl
  have ratchets (name : String) : ratchetStateOf (KeyStore.withStorageKey L.keyStore password draws
      ((restoredTables tables texts).database L)) name = none := by
    show (((restoredTables tables texts).database L).friends.get? name).bind _ = none
    rw [friends_restored, Dict.get?_mapValues]
    cases (tables.database L).friends.get? name <;> rfl
  constructor
  · rintro ⟨-, -, -, pqc, hybrid, ratchetStorageKey, totp', name', friends, ratchets'⟩
    refine ⟨?_, ?_, ratchetStorageKey.symm.trans left.ratchetStorageKey, totp'.symm.trans totp,
      name'.symm.trans name, fun friend => ?_,
      fun friend => (ratchets' friend).symm.trans (ratchets friend)⟩
    · rw [← pqc.1, ← pqc.2.1, ← pqc.2.2]
      exact left.pqc
    · rw [← hybrid.1, ← hybrid.2.1, ← hybrid.2.2]
      exact left.hybrid
    · rw [← bareRecord_eq_iff, ← left.friends]
      exact friends friend
  · intro nothing
    refine ⟨left.publicKey, left.privateKey, left.globalSecret, ?_, ?_,
      left.ratchetStorageKey.trans nothing.ratchetStorageKey.symm, totp.trans nothing.totp.symm,
      name.trans nothing.name.symm, fun friend => ?_,
      fun friend => (ratchets friend).trans (nothing.ratchets friend).symm⟩
    · rw [nothing.pqc.1, nothing.pqc.2.1, nothing.pqc.2.2]
      exact left.pqc
    · rw [nothing.hybrid.1, nothing.hybrid.2.1, nothing.hybrid.2.2]
      exact left.hybrid
    · rw [left.friends]
      exact (bareRecord_eq_iff _).mpr (nothing.friends friend)

/-- A backup round trip keeps the identity and the friends exactly when nothing was left out. -/
theorem backup_round_trip_iff (lawful : L.Lawful) {text : JsonText} (fingerprint : String → String)
    {guard : Guard} {password : Bytes} {connection : Except TrustChain.Raised Unit}
    {store : KeyStore Priv Pub} {tables : Tables} {exportedAt : Int} {data : Json}
    (exported : exportBackup L guard password connection store tables exportedAt = .ok data)
    (keeps : text.Keeps data)
    (now : Rat) (firstDraws draws : LoadDraws) :
    RoundTrips L text fingerprint password tables data now firstDraws draws ↔
      ∃ before : Session Priv Pub Pem,
        (load L.keyStore L.platform password now firstDraws).run ⟨{}, tables.database L⟩ =
          (.ok true, before) ∧
        NothingLeftOut L fingerprint password tables before.store draws := by
  obtain ⟨_, texts, stored, rfl⟩ := exportBackup_ok exported
  have written : text.loads (text.dumps _) = some _ :=
    keeps (taggedPayload_portable texts exportedAt)
  constructor
  · rintro ⟨before, opened, read, readBack, restores⟩
    refine ⟨before, opened, ?_⟩
    rw [written] at readBack
    cases readBack
    obtain ⟨store, left, runs⟩ := load_restored lawful stored opened exportedAt draws
    obtain ⟨restored, loaded, imported, reloaded, same⟩ :=
      restores ⟨⟨{}, .empty⟩, fun _ => none⟩ 0 0 firstDraws
    obtain ⟨wipedStore, rows, rfl, imported', reloaded'⟩ :=
      runs ⟨⟨{}, .empty⟩, fun _ => none⟩ 0 0 firstDraws
    rw [imported'] at imported
    cases imported
    rw [reloaded'] at reloaded
    cases reloaded
    exact (sameIdentity_iff left).mp same
  · rintro ⟨before, opened, nothing⟩
    obtain ⟨store, left, runs⟩ := load_restored lawful stored opened exportedAt draws
    refine ⟨before, opened, _, written, fun installation importedAt later laterDraws => ?_⟩
    obtain ⟨wipedStore, rows, rfl, imported, reloaded⟩ :=
      runs installation importedAt later laterDraws
    exact ⟨_, _, imported, reloaded, (sameIdentity_iff left).mpr nothing⟩

end Exactness

section Toy

open KeyStore (toyEntropy toyLibraries wrap)

/-- A text of a column is read as a wrapper of its bytes under the password `[1]`. -/
def toyTextLibraries : Libraries String String (String × Bytes) where
  keyStore := toyLibraries
  platform := ⟨true, true⟩
  conversions := TrustChain.toyConversions
  canonicalJson _ := []
  deriveHmacKey password := password
  hexdigest _ _ := "ab"
  readWrapper text := wrap toyLibraries (encodeUtf8 text) [1] (toyEntropy 2 3)
  readPem text := (text, [1])
  readExpiry _ := none
  integerTruth text := text != ""

theorem toyTextLibraries_lawful : toyTextLibraries.Lawful := by
  refine ⟨KeyStore.toyLibraries_lawful, fun _ _ => ?_, fun _ _ => ?_⟩
  · show "ab" ≠ ""
    decide
  · show "ab".toList.all _ = true
    decide

def toyRow : StoredFriend where
  publicKeyPem := "bob"
  hasSharedSecret := true
  sharedSecretEncrypted := some "shared"
  x25519PublicKeyB64 := none
  capabilitiesJson := none
  ratchetStateJson := none
  pqcCombinedPubB64 := none
  hybridSigPubB64 := none
  ecdhPrivEncrypted := none

/-- A user with a friend and a shared secret, and no other keys. -/
def toyFirstTables : Tables where
  settings := (((Dict.empty.set "public_key" "alice").set "private_key_encrypted" "alice").set
    "global_secret" "secret").set "ratchet_storage_key" "ratchet"
  friends := Dict.empty.set "bob" toyRow

/-- The user has chosen a name and the friend has sent a message. -/
def toyRicherTables : Tables where
  settings := toyFirstTables.settings.set "my_name" "Alice"
  friends := Dict.empty.set "bob" { toyRow with ratchetStateJson := some "state" }

def toyTextGuard : Guard := ⟨{}, 0, 0⟩

def toyBackup : Json :=
  taggedPayload toyTextLibraries (exportedPayload toyFirstTables
    (RequiredTexts.settings ⟨"alice", "alice", "secret"⟩) 0) [1]

/-- The backup as it is written to a file. -/
def toyFileText : String :=
  "\x7b\"version\": 1, \"exported_at\": 0, \"settings\": \x7b\"public_key\": \"alice\", " ++
  "\"private_key_encrypted\": \"alice\", \"global_secret\": \"secret\"\x7d, " ++
  "\"friends\": [\x7b\"name\": \"bob\", \"public_key_pem\": \"bob\", \"has_shared_secret\": 1, " ++
  "\"shared_secret_encrypted\": \"shared\", \"x25519_public_key_b64\": null\x7d], " ++
  "\"hmac\": \"ab\"\x7d"

def toyFile : JsonText where
  dumps _ := toyFileText
  loads text := if text = toyFileText then some toyBackup else none

theorem toyFile_loads : toyFile.loads toyFileText = some toyBackup := by
  simp only [toyFile, if_true]

def toyFirstDraws : LoadDraws := ⟨encodeUtf8 "ratchet", toyEntropy 4 5, fun _ => []⟩

theorem toyFirstTables_exported : exportBackup toyTextLibraries toyTextGuard [1] (.ok ()) {}
    toyFirstTables 0 = .ok toyBackup := by
  have verified : Friends.verifyMasterPassword toyTextLibraries.keyStore toyTextGuard [1]
      ⟨{}, toyFirstTables.database toyTextLibraries⟩ = .ok true := by decide +kernel
  rw [exportBackup, verified]
  rfl

def toyLoadedFirst : Session String String (String × Bytes) :=
  ((load toyLibraries toyTextLibraries.platform [1] 0 toyFirstDraws).run
    ⟨{}, toyFirstTables.database toyTextLibraries⟩).2

theorem toyLoadedFirst_left : NothingLeftOut toyTextLibraries id [1] toyFirstTables
    toyLoadedFirst.store toyFirstDraws := by
  have alone : toyLoadedFirst.store.friendsEcdhPriv.items = [] ∧
      toyLoadedFirst.store.friendsPqcCombinedPub.items = [] ∧
      toyLoadedFirst.store.friendsHybridSigPubs.items = [] ∧
      toyLoadedFirst.store.friendsCapabilities.items = [("bob", [])] := by decide +kernel
  refine ⟨by decide +kernel, by decide +kernel, by decide +kernel, by decide +kernel,
    by decide +kernel, fun name => ?_, fun name => ?_⟩
  · obtain ⟨ecdh, pqc, hybrid, capabilities⟩ := alone
    refine ⟨?_, ?_, ?_, fun found member => ?_⟩
    · show toyLoadedFirst.store.friendsEcdhPriv.items.lookup name = none
      rw [ecdh]
      rfl
    · show toyLoadedFirst.store.friendsPqcCombinedPub.items.lookup name = none
      rw [pqc]
      rfl
    · show toyLoadedFirst.store.friendsHybridSigPubs.items.lookup name = none
      rw [hybrid]
      rfl
    · have inside := Dict.mem_of_get? (Option.mem_def.mp member)
      rw [capabilities] at inside
      exact congrArg Prod.snd (List.mem_singleton.mp inside)
  · by_cases same : name = "bob"
    · rw [same]
      rfl
    · have unlisted : (toyFirstTables.database toyTextLibraries).friends.get? name = none := by
        rw [Dict.get?_eq_none_iff]
        exact fun listed => same (List.mem_singleton.mp listed)
      rw [ratchetStateOf, unlisted]
      rfl

/-- The user with the first keys only, restored with the storage key there was, has everything. -/
theorem toyFirstTables_round_trips : ∃ data, toyFile.Keeps data ∧
    RoundTrips toyTextLibraries toyFile id [1] toyFirstTables data 0 toyFirstDraws
      toyFirstDraws := by
  have keeps : toyFile.Keeps toyBackup := fun _ => toyFile_loads
  refine ⟨toyBackup, keeps, ?_⟩
  rw [backup_round_trip_iff toyTextLibraries_lawful id toyFirstTables_exported keeps]
  exact ⟨toyLoadedFirst, Prod.ext (by decide +kernel) rfl, toyLoadedFirst_left⟩

theorem toyRicherTables_loses : ∃ data,
    exportBackup toyTextLibraries toyTextGuard [1] (.ok ()) {} toyRicherTables 0 = .ok data ∧
    toyFile.Keeps data ∧
    ((load toyLibraries toyTextLibraries.platform [1] 0 toyFirstDraws).run
      ⟨{}, toyRicherTables.database toyTextLibraries⟩).1 = .ok true ∧
    ¬ RoundTrips toyTextLibraries toyFile id [1] toyRicherTables data 0
      toyFirstDraws toyFirstDraws := by
  refine ⟨toyBackup, ?_, fun _ => toyFile_loads, by decide +kernel, fun trips => ?_⟩
  · have verified : Friends.verifyMasterPassword toyTextLibraries.keyStore toyTextGuard [1]
        ⟨{}, toyRicherTables.database toyTextLibraries⟩ = .ok true := by decide +kernel
    rw [exportBackup, verified]
    rfl
  · obtain ⟨_, _, read, readBack, restores⟩ := trips
    cases toyFile_loads.symm.trans readBack
    obtain ⟨restored, _, imported, _, same⟩ :=
      restores ⟨⟨{}, .empty⟩, fun _ => none⟩ 0 0 toyFirstDraws
    have lost : ratchetStateOf ((importBackup toyTextLibraries toyBackup [1] (.ok ())
        0 toyFirstDraws).run ⟨⟨{}, .empty⟩, fun _ => none⟩).2.session.db "bob" = none := by
      decide +kernel
    rw [imported, same.ratchets "bob"] at lost
    cases lost

end Toy

end BackupService

end UltimateEnigma
