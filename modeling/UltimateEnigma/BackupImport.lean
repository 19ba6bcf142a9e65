import UltimateEnigma.KeyStoreLoad
import UltimateEnigma.Py.Faults
import UltimateEnigma.TrustCertificate

set_option autoImplicit false

namespace UltimateEnigma

open Py

namespace KeyStore

/-- The keys of the rows in the settings table. -/
def SecretSetting.key : SecretSetting → String
  | .globalSecret => "global_secret"
  | .kyberPrivEncrypted => "kyber_priv_encrypted"
  | .pqcX25519PrivEncrypted => "pqc_x25519_priv_encrypted"
  | .ed25519PrivEncrypted => "ed25519_priv_encrypted"
  | .dilithiumPrivEncrypted => "dilithium_priv_encrypted"
  | .totpSecretEncrypted => "totp_secret_encrypted"
  | .ratchetStorageKey => "ratchet_storage_key"
  | .duressVerifier => "duress_verifier"

def KeySetting.key : KeySetting → String
  | .privateKeyEncrypted => "private_key_encrypted"
  | .legacyPrivateKeyEncrypted => "legacy_private_key_encrypted"
  | .duressDecoyPrivkey => "duress_decoy_privkey"

def TextSetting.key : TextSetting → String
  | .publicKey => "public_key"
  | .pqcCombinedPubB64 => "pqc_combined_pub_b64"
  | .hybridSigCombinedPubB64 => "hybrid_sig_combined_pub_b64"
  | .ratchetHkdfSalt => "ratchet_hkdf_salt"
  | .totpSetupComplete => "totp_setup_complete"
  | .totpEnabled => "totp_enabled"
  | .totpLastCounter => "totp_last_counter"

end KeyStore

namespace BackupService

open KeyStore (Database FriendRow KeySetting LoadDraws Platform Primitives SecretSetting Session
  StoreCall TextSetting Wrapper load wiped)
open TrustChain (field textColumn notNull)

def backupVersion : Int := 1

def requiredKeys : List String := ["version", "exported_at", "settings", "friends", "hmac"]

def requiredSettings : List String := ["public_key", "private_key_encrypted", "global_secret"]

/-- What `import_backup` raises. The causes are those of Python and of the database. -/
inductive ImportError where
  | valueError (message : String)
  | missingKeys (keys : List String)
  | typeError (message : String)
  | backupServiceError (message : String)
  | backupServiceErrorFrom (message : String) (cause : TrustChain.Raised)
  | keyStore (raised : KeyStore.Raised)
deriving DecidableEq, Repr

/-- The libraries underneath, and how texts of columns are read. -/
structure Libraries (Priv Pub Pem : Type) where
  keyStore : Primitives Priv Pub Pem
  platform : Platform
  conversions : Conversions
  /-- `json.dumps(obj, sort_keys=True, separators=(",", ":"), ensure_ascii=True).encode()` -/
  canonicalJson : Json → Bytes
  /-- `HKDF(…, info=b"enigma-backup-hmac-v1").derive` -/
  deriveHmacKey : Bytes → Bytes
  /-- `hmac.new(key, data, sha256).hexdigest()` -/
  hexdigest : Bytes → Bytes → String
  readWrapper : String → Wrapper
  readPem : String → Pem
  /-- `float(text)` -/
  readExpiry : String → Option Rat
  /-- The truth value of what a column of integer affinity makes of a text -/
  integerTruth : String → Bool

/-- The entries of a backup whose structure is as expected. -/
structure Backup where
  version : Json
  exportedAt : Json
  settings : JsonDict
  friends : List Json
  hmac : Json

/-- `_validate_backup_schema`. -/
def validateBackupSchema : Json → Except ImportError Backup
  | .dict data =>
      match data.lookup "version", data.lookup "exported_at", data.lookup "settings",
          data.lookup "friends", data.lookup "hmac" with
      | some version, some exportedAt, some settings, some friends, some hmac =>
          match settings, friends with
          | .dict settings, .list friends => .ok { version, exportedAt, settings, friends, hmac }
          | .dict _, _ => .error (.valueError "Invalid backup format: friends must be a list")
          | _, _ => .error (.valueError "Invalid backup format: settings must be a dict")
      | _, _, _, _, _ =>
          .error (.missingKeys (requiredKeys.filter fun key => (data.lookup key).isNone))
  | _ => .error (.valueError "Invalid backup format: expected JSON object")

/-- `value == BACKUP_VERSION`: a `True` and a float are equal to the number. -/
def isBackupVersion : Json → Bool
  | .int value => value = backupVersion
  | .bool value => value
  | .float value => value = 0x3ff0000000000000#64
  | _ => false

/-- `hmac.compare_digest` of two texts. -/
def compareDigest (computed expected : String) : Except ImportError Bool :=
  if computed.toList.all (·.val < 128) && expected.toList.all (·.val < 128) then
    .ok (computed = expected)
  else .error (.typeError "comparing strings with non-ASCII characters is not supported")

def Backup.payload (backup : Backup) : Json :=
  .dict [("version", backup.version), ("exported_at", backup.exportedAt),
    ("settings", .dict backup.settings), ("friends", .list backup.friends)]

section Import

variable {Priv Pub Pem : Type} (L : Libraries Priv Pub Pem)

/-- `_compute_hmac` under `_derive_hmac_key(password)`. -/
def computeHmac (payload : Json) (password : Bytes) : String :=
  L.hexdigest (L.deriveHmacKey password) (L.canonicalJson payload)

/-- The text of the `hmac` entry, which must be there. -/
def storedHmac : Json → Except ImportError String
  | .str text => if text = "" then .error (.backupServiceError "Backup file missing HMAC") else .ok text
  | _ => .error (.backupServiceError "Backup file missing HMAC")

/-- Everything that `import_backup` checks before it wipes the store. -/
def checkedBackup (data : Json) (password : Bytes) : Except ImportError Backup := do
  let backup ← validateBackupSchema data
  if !isBackupVersion backup.version then
    .error (.backupServiceError
      ("Unsupported backup version " ++ L.conversions.str backup.version ++ " (expected 1)"))
  let stored ← storedHmac backup.hmac
  if !(← compareDigest (computeHmac L backup.payload password) stored) then
    .error (.backupServiceError "HMAC verification failed – wrong password or corrupted file")
  match requiredSettings.find? fun key => (backup.settings.lookup key).isNone with
  | some key => .error (.backupServiceError ("Missing setting '" ++ key ++ "' in backup"))
  | none => return backup

/-- A row of `friends` as an import writes it; its other columns stay `NULL`. -/
structure RestoredFriend where
  publicKeyPem : String
  hasSharedSecret : Bool
  sharedSecretEncrypted : Option String
  x25519PublicKeyB64 : Option String
deriving DecidableEq, Repr

/-- The two tables as the statements of the import fill them. -/
structure RestoredRows where
  settings : Dict String String
  friends : Dict String RestoredFriend

def RestoredRows.empty : RestoredRows := ⟨.empty, .empty⟩

/-- `INSERT` under a key that must be new. -/
def insertNew {ν : Type} (table : Dict String ν) (key : String) (row : ν) :
    Except TrustChain.Raised (Dict String ν) :=
  if (table.get? key).isSome then .error .databaseError else .ok (table.set key row)

def insertSetting (rows : RestoredRows) (item : String × Json) :
    Except TrustChain.Raised RestoredRows := do
  let value ← textColumn L.conversions item.2 >>= notNull
  let settings ← insertNew rows.settings item.1 value
  return { rows with settings }

/-- Binding `has_shared_secret`: the truth value of what the integer column stores. -/
def truthColumn : Json → Except TrustChain.Raised (Option Bool)
  | .str text => .ok (some (L.integerTruth text))
  | value => do
      let stored ← textColumn L.conversions value
      return stored.map fun _ => value.truthy

/-- `fr["name"]`, …: only a dictionary has entries under texts. -/
def friendFields : Json → Except TrustChain.Raised JsonDict
  | .dict fields => .ok fields
  | _ => .error .typeError

def insertFriend (rows : RestoredRows) (friend : Json) : Except TrustChain.Raised RestoredRows := do
  let fields ← friendFields friend
  let name ← field fields "name"
  let pem ← field fields "public_key_pem"
  let hasSecret ← field fields "has_shared_secret"
  let name ← textColumn L.conversions name
  let pem ← textColumn L.conversions pem
  let hasSecret ← truthColumn L hasSecret
  let sharedSecretEncrypted ← textColumn L.conversions
    ((fields.lookup "shared_secret_encrypted").getD .null)
  let x25519PublicKeyB64 ← textColumn L.conversions
    ((fields.lookup "x25519_public_key_b64").getD .null)
  let name ← notNull name
  let publicKeyPem ← notNull pem
  let hasSharedSecret ← notNull hasSecret
  let friends ← insertNew rows.friends name
    { publicKeyPem, hasSharedSecret, sharedSecretEncrypted, x25519PublicKeyB64 }
  return { rows with friends }

def insertSettings (rows : RestoredRows) : JsonDict → Except TrustChain.Raised RestoredRows
  | [] => .ok rows
  | item :: rest => do insertSettings (← insertSetting L rows item) rest

def insertFriends (rows : RestoredRows) : List Json → Except TrustChain.Raised RestoredRows
  | [] => .ok rows
  | friend :: rest => do insertFriends (← insertFriend L rows friend) rest

/-- Both tables after the two `DELETE` statements and every `INSERT`. -/
def restoredRows (backup : Backup) : Except TrustChain.Raised RestoredRows := do
  insertFriends L (← insertSettings L .empty backup.settings) backup.friends

/-- The row as the key store reads it. -/
def RestoredFriend.row (friend : RestoredFriend) : FriendRow where
  publicKeyPem := friend.publicKeyPem
  hasSharedSecret := friend.hasSharedSecret
  sharedSecretEncrypted := friend.sharedSecretEncrypted.map L.readWrapper
  x25519PublicKeyB64 := friend.x25519PublicKeyB64
  capabilitiesJson := none
  ratchetStateJson := none
  pqcCombinedPubB64 := none
  hybridSigPubB64 := none
  ecdhPrivEncrypted := none

/-- The keys of `settings` that the key store's rows are kept under. -/
def keyStoreKeys : List String :=
  [SecretSetting.globalSecret, .kyberPrivEncrypted, .pqcX25519PrivEncrypted, .ed25519PrivEncrypted,
    .dilithiumPrivEncrypted, .totpSecretEncrypted, .ratchetStorageKey, .duressVerifier].map
      SecretSetting.key ++
  [KeySetting.privateKeyEncrypted, .legacyPrivateKeyEncrypted, .duressDecoyPrivkey].map
      KeySetting.key ++
  [TextSetting.publicKey, .pqcCombinedPubB64, .hybridSigCombinedPubB64, .ratchetHkdfSalt,
    .totpSetupComplete, .totpEnabled, .totpLastCounter].map TextSetting.key ++
  ["legacy_key_expiry"]

namespace RestoredRows

variable (rows : RestoredRows)

/-- A legacy key is never tried where its expiry is no number. -/
def expiryUnread : Bool :=
  match rows.settings.get? "legacy_key_expiry" with
  | some text => (L.readExpiry text).isNone
  | none => false

def database : Database Pem where
  secrets key := (rows.settings.get? key.key).map L.readWrapper
  keys key :=
    if key = .legacyPrivateKeyEncrypted ∧ rows.expiryUnread L then none
    else (rows.settings.get? key.key).map L.readPem
  texts key := rows.settings.get? key.key
  legacyKeyExpiry := (rows.settings.get? "legacy_key_expiry").bind L.readExpiry
  friends := rows.friends.mapValues fun _ friend => friend.row L

def otherSettings (key : String) : Option String :=
  if key ∈ keyStoreKeys then none else rows.settings.get? key

end RestoredRows

/-- The key store in memory, its rows, and the rows of `settings` that are none of its own. -/
structure Installation (Priv Pub Pem : Type) where
  session : Session Priv Pub Pem
  otherSettings : String → Option String

abbrev ImportCall (Priv Pub Pem α : Type) : Type := Call ImportError (Installation Priv Pub Pem) α

/-- A method of the key store. -/
def onKeyStore {α : Type} (call : StoreCall Priv Pub Pem α) : ImportCall Priv Pub Pem α :=
  fun installation =>
    match call.run installation.session with
    | (.ok value, after) => (.ok value, { installation with session := after })
    | (.error raised, after) => (.error (.keyStore raised), { installation with session := after })

def Installation.wipe (installation : Installation Priv Pub Pem) : Installation Priv Pub Pem :=
  { installation with
    session := { installation.session with store := wiped installation.session.store } }

/-- `conn.commit()` of the restored tables. -/
def Installation.commit (rows : RestoredRows) (installation : Installation Priv Pub Pem) :
    Installation Priv Pub Pem where
  session := { installation.session with db := rows.database L }
  otherSettings := rows.otherSettings

/-- `raise BackupServiceError(f"{message}{exc}") from exc`. -/
def orBackupServiceError {α : Type} (message : String) :
    Except TrustChain.Raised α → Except ImportError α
  | .ok value => .ok value
  | .error cause => .error (.backupServiceErrorFrom message cause)

/-- `import_backup`. The statements write to their own transaction, which a failure rolls back;
`connection` is what `get_connection()` gives. -/
def importBackup (data : Json) (password : Bytes) (connection : Except TrustChain.Raised Unit)
    (now : Rat) (draws : LoadDraws) : ImportCall Priv Pub Pem Unit := do
  let backup ← Call.lift (checkedBackup L data password)
  Call.modify Installation.wipe
  Call.lift (orBackupServiceError "Cannot open database: " connection)
  let rows ← Call.lift (orBackupServiceError "Database restore failed: " (restoredRows L backup))
  Call.modify (Installation.commit L rows)
  if ← onKeyStore (load L.keyStore L.platform password now draws) then return ()
  else Call.raise (.backupServiceError
    "Import succeeded but failed to reload keys – database may be corrupted")

section Outcomes

variable {L} {data : Json} {password : Bytes} {connection : Except TrustChain.Raised Unit} {now : Rat}
variable {draws : LoadDraws} {installation : Installation Priv Pub Pem} {backup : Backup}

theorem onKeyStore_run {α : Type} (call : StoreCall Priv Pub Pem α)
    (installation : Installation Priv Pub Pem) :
    (onKeyStore call).run installation =
      ((call.run installation.session).1.mapError ImportError.keyStore,
        { installation with session := (call.run installation.session).2 }) := by
  unfold onKeyStore
  show (match call.run installation.session with
    | (.ok value, after) => (Except.ok value, { installation with session := after })
    | (.error raised, after) =>
        (.error (ImportError.keyStore raised), { installation with session := after })) = _
  cases call.run installation.session with
  | mk outcome after => cases outcome <;> rfl

/-- What the checks refuse touches nothing. -/
theorem importBackup_refused {raised : ImportError}
    (refused : checkedBackup L data password = .error raised) :
    (importBackup L data password connection now draws).run installation =
      (.error raised, installation) := by
  rw [importBackup, refused]
  rfl

theorem importBackup_unopened (checked : checkedBackup L data password = .ok backup)
    {cause : TrustChain.Raised} :
    (importBackup L data password (.error cause) now draws).run installation =
      (.error (.backupServiceErrorFrom "Cannot open database: " cause), installation.wipe) := by
  rw [importBackup, checked]
  rfl

/-- A failed statement is rolled back, but the store in memory is wiped. -/
theorem importBackup_unrestored (checked : checkedBackup L data password = .ok backup)
    {cause : TrustChain.Raised} (failed : restoredRows L backup = .error cause) :
    (importBackup L data password (.ok ()) now draws).run installation =
      (.error (.backupServiceErrorFrom "Database restore failed: " cause), installation.wipe) := by
  rw [importBackup, checked, Call.run_lift_ok_bind, failed]
  rfl

/-- What is restored stays, whether it loads or not. -/
theorem importBackup_restored (checked : checkedBackup L data password = .ok backup)
    {rows : RestoredRows} (restored : restoredRows L backup = .ok rows) :
    (importBackup L data password (.ok ()) now draws).run installation =
      ((onKeyStore (load L.keyStore L.platform password now draws)) >>= fun loaded =>
        if loaded then pure () else Call.raise (.backupServiceError
          "Import succeeded but failed to reload keys – database may be corrupted")).run
        (installation.wipe.commit L rows) := by
  rw [importBackup, checked, Call.run_lift_ok_bind, restored]
  rfl

end Outcomes

end Import

end BackupService

end UltimateEnigma
