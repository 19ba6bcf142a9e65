import UltimateEnigma.BackupImport
import UltimateEnigma.FriendCrud

set_option autoImplicit false

namespace UltimateEnigma.BackupService

open Py
open Friends (Guard ServiceRaised verifyMasterPassword)
open KeyStore (Capabilities Database FriendRow Primitives Wrapper unwrap)

/-- What `export_backup` raises. What `verify_password` raises passes. -/
inductive ExportError where
  | refused (raised : ServiceRaised)
  | backupServiceError (message : String)
  | backupServiceErrorFrom (message : String) (cause : TrustChain.Raised)
deriving DecidableEq, Repr

/-- A row of `friends` with every column that other operations fill. -/
structure StoredFriend extends RestoredFriend where
  capabilitiesJson : Option Capabilities
  ratchetStateJson : Option String
  pqcCombinedPubB64 : Option String
  hybridSigPubB64 : Option String
  ecdhPrivEncrypted : Option Wrapper
deriving DecidableEq, Repr

/-- The two tables that a backup is made of. -/
structure Tables where
  settings : Dict String String
  friends : Dict String StoredFriend

/-- The columns that an import could write. -/
def Tables.rows (tables : Tables) : RestoredRows where
  settings := tables.settings
  friends := tables.friends.mapValues fun _ friend => friend.toRestoredFriend

/-- A text that may be `NULL`. -/
def optionalText : Option String → Json
  | some text => .str text
  | none => .null

def exportedFriend (name : String) (friend : RestoredFriend) : Json :=
  .dict [("name", .str name), ("public_key_pem", .str friend.publicKeyPem),
    ("has_shared_secret", .int (if friend.hasSharedSecret then 1 else 0)),
    ("shared_secret_encrypted", optionalText friend.sharedSecretEncrypted),
    ("x25519_public_key_b64", optionalText friend.x25519PublicKeyB64)]

def exportedFriends (tables : Tables) : List Json :=
  tables.rows.friends.items.map fun item => exportedFriend item.1 item.2

def exportedSettings (settings : Dict String String) : List String → Except ExportError JsonDict
  | [] => .ok []
  | key :: rest =>
      match settings.get? key with
      | none =>
          .error (.backupServiceError ("Required setting '" ++ key ++ "' not found in database"))
      | some value => do
          let others ← exportedSettings settings rest
          return (key, .str value) :: others

def exportedPayload (tables : Tables) (settings : JsonDict) (now : Int) : JsonDict :=
  [("version", .int backupVersion), ("exported_at", .int now), ("settings", .dict settings),
    ("friends", .list (exportedFriends tables))]

section Export

variable {Priv Pub Pem : Type} (L : Libraries Priv Pub Pem)

def StoredFriend.row (friend : StoredFriend) : FriendRow :=
  { friend.toRestoredFriend.row L with
    capabilitiesJson := friend.capabilitiesJson
    ratchetStateJson := friend.ratchetStateJson
    pqcCombinedPubB64 := friend.pqcCombinedPubB64
    hybridSigPubB64 := friend.hybridSigPubB64
    ecdhPrivEncrypted := friend.ecdhPrivEncrypted }

/-- The rows as the key store reads them. -/
def Tables.database (tables : Tables) : Database Pem :=
  { tables.rows.database L with
    friends := tables.friends.mapValues fun _ friend => friend.row L }

/-- `payload["hmac"] = self._compute_hmac(payload, hmac_key)`. -/
def taggedPayload (payload : JsonDict) (password : Bytes) : Json :=
  .dict (payload ++ [("hmac", .str (computeHmac L (.dict payload) password))])

/-- `export_backup`. `connection` is what `get_connection()` gives, `now` the second. -/
def exportBackup (guard : Guard) (password : Bytes) (connection : Except TrustChain.Raised Unit)
    (store : KeyStore Priv Pub) (tables : Tables) (now : Int) : Except ExportError Json := do
  let valid ← (verifyMasterPassword L.keyStore guard password ⟨store, tables.database L⟩).mapError
    ExportError.refused
  if !valid then
    .error (.backupServiceError "Invalid master password — cannot export backup")
  connection.mapError (ExportError.backupServiceErrorFrom "Cannot open database: ")
  let settings ← exportedSettings tables.settings requiredSettings
  return taggedPayload L (exportedPayload tables settings now) password

end Export

section Exported

variable {Priv Pub Pem : Type} {L : Libraries Priv Pub Pem} {tables : Tables} {password : Bytes}

/-- The settings of a backup. -/
structure RequiredTexts where
  publicKey : String
  privateKey : String
  globalSecret : String

def RequiredTexts.settings (texts : RequiredTexts) : JsonDict :=
  [("public_key", .str texts.publicKey), ("private_key_encrypted", .str texts.privateKey),
    ("global_secret", .str texts.globalSecret)]

/-- The required rows of the table. -/
structure RequiredTexts.Stored (texts : RequiredTexts) (settings : Dict String String) : Prop where
  publicKey : settings.get? "public_key" = some texts.publicKey
  privateKey : settings.get? "private_key_encrypted" = some texts.privateKey
  globalSecret : settings.get? "global_secret" = some texts.globalSecret

theorem exportedSettings_cons {settings : Dict String String} {key : String} {rest : List String}
    {exported : JsonDict} (found : exportedSettings settings (key :: rest) = .ok exported) :
    ∃ value others, settings.get? key = some value ∧
      exportedSettings settings rest = .ok others ∧ exported = (key, .str value) :: others := by
  rw [exportedSettings] at found
  split at found
  · cases found
  · rename_i value stored
    obtain ⟨others, rest_ok, found⟩ := ok_of_bind found
    cases found
    exact ⟨value, others, stored, rest_ok, rfl⟩

theorem exportedSettings_required {settings : Dict String String} {exported : JsonDict}
    (found : exportedSettings settings requiredSettings = .ok exported) :
    ∃ texts : RequiredTexts, texts.Stored settings ∧ exported = texts.settings := by
  obtain ⟨publicKey, _, publicStored, second, rfl⟩ := exportedSettings_cons found
  obtain ⟨privateKey, _, privateStored, third, rfl⟩ := exportedSettings_cons second
  obtain ⟨globalSecret, _, globalStored, last, rfl⟩ := exportedSettings_cons third
  cases last
  exact ⟨⟨publicKey, privateKey, globalSecret⟩, ⟨publicStored, privateStored, globalStored⟩, rfl⟩

theorem ok_of_mapError {ε φ α : Type} {convert : ε → φ} {result : Except ε α} {value : α}
    (success : result.mapError convert = .ok value) : result = .ok value := by
  cases result with
  | ok found =>
      cases success
      rfl
  | error raised => cases success

/-- A backup is made only under the master password, of the required settings and the friends. -/
theorem exportBackup_ok {guard : Guard} {connection : Except TrustChain.Raised Unit}
    {store : KeyStore Priv Pub} {now : Int} {data : Json}
    (exported : exportBackup L guard password connection store tables now = .ok data) :
    verifyMasterPassword L.keyStore guard password ⟨store, tables.database L⟩ = .ok true ∧
      ∃ texts : RequiredTexts, texts.Stored tables.settings ∧
        data = taggedPayload L (exportedPayload tables texts.settings now) password := by
  obtain ⟨valid, verified, exported⟩ := ok_of_bind exported
  cases valid with
  | false => cases exported
  | true =>
      obtain ⟨_, opened, exported⟩ := ok_of_bind exported
      obtain ⟨settings, found, exported⟩ := ok_of_bind exported
      obtain ⟨texts, stored, rfl⟩ := exportedSettings_required found
      cases exported
      exact ⟨ok_of_mapError verified, texts, stored, rfl⟩

/-- What the import relies on of a tag: it is a text of ASCII digits. -/
structure Libraries.Lawful (L : Libraries Priv Pub Pem) : Prop where
  keyStore : L.keyStore.Lawful
  digest_nonempty (key data : Bytes) : L.hexdigest key data ≠ ""
  digest_ascii (key data : Bytes) : (L.hexdigest key data).toList.all (·.val < 128) = true

theorem compareDigest_self {text : String} (ascii : text.toList.all (·.val < 128) = true) :
    compareDigest text text = .ok true := by
  rw [compareDigest, ascii, Bool.and_self, if_pos rfl, decide_eq_true rfl]

/-- The entries of an exported backup. -/
def exportedBackup (tables : Tables) (texts : RequiredTexts) (now : Int) (tag : String) :
    Backup where
  version := .int backupVersion
  exportedAt := .int now
  settings := texts.settings
  friends := exportedFriends tables
  hmac := .str tag

/-- An exported backup passes every check of the import. -/
theorem checkedBackup_exported (lawful : L.Lawful) (tables : Tables) (texts : RequiredTexts)
    (now : Int) (password : Bytes) :
    checkedBackup L (taggedPayload L (exportedPayload tables texts.settings now) password) password =
      .ok (exportedBackup tables texts now
        (computeHmac L (.dict (exportedPayload tables texts.settings now)) password)) := by
  have schema (tag : String) : validateBackupSchema
      (.dict (exportedPayload tables texts.settings now ++ [("hmac", .str tag)])) =
        .ok (exportedBackup tables texts now tag) := rfl
  have present (tag : String) : storedHmac (.str tag) = .ok tag ∨ tag = "" := by
    by_cases empty : tag = ""
    · exact .inr empty
    · exact .inl (if_neg empty)
  have tagged : computeHmac L (.dict (exportedPayload tables texts.settings now)) password ≠ "" :=
    lawful.digest_nonempty _ _
  have stored := (present _).resolve_right tagged
  have same : compareDigest (computeHmac L (exportedBackup tables texts now
      (computeHmac L (.dict (exportedPayload tables texts.settings now)) password)).payload password)
        (computeHmac L (.dict (exportedPayload tables texts.settings now)) password) = .ok true :=
    compareDigest_self (lawful.digest_ascii _ _)
  rw [taggedPayload, checkedBackup, schema, ok_bind]
  show (do
    let stored ← storedHmac (.str (computeHmac L (.dict _) password))
    _) = _
  rw [stored, ok_bind, same]
  rfl

theorem insertFriend_exported (rows : RestoredRows) (name : String) (friend : RestoredFriend)
    (absent : rows.friends.get? name = none) :
    insertFriend L rows (exportedFriend name friend) =
      .ok { rows with friends := rows.friends.set name friend } := by
  have new : insertNew rows.friends name friend = .ok (rows.friends.set name friend) := by
    rw [insertNew, absent]
    rfl
  have columns : insertFriend L rows (exportedFriend name friend) =
      (insertNew rows.friends name friend >>= fun friends => .ok { rows with friends }) := by
    obtain ⟨pem, hasSecret, secret, x25519⟩ := friend
    cases hasSecret <;> cases secret <;> cases x25519 <;> rfl
  rw [columns, new, ok_bind]

theorem items_set_of_absent {ν : Type} (dict : Dict String ν) {key : String} (value : ν)
    (absent : dict.get? key = none) : (dict.set key value).items = dict.items ++ [(key, value)] := by
  have missing := (Dict.get?_eq_none_iff dict key).mp absent
  rw [Dict.set, dif_neg missing]

/-- Friends with names of their own are written behind those that are there. -/
theorem insertFriends_exported (items : List (String × RestoredFriend)) (rows : RestoredRows)
    (unique : (rows.friends.items.map Prod.fst ++ items.map Prod.fst).Nodup) :
    ∃ friends : Dict String RestoredFriend, friends.items = rows.friends.items ++ items ∧
      insertFriends L rows (items.map fun item => exportedFriend item.1 item.2) =
        .ok { rows with friends } := by
  induction items generalizing rows with
  | nil => exact ⟨rows.friends, (List.append_nil _).symm, rfl⟩
  | cons item rest ih =>
      have absent : rows.friends.get? item.1 = none := by
        rw [Dict.get?_eq_none_iff]
        intro present
        exact (List.nodup_append.mp unique).2.2 item.1 present item.1 List.mem_cons_self rfl
      have written := items_set_of_absent rows.friends item.2 absent
      obtain ⟨friends, listed, restored⟩ := ih
        { rows with friends := rows.friends.set item.1 item.2 } (by
          rw [written, List.map_append, List.map_singleton, List.append_assoc]
          exact unique)
      refine ⟨friends, ?_, ?_⟩
      · rw [listed, written, List.append_assoc]
        rfl
      · rw [List.map_cons, insertFriends, insertFriend_exported rows item.1 item.2 absent, ok_bind]
        exact restored

/-- The table of settings that an exported backup fills. -/
def RequiredTexts.table (texts : RequiredTexts) : Dict String String :=
  ((Dict.empty.set "public_key" texts.publicKey).set "private_key_encrypted" texts.privateKey).set
    "global_secret" texts.globalSecret

theorem insertSettings_exported (texts : RequiredTexts) :
    insertSettings L .empty texts.settings = .ok ⟨texts.table, .empty⟩ := rfl

/-- An exported backup restores the columns that it names. -/
theorem restoredRows_exported (tables : Tables) (texts : RequiredTexts) (now : Int) (tag : String) :
    restoredRows L (exportedBackup tables texts now tag) =
      .ok ⟨texts.table, tables.rows.friends⟩ := by
  obtain ⟨friends, listed, restored⟩ := insertFriends_exported (L := L) tables.rows.friends.items
    ⟨texts.table, .empty⟩ tables.rows.friends.nodup
  rw [restoredRows]
  show (insertSettings L .empty texts.settings >>= fun rows =>
    insertFriends L rows (exportedFriends tables)) = _
  rw [insertSettings_exported, ok_bind]
  have same : friends = tables.rows.friends := Dict.ext_items listed
  rw [same] at restored
  exact restored

end Exported

end UltimateEnigma.BackupService
