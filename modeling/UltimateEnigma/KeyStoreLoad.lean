import UltimateEnigma.KeyStoreState

set_option autoImplicit false

namespace UltimateEnigma

open Py

namespace KeyStore

/-- `_HYBRID_SIG_AVAILABLE` and `is_pqc_available()`. -/
structure Platform where
  hybridSigAvailable : Bool
  pqcAvailable : Bool
deriving DecidableEq, Repr

def minRsaKeySize : Nat := 4096

section Load

variable {Priv Pub Pem : Type} (P : Primitives Priv Pub Pem) (platform : Platform)

def loadPublicKey : StoreCall Priv Pub Pem Unit := do
  let session ← Call.read
  let pem ← Call.require (.keyStoreError "Public key not found in database")
    (session.db.texts .publicKey)
  let pub ← Call.lift (P.pemToPubkey pem)
  assign fun store =>
    { store with myPub := some pub, needsRotation := decide (P.keySize pub < minRsaKeySize) }

/-- Whether to go on: a private key that does not open ends the load with `False`. -/
def loadPrivateKey (password : Bytes) : StoreCall Priv Pub Pem Bool := do
  let session ← Call.read
  let pem ← Call.require (.keyStoreError "Encrypted private key not found in database")
    (session.db.keys .privateKeyEncrypted)
  match ← Call.lift (attempt (P.pemToPrivkey pem password)) with
  | none => return false
  | some priv => do
      assign fun store => { store with myPriv := some priv }
      return true

def loadLegacyKey (password : Bytes) (now : Rat) : StoreCall Priv Pub Pem Unit := do
  assign fun store => { store with legacyPriv := none }
  let session ← Call.read
  match session.db.keys .legacyPrivateKeyEncrypted with
  | none => return ()
  | some pem =>
      if now < session.db.legacyKeyExpiry.getD 0 then do
        match ← Call.lift (attempt (P.pemToPrivkey pem password)) with
        | none => return ()
        | some priv => assign fun store => { store with legacyPriv := some priv }
      else commit Database.deleteLegacyKey

def loadGlobalSecret (password : Bytes) : StoreCall Priv Pub Pem Bool := do
  let session ← Call.read
  match session.db.secrets .globalSecret with
  | none => do
      assign fun store => { store with globalSecret := none }
      return true
  | some wrapper => do
      -- `json.loads` stands before the `try`
      let enc ← Call.lift (jsonLoads wrapper)
      match ← Call.lift (attempt (decryptSecret P enc password)) with
      | none => return false
      | some plain => do
          assign fun store => { store with globalSecret := some plain }
          return true

def loadKyberKey (password : Bytes) : StoreCall Priv Pub Pem Unit := do
  assign fun store => { store with myKyberPriv := none, myPqcCombinedPub := none }
  let session ← Call.read
  match session.db.secrets .kyberPrivEncrypted with
  | none => return ()
  | some wrapper => do
      match ← Call.lift (attempt (unwrap P wrapper password)) with
      | none => return ()
      | some plain => assign fun store => { store with myKyberPriv := some plain }

def loadPqcCombinedPub : StoreCall Priv Pub Pem Unit := do
  let session ← Call.read
  match session.db.texts .pqcCombinedPubB64 with
  | none => return ()
  | some text =>
      if truthy session.store.myKyberPriv then do
        match ← Call.lift (attempt (decodeBase64 text)) with
        | none => return ()
        | some pub => assign fun store => { store with myPqcCombinedPub := some pub }
      else return ()

/-- The bundle of the keys loaded before, with an X25519 key that opened. -/
def bundleOf (store : KeyStore Priv Pub) (x25519Priv : Bytes) : PqcBundle where
  x25519Priv := x25519Priv
  kyberPriv := store.myKyberPriv.getD []
  combinedPub := store.myPqcCombinedPub.getD []

def cachePqcBundle (password : Bytes) : StoreCall Priv Pub Pem Unit := do
  assign fun store => { store with cachedPqcBundle := none }
  let session ← Call.read
  if truthy session.store.myKyberPriv && truthy session.store.myPqcCombinedPub then do
    match session.db.secrets .pqcX25519PrivEncrypted with
    | none => return ()
    | some wrapper => do
        match ← Call.lift (attempt (unwrap P wrapper password >>= fromPrivateBytes)) with
        | none => return ()
        | some priv =>
            assign fun store => { store with cachedPqcBundle := some (bundleOf store priv) }
  else return ()

/-- The Ed25519 key is kept also when the Dilithium key after it does not open. -/
def loadHybridPrivateKeys (password : Bytes) : StoreCall Priv Pub Pem Unit := do
  let session ← Call.read
  match session.db.secrets .ed25519PrivEncrypted, session.db.secrets .dilithiumPrivEncrypted with
  | some edWrapper, some dilWrapper => do
      match ← Call.lift (attempt (unwrap P edWrapper password >>= fromPrivateBytes)) with
      | none => return ()
      | some edPriv => do
          assign fun store => { store with myEdPriv := some edPriv }
          match ← Call.lift (attempt (unwrap P dilWrapper password)) with
          | none => return ()
          | some dilPriv => assign fun store => { store with myDilPriv := some dilPriv }
  | _, _ => return ()

def loadHybridCombinedPub : StoreCall Priv Pub Pem Unit := do
  let session ← Call.read
  match session.db.texts .hybridSigCombinedPubB64 with
  | none => return ()
  | some text => do
      match ← Call.lift (attempt (decodeBase64 text)) with
      | none => return ()
      | some pub => assign fun store => { store with myHybridSigCombinedPub := some pub }

def loadHybridSigning (password : Bytes) : StoreCall Priv Pub Pem Unit := do
  assign fun store =>
    { store with myEdPriv := none, myDilPriv := none, myHybridSigCombinedPub := none }
  if platform.hybridSigAvailable then do
    loadHybridPrivateKeys P password
    loadHybridCombinedPub
  else return ()

/-- A column that is read inside a `try` of its own; without a value nothing is read. -/
def attemptColumn {α β : Type} (column : Option α) (reading : α → Except Raised β) :
    Except Raised (Option β) :=
  match column with
  | none => .ok none
  | some value => attempt (reading value)

/-- `if text:` for a text column. -/
def nonempty : Option String → Option String
  | some text => if text.isEmpty then none else some text
  | none => none

/-- The wrapper that `has_shared_secret` vouches for. -/
def FriendRow.sharedSecret (row : FriendRow) : Option Wrapper :=
  if row.hasSharedSecret then row.sharedSecretEncrypted else none

/-- The hybrid key column, which counts only where hybrid signatures are available. -/
def FriendRow.hybridSigPub (row : FriendRow) : Option String :=
  if platform.hybridSigAvailable then nonempty row.hybridSigPubB64 else none

/-- `if value is not None: dict[key] = value`. -/
def setIfSome {ν : Type} (dict : Dict String ν) (key : String) : Option ν → Dict String ν
  | some value => dict.set key value
  | none => dict

def loadFriend (password : Bytes) (name : String) (row : FriendRow) :
    StoreCall Priv Pub Pem Unit := do
  let pub ← Call.lift (P.pemToPubkey row.publicKeyPem)
  let secret ← Call.lift (attemptColumn row.sharedSecret (unwrap P · password))
  assign fun store =>
    { store with
      friends := store.friends ++ [(name, pub, secret)]
      friendsX25519 := setIfSome store.friendsX25519 name (nonempty row.x25519PublicKeyB64) }
  let ecdhPriv ← Call.lift (attemptColumn row.ecdhPrivEncrypted (unwrap P · password))
  assign fun store =>
    { store with
      friendsEcdhPriv := setIfSome store.friendsEcdhPriv name ecdhPriv
      friendsCapabilities := store.friendsCapabilities.set name (row.capabilitiesJson.getD []) }
  let pqcCombinedPub ← Call.lift (attemptColumn (nonempty row.pqcCombinedPubB64) decodeBase64)
  assign fun store =>
    { store with
      friendsPqcCombinedPub := setIfSome store.friendsPqcCombinedPub name pqcCombinedPub }
  let hybridSigPubs ← Call.lift (attemptColumn (row.hybridSigPub platform)
    (fun text => decodeBase64 text >>= parseCombinedPub))
  assign fun store =>
    { store with
      friendsHybridSigPubs := setIfSome store.friendsHybridSigPubs name hybridSigPubs }

def loadFriendRows (password : Bytes) :
    List (String × FriendRow) → StoreCall Priv Pub Pem Unit
  | [] => return ()
  | (name, row) :: rest => do
      loadFriend P platform password name row
      loadFriendRows password rest

def withoutFriends (store : KeyStore Priv Pub) : KeyStore Priv Pub :=
  { store with
    friends := []
    friendsX25519 := .empty
    friendsEcdhPriv := .empty
    friendsCapabilities := .empty
    friendsPqcCombinedPub := .empty
    friendsHybridSigPubs := .empty }

def loadFriends (password : Bytes) : StoreCall Priv Pub Pem Unit := do
  let session ← Call.read
  assign withoutFriends
  loadFriendRows P platform password session.db.friends.items

/-- The part of `load` whose exceptions become `KeyStoreError`s. -/
def loadKeys (password : Bytes) (now : Rat) : StoreCall Priv Pub Pem Bool := do
  loadPublicKey P
  if ← loadPrivateKey P password then
    loadLegacyKey P password now
    if ← loadGlobalSecret P password then
      loadKyberKey P password
      loadPqcCombinedPub
      cachePqcBundle P password
      loadHybridSigning P platform password
      loadFriends P platform password
      return true
    else return false
  else return false

/-- What `load` draws at random when no ratchet storage key is stored. -/
structure LoadDraws where
  ratchetKey : Bytes
  ratchetKeyEntropy : Entropy
  blobNonce : String → Bytes

/-- `_migrate_ratchet_blobs` for one row: what cannot be read stays as it is. -/
def migrateRatchetBlob (oldKey newKey nonce : Bytes) (text : String) : String :=
  if text.isEmpty || text.startsWith "\x7b" then text
  else
    match decodeBase64 text with
    | .error _ => text
    | .ok raw =>
        match P.aesDecrypt oldKey (raw.take 12) (raw.drop 12) with
        | .error _ => text
        | .ok plain => b64encode (nonce ++ P.aesEncrypt newKey nonce plain)

def migrateRatchetBlobs (oldKey newKey : Bytes) (blobNonce : String → Bytes)
    (db : Database Pem) : Database Pem :=
  { db with
    friends := db.friends.mapValues fun name row =>
      { row with
        ratchetStateJson :=
          row.ratchetStateJson.map (migrateRatchetBlob P oldKey newKey (blobNonce name)) } }

/-- The blobs of the legacy key, where its salt is stored, move over to the new key. -/
def migratedRows (password : Bytes) (draws : LoadDraws) (db : Database Pem) :
    Except Raised (Database Pem) :=
  match db.texts .ratchetHkdfSalt with
  | none => .ok db
  | some saltText => do
      let salt ← decodeBase64 saltText
      return migrateRatchetBlobs P (P.hkdf salt password) draws.ratchetKey draws.blobNonce db

def newRatchetStorageKey (password : Bytes) (draws : LoadDraws) (db : Database Pem) :
    Except Raised (Database Pem) := do
  let migrated ← migratedRows P password draws db
  return (migrated.setSecret .ratchetStorageKey
    (wrap P draws.ratchetKey password draws.ratchetKeyEntropy)).deleteText .ratchetHkdfSalt

/-- The storage key, or nothing (and a wiped store) when it cannot be read. -/
def loadRatchetStorageKey (password : Bytes) (draws : LoadDraws) :
    StoreCall Priv Pub Pem (Option Bytes) := do
  let session ← Call.read
  match session.db.secrets .ratchetStorageKey with
  | some wrapper => do
      match ← Call.lift (attempt (unwrap P wrapper password)) with
      | some key => return some key
      | none => do
          assign wiped
          return none
  | none => do
      match ← Call.lift (attempt (newRatchetStorageKey P password draws session.db)) with
      | some db => do
          commit fun _ => db
          return some draws.ratchetKey
      | none => do
          assign wiped
          return none

/-- `except KeyStoreError: raise`, and any other exception wrapped in one. -/
def asKeyStoreError (message : String) (raised : Raised) : Raised :=
  if raised.isKeyStoreError then raised else .keyStoreErrorFrom message raised

/-- `KeyStore.load`. -/
def load (password : Bytes) (now : Rat) (draws : LoadDraws) : StoreCall Priv Pub Pem Bool := do
  if ← Call.mapError (asKeyStoreError "Key loading failed: ") (loadKeys P platform password now)
  then
    match ← loadRatchetStorageKey P password draws with
    | none => return false
    | some key => do
        assign fun store => { store with ratchetStorageKey := some key }
        return true
  else return false

end Load

end KeyStore

end UltimateEnigma
