import UltimateEnigma.KeyStoreLoad

set_option autoImplicit false

namespace UltimateEnigma

open Py

namespace KeyStore

/-- `LEGACY_KEY_RETENTION_DAYS * 86400`. -/
def legacyKeyRetention : Rat := 30 * 86400

/-- `except (ValueError, TypeError) as e: raise KeyStoreError(f"…{e}") from e`. -/
def valueOrTypeAs (message : String) (raised : Raised) : Raised :=
  if raised.isValueOrType then .keyStoreErrorFrom message raised else raised

/-- What `secrets.token_bytes` gives for each wrapper that an operation may write. -/
structure Draws where
  secret : SecretSetting → Entropy
  key : KeySetting → Bytes
  sharedSecret : String → Entropy
  ecdhPriv : String → Entropy

/-- The arguments of `save_friend` but its name and password. -/
structure FriendUpdate where
  pem : String
  sharedSecret : Option Bytes
  x25519PubB64 : Option String
  capabilities : Option Capabilities
  pqcCombinedPubB64 : Option String
  hybridSigPubB64 : Option String
  ecdhPrivBytes : Option Bytes
deriving DecidableEq, Repr

/-- `dict[key] = value` with a value, `dict.pop(key, None)` without. -/
def setOrPop {ν : Type} (dict : Dict String ν) (key : String) : Option ν → Dict String ν
  | some value => dict.set key value
  | none => dict.erase key

theorem get?_setOrPop {ν : Type} (dict : Dict String ν) (key other : String) (value : Option ν) :
    (setOrPop dict key value).get? other = if other = key then value else dict.get? other := by
  cases value with
  | none => exact dict.get?_erase key other
  | some value => exact dict.get?_set key other value

section Operations

variable {Priv Pub Pem : Type} (P : Primitives Priv Pub Pem) (platform : Platform)

/-- The rows of hybrid signing keys, in the order in which they are written. -/
def hybridStatements (password : Bytes) (draws : Draws) (keys : HybridKeys) :
    List (Database Pem → Database Pem) :=
  [fun db => db.setSecret .ed25519PrivEncrypted
      (wrap P keys.edPriv password (draws.secret .ed25519PrivEncrypted)),
    fun db => db.setSecret .dilithiumPrivEncrypted
      (wrap P keys.dilPriv password (draws.secret .dilithiumPrivEncrypted)),
    fun db => db.setText .hybridSigCombinedPubB64 (b64encode keys.combinedPub)]

def runStatements (statements : List (Database Pem → Database Pem)) (db : Database Pem) :
    Database Pem :=
  statements.foldl (fun current statement => statement current) db

/-- The first half of `init_db`; returns whether it made keys. -/
def insertFirstKeys (password : Bytes) (priv : Priv) (globalSecret : Bytes) (draws : Draws) :
    StoreCall Priv Pub Pem Bool := do
  let session ← Call.read
  match session.db.keys .privateKeyEncrypted with
  | some _ => return false
  | none => do
      let pem ← Call.lift (P.privkeyToEncryptedPem priv password (draws.key .privateKeyEncrypted))
      commit fun db =>
        ((db.setText .publicKey (P.pubkeyToPem (P.publicKey priv))).setKey
          .privateKeyEncrypted pem).setSecret .globalSecret
          (wrap P globalSecret password (draws.secret .globalSecret))
      return true

/-- The second half. Keys that cannot be generated or stored are left out as a whole. -/
def insertHybridKeys (password : Bytes) (draws : Draws) (hybrid : Option HybridKeys) :
    StoreCall Priv Pub Pem Unit := do
  let session ← Call.read
  match hybrid with
  | none => return ()
  | some keys =>
      if platform.hybridSigAvailable && (session.db.texts .hybridSigCombinedPubB64).isNone then
        commit (runStatements (hybridStatements P password draws keys))
      else return ()

/-- `init_db`. -/
def initDb (password : Bytes) (priv : Priv) (globalSecret : Bytes) (draws : Draws)
    (hybrid : Option HybridKeys) : StoreCall Priv Pub Pem Bool := do
  let newKeys ← insertFirstKeys P password priv globalSecret draws
  insertHybridKeys P platform password draws hybrid
  return newKeys

def setDuressPassword (duressPassword : Bytes) (dummySecret : Bytes) (decoy : Priv)
    (draws : Draws) : StoreCall Priv Pub Pem Unit := do
  let pem ← Call.lift (P.privkeyToEncryptedPem decoy duressPassword
    (draws.key .duressDecoyPrivkey))
  commit fun db =>
    (db.setSecret .duressVerifier
      (wrap P dummySecret duressPassword (draws.secret .duressVerifier))).setKey
        .duressDecoyPrivkey pem

def updateGlobalSecret (newSecret password : Bytes) (draws : Draws) :
    StoreCall Priv Pub Pem Unit := do
  commit fun db =>
    db.updateSecret .globalSecret (wrap P newSecret password (draws.secret .globalSecret))
  assign fun store => { store with globalSecret := some newSecret }

/-- `database.encrypt_secret` for a column of `save_friend`; it needs a password. -/
def wrapColumn (password : Bytes) (entropy : Entropy) :
    Option Bytes → Except Raised (Option Wrapper)
  | none => .ok none
  | some plain =>
      if password.isEmpty then .error .valueError else .ok (some (wrap P plain password entropy))

/-- `if shared_secret:`. -/
def nonemptyBytes : Option Bytes → Option Bytes
  | some bytes => if bytes.isEmpty then none else some bytes
  | none => none

/-- `if capabilities:`. -/
def nonemptyCapabilities : Option Capabilities → Option Capabilities
  | some capabilities => if capabilities.isEmpty then none else some capabilities
  | none => none

/-- The row is committed before the keys are parsed. -/
def saveFriend (name : String) (update : FriendUpdate) (password : Bytes) (draws : Draws) :
    StoreCall Priv Pub Pem Unit := do
  let sharedSecret := nonemptyBytes update.sharedSecret
  let secretColumn ← Call.lift (wrapColumn P password (draws.sharedSecret name) sharedSecret)
  let ecdhColumn ← Call.lift
    (wrapColumn P password (draws.ecdhPriv name) update.ecdhPrivBytes)
  commit fun db => db.replaceFriend name
    { publicKeyPem := update.pem
      hasSharedSecret := secretColumn.isSome
      sharedSecretEncrypted := secretColumn
      x25519PublicKeyB64 := update.x25519PubB64
      capabilitiesJson := nonemptyCapabilities update.capabilities
      ratchetStateJson := (db.friends.get? name).bind FriendRow.ratchetStateJson
      pqcCombinedPubB64 := update.pqcCombinedPubB64
      hybridSigPubB64 := update.hybridSigPubB64
      ecdhPrivEncrypted := ecdhColumn }
  let pub ← Call.lift (P.pemToPubkey update.pem)
  let pqcCombinedPub ← Call.lift (attemptColumn (nonempty update.pqcCombinedPubB64) decodeBase64)
  assign fun store =>
    { store with
      friends := store.friends.filter (fun friend => friend.1 ≠ name) ++
        [(name, pub, sharedSecret)]
      friendsX25519 := setOrPop store.friendsX25519 name (nonempty update.x25519PubB64)
      friendsEcdhPriv := setOrPop store.friendsEcdhPriv name update.ecdhPrivBytes
      friendsCapabilities := setOrPop store.friendsCapabilities name
        (nonemptyCapabilities update.capabilities)
      friendsPqcCombinedPub := setOrPop store.friendsPqcCombinedPub name pqcCombinedPub }
  let hybridSigPub :=
    if platform.hybridSigAvailable then nonempty update.hybridSigPubB64 else none
  let hybridSigPubs ← Call.lift
    (attemptColumn hybridSigPub (fun text => decodeBase64 text >>= parseCombinedPub))
  assign fun store =>
    { store with friendsHybridSigPubs := setOrPop store.friendsHybridSigPubs name hybridSigPubs }

def removeFriend (name : String) : StoreCall Priv Pub Pem Unit := do
  commit fun db => db.deleteFriend name
  assign fun store =>
    { store with
      friends := store.friends.filter fun friend => friend.1 ≠ name
      friendsX25519 := store.friendsX25519.erase name
      friendsEcdhPriv := store.friendsEcdhPriv.erase name
      friendsCapabilities := store.friendsCapabilities.erase name
      friendsPqcCombinedPub := store.friendsPqcCombinedPub.erase name
      friendsHybridSigPubs := store.friendsHybridSigPubs.erase name }

/-- `keys` is what `HybridKEM.generate_keys` returns. -/
def ensurePqcKeys (password : Bytes) (keys : PqcBundle) (draws : Draws) :
    StoreCall Priv Pub Pem Unit := do
  let session ← Call.read
  if session.store.myKyberPriv.isSome && session.store.myPqcCombinedPub.isSome then
    return ()
  else if !platform.pqcAvailable then
    Call.raise (.keyStoreError "Cannot generate PQC keys: liboqs is not available")
  else do
    commit fun db =>
      (db.setSecret .kyberPrivEncrypted
        (wrap P keys.kyberPriv password (draws.secret .kyberPrivEncrypted))).setText
          .pqcCombinedPubB64 (b64encode keys.combinedPub)
    assign fun store =>
      { store with
        myKyberPriv := some keys.kyberPriv
        myPqcCombinedPub := some keys.combinedPub }

/-- The bundle already stored, where the store holds the other two keys. -/
def storedPqcBundle (password : Bytes) (session : Session Priv Pub Pem) :
    Except Raised (Option PqcBundle) :=
  match session.store.myKyberPriv, session.store.myPqcCombinedPub with
  | some kyberPriv, some combinedPub => do
      let x25519Priv ← attemptColumn (session.db.secrets .pqcX25519PrivEncrypted)
        (fun wrapper => unwrap P wrapper password >>= fromPrivateBytes)
      return x25519Priv.map fun x25519Priv => { x25519Priv, kyberPriv, combinedPub }
  | _, _ => .ok none

def ensurePqcKeysFull (password : Bytes) (keys : PqcBundle) (draws : Draws) :
    StoreCall Priv Pub Pem (Option PqcBundle) := do
  if !platform.pqcAvailable then
    return none
  else do
    let session ← Call.read
    match ← Call.lift (storedPqcBundle P password session) with
    | some bundle => return some bundle
    | none => do
        commit fun db =>
          ((db.setSecret .kyberPrivEncrypted
            (wrap P keys.kyberPriv password (draws.secret .kyberPrivEncrypted))).setSecret
              .pqcX25519PrivEncrypted
              (wrap P keys.x25519Priv password (draws.secret .pqcX25519PrivEncrypted))).setText
                .pqcCombinedPubB64 (b64encode keys.combinedPub)
        assign fun store =>
          { store with
            myKyberPriv := some keys.kyberPriv
            myPqcCombinedPub := some keys.combinedPub }
        return some keys

/-- The three stored parts of the bundle, read with a password. -/
def readPqcBundle (password : Bytes) (db : Database Pem) : Except Raised (Option PqcBundle) :=
  match db.secrets .kyberPrivEncrypted, db.secrets .pqcX25519PrivEncrypted,
    db.texts .pqcCombinedPubB64 with
  | some kyber, some x25519, some pub => attempt do
      let kyberPriv ← unwrap P kyber password
      let x25519Bytes ← unwrap P x25519 password
      let combinedPub ← decodeBase64 pub
      let x25519Priv ← fromPrivateBytes x25519Bytes
      return { x25519Priv, kyberPriv, combinedPub }
  | _, _, _ => .ok none

def loadPqcBundle (password : Bytes) : StoreCall Priv Pub Pem (Option PqcBundle) := do
  let session ← Call.read
  match ← Call.lift (readPqcBundle P password session.db) with
  | none => return none
  | some bundle => do
      assign fun store =>
        { store with
          myKyberPriv := some bundle.kyberPriv
          myPqcCombinedPub := some bundle.combinedPub }
      return some bundle

/-- `FriendHybridSigKeyService.generate_hybrid_sig_keys`. -/
def generateHybridSigKeys (password : Bytes) (keys : HybridKeys) (draws : Draws) :
    StoreCall Priv Pub Pem Unit := do
  commit (runStatements (hybridStatements P password draws keys))
  assign fun store =>
    { store with
      myEdPriv := some keys.edPriv
      myDilPriv := some keys.dilPriv
      myHybridSigCombinedPub := some keys.combinedPub }

/-- The password check of `rotate_rsa_key`, the row that is retired and the new one. -/
def rotatedKeys (password : Bytes) (priv : Priv) (draws : Draws) (db : Database Pem) :
    Except Raised (Pem × Pem) :=
  match db.secrets .globalSecret with
  | none => .error (.keyStoreError "rotate_rsa_key: global_secret not found")
  | some wrapper => do
      let enc ← jsonLoads wrapper
      let _ ← orKeyStoreError "rotate_rsa_key: password verification failed"
        (decryptSecret P enc password)
      match db.keys .privateKeyEncrypted with
      | none => .error (.keyStoreError "rotate_rsa_key: current private key not found")
      | some current => do
          let renewed ← P.privkeyToEncryptedPem priv password (draws.key .privateKeyEncrypted)
          return (current, renewed)

def rotateRsaKey (password : Bytes) (priv : Priv) (now : Rat) (draws : Draws) :
    StoreCall Priv Pub Pem Unit :=
  Call.mapError (valueOrTypeAs "rotate_rsa_key failed: ") do
    let session ← Call.read
    let (current, renewed) ← Call.lift (rotatedKeys P password priv draws session.db)
    commit fun db =>
      let retired := db.setKey .legacyPrivateKeyEncrypted current
      (({ retired with legacyKeyExpiry := some (now + legacyKeyRetention) }.updateText .publicKey
        (P.pubkeyToPem (P.publicKey priv))).updateKey .privateKeyEncrypted renewed)
    assign fun store => { store with myPriv := some priv, myPub := some (P.publicKey priv) }
    let legacy ← Call.lift (P.pemToPrivkey current password)
    assign fun store => { store with legacyPriv := some legacy, needsRotation := false }

/-- `bytes(secret).hex()`, as the bytes of a password. -/
def hex (secret : Bytes) : Bytes :=
  secret.flatMap fun byte =>
    [hexDigit (byte.toNat / 16), hexDigit (byte.toNat % 16)]
where
  hexDigit (value : Nat) : UInt8 :=
    UInt8.ofNat (if value < 10 then 48 + value else 87 + value)

/-- `TotpPersistence.persist_totp_secret`: without a password the global secret's hex serves. -/
def persistTotpSecret (secret : Bytes) (password : Option Bytes) (draws : Draws) :
    StoreCall Priv Pub Pem Unit := do
  let session ← Call.read
  match (nonemptyBytes password).or ((nonemptyBytes session.store.globalSecret).map hex) with
  | none => return ()
  | some key =>
      commit fun db =>
        (db.setSecret .totpSecretEncrypted
          (wrap P secret key (draws.secret .totpSecretEncrypted))).setText .totpLastCounter "-1"

/-- A secret read with the old password, and its wrapper under the new one. -/
def rewrap (oldPassword newPassword : Bytes) (entropy : Entropy) (wrapper : Wrapper) :
    Except Raised (Bytes × Wrapper) := do
  let plain ← unwrap P wrapper oldPassword
  return (plain, wrap P plain newPassword entropy)

/-- One row of the loop over the friends. The query selects only those with a shared secret; the
ECDH key of any other friend is not looked at. -/
def rewrapFriend (oldPassword newPassword : Bytes) (draws : Draws) (name : String)
    (row : FriendRow) : Except Raised (FriendRow × Option Bytes) :=
  match row.sharedSecret with
  | none => .ok (row, none)
  | some wrapper => do
      let secret ← attempt
        (rewrap P oldPassword newPassword (draws.sharedSecret name) wrapper)
      let ecdhPriv ← attemptColumn row.ecdhPrivEncrypted
        (rewrap P oldPassword newPassword (draws.ecdhPriv name))
      return ({ row with
        sharedSecretEncrypted := (secret.map Prod.snd).or row.sharedSecretEncrypted
        ecdhPrivEncrypted := (ecdhPriv.map Prod.snd).or row.ecdhPrivEncrypted },
        secret.map Prod.fst)

/-- The loop, with the friends table and `friend_updates` so far. -/
def rewrapFriends (oldPassword newPassword : Bytes) (draws : Draws) :
    List (String × FriendRow) → Dict String FriendRow → Dict String Bytes →
      Except Raised (Dict String FriendRow × Dict String Bytes)
  | [], friends, updates => .ok (friends, updates)
  | (name, row) :: rest, friends, updates => do
      let (rewrapped, plain) ← rewrapFriend P oldPassword newPassword draws name row
      rewrapFriends oldPassword newPassword draws rest (friends.set name rewrapped)
        (setIfSome updates name plain)

/-- What `change_password` has read and prepared when it writes the settings. -/
structure Rewrapped (Priv Pem : Type) where
  globalSecret : Bytes
  priv : Priv
  pem : Pem
  friends : Dict String FriendRow
  friendSecrets : Dict String Bytes
  totp : Option Bytes

def rewrapSecrets (oldPassword newPassword : Bytes) (draws : Draws) (db : Database Pem) :
    Except Raised (Rewrapped Priv Pem) :=
  match db.secrets .globalSecret with
  | none => .error (.keyStoreError "change_password: global_secret not found")
  | some wrapper => do
      let enc ← jsonLoads wrapper
      let globalSecret ← orKeyStoreError "change_password: old password verification failed"
        (decryptSecret P enc oldPassword)
      match db.keys .privateKeyEncrypted with
      | none => .error (.keyStoreError "change_password: private_key_encrypted not found")
      | some current => do
          let priv ← orKeyStoreError "change_password: cannot decrypt private key: "
            (P.pemToPrivkey current oldPassword)
          let (friends, friendSecrets) ← rewrapFriends P oldPassword newPassword draws
            db.friends.items db.friends .empty
          let totp ← attemptColumn (db.secrets .totpSecretEncrypted) (unwrap P · oldPassword)
          let pem ← P.privkeyToEncryptedPem priv newPassword (draws.key .privateKeyEncrypted)
          return { globalSecret, priv, pem, friends, friendSecrets, totp }

/-- A secret that was found is written back under the new password. -/
def rewriteTotp (newPassword : Bytes) (draws : Draws) (totp : Option Bytes) (db : Database Pem) :
    Database Pem :=
  match totp with
  | some plain => db.updateSecret .totpSecretEncrypted
      (wrap P plain newPassword (draws.secret .totpSecretEncrypted))
  | none => db

/-- The storage key comes from the store, not from its row. -/
def rewriteRatchetKey (newPassword : Bytes) (draws : Draws) (ratchetStorageKey : Option Bytes)
    (db : Database Pem) : Database Pem :=
  match ratchetStorageKey with
  | some plain => db.setSecret .ratchetStorageKey
      (wrap P plain newPassword (draws.secret .ratchetStorageKey))
  | none => db

/-- The statements of `change_password`. The legacy key, the PQC keys and the hybrid signing keys
are not among them. -/
def changedRows (newPassword : Bytes) (draws : Draws) (rewrapped : Rewrapped Priv Pem)
    (ratchetStorageKey : Option Bytes) (db : Database Pem) : Database Pem :=
  let friends := { db with friends := rewrapped.friends }
  let secret := friends.updateSecret .globalSecret
    (wrap P rewrapped.globalSecret newPassword (draws.secret .globalSecret))
  let key := secret.updateKey .privateKeyEncrypted rewrapped.pem
  rewriteRatchetKey P newPassword draws ratchetStorageKey
    (rewriteTotp P newPassword draws rewrapped.totp key)

def changedStore (rewrapped : Rewrapped Priv Pem) (store : KeyStore Priv Pub) :
    KeyStore Priv Pub :=
  { store with
    globalSecret := some rewrapped.globalSecret
    myPriv := some rewrapped.priv
    friends := store.friends.map fun friend =>
      (friend.1, friend.2.1, (rewrapped.friendSecrets.get? friend.1).or friend.2.2) }

def changePassword (oldPassword newPassword : Bytes) (draws : Draws) :
    StoreCall Priv Pub Pem Bool :=
  Call.mapError (valueOrTypeAs "change_password failed: ") do
    let session ← Call.read
    let rewrapped ← Call.lift (rewrapSecrets P oldPassword newPassword draws session.db)
    commit (changedRows P newPassword draws rewrapped session.store.ratchetStorageKey)
    assign (changedStore rewrapped)
    return true

/-- How the hybrid step of the reset went: the keys it generated, and how many of its statements
were carried out before one failed. -/
structure HybridStep where
  keys : HybridKeys
  written : Nat
deriving DecidableEq, Repr

/-- What the reset draws. Nothing for the hybrid step means that `generate_keys` failed. -/
structure ResetDraws (Priv : Type) where
  priv : Priv
  globalSecret : Bytes
  ratchetKey : Bytes
  wrappers : Draws
  hybrid : Option HybridStep

/-- Step 3 of the reset, which passes over its own failures. -/
def resetHybridKeys (password : Bytes) (draws : ResetDraws Priv) (db : Database Pem) :
    Database Pem :=
  match draws.hybrid with
  | some step =>
      if platform.hybridSigAvailable then
        runStatements ((hybridStatements P password draws.wrappers step.keys).take step.written) db
      else db
  | none => db

def withoutFriendSecrets (row : FriendRow) : FriendRow :=
  { row with hasSharedSecret := false, sharedSecretEncrypted := none, ecdhPrivEncrypted := none }

/-- The statements of `reset_with_recovery_key`, in order. -/
def resetRows (password : Bytes) (draws : ResetDraws Priv) (pem : Pem) (db : Database Pem) :
    Database Pem :=
  let rsa := ((db.updateText .publicKey (P.pubkeyToPem (P.publicKey draws.priv))).updateKey
    .privateKeyEncrypted pem).deleteLegacyKey
  let secret := rsa.updateSecret .globalSecret
    (wrap P draws.globalSecret password (draws.wrappers.secret .globalSecret))
  let hybrid := resetHybridKeys P platform password draws secret
  let friends := hybrid.mapFriends withoutFriendSecrets
  let totp := ((friends.deleteSecret .totpSecretEncrypted).deleteText .totpSetupComplete).deleteText
    .totpEnabled
  let ratchet := ((totp.deleteSecret .duressVerifier).setSecret .ratchetStorageKey
    (wrap P draws.ratchetKey password (draws.wrappers.secret .ratchetStorageKey))).deleteText
      .ratchetHkdfSalt
  ratchet.mapFriends fun row => { row with ratchetStateJson := none }

/-- The in-memory state after the reset: the hybrid keys are taken over even when their rows were
not all written. -/
def resetStore (draws : ResetDraws Priv) (before : KeyStore Priv Pub) : KeyStore Priv Pub :=
  let store := wiped before
  let hybrid := if platform.hybridSigAvailable then draws.hybrid.map HybridStep.keys else none
  { store with
    myPub := some (P.publicKey draws.priv)
    myPriv := some draws.priv
    legacyPriv := none
    globalSecret := some draws.globalSecret
    duressMode := false
    needsRotation := false
    ratchetStorageKey := some draws.ratchetKey
    myEdPriv := hybrid.map HybridKeys.edPriv
    myDilPriv := hybrid.map HybridKeys.dilPriv
    myHybridSigCombinedPub := hybrid.map HybridKeys.combinedPub
    friends := store.friends.map fun friend => (friend.1, friend.2.1, none)
    friendsEcdhPriv := .empty }

/-- `reset_with_recovery_key` between its connection and the `set_master_password` at its end. -/
def resetKeys (newPassword : Bytes) (draws : ResetDraws Priv) :
    StoreCall Priv Pub Pem Bool := do
  let pem ← Call.mapError (.keyStoreErrorFrom "Recovery reset failed: ")
    (Call.lift (P.privkeyToEncryptedPem draws.priv newPassword
      (draws.wrappers.key .privateKeyEncrypted)))
  commit (resetRows P platform newPassword draws pem)
  assign (resetStore P platform draws)
  return true

/-- The stored decoy key, where a duress password is given and opens it. -/
def storedDecoy (password : Option Bytes) (db : Database Pem) : Option Priv :=
  match password, db.keys .duressDecoyPrivkey with
  | some password, some pem => (P.pemToPrivkey pem password).toOption
  | _, _ => none

/-- A decoy key that is not stored is generated, and stored if it can be. -/
def decoyKey (password : Option Bytes) (generated : Priv) (draws : Draws) :
    StoreCall Priv Pub Pem Priv := do
  let session ← Call.read
  match storedDecoy P password session.db with
  | some stored => return stored
  | none =>
      match password.map fun password =>
        P.privkeyToEncryptedPem generated password (draws.key .duressDecoyPrivkey) with
      | some (.ok pem) => do
          commit fun db => db.setKey .duressDecoyPrivkey pem
          return generated
      | _ => return generated

def loadDuressDecoy (password : Option Bytes) (generated : Priv) (fakeSecret : Bytes)
    (draws : Draws) : StoreCall Priv Pub Pem Bool := do
  assign wiped
  let decoy ← decoyKey P password generated draws
  assign fun store =>
    { store with
      myPriv := some decoy
      myPub := some (P.publicKey decoy)
      globalSecret := some fakeSecret
      duressMode := true }
  return true

end Operations

end KeyStore

end UltimateEnigma
