import UltimateEnigma.KeyStore
import Mathlib.Logic.Function.Basic

set_option autoImplicit false

namespace UltimateEnigma

open Py

namespace KeyStore

/-- The keys of the settings table whose value is a wrapped secret. -/
inductive SecretSetting where
  | globalSecret
  | kyberPrivEncrypted
  | pqcX25519PrivEncrypted
  | ed25519PrivEncrypted
  | dilithiumPrivEncrypted
  | totpSecretEncrypted
  | ratchetStorageKey
  | duressVerifier
deriving DecidableEq, Repr

/-- The keys whose value is an encrypted PEM. -/
inductive KeySetting where
  | privateKeyEncrypted
  | legacyPrivateKeyEncrypted
  | duressDecoyPrivkey
deriving DecidableEq, Repr

/-- The keys whose value is plain text. -/
inductive TextSetting where
  | publicKey
  | pqcCombinedPubB64
  | hybridSigCombinedPubB64
  | ratchetHkdfSalt
  | totpSetupComplete
  | totpEnabled
  | totpLastCounter
deriving DecidableEq, Repr

abbrev Capabilities := List (String × Bool)

structure FriendRow where
  publicKeyPem : String
  hasSharedSecret : Bool
  sharedSecretEncrypted : Option Wrapper
  x25519PublicKeyB64 : Option String
  capabilitiesJson : Option Capabilities
  ratchetStateJson : Option String
  pqcCombinedPubB64 : Option String
  hybridSigPubB64 : Option String
  ecdhPrivEncrypted : Option Wrapper
deriving DecidableEq, Repr

structure Database (Pem : Type) where
  secrets : SecretSetting → Option Wrapper
  keys : KeySetting → Option Pem
  texts : TextSetting → Option String
  legacyKeyExpiry : Option Rat
  friends : Dict String FriendRow

namespace Database

variable {Pem : Type}

def empty : Database Pem where
  secrets := fun _ => none
  keys := fun _ => none
  texts := fun _ => none
  legacyKeyExpiry := none
  friends := .empty

/-- `INSERT OR REPLACE INTO settings`. -/
def setSecret (db : Database Pem) (key : SecretSetting) (value : Wrapper) : Database Pem :=
  { db with secrets := Function.update db.secrets key (some value) }

def setKey (db : Database Pem) (key : KeySetting) (value : Pem) : Database Pem :=
  { db with keys := Function.update db.keys key (some value) }

def setText (db : Database Pem) (key : TextSetting) (value : String) : Database Pem :=
  { db with texts := Function.update db.texts key (some value) }

/-- `UPDATE settings SET value=? WHERE key=?`: no row, no effect. -/
def updateSecret (db : Database Pem) (key : SecretSetting) (value : Wrapper) : Database Pem :=
  { db with secrets := Function.update db.secrets key ((db.secrets key).map fun _ => value) }

def updateKey (db : Database Pem) (key : KeySetting) (value : Pem) : Database Pem :=
  { db with keys := Function.update db.keys key ((db.keys key).map fun _ => value) }

def updateText (db : Database Pem) (key : TextSetting) (value : String) : Database Pem :=
  { db with texts := Function.update db.texts key ((db.texts key).map fun _ => value) }

/-- `DELETE FROM settings WHERE key=?`. -/
def deleteSecret (db : Database Pem) (key : SecretSetting) : Database Pem :=
  { db with secrets := Function.update db.secrets key none }

def deleteText (db : Database Pem) (key : TextSetting) : Database Pem :=
  { db with texts := Function.update db.texts key none }

def deleteLegacyKey (db : Database Pem) : Database Pem :=
  { db with
    keys := Function.update db.keys .legacyPrivateKeyEncrypted none
    legacyKeyExpiry := none }

/-- `INSERT OR REPLACE INTO friends`: the old row goes, the new one comes last. -/
def replaceFriend (db : Database Pem) (name : String) (row : FriendRow) : Database Pem :=
  { db with friends := (db.friends.erase name).set name row }

def deleteFriend (db : Database Pem) (name : String) : Database Pem :=
  { db with friends := db.friends.erase name }

/-- `UPDATE friends SET …`, without a `WHERE`. -/
def mapFriends (db : Database Pem) (change : FriendRow → FriendRow) : Database Pem :=
  { db with friends := db.friends.mapValues fun _ row => change row }

end Database

structure PqcBundle where
  x25519Priv : Bytes
  kyberPriv : Bytes
  combinedPub : Bytes
deriving DecidableEq, Repr

/-- What `HybridSigner.generate_keys` returns, as far as it is stored. -/
structure HybridKeys where
  edPriv : Bytes
  dilPriv : Bytes
  combinedPub : Bytes
deriving DecidableEq, Repr

end KeyStore

/-- The attributes of a `KeyStore` object. Private keys of the curves are held by their raw bytes,
guarded buffers by what they hold. -/
structure KeyStore (Priv Pub : Type) where
  myPub : Option Pub := none
  myPriv : Option Priv := none
  legacyPriv : Option Priv := none
  globalSecret : Option Bytes := none
  friends : List (String × Pub × Option Bytes) := []
  friendsX25519 : Dict String String := .empty
  friendsEcdhPriv : Dict String Bytes := .empty
  friendsCapabilities : Dict String KeyStore.Capabilities := .empty
  friendsPqcCombinedPub : Dict String Bytes := .empty
  myKyberPriv : Option Bytes := none
  myPqcCombinedPub : Option Bytes := none
  cachedPqcBundle : Option KeyStore.PqcBundle := none
  myEdPriv : Option Bytes := none
  myDilPriv : Option Bytes := none
  myHybridSigCombinedPub : Option Bytes := none
  friendsHybridSigPubs : Dict String (Bytes × Bytes) := .empty
  ratchetStorageKey : Option Bytes := none
  duressMode : Bool := false
  needsRotation : Bool := false

namespace KeyStore

/-- A key store and the database it works on. -/
structure Session (Priv Pub Pem : Type) where
  store : KeyStore Priv Pub
  db : Database Pem

abbrev StoreCall (Priv Pub Pem α : Type) : Type := Call Raised (Session Priv Pub Pem) α

section Attributes

variable {Priv Pub Pem : Type}

/-- Assign attributes of the store. -/
def assign (change : KeyStore Priv Pub → KeyStore Priv Pub) : StoreCall Priv Pub Pem Unit :=
  Call.modify fun session => { session with store := change session.store }

/-- Commit statements on the database. -/
def commit (change : Database Pem → Database Pem) : StoreCall Priv Pub Pem Unit :=
  Call.modify fun session => { session with db := change session.db }

@[simp] theorem run_assign (change : KeyStore Priv Pub → KeyStore Priv Pub)
    (session : Session Priv Pub Pem) :
    (assign change).run session = (.ok (), { session with store := change session.store }) := rfl

@[simp] theorem run_assign_bind {α : Type} (change : KeyStore Priv Pub → KeyStore Priv Pub)
    (next : Unit → StoreCall Priv Pub Pem α) (session : Session Priv Pub Pem) :
    (assign change >>= next).run session =
      (next ()).run { session with store := change session.store } := rfl

@[simp] theorem run_commit (change : Database Pem → Database Pem)
    (session : Session Priv Pub Pem) :
    (commit change : StoreCall Priv Pub Pem Unit).run session =
      (.ok (), { session with db := change session.db }) := rfl

@[simp] theorem run_commit_bind {α : Type} (change : Database Pem → Database Pem)
    (next : Unit → StoreCall Priv Pub Pem α) (session : Session Priv Pub Pem) :
    (commit change >>= next).run session =
      (next ()).run { session with db := change session.db } := rfl

theorem run_assign_ok_iff {change : KeyStore Priv Pub → KeyStore Priv Pub} {result : Unit}
    {session after : Session Priv Pub Pem} :
    (assign change).run session = (.ok result, after) ↔
      after = { session with store := change session.store } :=
  Call.run_modify_ok_iff

theorem run_commit_ok_iff {change : Database Pem → Database Pem} {result : Unit}
    {session after : Session Priv Pub Pem} :
    (commit change).run session = (.ok result, after) ↔
      after = { session with db := change session.db } :=
  Call.run_modify_ok_iff

theorem assign_keeps_db (change : KeyStore Priv Pub → KeyStore Priv Pub) :
    (assign change : StoreCall Priv Pub Pem Unit).Keeps Session.db :=
  Call.keeps_modify fun _ => rfl

end Attributes

/-- `if value:` for bytes that may be missing. -/
def truthy : Option Bytes → Bool
  | none => false
  | some bytes => !bytes.isEmpty

/-- `X25519PrivateKey.from_private_bytes` and `Ed25519PrivateKey.from_private_bytes`. -/
def fromPrivateBytes (bytes : Bytes) : Except Raised Bytes :=
  if bytes.length = 32 then .ok bytes else .error .valueError

/-- `struct.unpack(">H", combined_pub[offset:offset + 2])[0]` at the front of what remains. -/
def unpackLength (bytes : Bytes) : Except Raised Nat :=
  if (bytes.take 2).length = 2 then .ok (unpackBE (bytes.take 2)) else .error .structError

/-- `HybridSigner.parse_combined_pub`. -/
def parseCombinedPub (combined : Bytes) : Except Raised (Bytes × Bytes) := do
  let edLength ← unpackLength combined
  let afterLength := combined.drop 2
  let afterEd := afterLength.drop edLength
  let dilLength ← unpackLength afterEd
  return (afterLength.take edLength, (afterEd.drop 2).take dilLength)

/-- `KeyStore.wipe`. -/
def wiped {Priv Pub : Type} (store : KeyStore Priv Pub) : KeyStore Priv Pub :=
  { store with
    globalSecret := none
    ratchetStorageKey := none
    friends := store.friends.map fun friend => (friend.1, friend.2.1, none)
    friendsX25519 := .empty
    friendsEcdhPriv := .empty
    friendsCapabilities := .empty
    friendsPqcCombinedPub := .empty
    myKyberPriv := none
    myPqcCombinedPub := none
    myDilPriv := none
    myEdPriv := none
    myHybridSigCombinedPub := none
    friendsHybridSigPubs := .empty
    myPriv := none
    myPub := none
    cachedPqcBundle := none }

end KeyStore

end UltimateEnigma
