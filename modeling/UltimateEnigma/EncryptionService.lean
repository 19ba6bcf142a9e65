import UltimateEnigma.HybridKem
import UltimateEnigma.LegacyStrategy
import UltimateEnigma.Py.Base64

set_option autoImplicit false

namespace UltimateEnigma.Encryption

open Py Crypto Envelope
open RatchetService (Service ServiceError StorageCipher)

/-- What one `EncryptionService` works on: the key store, the setting `my_name`, and the ratchet
sessions. -/
structure Device (Priv Pub DhPriv Key StorageKey Box : Type) where
  store : KeyStore Priv Pub
  myNameSetting : Option String
  ratchet : Service DhPriv Key StorageKey Box

/-- What the strategies draw at random. -/
structure Draws (DhPriv : Type) where
  legacy : EncryptDraws
  ratchetPriv : DhPriv
  ratchetNonce : Bytes
  kemPriv : Bytes
  kemDraw : Bytes
  pqcNonce : Bytes

section Strategies

variable {Priv Pub DhPriv Dh Key StorageKey Box : Type}
variable (L : MessageLibrary Priv Pub) (K : KemLibrary)
variable (P : DoubleRatchet.Primitives DhPriv Dh Key)
variable (cipher : StorageCipher DhPriv Key StorageKey Box)

abbrev DeviceCall (Priv Pub DhPriv Key StorageKey Box α : Type) : Type :=
  Call Failure (Device Priv Pub DhPriv Key StorageKey Box) α

/-- A call of `RatchetService`, with what becomes of its exceptions. -/
def onRatchet {α : Type} (refuse : ServiceError → Failure)
    (call : Call ServiceError (Service DhPriv Key StorageKey Box) α) :
    DeviceCall Priv Pub DhPriv Key StorageKey Box α := fun device =>
  match call.run device.ratchet with
  | (.ok value, after) => (.ok value, { device with ratchet := after })
  | (.error raised, after) => (.error (refuse raised), { device with ratchet := after })

/-- `KeyStore.my_name`. -/
def myName (device : Device Priv Pub DhPriv Key StorageKey Box) : String :=
  match device.myNameSetting.filter fun name => name ≠ "" with
  | some name => name
  | none =>
      match device.store.myPub with
      | some pub =>
          let print := fingerprint L (encodeUtf8 (L.pubkeyToPem pub))
          "user-" ++ String.ofList (print.toList.take 8)
      | none => "anonymous"

/-- `RatchetService.has_active_ratchet`. -/
def hasActiveRatchet (service : Service DhPriv Key StorageKey Box) (friendName : String) : Bool :=
  (service.rows.get? friendName).join.isSome

/-- `RatchetEncryptionStrategy.friend_supports_ratchet`. -/
def friendSupportsRatchet (device : Device Priv Pub DhPriv Key StorageKey Box)
    (friendName : String) : Bool :=
  hasActiveRatchet device.ratchet friendName ||
    (((device.store.friendsCapabilities.get? friendName).getD []).lookup
      "double_ratchet").getD false

def refuseRatchetEncryption (friendName : String) : ServiceError → Failure
  | .friendNotFound _ | .noActiveSession _ =>
      .encryptionError ("No active ratchet session for '" ++ friendName ++
        "'. Re-establish the ratchet before sending.")
  | .ratchet cause => .passedRatchet cause
  | cause => .encryptionErrorFrom ("Ratchet encryption failed for '" ++ friendName ++ "': ")
      (.service cause)

def refuseRatchetDecryption (senderName : String) : ServiceError → Failure
  | .friendNotFound _ | .noActiveSession _ =>
      .decryptionError ("No active ratchet session for '" ++ senderName ++
        "'. The session may need to be re-established.")
  | .ratchet cause => .passedRatchet cause
  | cause => .decryptionErrorFrom ("Ratchet decryption failed from '" ++ senderName ++ "': ")
      (.service cause)

/-- `except ValueError as exc: raise EncryptionError(str(exc))` around `build`. -/
def orEncryptionError : Except Raised Bytes → Except Failure Bytes
  | .ok packet => .ok packet
  | .error (.valueError message) => .error (.encryptionError message)
  | .error cause => .error (.passed cause)

/-- `bytes.decode("utf-8")`. -/
def decodeStrict (plaintext : Bytes) : Except Failure String :=
  match decodeUtf8 plaintext with
  | some text => .ok text
  | none => .error .unicodeDecodeError

/-- `RatchetEncryptionStrategy.encrypt`. -/
def ratchetEncrypt (clocks : Clocks) (draws : Draws DhPriv) (plaintext friendName : String) :
    DeviceCall Priv Pub DhPriv Key StorageKey Box (Bytes × Int) := do
  let (header, ciphertext) ← onRatchet (refuseRatchetEncryption friendName)
    (RatchetService.encryptMessage P cipher friendName draws.ratchetPriv draws.ratchetNonce
      (encodeUtf8 plaintext))
  let device ← Call.read
  let senderName := if myName L device = "" then friendName else myName L device
  let envelope ← Call.lift (orEncryptionError
    (RatchetEnvelope.build { senderName, header, ciphertext }))
  return (envelope, toInt clocks.stamp)

/-- `RatchetEncryptionStrategy.decrypt`; `fresh` is the key pair that a ratchet step draws. -/
def ratchetDecrypt (fresh : DhPriv) (packet : Bytes) :
    DeviceCall Priv Pub DhPriv Key StorageKey Box String := do
  match RatchetEnvelope.parse packet with
  | .error _ => Call.raise (.decryptionError "Malformed Double Ratchet envelope.")
  | .ok envelope => do
      let device ← Call.read
      if friendSupportsRatchet device envelope.senderName then do
        let plaintext ← onRatchet (refuseRatchetDecryption envelope.senderName)
          (RatchetService.decryptMessage P cipher envelope.senderName fresh envelope.header
            envelope.ciphertext)
        Call.lift (decodeStrict plaintext)
      else
        Call.raise (.decryptionError ("Received ratchet message from '" ++ envelope.senderName ++
          "' who has no ratchet capability registered. Possible protocol mismatch."))

/-- `PqcEncryptionStrategy.encrypt`. -/
def pqcEncrypt (store : KeyStore Priv Pub) (clocks : Clocks) (draws : Draws DhPriv)
    (timesOut : Bool) (plaintext friendName : String) : Except Failure (Bytes × Int) :=
  if !K.pqcAvailable then
    .error (.encryptionError ("Post-quantum cryptography is not available. " ++
      "Install liboqs native library + pip install liboqs-python."))
  else
    match (store.friendsPqcCombinedPub.get? friendName).filter fun pub => !pub.isEmpty with
    | none =>
        .error (.encryptionError ("No PQC public key stored for '" ++ friendName ++
          "'. Import their PQC combined public key first."))
    | some combinedPub =>
        if timesOut then
          .error (.encryptionError ("PQC encapsulation timed out after 60s. " ++
            "The system may be under heavy load."))
        else
          match HybridKem.encapsulate K draws.kemPriv draws.kemDraw combinedPub with
          | .error cause =>
              .error (.encryptionErrorFrom
                ("PQC encapsulation failed for '" ++ friendName ++ "': ") (.kem cause))
          | .ok (kemCiphertext, sharedSecret) => do
              let aesCiphertext :=
                L.aesEncrypt sharedSecret draws.pqcNonce (encodeUtf8 plaintext) []
              let envelope ← orEncryptionError (PqcEnvelope.build
                { kemCiphertext, nonce := draws.pqcNonce, aesCiphertext })
              return (envelope, toInt clocks.stamp)

/-- `PqcEncryptionStrategy.decrypt`. -/
def pqcDecrypt (store : KeyStore Priv Pub) (timesOut : Bool) (packet : Bytes) :
    Except Failure String :=
  if !K.pqcAvailable then
    .error (.decryptionError ("Post-quantum cryptography is not available. " ++
      "Install liboqs to decrypt PQC messages."))
  else
    match store.cachedPqcBundle with
    | none =>
        .error (.decryptionError ("PQC private keys are not loaded. " ++
          "Generate PQC keys via the Friends tab and restart the app."))
    | some bundle =>
        match PqcEnvelope.parse packet with
        | .error _ => .error (.decryptionError "Malformed PQC envelope.")
        | .ok envelope =>
            if timesOut then
              .error (.decryptionError ("PQC decapsulation timed out after 60s. " ++
                "The system may be under heavy load."))
            else
              match HybridKem.decapsulate K bundle envelope.kemCiphertext with
              | .error cause =>
                  .error (.decryptionErrorFrom "PQC decapsulation failed: " (.kem cause))
              | .ok sharedSecret =>
                  match L.aesDecrypt sharedSecret envelope.nonce envelope.aesCiphertext [] with
                  | none =>
                      .error (.decryptionError
                        ("PQC decryption failed: authentication tag mismatch or corrupted data."))
                  | some plaintext => decodeStrict plaintext

/-- The strategies that `EncryptionService.encrypt` chooses from. -/
inductive Dispatch where
  | pqc (friendName : String)
  | ratchet (friendName : String)
  | legacy
deriving DecidableEq, Repr

/-- The choice that `EncryptionService.encrypt` makes. -/
def dispatch (device : Device Priv Pub DhPriv Key StorageKey Box) (friendName : Option String)
    (mode : Mode) : Dispatch :=
  match givenName friendName, mode with
  | some name, .pqc => .pqc name
  | some name, .shared => if friendSupportsRatchet device name then .ratchet name else .legacy
  | _, _ => .legacy

/-- `EncryptionService.encrypt`. Only the last branch passes the options on. -/
def encrypt (clocks : Clocks) (draws : Draws DhPriv) (timesOut : Bool) (plaintext : String)
    (friendName : Option String) (mode : Mode) (sign : Bool)
    (selfDestructSeconds : Option Int) :
    DeviceCall Priv Pub DhPriv Key StorageKey Box (Bytes × Int) := do
  let device ← Call.read
  match dispatch device friendName mode with
  | .pqc name => Call.lift (pqcEncrypt L K device.store clocks draws timesOut plaintext name)
  | .ratchet name => ratchetEncrypt L P cipher clocks draws plaintext name
  | .legacy => Call.lift (legacyEncrypt L device.store clocks draws.legacy plaintext friendName
      mode sign selfDestructSeconds)

/-- `EncryptionService.decrypt`. -/
def decrypt (clocks : Clocks) (fresh : DhPriv) (timesOut : Bool) (b64Text : String) :
    DeviceCall Priv Pub DhPriv Key StorageKey Box String := do
  let device ← Call.read
  match b64decode b64Text with
  | .error _ => Call.raise (.decryptionError "Invalid Base64 input.")
  | .ok packet =>
      match identifyEnvelopeType packet with
      | some .pqc => Call.lift (pqcDecrypt L K device.store timesOut packet)
      | some .ratchet => ratchetDecrypt P cipher fresh packet
      | none => Call.lift (legacyDecrypt L device.store clocks packet)

end Strategies

end UltimateEnigma.Encryption
