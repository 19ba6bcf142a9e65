import UltimateEnigma.HybridSigner
import UltimateEnigma.KeyStoreOperations
import UltimateEnigma.Py.Text

set_option autoImplicit false

namespace UltimateEnigma.Crypto

open Py

/-- Exceptions by the classes that the callers tell apart. -/
inductive Raised where
  | valueError (message : String)
  | structError
  | invalidTag
  | runtimeError
deriving DecidableEq, Repr

def aesKeySize : Nat := 32

def nonceSize : Nat := 12

def timeStep : Int := 30

def windowSize : Nat := 2

def signFlag : Nat := 1

def friendFlag : Nat := 2

def selfDestructFlag : Nat := 4

def hybridSigFlag : Nat := 8

def keyHintFlag : Nat := 16

/-- `bool(flags & flag)`. -/
def hasFlag (flags flag : Nat) : Bool := flags &&& flag != 0

/-- The libraries that `crypto.py` uses: HKDF without a salt, SHA-256, AES-GCM with its tag at the
end, RSA with OAEP and PSS, and the hybrid signatures where they are installed. -/
structure MessageLibrary (Priv Pub : Type) where
  hkdf : Bytes → Bytes → Bytes
  sha256 : Bytes → Bytes
  aesEncrypt : Bytes → Bytes → Bytes → Bytes → Bytes
  aesDecrypt : Bytes → Bytes → Bytes → Bytes → Option Bytes
  publicKey : Priv → Pub
  rsaEncrypt : Pub → Bytes → Bytes → Bytes
  rsaDecrypt : Priv → Bytes → Option Bytes
  rsaSign : Priv → Bytes → Bytes → Bytes
  rsaVerify : Pub → Bytes → Bytes → Bool
  pubkeyToPem : Pub → String
  hybridSigAvailable : Bool
  signatures : SignatureLibrary

/-- The arguments of `encrypt_message` that come by keyword. -/
structure EncryptOptions (Priv Pub : Type) where
  sign : Bool
  myPriv : Option Priv
  encryptForFriendPub : Option Pub
  selfDestructSeconds : Option Int
  hybridEdPriv : Option Bytes
  hybridDilPriv : Option Bytes

/-- What one encryption draws at random. -/
structure EncryptDraws where
  aesKey : Bytes
  nonce : Bytes
  oaepSeed : Bytes
  pssSalt : Bytes
  dilDraw : Bytes

/-- `struct.pack(">I", value)` and `struct.pack(">Q", value)`, by their width. -/
def packUnsigned (width : Nat) (value : Int) : Except Raised Bytes :=
  if 0 ≤ value ∧ value < 256 ^ width then .ok (packBE width value.toNat) else .error .structError

def packBytes (data : Bytes) : Except Raised Bytes :=
  if data.length < 65536 then .ok (packBE 2 data.length ++ data) else .error .structError

def invalidPacket : Raised := .valueError "Invalid packet format"

def invalidMessage : Raised := .valueError "Invalid message format"

/-- `_unpack_bytes`, on what remains of the packet. -/
def unpackBytes (rest : Bytes) : Except Raised (Bytes × Bytes) :=
  let length := unpackBE (rest.take 2)
  if rest.length < 2 then .error invalidPacket
  else if (rest.drop 2).length < length then .error invalidPacket
  else .ok ((rest.drop 2).take length, (rest.drop 2).drop length)

section Messages

variable {Priv Pub : Type} (L : MessageLibrary Priv Pub)

def deriveTimeKey (sharedSecret : Bytes) (timestamp : Int) : Except Raised Bytes := do
  let packed ← packUnsigned 8 (timestamp / timeStep * timeStep)
  return L.hkdf sharedSecret (encodeUtf8 "enigma-time-key:" ++ packed)

def deriveMsgKey (baseKey nonce : Bytes) : Bytes :=
  L.hkdf baseKey (encodeUtf8 "enigma-aes-gcm-msg-key-v1:" ++ nonce)

/-- `AESGCM(key)`. -/
def checkAesKey (key : Bytes) : Except Raised Unit :=
  if key.length = 16 ∨ key.length = 24 ∨ key.length = 32 then .ok ()
  else .error (.valueError "AESGCM key must be 128, 192, or 256 bits.")

def aesGcmEncrypt (key plaintext aad nonce : Bytes) : Except Raised Bytes := do
  checkAesKey key
  let msgKey := deriveMsgKey L key nonce
  checkAesKey msgKey
  return nonce ++ L.aesEncrypt msgKey nonce plaintext aad

def aesGcmDecrypt (key data aad : Bytes) : Except Raised Bytes := do
  if data.length < nonceSize + 16 then .error (.valueError "Ciphertext too short")
  else
    let nonce := data.take nonceSize
    let msgKey := deriveMsgKey L key nonce
    checkAesKey msgKey
    match L.aesDecrypt msgKey nonce (data.drop nonceSize) aad with
    | some plaintext => .ok plaintext
    | none => .error .invalidTag

/-- `use_hybrid_sig`, with the keys that it uses. -/
def EncryptOptions.hybridKeys (options : EncryptOptions Priv Pub) : Option (Bytes × Bytes) :=
  match options.sign && L.hybridSigAvailable, options.hybridEdPriv, options.hybridDilPriv with
  | true, some edPriv, some dilPriv => some (edPriv, dilPriv)
  | _, _, _ => none

/-- The duration that is packed, if any. -/
def EncryptOptions.duration (options : EncryptOptions Priv Pub) : Option Int :=
  options.selfDestructSeconds.filter fun seconds => 0 < seconds

def EncryptOptions.flags (options : EncryptOptions Priv Pub) : Nat :=
  (if (options.hybridKeys L).isSome then hybridSigFlag else if options.sign then signFlag else 0) |||
    (if options.encryptForFriendPub.isSome then friendFlag else keyHintFlag) |||
    (if options.duration.isSome then selfDestructFlag else 0)

/-- The timestamp, the duration and the text, which are what is encrypted and signed. -/
def innerBytes (timestamp : Int) (duration : Option Int) (plaintext : Bytes) :
    Except Raised Bytes := do
  let packedTime ← packUnsigned 8 timestamp
  match duration with
  | none => return packedTime ++ plaintext
  | some seconds => do
      let packedSeconds ← packUnsigned 4 seconds
      return packedTime ++ packedSeconds ++ plaintext

/-- The signature over the inner bytes; without any key it is empty. -/
def signInner (options : EncryptOptions Priv Pub) (draws : EncryptDraws) (inner : Bytes) :
    Except Raised Bytes :=
  match options.hybridKeys L with
  | some (edPriv, dilPriv) =>
      match HybridSigner.sign L.signatures inner edPriv dilPriv draws.dilDraw with
      | some signature => .ok signature
      | none => .error .runtimeError
  | none =>
      match options.sign, options.myPriv with
      | true, some priv => .ok (L.rsaSign priv inner draws.pssSalt)
      | _, _ => .ok []

/-- The key of the message and the hint that goes with it. -/
def messageKey (options : EncryptOptions Priv Pub) (draws : EncryptDraws) (constKey : Bytes)
    (timestamp : Int) : Except Raised (Bytes × Bytes) :=
  match options.encryptForFriendPub with
  | some _ => .ok (draws.aesKey, [])
  | none => do
      let key ← deriveTimeKey L constKey timestamp
      return (key, (L.sha256 constKey).take 2)

/-- `encrypt_message`. -/
def encryptMessage (options : EncryptOptions Priv Pub) (plaintext constKey : Bytes)
    (timestamp : Rat) (draws : EncryptDraws) : Except Raised (Bytes × Int) := do
  let (aesKey, keyHint) ← messageKey L options draws constKey (toInt timestamp)
  let inner ← innerBytes (toInt timestamp) options.duration plaintext
  let signature ← signInner L options draws inner
  let outerTime ← packUnsigned 8 (toInt timestamp)
  let header := UInt8.ofNat (options.flags L) :: outerTime
  let packedSignature ← if options.sign then packBytes signature else .ok []
  let packedKey ←
    match options.encryptForFriendPub with
    | some pub => packBytes (L.rsaEncrypt pub aesKey draws.oaepSeed)
    | none => .ok []
  let ciphertext ←
    aesGcmEncrypt L aesKey inner (header ++ packedSignature ++ packedKey) draws.nonce
  return (header ++ keyHint ++ packedSignature ++ packedKey ++ ciphertext, toInt timestamp)

/-- The loop of `_constant_time_decrypt_with_window`; `struct.error` passes the `except` clause. -/
def tryCandidates (constKey ciphertext aad : Bytes) :
    List Int → Option Bytes → Except Raised (Option Bytes)
  | [], found => .ok found
  | candidate :: rest, found => do
      let key ← deriveTimeKey L constKey candidate
      match aesGcmDecrypt L key ciphertext aad with
      | .ok inner => tryCandidates constKey ciphertext aad rest (found.or (some inner))
      | .error _ => tryCandidates constKey ciphertext aad rest found

/-- `outer_ts` first, then the window around the present. -/
def candidates (outerTime now : Int) : List Int :=
  outerTime :: (List.range (2 * windowSize + 1)).map fun step : Nat =>
    now + ((step : Int) - windowSize) * timeStep

def decryptWithWindow (constKey ciphertext : Bytes) (outerTime now : Int) (aad : Bytes) :
    Except Raised Bytes := do
  match ← tryCandidates L constKey ciphertext aad (candidates outerTime now) none with
  | some inner => return inner
  | none => .error (.valueError "Decryption failed – wrong key or stale message")

/-- What `decrypt_message` has read and checked when it begins to assemble its result. -/
structure Opened where
  hybridSigned : Bool
  rsaSigned : Bool
  signature : Bytes
  time : Nat
  duration : Option Nat
  plaintext : Bytes
deriving DecidableEq, Repr

/-- `signed_data`. -/
def Opened.signedData (opened : Opened) : Bytes :=
  packBE 8 opened.time ++ (opened.duration.elim [] (packBE 4)) ++ opened.plaintext

/-- The front of the packet: flags, outer timestamp, signature, and what follows them. -/
def readHeader (packet : Bytes) : Except Raised (Nat × Nat × Bytes × Bytes) :=
  match packet with
  | [] => .error invalidMessage
  | first :: afterFlags =>
      if afterFlags.length < 8 then .error invalidMessage
      else do
        let flags := first.toNat
        let afterTime := afterFlags.drop 8
        let afterHint := if hasFlag flags keyHintFlag then afterTime.drop 2 else afterTime
        let (signature, rest) ←
          if hasFlag flags signFlag || hasFlag flags hybridSigFlag then unpackBytes afterHint
          else .ok ([], afterHint)
        return (flags, unpackBE (afterFlags.take 8), signature, rest)

/-- The associated data without the encrypted key. -/
def headerAad (flags outerTime : Nat) (signature : Bytes) : Except Raised Bytes := do
  let packedSignature ←
    if hasFlag flags signFlag || hasFlag flags hybridSigFlag then packBytes signature else .ok []
  return UInt8.ofNat flags :: packBE 8 outerTime ++ packedSignature

/-- The decrypted inner bytes. -/
def readInner (constKey : Bytes) (myPriv : Option Priv) (now : Int) (flags outerTime : Nat)
    (signature rest : Bytes) : Except Raised Bytes := do
  let aad ← headerAad flags outerTime signature
  if hasFlag flags friendFlag then
    match myPriv with
    | none => .error (.valueError "Private key required for friend-encrypted message")
    | some priv => do
        let (encryptedKey, ciphertext) ← unpackBytes rest
        let packedKey ← packBytes encryptedKey
        match L.rsaDecrypt priv encryptedKey with
        | none => .error (.valueError "Decryption failed")
        | some aesKey => aesGcmDecrypt L aesKey ciphertext (aad ++ packedKey)
  else decryptWithWindow L constKey rest outerTime now aad

/-- The timestamp, the duration and the text again. -/
def splitInner (flags : Nat) (inner : Bytes) : Except Raised (Nat × Option Nat × Bytes) :=
  if inner.length < 8 then .error invalidMessage
  else if hasFlag flags selfDestructFlag then
    if inner.length < 12 then .error (.valueError "Invalid inner packet for self-destruct")
    else .ok (unpackBE (inner.take 8), some (unpackBE ((inner.drop 8).take 4)), inner.drop 12)
  else .ok (unpackBE (inner.take 8), none, inner.drop 8)

/-- The self-destruct check and the replay window. -/
def checkTime (now : Int) (time : Nat) : Option Nat → Except Raised Unit
  | some seconds =>
      if (time + seconds : Int) < now then
        .error (.valueError "Message has self-destructed and is no longer readable")
      else .ok ()
  | none =>
      if timeStep * windowSize < (now - time).natAbs then
        .error (.valueError "Message timestamp outside acceptable window")
      else .ok ()

/-- `decrypt_message` up to its result; `clock` is what `int(time.time())` gives. -/
def openPacket (packet constKey : Bytes) (myPriv : Option Priv) (now : Option Int) (clock : Int) :
    Except Raised Opened := do
  let (flags, outerTime, signature, rest) ← readHeader packet
  let inner ← readInner L constKey myPriv (now.getD clock) flags outerTime signature rest
  let (time, duration, plaintext) ← splitInner flags inner
  checkTime (now.getD clock) time duration
  return {
    hybridSigned := hasFlag flags hybridSigFlag
    rsaSigned := hasFlag flags signFlag
    signature, time, duration, plaintext }

def hybridVerify (message signature edPub dilPub : Bytes) : Bool :=
  L.hybridSigAvailable && edPub.length == 32 &&
    HybridSigner.verify L.signatures message signature edPub dilPub

/-- `hexdigest()[:16]` of SHA-256. -/
def fingerprint (data : Bytes) : String :=
  String.ofList ((KeyStore.hex (L.sha256 data)).take 16 |>.map fun byte => Char.ofNat byte.toNat)

/-- The line in front of a message whose hybrid signature verified. -/
def hybridVerified (signer : String) : String :=
  "✅ Hybrid Signature Verified (Ed25519 + Dilithium3) from " ++ signer ++ "\n"

/-- The line in front of a message whose RSA signature verified. -/
def rsaVerified (signer print : String) : String :=
  "✅ Signature verified from " ++ signer ++
    (if print = "" then "" else " (key fingerprint: " ++ print ++ ")") ++ "\n"

/-- The first line of the result. -/
def banner (friends : List (String × Pub)) (friendsHybrid : List (String × Bytes × Bytes))
    (opened : Opened) : String :=
  if opened.hybridSigned then
    match friendsHybrid.find? fun entry =>
      hybridVerify L opened.signedData opened.signature entry.2.1 entry.2.2 with
    | some entry => hybridVerified entry.1
    | none => "⚠️ Hybrid Signature INVALID or sender unknown\n"
  else if opened.rsaSigned then
    match friends.find? fun entry => L.rsaVerify entry.2 opened.signedData opened.signature with
    | some entry => rsaVerified entry.1 (fingerprint L (encodeUtf8 (L.pubkeyToPem entry.2)))
    | none => "⚠️ Signature INVALID or sender unknown\n"
  else ""

/-- The text as UTF-8, or else as Latin-1. -/
def decodeText (plaintext : Bytes) : String :=
  (decodeUtf8 plaintext).getD (decodeLatin1 plaintext)

/-- `decrypt_message`. -/
def decryptMessage (packet constKey : Bytes) (myPriv : Option Priv) (friends : List (String × Pub))
    (now : Option Int) (clock : Int) (friendsHybrid : List (String × Bytes × Bytes)) :
    Except Raised String := do
  let opened ← openPacket L packet constKey myPriv now clock
  return banner L friends friendsHybrid opened ++ decodeText opened.plaintext

end Messages

end UltimateEnigma.Crypto
