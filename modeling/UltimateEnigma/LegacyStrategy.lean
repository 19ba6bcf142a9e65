import UltimateEnigma.LegacyMessage
import UltimateEnigma.RatchetService

set_option autoImplicit false

namespace UltimateEnigma.Encryption

open Py Crypto

/-- What a message of the strategies ends with, where it quotes an exception. -/
inductive Cause where
  | service (cause : RatchetService.ServiceError)
  | kem (cause : Crypto.Raised)
deriving DecidableEq, Repr

/-- Exceptions of the strategies by the classes of `src.exceptions`; what else Python raises
passes through. -/
inductive Failure where
  | encryptionError (message : String)
  | encryptionErrorFrom (message : String) (cause : Cause)
  | decryptionError (message : String)
  | decryptionErrorFrom (message : String) (cause : Cause)
  | typeError
  | unicodeDecodeError
  | passed (cause : Crypto.Raised)
  | passedRatchet (cause : DoubleRatchet.Raised)
deriving DecidableEq, Repr

inductive Mode where
  | shared
  | rsa
  | pqc
deriving DecidableEq, Repr

/-- The readings of one operation: what `update_ntp_time` stored, and what `time.time()` gives. -/
structure Clocks where
  ntpTime : Option Rat
  clock : Rat
deriving DecidableEq, Repr

/-- `current_time` of the encrypting methods. -/
def Clocks.stamp (clocks : Clocks) : Rat := clocks.ntpTime.getD clocks.clock

/-- `now` of the decrypting methods: a reading of zero counts as none. -/
def Clocks.checkNow (clocks : Clocks) : Option Int :=
  (clocks.ntpTime.filter fun reading => reading ≠ 0).map toInt

section Legacy

variable {Priv Pub : Type} (L : MessageLibrary Priv Pub)

/-- `_get_friend_keys`; `none` stands for `(None, None)`. -/
def getFriendKeys (store : KeyStore Priv Pub) (name : String) : Option (Pub × Option Bytes) :=
  (store.friends.find? fun friend => friend.1 = name).map fun friend => friend.2

/-- `if friend_name:`. -/
def givenName (friendName : Option String) : Option String :=
  friendName.filter fun name => name ≠ ""

/-- The bytes that `bytes(friend_sec if friend_sec else self._ks.global_secret)` gives. -/
def sharedKey (store : KeyStore Priv Pub) (friendSecret : Option Bytes) : Except Failure Bytes :=
  match friendSecret.filter (fun secret => !secret.isEmpty) with
  | some secret => .ok secret
  | none =>
      match store.globalSecret with
      | some secret => .ok secret
      | none => .error .typeError

/-- `_resolve_encryption_key`. -/
def resolveEncryptionKey (store : KeyStore Priv Pub) (friendName : Option String) (mode : Mode) :
    Except Failure (Bytes × Option Pub) := do
  let found := (givenName friendName).bind (getFriendKeys store)
  match givenName friendName, found with
  | some name, none =>
      if mode = .rsa then
        .error (.encryptionError ("No public key available for friend '" ++ name ++ "'."))
      else .error (.encryptionError ("Friend '" ++ name ++ "' not found in key store."))
  | _, _ =>
      if mode = .shared then do
        let constKey ← sharedKey store (found.bind fun keys => keys.2)
        if constKey.length ≠ aesKeySize then
          .error (.encryptionError "Shared secret is missing or invalid (must be 32 bytes).")
        else return (constKey, none)
      else
        match found with
        | none => .error (.encryptionError "No public key available for RSA encryption.")
        | some (pub, _) => return (List.replicate aesKeySize 0, some pub)

/-- What `encrypt` hands to `encrypt_message`. -/
def legacyOptions (store : KeyStore Priv Pub) (friendPub : Option Pub) (sign : Bool)
    (selfDestructSeconds : Option Int) : EncryptOptions Priv Pub where
  sign
  myPriv := if sign then store.myPriv else none
  encryptForFriendPub := friendPub
  selfDestructSeconds
  hybridEdPriv := if sign then store.myEdPriv else none
  hybridDilPriv := if sign then store.myDilPriv else none

/-- `LegacyEncryptionStrategy.encrypt`. -/
def legacyEncrypt (store : KeyStore Priv Pub) (clocks : Clocks) (draws : EncryptDraws)
    (plaintext : String) (friendName : Option String) (mode : Mode) (sign : Bool)
    (selfDestructSeconds : Option Int) : Except Failure (Bytes × Int) := do
  let (constKey, friendPub) ← resolveEncryptionKey store friendName mode
  match encryptMessage L (legacyOptions store friendPub sign selfDestructSeconds)
    (encodeUtf8 plaintext) constKey clocks.stamp draws with
  | .ok sent => .ok sent
  | .error _ =>
      .error (.encryptionError "Encryption failed. Please check your keys and try again.")

/-- `_get_friends_hybrid_list`. -/
def friendsHybridList (store : KeyStore Priv Pub) : List (String × Bytes × Bytes) :=
  store.friendsHybridSigPubs.items ++
    match store.myHybridSigCombinedPub.filter (fun combined => !combined.isEmpty) with
    | none => []
    | some combined =>
        match KeyStore.parseCombinedPub combined with
        | .ok keys => [("myself", keys)]
        | .error _ => []

/-- `friends_for_crypto` of `get_decryption_snapshot`. -/
def friendsForCrypto (store : KeyStore Priv Pub) : List (String × Pub) :=
  store.friends.map (fun friend => (friend.1, friend.2.1)) ++
    store.myPub.toList.map fun pub => ("myself", pub)

/-- `secrets_to_try` of `get_decryption_snapshot`. -/
def secretsToTry (store : KeyStore Priv Pub) : List Bytes :=
  store.globalSecret.toList ++ store.friends.filterMap fun friend => friend.2.2

/-- `extract_key_hint`. -/
def extractKeyHint : Bytes → Option Bytes
  | [] => none
  | first :: rest =>
      if !hasFlag first.toNat keyHintFlag then none
      else if rest.length < 10 then none
      else some ((rest.drop 8).take 2)

/-- Secrets that the hint rules out are passed over. -/
def hintAllows (packet secret : Bytes) : Bool :=
  match extractKeyHint packet with
  | none => true
  | some hint => (L.sha256 secret).take 2 == hint

/-- The first key under which `decrypt_message` returns; what it raises is swallowed. -/
def firstDecrypted (store : KeyStore Priv Pub) (clocks : Clocks) (packet : Bytes)
    (keys : List (Bytes × Option Priv)) : Option String :=
  keys.findSome? fun key =>
    (decryptMessage L packet key.1 key.2 (friendsForCrypto store) clocks.checkNow
      (toInt clocks.clock) (friendsHybridList store)).toOption

/-- The keys that `_decrypt_with_rsa` tries, or `_decrypt_with_shared_secrets`. -/
def candidateKeys (store : KeyStore Priv Pub) (packet : Bytes) (friendEncrypted : Bool) :
    List (Bytes × Option Priv) :=
  if friendEncrypted then
    (store.myPriv.toList ++ store.legacyPriv.toList).map fun priv => ([], some priv)
  else ((secretsToTry store).filter (hintAllows L packet)).map fun secret => (secret, none)

/-- `_build_decryption_error`. -/
def buildDecryptionError (flags : Nat) : Failure :=
  if hasFlag flags selfDestructFlag then
    .decryptionError "This message has self-destructed and is no longer readable."
  else .decryptionError "Could not decrypt. Wrong key or message expired."

/-- `LegacyEncryptionStrategy.decrypt`. -/
def legacyDecrypt (store : KeyStore Priv Pub) (clocks : Clocks) (packet : Bytes) :
    Except Failure String :=
  match packet with
  | [] => .error (.decryptionError "Corrupted packet.")
  | first :: _ =>
      let friendEncrypted := hasFlag first.toNat friendFlag
      if friendEncrypted && store.myPriv.isNone && store.legacyPriv.isNone then
        .error (.decryptionError "Your private key is required for this message.")
      else
        match firstDecrypted L store clocks packet
          (candidateKeys L store packet friendEncrypted) with
        | some text => .ok text
        | none => .error (buildDecryptionError first.toNat)

variable {L}

/-- What is decrypted was opened under one of the keys. -/
theorem legacyDecrypt_ok {store : KeyStore Priv Pub} {clocks : Clocks} {packet : Bytes}
    {text : String} (success : legacyDecrypt L store clocks packet = .ok text) :
    ∃ constKey priv, ∃ friendEncrypted,
      (constKey, priv) ∈ candidateKeys L store packet friendEncrypted ∧
      decryptMessage L packet constKey priv (friendsForCrypto store) clocks.checkNow
        (toInt clocks.clock) (friendsHybridList store) = .ok text := by
  cases packet with
  | nil => cases success
  | cons first rest =>
      rw [legacyDecrypt] at success
      split at success
      · cases success
      · split at success
        · rename_i found
          cases success
          obtain ⟨⟨constKey, priv⟩, member, opened⟩ := List.exists_of_findSome?_eq_some found
          refine ⟨constKey, priv, _, member, ?_⟩
          cases result : decryptMessage L (first :: rest) constKey priv (friendsForCrypto store)
            clocks.checkNow (toInt clocks.clock) (friendsHybridList store) with
          | error raised =>
              rw [result] at opened
              cases opened
          | ok value =>
              rw [result] at opened
              cases opened
              rfl
        · cases success

/-- A message for the current private key is read before the previous key is tried. -/
theorem legacyDecrypt_of_myPriv {store : KeyStore Priv Pub} {clocks : Clocks} {first : UInt8}
    {rest : Bytes} {priv : Priv} {text : String}
    (forFriend : hasFlag first.toNat friendFlag = true) (loaded : store.myPriv = some priv)
    (decrypted : decryptMessage L (first :: rest) [] (some priv) (friendsForCrypto store)
      clocks.checkNow (toInt clocks.clock) (friendsHybridList store) = .ok text) :
    legacyDecrypt L store clocks (first :: rest) = .ok text := by
  have keys : candidateKeys L store (first :: rest) true =
      ([], some priv) :: store.legacyPriv.toList.map fun priv => ([], some priv) := by
    rw [candidateKeys, if_pos rfl, loaded]
    rfl
  have found : firstDecrypted L store clocks (first :: rest)
      (candidateKeys L store (first :: rest) true) = some text := by
    rw [keys, firstDecrypted, List.findSome?_cons, decrypted]
    rfl
  rw [legacyDecrypt, forFriend, loaded, found]
  rfl

/-- What is encrypted is a message of `encrypt_message`, stamped with the whole seconds. -/
theorem legacyEncrypt_ok {store : KeyStore Priv Pub} {clocks : Clocks} {draws : EncryptDraws}
    {plaintext : String} {friendName : Option String} {mode : Mode} {sign : Bool}
    {selfDestructSeconds : Option Int} {sent : Bytes × Int}
    (success : legacyEncrypt L store clocks draws plaintext friendName mode sign
      selfDestructSeconds = .ok sent) :
    ∃ constKey friendPub, resolveEncryptionKey store friendName mode = .ok (constKey, friendPub) ∧
      encryptMessage L (legacyOptions store friendPub sign selfDestructSeconds)
        (encodeUtf8 plaintext) constKey clocks.stamp draws = .ok sent := by
  unfold legacyEncrypt at success
  cases resolved : resolveEncryptionKey store friendName mode with
  | error raised =>
      rw [resolved] at success
      cases success
  | ok key =>
      obtain ⟨constKey, friendPub⟩ := key
      rw [resolved] at success
      refine ⟨constKey, friendPub, rfl, ?_⟩
      cases made : encryptMessage L (legacyOptions store friendPub sign selfDestructSeconds)
        (encodeUtf8 plaintext) constKey clocks.stamp draws with
      | error raised =>
          simp only [bind, Except.bind, made] at success
          cases success
      | ok value =>
          simp only [bind, Except.bind, made] at success
          cases success
          rfl

end Legacy

end UltimateEnigma.Encryption
