import UltimateEnigma.LegacyRoundTrip

set_option autoImplicit false

namespace UltimateEnigma.FileOps

open Py Crypto

def fileMagic : Bytes := encodeUtf8 "ENIGMA" ++ [1]

def fileKdfVersionArgon2id : Bytes := encodeUtf8 "A2ID"

def fileKdfLegacyPbkdf2Iterations : Nat := 300000

def fileFlagRsaSign : Nat := 1

def fileFlagHybridSign : Nat := 2

def argon2SaltLength : Nat := 16

/-- Exceptions of the file functions and of the service over them. -/
inductive Failure where
  | valueError (message : String)
  | fileServiceError (message : String)
  | sharedSecretDetected (owner : String) (fingerprint : Bytes)
  | hashingError
  | structError
  | runtimeError
deriving DecidableEq, Repr

/-- The libraries of the messages, with the key derivations that only files use: HKDF with a salt
and PBKDF2. Argon2id refuses salts that are too short. -/
structure FileLibrary (Priv Pub : Type) extends MessageLibrary Priv Pub where
  hkdfSalted : Bytes → Bytes → Bytes → Bytes
  argon2id : Bytes → Bytes → Option Bytes
  pbkdf2 : Bytes → Bytes → Nat → Bytes

/-- What one encryption draws at random. -/
structure FileDraws where
  salt : Bytes
  nonce : Bytes
  pssSalt : Bytes
  dilDraw : Bytes
  salt_length : salt.length = argon2SaltLength
  nonce_length : nonce.length = nonceSize

/-- The calls behind `run_with_timeout` that do not come back in time. -/
structure Timeouts where
  kdf : Bool
  read : Bool

def Timeouts.none : Timeouts := ⟨false, false⟩

/-- The arguments of `file_encrypt_shared` that come by keyword. -/
structure SignOptions (Priv : Type) where
  sign : Bool
  myPriv : Option Priv
  hybridEdPriv : Option Bytes
  hybridDilPriv : Option Bytes

/-- A shared-secret file, by its parts. -/
structure SharedFile where
  flags : UInt8
  fingerprint : Bytes
  salt : Bytes
  nonce : Bytes
  signature : Bytes
  ct : Bytes
deriving DecidableEq, Repr

namespace SharedFile

def hasRsaSign (file : SharedFile) : Bool := hasFlag file.flags.toNat fileFlagRsaSign

def hasHybridSign (file : SharedFile) : Bool := hasFlag file.flags.toNat fileFlagHybridSign

/-- What `file_encrypt_shared` writes. -/
def write (file : SharedFile) : Except Failure Bytes :=
  let front := fileMagic ++ [file.flags] ++ file.fingerprint ++ file.salt ++ file.nonce
  if file.signature = [] then .ok (front ++ file.ct)
  else if file.signature.length < 65536 then
    .ok (front ++ (packBE 2 file.signature.length ++ file.signature) ++ file.ct)
  else .error .structError

def tooShort : Failure := .valueError "File too short"

/-- The optional signature, and what follows it. -/
def readSignature (present : Bool) (data : Bytes) : Except Failure (Bytes × Bytes) :=
  if present then
    let sigLength := unpackBE (data.take 2)
    if (data.take 2).length < 2 then .error tooShort
    else if ((data.drop 2).take sigLength).length ≠ sigLength then .error tooShort
    else .ok ((data.drop 2).take sigLength, (data.drop 2).drop sigLength)
  else .ok ([], data)

/-- What `file_decrypt_shared` reads, one `f.read` after the other. -/
def read (data : Bytes) : Except Failure SharedFile :=
  if data.take fileMagic.length ≠ fileMagic then
    .error (.valueError "Not a shared-secret encrypted file (invalid magic)")
  else
    match data.drop fileMagic.length with
    | [] => .error tooShort
    | flags :: rest => do
        let signed := hasFlag flags.toNat fileFlagRsaSign || hasFlag flags.toNat fileFlagHybridSign
        let (signature, ct) ← readSignature signed (((rest.drop 16).drop 16).drop 12)
        return {
          flags, signature, ct
          fingerprint := rest.take 16
          salt := (rest.drop 16).take 16
          nonce := ((rest.drop 16).drop 16).take 12 }

/-- The lengths that the format fixes. -/
structure WellFormed (file : SharedFile) : Prop where
  fingerprint : file.fingerprint.length = 16
  salt : file.salt.length = 16
  nonce : file.nonce.length = 12
  announced : file.signature ≠ [] ↔ (file.hasRsaSign || file.hasHybridSign) = true

theorem readSignature_written {present : Bool} {signature : Bytes} (ct : Bytes)
    (announced : signature ≠ [] ↔ present = true) (short : signature.length < 65536) :
    readSignature present
      ((if signature = [] then [] else packBE 2 signature.length ++ signature) ++ ct) =
        .ok (signature, ct) := by
  cases present with
  | false =>
      have empty : signature = [] := by
        by_contra filled
        exact Bool.false_ne_true (announced.mp filled)
      subst empty
      rfl
  | true =>
      have filled : signature ≠ [] := announced.mpr rfl
      have fits : signature.length < 256 ^ 2 := by omega
      have front : (packBE 2 signature.length ++ signature ++ ct).take 2 =
          packBE 2 signature.length := by
        rw [List.append_assoc]
        exact List.take_left' (packBE_length 2 _)
      have back : (packBE 2 signature.length ++ signature ++ ct).drop 2 = signature ++ ct := by
        rw [List.append_assoc]
        exact List.drop_left' (packBE_length 2 _)
      unfold readSignature
      simp only [if_neg filled, if_true, front, back, packBE_length, unpackBE_packBE 2 _ fits,
        List.take_left, List.drop_left, Nat.lt_irrefl, if_false, ne_eq, not_true_eq_false]

/-- Whatever the parts hold, the reader finds them where the writer put them. -/
theorem read_write {file : SharedFile} {data : Bytes} (formed : file.WellFormed)
    (written : file.write = .ok data) : read data = .ok file := by
  obtain ⟨flags, fingerprint, salt, nonce, signature, ct⟩ := file
  obtain ⟨fingerprint_length, salt_length, nonce_length, announced⟩ := formed
  simp only at fingerprint_length salt_length nonce_length
  have layout : data = fileMagic ++ (flags :: (fingerprint ++ (salt ++ (nonce ++
      ((if signature = [] then [] else packBE 2 signature.length ++ signature) ++ ct))))) ∧
      signature.length < 65536 := by
    simp only [write] at written
    split at written
    · next empty =>
        cases written
        subst empty
        simp
    · next filled =>
        split at written
        · next short =>
            cases written
            simp [filled, short]
        · cases written
  obtain ⟨rfl, short⟩ := layout
  unfold read
  rw [List.take_left, if_neg (not_not.mpr rfl), List.drop_left]
  simp only [List.take_left' fingerprint_length, List.drop_left' fingerprint_length,
    List.take_left' salt_length, List.drop_left' salt_length, List.take_left' nonce_length,
    List.drop_left' nonce_length]
  have found := readSignature_written ct announced short
  simp only [hasRsaSign, hasHybridSign] at found
  rw [found]
  rfl

end SharedFile

section Files

variable {Priv Pub : Type} (L : FileLibrary Priv Pub)

def kdfTimedOut : Failure :=
  .valueError "Key derivation timed out after 90s. The system may be under heavy load."

/-- `file_encrypt`: what it writes for what it reads. -/
def fileEncrypt (timeouts : Timeouts) (draws : FileDraws) (plaintext : Bytes) (password : String) :
    Except Failure Bytes :=
  if timeouts.kdf then .error kdfTimedOut
  else
    match L.argon2id (encodeUtf8 password) draws.salt with
    | none => .error .hashingError
    | some key =>
        if timeouts.read then
          .error (.valueError "File read timed out after 300s. The file may be too large.")
        else
          .ok (fileKdfVersionArgon2id ++ draws.salt ++ draws.nonce ++
            L.aesEncrypt key draws.nonce plaintext [])

/-- The key that `file_decrypt` derives: Argon2id behind its tag, PBKDF2 without one. -/
def passwordKey (timeouts : Timeouts) (password : String) (tagged : Bool) (salt : Bytes) :
    Except Failure Bytes :=
  if tagged then
    if timeouts.kdf then .error kdfTimedOut
    else
      match L.argon2id (encodeUtf8 password) salt with
      | none => .error .hashingError
      | some key => .ok key
  else if timeouts.kdf then .error (.valueError "Key derivation timed out after 90s.")
  else .ok (L.pbkdf2 (encodeUtf8 password) salt fileKdfLegacyPbkdf2Iterations)

/-- `file_decrypt`. -/
def fileDecrypt (timeouts : Timeouts) (data : Bytes) (password : String) : Except Failure Bytes := do
  let header := data.take 4
  let tagged := header == fileKdfVersionArgon2id
  let rest := data.drop 4
  let salt := if tagged then rest.take 16 else header ++ rest.take 12
  let behind := if tagged then rest.drop 16 else rest.drop 12
  let key ← passwordKey L timeouts password tagged salt
  match L.aesDecrypt key (behind.take 12) (behind.drop 12) [] with
  | some plaintext => return plaintext
  | none => .error (.valueError "Wrong password or corrupted file")

def fileKey (sharedSecret salt : Bytes) : Bytes :=
  L.hkdfSalted sharedSecret salt (encodeUtf8 "enigma-file-v1")

/-- `hashlib.sha256(secret).digest()[:16]`. -/
def secretFingerprint (sharedSecret : Bytes) : Bytes := (L.sha256 sharedSecret).take 16

/-- `use_hybrid_sig`, with the keys that it uses. -/
def SignOptions.hybridKeys (options : SignOptions Priv) : Option (Bytes × Bytes) :=
  match options.sign && L.hybridSigAvailable, options.hybridEdPriv, options.hybridDilPriv with
  | true, some edPriv, some dilPriv => some (edPriv, dilPriv)
  | _, _, _ => none

/-- The flags and the signature over the plaintext. -/
def signFile (options : SignOptions Priv) (draws : FileDraws) (plaintext : Bytes) :
    Except Failure (Nat × Bytes) :=
  match options.hybridKeys L with
  | some (edPriv, dilPriv) =>
      match HybridSigner.sign L.signatures plaintext edPriv dilPriv draws.dilDraw with
      | some signature => .ok (fileFlagHybridSign, signature)
      | none => .error .runtimeError
  | none =>
      match options.sign, options.myPriv with
      | true, some priv => .ok (fileFlagRsaSign, L.rsaSign priv plaintext draws.pssSalt)
      | _, _ => .ok (0, [])

/-- The parts of the file that `file_encrypt_shared` writes. -/
def sealedFile (options : SignOptions Priv) (draws : FileDraws) (plaintext sharedSecret : Bytes) :
    Except Failure SharedFile := do
  let (flags, signature) ← signFile L options draws plaintext
  return {
    flags := UInt8.ofNat flags
    fingerprint := secretFingerprint L sharedSecret
    salt := draws.salt
    nonce := draws.nonce
    signature
    ct := L.aesEncrypt (fileKey L sharedSecret draws.salt) draws.nonce plaintext [] }

/-- `file_encrypt_shared`. -/
def fileEncryptShared (options : SignOptions Priv) (draws : FileDraws)
    (plaintext sharedSecret : Bytes) : Except Failure Bytes := do
  let file ← sealedFile L options draws plaintext sharedSecret
  file.write

def hybridReport (signer : String) : String :=
  "✅ Hybrid Signature Verified (Ed25519 + Dilithium3) from " ++ signer

def rsaReport (signer print : String) : String :=
  "Signature verified from " ++ signer ++ " (key fingerprint: " ++ print ++ ")"

/-- `sig_msg`. -/
def signatureMessage (friendsForSig : List (String × Pub))
    (friendsHybrid : List (String × Bytes × Bytes)) (file : SharedFile) (plaintext : Bytes) :
    String :=
  if file.hasHybridSign && !file.signature.isEmpty && !friendsHybrid.isEmpty then
    match friendsHybrid.find? fun entry =>
      hybridVerify L.toMessageLibrary plaintext file.signature entry.2.1 entry.2.2 with
    | some entry => hybridReport entry.1
    | none => "⚠️ Hybrid Signature INVALID or sender unknown"
  else if file.hasRsaSign && !file.signature.isEmpty && !friendsForSig.isEmpty then
    match friendsForSig.find? fun entry => L.rsaVerify entry.2 plaintext file.signature with
    | some entry =>
        rsaReport entry.1 (fingerprint L.toMessageLibrary (encodeUtf8 (L.pubkeyToPem entry.2)))
    | none => "Signature INVALID or sender unknown"
  else ""

/-- The plaintext of a file that has been read. -/
def openShared (file : SharedFile) (secretsDict : Dict Bytes (Bytes × String)) :
    Except Failure Bytes :=
  match secretsDict.get? file.fingerprint with
  | none => .error (.valueError "No matching shared secret found - fingerprint unknown")
  | some (secret, _) =>
      match L.aesDecrypt (fileKey L secret file.salt) file.nonce file.ct [] with
      | none => .error (.valueError "Decryption failed - wrong shared secret or corrupted file")
      | some plaintext => .ok plaintext

/-- `file_decrypt_shared`: what it writes and what it returns. -/
def fileDecryptShared (data : Bytes) (secretsDict : Dict Bytes (Bytes × String))
    (friendsForSig : List (String × Pub)) (friendsHybrid : List (String × Bytes × Bytes)) :
    Except Failure (Bytes × String) := do
  let file ← SharedFile.read data
  let plaintext ← openShared L file secretsDict
  return (plaintext, signatureMessage L friendsForSig friendsHybrid file plaintext)

variable {L}

/-- What files rely on of the libraries, besides what messages rely on. -/
structure FileLibrary.Lawful (L : FileLibrary Priv Pub) : Prop where
  messages : L.toMessageLibrary.Lawful
  rsaSign_nonempty (priv : Priv) (data salt : Bytes) : L.rsaSign priv data salt ≠ []

theorem signFile_announced (lawful : L.Lawful) {options : SignOptions Priv} {draws : FileDraws}
    {plaintext signature : Bytes} {flags : Nat}
    (signed : signFile L options draws plaintext = .ok (flags, signature)) :
    flags < 256 ∧ (signature ≠ [] ↔ (hasFlag flags fileFlagRsaSign ||
      hasFlag flags fileFlagHybridSign) = true) := by
  unfold signFile at signed
  split at signed
  · split at signed
    · next made =>
        cases signed
        have filled := HybridSigner.sign_ne_nil made
        exact ⟨by decide, by simp only [ne_eq, filled, not_false_eq_true, true_iff]; decide⟩
    · cases signed
  · split at signed
    · cases signed
      have filled := lawful.rsaSign_nonempty
      exact ⟨by decide, by simp only [ne_eq, filled, not_false_eq_true, true_iff]; decide⟩
    · cases signed
      exact ⟨by decide, by decide⟩

theorem sealedFile_wellFormed (lawful : L.Lawful) {options : SignOptions Priv} {draws : FileDraws}
    {plaintext sharedSecret : Bytes} {file : SharedFile}
    (made : sealedFile L options draws plaintext sharedSecret = .ok file) : file.WellFormed := by
  obtain ⟨⟨flags, signature⟩, signed, made⟩ := ok_of_bind made
  cases made
  obtain ⟨byte, announced⟩ := signFile_announced lawful signed
  have same : (UInt8.ofNat flags).toNat = flags := by
    rw [UInt8.toNat_ofNat']
    omega
  have long : 16 ≤ (L.sha256 sharedSecret).length := by
    rw [lawful.messages.sha256_length]
    omega
  refine ⟨List.length_take_of_le long, draws.salt_length, draws.nonce_length, ?_⟩
  simp only [SharedFile.hasRsaSign, SharedFile.hasHybridSign, same]
  exact announced

theorem openShared_sealedFile (lawful : L.Lawful) {options : SignOptions Priv} {draws : FileDraws}
    {plaintext sharedSecret : Bytes} {file : SharedFile}
    (made : sealedFile L options draws plaintext sharedSecret = .ok file)
    {secretsDict : Dict Bytes (Bytes × String)} {owner : String}
    (known : secretsDict.get? (secretFingerprint L sharedSecret) = some (sharedSecret, owner)) :
    openShared L file secretsDict = .ok plaintext := by
  obtain ⟨⟨flags, signature⟩, signed, made⟩ := ok_of_bind made
  cases made
  simp only [openShared, known, lawful.messages.aes_opens]

/-- Reading back what was written gives the plaintext, and the message for that signature. -/
theorem fileDecryptShared_encrypted (lawful : L.Lawful) {options : SignOptions Priv}
    {draws : FileDraws} {plaintext sharedSecret data : Bytes}
    (written : fileEncryptShared L options draws plaintext sharedSecret = .ok data)
    {secretsDict : Dict Bytes (Bytes × String)} {owner : String}
    (known : secretsDict.get? (secretFingerprint L sharedSecret) = some (sharedSecret, owner))
    (friendsForSig : List (String × Pub)) (friendsHybrid : List (String × Bytes × Bytes)) :
    ∃ file, sealedFile L options draws plaintext sharedSecret = .ok file ∧
      fileDecryptShared L data secretsDict friendsForSig friendsHybrid =
        .ok (plaintext, signatureMessage L friendsForSig friendsHybrid file plaintext) := by
  obtain ⟨file, made, written⟩ := ok_of_bind written
  refine ⟨file, made, ?_⟩
  unfold fileDecryptShared
  rw [SharedFile.read_write (sealedFile_wellFormed lawful made) written, ok_bind,
    openShared_sealedFile lawful made known, ok_bind]
  rfl

/-- A password file is read by its Argon2id tag. -/
theorem fileDecrypt_fileEncrypt (lawful : L.Lawful) {draws : FileDraws} {plaintext data : Bytes}
    {password : String}
    (written : fileEncrypt L Timeouts.none draws plaintext password = .ok data) :
    fileDecrypt L Timeouts.none data password = .ok plaintext := by
  simp only [fileEncrypt, Timeouts.none, Bool.false_eq_true, if_false] at written
  split at written
  · cases written
  · next key derived =>
      cases written
      have tag : fileKdfVersionArgon2id.length = 4 := by decide
      have salt : draws.salt.length = 16 := draws.salt_length
      have nonce : draws.nonce.length = 12 := draws.nonce_length
      unfold fileDecrypt
      simp only [List.append_assoc, List.take_left' tag, List.drop_left' tag, beq_self_eq_true,
        if_true, passwordKey, Timeouts.none, Bool.false_eq_true, if_false,
        List.take_left' salt, List.drop_left' salt, derived]
      rw [ok_bind]
      simp only [List.take_left' nonce, List.drop_left' nonce, lawful.messages.aes_opens]
      rfl

end Files

end UltimateEnigma.FileOps
