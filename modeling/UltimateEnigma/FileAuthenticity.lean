import UltimateEnigma.FileService

set_option autoImplicit false

namespace UltimateEnigma.FileOps

open Py Crypto

section Authenticity

variable {Priv Pub : Type} (L : FileLibrary Priv Pub)

/-- The parts under which AES-GCM opens: the secret found, the derived key, nonce and ciphertext
are those of the other file. -/
structure SameSeal (secretsDict : Dict Bytes (Bytes × String)) (secret : Bytes)
    (file forged : SharedFile) : Prop where
  key : ∃ found owner, secretsDict.get? forged.fingerprint = some (found, owner) ∧
    fileKey L found forged.salt = fileKey L secret file.salt
  nonce : forged.nonce = file.nonce
  ct : forged.ct = file.ct

/-- AES-GCM accepts nothing in these bytes but what it sealed in the file. -/
def Unforged (secretsDict : Dict Bytes (Bytes × String)) (secret : Bytes) (file : SharedFile)
    (data : Bytes) : Prop :=
  ∀ forged plaintext, SharedFile.read data = .ok forged →
    openShared L forged secretsDict = .ok plaintext → SameSeal L secretsDict secret file forged

/-- The header announces a signature for which there is a list to look its signer up in. -/
def Announces (friendsForSig : List (String × Pub)) (friendsHybrid : List (String × Bytes × Bytes))
    (file : SharedFile) : Prop :=
  file.signature ≠ [] ∧
    (file.hasHybridSign = true ∧ friendsHybrid ≠ [] ∨ file.hasRsaSign = true ∧ friendsForSig ≠ [])

variable {L}

theorem signatureMessage_ne_empty_iff {friendsForSig : List (String × Pub)}
    {friendsHybrid : List (String × Bytes × Bytes)} {file : SharedFile} {plaintext : Bytes} :
    signatureMessage L friendsForSig friendsHybrid file plaintext ≠ "" ↔
      Announces friendsForSig friendsHybrid file := by
  have hybrid_filled (signer : String) : hybridReport signer ≠ "" := by
    intro empty
    exact absurd (String.append_eq_empty_iff.mp empty).1 (by decide)
  have rsa_filled (signer print : String) : rsaReport signer print ≠ "" := by
    intro empty
    exact absurd (String.append_eq_empty_iff.mp empty).2 (by decide)
  have filled {α : Type} (items : List α) : (!items.isEmpty) = true ↔ items ≠ [] := by
    rw [Bool.not_eq_true', List.isEmpty_eq_false_iff]
  unfold signatureMessage Announces
  split
  · next hybrid =>
      simp only [Bool.and_eq_true, filled] at hybrid
      obtain ⟨⟨flagged, signed⟩, listed⟩ := hybrid
      refine iff_of_true ?_ ⟨signed, .inl ⟨flagged, listed⟩⟩
      split
      · exact hybrid_filled _
      · decide
  · next no_hybrid =>
      simp only [Bool.and_eq_true, filled, not_and] at no_hybrid
      split
      · next rsa =>
          simp only [Bool.and_eq_true, filled] at rsa
          obtain ⟨⟨flagged, signed⟩, listed⟩ := rsa
          refine iff_of_true ?_ ⟨signed, .inr ⟨flagged, listed⟩⟩
          split
          · exact rsa_filled _ _
          · decide
      · next no_rsa =>
          simp only [Bool.and_eq_true, filled, not_and] at no_rsa
          refine iff_of_false (fun differs => differs rfl) ?_
          intro announced
          obtain ⟨signed, ⟨flagged, listed⟩ | ⟨flagged, listed⟩⟩ := announced
          · exact no_hybrid ⟨flagged, signed⟩ listed
          · exact no_rsa ⟨flagged, signed⟩ listed

theorem openShared_of_sameSeal (lawful : L.Lawful) {options : SignOptions Priv} {draws : FileDraws}
    {plaintext secret : Bytes} {file forged : SharedFile}
    (made : sealedFile L options draws plaintext secret = .ok file)
    {secretsDict : Dict Bytes (Bytes × String)}
    (same : SameSeal L secretsDict secret file forged) :
    openShared L forged secretsDict = .ok plaintext := by
  obtain ⟨⟨flags, signature⟩, signed, made⟩ := ok_of_bind made
  cases made
  obtain ⟨⟨found, owner, known, key⟩, nonce, ct⟩ := same
  simp only at key nonce ct
  simp only [openShared, known, key, nonce, ct, lawful.messages.aes_opens]

/-- Accepted bytes give the plaintext that was encrypted, and a signed file a message about it. -/
def KeepsReport (L : FileLibrary Priv Pub) (secretsDict : Dict Bytes (Bytes × String))
    (friendsForSig : List (String × Pub)) (friendsHybrid : List (String × Bytes × Bytes))
    (file : SharedFile) (plaintext data : Bytes) : Prop :=
  ∀ opened message,
    fileDecryptShared L data secretsDict friendsForSig friendsHybrid = .ok (opened, message) →
      opened = plaintext ∧ (file.signature ≠ [] → message ≠ "")

theorem file_report_kept_iff (lawful : L.Lawful) {options : SignOptions Priv} {draws : FileDraws}
    {plaintext secret : Bytes} {file : SharedFile}
    (made : sealedFile L options draws plaintext secret = .ok file)
    {secretsDict : Dict Bytes (Bytes × String)} {data : Bytes}
    (unforged : Unforged L secretsDict secret file data) (friendsForSig : List (String × Pub))
    (friendsHybrid : List (String × Bytes × Bytes)) :
    KeepsReport L secretsDict friendsForSig friendsHybrid file plaintext data ↔
      (file.signature = [] ∨ ∀ forged, SharedFile.read data = .ok forged →
        SameSeal L secretsDict secret file forged →
          Announces friendsForSig friendsHybrid forged) := by
  constructor
  · intro keeps
    by_cases unsigned : file.signature = []
    · exact .inl unsigned
    · refine .inr fun forged read same => ?_
      have accepted : fileDecryptShared L data secretsDict friendsForSig friendsHybrid =
          .ok (plaintext, signatureMessage L friendsForSig friendsHybrid forged plaintext) := by
        unfold fileDecryptShared
        rw [read, ok_bind, openShared_of_sameSeal lawful made same, ok_bind]
        rfl
      exact signatureMessage_ne_empty_iff.mp ((keeps _ _ accepted).2 unsigned)
  · intro announces opened message accepted
    obtain ⟨forged, read, accepted⟩ := ok_of_bind accepted
    obtain ⟨found, opens, accepted⟩ := ok_of_bind accepted
    have same := unforged forged found read opens
    have genuine := openShared_of_sameSeal lawful made same
    rw [opens] at genuine
    cases genuine
    cases accepted
    refine ⟨rfl, fun signed => ?_⟩
    obtain unsigned | announces := announces
    · exact absurd unsigned signed
    · exact signatureMessage_ne_empty_iff.mpr (announces forged read same)

end Authenticity

section Toy

def toySecrets : Dict Bytes (Bytes × String) := secretsDict toyFiles toyReader

def toySealed : SharedFile where
  flags := UInt8.ofNat fileFlagRsaSign
  fingerprint := List.replicate 16 9
  salt := toyFileDraws.salt
  nonce := toyFileDraws.nonce
  signature := [1, 3]
  ct := toyFiles.aesEncrypt (fileKey toyFiles (List.replicate 32 9) toyFileDraws.salt)
    toyFileDraws.nonce [] []

theorem toySealed_made :
    sealedFile toyFiles (signOptions toyWriter true) toyFileDraws [] (List.replicate 32 9) =
      .ok toySealed := by
  decide +kernel

/-- Bytes that read as the parts of the file, its flags and signature aside, are no forgery. -/
theorem toyUnforged {data : Bytes} {parts : SharedFile} (read : SharedFile.read data = .ok parts)
    (fingerprint : parts.fingerprint = toySealed.fingerprint) (salt : parts.salt = toySealed.salt)
    (nonce : parts.nonce = toySealed.nonce) (ct : parts.ct = toySealed.ct) :
    Unforged toyFiles toySecrets (List.replicate 32 9) toySealed data ∧
      SameSeal toyFiles toySecrets (List.replicate 32 9) toySealed parts := by
  have same : SameSeal toyFiles toySecrets (List.replicate 32 9) toySealed parts := by
    refine ⟨⟨List.replicate 32 9, "Global", ?_, ?_⟩, nonce, ct⟩
    · rw [fingerprint]
      decide +kernel
    · rw [salt]
  refine ⟨fun forged plaintext read_forged opened => ?_, same⟩
  rw [read] at read_forged
  cases read_forged
  exact same

theorem toyEncrypted_reported :
    KeepsReport toyFiles toySecrets [("alice", [3])] [] toySealed [] toyEncrypted := by
  have read : SharedFile.read toyEncrypted = .ok toySealed := by decide +kernel
  obtain ⟨unforged, same⟩ := toyUnforged read rfl rfl rfl rfl
  refine (file_report_kept_iff toyFiles_lawful toySealed_made unforged _ _).mpr (.inr ?_)
  intro forged read_forged _
  rw [read] at read_forged
  cases read_forged
  exact ⟨by decide, .inr ⟨by decide, by decide⟩⟩

/-- The file without its signature section, flagged as unsigned. -/
def toyStripped : Bytes :=
  fileMagic ++ [0] ++ toySealed.fingerprint ++ toySealed.salt ++ toySealed.nonce ++ toySealed.ct

theorem toyStripped_unreported :
    Unforged toyFiles toySecrets (List.replicate 32 9) toySealed toyStripped ∧
      ¬ KeepsReport toyFiles toySecrets [("alice", [3])] [] toySealed [] toyStripped := by
  have read : SharedFile.read toyStripped =
      .ok { toySealed with flags := 0, signature := [] } := by decide +kernel
  refine ⟨(toyUnforged read rfl rfl rfl rfl).1, fun keeps => ?_⟩
  have accepted : fileDecryptShared toyFiles toyStripped toySecrets [("alice", [3])] [] =
      .ok ([], "") := by decide +kernel
  exact (keeps [] "" accepted).2 (by decide) rfl

end Toy

end UltimateEnigma.FileOps
