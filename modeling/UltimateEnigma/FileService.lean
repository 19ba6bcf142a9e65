import UltimateEnigma.FileOps

set_option autoImplicit false

namespace UltimateEnigma.FileOps

open Py Crypto

/-- A `FileService` object. -/
structure FileService (Priv Pub : Type) where
  keyStore : KeyStore Priv Pub
  cachedFingerprints : Option (Dict Bytes (Bytes × String))

inductive Method where
  | password
  | global
  | friend
  | other (method : String)
deriving DecidableEq, Repr

section Service

variable {Priv Pub : Type}

abbrev FileCall (Priv Pub α : Type) : Type := Call Failure (FileService Priv Pub) α

def FileService.new (keyStore : KeyStore Priv Pub) : FileService Priv Pub := ⟨keyStore, none⟩

/-- `KeyStore.get_friend_secret`. -/
def getFriendSecret (store : KeyStore Priv Pub) (name : String) : Option Bytes :=
  (store.friends.find? fun friend => friend.1 = name).bind fun friend => friend.2.2

def nonempty (secret : Option Bytes) : Option Bytes := secret.filter fun secret => !secret.isEmpty

/-- The secret that `encrypt_file` takes for this method. -/
def fileSecret (store : KeyStore Priv Pub) (method : Method) (friendName : Option String) :
    Except Failure Bytes :=
  match method with
  | .global =>
      match nonempty store.globalSecret with
      | none => .error (.fileServiceError "No global shared secret available")
      | some secret => .ok secret
  | .friend =>
      match friendName.filter fun name => name ≠ "" with
      | none => .error (.fileServiceError "Friend name required")
      | some name =>
          match nonempty (getFriendSecret store name) with
          | none => .error (.fileServiceError ("No shared secret for friend '" ++ name ++ "'"))
          | some secret => .ok secret
  | .password => .error (.fileServiceError "Unknown method: password")
  | .other method => .error (.fileServiceError ("Unknown method: " ++ method))

def signOptions (store : KeyStore Priv Pub) (sign : Bool) : SignOptions Priv where
  sign
  myPriv := if sign then store.myPriv else none
  hybridEdPriv := if sign then store.myEdPriv else none
  hybridDilPriv := if sign then store.myDilPriv else none

variable (L : FileLibrary Priv Pub)

/-- `FileService.encrypt_file`: what it writes for what it reads. -/
def encryptFile (timeouts : Timeouts) (draws : FileDraws) (store : KeyStore Priv Pub)
    (plaintext : Bytes) (method : Method) (password friendName : Option String) (sign : Bool) :
    Except Failure Bytes :=
  if method = .password then
    match password.filter fun password => password ≠ "" with
    | none => .error (.fileServiceError "Password required")
    | some password => fileEncrypt L timeouts draws plaintext password
  else do
    let secret ← fileSecret store method friendName
    fileEncryptShared L (signOptions store sign) draws plaintext secret

/-- The secrets of a key store with their owners, in the order in which they are entered. -/
def secretEntries (store : KeyStore Priv Pub) : List (Bytes × String) :=
  ((nonempty store.globalSecret).map fun secret => (secret, "Global")).toList ++
    store.friends.filterMap fun friend => (nonempty friend.2.2).map fun secret => (secret, friend.1)

/-- `secrets_dict`. -/
def secretsDict (store : KeyStore Priv Pub) : Dict Bytes (Bytes × String) :=
  Dict.empty.update
    ((secretEntries store).map fun entry => (secretFingerprint L entry.1, entry))

/-- `_build_secrets_dict`. -/
def buildSecretsDict : FileCall Priv Pub (Dict Bytes (Bytes × String)) := do
  let service ← Call.read
  match service.cachedFingerprints with
  | some cached => return cached
  | none => do
      let built := secretsDict L service.keyStore
      Call.modify fun service => { service with cachedFingerprints := some built }
      return built

/-- `invalidate_fingerprint_cache`. -/
def invalidateFingerprintCache : FileCall Priv Pub Unit :=
  Call.modify fun service => { service with cachedFingerprints := none }

/-- `_detect_shared_fingerprint`. -/
def detectSharedFingerprint (data : Bytes) : FileCall Priv Pub (Option (Bytes × String)) :=
  if data.length < 17 then return none
  else do
    let secrets ← buildSecretsDict L
    let fingerprint := (data.drop 1).take 16
    return (secrets.get? fingerprint).map fun entry => (fingerprint, entry.2)

/-- The own key of `friends_hybrid`: a `struct.error` passes the `except` clause. -/
def ownHybridEntry (store : KeyStore Priv Pub) :
    Except Failure (List (String × Bytes × Bytes)) :=
  match nonempty store.myHybridSigCombinedPub, L.hybridSigAvailable with
  | some combined, true =>
      match KeyStore.parseCombinedPub combined with
      | .ok keys => .ok [("myself", keys)]
      | .error raised => if raised.isValueOrType then .ok [] else .error .structError
  | _, _ => .ok []

def friendsForSig (store : KeyStore Priv Pub) : List (String × Pub) :=
  store.friends.map fun friend => (friend.1, friend.2.1)

/-- `_decrypt_shared_file`. -/
def decryptSharedFile (data : Bytes) : FileCall Priv Pub (Bytes × String) := do
  let secrets ← buildSecretsDict L
  if secrets.items.isEmpty then Call.raise (.fileServiceError "No shared secrets available")
  else do
    let service ← Call.read
    let own ← Call.lift (ownHybridEntry L service.keyStore)
    Call.lift (fileDecryptShared L data secrets (friendsForSig service.keyStore)
      (service.keyStore.friendsHybridSigPubs.items ++ own))

/-- `decrypt_file`: what it writes and what it returns. -/
def decryptFile (timeouts : Timeouts) (data : Bytes) (password : Option String) :
    FileCall Priv Pub (Bytes × String) :=
  if data.take fileMagic.length = fileMagic then decryptSharedFile L data
  else do
    match ← detectSharedFingerprint L data with
    | some (fingerprint, owner) => Call.raise (.sharedSecretDetected owner fingerprint)
    | none =>
        match password with
        | none => Call.raise (.fileServiceError "Password required")
        | some password => do
            let plaintext ← Call.lift (fileDecrypt L timeouts data password)
            return (plaintext, "")

/-- `decrypt_with_shared_secret`. -/
def decryptWithSharedSecret (data fingerprint : Bytes) : FileCall Priv Pub (Bytes × String) := do
  let secrets ← buildSecretsDict L
  if (secrets.get? fingerprint).isNone then
    Call.raise (.fileServiceError "Unknown shared secret fingerprint")
  else decryptSharedFile L (fileMagic ++ data)

/-- The own combined key is absent, or of no use here, or one that `parse_combined_pub` reads. -/
def OwnKeyParses (store : KeyStore Priv Pub) : Prop :=
  ∀ combined ∈ nonempty store.myHybridSigCombinedPub, L.hybridSigAvailable = true →
    ∃ keys, KeyStore.parseCombinedPub combined = .ok keys

def friendsHybrid (store : KeyStore Priv Pub) : List (String × Bytes × Bytes) :=
  store.friendsHybridSigPubs.items ++ ((ownHybridEntry L store).toOption.getD [])

/-- The key stands in the list, and no other key there verifies the signature. -/
def ListedAlone {Key : Type} (listed : List (String × Key)) (verifies : Key → Bool) (key : Key) :
    Prop :=
  (∃ name, (name, key) ∈ listed) ∧ ∀ entry ∈ listed, verifies entry.2 = true → entry.2 = key

/-- For a file signed with keys whose public part the receiver lists, the message reports the
verification under an entry with that public part. -/
structure ReportsSigner (sender receiver : KeyStore Priv Pub) (sign : Bool) (draws : FileDraws)
    (plaintext : Bytes) (message : String) : Prop where
  hybrid {edPriv dilPriv signature : Bytes}
    (used : (signOptions sender sign).hybridKeys L = some (edPriv, dilPriv))
    (signed : HybridSigner.sign L.signatures plaintext edPriv dilPriv draws.dilDraw =
      some signature)
    (listed : ListedAlone (friendsHybrid L receiver)
      (fun keys => hybridVerify L.toMessageLibrary plaintext signature keys.1 keys.2)
      (L.signatures.edPublic edPriv, L.signatures.dilPublic dilPriv)) :
    ∃ name, (name, L.signatures.edPublic edPriv, L.signatures.dilPublic dilPriv) ∈
      friendsHybrid L receiver ∧ message = hybridReport name
  rsa {priv : Priv} (unused : (signOptions sender sign).hybridKeys L = none)
    (used : (signOptions sender sign).myPriv = some priv)
    (listed : ListedAlone (friendsForSig receiver)
      (fun pub => L.rsaVerify pub plaintext (L.rsaSign priv plaintext draws.pssSalt))
      (L.publicKey priv)) :
    ∃ name, (name, L.publicKey priv) ∈ friendsForSig receiver ∧
      message = rsaReport name
        (fingerprint L.toMessageLibrary (encodeUtf8 (L.pubkeyToPem (L.publicKey priv))))

/-- What the receiver has of the sender: the password, which no fingerprint hides, or the secret,
which no other secret of the receiver shares its fingerprint with. -/
def HoldsCredentials (sender receiver : KeyStore Priv Pub) (method : Method)
    (password friendName offered : Option String) (data : Bytes) : Prop :=
  if method = .password then
    offered = password ∧ ∀ entry ∈ secretEntries receiver,
      secretFingerprint L entry.1 ≠ (data.drop 1).take 16
  else
    ∃ secret owner, fileSecret sender method friendName = .ok secret ∧
      (secret, owner) ∈ secretEntries receiver ∧
      ∀ entry ∈ secretEntries receiver,
        secretFingerprint L entry.1 = secretFingerprint L secret → entry.1 = secret

variable {L}

theorem magic_of_write {file : SharedFile} {data : Bytes} (written : file.write = .ok data) :
    data.take fileMagic.length = fileMagic := by
  simp only [SharedFile.write] at written
  split at written
  · cases written
    simp only [List.append_assoc, List.take_left]
  · split at written
    · cases written
      simp only [List.append_assoc, List.take_left]
    · cases written

theorem not_magic_of_fileEncrypt {timeouts : Timeouts} {draws : FileDraws} {plaintext data : Bytes}
    {password : String} (written : fileEncrypt L timeouts draws plaintext password = .ok data) :
    data.take fileMagic.length ≠ fileMagic := by
  have tagged : data.take 4 = fileKdfVersionArgon2id := by
    unfold fileEncrypt at written
    split at written
    · cases written
    · split at written
      · cases written
      · split at written
        · cases written
        · cases written
          have tag : fileKdfVersionArgon2id.length = 4 := by decide
          simp only [List.append_assoc, List.take_left' tag]
  intro magic
  have front := congrArg (List.take 4) magic
  have length : min 4 fileMagic.length = 4 := by decide
  rw [List.take_take, length, tagged] at front
  revert front
  decide

theorem exists_secretsDict_get? {store : KeyStore Priv Pub} {secret : Bytes} {owner : String}
    (member : (secret, owner) ∈ secretEntries store)
    (alone : ∀ entry ∈ secretEntries store,
      secretFingerprint L entry.1 = secretFingerprint L secret → entry.1 = secret) :
    ∃ owner, (secretsDict L store).get? (secretFingerprint L secret) = some (secret, owner) := by
  have present : secretFingerprint L secret ∈
      ((secretEntries store).map fun entry => (secretFingerprint L entry.1, entry)).map
        Prod.fst := by
    rw [List.map_map]
    exact List.mem_map.mpr ⟨(secret, owner), member, rfl⟩
  obtain ⟨value, kept, found⟩ := Dict.empty.exists_get?_update _ present
  obtain ⟨entry, entered, same⟩ := List.mem_map.mp kept
  have same_print : secretFingerprint L entry.1 = secretFingerprint L secret :=
    congrArg Prod.fst same
  have same_value : entry = value := congrArg Prod.snd same
  subst same_value
  have same_secret := alone entry entered same_print
  refine ⟨entry.2, found.trans ?_⟩
  rw [← same_secret]

theorem secretsDict_get?_eq_none {store : KeyStore Priv Pub} {fingerprint : Bytes}
    (unknown : ∀ entry ∈ secretEntries store, secretFingerprint L entry.1 ≠ fingerprint) :
    (secretsDict L store).get? fingerprint = none := by
  have absent : fingerprint ∉
      ((secretEntries store).map fun entry => (secretFingerprint L entry.1, entry)).map
        Prod.fst := by
    rw [List.map_map]
    intro present
    obtain ⟨entry, entered, same⟩ := List.mem_map.mp present
    exact unknown entry entered same
  exact (Dict.empty.get?_update_of_not_mem _ _ absent).trans (Dict.get?_empty _)

theorem detectSharedFingerprint_new {store : KeyStore Priv Pub} {data : Bytes}
    (unknown : ∀ entry ∈ secretEntries store,
      secretFingerprint L entry.1 ≠ (data.drop 1).take 16) :
    ∃ service, (detectSharedFingerprint L data).run (.new store) = (.ok none, service) := by
  unfold detectSharedFingerprint
  split
  · exact ⟨_, rfl⟩
  · refine ⟨⟨store, some (secretsDict L store)⟩, ?_⟩
    simp only [buildSecretsDict, FileService.new, Call.run_bind, Call.run_read, Call.run_modify,
      Call.run_pure, secretsDict_get?_eq_none unknown, Option.map_none]

/-- Of a receiver that has some secret, with nothing cached. -/
theorem decryptSharedFile_new {store : KeyStore Priv Pub} {fingerprint : Bytes}
    {entry : Bytes × String} (known : (secretsDict L store).get? fingerprint = some entry)
    (data : Bytes) :
    (decryptSharedFile L data).run (.new store) =
      (ownHybridEntry L store >>= fun own =>
        fileDecryptShared L data (secretsDict L store) (friendsForSig store)
          (store.friendsHybridSigPubs.items ++ own), ⟨store, some (secretsDict L store)⟩) := by
  have filled : (secretsDict L store).items.isEmpty = false := by
    have member := Dict.mem_of_get? known
    cases items : (secretsDict L store).items with
    | nil =>
        rw [items] at member
        cases member
    | cons first rest => rfl
  simp only [decryptSharedFile, buildSecretsDict, FileService.new, Call.run_bind, Call.run_read,
    Call.run_modify, Call.run_pure, filled, Bool.false_eq_true, if_false]
  cases own : ownHybridEntry L store with
  | error raised => rfl
  | ok own => exact Call.run_lift _ _

theorem unpackLength_error {bytes : Bytes} {raised : KeyStore.Raised}
    (failed : KeyStore.unpackLength bytes = .error raised) : raised = .structError := by
  unfold KeyStore.unpackLength at failed
  split at failed
  · cases failed
  · cases failed
    rfl

theorem parseCombinedPub_error {combined : Bytes} {raised : KeyStore.Raised}
    (failed : KeyStore.parseCombinedPub combined = .error raised) : raised = .structError := by
  unfold KeyStore.parseCombinedPub at failed
  cases first : KeyStore.unpackLength combined with
  | error other =>
      rw [first] at failed
      cases failed
      exact unpackLength_error first
  | ok edLength =>
      rw [first, ok_bind] at failed
      cases second : KeyStore.unpackLength ((combined.drop 2).drop edLength) with
      | error other =>
          simp only [second] at failed
          cases failed
          exact unpackLength_error second
      | ok dilLength =>
          simp only [second] at failed
          cases failed

/-- What `parse_combined_pub` raises is just what the `except` clause does not name. -/
theorem ownKeyParses_iff {store : KeyStore Priv Pub} :
    OwnKeyParses L store ↔ ∃ own, ownHybridEntry L store = .ok own := by
  unfold OwnKeyParses ownHybridEntry
  cases nonempty store.myHybridSigCombinedPub with
  | none => exact ⟨fun _ => ⟨[], rfl⟩, fun _ _ member => nomatch member⟩
  | some combined =>
      cases L.hybridSigAvailable with
      | false => exact ⟨fun _ => ⟨[], rfl⟩, fun _ _ _ absurd => nomatch absurd⟩
      | true =>
          cases parsed : KeyStore.parseCombinedPub combined with
          | ok keys =>
              refine ⟨fun _ => ⟨[("myself", keys)], by simp only [parsed]⟩, fun _ other member _ => ?_⟩
              cases Option.mem_some_iff.mp member
              exact ⟨keys, parsed⟩
          | error raised =>
              cases parseCombinedPub_error parsed
              simp only [parsed, KeyStore.Raised.isValueOrType, Bool.false_eq_true, if_false]
              constructor
              · intro parses
                obtain ⟨keys, other⟩ := parses combined rfl trivial
                rw [parsed] at other
                cases other
              · intro found
                obtain ⟨own, other⟩ := found
                cases other

theorem ListedAlone.found {Key : Type} {listed : List (String × Key)} {verifies : Key → Bool}
    {key : Key} (alone : ListedAlone listed verifies key) (verified : verifies key = true) :
    ∃ name, (name, key) ∈ listed ∧
      listed.find? (fun entry => verifies entry.2) = some (name, key) := by
  obtain ⟨⟨name, member⟩, only⟩ := alone
  obtain ⟨found, present, passes, lookup⟩ :=
    exists_find?_of_mem (fun entry => verifies entry.2) member verified
  have same := only found present passes
  refine ⟨found.1, ?_, ?_⟩
  · rw [← same]
    exact present
  · rw [← same]
    exact lookup

theorem ListedAlone.isEmpty {Key : Type} {listed : List (String × Key)} {verifies : Key → Bool}
    {key : Key} (alone : ListedAlone listed verifies key) : listed.isEmpty = false := by
  obtain ⟨⟨name, member⟩, only⟩ := alone
  cases listed with
  | nil => cases member
  | cons first rest => rfl

theorem reportsSigner_of_sealedFile (lawful : L.Lawful) {sender receiver : KeyStore Priv Pub}
    {sign : Bool} {draws : FileDraws} {plaintext secret : Bytes} {file : SharedFile}
    (made : sealedFile L (signOptions sender sign) draws plaintext secret = .ok file) :
    ReportsSigner L sender receiver sign draws plaintext
      (signatureMessage L (friendsForSig receiver) (friendsHybrid L receiver) file plaintext) := by
  obtain ⟨⟨flags, signature⟩, signed, made⟩ := ok_of_bind made
  cases made
  constructor
  · intro edPriv dilPriv own used own_signed listed
    have available : L.hybridSigAvailable = true := by
      unfold SignOptions.hybridKeys at used
      split at used
      · next signs _ _ => exact (Bool.and_eq_true_iff.mp signs).2
      · cases used
    have same : flags = fileFlagHybridSign ∧ signature = own := by
      unfold signFile at signed
      simp only [used, own_signed] at signed
      cases signed
      exact ⟨rfl, rfl⟩
    obtain ⟨rfl, rfl⟩ := same
    have verified : hybridVerify L.toMessageLibrary plaintext signature
        (L.signatures.edPublic edPriv) (L.signatures.dilPublic dilPriv) = true := by
      unfold hybridVerify
      rw [available, lawful.messages.signatures.edPublic_length,
        HybridSigner.verify_sign lawful.messages.signatures own_signed]
      rfl
    obtain ⟨name, member, found⟩ := listed.found verified
    have filled : signature.isEmpty = false := by
      rw [List.isEmpty_eq_false_iff]
      exact HybridSigner.sign_ne_nil own_signed
    have flagged : hasFlag (UInt8.ofNat fileFlagHybridSign).toNat fileFlagHybridSign = true := by
      decide
    refine ⟨name, member, ?_⟩
    simp only [signatureMessage, SharedFile.hasHybridSign, flagged, filled, listed.isEmpty,
      Bool.not_false, Bool.and_self, if_true, found]
  · intro priv unused used listed
    have signs : sign = true := by
      cases sign with
      | true => rfl
      | false => cases used
    have same : flags = fileFlagRsaSign ∧ signature = L.rsaSign priv plaintext draws.pssSalt := by
      have chosen : (signOptions sender sign).sign = true := signs
      unfold signFile at signed
      simp only [unused, chosen, used] at signed
      cases signed
      exact ⟨rfl, rfl⟩
    obtain ⟨rfl, rfl⟩ := same
    obtain ⟨name, member, found⟩ :=
      listed.found (lawful.messages.rsa_verifies priv plaintext draws.pssSalt)
    have filled : (L.rsaSign priv plaintext draws.pssSalt).isEmpty = false := by
      rw [List.isEmpty_eq_false_iff]
      exact lawful.rsaSign_nonempty priv plaintext draws.pssSalt
    have flagged : hasFlag (UInt8.ofNat fileFlagRsaSign).toNat fileFlagRsaSign = true := by decide
    have unflagged : hasFlag (UInt8.ofNat fileFlagRsaSign).toNat fileFlagHybridSign = false := by
      decide
    refine ⟨name, member, ?_⟩
    simp only [signatureMessage, SharedFile.hasHybridSign, SharedFile.hasRsaSign, flagged,
      unflagged, filled, listed.isEmpty, Bool.not_false, Bool.and_self, Bool.false_and,
      Bool.false_eq_true, if_false, if_true, found]

/-- `decrypt_file` of a new service gives the content back, and names the signer. -/
def RoundTrips (L : FileLibrary Priv Pub) (sender receiver : KeyStore Priv Pub) (method : Method)
    (sign : Bool) (draws : FileDraws) (plaintext data : Bytes) (offered : Option String) : Prop :=
  ∃ message service, (decryptFile L Timeouts.none data offered).run (.new receiver) =
      (.ok (plaintext, message), service) ∧
    (method ≠ .password → ReportsSigner L sender receiver sign draws plaintext message)

theorem file_round_trip_iff (lawful : L.Lawful) {sender receiver : KeyStore Priv Pub}
    {method : Method} {password friendName offered : Option String} {sign : Bool}
    {draws : FileDraws} {plaintext data : Bytes}
    (written : encryptFile L Timeouts.none draws sender plaintext method password friendName sign =
      .ok data)
    (credentials : HoldsCredentials L sender receiver method password friendName offered data) :
    RoundTrips L sender receiver method sign draws plaintext data offered ↔
      (method = .password ∨ OwnKeyParses L receiver) := by
  unfold encryptFile at written
  unfold HoldsCredentials at credentials
  by_cases by_password : method = .password
  · simp only [if_pos by_password] at written credentials
    obtain ⟨rfl, unknown⟩ := credentials
    split at written
    · cases written
    · next password given =>
        have same : offered = some password := (Option.filter_eq_some_iff.mp given).1
        obtain ⟨service, detected⟩ := detectSharedFingerprint_new unknown
        refine iff_of_true ⟨"", service, ?_, fun other => absurd by_password other⟩ (.inl by_password)
        simp only [decryptFile, if_neg (not_magic_of_fileEncrypt written), Call.run_bind, detected,
          same, fileDecrypt_fileEncrypt lawful written, Call.run_lift, Call.run_pure]
  · simp only [if_neg by_password] at written credentials
    obtain ⟨secret, owner, chosen, member, alone⟩ := credentials
    rw [chosen, ok_bind] at written
    obtain ⟨owner, known⟩ := exists_secretsDict_get? member alone
    obtain ⟨file, made, opened⟩ := fileDecryptShared_encrypted lawful written known
      (friendsForSig receiver) (friendsHybrid L receiver)
    have magic : data.take fileMagic.length = fileMagic := by
      obtain ⟨_, _, layout⟩ := ok_of_bind written
      exact magic_of_write layout
    have run := decryptSharedFile_new known data
    rw [or_iff_right by_password, ownKeyParses_iff]
    unfold RoundTrips decryptFile
    simp only [if_pos magic, run]
    constructor
    · intro returned
      obtain ⟨message, service, returned, -⟩ := returned
      obtain ⟨own, parsed, -⟩ := ok_of_bind (congrArg Prod.fst returned)
      exact ⟨own, parsed⟩
    · intro parses
      obtain ⟨own, parsed⟩ := parses
      have listed : friendsHybrid L receiver = receiver.friendsHybridSigPubs.items ++ own := by
        unfold friendsHybrid
        rw [parsed]
        rfl
      rw [listed] at opened
      refine ⟨_, ⟨receiver, some (secretsDict L receiver)⟩, ?_,
        fun _ => reportsSigner_of_sealedFile lawful made⟩
      rw [parsed, ok_bind, opened, listed]

end Service

section Toy

/-- The toy libraries of the messages, with RSA signatures that are never empty. -/
def toyFiles : FileLibrary Bytes Bytes where
  toMessageLibrary := { toyMessages with
    rsaSign := fun priv data _ => 1 :: (priv.take 100 ++ data).take 1000
    rsaVerify := fun pub data signature => signature = 1 :: (pub ++ data).take 1000 }
  hkdfSalted secret salt info := (secret ++ salt ++ info ++ List.replicate 32 0).take 32
  argon2id password salt := some ((password ++ salt ++ List.replicate 32 0).take 32)
  pbkdf2 password salt _ := (password ++ salt ++ List.replicate 32 0).take 32

theorem toyFiles_lawful : toyFiles.Lawful where
  messages := { toyMessages_lawful with
    rsa_verifies := fun priv data salt => decide_eq_true rfl
    rsaSign_short := fun priv data salt => by
      have short := List.length_take_le 1000 (priv.take 100 ++ data)
      show ((priv.take 100 ++ data).take 1000).length + 1 < 65536
      omega }
  rsaSign_nonempty priv data salt := List.cons_ne_nil _ _

def toyFileDraws : FileDraws where
  salt := List.replicate 16 7
  nonce := List.replicate 12 8
  pssSalt := []
  dilDraw := []
  salt_length := rfl
  nonce_length := rfl

def toyWriter : KeyStore Bytes Bytes where
  myPriv := some [3]
  globalSecret := some (List.replicate 32 9)

def toyReader : KeyStore Bytes Bytes where
  globalSecret := some (List.replicate 32 9)
  friends := [("bob", [4], none), ("alice", [3], some (List.replicate 32 1))]

/-- A reader whose own combined key was cut off behind its first byte. -/
def toyCutReader : KeyStore Bytes Bytes := { toyReader with myHybridSigCombinedPub := some [0] }

def toyEncrypted : Bytes :=
  ((encryptFile toyFiles Timeouts.none toyFileDraws toyWriter [] .global none none true).toOption).getD
    []

theorem toyEncrypted_written :
    encryptFile toyFiles Timeouts.none toyFileDraws toyWriter [] .global none none true =
      .ok toyEncrypted := by
  decide +kernel

theorem toyReader_holds {receiver : KeyStore Bytes Bytes}
    (same : secretEntries receiver = secretEntries toyReader) :
    HoldsCredentials toyFiles toyWriter receiver .global none none none toyEncrypted := by
  unfold HoldsCredentials
  rw [if_neg (by decide), same]
  exact ⟨List.replicate 32 9, "Global", by decide, by decide, by decide⟩

theorem toyEncrypted_roundTrips :
    RoundTrips toyFiles toyWriter toyReader .global true toyFileDraws [] toyEncrypted none :=
  (file_round_trip_iff toyFiles_lawful toyEncrypted_written (toyReader_holds rfl)).mpr
    (.inr fun _ absent => nomatch absent)

theorem toyCutReader_refuses :
    HoldsCredentials toyFiles toyWriter toyCutReader .global none none none toyEncrypted ∧
      ¬ RoundTrips toyFiles toyWriter toyCutReader .global true toyFileDraws [] toyEncrypted none := by
  refine ⟨toyReader_holds rfl, fun returned => ?_⟩
  obtain ⟨message, service, returned, -⟩ := returned
  have refused : ((decryptFile toyFiles Timeouts.none toyEncrypted none).run
      (.new toyCutReader)).1 = .error .structError := by
    decide +kernel
  rw [returned] at refused
  cases refused

end Toy

end UltimateEnigma.FileOps
