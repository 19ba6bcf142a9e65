import UltimateEnigma.HybridKem
import UltimateEnigma.Lockout
import UltimateEnigma.SavedFriends

set_option autoImplicit false

namespace UltimateEnigma.Friends

open Py KeyStore
open Lockout (LockoutManager Refusal)

/-- Exceptions of the services above the key store; what else is raised below passes through. -/
inductive ServiceRaised where
  | friendsServiceError (message : String)
  | friendsServiceErrorFrom (message : String) (cause : KeyStore.Raised)
  | friendsServiceErrorFromKem (message : String) (cause : Crypto.Raised)
  | globalSecretServiceError (message : String)
  | globalSecretServiceErrorFrom (message : String) (cause : KeyStore.Raised)
  | certificateError (message : String)
  | certificateErrorFrom (message : String) (cause : KeyStore.Raised)
  | valueError (message : String)
  | refused (refusal : Refusal)
  | passed (cause : KeyStore.Raised)
deriving DecidableEq, Repr

/-- `not text.strip()`. -/
def isBlank (text : String) : Bool := text.toList.all isSpace

/-- The lockout of the key store when a password is verified, and the readings of the clock. -/
structure Guard where
  lockout : LockoutManager
  now : Rat
  done : Rat
deriving DecidableEq, Repr

section Services

variable {Priv Pub Pem : Type}

abbrev ServiceCall (Priv Pub Pem α : Type) : Type :=
  Call ServiceRaised (Session Priv Pub Pem) α

/-- A call of the key store, with what becomes of its exceptions. -/
def onStore {α : Type} (refuse : KeyStore.Raised → ServiceRaised)
    (call : StoreCall Priv Pub Pem α) : ServiceCall Priv Pub Pem α := fun session =>
  match call.run session with
  | (.ok value, after) => (.ok value, after)
  | (.error raised, after) => (.error (refuse raised), after)

/-- `ECDHService.decode_public_key`. -/
def decodePublicKey (b64String : String) : Option Bytes :=
  (decodeBase64 b64String).toOption.filter fun raw => raw.length = 32

def checkX25519 : Option String → Except ServiceRaised Unit
  | none => .ok ()
  | some text =>
      match decodePublicKey text with
      | some _ => .ok ()
      | none =>
          .error (.friendsServiceError
            ("Invalid X25519 public key: " ++ "Invalid Base64 public key"))

/-- The checks of a combined public key that is given. -/
def checkCombinedPub (kind tooShort : String) : Option String → Except ServiceRaised Unit
  | none => .ok ()
  | some text =>
      match decodeBase64 text with
      | .error cause => .error (.friendsServiceErrorFrom ("Invalid " ++ kind ++ ": ") cause)
      | .ok raw =>
          if raw.length < 36 then
            .error (.friendsServiceError ("Invalid " ++ kind ++ ": " ++ tooShort))
          else .ok ()

def pqcKind : String := "PQC combined public key"

def hybridSigKind : String := "hybrid signing combined public key"

/-- What `add_friend` raises before it saves. -/
def checkNewFriend (name : String) (update : FriendUpdate) (masterPassword : Bytes) :
    Except ServiceRaised Unit := do
  if isBlank name then .error (.friendsServiceError "Friend name cannot be empty")
  else if isBlank update.pem then .error (.friendsServiceError "Public key cannot be empty")
  else if (nonemptyBytes update.sharedSecret).isSome && masterPassword.isEmpty then
    .error (.friendsServiceError "Master password required to encrypt shared secret")
  else do
    checkX25519 (nonempty update.x25519PubB64)
    checkCombinedPub pqcKind "Too short to be a valid combined public key"
      (nonempty update.pqcCombinedPubB64)
    checkCombinedPub hybridSigKind "Too short to be a valid hybrid signing combined public key"
      (nonempty update.hybridSigPubB64)

def friendExists (store : KeyStore Priv Pub) (name : String) : Bool :=
  store.friends.any fun friend => friend.1 = name

/-- The first friend of that name. -/
def friendEntry (store : KeyStore Priv Pub) (name : String) : Option (Pub × Option Bytes) :=
  (store.friends.find? fun friend => friend.1 = name).map fun friend => friend.2

/-- `get_friend_secret`. -/
def getFriendSecret (store : KeyStore Priv Pub) (name : String) : Option Bytes :=
  (friendEntry store name).bind fun entry => entry.2

/-- What `_get_friend_existing_keys` returns. -/
structure ExistingKeys where
  pem : Option String
  x25519 : Option String
  ecdhPriv : Option Bytes
  caps : Option Capabilities
  pqcB64 : Option String
  hybridSigB64 : Option String
deriving DecidableEq, Repr

/-- `struct.pack(">H", len(key)) + key` of both keys. -/
def packCombined (keys : Bytes × Bytes) : Except KeyStore.Raised Bytes :=
  if keys.1.length < 65536 ∧ keys.2.length < 65536 then
    .ok (HybridSigner.combine keys.1 keys.2)
  else .error .structError

/-- The combined signing key of a friend, put together again. -/
def hybridSigPubB64 (store : KeyStore Priv Pub) (name : String) :
    Except KeyStore.Raised (Option String) :=
  match store.friendsHybridSigPubs.get? name with
  | none => .ok none
  | some keys => (packCombined keys).map fun combined => some (b64encode combined)

def pqcPubB64 (store : KeyStore Priv Pub) (name : String) : Option String :=
  (store.friendsPqcCombinedPub.get? name).map b64encode

variable (P : Primitives Priv Pub Pem) (platform : Platform)

/-- The key of a friend, as `pubkey_to_pem` writes it. -/
def currentPem (store : KeyStore Priv Pub) (name : String) : Option String :=
  (friendEntry store name).map fun entry => P.pubkeyToPem entry.1

/-- `_get_friend_existing_keys`. -/
def getFriendExistingKeys (store : KeyStore Priv Pub) (name : String) :
    Except KeyStore.Raised ExistingKeys := do
  let hybridSigB64 ← hybridSigPubB64 store name
  return {
    pem := currentPem P store name
    x25519 := store.friendsX25519.get? name
    ecdhPriv := store.friendsEcdhPriv.get? name
    caps := nonemptyCapabilities (store.friendsCapabilities.get? name)
    pqcB64 := pqcPubB64 store name
    hybridSigB64 }

/-- `add_friend`. It has no argument for an ECDH key. -/
def addFriend (name : String) (update : FriendUpdate) (masterPassword : Bytes) (draws : Draws) :
    ServiceCall Priv Pub Pem Unit := do
  Call.lift (checkNewFriend name update masterPassword)
  onStore .passed (saveFriend P platform name { update with ecdhPrivBytes := none }
    masterPassword draws)

/-- `remove_friend`. -/
def removeFriend (name : String) : ServiceCall Priv Pub Pem Unit := do
  let session ← Call.read
  if friendExists session.store name then onStore .passed (KeyStore.removeFriend name)
  else Call.raise (.friendsServiceError ("Friend '" ++ name ++ "' not found"))

/-- The `new_*` arguments of `update_friend_pub_keys`. -/
structure NewKeys where
  rsaPem : Option String
  x25519B64 : Option String
  pqcB64 : Option String
  hybridSigB64 : Option String
deriving DecidableEq, Repr

/-- What `update_friend_pub_keys` saves. The password it saves with is the one it is given only
where there is a shared secret. -/
def updatedFriend (store : KeyStore Priv Pub) (name : String) (masterPassword : Bytes)
    (new : NewKeys) : Except ServiceRaised (FriendUpdate × Bytes) := do
  let secret := nonemptyBytes (getFriendSecret store name)
  if !friendExists store name then
    .error (.friendsServiceError ("Friend '" ++ name ++ "' not found"))
  else if (nonempty new.rsaPem).isNone && (nonempty new.x25519B64).isNone &&
      (nonempty new.pqcB64).isNone && (nonempty new.hybridSigB64).isNone then
    .error (.friendsServiceError "No keys provided to update")
  else if secret.isSome && masterPassword.isEmpty then
    .error (.friendsServiceError "Master password required to preserve shared secret")
  else
    match getFriendExistingKeys P store name with
    | .error raised => .error (.passed raised)
    | .ok existing =>
        match nonempty ((nonempty new.rsaPem).or existing.pem) with
        | none => .error (.friendsServiceError "Friend record corrupted – no public key")
        | some pem => do
            match (nonempty new.rsaPem).map P.pemToPubkey with
            | some (.error cause) =>
                .error (.friendsServiceErrorFrom "Invalid RSA public key: " cause)
            | _ => do
                checkX25519 (nonempty new.x25519B64)
                checkCombinedPub pqcKind "Key too short" (nonempty new.pqcB64)
                checkCombinedPub hybridSigKind "Key too short" (nonempty new.hybridSigB64)
                return ({
                  pem
                  sharedSecret := getFriendSecret store name
                  x25519PubB64 := new.x25519B64.or existing.x25519
                  capabilities := existing.caps
                  pqcCombinedPubB64 := new.pqcB64.or existing.pqcB64
                  hybridSigPubB64 := new.hybridSigB64.or existing.hybridSigB64
                  ecdhPrivBytes := existing.ecdhPriv },
                  if secret.isSome then masterPassword else [])

/-- `update_friend_pub_keys`. -/
def updateFriendPubKeys (name : String) (masterPassword : Bytes) (new : NewKeys) (draws : Draws) :
    ServiceCall Priv Pub Pem Unit := do
  let session ← Call.read
  let (update, password) ← Call.lift (updatedFriend P session.store name masterPassword new)
  onStore .passed (saveFriend P platform name update password draws)

/-- `verify_master_password`. It puts the flag of the duress mode back, and the lockout is not part
of the session. -/
def verifyMasterPassword (guard : Guard) (password : Bytes) (session : Session Priv Pub Pem) :
    Except ServiceRaised Bool :=
  match (Lockout.verifyPassword P guard.now guard.done password).run
    { store := { lockout := guard.lockout, duressMode := session.store.duressMode }
      settings :=
        { globalSecret := session.db.secrets .globalSecret
          duressVerifier := session.db.secrets .duressVerifier
          lockoutData := none } } with
  | (.ok valid, after) => .ok (valid && !after.store.duressMode)
  | (.error refusal, _) => .error (.refused refusal)

def duressDetected : ServiceRaised :=
  .globalSecretServiceError "Duress password detected — cannot update secret"

/-- `GlobalSecretService.update_secret`. -/
def updateSecret (guard : Guard) (newSecret masterPassword : Bytes) (draws : Draws) :
    ServiceCall Priv Pub Pem Unit := do
  if masterPassword.isEmpty then
    Call.raise (.globalSecretServiceError "Master password required")
  else do
    let session ← Call.read
    let valid ← Call.lift (verifyMasterPassword P guard masterPassword session)
    if !valid then
      Call.raise (if session.store.duressMode then duressDetected
        else .globalSecretServiceError "Incorrect master password")
    else if session.store.duressMode then Call.raise duressDetected
    else if newSecret.length ≠ 32 then
      Call.raise (.globalSecretServiceError "Secret must be 32 bytes")
    else
      onStore (.globalSecretServiceErrorFrom "Failed to update secret: ")
        (updateGlobalSecret P newSecret masterPassword draws)

/-- `FriendHybridSigKeyService.generate_hybrid_sig_keys`, with what `HybridSigner.generate_keys`
returns, if it returns. -/
def generateHybridSigKeys (generated : Option HybridKeys) (masterPassword : Bytes)
    (draws : Draws) : ServiceCall Priv Pub Pem String :=
  match generated with
  | none => Call.raise (.friendsServiceError "Failed to generate hybrid signing keys: ")
  | some keys => do
      onStore (.friendsServiceErrorFrom "Failed to store hybrid signing keys: ")
        (KeyStore.generateHybridSigKeys P masterPassword keys draws)
      return b64encode keys.combinedPub

def noPqc : ServiceRaised :=
  .friendsServiceError ("Post-quantum cryptography is not available.\n\n" ++
    "The liboqs native library is required but could not be loaded.\n" ++
    "Install it with:\n  pip install liboqs-python\n" ++
    "You also need the liboqs shared library (liboqs.dll / liboqs.so) on your system.")

/-- `FriendPqcKeyService.generate_pqc_keys`. -/
def generatePqcKeys (keys : PqcBundle) (masterPassword : Bytes) (draws : Draws) :
    ServiceCall Priv Pub Pem String := do
  if !platform.pqcAvailable then Call.raise noPqc
  else do
    match ← onStore .passed (ensurePqcKeysFull P platform masterPassword keys draws) with
    | none => Call.raise (.friendsServiceError "Failed to generate PQC hybrid keys")
    | some bundle => return b64encode bundle.combinedPub

/-- The bundle that is stored, or else one that is generated. -/
def storedOrNewBundle (masterPassword : Bytes) (keys : PqcBundle) (draws : Draws) :
    StoreCall Priv Pub Pem (Option PqcBundle) := do
  match ← loadPqcBundle P masterPassword with
  | some bundle => return some bundle
  | none => ensurePqcKeysFull P platform masterPassword keys draws

/-- `FriendPqcKeyService.pqc_decapsulate`. -/
def pqcDecapsulate (K : KemLibrary) (ciphertextB64 : String) (masterPassword : Bytes)
    (keys : PqcBundle) (draws : Draws) : ServiceCall Priv Pub Pem Bytes := do
  match ← onStore .passed (storedOrNewBundle P platform masterPassword keys draws) with
  | none =>
      Call.raise (.friendsServiceError ("PQC keys not available. " ++
        "Generate PQC keys first via the PQC Exchange dialog."))
  | some bundle =>
      if !platform.pqcAvailable then
        Call.raise (.friendsServiceError
          "Post-quantum cryptography is not available (liboqs not installed).")
      else
        match decodeBase64 ciphertextB64 with
        | .error cause =>
            Call.raise (.friendsServiceErrorFrom "PQC decapsulation failed: " cause)
        | .ok ct =>
            match HybridKem.decapsulate K bundle ct with
            | .error cause =>
                Call.raise (.friendsServiceErrorFromKem "PQC decapsulation failed: " cause)
            | .ok sharedSecret => return sharedSecret

variable {P platform} {store : KeyStore Priv Pub} {session : Session Priv Pub Pem}

@[simp] theorem onStore_run {α : Type} (refuse : KeyStore.Raised → ServiceRaised)
    (call : StoreCall Priv Pub Pem α) (session : Session Priv Pub Pem) :
    ((onStore refuse call).run session).2 = (call.run session).2 := by
  show (onStore refuse call session).2 = _
  unfold onStore
  cases call.run session with
  | mk result after => cases result <;> rfl

theorem onStore_run_ok_iff {α : Type} {refuse : KeyStore.Raised → ServiceRaised}
    {call : StoreCall Priv Pub Pem α} {value : α} {after : Session Priv Pub Pem} :
    (onStore refuse call).run session = (.ok value, after) ↔ call.run session = (.ok value, after) := by
  show onStore refuse call session = _ ↔ _
  unfold onStore
  cases call.run session with
  | mk result last =>
      cases result with
      | ok found => simp only [Prod.mk.injEq, Except.ok.injEq]
      | error raised => simp only [Prod.mk.injEq, reduceCtorEq, false_and]

theorem loadVerifiers_fst {settings : Lockout.Settings} {enc : EncValue}
    (stored : settings.globalSecret = some (.json enc)) :
    (Lockout.loadVerifiers settings).1 = some enc := by
  unfold Lockout.loadVerifiers
  rw [stored]
  dsimp only
  split <;> rfl

/-- Only the master password is verified as such. -/
theorem master_of_verified (lawful : P.Lawful) {master masterPassword : Bytes} {guard : Guard}
    {plain : Bytes} {entropy : Entropy}
    (stored : session.db.secrets .globalSecret = some (wrap P plain master entropy))
    (verified : verifyMasterPassword P guard masterPassword session = .ok true) :
    masterPassword = master := by
  by_contra apart
  have refused : Lockout.testVerifier P masterPassword
      (some (.dict (encryptSecret P plain master entropy))) =
      .ok false := by
    rw [Lockout.testVerifier_encryptSecret lawful, Lockout.opens, unwrap_wrap lawful, if_neg apart]
    rfl
  have loaded : (Lockout.loadVerifiers
      { globalSecret := session.db.secrets .globalSecret
        duressVerifier := session.db.secrets .duressVerifier
        lockoutData := none }).1 = some (.dict (encryptSecret P plain master entropy)) :=
    loadVerifiers_fst stored
  unfold verifyMasterPassword Lockout.verifyPassword at verified
  simp only [Call.run_read_bind, Call.run_ite, loaded, refused] at verified
  by_cases delayed : 0 < guard.lockout.getDelay guard.now
  · rw [if_pos delayed] at verified
    cases verified
  · rw [if_neg delayed] at verified
    cases duress : Lockout.testVerifier P masterPassword (Lockout.loadVerifiers
        { globalSecret := session.db.secrets .globalSecret
          duressVerifier := session.db.secrets .duressVerifier
          lockoutData := none }).2 with
    | error raised =>
        rw [duress] at verified
        cases verified
    | ok opens =>
        rw [duress] at verified
        cases opens <;> cases verified

theorem friendEntry_eq_lookup (store : KeyStore Priv Pub) (name : String) :
    friendEntry store name = store.friends.lookup name := by
  unfold friendEntry
  induction store.friends with
  | nil => rfl
  | cons friend rest ih =>
      by_cases same : name = friend.1
      · simp only [List.find?_cons, decide_eq_true same.symm, Option.map_some]
        rw [List.lookup_cons, beq_iff_eq.mpr same]
      · have apart : decide (friend.1 = name) = false := decide_eq_false fun eq => same eq.symm
        simp only [List.find?_cons, apart]
        rw [List.lookup_cons, beq_eq_false_iff_ne.mpr same]
        exact ih

/-- What `update_friend_pub_keys` saves is put together from the new keys and from those that the
store holds. -/
theorem updatedFriend_ok {name : String} {masterPassword password : Bytes} {new : NewKeys}
    {update : FriendUpdate}
    (checked : updatedFriend P store name masterPassword new = .ok (update, password)) :
    friendExists store name = true ∧
    (∃ existing, getFriendExistingKeys P store name = .ok existing ∧
      nonempty ((nonempty new.rsaPem).or existing.pem) = some update.pem ∧
      update.sharedSecret = getFriendSecret store name ∧
      update.x25519PubB64 = new.x25519B64.or existing.x25519 ∧
      update.capabilities = existing.caps ∧
      update.pqcCombinedPubB64 = new.pqcB64.or existing.pqcB64 ∧
      update.hybridSigPubB64 = new.hybridSigB64.or existing.hybridSigB64 ∧
      update.ecdhPrivBytes = existing.ecdhPriv) ∧
    (∀ text, nonempty new.rsaPem = some text → ∃ pub, P.pemToPubkey text = .ok pub) ∧
    password = if (nonemptyBytes (getFriendSecret store name)).isSome then masterPassword
      else [] := by
  unfold updatedFriend at checked
  dsimp only at checked
  split at checked
  · cases checked
  rename_i there
  split at checked
  · cases checked
  split at checked
  · cases checked
  split at checked
  · cases checked
  rename_i existing found
  split at checked
  · cases checked
  rename_i pem given
  have exists_ : friendExists store name = true := by
    simpa only [Bool.not_eq_true, Bool.not_eq_false'] using there
  split at checked
  · cases checked
  rename_i passes
  obtain ⟨_, _, checked⟩ := ok_of_bind checked
  obtain ⟨_, _, checked⟩ := ok_of_bind checked
  obtain ⟨_, _, checked⟩ := ok_of_bind checked
  cases checked
  refine ⟨exists_, ⟨existing, found, given, rfl, rfl, rfl, rfl, rfl, rfl⟩, ?_, rfl⟩
  intro text rsa
  cases parsed : P.pemToPubkey text with
  | ok pub => exact ⟨pub, rfl⟩
  | error cause =>
      refine absurd ?_ (passes cause)
      rw [rsa, Option.map_some, parsed]

theorem getFriendExistingKeys_ok {name : String} {existing : ExistingKeys}
    (found : getFriendExistingKeys P store name = .ok existing) :
    existing.pem = currentPem P store name ∧
    existing.x25519 = store.friendsX25519.get? name ∧
    existing.ecdhPriv = store.friendsEcdhPriv.get? name ∧
    existing.caps = nonemptyCapabilities (store.friendsCapabilities.get? name) ∧
    existing.pqcB64 = pqcPubB64 store name ∧
    hybridSigPubB64 store name = .ok existing.hybridSigB64 := by
  obtain ⟨hybridSig, packed, found⟩ := ok_of_bind found
  cases found
  exact ⟨rfl, rfl, rfl, rfl, rfl, packed⟩

/-- The signing key that the store holds of a friend is parsed again. -/
theorem parse_hybridSigPubB64 {name : String} {text : String}
    (packed : hybridSigPubB64 store name = .ok (some text)) :
    ∃ keys, store.friendsHybridSigPubs.get? name = some keys ∧
      (decodeBase64 text >>= parseCombinedPub) = .ok keys := by
  unfold hybridSigPubB64 at packed
  split at packed
  · cases packed
  · rename_i keys found
    unfold packCombined at packed
    split at packed
    · rename_i short
      cases packed
      refine ⟨keys, found, ?_⟩
      rw [decodeBase64_b64encode, ok_bind,
        HybridSigner.parseCombinedPub_combine _ _ short.1 short.2]
    · cases packed

theorem eq_of_nonempty {column : Option String} {text : String}
    (given : nonempty column = some text) : column = some text ∧ text.isEmpty = false := by
  cases column with
  | none => cases given
  | some found =>
      rw [nonempty] at given
      split at given
      · cases given
      · cases given
        exact ⟨rfl, Bool.eq_false_iff.mpr (by assumption)⟩

/-- The key that is saved is a new one that was checked, or the one that the store holds. -/
theorem updatedFriend_parses (lawful : P.Lawful) {name : String} {masterPassword password : Bytes}
    {new : NewKeys} {update : FriendUpdate}
    (checked : updatedFriend P store name masterPassword new = .ok (update, password)) :
    ∃ pub, P.pemToPubkey update.pem = .ok pub := by
  obtain ⟨_, ⟨existing, found, pem, _⟩, parses, _⟩ := updatedFriend_ok checked
  obtain ⟨held, _⟩ := getFriendExistingKeys_ok found
  have chosen := (eq_of_nonempty pem).1
  cases given : nonempty new.rsaPem with
  | some text =>
      rw [given] at chosen
      cases chosen
      exact parses _ given
  | none =>
      rw [given, held, Option.none_or] at chosen
      obtain ⟨entry, _, written⟩ := Option.map_eq_some_iff.mp chosen
      exact ⟨entry.1, by rw [← written, lawful.pubkey_round]⟩

/-- Of the signing keys that are saved only a new one can fail to parse. -/
theorem updatedFriend_signing {name : String} {masterPassword password : Bytes} {new : NewKeys}
    {update : FriendUpdate}
    (checked : updatedFriend P store name masterPassword new = .ok (update, password)) :
    (update.signingKeys platform).isOk = (readSigningKeys platform new.hybridSigB64).isOk := by
  obtain ⟨_, ⟨existing, found, _, _, _, _, _, hybrid, _⟩, _⟩ := updatedFriend_ok checked
  obtain ⟨_, _, _, _, _, packed⟩ := getFriendExistingKeys_ok found
  unfold FriendUpdate.signingKeys
  rw [hybrid]
  cases given : new.hybridSigB64 with
  | some text => rfl
  | none =>
      rw [Option.none_or]
      have nothing : readSigningKeys platform none = .ok none := by
        unfold readSigningKeys
        split <;> rfl
      cases stored : existing.hybridSigB64 with
      | none => rfl
      | some text =>
          rw [stored] at packed
          obtain ⟨keys, _, parsed⟩ := parse_hybridSigPubB64 packed
          rw [nothing]
          unfold readSigningKeys
          cases platform.hybridSigAvailable with
          | false => rfl
          | true =>
              have column : nonempty (some text) = none ∨ nonempty (some text) = some text := by
                show (if text.isEmpty then none else some text) = none ∨
                  (if text.isEmpty then none else some text) = some text
                split
                · exact .inl rfl
                · exact .inr rfl
              rw [if_pos rfl]
              rcases column with blank | filled
              · rw [blank]
                rfl
              · rw [filled]
                show (attempt (decodeBase64 text >>= parseCombinedPub)).isOk = _
                rw [parsed]
                rfl

end Services

end UltimateEnigma.Friends
