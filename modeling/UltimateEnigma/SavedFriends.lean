import UltimateEnigma.LoadFrames
import UltimateEnigma.KeyStoreOperations

set_option autoImplicit false

namespace UltimateEnigma.KeyStore

open Py

section Saving

variable {Priv Pub Pem : Type} (P : Primitives Priv Pub Pem) (platform : Platform)

/-- The row that `save_friend` writes, unless it misses a password. -/
def savedRow (name : String) (update : FriendUpdate) (password : Bytes) (draws : Draws)
    (db : Database Pem) : Except Raised FriendRow := do
  let secretColumn ← wrapColumn P password (draws.sharedSecret name)
    (nonemptyBytes update.sharedSecret)
  let ecdhColumn ← wrapColumn P password (draws.ecdhPriv name) update.ecdhPrivBytes
  return {
    publicKeyPem := update.pem
    hasSharedSecret := secretColumn.isSome
    sharedSecretEncrypted := secretColumn
    x25519PublicKeyB64 := update.x25519PubB64
    capabilitiesJson := nonemptyCapabilities update.capabilities
    ratchetStateJson := (db.friends.get? name).bind FriendRow.ratchetStateJson
    pqcCombinedPubB64 := update.pqcCombinedPubB64
    hybridSigPubB64 := update.hybridSigPubB64
    ecdhPrivEncrypted := ecdhColumn }

/-- A column of signing keys, which counts only where hybrid signatures are available. -/
def readSigningKeys (column : Option String) : Except Raised (Option (Bytes × Bytes)) :=
  attemptColumn (if platform.hybridSigAvailable then nonempty column else none)
    fun text => decodeBase64 text >>= parseCombinedPub

/-- The signing keys that an update gives. -/
def FriendUpdate.signingKeys (update : FriendUpdate) : Except Raised (Option (Bytes × Bytes)) :=
  readSigningKeys platform update.hybridSigPubB64

/-- The store once the row is parsed, up to the signing keys. -/
def storeWithKeys (name : String) (update : FriendUpdate) (pub : Pub)
    (pqcCombinedPub : Option Bytes) (store : KeyStore Priv Pub) : KeyStore Priv Pub :=
  { store with
    friends := store.friends.filter (fun friend => friend.1 ≠ name) ++
      [(name, pub, nonemptyBytes update.sharedSecret)]
    friendsX25519 := setOrPop store.friendsX25519 name (nonempty update.x25519PubB64)
    friendsEcdhPriv := setOrPop store.friendsEcdhPriv name update.ecdhPrivBytes
    friendsCapabilities := setOrPop store.friendsCapabilities name
      (nonemptyCapabilities update.capabilities)
    friendsPqcCombinedPub := setOrPop store.friendsPqcCombinedPub name pqcCombinedPub }

def storeWithSigning (name : String) (hybridSigPubs : Option (Bytes × Bytes))
    (store : KeyStore Priv Pub) : KeyStore Priv Pub :=
  { store with
    friendsHybridSigPubs := setOrPop store.friendsHybridSigPubs name hybridSigPubs }

/-- What an update protects with the password. -/
def FriendUpdate.HasSecret (update : FriendUpdate) : Prop :=
  (nonemptyBytes update.sharedSecret).isSome = true ∨ update.ecdhPrivBytes.isSome = true

instance (update : FriendUpdate) : Decidable update.HasSecret :=
  inferInstanceAs (Decidable (_ ∨ _))

variable {P platform} {name : String} {update : FriendUpdate} {password : Bytes} {draws : Draws}
variable {session : Session Priv Pub Pem}

/-- A row that cannot be wrapped is not written. -/
theorem saveFriend_run_unwrapped {raised : Raised}
    (failed : savedRow P name update password draws session.db = .error raised) :
    (saveFriend P platform name update password draws).run session = (.error raised, session) := by
  unfold savedRow at failed
  rw [saveFriend]
  cases secretMade : wrapColumn P password (draws.sharedSecret name)
      (nonemptyBytes update.sharedSecret) with
  | error other =>
      rw [secretMade] at failed
      cases failed
      rfl
  | ok secretColumn =>
      cases ecdhMade : wrapColumn P password (draws.ecdhPriv name) update.ecdhPrivBytes with
      | error other =>
          rw [secretMade, ecdhMade] at failed
          cases failed
          rfl
      | ok ecdhColumn =>
          rw [secretMade, ecdhMade] at failed
          cases failed

variable (platform) in
/-- The row is written before it is parsed: first its key, then its signing keys. -/
theorem saveFriend_run {row : FriendRow}
    (made : savedRow P name update password draws session.db = .ok row) :
    ∃ pqcCombinedPub,
      attemptColumn (nonempty update.pqcCombinedPubB64) decodeBase64 = .ok pqcCombinedPub ∧
      (saveFriend P platform name update password draws).run session =
        match P.pemToPubkey update.pem with
        | .error raised => (.error raised, { session with db := session.db.replaceFriend name row })
        | .ok pub =>
            let store := storeWithKeys name update pub pqcCombinedPub session.store
            match update.signingKeys platform with
            | .error raised => (.error raised, ⟨store, session.db.replaceFriend name row⟩)
            | .ok hybridSigPubs =>
                (.ok (), ⟨storeWithSigning name hybridSigPubs store,
                  session.db.replaceFriend name row⟩) := by
  obtain ⟨pqcCombinedPub, decoded⟩ := attemptColumn_decodeBase64 (nonempty update.pqcCombinedPubB64)
  refine ⟨pqcCombinedPub, decoded, ?_⟩
  obtain ⟨secretColumn, secretMade, made⟩ := ok_of_bind made
  obtain ⟨ecdhColumn, ecdhMade, made⟩ := ok_of_bind made
  cases made
  rw [saveFriend]
  simp only [secretMade, ecdhMade, Call.run_lift_ok_bind, run_commit_bind]
  cases P.pemToPubkey update.pem with
  | error raised => rfl
  | ok pub =>
      simp only [Call.run_lift_ok_bind, decoded, run_assign_bind]
      cases signing : update.signingKeys platform with
      | error raised =>
          unfold FriendUpdate.signingKeys readSigningKeys at signing
          rw [signing]
          rfl
      | ok hybridSigPubs =>
          unfold FriendUpdate.signingKeys readSigningKeys at signing
          rw [signing]
          rfl

/-- A wrapped column opens with its own password only. -/
theorem attemptColumn_wrapColumn (lawful : P.Lawful) {entropy : Entropy} {plain : Option Bytes}
    {column : Option Wrapper} (made : wrapColumn P password entropy plain = .ok column)
    (master : Bytes) :
    attemptColumn column (unwrap P · master) =
      if plain.isSome = true ∧ master ≠ password then .error .invalidTag else .ok plain := by
  cases plain with
  | none =>
      cases made
      rfl
  | some plain =>
      rw [wrapColumn] at made
      split at made
      · cases made
      cases made
      show attempt (unwrap P (wrap P plain password entropy) master) = _
      rw [unwrap_wrap lawful]
      by_cases same : master = password
      · rw [if_pos same, if_neg (fun apart => apart.2 same)]
        rfl
      · rw [if_neg same, if_pos ⟨rfl, same⟩]
        rfl

/-- What a load under the master password makes of the row. -/
theorem readFriend_savedRow (lawful : P.Lawful) {row : FriendRow}
    (made : savedRow P name update password draws session.db = .ok row) (master : Bytes) :
    readFriend P platform master row = do
      let pub ← P.pemToPubkey update.pem
      if update.HasSecret ∧ master ≠ password then .error .invalidTag
      else do
        let pqcCombinedPub ← attemptColumn (nonempty update.pqcCombinedPubB64) decodeBase64
        let hybridSigPubs ← update.signingKeys platform
        return {
          pub
          secret := nonemptyBytes update.sharedSecret
          ecdhPriv := update.ecdhPrivBytes
          pqcCombinedPub
          hybridSigPubs } := by
  obtain ⟨secretColumn, secretMade, made⟩ := ok_of_bind made
  obtain ⟨ecdhColumn, ecdhMade, made⟩ := ok_of_bind made
  cases made
  have shared : (if secretColumn.isSome = true then secretColumn else none) = secretColumn := by
    cases secretColumn <;> rfl
  have secretRead := attemptColumn_wrapColumn lawful secretMade master
  have ecdhRead := attemptColumn_wrapColumn lawful ecdhMade master
  simp only [readFriend, FriendRow.sharedSecret, shared, secretRead, ecdhRead]
  cases P.pemToPubkey update.pem with
  | error raised => rfl
  | ok pub =>
      simp only [ok_bind]
      by_cases withSecret : (nonemptyBytes update.sharedSecret).isSome = true ∧ master ≠ password
      · have refused : update.HasSecret ∧ master ≠ password := ⟨.inl withSecret.1, withSecret.2⟩
        rw [if_pos withSecret, if_pos refused]
        rfl
      · rw [if_neg withSecret]
        by_cases withEcdh : update.ecdhPrivBytes.isSome = true ∧ master ≠ password
        · have refused : update.HasSecret ∧ master ≠ password := ⟨.inr withEcdh.1, withEcdh.2⟩
          rw [if_pos withEcdh, if_pos refused]
          rfl
        · have allowed : ¬ (update.HasSecret ∧ master ≠ password) := by
            rintro ⟨secret | ecdh, apart⟩
            · exact withSecret ⟨secret, apart⟩
            · exact withEcdh ⟨ecdh, apart⟩
          rw [if_neg withEcdh, if_neg allowed]
          rfl

/-- The saved row can be loaded under the master password. -/
structure FriendUpdate.Loads (P : Primitives Priv Pub Pem) (platform : Platform)
    (update : FriendUpdate) (password master : Bytes) : Prop where
  pem : ∃ pub, P.pemToPubkey update.pem = .ok pub
  signingKeys : ∃ hybridSigPubs, update.signingKeys platform = .ok hybridSigPubs
  secret (given : update.HasSecret) : password = master

theorem loads_iff (lawful : P.Lawful) {row : FriendRow}
    (made : savedRow P name update password draws session.db = .ok row) (master : Bytes) :
    (∃ loaded, readFriend P platform master row = .ok loaded) ↔
      update.Loads P platform password master := by
  rw [readFriend_savedRow lawful made]
  constructor
  · rintro ⟨loaded, read⟩
    obtain ⟨pub, parsed, read⟩ := ok_of_bind read
    split at read
    · cases read
    · rename_i unprotected
      obtain ⟨_, _, read⟩ := ok_of_bind read
      obtain ⟨hybridSigPubs, signing, _⟩ := ok_of_bind read
      refine ⟨⟨pub, parsed⟩, ⟨hybridSigPubs, signing⟩, fun given => ?_⟩
      by_contra apart
      exact unprotected ⟨given, fun same => apart same.symm⟩
  · rintro ⟨⟨pub, parsed⟩, ⟨hybridSigPubs, signing⟩, secret⟩
    obtain ⟨pqcCombinedPub, decoded⟩ :=
      attemptColumn_decodeBase64 (nonempty update.pqcCombinedPubB64)
    have unprotected : ¬ (update.HasSecret ∧ master ≠ password) := fun guarded =>
      guarded.2 (secret guarded.1).symm
    rw [parsed, ok_bind, if_neg unprotected, decoded, ok_bind, signing]
    exact ⟨_, rfl⟩

end Saving

end UltimateEnigma.KeyStore
