import UltimateEnigma.FriendCrud
import UltimateEnigma.FriendValues
import UltimateEnigma.PasswordChange
import UltimateEnigma.TrustChain

set_option autoImplicit false

namespace UltimateEnigma.Friends

open Py KeyStore

/-- What an update finds outside the key store: the lockout and the clock, what the random source
gives, the delegation certificates held (`get_delegation_certs_held_by_me`), and the text of the
state that `init_ratchet_alice` or `init_ratchet_bob` stores, or what becomes of their exceptions. -/
structure UpdateContext where
  guard : Guard
  draws : Draws
  delegations : List TrustChain.TrustCertificate
  initRatchetAlice : Bytes → Bytes → Option Bytes → Except ServiceRaised String
  initRatchetBob : Bytes → Bytes → Option Bytes → Except ServiceRaised String

/-- `caps[key] = True`. -/
def setCapability (key : String) : Capabilities → Capabilities
  | [] => [(key, true)]
  | entry :: rest =>
      if entry.1 = key then (key, true) :: rest else entry :: setCapability key rest

/-- `caps.pop(key, None)`. -/
def popCapability (key : String) (caps : Capabilities) : Capabilities :=
  caps.filter fun entry => entry.1 ≠ key

def doubleRatchet : String := "double_ratchet"

section Updates

variable {Priv Pub Pem : Type}

/-- `UPDATE friends SET … WHERE name=?`. -/
def updateRow (name : String) (change : FriendRow → FriendRow) (db : Database Pem) : Database Pem :=
  match db.friends.get? name with
  | none => db
  | some row => { db with friends := db.friends.set name (change row) }

/-- The statement of `save_ratchet_state`, and of `delete_ratchet`. -/
def setRatchetState (name : String) (state : Option String) : Database Pem → Database Pem :=
  updateRow name fun row => { row with ratchetStateJson := state }

/-- `RatchetService._ensure_ratchet_capability`. -/
def ensureRatchetCapability (name : String) : Database Pem → Database Pem :=
  updateRow name fun row =>
    if (capabilityOf row.capabilitiesJson doubleRatchet).getD false then row
    else { row with
      capabilitiesJson := some (setCapability doubleRatchet (row.capabilitiesJson.getD [])) }

def onDatabase (change : Database Pem → Database Pem) : ServiceCall Priv Pub Pem Unit :=
  Call.modify fun session => { session with db := change session.db }

def friendNotFound (name : String) : ServiceRaised :=
  .friendsServiceError ("Friend '" ++ name ++ "' not found")

variable (P : Primitives Priv Pub Pem) (platform : Platform) (context : UpdateContext)

/-- What `init_ratchet` needs of the friend: the secret, the X25519 key and its bytes. -/
def ratchetInputs (store : KeyStore Priv Pub) (name : String) :
    Except ServiceRaised (Bytes × String × Bytes) :=
  if !friendExists store name then .error (friendNotFound name)
  else
    match nonemptyBytes (getFriendSecret store name) with
    | none =>
        .error (.friendsServiceError ("No shared secret configured for '" ++ name ++ "'. " ++
          "Perform ECDH exchange first."))
    | some secret =>
        match nonempty (store.friendsX25519.get? name) with
        | none =>
            .error (.friendsServiceError ("No X25519 public key for '" ++ name ++ "'. " ++
              "Perform ECDH exchange first."))
        | some xB64 =>
            match decodePublicKey xB64 with
            | none =>
                .error (.friendsServiceError ("Invalid X25519 key for '" ++ name ++ "': " ++
                  "Invalid Base64 public key"))
            | some peerDhPub => .ok (secret, xB64, peerDhPub)

/-- The state for the role. -/
def freshRatchet (role : String) (peerDhPub secret : Bytes) (localDhPriv : Option Bytes) :
    Except ServiceRaised String :=
  if role = "alice" then context.initRatchetAlice peerDhPub secret localDhPriv
  else if role = "bob" then context.initRatchetBob peerDhPub secret localDhPriv
  else .error (.friendsServiceError ("Invalid role '" ++ role ++ "'. Use 'alice' or 'bob'."))

/-- The end of `init_ratchet` and of `reset_ratchet`: the friend is saved again, with the fields that
these pass. -/
def saveVerified (name : String) (update : FriendUpdate) (masterPassword : Bytes) :
    ServiceCall Priv Pub Pem Unit := do
  let session ← Call.read
  let valid ← Call.lift (verifyMasterPassword P context.guard masterPassword session)
  if !valid then Call.raise (.valueError "Invalid password — cannot save friend")
  else onStore .passed (saveFriend P platform name update masterPassword context.draws)

/-- `FriendRatchetManager.init_ratchet`. -/
def initRatchet (name role : String) (masterPassword : Bytes) : ServiceCall Priv Pub Pem Unit := do
  let session ← Call.read
  let store := session.store
  let (secret, xB64, peerDhPub) ← Call.lift (ratchetInputs store name)
  let state ← Call.lift
    (freshRatchet context role peerDhPub secret (store.friendsEcdhPriv.get? name))
  onDatabase (setRatchetState name (some state))
  onDatabase (ensureRatchetCapability name)
  match nonempty (currentPem P store name) with
  | none => return ()
  | some pem =>
      saveVerified P platform context name
        { pem
          sharedSecret := some secret
          x25519PubB64 := some xB64
          capabilities :=
            some (setCapability doubleRatchet ((store.friendsCapabilities.get? name).getD []))
          pqcCombinedPubB64 := none
          hybridSigPubB64 := none
          ecdhPrivBytes := store.friendsEcdhPriv.get? name } masterPassword

/-- `RatchetService.delete_ratchet`. -/
def deleteRatchet (name : String) : ServiceCall Priv Pub Pem Bool := do
  let session ← Call.read
  let deleted := ((session.db.friends.get? name).bind FriendRow.ratchetStateJson).isSome
  onDatabase (setRatchetState name none)
  return deleted

/-- `FriendRatchetManager.reset_ratchet`. -/
def resetRatchet (name : String) (masterPassword : Bytes) : ServiceCall Priv Pub Pem Bool := do
  let session ← Call.read
  let store := session.store
  if !friendExists store name then Call.raise (friendNotFound name)
  else do
    let deleted ← deleteRatchet name
    match nonempty (currentPem P store name) with
    | none => return deleted
    | some pem =>
        if (nonemptyBytes (getFriendSecret store name)).isSome && masterPassword.isEmpty then
          Call.raise (.friendsServiceError "Master password required to encrypt shared secret")
        else do
          saveVerified P platform context name
            { pem
              sharedSecret := getFriendSecret store name
              x25519PubB64 := store.friendsX25519.get? name
              capabilities := nonemptyCapabilities (some (popCapability doubleRatchet
                ((store.friendsCapabilities.get? name).getD [])))
              pqcCombinedPubB64 := none
              hybridSigPubB64 := none
              ecdhPrivBytes := store.friendsEcdhPriv.get? name } masterPassword
          return deleted

/-- `FriendHybridSigKeyService.import_friend_hybrid_sig_pub`. -/
def importFriendHybridSigPub (friendName combinedPubB64 : String) (masterPassword : Bytes) :
    ServiceCall Priv Pub Pem Unit := do
  let session ← Call.read
  let store := session.store
  if !friendExists store friendName then Call.raise (friendNotFound friendName)
  else do
    let invalid := "Invalid hybrid signing combined public key: "
    match decodeBase64 combinedPubB64 with
    | .error cause => Call.raise (.friendsServiceErrorFrom invalid cause)
    | .ok raw =>
        if raw.length < 36 then
          Call.raise (.friendsServiceError
            (invalid ++ "Too short to be a valid hybrid signing combined public key"))
        else
          match parseCombinedPub raw, currentPem P store friendName with
          | .error cause, _ => Call.raise (.friendsServiceErrorFrom invalid cause)
          | .ok _, none =>
              Call.raise (.friendsServiceError ("Friend '" ++ friendName ++ "' details not found"))
          | .ok _, some pem =>
              if (nonemptyBytes (getFriendSecret store friendName)).isSome &&
                  masterPassword.isEmpty then
                Call.raise (.friendsServiceError
                  "Master password required to encrypt shared secret during save")
              else
                onStore .passed (saveFriend P platform friendName
                  { pem
                    sharedSecret := getFriendSecret store friendName
                    x25519PubB64 := store.friendsX25519.get? friendName
                    capabilities :=
                      nonemptyCapabilities (store.friendsCapabilities.get? friendName)
                    pqcCombinedPubB64 := pqcPubB64 store friendName
                    hybridSigPubB64 := some combinedPubB64
                    ecdhPrivBytes := none } masterPassword context.draws)

/-- `_assert_delegation`. -/
def assertDelegation (delegatorName : String) : Except ServiceRaised Unit :=
  if context.delegations.any fun cert => cert.issuedBy delegatorName then .ok ()
  else .error (.certificateError
    ("No valid delegation certificate from '" ++ delegatorName ++ "'."))

/-- `TrustChainService._delegated_save`, with the overrides as a change of what it would save. -/
def delegatedSave (delegatorName : String) (masterPassword : Bytes)
    (overrides : FriendUpdate → FriendUpdate) : ServiceCall Priv Pub Pem Unit := do
  let session ← Call.read
  match session.db.friends.get? delegatorName with
  | none =>
      Call.raise (.certificateError ("'" ++ delegatorName ++ "' not found in friends list"))
  | some row =>
      match hybridSigPubB64 session.store delegatorName with
      | .error cause => Call.raise (.passed cause)
      | .ok hybridB64 =>
          onStore (.certificateErrorFrom "Failed to update friend record: ")
            (saveFriend P platform delegatorName
              (overrides
                { pem := row.publicKeyPem
                  sharedSecret := getFriendSecret session.store delegatorName
                  x25519PubB64 := row.x25519PublicKeyB64
                  capabilities := row.capabilitiesJson
                  pqcCombinedPubB64 := row.pqcCombinedPubB64
                  hybridSigPubB64 := hybridB64
                  ecdhPrivBytes := none }) masterPassword context.draws)

/-- What the four updates of a delegator's key have in common: the certificate, the check of the
key, the save. -/
def updateDelegator (delegatorName : String) (masterPassword : Bytes)
    (check : Except ServiceRaised Unit) (overrides : FriendUpdate → FriendUpdate) :
    ServiceCall Priv Pub Pem Unit := do
  Call.lift (assertDelegation context delegatorName)
  Call.lift check
  delegatedSave P platform context delegatorName masterPassword overrides

/-- A new key that has to be Base64 of bytes of the right kind. -/
def checkRaw (invalid b64 : String) (check : Bytes → Except ServiceRaised Unit) :
    Except ServiceRaised Unit :=
  match decodeBase64 b64 with
  | .error cause => .error (.certificateErrorFrom invalid cause)
  | .ok raw => check raw

def updateDelegatorPubKey (delegatorName newCombinedPubB64 : String) (masterPassword : Bytes) :
    ServiceCall Priv Pub Pem Unit :=
  let invalid := "Invalid hybrid signing public key: "
  updateDelegator P platform context delegatorName masterPassword
    (checkRaw invalid newCombinedPubB64 fun raw =>
      match parseCombinedPub raw with
      | .error cause => .error (.certificateErrorFrom invalid cause)
      | .ok _ => .ok ())
    fun update => { update with hybridSigPubB64 := some newCombinedPubB64 }

def updateDelegatorX25519Key (delegatorName newX25519B64 : String) (masterPassword : Bytes) :
    ServiceCall Priv Pub Pem Unit :=
  let invalid := "Invalid X25519 public key: "
  updateDelegator P platform context delegatorName masterPassword
    (checkRaw invalid newX25519B64 fun raw =>
      if raw.length ≠ 32 then
        .error (.certificateError
          (invalid ++ "X25519 key must be 32 bytes, got " ++ toString raw.length))
      else .ok ())
    fun update => { update with x25519PubB64 := some newX25519B64 }

def updateDelegatorPem (delegatorName newPem : String) (masterPassword : Bytes) :
    ServiceCall Priv Pub Pem Unit :=
  updateDelegator P platform context delegatorName masterPassword
    (match P.pemToPubkey newPem with
      | .error cause => .error (.certificateErrorFrom "Invalid RSA public key PEM: " cause)
      | .ok _ => .ok ())
    fun update => { update with pem := newPem }

def updateDelegatorPqcKey (delegatorName newPqcB64 : String) (masterPassword : Bytes) :
    ServiceCall Priv Pub Pem Unit :=
  let invalid := "Invalid PQC combined public key: "
  updateDelegator P platform context delegatorName masterPassword
    (checkRaw invalid newPqcB64 fun raw =>
      if raw.length < 32 then .error (.certificateError (invalid ++ "PQC combined key is too short"))
      else .ok ())
    fun update => { update with pqcCombinedPubB64 := some newPqcB64 }

end Updates

/-- The updates that change some fields of a friend's record. -/
inductive PartialUpdate where
  | initRatchet (role : String)
  | resetRatchet
  | importFriendHybridSigPub (combinedPubB64 : String)
  | updateDelegatorPubKey (newCombinedPubB64 : String)
  | updateDelegatorX25519Key (newX25519B64 : String)
  | updateDelegatorPem (newPem : String)
  | updateDelegatorPqcKey (newPqcB64 : String)
deriving DecidableEq, Repr

/-- The fields that an update is about. -/
def PartialUpdate.about : PartialUpdate → List FriendField
  | .initRatchet _ | .resetRatchet => [.ratchetState, .capability doubleRatchet]
  | .importFriendHybridSigPub _ | .updateDelegatorPubKey _ => [.hybridSigKey]
  | .updateDelegatorX25519Key _ => [.x25519]
  | .updateDelegatorPem _ => [.publicKey]
  | .updateDelegatorPqcKey _ => [.pqcKey]

section Statements

variable {Priv Pub Pem : Type} (P : Primitives Priv Pub Pem) (platform : Platform)
variable (context : UpdateContext)

def PartialUpdate.perform (name : String) (masterPassword : Bytes) :
    PartialUpdate → ServiceCall Priv Pub Pem Unit
  | .initRatchet role => Friends.initRatchet P platform context name role masterPassword
  | .resetRatchet => do
      let _ ← Friends.resetRatchet P platform context name masterPassword
      return ()
  | .importFriendHybridSigPub combinedPubB64 =>
      Friends.importFriendHybridSigPub P platform context name combinedPubB64 masterPassword
  | .updateDelegatorPubKey new =>
      Friends.updateDelegatorPubKey P platform context name new masterPassword
  | .updateDelegatorX25519Key new =>
      Friends.updateDelegatorX25519Key P platform context name new masterPassword
  | .updateDelegatorPem new => Friends.updateDelegatorPem P platform context name new masterPassword
  | .updateDelegatorPqcKey new =>
      Friends.updateDelegatorPqcKey P platform context name new masterPassword

/-- Someone is logged in with the master password, and the store says of the friend what the row
says. -/
structure LoggedIn (master : Bytes) (name : String) (row : FriendRow)
    (session : Session Priv Pub Pem) : Prop where
  globalSecret : ∃ plain entropy,
    session.db.secrets .globalSecret = some (wrap P plain master entropy)
  stored : session.db.friends.get? name = some row
  held : storeValues session.store name = (row.values P master).held platform

/-- The row and the store keep the friend's other fields, and every other friend. -/
structure TouchesOnly (master : Bytes) (about : List FriendField) (name : String)
    (before after : Session Priv Pub Pem) : Prop where
  row : ∃ old new, before.db.friends.get? name = some old ∧
    after.db.friends.get? name = some new ∧
    (∀ field ∉ about, (new.values P master).Agree (old.values P master) field) ∧
    (.ratchetState ∉ about → new.ratchetStateJson = old.ratchetStateJson)
  store : ∀ field ∉ about,
    (storeValues after.store name).Agree (storeValues before.store name) field
  others : ∀ other, other ≠ name →
    after.db.friends.get? other = before.db.friends.get? other ∧
      friendRecord after.store other = friendRecord before.store other

/-- What the update forgets to pass on is not there, and what it protects it protects with the
master password. -/
def PartialUpdate.Spares (master masterPassword : Bytes) (row : FriendRow) : PartialUpdate → Prop
  | .initRatchet _ | .resetRatchet =>
      (row.values P master).pqcKey = none ∧ (row.values P master).hybridSigKey = none
  | .importFriendHybridSigPub _ | .updateDelegatorPubKey _ =>
      (row.values P master).ecdhPriv = none ∧
        ((row.values P master).sharedSecret = none ∨ masterPassword = master)
  | .updateDelegatorX25519Key _ | .updateDelegatorPem _ | .updateDelegatorPqcKey _ =>
      (row.values P master).ecdhPriv = none ∧
        ((row.values P master).sharedSecret = none ∨ masterPassword = master) ∧
        ((row.values P master).hybridSigKey = none ∨ platform.hybridSigAvailable = true)

end Statements

section Resaved

variable {Priv Pub Pem : Type} {P : Primitives Priv Pub Pem} {platform : Platform}
variable {context : UpdateContext} {master masterPassword : Bytes} {name : String}
variable {session after middle : Session Priv Pub Pem} {old row : FriendRow} {pub : Pub}
variable {pqcCombinedPub : Option Bytes} {hybridSigPubs : Option (Bytes × Bytes)}
variable {update : FriendUpdate} {draws : Draws}

/-- What stands before the save has touched the friend's row at most. -/
structure RowTouched (name : String) (before after : Session Priv Pub Pem) : Prop where
  store : after.store = before.store
  secrets : after.db.secrets = before.db.secrets
  others : ∀ other, other ≠ name →
    after.db.friends.get? other = before.db.friends.get? other

/-- A save touches only some fields where what is saved agrees with the old row in the others. -/
theorem touchesOnly_iff (lawful : P.Lawful) {about : List FriendField}
    (loggedIn : LoggedIn P platform master name old session)
    (touched : RowTouched name session middle)
    (saved : Saved P platform name update masterPassword draws middle after row pub pqcCombinedPub
      hybridSigPubs) :
    TouchesOnly P master about name session after ↔
      (∀ field ∉ about, (update.values P (decide (masterPassword = master))).Agree
        (old.values P master) field) ∧
      (∀ field ∉ about, ((update.values P true).held platform).Agree
        ((old.values P master).held platform) field) ∧
      (.ratchetState ∉ about → (middle.db.friends.get? name).bind FriendRow.ratchetStateJson =
        old.ratchetStateJson) := by
  have written := values_savedRow lawful saved.made master
  have ratchet := ratchetState_savedRow saved.made
  constructor
  · intro only
    obtain ⟨first, second, found, stored, fields, state⟩ := only.row
    rw [loggedIn.stored] at found
    rw [saved.stored] at stored
    cases found
    cases stored
    refine ⟨fun field other => ?_, fun field other => ?_, fun other => ?_⟩
    · rw [← written]
      exact fields field other
    · rw [← saved.storeValues, ← loggedIn.held]
      exact only.store field other
    · rw [← ratchet]
      exact state other
  · rintro ⟨rows, stores, state⟩
    refine ⟨⟨old, row, loggedIn.stored, saved.stored, fun field other => ?_, fun other => ?_⟩,
      fun field other => ?_, fun other apart => ?_⟩
    · rw [written]
      exact rows field other
    · rw [ratchet]
      exact state other
    · rw [saved.storeValues, loggedIn.held]
      exact stores field other
    · obtain ⟨sameRow, sameRecord⟩ := saved.others apart
      rw [touched.store] at sameRecord
      exact ⟨sameRow.trans (touched.others other apart), sameRecord⟩

/-- What the store holds of the friend, field by field, is what the row says. -/
theorem LoggedIn.fields (lawful : P.Lawful)
    (loggedIn : LoggedIn P platform master name old session) :
    (∀ pem, currentPem P session.store name = some pem →
      (P.pemToPubkey pem).toOption = (old.values P master).publicKey) ∧
    nonemptyBytes (getFriendSecret session.store name) = (old.values P master).sharedSecret ∧
    nonempty (session.store.friendsX25519.get? name) = (old.values P master).x25519 ∧
    session.store.friendsEcdhPriv.get? name = (old.values P master).ecdhPriv ∧
    capabilityOf (session.store.friendsCapabilities.get? name) =
      (old.values P master).capability ∧
    nonemptyBytes (session.store.friendsPqcCombinedPub.get? name) =
      (old.values P master).pqcKey ∧
    session.store.friendsHybridSigPubs.get? name =
      ((old.values P master).held platform).hybridSigKey := by
  have held := loggedIn.held
  refine ⟨fun pem written => ?_, ?_, congrArg FriendValues.x25519 held,
    congrArg FriendValues.ecdhPriv held, congrArg FriendValues.capability held,
    congrArg FriendValues.pqcKey held, congrArg FriendValues.hybridSigKey held⟩
  · have same : (session.store.friends.lookup name).map Prod.fst = _ :=
      congrArg FriendValues.publicKey held
    rw [currentPem, friendEntry_eq_lookup] at written
    obtain ⟨entry, listed, rfl⟩ := Option.map_eq_some_iff.mp written
    rw [listed] at same
    rw [lawful.pubkey_round]
    exact same
  · rw [getFriendSecret, friendEntry_eq_lookup]
    exact congrArg FriendValues.sharedSecret held

/-- After a load, the store says of every friend what his row says. -/
theorem loggedIn_of_load (lawful : P.Lawful) (sound : Sound P session.db) {now : Rat}
    {draws : LoadDraws}
    (loaded : (load P platform master now draws).run session = (.ok true, after))
    (found : session.db.friends.get? name = some old) :
    LoggedIn P platform master name old after := by
  obtain ⟨read, reads, store⟩ := load_reads loaded
  obtain ⟨friend, readRow, record⟩ := friendRecord_reloaded reads after.store found
  rw [← store] at record
  obtain ⟨readings, _, opened, _, rfl⟩ := (load_true_iff lawful sound).mp loaded
  obtain ⟨wrapper, stored⟩ := Option.isSome_iff_exists.mp sound.globalSecret
  obtain ⟨plain, password, entropy, _, rfl⟩ := sound.secrets _ wrapper stored
  have readable := opened.globalSecret
  rw [stored, unwrapColumn, unwrap_wrap lawful] at readable
  have own : master = password := by
    by_contra apart
    rw [if_neg apart] at readable
    cases readable
  refine ⟨⟨plain, entropy, ?_⟩, ?_, storeValues_loaded readRow record⟩
  · rw [loadedRows_secrets _ _ _ _ (by decide), stored, own]
  · rw [loadedRows_friends, found]

theorem lookup_setCapability {key other : String} (apart : other ≠ key) (caps : Capabilities) :
    (setCapability key caps).lookup other = caps.lookup other := by
  induction caps with
  | nil => rw [setCapability, List.lookup_cons, beq_eq_false_iff_ne.mpr apart]
  | cons entry rest ih =>
      rw [setCapability]
      split
      · rename_i same
        have differ : other ≠ entry.1 := by
          rw [same]
          exact apart
        rw [List.lookup_cons, List.lookup_cons, beq_eq_false_iff_ne.mpr apart,
          beq_eq_false_iff_ne.mpr differ]
      · rw [List.lookup_cons, List.lookup_cons, ih]

theorem lookup_popCapability {key other : String} (apart : other ≠ key) (caps : Capabilities) :
    (popCapability key caps).lookup other = caps.lookup other := by
  unfold popCapability
  induction caps with
  | nil => rfl
  | cons entry rest ih =>
      by_cases popped : entry.1 = key
      · have gone : ¬ decide (entry.1 ≠ key) = true := by
          rw [decide_eq_true_eq, not_not]
          exact popped
        have differ : other ≠ entry.1 := by
          rw [popped]
          exact apart
        rw [List.filter_cons, if_neg gone, ih, List.lookup_cons, beq_eq_false_iff_ne.mpr differ]
      · rw [List.filter_cons, if_pos (decide_eq_true popped), List.lookup_cons, List.lookup_cons, ih]

theorem updateRow_others (name : String) (change : FriendRow → FriendRow) (db : Database Pem)
    {other : String} (apart : other ≠ name) :
    (updateRow name change db).friends.get? other = db.friends.get? other := by
  unfold updateRow
  split
  · rfl
  · exact Dict.get?_set_of_ne _ _ apart

theorem updateRow_secrets (name : String) (change : FriendRow → FriendRow) (db : Database Pem) :
    (updateRow name change db).secrets = db.secrets := by
  unfold updateRow
  split <;> rfl

theorem RowTouched.refl (name : String) (session : Session Priv Pub Pem) :
    RowTouched name session session := ⟨rfl, rfl, fun _ _ => rfl⟩

theorem RowTouched.updateRow {change : FriendRow → FriendRow} {value : Unit}
    (touched : RowTouched name session middle)
    (ran : (onDatabase (updateRow name change)).run middle = (.ok value, after)) :
    RowTouched name session after := by
  have same := Call.run_modify_ok_iff.mp ran
  rw [same]
  exact ⟨touched.store, (updateRow_secrets name change middle.db).trans touched.secrets,
    fun other apart =>
      (updateRow_others name change middle.db apart).trans (touched.others other apart)⟩

theorem saveVerified_ok {value : Unit}
    (ran : (saveVerified P platform context name update masterPassword).run session =
      (.ok value, after)) :
    verifyMasterPassword P context.guard masterPassword session = .ok true ∧
      (saveFriend P platform name update masterPassword context.draws).run session =
        (.ok (), after) := by
  rw [saveVerified, Call.run_read_bind] at ran
  obtain ⟨valid, verified, ran⟩ := Call.ok_of_run_lift_bind ran
  cases valid with
  | false => cases ran
  | true => exact ⟨verified, onStore_run_ok_iff.mp ran⟩

theorem ratchetInputs_ok {store : KeyStore Priv Pub} {secret peerDhPub : Bytes} {xB64 : String}
    (given : ratchetInputs store name = .ok (secret, xB64, peerDhPub)) :
    friendExists store name = true ∧
      nonemptyBytes (getFriendSecret store name) = some secret ∧
      nonempty (store.friendsX25519.get? name) = some xB64 := by
  unfold ratchetInputs at given
  split at given
  · cases given
  rename_i there
  rw [Bool.not_eq_true, Bool.not_eq_false'] at there
  split at given
  · cases given
  rename_i found shared
  split at given
  · cases given
  rename_i text x25519
  split at given
  · cases given
  · cases given
    exact ⟨there, shared, x25519⟩

theorem friendExists_eq_isSome (store : KeyStore Priv Pub) (name : String) :
    friendExists store name = (friendEntry store name).isSome := by
  rw [friendEntry, Option.isSome_map, Bool.eq_iff_iff, List.find?_isSome, friendExists,
    List.any_eq_true]

/-- The key of a friend that exists is written as a text. -/
theorem nonempty_currentPem (there : friendExists session.store name = true)
    (pemText : ∀ pub, (friendEntry session.store name).map Prod.fst = some pub →
      P.pubkeyToPem pub ≠ "") :
    ∃ pem, nonempty (currentPem P session.store name) = some pem ∧
      currentPem P session.store name = some pem := by
  rw [friendExists_eq_isSome] at there
  obtain ⟨entry, listed⟩ := Option.isSome_iff_exists.mp there
  have written : currentPem P session.store name = some (P.pubkeyToPem entry.1) := by
    rw [currentPem, listed]
    rfl
  have text := pemText entry.1 (by rw [listed]; rfl)
  refine ⟨P.pubkeyToPem entry.1, ?_, written⟩
  rw [written]
  exact if_neg (fun blank => text (String.isEmpty_iff.mp blank))

/-- What `init_ratchet` saves, once it succeeds. -/
theorem initRatchet_ok {role : String} {value : Unit}
    (pemText : ∀ pub, (friendEntry session.store name).map Prod.fst = some pub →
      P.pubkeyToPem pub ≠ "")
    (ran : (initRatchet P platform context name role masterPassword).run session =
      (.ok value, after)) :
    ∃ pem secret xB64 middle, RowTouched name session middle ∧
      currentPem P session.store name = some pem ∧
      nonemptyBytes (getFriendSecret session.store name) = some secret ∧
      nonempty (session.store.friendsX25519.get? name) = some xB64 ∧
      verifyMasterPassword P context.guard masterPassword middle = .ok true ∧
      (saveFriend P platform name
        { pem
          sharedSecret := some secret
          x25519PubB64 := some xB64
          capabilities := some (setCapability doubleRatchet
            ((session.store.friendsCapabilities.get? name).getD []))
          pqcCombinedPubB64 := none
          hybridSigPubB64 := none
          ecdhPrivBytes := session.store.friendsEcdhPriv.get? name } masterPassword
        context.draws).run middle = (.ok (), after) := by
  rw [initRatchet, Call.run_read_bind] at ran
  dsimp only at ran
  obtain ⟨⟨secret, xB64, peer⟩, given, ran⟩ := Call.ok_of_run_lift_bind ran
  obtain ⟨state, _, ran⟩ := Call.ok_of_run_lift_bind ran
  obtain ⟨_, first, stored, ran⟩ := Call.ok_of_run_bind ran
  obtain ⟨_, second, ensured, ran⟩ := Call.ok_of_run_bind ran
  have one := (RowTouched.refl name session).updateRow stored
  have two := one.updateRow ensured
  obtain ⟨there, shared, x25519⟩ := ratchetInputs_ok given
  obtain ⟨pem, text, written⟩ := nonempty_currentPem there pemText
  dsimp only at ran
  rw [text] at ran
  obtain ⟨verified, saved⟩ := saveVerified_ok ran
  exact ⟨pem, secret, xB64, second, two, written, shared, x25519, verified, saved⟩

/-- What `reset_ratchet` saves, once it succeeds. -/
theorem resetRatchet_ok {deleted : Bool}
    (pemText : ∀ pub, (friendEntry session.store name).map Prod.fst = some pub →
      P.pubkeyToPem pub ≠ "")
    (ran : (resetRatchet P platform context name masterPassword).run session =
      (.ok deleted, after)) :
    ∃ pem middle, RowTouched name session middle ∧
      currentPem P session.store name = some pem ∧
      verifyMasterPassword P context.guard masterPassword middle = .ok true ∧
      (saveFriend P platform name
        { pem
          sharedSecret := getFriendSecret session.store name
          x25519PubB64 := session.store.friendsX25519.get? name
          capabilities := nonemptyCapabilities (some (popCapability doubleRatchet
            ((session.store.friendsCapabilities.get? name).getD [])))
          pqcCombinedPubB64 := none
          hybridSigPubB64 := none
          ecdhPrivBytes := session.store.friendsEcdhPriv.get? name } masterPassword
        context.draws).run middle = (.ok (), after) := by
  rw [resetRatchet, Call.run_read_bind] at ran
  dsimp only at ran
  split at ran
  · cases ran
  rename_i there
  rw [Bool.not_eq_true, Bool.not_eq_false'] at there
  obtain ⟨pem, text, written⟩ := nonempty_currentPem there pemText
  obtain ⟨_, middle, erased, ran⟩ := Call.ok_of_run_bind ran
  rw [text] at ran
  dsimp only at ran
  split at ran
  · cases ran
  obtain ⟨_, last, ran, returned⟩ := Call.ok_of_run_bind ran
  obtain ⟨_, same⟩ := Call.run_pure_ok_iff.mp returned
  rw [← same] at ran
  rw [deleteRatchet, Call.run_read_bind] at erased
  obtain ⟨_, _, stored, returned⟩ := Call.ok_of_run_bind erased
  obtain ⟨_, same⟩ := Call.run_pure_ok_iff.mp returned
  rw [← same] at stored
  have touched := (RowTouched.refl name session).updateRow stored
  obtain ⟨verified, saved⟩ := saveVerified_ok ran
  exact ⟨pem, middle, touched, written, verified, saved⟩

/-- What `import_friend_hybrid_sig_pub` saves, once it succeeds. -/
theorem importFriendHybridSigPub_ok {combinedPubB64 : String} {value : Unit}
    (ran : (importFriendHybridSigPub P platform context name combinedPubB64 masterPassword).run
      session = (.ok value, after)) :
    ∃ pem, currentPem P session.store name = some pem ∧
      (saveFriend P platform name
        { pem
          sharedSecret := getFriendSecret session.store name
          x25519PubB64 := session.store.friendsX25519.get? name
          capabilities := nonemptyCapabilities (session.store.friendsCapabilities.get? name)
          pqcCombinedPubB64 := pqcPubB64 session.store name
          hybridSigPubB64 := some combinedPubB64
          ecdhPrivBytes := none } masterPassword context.draws).run session = (.ok (), after) := by
  rw [importFriendHybridSigPub, Call.run_read_bind] at ran
  dsimp only at ran
  split at ran
  · cases ran
  split at ran
  · cases ran
  split at ran
  · cases ran
  split at ran
  · cases ran
  · cases ran
  rename_i pem _ written
  split at ran
  · cases ran
  exact ⟨pem, written, onStore_run_ok_iff.mp ran⟩

/-- What a delegated update saves, once it succeeds. -/
theorem updateDelegator_ok {check : Except ServiceRaised Unit}
    {overrides : FriendUpdate → FriendUpdate} {value : Unit}
    (stored : session.db.friends.get? name = some old)
    (ran : (updateDelegator P platform context name masterPassword check overrides).run session =
      (.ok value, after)) :
    ∃ hybridB64, hybridSigPubB64 session.store name = .ok hybridB64 ∧
      (saveFriend P platform name
        (overrides
          { pem := old.publicKeyPem
            sharedSecret := getFriendSecret session.store name
            x25519PubB64 := old.x25519PublicKeyB64
            capabilities := old.capabilitiesJson
            pqcCombinedPubB64 := old.pqcCombinedPubB64
            hybridSigPubB64 := hybridB64
            ecdhPrivBytes := none }) masterPassword context.draws).run session =
        (.ok (), after) := by
  rw [updateDelegator] at ran
  obtain ⟨_, _, ran⟩ := Call.ok_of_run_lift_bind ran
  obtain ⟨_, _, ran⟩ := Call.ok_of_run_lift_bind ran
  rw [delegatedSave, Call.run_read_bind, stored] at ran
  dsimp only at ran
  split at ran
  · cases ran
  rename_i hybridB64 packed
  exact ⟨hybridB64, packed, onStore_run_ok_iff.mp ran⟩

end Resaved

section Values

variable {Priv Pub Pem : Type} {P : Primitives Priv Pub Pem} {platform : Platform}
variable {context : UpdateContext} {master masterPassword : Bytes} {name : String}
variable {session after : Session Priv Pub Pem} {old : FriendRow}
variable {values first second : FriendValues Pub} {about : List FriendField}

theorem agree_congr {field : FriendField} (same : first.Agree second field) :
    first.Agree values field ↔ second.Agree values field := by
  cases field <;> simp only [FriendValues.Agree] at same ⊢ <;> rw [same]

/-- What a save without an ECDH key passes on: the secret under a password that may be the wrong
one, and signing keys put together again. -/
def resupplied (values : FriendValues Pub) (readable : Bool)
    (hybridSigKey : Option (Bytes × Bytes)) : FriendValues Pub :=
  { values with
    sharedSecret := if readable then values.sharedSecret else none
    ecdhPriv := none
    hybridSigKey }

theorem resupplied_agrees_iff {readable : Bool} {hybridSigKey : Option (Bytes × Bytes)}
    (secret : .sharedSecret ∉ about) (ecdh : .ecdhPriv ∉ about) :
    (∀ field ∉ about, (resupplied values readable hybridSigKey).Agree values field) ↔
      values.ecdhPriv = none ∧ (values.sharedSecret = none ∨ readable = true) ∧
        (.hybridSigKey ∉ about → hybridSigKey = values.hybridSigKey) := by
  constructor
  · intro agree
    refine ⟨(agree .ecdhPriv ecdh).symm, ?_, agree .hybridSigKey⟩
    have kept : (if readable = true then values.sharedSecret else none) = values.sharedSecret :=
      agree .sharedSecret secret
    cases readable with
    | true => exact .inr rfl
    | false => exact .inl kept.symm
  · rintro ⟨noEcdh, protectedOrNone, hybrid⟩ field other
    cases field with
    | ecdhPriv => exact noEcdh.symm
    | hybridSigKey => exact hybrid other
    | sharedSecret =>
        show (if readable = true then values.sharedSecret else none) = values.sharedSecret
        rcases protectedOrNone with none | readable
        · rw [none, ite_self]
        · rw [if_pos readable]
    | publicKey | x25519 | capability | pqcKey => rfl
    | ratchetState => trivial

/-- What a save of a friend without his PQC and signing keys passes on. -/
def withoutCombinedKeys (values : FriendValues Pub) (capability : String → Option Bool) :
    FriendValues Pub :=
  { values with capability, pqcKey := none, hybridSigKey := none }

theorem withoutCombinedKeys_agrees_iff {capability : String → Option Bool}
    (pqc : .pqcKey ∉ about) (hybrid : .hybridSigKey ∉ about)
    (flags : ∀ key, .capability key ∉ about → capability key = values.capability key) :
    (∀ field ∉ about, (withoutCombinedKeys values capability).Agree values field) ↔
      values.pqcKey = none ∧ values.hybridSigKey = none := by
  constructor
  · intro agree
    exact ⟨(agree .pqcKey pqc).symm, (agree .hybridSigKey hybrid).symm⟩
  · rintro ⟨noPqc, noHybrid⟩ field other
    cases field with
    | pqcKey => exact noPqc.symm
    | hybridSigKey => exact noHybrid.symm
    | capability key => exact flags key other
    | publicKey | sharedSecret | x25519 | ecdhPriv => rfl
    | ratchetState => trivial

theorem held_withoutCombinedKeys (values : FriendValues Pub) (capability : String → Option Bool) :
    (withoutCombinedKeys values capability).held platform =
      withoutCombinedKeys (values.held platform) capability := by
  simp only [FriendValues.held, withoutCombinedKeys, ite_self]

/-- A save without the combined keys, under the master password. -/
theorem touchesOnly_withoutCombinedKeys_iff (lawful : P.Lawful) {middle : Session Priv Pub Pem}
    (loggedIn : LoggedIn P platform master name old session)
    (touched : RowTouched name session middle) {update : FriendUpdate} {draws : Draws}
    {capability : String → Option Bool}
    (saved : (saveFriend P platform name update master draws).run middle = (.ok (), after))
    (same : update.values P true = withoutCombinedKeys (old.values P master) capability)
    (flags : ∀ key, key ≠ doubleRatchet →
      capability key = (old.values P master).capability key) :
    TouchesOnly P master [.ratchetState, .capability doubleRatchet] name session after ↔
      (old.values P master).pqcKey = none ∧ (old.values P master).hybridSigKey = none := by
  obtain ⟨row, pub, pqcCombinedPub, hybridSigPubs, saved⟩ := saved_of_ok saved
  have other : ∀ key, FriendField.capability key ∉
      [FriendField.ratchetState, .capability doubleRatchet] → key ≠ doubleRatchet := by
    rintro key outside rfl
    exact outside (List.mem_cons_of_mem _ List.mem_cons_self)
  have heldFlags : ∀ key, key ≠ doubleRatchet →
      capability key = ((old.values P master).held platform).capability key := flags
  have readable : decide (master = master) = true := decide_eq_true rfl
  rw [touchesOnly_iff lawful loggedIn touched saved, readable, same, held_withoutCombinedKeys,
    withoutCombinedKeys_agrees_iff (by decide) (by decide) (fun key outside =>
      flags key (other key outside)),
    withoutCombinedKeys_agrees_iff (by decide) (by decide) (fun key outside =>
      heldFlags key (other key outside))]
  constructor
  · exact fun agree => agree.1
  · rintro ⟨noPqc, noHybrid⟩
    refine ⟨⟨noPqc, noHybrid⟩, ⟨noPqc, ?_⟩, fun outside => absurd List.mem_cons_self outside⟩
    show (if platform.hybridSigAvailable = true then (old.values P master).hybridSigKey else none) =
      none
    rw [noHybrid, ite_self]

/-- A save without the ECDH key, with other fields than the named ones as they were. -/
theorem touchesOnly_resupplied_iff (lawful : P.Lawful)
    (loggedIn : LoggedIn P platform master name old session) {update : FriendUpdate} {draws : Draws}
    {hybridSigKey : Option (Bytes × Bytes)}
    (saved : (saveFriend P platform name update masterPassword draws).run session = (.ok (), after))
    (same : ∀ readable, ∀ field ∉ about, (update.values P readable).Agree
      (resupplied (old.values P master) readable hybridSigKey) field)
    (secret : .sharedSecret ∉ about) (ecdh : .ecdhPriv ∉ about) :
    TouchesOnly P master about name session after ↔
      (old.values P master).ecdhPriv = none ∧
        ((old.values P master).sharedSecret = none ∨ masterPassword = master) ∧
        (.hybridSigKey ∉ about → hybridSigKey = (old.values P master).hybridSigKey) := by
  obtain ⟨row, pub, pqcCombinedPub, hybridSigPubs, saved⟩ := saved_of_ok saved
  have untouched := RowTouched.refl name session
  have heldSame : ∀ field ∉ about, ((update.values P true).held platform).Agree
      (resupplied ((old.values P master).held platform) true
        (if platform.hybridSigAvailable then hybridSigKey else none)) field := by
    intro field outside
    have agree := same true field outside
    cases field with
    | hybridSigKey =>
        have key : (update.values P true).hybridSigKey = hybridSigKey := agree
        show (if platform.hybridSigAvailable = true then (update.values P true).hybridSigKey
          else none) = _
        rw [key]
        rfl
    | publicKey | sharedSecret | x25519 | ecdhPriv | capability | pqcKey => exact agree
    | ratchetState => trivial
  rw [touchesOnly_iff lawful loggedIn untouched saved,
    forall₂_congr fun field outside => agree_congr (same _ field outside),
    forall₂_congr fun field outside => agree_congr (heldSame field outside),
    resupplied_agrees_iff secret ecdh, resupplied_agrees_iff secret ecdh, decide_eq_true_eq]
  constructor
  · exact fun agree => agree.1
  · rintro ⟨noEcdh, kept, hybrid⟩
    refine ⟨⟨noEcdh, kept, hybrid⟩, ⟨noEcdh, .inr rfl, fun outside => ?_⟩, fun _ => ?_⟩
    · rw [hybrid outside]
      rfl
    · rw [loggedIn.stored]
      rfl

/-- A save that passes on what the store holds, but for the combined keys, says what the row said. -/
theorem values_withoutCombinedKeys (lawful : P.Lawful)
    (loggedIn : LoggedIn P platform master name old session) {update : FriendUpdate}
    (pem : currentPem P session.store name = some update.pem)
    (secret : nonemptyBytes update.sharedSecret =
      nonemptyBytes (getFriendSecret session.store name))
    (x25519 : nonempty update.x25519PubB64 = nonempty (session.store.friendsX25519.get? name))
    (ecdh : update.ecdhPrivBytes = session.store.friendsEcdhPriv.get? name)
    (pqc : update.pqcCombinedPubB64 = none) (hybrid : update.hybridSigPubB64 = none) :
    update.values P true =
      withoutCombinedKeys (old.values P master) (capabilityOf update.capabilities) := by
  obtain ⟨publicKey, sharedSecret, x25519Key, ecdhPriv, _⟩ := loggedIn.fields lawful
  rw [sharedSecret] at secret
  rw [x25519Key] at x25519
  rw [ecdhPriv] at ecdh
  simp only [FriendUpdate.values, withoutCombinedKeys, publicKey _ pem, if_true, secret, x25519, ecdh,
    pqc, hybrid]
  rfl

/-- The flags that a change of one capability leaves alone. -/
theorem capabilityOf_changed (lawful : P.Lawful)
    (loggedIn : LoggedIn P platform master name old session) {change : Capabilities → Capabilities}
    (frame : ∀ key caps, key ≠ doubleRatchet → (change caps).lookup key = caps.lookup key)
    {key : String} (apart : key ≠ doubleRatchet) :
    capabilityOf (some (change ((session.store.friendsCapabilities.get? name).getD []))) key =
      (old.values P master).capability key := by
  obtain ⟨_, _, _, _, capability, _⟩ := loggedIn.fields lawful
  rw [← capability]
  exact frame key _ apart

theorem initRatchet_touches_only_iff (lawful : P.Lawful)
    (loggedIn : LoggedIn P platform master name old session)
    (pemText : ∀ pub, (friendEntry session.store name).map Prod.fst = some pub →
      P.pubkeyToPem pub ≠ "") {role : String}
    (ran : (initRatchet P platform context name role masterPassword).run session = (.ok (), after)) :
    TouchesOnly P master [.ratchetState, .capability doubleRatchet] name session after ↔
      (old.values P master).pqcKey = none ∧ (old.values P master).hybridSigKey = none := by
  obtain ⟨pem, secret, xB64, middle, touched, written, shared, x25519, verified, saved⟩ :=
    initRatchet_ok pemText ran
  obtain ⟨plain, entropy, wrapped⟩ := loggedIn.globalSecret
  rw [← touched.secrets] at wrapped
  have same := master_of_verified lawful wrapped verified
  rw [same] at saved
  refine touchesOnly_withoutCombinedKeys_iff lawful loggedIn touched saved
    (values_withoutCombinedKeys lawful loggedIn written ?_ ?_ rfl rfl rfl) fun key apart =>
      capabilityOf_changed lawful loggedIn (fun _ _ apart => lookup_setCapability apart _) apart
  · rw [← shared, nonemptyBytes_nonemptyBytes]
  · rw [← x25519, nonempty_nonempty]

theorem resetRatchet_touches_only_iff (lawful : P.Lawful)
    (loggedIn : LoggedIn P platform master name old session)
    (pemText : ∀ pub, (friendEntry session.store name).map Prod.fst = some pub →
      P.pubkeyToPem pub ≠ "") {deleted : Bool}
    (ran : (resetRatchet P platform context name masterPassword).run session =
      (.ok deleted, after)) :
    TouchesOnly P master [.ratchetState, .capability doubleRatchet] name session after ↔
      (old.values P master).pqcKey = none ∧ (old.values P master).hybridSigKey = none := by
  obtain ⟨pem, middle, touched, written, verified, saved⟩ := resetRatchet_ok pemText ran
  obtain ⟨plain, entropy, wrapped⟩ := loggedIn.globalSecret
  rw [← touched.secrets] at wrapped
  have same := master_of_verified lawful wrapped verified
  rw [same] at saved
  refine touchesOnly_withoutCombinedKeys_iff lawful loggedIn touched saved
    (values_withoutCombinedKeys lawful loggedIn written rfl rfl rfl rfl rfl) fun key apart => ?_
  rw [capabilityOf_nonempty]
  exact capabilityOf_changed lawful loggedIn (fun _ _ apart => lookup_popCapability apart _) apart

theorem pqcKeyOf_pqcPubB64 (store : KeyStore Priv Pub) (name : String) :
    pqcKeyOf (pqcPubB64 store name) = nonemptyBytes (store.friendsPqcCombinedPub.get? name) := by
  unfold pqcPubB64 pqcKeyOf
  cases store.friendsPqcCombinedPub.get? name with
  | none => rfl
  | some key =>
      rw [Option.map_some]
      by_cases blank : (b64encode key).isEmpty = true
      · have empty : b64encode key = "" := String.isEmpty_iff.mp blank
        have decoded := decodeBase64_b64encode key
        rw [empty] at decoded
        cases decoded
        rfl
      · have kept : nonempty (some (b64encode key)) = some (b64encode key) := if_neg blank
        rw [kept, Option.bind_some, decodeBase64_b64encode]
        rfl

theorem importFriendHybridSigPub_touches_only_iff (lawful : P.Lawful)
    (loggedIn : LoggedIn P platform master name old session) {combinedPubB64 : String}
    (ran : (importFriendHybridSigPub P platform context name combinedPubB64 masterPassword).run
      session = (.ok (), after)) :
    TouchesOnly P master [.hybridSigKey] name session after ↔
      (old.values P master).ecdhPriv = none ∧
        ((old.values P master).sharedSecret = none ∨ masterPassword = master) := by
  obtain ⟨pem, written, saved⟩ := importFriendHybridSigPub_ok ran
  obtain ⟨publicKey, sharedSecret, x25519, _, capability, pqc, _⟩ := loggedIn.fields lawful
  have same : ∀ readable, ∀ field ∉ [FriendField.hybridSigKey],
      (FriendUpdate.values P
        { pem
          sharedSecret := getFriendSecret session.store name
          x25519PubB64 := session.store.friendsX25519.get? name
          capabilities := nonemptyCapabilities (session.store.friendsCapabilities.get? name)
          pqcCombinedPubB64 := pqcPubB64 session.store name
          hybridSigPubB64 := some combinedPubB64
          ecdhPrivBytes := none } readable).Agree
        (resupplied (old.values P master) readable none) field := by
    intro readable field outside
    cases field with
    | publicKey => exact publicKey pem written
    | sharedSecret =>
        show (if readable = true then nonemptyBytes (getFriendSecret session.store name) else none) =
          if readable = true then (old.values P master).sharedSecret else none
        rw [sharedSecret]
    | x25519 => exact x25519
    | ecdhPriv => exact ite_self _
    | capability key =>
        show capabilityOf (nonemptyCapabilities _) key = (old.values P master).capability key
        rw [capabilityOf_nonempty, capability]
    | pqcKey => exact (pqcKeyOf_pqcPubB64 session.store name).trans pqc
    | hybridSigKey => exact absurd List.mem_cons_self outside
    | ratchetState => trivial
  rw [touchesOnly_resupplied_iff lawful loggedIn saved same (by decide) (by decide)]
  constructor
  · exact fun kept => ⟨kept.1, kept.2.1⟩
  · exact fun kept => ⟨kept.1, kept.2, fun outside => absurd List.mem_cons_self outside⟩

/-- The signing keys that a delegated update puts together again are those of the store. -/
theorem hybridSigKeyOf_hybridSigPubB64 {store : KeyStore Priv Pub} {packed : Option String}
    (given : hybridSigPubB64 store name = .ok packed) :
    hybridSigKeyOf packed = store.friendsHybridSigPubs.get? name := by
  cases packed with
  | none =>
      unfold hybridSigPubB64 at given
      split at given
      · rename_i missing
        rw [missing]
        rfl
      · rename_i keys _
        cases combined : packCombined keys <;> rw [combined] at given <;> cases given
  | some text =>
      obtain ⟨keys, found, parsed⟩ := parse_hybridSigPubB64 given
      rw [found]
      have written : ¬ text.isEmpty = true := by
        intro blank
        rw [String.isEmpty_iff.mp blank] at parsed
        cases parsed
      have kept : nonempty (some text) = some text := if_neg written
      rw [hybridSigKeyOf, kept, Option.bind_some, parsed]
      rfl

theorem ite_none_eq_iff {α : Type} {available : Bool} {value : Option α} :
    (if available then value else none) = value ↔ value = none ∨ available = true := by
  cases available with
  | true => exact ⟨fun _ => .inr rfl, fun _ => rfl⟩
  | false => exact ⟨fun none => .inl none.symm, fun given => (given.resolve_right nofun).symm⟩

/-- The delegated updates, whose overrides change one field of what is saved. -/
theorem updateDelegator_touches_only_iff (lawful : P.Lawful)
    (loggedIn : LoggedIn P platform master name old session) {check : Except ServiceRaised Unit}
    {overrides : FriendUpdate → FriendUpdate} (named : FriendField)
    (frame : ∀ base readable field, field ≠ named →
      ((overrides base).values P readable).Agree (base.values P readable) field)
    (secret : .sharedSecret ≠ named) (ecdh : .ecdhPriv ≠ named)
    (ran : (updateDelegator P platform context name masterPassword check overrides).run session =
      (.ok (), after)) :
    TouchesOnly P master [named] name session after ↔
      (old.values P master).ecdhPriv = none ∧
        ((old.values P master).sharedSecret = none ∨ masterPassword = master) ∧
        (.hybridSigKey ≠ named →
          (old.values P master).hybridSigKey = none ∨ platform.hybridSigAvailable = true) := by
  obtain ⟨hybridB64, packed, saved⟩ := updateDelegator_ok loggedIn.stored ran
  obtain ⟨_, sharedSecret, _, _, _, _, hybrid⟩ := loggedIn.fields lawful
  rw [← hybridSigKeyOf_hybridSigPubB64 packed] at hybrid
  have base : ∀ readable, FriendUpdate.values P
      { pem := old.publicKeyPem
        sharedSecret := getFriendSecret session.store name
        x25519PubB64 := old.x25519PublicKeyB64
        capabilities := old.capabilitiesJson
        pqcCombinedPubB64 := old.pqcCombinedPubB64
        hybridSigPubB64 := hybridB64
        ecdhPrivBytes := none } readable =
      resupplied (old.values P master) readable
        (if platform.hybridSigAvailable then (old.values P master).hybridSigKey else none) := by
    intro readable
    have signing : hybridSigKeyOf hybridB64 =
        if platform.hybridSigAvailable then (old.values P master).hybridSigKey else none := hybrid
    simp only [FriendUpdate.values, resupplied, sharedSecret, signing, ite_self]
    rfl
  have same : ∀ readable, ∀ field ∉ [named], _ := fun readable field outside =>
    base readable ▸ frame _ readable field (List.ne_of_not_mem_cons outside)
  rw [touchesOnly_resupplied_iff lawful loggedIn saved same
    (fun inside => secret (List.mem_singleton.mp inside))
    (fun inside => ecdh (List.mem_singleton.mp inside)), ite_none_eq_iff]
  simp only [List.mem_singleton, ne_eq]

/-- A partial update that succeeds touches only what it names where the friend has nothing that the
update forgets to pass on, and the password protects what it did before. -/
theorem partial_update_touches_only_iff (lawful : P.Lawful) {update : PartialUpdate}
    (loggedIn : LoggedIn P platform master name old session)
    (pemText : ∀ pub, (friendEntry session.store name).map Prod.fst = some pub →
      P.pubkeyToPem pub ≠ "")
    (ran : (update.perform P platform context name masterPassword).run session = (.ok (), after)) :
    TouchesOnly P master update.about name session after ↔
      update.Spares P platform master masterPassword old := by
  cases update with
  | initRatchet role => exact initRatchet_touches_only_iff lawful loggedIn pemText ran
  | resetRatchet =>
      obtain ⟨deleted, middle, reset, returned⟩ := Call.ok_of_run_bind ran
      obtain ⟨_, same⟩ := Call.run_pure_ok_iff.mp returned
      rw [← same] at reset
      exact resetRatchet_touches_only_iff lawful loggedIn pemText reset
  | importFriendHybridSigPub combinedPubB64 =>
      exact importFriendHybridSigPub_touches_only_iff lawful loggedIn ran
  | updateDelegatorPubKey new =>
      have only := updateDelegator_touches_only_iff lawful loggedIn .hybridSigKey
        (fun _ _ field other => by cases field <;> first | exact absurd rfl other | trivial)
        nofun nofun ran
      refine only.trans ⟨fun kept => ⟨kept.1, kept.2.1⟩, fun kept => ⟨kept.1, kept.2, ?_⟩⟩
      exact fun other => absurd rfl other
  | updateDelegatorX25519Key new =>
      have only := updateDelegator_touches_only_iff lawful loggedIn .x25519
        (fun _ _ field other => by cases field <;> first | exact absurd rfl other | trivial)
        nofun nofun ran
      exact only.trans (and_congr_right' (and_congr_right' (forall_prop_of_true nofun)))
  | updateDelegatorPem new =>
      have only := updateDelegator_touches_only_iff lawful loggedIn .publicKey
        (fun _ _ field other => by cases field <;> first | exact absurd rfl other | trivial)
        nofun nofun ran
      exact only.trans (and_congr_right' (and_congr_right' (forall_prop_of_true nofun)))
  | updateDelegatorPqcKey new =>
      have only := updateDelegator_touches_only_iff lawful loggedIn .pqcKey
        (fun _ _ field other => by cases field <;> first | exact absurd rfl other | trivial)
        nofun nofun ran
      exact only.trans (and_congr_right' (and_congr_right' (forall_prop_of_true nofun)))

end Values

section Example

def toyContext : UpdateContext where
  guard := { lockout := {}, now := 1000, done := 1000 }
  draws := toyDraws
  delegations := []
  initRatchetAlice _ _ _ := .ok "alice's state"
  initRatchetBob _ _ _ := .ok "bob's state"

/-- `toyBefriended` after another login. -/
def toyReloaded : ToySession :=
  ((load toyLibraries toyPlatform [1] 0 toyLoadDraws).run ⟨{}, toyBefriended.db⟩).2

theorem toyReloaded_loggedIn : ∃ row, LoggedIn toyLibraries toyPlatform [1] "bob" row toyReloaded := by
  have listed : (toyBefriended.db.friends.get? "bob").isSome = true := by decide +kernel
  obtain ⟨row, found⟩ := Option.isSome_iff_exists.mp listed
  have loads : (load toyLibraries toyPlatform [1] 0 toyLoadDraws).run ⟨{}, toyBefriended.db⟩ =
      (.ok true, toyReloaded) := Prod.ext (by decide +kernel) rfl
  have sound : Sound toyLibraries toyBefriended.db := reachable_sound toyBefriended_reachable
  exact ⟨row, loggedIn_of_load toyLibraries_lawful (by exact sound) loads found⟩

/-- Bob has neither a PQC key nor signing keys, and a reset of his ratchet spares what he has. -/
theorem toyReloaded_reset : ∃ row,
    TouchesOnly toyLibraries [1] PartialUpdate.resetRatchet.about "bob" toyReloaded
        ((PartialUpdate.resetRatchet.perform toyLibraries toyPlatform toyContext "bob" [1]).run
          toyReloaded).2 ↔
      PartialUpdate.resetRatchet.Spares toyLibraries toyPlatform [1] [1] row := by
  obtain ⟨row, loggedIn⟩ := toyReloaded_loggedIn
  have named : (friendEntry toyReloaded.store "bob").map Prod.fst = some "bob's key" := by
    decide +kernel
  have ran : (PartialUpdate.resetRatchet.perform toyLibraries toyPlatform toyContext "bob" [1]).run
      toyReloaded = (.ok (), ((PartialUpdate.resetRatchet.perform toyLibraries toyPlatform toyContext
        "bob" [1]).run toyReloaded).2) := Prod.ext (by decide +kernel) rfl
  refine ⟨row, partial_update_touches_only_iff toyLibraries_lawful loggedIn ?_ ran⟩
  intro pub found
  rw [named] at found
  cases found
  decide

/-- The same friend with a PQC key. -/
def toyPqcFriend : ToySession :=
  (machine toyLibraries toyPlatform).run toyStarted
    [fun _ => .load [1] 0 toyLoadDraws,
     fun _ => .saveFriend "bob" { toyFriend with pqcCombinedPubB64 := some "AAAA" } [1] toyDraws]

/-- A reset of his ratchet takes his PQC key away. -/
theorem toyPqcFriend_reset :
    (machine toyLibraries toyPlatform).Reachable (fun _ _ => True) toyPqcFriend ∧
    ((PartialUpdate.resetRatchet.perform toyLibraries toyPlatform toyContext "bob" [1]).run
      toyPqcFriend).1 = .ok () ∧
    ¬ TouchesOnly toyLibraries [1] PartialUpdate.resetRatchet.about "bob" toyPqcFriend
      ((PartialUpdate.resetRatchet.perform toyLibraries toyPlatform toyContext "bob" [1]).run
        toyPqcFriend).2 := by
  refine ⟨.run (.start toyStarted_start) ⟨trivial, trivial, trivial, trivial, trivial⟩,
    by decide +kernel, fun only => ?_⟩
  have before : nonemptyBytes (toyPqcFriend.store.friendsPqcCombinedPub.get? "bob") =
      some [0, 0, 0] := by decide +kernel
  have lost : nonemptyBytes (((PartialUpdate.resetRatchet.perform toyLibraries toyPlatform toyContext
      "bob" [1]).run toyPqcFriend).2.store.friendsPqcCombinedPub.get? "bob") = none := by
    decide +kernel
  have kept := only.store .pqcKey (by decide)
  rw [FriendValues.Agree, storeValues, storeValues] at kept
  dsimp only at kept
  rw [before, lost] at kept
  cases kept

end Example

end UltimateEnigma.Friends
