import UltimateEnigma.SavedFriends

set_option autoImplicit false

namespace UltimateEnigma.KeyStore

open Py

/-- What a friend's record says, wherever it stands. No key and an empty one are the same. -/
structure FriendValues (Pub : Type) where
  publicKey : Option Pub
  sharedSecret : Option Bytes
  x25519 : Option String
  ecdhPriv : Option Bytes
  capability : String → Option Bool
  pqcKey : Option Bytes
  hybridSigKey : Option (Bytes × Bytes)

/-- The fields of a friend's record; each capability is one. -/
inductive FriendField where
  | publicKey
  | sharedSecret
  | x25519
  | ecdhPriv
  | capability (key : String)
  | ratchetState
  | pqcKey
  | hybridSigKey
deriving DecidableEq, Repr

/-- Two records say the same in a field. The ratchet state stands in the row only. -/
def FriendValues.Agree {Pub : Type} (first second : FriendValues Pub) : FriendField → Prop
  | .publicKey => first.publicKey = second.publicKey
  | .sharedSecret => first.sharedSecret = second.sharedSecret
  | .x25519 => first.x25519 = second.x25519
  | .ecdhPriv => first.ecdhPriv = second.ecdhPriv
  | .capability key => first.capability key = second.capability key
  | .ratchetState => True
  | .pqcKey => first.pqcKey = second.pqcKey
  | .hybridSigKey => first.hybridSigKey = second.hybridSigKey

section Values

variable {Priv Pub Pem : Type} (P : Primitives Priv Pub Pem) (platform : Platform)

def pqcKeyOf (column : Option String) : Option Bytes :=
  nonemptyBytes ((nonempty column).bind fun text => (decodeBase64 text).toOption)

def hybridSigKeyOf (column : Option String) : Option (Bytes × Bytes) :=
  (nonempty column).bind fun text => (decodeBase64 text >>= parseCombinedPub).toOption

def capabilityOf (capabilities : Option Capabilities) (key : String) : Option Bool :=
  (capabilities.getD []).lookup key

/-- What the row says to who knows the master password. -/
def FriendRow.values (master : Bytes) (row : FriendRow) : FriendValues Pub where
  publicKey := (P.pemToPubkey row.publicKeyPem).toOption
  sharedSecret := nonemptyBytes
    (row.sharedSecret.bind fun wrapper => (unwrap P wrapper master).toOption)
  x25519 := nonempty row.x25519PublicKeyB64
  ecdhPriv := row.ecdhPrivEncrypted.bind fun wrapper => (unwrap P wrapper master).toOption
  capability := capabilityOf row.capabilitiesJson
  pqcKey := pqcKeyOf row.pqcCombinedPubB64
  hybridSigKey := hybridSigKeyOf row.hybridSigPubB64

/-- What the store says of a friend. -/
def storeValues (store : KeyStore Priv Pub) (name : String) : FriendValues Pub where
  publicKey := (store.friends.lookup name).map Prod.fst
  sharedSecret := nonemptyBytes ((store.friends.lookup name).bind Prod.snd)
  x25519 := nonempty (store.friendsX25519.get? name)
  ecdhPriv := store.friendsEcdhPriv.get? name
  capability := capabilityOf (store.friendsCapabilities.get? name)
  pqcKey := nonemptyBytes (store.friendsPqcCombinedPub.get? name)
  hybridSigKey := store.friendsHybridSigPubs.get? name

/-- The store takes no notice of signing keys where hybrid signatures are not available. -/
def FriendValues.held (values : FriendValues Pub) : FriendValues Pub :=
  { values with
    hybridSigKey := if platform.hybridSigAvailable then values.hybridSigKey else none }

/-- What an update says, where its secrets can be read. -/
def FriendUpdate.values (update : FriendUpdate) (readable : Bool) : FriendValues Pub where
  publicKey := (P.pemToPubkey update.pem).toOption
  sharedSecret := if readable then nonemptyBytes update.sharedSecret else none
  x25519 := nonempty update.x25519PubB64
  ecdhPriv := if readable then update.ecdhPrivBytes else none
  capability := capabilityOf update.capabilities
  pqcKey := pqcKeyOf update.pqcCombinedPubB64
  hybridSigKey := hybridSigKeyOf update.hybridSigPubB64

variable {P platform} {name : String} {update : FriendUpdate} {password : Bytes} {draws : Draws}
variable {session after : Session Priv Pub Pem}

variable (P platform) in
/-- A save that succeeds wrote the row and parsed all of it. -/
structure Saved (name : String) (update : FriendUpdate) (password : Bytes) (draws : Draws)
    (session after : Session Priv Pub Pem) (row : FriendRow) (pub : Pub)
    (pqcCombinedPub : Option Bytes) (hybridSigPubs : Option (Bytes × Bytes)) : Prop where
  made : savedRow P name update password draws session.db = .ok row
  publicKey : P.pemToPubkey update.pem = .ok pub
  pqcKey : attemptColumn (nonempty update.pqcCombinedPubB64) decodeBase64 = .ok pqcCombinedPub
  signingKeys : update.signingKeys platform = .ok hybridSigPubs
  result : after = ⟨storeWithSigning name hybridSigPubs
    (storeWithKeys name update pub pqcCombinedPub session.store), session.db.replaceFriend name row⟩

theorem saved_of_ok
    (ran : (saveFriend P platform name update password draws).run session = (.ok (), after)) :
    ∃ row pub pqcCombinedPub hybridSigPubs, Saved P platform name update password draws session
      after row pub pqcCombinedPub hybridSigPubs := by
  cases made : savedRow P name update password draws session.db with
  | error raised =>
      rw [saveFriend_run_unwrapped made] at ran
      cases ran
  | ok row =>
      obtain ⟨pqcCombinedPub, decoded, run⟩ := saveFriend_run platform made
      rw [run] at ran
      cases publicKey : P.pemToPubkey update.pem with
      | error raised =>
          rw [publicKey] at ran
          cases ran
      | ok pub =>
          rw [publicKey] at ran
          dsimp only at ran
          cases signing : update.signingKeys platform with
          | error raised =>
              rw [signing] at ran
              cases ran
          | ok hybridSigPubs =>
              rw [signing] at ran
              cases ran
              exact ⟨row, pub, pqcCombinedPub, hybridSigPubs, made, publicKey, decoded, signing,
                rfl⟩

theorem capabilityOf_nonempty (capabilities : Option Capabilities) (key : String) :
    capabilityOf (nonemptyCapabilities capabilities) key = capabilityOf capabilities key := by
  match capabilities with
  | none => rfl
  | some [] => rfl
  | some (_ :: _) => rfl

theorem nonempty_nonempty (column : Option String) : nonempty (nonempty column) = nonempty column := by
  cases column with
  | none => rfl
  | some text =>
      by_cases blank : text.isEmpty = true
      · have gone : nonempty (some text) = none := if_pos blank
        rw [gone]
        rfl
      · have kept : nonempty (some text) = some text := if_neg blank
        rw [kept, kept]

theorem nonemptyBytes_nonemptyBytes (bytes : Option Bytes) :
    nonemptyBytes (nonemptyBytes bytes) = nonemptyBytes bytes := by
  match bytes with
  | none => rfl
  | some [] => rfl
  | some (_ :: _) => rfl

/-- A wrapped column opens with its own password only. -/
theorem opens_wrapColumn (lawful : P.Lawful) {entropy : Entropy} {plain : Option Bytes}
    {column : Option Wrapper} (made : wrapColumn P password entropy plain = .ok column)
    (master : Bytes) :
    (column.bind fun wrapper => (unwrap P wrapper master).toOption) =
      if password = master then plain else none := by
  cases plain with
  | none =>
      cases made
      rw [ite_self]
      rfl
  | some plain =>
      rw [wrapColumn] at made
      split at made
      · cases made
      cases made
      rw [Option.bind_some, unwrap_wrap lawful]
      by_cases same : master = password
      · rw [if_pos same, if_pos same.symm]
        rfl
      · rw [if_neg same, if_neg (fun eq => same eq.symm)]
        rfl

/-- What the row of an update says. -/
theorem values_savedRow (lawful : P.Lawful) {row : FriendRow}
    (made : savedRow P name update password draws session.db = .ok row) (master : Bytes) :
    row.values P master = update.values P (decide (password = master)) := by
  obtain ⟨secretColumn, secretMade, made⟩ := ok_of_bind made
  obtain ⟨ecdhColumn, ecdhMade, made⟩ := ok_of_bind made
  cases made
  have shared : (if secretColumn.isSome = true then secretColumn else none) = secretColumn := by
    cases secretColumn <;> rfl
  have secretOpens := opens_wrapColumn lawful secretMade master
  have ecdhOpens := opens_wrapColumn lawful ecdhMade master
  have capabilities : capabilityOf (nonemptyCapabilities update.capabilities) =
      capabilityOf update.capabilities := funext (capabilityOf_nonempty update.capabilities)
  simp only [FriendRow.values, FriendUpdate.values, FriendRow.sharedSecret, shared, secretOpens,
    ecdhOpens, capabilities, decide_eq_true_eq]
  congr 1
  split
  · exact nonemptyBytes_nonemptyBytes _
  · rfl

theorem ratchetState_savedRow {row : FriendRow}
    (made : savedRow P name update password draws session.db = .ok row) :
    row.ratchetStateJson = (session.db.friends.get? name).bind FriendRow.ratchetStateJson := by
  obtain ⟨_, _, made⟩ := ok_of_bind made
  obtain ⟨_, _, made⟩ := ok_of_bind made
  cases made
  rfl

theorem lookup_filter_append {α : Type} (friends : List (String × α)) (name other : String)
    (value : α) :
    (friends.filter (fun friend => friend.1 ≠ name) ++ [(name, value)]).lookup other =
      if other = name then some value else friends.lookup other := by
  induction friends with
  | nil =>
      by_cases same : other = name
      · rw [if_pos same, same]
        exact List.lookup_cons_self
      · simp only [List.filter_nil, List.nil_append, List.lookup_cons,
          beq_eq_false_iff_ne.mpr same, List.lookup_nil, if_neg same]
  | cons friend rest ih =>
      by_cases dropped : friend.1 = name
      · have gone : ¬ decide (friend.1 ≠ name) = true := by
          rw [decide_eq_true_eq, not_not]
          exact dropped
        rw [List.filter_cons, if_neg gone, ih]
        by_cases same : other = name
        · rw [if_pos same, if_pos same]
        · rw [if_neg same, if_neg same, List.lookup_cons, dropped,
            beq_eq_false_iff_ne.mpr same]
      · rw [List.filter_cons, if_pos (decide_eq_true dropped), List.cons_append, List.lookup_cons,
          List.lookup_cons, ih]
        by_cases here : other = friend.1
        · have apart : other ≠ name := by
            rw [here]
            exact dropped
          rw [beq_iff_eq.mpr here, if_neg apart, if_neg apart]
        · rw [beq_eq_false_iff_ne.mpr here]

section Written

variable {row : FriendRow} {pub : Pub} {pqcCombinedPub : Option Bytes}
variable {hybridSigPubs : Option (Bytes × Bytes)}

theorem toOption_attemptColumn {α β : Type} {column : Option α} {reading : α → Except Raised β}
    {value : Option β} (read : attemptColumn column reading = .ok value) :
    (column.bind fun text => (reading text).toOption) = value := by
  cases column with
  | none =>
      cases read
      rfl
  | some text =>
      rw [Option.bind_some]
      have attempted : attempt (reading text) = .ok value := read
      cases found : reading text with
      | ok result =>
          rw [found] at attempted
          cases attempted
          rfl
      | error raised =>
          rw [found, attempt] at attempted
          split at attempted
          · cases attempted
            rfl
          · cases attempted

/-- What the store says of the friend after the save. -/
theorem Saved.storeValues (saved : Saved P platform name update password draws session after row pub
      pqcCombinedPub hybridSigPubs) :
    storeValues after.store name = (update.values P true).held platform := by
  rw [saved.result]
  have parsed := saved.publicKey
  have pqc := toOption_attemptColumn saved.pqcKey
  have signing := toOption_attemptColumn saved.signingKeys
  have listed : (storeWithSigning name hybridSigPubs (storeWithKeys name update pub pqcCombinedPub
      session.store)).friends.lookup name = some (pub, nonemptyBytes update.sharedSecret) := by
    exact (lookup_filter_append session.store.friends name name _).trans (if_pos rfl)
  simp only [KeyStore.storeValues, listed, FriendValues.held, FriendUpdate.values, parsed]
  simp only [storeWithSigning, storeWithKeys, get?_setOrPop, if_true, Option.map_some,
    Option.bind_some, nonemptyBytes_nonemptyBytes, nonempty_nonempty]
  congr 1
  · exact funext (capabilityOf_nonempty update.capabilities)
  · rw [pqcKeyOf, pqc]
  · rw [← signing]
    unfold hybridSigKeyOf
    cases platform.hybridSigAvailable <;> rfl

/-- Every other friend is left alone, and so is the rest of the database. -/
theorem Saved.others (saved : Saved P platform name update password draws session after row pub
      pqcCombinedPub hybridSigPubs) {other : String} (apart : other ≠ name) :
    after.db.friends.get? other = session.db.friends.get? other ∧
      friendRecord after.store other = friendRecord session.store other := by
  rw [saved.result]
  constructor
  · show ((session.db.friends.erase name).set name row).get? other = _
    rw [Dict.get?_set_of_ne _ _ apart, Dict.get?_erase_of_ne _ apart]
  · have listed : (storeWithSigning name hybridSigPubs (storeWithKeys name update pub
        pqcCombinedPub session.store)).friends.lookup other =
          session.store.friends.lookup other := by
      exact (lookup_filter_append session.store.friends name other _).trans (if_neg apart)
    simp only [friendRecord, listed]
    simp only [storeWithSigning, storeWithKeys, get?_setOrPop, if_neg apart]

theorem Saved.stored (saved : Saved P platform name update password draws session after row pub
      pqcCombinedPub hybridSigPubs) : after.db.friends.get? name = some row := by
  rw [saved.result]
  exact Dict.get?_set_self _ _ _

/-- What a load says of a friend is what his row says. -/
theorem storeValues_loaded {store : KeyStore Priv Pub} {row : FriendRow} {loaded : LoadedFriend Pub}
    {master : Bytes} (read : readFriend P platform master row = .ok loaded)
    (record : friendRecord store name = loaded.record row) :
    storeValues store name = (row.values P master).held platform := by
  obtain ⟨pub, parsed, read⟩ := ok_of_bind read
  obtain ⟨secret, secretRead, read⟩ := ok_of_bind read
  obtain ⟨ecdhPriv, ecdhRead, read⟩ := ok_of_bind read
  obtain ⟨pqcCombinedPub, pqcRead, read⟩ := ok_of_bind read
  obtain ⟨hybridSigPubs, hybridRead, read⟩ := ok_of_bind read
  cases read
  have key := congrArg FriendRecord.key record
  have x25519 := congrArg FriendRecord.x25519 record
  have ecdh := congrArg FriendRecord.ecdhPriv record
  have capabilities := congrArg FriendRecord.capabilities record
  have pqc := congrArg FriendRecord.pqcCombinedPub record
  have hybrid := congrArg FriendRecord.hybridSigPubs record
  simp only [friendRecord, LoadedFriend.record] at key x25519 ecdh capabilities pqc hybrid
  simp only [KeyStore.storeValues, key, x25519, ecdh, capabilities, pqc, hybrid, FriendValues.held,
    FriendRow.values, parsed, toOption_attemptColumn secretRead, toOption_attemptColumn ecdhRead,
    pqcKeyOf, toOption_attemptColumn pqcRead, nonempty_nonempty]
  congr 1
  rw [← toOption_attemptColumn hybridRead]
  unfold FriendRow.hybridSigPub hybridSigKeyOf
  cases platform.hybridSigAvailable <;> rfl

end Written

end Values

end UltimateEnigma.KeyStore
