import UltimateEnigma.CoherentFriends
import UltimateEnigma.FriendLoading

set_option autoImplicit false

namespace UltimateEnigma.Friends

open Py KeyStore

/-- What a row holds of a friend, its secrets opened. -/
structure FriendFields where
  publicKeyPem : String
  sharedSecret : Option Bytes
  x25519B64 : Option String
  ecdhPriv : Option Bytes
  capabilities : Capabilities
  pqcB64 : Option String
  hybridSigB64 : Option String
  ratchetState : Option String
deriving DecidableEq, Repr

/-- The two calls that replace some keys of a friend. -/
inductive KeyUpdate where
  | sharedSecret (newSecret : Bytes) (x25519PubB64 : Option String) (ecdhPrivBytes : Option Bytes)
  | pubKeys (new : NewKeys)
deriving DecidableEq, Repr

namespace KeyUpdate

/-- No empty value is given. -/
def Filled : KeyUpdate → Prop
  | .sharedSecret newSecret x25519PubB64 ecdhPrivBytes =>
      newSecret ≠ [] ∧ x25519PubB64 ≠ some "" ∧ ecdhPrivBytes ≠ some []
  | .pubKeys new =>
      new.rsaPem ≠ some "" ∧ new.x25519B64 ≠ some "" ∧ new.pqcB64 ≠ some "" ∧
        new.hybridSigB64 ≠ some ""

/-- The fields that the call names take the given values. -/
def apply : KeyUpdate → FriendFields → FriendFields
  | .sharedSecret newSecret x25519PubB64 ecdhPrivBytes, fields =>
      { fields with
        sharedSecret := some newSecret
        x25519B64 := x25519PubB64.or fields.x25519B64
        ecdhPriv := ecdhPrivBytes.or fields.ecdhPriv }
  | .pubKeys new, fields =>
      { fields with
        publicKeyPem := new.rsaPem.getD fields.publicKeyPem
        x25519B64 := new.x25519B64.or fields.x25519B64
        pqcB64 := new.pqcB64.or fields.pqcB64
        hybridSigB64 := new.hybridSigB64.or fields.hybridSigB64 }

/-- The combined signing key that the call names. -/
def hybridSigB64 : KeyUpdate → Option String
  | .sharedSecret _ _ _ => none
  | .pubKeys new => new.hybridSigB64

end KeyUpdate

section Calls

variable {Priv Pub Pem : Type} (P : Primitives Priv Pub Pem) (platform : Platform)

def rowFields (master : Bytes) (row : FriendRow) : FriendFields where
  publicKeyPem := row.publicKeyPem
  sharedSecret := (row.values P master).sharedSecret
  x25519B64 := nonempty row.x25519PublicKeyB64
  ecdhPriv := (row.values P master).ecdhPriv
  capabilities := row.capabilitiesJson.getD []
  pqcB64 := nonempty row.pqcCombinedPubB64
  hybridSigB64 := nonempty row.hybridSigPubB64
  ratchetState := row.ratchetStateJson

/-- What `update_shared_secret` saves. -/
def resharedFriend (store : KeyStore Priv Pub) (name : String) (newSecret masterPassword : Bytes)
    (x25519PubB64 : Option String) (ecdhPrivBytes : Option Bytes) :
    Except ServiceRaised FriendUpdate :=
  if !friendExists store name then
    .error (.friendsServiceError ("Friend '" ++ name ++ "' not found"))
  else if masterPassword.isEmpty then .error (.friendsServiceError "Master password required")
  else
    match getFriendExistingKeys P store name with
    | .error raised => .error (.passed raised)
    | .ok existing =>
        match nonempty existing.pem with
        | none => .error (.friendsServiceError "Friend record corrupted – no public key")
        | some pem => .ok {
            pem
            sharedSecret := some newSecret
            x25519PubB64 := x25519PubB64.or existing.x25519
            capabilities := existing.caps
            pqcCombinedPubB64 := existing.pqcB64
            hybridSigPubB64 := existing.hybridSigB64
            ecdhPrivBytes := ecdhPrivBytes.or existing.ecdhPriv }

/-- `update_shared_secret`. -/
def updateSharedSecret (name : String) (newSecret masterPassword : Bytes)
    (x25519PubB64 : Option String) (ecdhPrivBytes : Option Bytes) (draws : Draws) :
    ServiceCall Priv Pub Pem Unit := do
  let session ← Call.read
  let update ← Call.lift
    (resharedFriend P session.store name newSecret masterPassword x25519PubB64 ecdhPrivBytes)
  onStore .passed (saveFriend P platform name update masterPassword draws)

def KeyUpdate.perform (name : String) (masterPassword : Bytes) (draws : Draws) :
    KeyUpdate → ServiceCall Priv Pub Pem Unit
  | .sharedSecret newSecret x25519PubB64 ecdhPrivBytes =>
      updateSharedSecret P platform name newSecret masterPassword x25519PubB64 ecdhPrivBytes draws
  | .pubKeys new => updateFriendPubKeys P platform name masterPassword new draws

/-- The keys stand in the row as the program writes them. -/
structure CanonicalKeys (row : FriendRow) : Prop where
  pem : ∃ pub, row.publicKeyPem = P.pubkeyToPem pub
  pqc (text : String) : nonempty row.pqcCombinedPubB64 = some text → ∃ key, text = b64encode key
  hybridSig (text : String) : nonempty row.hybridSigPubB64 = some text →
    ∃ edPub dilPub, edPub.length < 65536 ∧ dilPub.length < 65536 ∧
      text = b64encode (HybridSigner.combine edPub dilPub)

/-- The named fields are replaced, nothing else is, and the store stays what a fresh one would
load. -/
structure Exact (master : Bytes) (now : Rat) (loadDraws : LoadDraws) (update : KeyUpdate)
    (name : String) (row : FriendRow) (session after : Session Priv Pub Pem) : Prop where
  friend : ∃ new, after.db.friends.get? name = some new ∧
    rowFields P master new = update.apply (rowFields P master row)
  others : ∀ other, other ≠ name →
    after.db.friends.get? other = session.db.friends.get? other ∧
      friendRecord after.store other = friendRecord session.store other
  coherent : Coherent P platform master now loadDraws after

variable {P platform} {master : Bytes} {now : Rat} {loadDraws : LoadDraws} {name : String}
variable {session after : Session Priv Pub Pem} {row : FriendRow}

/-- What is preserved of a friend whose keys are canonical: all of it, but for signing keys where
hybrid signatures are not available. -/
theorem existing_of_canonical (lawful : P.Lawful) (canonical : CanonicalKeys P row)
    (coherent : Coherent P platform master now loadDraws session)
    (stored : session.db.friends.get? name = some row) {existing : ExistingKeys}
    (found : getFriendExistingKeys P session.store name = .ok existing) :
    existing.pem = some row.publicKeyPem ∧
    existing.x25519 = nonempty row.x25519PublicKeyB64 ∧
    existing.ecdhPriv = (row.values P master).ecdhPriv ∧
    existing.caps.getD [] = row.capabilitiesJson.getD [] ∧
    existing.pqcB64 = nonempty row.pqcCombinedPubB64 ∧
    existing.hybridSigB64 =
      (if platform.hybridSigAvailable then nonempty row.hybridSigPubB64 else none) ∧
    nonemptyBytes (getFriendSecret session.store name) = (row.values P master).sharedSecret := by
  obtain ⟨loaded, readRow, listed, x25519, ecdh, caps, pqc, hybrid⟩ := coherent.reads stored
  obtain ⟨pem, heldX25519, heldEcdh, heldCaps, heldPqc, packed⟩ := getFriendExistingKeys_ok found
  obtain ⟨pub, parsed, readRow⟩ := ok_of_bind readRow
  obtain ⟨secret, secretRead, readRow⟩ := ok_of_bind readRow
  obtain ⟨ecdhPriv, ecdhRead, readRow⟩ := ok_of_bind readRow
  obtain ⟨pqcPub, pqcRead, readRow⟩ := ok_of_bind readRow
  obtain ⟨hybridPubs, hybridRead, readRow⟩ := ok_of_bind readRow
  cases readRow
  refine ⟨?_, heldX25519.trans x25519, ?_, ?_, ?_, ?_, ?_⟩
  · obtain ⟨own, written⟩ := canonical.pem
    rw [written, lawful.pubkey_round] at parsed
    cases parsed
    rw [pem, currentPem, friendEntry_eq_lookup, listed, written]
    rfl
  · rw [heldEcdh, ecdh]
    exact (toOption_attemptColumn ecdhRead).symm
  · rw [heldCaps, ← caps]
    cases session.store.friendsCapabilities.get? name with
    | none => rfl
    | some held => cases held <;> rfl
  · rw [heldPqc, pqcPubB64, pqc]
    cases column : nonempty row.pqcCombinedPubB64 with
    | none =>
        rw [column] at pqcRead
        cases pqcRead
        rfl
    | some text =>
        obtain ⟨key, encoded⟩ := canonical.pqc text column
        rw [column, encoded, attemptColumn, decodeBase64_b64encode] at pqcRead
        cases pqcRead
        rw [encoded]
        rfl
  · unfold hybridSigPubB64 at packed
    rw [hybrid] at packed
    unfold FriendRow.hybridSigPub at hybridRead
    split
    · rename_i available
      rw [if_pos available] at hybridRead
      cases column : nonempty row.hybridSigPubB64 with
      | none =>
          rw [column] at hybridRead
          cases hybridRead
          exact (Except.ok.inj packed).symm
      | some text =>
          obtain ⟨edPub, dilPub, edShort, dilShort, encoded⟩ := canonical.hybridSig text column
          rw [column, encoded, attemptColumn, decodeBase64_b64encode, ok_bind,
            HybridSigner.parseCombinedPub_combine _ _ edShort dilShort] at hybridRead
          cases hybridRead
          have packs : packCombined (edPub, dilPub) = .ok (HybridSigner.combine edPub dilPub) :=
            if_pos ⟨edShort, dilShort⟩
          change (packCombined (edPub, dilPub)).map _ = _ at packed
          rw [packs] at packed
          rw [encoded]
          exact (Except.ok.inj packed).symm
    · rename_i unavailable
      rw [if_neg unavailable] at hybridRead
      cases hybridRead
      exact (Except.ok.inj packed).symm
  · rw [getFriendSecret, friendEntry_eq_lookup, listed]
    exact congrArg nonemptyBytes (toOption_attemptColumn secretRead).symm

/-- What an update writes into the row. -/
def updateFields (update : FriendUpdate) (ratchetState : Option String) : FriendFields where
  publicKeyPem := update.pem
  sharedSecret := nonemptyBytes update.sharedSecret
  x25519B64 := nonempty update.x25519PubB64
  ecdhPriv := update.ecdhPrivBytes
  capabilities := update.capabilities.getD []
  pqcB64 := nonempty update.pqcCombinedPubB64
  hybridSigB64 := nonempty update.hybridSigPubB64
  ratchetState

theorem getD_nonemptyCapabilities (capabilities : Option Capabilities) :
    (nonemptyCapabilities capabilities).getD [] = capabilities.getD [] := by
  match capabilities with
  | none => rfl
  | some [] => rfl
  | some (_ :: _) => rfl

/-- The row of a save whose secrets the master password opens. -/
theorem rowFields_saved (lawful : P.Lawful) {update : FriendUpdate} {password : Bytes}
    {draws : Draws} {new : FriendRow}
    (made : savedRow P name update password draws session.db = .ok new)
    (own : update.HasSecret → password = master)
    (stored : session.db.friends.get? name = some row) :
    rowFields P master new = updateFields update row.ratchetStateJson := by
  have values := values_savedRow lawful made master
  have ratchet := ratchetState_savedRow made
  obtain ⟨pem, x25519, capabilities, pqc, hybrid⟩ := columns_savedRow made
  have secrets : (update.values P (decide (password = master)) : FriendValues Pub).sharedSecret =
        nonemptyBytes update.sharedSecret ∧
      (update.values P (decide (password = master)) : FriendValues Pub).ecdhPriv =
        update.ecdhPrivBytes := by
    by_cases readable : password = master
    · rw [decide_eq_true readable]
      exact ⟨rfl, rfl⟩
    · have plain : ¬ update.HasSecret := fun secret => readable (own secret)
      rw [FriendUpdate.HasSecret, not_or, Bool.not_eq_true, Option.isSome_eq_false_iff,
        Option.isNone_iff_eq_none, Bool.not_eq_true, Option.isSome_eq_false_iff,
        Option.isNone_iff_eq_none] at plain
      rw [decide_eq_false readable, plain.1, plain.2]
      exact ⟨rfl, rfl⟩
  rw [stored, Option.bind_some] at ratchet
  rw [rowFields, values, secrets.1, secrets.2, pem, x25519, capabilities, pqc, hybrid, ratchet,
    getD_nonemptyCapabilities]
  rfl

/-- A given value is not empty, and one that is preserved was not. -/
theorem nonempty_or {given kept : Option String} (filled : given ≠ some "") :
    nonempty (given.or (nonempty kept)) = given.or (nonempty kept) := by
  cases given with
  | none => exact nonempty_nonempty kept
  | some text =>
      have written : ¬ text.isEmpty = true := fun blank =>
        filled (congrArg some (String.isEmpty_iff.mp blank))
      exact if_neg written

variable (P platform master) in
/-- What the call saves is what it names, and of the rest all that the store holds. -/
def Preserves (update : KeyUpdate) (row : FriendRow) (saved : FriendUpdate) : Prop :=
  updateFields saved row.ratchetStateJson =
    { update.apply (rowFields P master row) with
      hybridSigB64 :=
        update.hybridSigB64.or
          (if platform.hybridSigAvailable then nonempty row.hybridSigPubB64 else none) }

theorem preserved_hybridSig (row : FriendRow) :
    nonempty (if platform.hybridSigAvailable then nonempty row.hybridSigPubB64 else none) =
      if platform.hybridSigAvailable then nonempty row.hybridSigPubB64 else none := by
  split
  · exact nonempty_nonempty _
  · rfl

theorem updateSharedSecret_saves (lawful : P.Lawful) (canonical : CanonicalKeys P row)
    (coherent : Coherent P platform master now loadDraws session)
    (stored : session.db.friends.get? name = some row) {newSecret : Bytes}
    {x25519PubB64 : Option String} {ecdhPrivBytes : Option Bytes} {draws : Draws}
    (filled : (KeyUpdate.sharedSecret newSecret x25519PubB64 ecdhPrivBytes).Filled)
    (ran : (updateSharedSecret P platform name newSecret master x25519PubB64 ecdhPrivBytes draws).run
      session = (.ok (), after)) :
    ∃ saved, Preserves P platform master (.sharedSecret newSecret x25519PubB64 ecdhPrivBytes) row
        saved ∧
      (saveFriend P platform name saved master draws).run session = (.ok (), after) := by
  obtain ⟨secretGiven, x25519Given, _⟩ := filled
  rw [updateSharedSecret, Call.run_read_bind] at ran
  obtain ⟨saved, made, ran⟩ := Call.ok_of_run_lift_bind ran
  refine ⟨saved, ?_, onStore_run_ok_iff.mp ran⟩
  unfold resharedFriend at made
  split at made
  · cases made
  split at made
  · cases made
  split at made
  · cases made
  rename_i existing found
  split at made
  · cases made
  rename_i pem given
  cases made
  obtain ⟨held, x25519, ecdh, caps, pqc, hybrid, _⟩ :=
    existing_of_canonical lawful canonical coherent stored found
  have same : pem = row.publicKeyPem := by
    rw [held] at given
    exact (Option.some.inj (eq_of_nonempty given).1).symm
  have secret : nonemptyBytes (some newSecret) = some newSecret :=
    if_neg fun empty => secretGiven (List.isEmpty_iff.mp empty)
  simp only [Preserves, updateFields, KeyUpdate.apply, KeyUpdate.hybridSigB64, rowFields, same,
    secret, x25519, nonempty_or x25519Given, ecdh, caps, pqc, nonempty_nonempty, hybrid, preserved_hybridSig,
    Option.none_or]

theorem updateFriendPubKeys_saves (lawful : P.Lawful) (canonical : CanonicalKeys P row)
    (coherent : Coherent P platform master now loadDraws session)
    (stored : session.db.friends.get? name = some row) {new : NewKeys} {draws : Draws}
    (filled : (KeyUpdate.pubKeys new).Filled)
    (ran : (updateFriendPubKeys P platform name master new draws).run session = (.ok (), after)) :
    ∃ saved password, Preserves P platform master (.pubKeys new) row saved ∧
      (password = master ∨ password = [] ∧ (nonemptyBytes saved.sharedSecret) = none) ∧
      (saveFriend P platform name saved password draws).run session = (.ok (), after) := by
  obtain ⟨rsaGiven, x25519Given, pqcGiven, hybridGiven⟩ := filled
  rw [updateFriendPubKeys, Call.run_read_bind] at ran
  obtain ⟨⟨saved, password⟩, made, ran⟩ := Call.ok_of_run_lift_bind ran
  obtain ⟨_, ⟨existing, found, pem, shared, x25519, caps, pqc, hybrid, ecdh⟩, _, used⟩ :=
    updatedFriend_ok made
  obtain ⟨heldPem, heldX25519, heldEcdh, heldCaps, heldPqc, heldHybrid, heldSecret⟩ :=
    existing_of_canonical lawful canonical coherent stored found
  refine ⟨saved, password, ?_, ?_, onStore_run_ok_iff.mp ran⟩
  · have same : saved.pem = new.rsaPem.getD row.publicKeyPem := by
      have chosen := (eq_of_nonempty pem).1
      rw [heldPem] at chosen
      cases rsa : new.rsaPem with
      | none =>
          rw [rsa] at chosen
          exact (Option.some.inj chosen).symm
      | some text =>
          have written : nonempty (some text) = some text :=
            if_neg fun blank => rsaGiven (rsa.trans (congrArg some (String.isEmpty_iff.mp blank)))
          rw [rsa, written] at chosen
          exact (Option.some.inj chosen).symm
    have signing : nonempty (new.hybridSigB64.or
        (if platform.hybridSigAvailable then nonempty row.hybridSigPubB64 else none)) =
          new.hybridSigB64.or
            (if platform.hybridSigAvailable then nonempty row.hybridSigPubB64 else none) := by
      rw [← preserved_hybridSig]
      exact nonempty_or hybridGiven
    simp only [Preserves, updateFields, KeyUpdate.apply, KeyUpdate.hybridSigB64, rowFields, same, shared,
      heldSecret, x25519, heldX25519, nonempty_or x25519Given, ecdh, heldEcdh, caps, heldCaps, pqc,
      heldPqc, nonempty_or pqcGiven, hybrid, heldHybrid, signing]
  · rw [shared]
    cases secret : nonemptyBytes (getFriendSecret session.store name) with
    | some plain =>
        rw [secret, Option.isSome_some, if_pos rfl] at used
        exact .inl used
    | none =>
        rw [secret] at used
        exact .inr ⟨used, rfl⟩

theorem KeyUpdate.perform_saves (lawful : P.Lawful) (canonical : CanonicalKeys P row)
    (coherent : Coherent P platform master now loadDraws session)
    (stored : session.db.friends.get? name = some row) {update : KeyUpdate} {draws : Draws}
    (filled : update.Filled)
    (ran : (update.perform P platform name master draws).run session = (.ok (), after)) :
    ∃ saved password, Preserves P platform master update row saved ∧
      (saved.HasSecret → password ≠ [] → password = master) ∧
      (saveFriend P platform name saved password draws).run session = (.ok (), after) := by
  cases update with
  | sharedSecret newSecret x25519PubB64 ecdhPrivBytes =>
      obtain ⟨saved, preserves, save⟩ :=
        updateSharedSecret_saves lawful canonical coherent stored filled ran
      exact ⟨saved, master, preserves, fun _ _ => rfl, save⟩
  | pubKeys new =>
      obtain ⟨saved, password, preserves, used, save⟩ :=
        updateFriendPubKeys_saves lawful canonical coherent stored filled ran
      refine ⟨saved, password, preserves, fun _ given => ?_, save⟩
      rcases used with own | ⟨empty, _⟩
      · exact own
      · exact absurd empty given

/-- Everything but the signing keys of the friend is exact in any case. -/
theorem perform_exact_iff (lawful : P.Lawful) (canonical : CanonicalKeys P row)
    (coherent : Coherent P platform master now loadDraws session)
    (stored : session.db.friends.get? name = some row) {update : KeyUpdate} {draws : Draws}
    (filled : update.Filled)
    (ran : (update.perform P platform name master draws).run session = (.ok (), after)) :
    Exact P platform master now loadDraws update name row session after ↔
      platform.hybridSigAvailable = true ∨ nonempty row.hybridSigPubB64 = none ∨
        update.hybridSigB64 ≠ none := by
  obtain ⟨saved, password, preserves, opens, save⟩ :=
    update.perform_saves lawful canonical coherent stored filled ran
  obtain ⟨new, pub, pqcCombinedPub, hybridSigPubs, written⟩ := saved_of_ok save
  have own : saved.HasSecret → password = master := fun secret =>
    opens secret (savedRow_ok_iff.mp ⟨new, written.made⟩ secret)
  have fields := (rowFields_saved lawful written.made own stored).trans preserves
  have named : (update.apply (rowFields P master row)).hybridSigB64 =
      update.hybridSigB64.or (nonempty row.hybridSigPubB64) := by
    cases update with
    | sharedSecret newSecret x25519PubB64 ecdhPrivBytes => exact Option.none_or.symm
    | pubKeys new => rfl
  have exact_ : Exact P platform master now loadDraws update name row session after ↔
      rowFields P master new = update.apply (rowFields P master row) := by
    constructor
    · intro done
      obtain ⟨other, found, same⟩ := done.friend
      rw [written.stored] at found
      cases found
      exact same
    · intro same
      exact ⟨⟨new, written.stored, same⟩, fun other apart => written.others apart,
        coherent_of_saved lawful coherent written own⟩
  rw [exact_, fields]
  constructor
  · intro same
    have signing := congrArg FriendFields.hybridSigB64 same
    rw [named] at signing
    by_cases available : platform.hybridSigAvailable = true
    · exact .inl available
    · rw [if_neg available] at signing
      cases given : update.hybridSigB64 with
      | some text => exact .inr (.inr nofun)
      | none =>
          rw [given, Option.none_or, Option.none_or] at signing
          exact .inr (.inl signing.symm)
  · intro kept
    have signing : update.hybridSigB64.or
        (if platform.hybridSigAvailable then nonempty row.hybridSigPubB64 else none) =
          (update.apply (rowFields P master row)).hybridSigB64 := by
      rw [named]
      rcases kept with available | absent | given
      · rw [if_pos available]
      · rw [absent, ite_self]
      · obtain ⟨text, found⟩ := Option.ne_none_iff_exists'.mp given
        rw [found, Option.some_or, Option.some_or]
    rw [signing]

/-- A key update is exact, and leaves the store coherent, exactly when hybrid signatures are
available or the friend has no signing key to lose. -/
theorem friend_key_update_exact_iff (lawful : P.Lawful) (update : KeyUpdate) (draws : Draws)
    (filled : update.Filled)
    (coherent : Coherent P platform master now loadDraws session)
    (stored : session.db.friends.get? name = some row) (canonical : CanonicalKeys P row)
    (ran : (update.perform P platform name master draws).run session = (.ok (), after)) :
    Exact P platform master now loadDraws update name row session after ↔
      platform.hybridSigAvailable = true ∨ nonempty row.hybridSigPubB64 = none ∨
        update.hybridSigB64 ≠ none :=
  perform_exact_iff lawful canonical coherent stored filled ran

end Calls

section Toy

/-- A friend with every kind of key. -/
def toyKeyedRow : FriendRow where
  publicKeyPem := "bob's key"
  hasSharedSecret := true
  sharedSecretEncrypted := some (wrap toyLibraries [12] [1] (toyEntropy 4 5))
  x25519PublicKeyB64 := none
  capabilitiesJson := none
  ratchetStateJson := none
  pqcCombinedPubB64 := some (b64encode [18])
  hybridSigPubB64 := some (b64encode (HybridSigner.combine [19] [20]))
  ecdhPrivEncrypted := some (wrap toyLibraries [13] [1] (toyEntropy 6 7))

def toyKeyedRows : Database (String × Bytes) :=
  ((((Database.empty.setText .publicKey "my key").setKey .privateKeyEncrypted
    ("my key", [1])).setSecret .globalSecret (wrap toyLibraries [14] [1] (toyEntropy 1 2))).setSecret
      .ratchetStorageKey (wrap toyLibraries [8] [1] (toyEntropy 9 10))).replaceFriend "bob" toyKeyedRow

theorem toyKeyedRow_stored : toyKeyedRows.friends.get? "bob" = some toyKeyedRow :=
  Dict.get?_set_self _ _ _

theorem toyKeyedRow_canonical : CanonicalKeys toyLibraries toyKeyedRow where
  pem := ⟨"bob's key", rfl⟩
  pqc text column := by
    refine ⟨[18], ?_⟩
    have written : nonempty toyKeyedRow.pqcCombinedPubB64 = some (b64encode [18]) := by
      decide +kernel
    exact Option.some.inj (column.symm.trans written)
  hybridSig text column := by
    refine ⟨[19], [20], by decide, by decide, ?_⟩
    have written : nonempty toyKeyedRow.hybridSigPubB64 =
        some (b64encode (HybridSigner.combine [19] [20])) := by decide +kernel
    exact Option.some.inj (column.symm.trans written)

theorem toyKeyedRows_sound : Sound toyLibraries toyKeyedRows where
  secrets key wrapper stored := by
    cases key with
    | globalSecret =>
        cases stored
        exact ⟨_, _, _, trivial, rfl⟩
    | ratchetStorageKey =>
        cases stored
        exact ⟨_, _, _, trivial, rfl⟩
    | _ => cases stored
  keys key pem stored := by
    cases key with
    | privateKeyEncrypted =>
        cases stored
        exact ⟨"my key", [1], [], rfl⟩
    | _ => cases stored
  friends name row stored := by
    by_cases bob : name = "bob"
    · rw [bob, toyKeyedRow_stored] at stored
      cases stored
      refine ⟨?_, ?_⟩
      · rintro _ ⟨⟩
        exact ⟨_, _, _, rfl⟩
      · rintro _ ⟨⟩
        exact ⟨_, _, _, rfl⟩
    · have absent : toyKeyedRows.friends.get? name = none := Dict.get?_set_of_ne _ _ bob
      rw [absent] at stored
      cases stored
  publicKey := ⟨"my key", rfl⟩
  privateKey := rfl
  globalSecret := rfl
  x25519WithKyber := nofun
  kyberWithPub := nofun
  noLegacySalt := rfl

/-- A login on a platform. -/
def toyLoaded (platform : Platform) : ToySession :=
  ((load toyLibraries platform [1] 0 toyLoadDraws).run ⟨{}, toyKeyedRows⟩).2

theorem toyLoaded_coherent {platform : Platform}
    (loads : ((load toyLibraries platform [1] 0 toyLoadDraws).run ⟨{}, toyKeyedRows⟩).1 = .ok true) :
    Coherent toyLibraries platform [1] 0 toyLoadDraws (toyLoaded platform) ∧
      (toyLoaded platform).db.friends.get? "bob" = some toyKeyedRow := by
  have ran : (load toyLibraries platform [1] 0 toyLoadDraws).run ⟨{}, toyKeyedRows⟩ =
    (.ok true, toyLoaded platform) := Prod.ext loads rfl
  refine ⟨coherent_of_load toyLibraries_lawful toyKeyedRows_sound ran, ?_⟩
  obtain ⟨_, _, _, _, after⟩ := (load_true_iff toyLibraries_lawful toyKeyedRows_sound).mp ran
  have kept : (toyLoaded platform).db.friends = toyKeyedRows.friends := by
    rw [after]
    exact loadedRows_friends (P := toyLibraries) toyKeyedRows [1] 0 toyLoadDraws
  rw [kept]
  exact toyKeyedRow_stored

/-- A new shared secret for bob. -/
def toyNewSecret : KeyUpdate := .sharedSecret [21] none none

theorem toyNewSecret_filled : toyNewSecret.Filled := ⟨nofun, nofun, nofun⟩

def toyPlain : Platform := ⟨false, true⟩

theorem toyNewSecret_exact :
    ∃ after, (toyNewSecret.perform toyLibraries toyPlatform "bob" [1] toyDraws).run
        (toyLoaded toyPlatform) = (.ok (), after) ∧
      (Exact toyLibraries toyPlatform [1] 0 toyLoadDraws toyNewSecret "bob" toyKeyedRow
          (toyLoaded toyPlatform) after ↔
        toyPlatform.hybridSigAvailable = true ∨ nonempty toyKeyedRow.hybridSigPubB64 = none ∨
          toyNewSecret.hybridSigB64 ≠ none) := by
  obtain ⟨coherent, stored⟩ :
      Coherent toyLibraries toyPlatform [1] 0 toyLoadDraws (toyLoaded toyPlatform) ∧ _ :=
    toyLoaded_coherent (by decide +kernel)
  have ran : (toyNewSecret.perform toyLibraries toyPlatform "bob" [1] toyDraws).run
      (toyLoaded toyPlatform) = (.ok (), _) := Prod.ext (by decide +kernel) rfl
  exact ⟨_, ran, friend_key_update_exact_iff toyLibraries_lawful toyNewSecret toyDraws
    toyNewSecret_filled coherent stored toyKeyedRow_canonical ran⟩

/-- Where hybrid signatures are not available, bob's signing key is lost from the database. -/
theorem new_secret_drops_signing_key :
    Coherent toyLibraries toyPlain [1] 0 toyLoadDraws (toyLoaded toyPlain) ∧
    CanonicalKeys toyLibraries toyKeyedRow ∧
    ∃ after, (toyNewSecret.perform toyLibraries toyPlain "bob" [1] toyDraws).run
        (toyLoaded toyPlain) = (.ok (), after) ∧
      ¬ Exact toyLibraries toyPlain [1] 0 toyLoadDraws toyNewSecret "bob" toyKeyedRow
        (toyLoaded toyPlain) after := by
  obtain ⟨coherent, stored⟩ :
      Coherent toyLibraries toyPlain [1] 0 toyLoadDraws (toyLoaded toyPlain) ∧ _ :=
    toyLoaded_coherent (by decide +kernel)
  have ran : (toyNewSecret.perform toyLibraries toyPlain "bob" [1] toyDraws).run
      (toyLoaded toyPlain) = (.ok (), _) := Prod.ext (by decide +kernel) rfl
  refine ⟨coherent, toyKeyedRow_canonical, _, ran, ?_⟩
  rw [perform_exact_iff toyLibraries_lawful toyKeyedRow_canonical coherent stored
    toyNewSecret_filled ran]
  decide +kernel

end Toy

end UltimateEnigma.Friends
