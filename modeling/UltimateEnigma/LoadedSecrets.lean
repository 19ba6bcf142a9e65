import UltimateEnigma.LoadFrames
import UltimateEnigma.LoadStages

set_option autoImplicit false

namespace UltimateEnigma.KeyStore

open Py

section Contents

variable {Priv Pub Pem : Type} (P : Primitives Priv Pub Pem) (platform : Platform)
variable (password : Bytes)

/-- A retired key, until it expires. -/
def openedLegacyKey (db : Database Pem) (now : Rat) : Option Priv :=
  if now < db.legacyKeyExpiry.getD 0 then
    (db.keys .legacyPrivateKeyEncrypted).bind fun pem => (P.pemToPrivkey pem password).toOption
  else none

/-- The combined public key, which counts only next to a Kyber key. -/
def openedPqcPub (db : Database Pem) : Option Bytes :=
  if truthy (opened P password (db.secrets .kyberPrivEncrypted)) then
    (db.texts .pqcCombinedPubB64).bind fun text => (decodeBase64 text).toOption
  else none

/-- The bundle, where the three keys of it are there. -/
def openedBundle (db : Database Pem) : Option PqcBundle :=
  let kyber := opened P password (db.secrets .kyberPrivEncrypted)
  let pub := openedPqcPub P password db
  if truthy kyber && truthy pub then
    (openedKey P password (db.secrets .pqcX25519PrivEncrypted)).map fun x25519Priv =>
      { x25519Priv, kyberPriv := kyber.getD [], combinedPub := pub.getD [] }
  else none

/-- A friend's row, each column as far as it can be read. -/
def openedFriend (pub : Pub) (row : FriendRow) : LoadedFriend Pub where
  pub := pub
  secret := opened P password row.sharedSecret
  ecdhPriv := opened P password row.ecdhPrivEncrypted
  pqcCombinedPub := (nonempty row.pqcCombinedPubB64).bind fun text => (decodeBase64 text).toOption
  hybridSigPubs := (row.hybridSigPub platform).bind fun text =>
    (decodeBase64 text >>= parseCombinedPub).toOption

/-- The stored ratchet storage key opens; where none is stored the salt of the key that it replaces
can be read, if there is one. -/
def HasRatchetKey (db : Database Pem) : Prop :=
  match db.secrets .ratchetStorageKey with
  | some wrapper => ¬ Closed P password wrapper
  | none => ∀ text ∈ db.texts .ratchetHkdfSalt, ∃ salt, decodeBase64 text = .ok salt

/-- What a store holds that has loaded everything: of each wrapper what it opens to, and nothing of
a wrapper that does not open. -/
structure HoldsWhatOpens (db : Database Pem) (now : Rat) (draws : LoadDraws)
    (store : KeyStore Priv Pub) : Prop where
  pub : ∃ pem pub, db.texts .publicKey = some pem ∧ P.pemToPubkey pem = .ok pub ∧
    store.myPub = some pub ∧ store.needsRotation = decide (P.keySize pub < minRsaKeySize)
  priv : ∃ pem priv, db.keys .privateKeyEncrypted = some pem ∧
    P.pemToPrivkey pem password = .ok priv ∧ store.myPriv = some priv
  legacyPriv : store.legacyPriv = openedLegacyKey P password db now
  globalSecret : store.globalSecret = opened P password (db.secrets .globalSecret)
  kyberPriv : store.myKyberPriv = opened P password (db.secrets .kyberPrivEncrypted)
  pqcCombinedPub : store.myPqcCombinedPub = openedPqcPub P password db
  pqcBundle : store.cachedPqcBundle = openedBundle P password db
  edPriv : store.myEdPriv = openedEdPriv P platform password db
  dilPriv : store.myDilPriv = openedDilPriv P platform password db
  hybridPub : store.myHybridSigCombinedPub = readHybridPub platform db
  ratchetStorageKey : store.ratchetStorageKey =
    some ((opened P password (db.secrets .ratchetStorageKey)).getD draws.ratchetKey)
  names : store.friends.map Prod.fst = db.friends.keys
  friend {name : String} {row : FriendRow} (listed : db.friends.get? name = some row) :
    ∃ pub, P.pemToPubkey row.publicKeyPem = .ok pub ∧
      friendRecord store name = (openedFriend P platform password pub row).record row
  unlisted {name : String} (absent : db.friends.get? name = none) :
    friendRecord store name = ⟨none, none, none, none, none, none⟩

end Contents

section Friends

variable {Priv Pub Pem : Type} {P : Primitives Priv Pub Pem} {platform : Platform}
variable {password : Bytes} {session after : Session Priv Pub Pem}

theorem eq_of_attempt {α : Type} {computed : Except Raised α} {found : Option α}
    (attempted : attempt computed = .ok found) : found = computed.toOption := by
  cases computed with
  | ok value =>
      cases attempted
      rfl
  | error raised =>
      rw [attempt] at attempted
      split at attempted <;> cases attempted
      rfl

theorem eq_of_attemptColumn {α β : Type} {column : Option α} {reading : α → Except Raised β}
    {found : Option β} (read : attemptColumn column reading = .ok found) :
    found = column.bind fun value => (reading value).toOption := by
  cases column with
  | none =>
      cases read
      rfl
  | some value => exact eq_of_attempt read

/-- A row of quiet wrappers reads, each as far as it opens. -/
theorem readFriend_of_quiet {row : FriendRow} {pub : Pub}
    (parsed : P.pemToPubkey row.publicKeyPem = .ok pub)
    (shared : QuietColumn P password row.sharedSecret)
    (ecdh : QuietColumn P password row.ecdhPrivEncrypted) (hybrid : ReadsHybridPub platform row) :
    readFriend P platform password row = .ok (openedFriend P platform password pub row) := by
  obtain ⟨pqcPub, pqc⟩ := attemptColumn_decodeBase64 (nonempty row.pqcCombinedPubB64)
  obtain ⟨pubs, hybrid⟩ := hybrid
  rw [readFriend, parsed, ok_bind, attemptColumn_of_quiet shared, ok_bind,
    attemptColumn_of_quiet ecdh, ok_bind, pqc, ok_bind, hybrid, ok_bind, eq_of_attemptColumn pqc,
    eq_of_attemptColumn hybrid]
  rfl

theorem QuietFriends.each {rows : List (String × FriendRow)}
    (quiet : QuietFriends P platform password rows)
    (reads : ∀ item ∈ rows, ReadsPem P item.2 ∧ ReadsHybridPub platform item.2) :
    ∀ item ∈ rows, QuietColumn P password item.2.sharedSecret ∧
      QuietColumn P password item.2.ecdhPrivEncrypted := by
  induction rows with
  | nil => exact fun _ absent => absurd absent List.not_mem_nil
  | cons item rest ih =>
      obtain ⟨⟨pem, hybridPub⟩, others⟩ := List.forall_mem_cons.mp reads
      obtain ⟨shared, ecdh, later⟩ := quiet pem
      exact List.forall_mem_cons.mpr ⟨⟨shared, ecdh⟩, ih (later hybridPub) others⟩

/-- Where the public keys of every friend read and the secrets are quiet, the friends are read. -/
theorem readFriends_of_quiet {db : Database Pem}
    (quiet : QuietFriends P platform password db.friends.items)
    (reads : ReadsFriends P platform db) :
    (∃ read, readFriends P platform password db.friends.items = .ok read) ∧
      ∀ {name row}, db.friends.get? name = some row →
        ∃ pub, P.pemToPubkey row.publicKeyPem = .ok pub ∧
          readFriend P platform password row = .ok (openedFriend P platform password pub row) := by
  have each : ∀ item ∈ db.friends.items, ∃ pub, P.pemToPubkey item.2.publicKeyPem = .ok pub ∧
      readFriend P platform password item.2 =
        .ok (openedFriend P platform password pub item.2) := by
    intro item member
    obtain ⟨⟨pub, parsed⟩, hybridPub⟩ := reads item member
    obtain ⟨shared, ecdh⟩ := quiet.each reads item member
    exact ⟨pub, parsed, readFriend_of_quiet parsed shared ecdh hybridPub⟩
  refine ⟨readFriends_ok_iff.mpr fun item member => ?_, fun found => ?_⟩
  · obtain ⟨_, _, read⟩ := each item member
    exact ⟨_, read⟩
  · exact each _ (Dict.mem_of_get? found)

/-- With quiet secrets the load goes on to the ratchet storage key. -/
theorem loadSecrets_run {read : List ((String × FriendRow) × LoadedFriend Pub)}
    (settings : QuietSettings P platform password session.db)
    (reads : readFriends P platform password session.db.friends.items = .ok read) :
    (loadSecrets P platform password).run session = (.ok true,
      ⟨addFriends read (withoutFriends (secretsLoaded P platform password session)),
        session.db⟩) := by
  have friends : (loadFriends P platform password).run
      ⟨secretsLoaded P platform password session, session.db⟩ = (.ok (),
        ⟨addFriends read (withoutFriends (secretsLoaded P platform password session)),
          session.db⟩) := loadFriends_ok_iff.mpr ⟨read, reads, rfl⟩
  rw [loadSecrets_run_friends settings, Call.run_bind_of_ok friends]
  rfl

theorem names_addFriends {db : Database Pem}
    {read : List ((String × FriendRow) × LoadedFriend Pub)}
    (reads : readFriends P platform password db.friends.items = .ok read)
    (store : KeyStore Priv Pub) :
    (addFriends read (withoutFriends store)).friends.map Prod.fst = db.friends.keys := by
  have appended : ∀ (read : List ((String × FriendRow) × LoadedFriend Pub))
      (store : KeyStore Priv Pub), (addFriends read store).friends.map Prod.fst =
        store.friends.map Prod.fst ++ read.map fun friend => friend.1.1 := by
    intro read
    induction read with
    | nil => exact fun store => (List.append_nil _).symm
    | cons friend rest ih =>
        intro store
        refine (ih _).trans ?_
        show (store.friends ++ [_]).map Prod.fst ++ _ = _
        rw [List.map_append, List.append_assoc]
        rfl
  rw [appended, readFriends_names reads]
  rfl

theorem opened_of_open {column : Option Wrapper} {wrapper : Wrapper} (stored : column = some wrapper)
    (opens : ¬ Closed P password wrapper) :
    ∃ plain, unwrap P wrapper password = .ok plain ∧ opened P password column = some plain := by
  obtain ⟨plain, opening⟩ := not_forall_not.mp opens
  refine ⟨plain, opening, ?_⟩
  rw [stored, opened, Option.bind_some, opening]
  rfl

/-- The storage key that a load uses, and the store as it was. -/
theorem loadRatchetStorageKey_opens {draws : LoadDraws}
    (has : HasRatchetKey P password session.db) :
    ∃ rows, (loadRatchetStorageKey P password draws).run session =
      (.ok (some ((opened P password (session.db.secrets .ratchetStorageKey)).getD
        draws.ratchetKey)), ⟨session.store, rows⟩) := by
  unfold HasRatchetKey at has
  rw [loadRatchetStorageKey, Call.run_read_bind]
  cases stored : session.db.secrets .ratchetStorageKey with
  | some wrapper =>
      rw [stored] at has
      obtain ⟨plain, opening, plain_eq⟩ : ∃ plain, unwrap P wrapper password = .ok plain ∧
        opened P password (some wrapper) = some plain := opened_of_open rfl has
      rw [plain_eq]
      simp only [opening]
      exact ⟨_, rfl⟩
  | none =>
      rw [stored] at has
      obtain ⟨migrated, made⟩ : ∃ migrated,
          migratedRows P password draws session.db = .ok migrated := by
        unfold migratedRows
        cases salted : session.db.texts .ratchetHkdfSalt with
        | none => exact ⟨_, rfl⟩
        | some text =>
            obtain ⟨salt, decoded⟩ := has text salted
            dsimp only
            rw [decoded]
            exact ⟨_, rfl⟩
      simp only [newRatchetStorageKey, made]
      exact ⟨_, rfl⟩

/-- The settings are read by their wrappers and texts alone. -/
theorem secretsLoaded_congr {db other : Database Pem} (secrets : other.secrets = db.secrets)
    (texts : other.texts = db.texts) (store : KeyStore Priv Pub) :
    secretsLoaded P platform password ⟨store, other⟩ =
      secretsLoaded P platform password ⟨store, db⟩ := by
  unfold secretsLoaded pqcLoaded openedDilPriv openedEdPriv readHybridPub
  simp only [secrets, texts]

theorem bundle_secretsLoaded (platform : Platform) (session : Session Priv Pub Pem) :
    (secretsLoaded P platform password session).cachedPqcBundle =
      openedBundle P password session.db := by
  by_cases usable : (truthy (opened P password (session.db.secrets .kyberPrivEncrypted)) &&
      truthy (openedPqcPub P password session.db)) = true
  · rw [openedBundle, if_pos usable]
    exact congrArg (Option.map _) (if_pos usable)
  · rw [openedBundle, if_neg usable]
    exact congrArg (Option.map _) (if_neg usable)

variable {db : Database Pem} {store : KeyStore Priv Pub} {now : Rat} {draws : LoadDraws}

/-- The store once all but the ratchet storage key was read into it. -/
def keysLoaded (P : Primitives Priv Pub Pem) (platform : Platform) (password : Bytes)
    (db : Database Pem) (now : Rat) (pub : Pub) (priv : Priv)
    (read : List ((String × FriendRow) × LoadedFriend Pub)) (store : KeyStore Priv Pub) :
    KeyStore Priv Pub :=
  let rsa := withLegacy (withPriv (withPub P store pub) priv) (openedLegacyKey P password db now)
  let session : Session Priv Pub Pem :=
    ⟨withGlobalSecret rsa (opened P password (db.secrets .globalSecret)), db⟩
  addFriends read (withoutFriends (secretsLoaded P platform password session))

theorem holdsWhatOpens_loaded {read : List ((String × FriendRow) × LoadedFriend Pub)} {pem : Pem}
    {text : String} {pub : Pub} {priv : Priv}
    (pubRead : db.texts .publicKey = some text ∧ P.pemToPubkey text = .ok pub)
    (privRead : db.keys .privateKeyEncrypted = some pem ∧ P.pemToPrivkey pem password = .ok priv)
    (reads : readFriends P platform password db.friends.items = .ok read)
    (each : ∀ {name row}, db.friends.get? name = some row →
      ∃ pub, P.pemToPubkey row.publicKeyPem = .ok pub ∧
        readFriend P platform password row = .ok (openedFriend P platform password pub row)) :
    HoldsWhatOpens P platform password db now draws
      (withRatchetKey (keysLoaded P platform password db now pub priv read store)
        ((opened P password (db.secrets .ratchetStorageKey)).getD draws.ratchetKey)) := by
  have kept {τ : Type} (view : KeyStore Priv Pub → τ)
      (same : ∀ item loaded store, view (addFriend item loaded store) = view store)
      (store : KeyStore Priv Pub) : view (addFriends read store) = view store :=
    addFriends_keeps view same read store
  exact {
    pub := ⟨text, pub, pubRead.1, pubRead.2, kept myPub (fun _ _ _ => rfl) _,
      kept needsRotation (fun _ _ _ => rfl) _⟩
    priv := ⟨pem, priv, privRead.1, privRead.2, kept myPriv (fun _ _ _ => rfl) _⟩
    legacyPriv := kept KeyStore.legacyPriv (fun _ _ _ => rfl) _
    globalSecret := kept KeyStore.globalSecret (fun _ _ _ => rfl) _
    kyberPriv := kept myKyberPriv (fun _ _ _ => rfl) _
    pqcCombinedPub := kept myPqcCombinedPub (fun _ _ _ => rfl) _
    pqcBundle := (kept cachedPqcBundle (fun _ _ _ => rfl) _).trans (bundle_secretsLoaded platform _)
    edPriv := kept myEdPriv (fun _ _ _ => rfl) _
    dilPriv := kept myDilPriv (fun _ _ _ => rfl) _
    hybridPub := kept myHybridSigCombinedPub (fun _ _ _ => rfl) _
    ratchetStorageKey := rfl
    names := names_addFriends reads _
    friend := fun listed => by
      obtain ⟨pub, parsed, readRow⟩ := each listed
      obtain ⟨loaded, same, record⟩ := friendRecord_reloaded reads
        (secretsLoaded P platform password _) listed
      rw [readRow] at same
      cases same
      exact ⟨pub, parsed, record⟩
    unlisted := fun absent => friendRecord_unlisted reads _ absent }

end Friends

end UltimateEnigma.KeyStore
