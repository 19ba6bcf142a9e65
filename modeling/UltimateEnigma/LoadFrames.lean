import UltimateEnigma.LoadReadings

set_option autoImplicit false

namespace UltimateEnigma.KeyStore

open Py
open Call (commutes_pure commutes_modify commutes_require commutes_lift commutes_bind
  commutes_read_bind commutes_ite)

section Frames

variable {Priv Pub Pem : Type}

/-- Another friends table and another decoy key in place of those of the database. -/
def Database.besides (friends : Dict String FriendRow) (decoy : Option Pem) (db : Database Pem) :
    Database Pem :=
  { db with friends, keys := Function.update db.keys .duressDecoyPrivkey decoy }

def Session.besides (friends : Dict String FriendRow) (decoy : Option Pem)
    (session : Session Priv Pub Pem) : Session Priv Pub Pem :=
  { session with db := session.db.besides friends decoy }

theorem assign_commutes (friends : Dict String FriendRow) (decoy : Option Pem)
    (change : KeyStore Priv Pub → KeyStore Priv Pub) :
    (assign change : StoreCall Priv Pub Pem Unit).Commutes (Session.besides friends decoy) :=
  commutes_modify fun _ => rfl

variable (P : Primitives Priv Pub Pem) (platform : Platform)

/-- The part of `load` that stands before the loop over the friends. -/
def loadOwnKeys (password : Bytes) (now : Rat) : StoreCall Priv Pub Pem Bool := do
  loadPublicKey P
  if ← loadPrivateKey P password then
    loadLegacyKey P password now
    if ← loadGlobalSecret P password then
      loadKyberKey P password
      loadPqcCombinedPub
      cachePqcBundle P password
      loadHybridSigning P platform password
      return true
    else return false
  else return false

variable {P platform} {friends : Dict String FriendRow} {decoy : Option Pem}

theorem loadPublicKey_commutes : (loadPublicKey P).Commutes (Session.besides friends decoy) := by
  unfold loadPublicKey
  refine commutes_read_bind (fun _ => rfl) fun session => ?_
  refine commutes_bind (commutes_require _ _) fun pem => ?_
  exact commutes_bind (commutes_lift _) fun pub => assign_commutes _ _ _

theorem loadPrivateKey_commutes (password : Bytes) :
    (loadPrivateKey P password).Commutes (Session.besides friends decoy) := by
  unfold loadPrivateKey
  refine commutes_read_bind (fun _ => rfl) fun session => ?_
  refine commutes_bind (commutes_require _ _) fun pem => ?_
  refine commutes_bind (commutes_lift _) fun opened => ?_
  cases opened with
  | none => exact commutes_pure false
  | some priv => exact commutes_bind (assign_commutes _ _ _) fun _ => commutes_pure true

theorem deleteLegacyKey_besides (db : Database Pem) :
    (db.besides friends decoy).deleteLegacyKey = db.deleteLegacyKey.besides friends decoy := by
  have apart : KeySetting.duressDecoyPrivkey ≠ KeySetting.legacyPrivateKeyEncrypted := by decide
  unfold Database.deleteLegacyKey Database.besides
  simp only [Function.update_comm apart]

theorem loadLegacyKey_commutes (password : Bytes) (now : Rat) :
    (loadLegacyKey P password now).Commutes (Session.besides friends decoy) := by
  unfold loadLegacyKey
  refine commutes_bind (assign_commutes _ _ _) fun _ => ?_
  refine commutes_read_bind (fun _ => rfl) fun session => ?_
  cases session.db.keys .legacyPrivateKeyEncrypted with
  | none => exact commutes_pure ()
  | some pem =>
      refine commutes_ite ?_ (commutes_modify fun session =>
        congrArg (Session.mk session.store) (deleteLegacyKey_besides session.db))
      refine commutes_bind (commutes_lift _) fun opened => ?_
      cases opened with
      | none => exact commutes_pure ()
      | some priv => exact assign_commutes _ _ _

theorem loadGlobalSecret_commutes (password : Bytes) :
    (loadGlobalSecret P password).Commutes (Session.besides friends decoy) := by
  unfold loadGlobalSecret
  refine commutes_read_bind (fun _ => rfl) fun session => ?_
  cases session.db.secrets .globalSecret with
  | none => exact commutes_bind (assign_commutes _ _ _) fun _ => commutes_pure true
  | some wrapper =>
      refine commutes_bind (commutes_lift _) fun enc => ?_
      refine commutes_bind (commutes_lift _) fun opened => ?_
      cases opened with
      | none => exact commutes_pure false
      | some plain => exact commutes_bind (assign_commutes _ _ _) fun _ => commutes_pure true

theorem loadKyberKey_commutes (password : Bytes) :
    (loadKyberKey P password).Commutes (Session.besides friends decoy) := by
  unfold loadKyberKey
  refine commutes_bind (assign_commutes _ _ _) fun _ => ?_
  refine commutes_read_bind (fun _ => rfl) fun session => ?_
  cases session.db.secrets .kyberPrivEncrypted with
  | none => exact commutes_pure ()
  | some wrapper =>
      refine commutes_bind (commutes_lift _) fun opened => ?_
      cases opened with
      | none => exact commutes_pure ()
      | some plain => exact assign_commutes _ _ _

theorem loadPqcCombinedPub_commutes :
    (loadPqcCombinedPub : StoreCall Priv Pub Pem Unit).Commutes
      (Session.besides friends decoy) := by
  unfold loadPqcCombinedPub
  refine commutes_read_bind (fun _ => rfl) fun session => ?_
  cases session.db.texts .pqcCombinedPubB64 with
  | none => exact commutes_pure ()
  | some text =>
      refine commutes_ite ?_ (commutes_pure ())
      refine commutes_bind (commutes_lift _) fun decoded => ?_
      cases decoded with
      | none => exact commutes_pure ()
      | some pub => exact assign_commutes _ _ _

theorem cachePqcBundle_commutes (password : Bytes) :
    (cachePqcBundle P password).Commutes (Session.besides friends decoy) := by
  unfold cachePqcBundle
  refine commutes_bind (assign_commutes _ _ _) fun _ => ?_
  refine commutes_read_bind (fun _ => rfl) fun session => ?_
  refine commutes_ite ?_ (commutes_pure ())
  cases session.db.secrets .pqcX25519PrivEncrypted with
  | none => exact commutes_pure ()
  | some wrapper =>
      refine commutes_bind (commutes_lift _) fun opened => ?_
      cases opened with
      | none => exact commutes_pure ()
      | some priv => exact assign_commutes _ _ _

theorem loadHybridPrivateKeys_commutes (password : Bytes) :
    (loadHybridPrivateKeys P password).Commutes (Session.besides friends decoy) := by
  unfold loadHybridPrivateKeys
  refine commutes_read_bind (fun _ => rfl) fun session => ?_
  split
  · refine commutes_bind (commutes_lift _) fun opened => ?_
    cases opened with
    | none => exact commutes_pure ()
    | some edPriv =>
        refine commutes_bind (assign_commutes _ _ _) fun _ => ?_
        refine commutes_bind (commutes_lift _) fun opened => ?_
        cases opened with
        | none => exact commutes_pure ()
        | some dilPriv => exact assign_commutes _ _ _
  · exact commutes_pure ()

theorem loadHybridCombinedPub_commutes :
    (loadHybridCombinedPub : StoreCall Priv Pub Pem Unit).Commutes
      (Session.besides friends decoy) := by
  unfold loadHybridCombinedPub
  refine commutes_read_bind (fun _ => rfl) fun session => ?_
  cases session.db.texts .hybridSigCombinedPubB64 with
  | none => exact commutes_pure ()
  | some text =>
      refine commutes_bind (commutes_lift _) fun decoded => ?_
      cases decoded with
      | none => exact commutes_pure ()
      | some pub => exact assign_commutes _ _ _

theorem loadHybridSigning_commutes (password : Bytes) :
    (loadHybridSigning P platform password).Commutes (Session.besides friends decoy) := by
  unfold loadHybridSigning
  refine commutes_bind (assign_commutes _ _ _) fun _ => ?_
  refine commutes_ite ?_ (commutes_pure ())
  exact commutes_bind (loadHybridPrivateKeys_commutes password) fun _ =>
    loadHybridCombinedPub_commutes

/-- Loading the user's own keys has nothing to do with the friends or with the decoy key. -/
theorem loadOwnKeys_commutes (password : Bytes) (now : Rat) :
    (loadOwnKeys P platform password now).Commutes (Session.besides friends decoy) := by
  unfold loadOwnKeys
  refine commutes_bind loadPublicKey_commutes fun _ => ?_
  refine commutes_bind (loadPrivateKey_commutes password) fun opened => ?_
  refine commutes_ite ?_ (commutes_pure false)
  refine commutes_bind (loadLegacyKey_commutes password now) fun _ => ?_
  refine commutes_bind (loadGlobalSecret_commutes password) fun opened => ?_
  refine commutes_ite ?_ (commutes_pure false)
  refine commutes_bind (loadKyberKey_commutes password) fun _ => ?_
  refine commutes_bind loadPqcCombinedPub_commutes fun _ => ?_
  refine commutes_bind (cachePqcBundle_commutes password) fun _ => ?_
  exact commutes_bind (loadHybridSigning_commutes password) fun _ => commutes_pure true

/-- The friends are loaded behind the user's own keys. -/
theorem loadKeys_eq (password : Bytes) (now : Rat) :
    loadKeys P platform password now = do
      if ← loadOwnKeys P platform password now then
        loadFriends P platform password
        return true
      else return false := by
  simp only [loadKeys, loadOwnKeys, bind_assoc]
  congr
  funext _
  congr
  funext opened
  cases opened with
  | false => rfl
  | true =>
      simp only [if_true, bind_assoc]
      congr
      funext _
      congr
      funext opened
      cases opened with
      | false => rfl
      | true =>
          simp only [if_true, bind_assoc, pure_bind]

theorem migratedRows_besides {password : Bytes} {draws : LoadDraws} {db rows : Database Pem}
    (migrated : migratedRows P password draws db = .ok rows) :
    ∃ others, migratedRows P password draws (db.besides friends decoy) = .ok others := by
  have sameTexts : (db.besides friends decoy).texts = db.texts := rfl
  unfold migratedRows at migrated ⊢
  rw [sameTexts]
  cases salted : db.texts .ratchetHkdfSalt with
  | none => exact ⟨_, rfl⟩
  | some saltText =>
      simp only [salted] at migrated ⊢
      obtain ⟨salt, decoded, _⟩ := ok_of_bind migrated
      rw [decoded]
      exact ⟨_, rfl⟩

/-- Whether the ratchet storage key is found depends neither on the friends nor on the store; the
rows of the friends may be migrated on the way. -/
theorem loadRatchetStorageKey_besides {password : Bytes} {draws : LoadDraws} {key : Bytes}
    {session after : Session Priv Pub Pem}
    (found : (loadRatchetStorageKey P password draws).run session = (.ok (some key), after))
    (other : KeyStore Priv Pub) :
    ∃ rows, (loadRatchetStorageKey P password draws).run
      ⟨other, session.db.besides friends decoy⟩ = (.ok (some key), ⟨other, rows⟩) := by
  have sameSecrets : (session.db.besides friends decoy).secrets = session.db.secrets := rfl
  rw [loadRatchetStorageKey, Call.run_read_bind] at found ⊢
  simp only [sameSecrets]
  cases stored : session.db.secrets .ratchetStorageKey with
  | some wrapper =>
      simp only [stored] at found ⊢
      obtain ⟨opened, _, lifted, found⟩ := Call.ok_of_run_bind found
      obtain ⟨read, rfl⟩ := Call.ok_of_run_lift lifted
      cases opened with
      | none => cases found
      | some plain =>
          cases found
          rw [read]
          exact ⟨_, rfl⟩
  | none =>
      simp only [stored] at found ⊢
      obtain ⟨made, _, lifted, found⟩ := Call.ok_of_run_bind found
      obtain ⟨read, rfl⟩ := Call.ok_of_run_lift lifted
      cases made with
      | none => cases found
      | some db =>
          cases found
          obtain ⟨rows, migrated, _⟩ := ok_of_bind (attempt_eq_some_iff.mp read)
          obtain ⟨others, migratedToo⟩ : ∃ others,
              migratedRows P password draws (Database.besides friends decoy _) = .ok others :=
            migratedRows_besides migrated
          rw [newRatchetStorageKey, migratedToo]
          exact ⟨_, rfl⟩

theorem withoutFriends_addFriends (friends : List ((String × FriendRow) × LoadedFriend Pub))
    (store : KeyStore Priv Pub) :
    withoutFriends (addFriends friends store) = withoutFriends store := by
  induction friends generalizing store with
  | nil => rfl
  | cons friend rest ih => exact ih (addFriend friend.1 friend.2 store)

theorem withRatchetKey_addFriends (friends : List ((String × FriendRow) × LoadedFriend Pub))
    (store : KeyStore Priv Pub) (key : Bytes) :
    withRatchetKey (addFriends friends store) key =
      addFriends friends (withRatchetKey store key) := by
  induction friends generalizing store with
  | nil => rfl
  | cons friend rest ih => exact ih (addFriend friend.1 friend.2 store)

section Loading

variable {password : Bytes} {now : Rat} {draws : LoadDraws} {session after : Session Priv Pub Pem}

theorem loadRatchetStorageKey_store {key : Bytes}
    (found : (loadRatchetStorageKey P password draws).run session = (.ok (some key), after)) :
    after.store = session.store := by
  rw [loadRatchetStorageKey, Call.run_read_bind] at found
  cases stored : session.db.secrets .ratchetStorageKey with
  | some wrapper =>
      simp only [stored] at found
      obtain ⟨opened, _, lifted, found⟩ := Call.ok_of_run_bind found
      obtain ⟨_, rfl⟩ := Call.ok_of_run_lift lifted
      cases opened with
      | none => cases found
      | some plain =>
          cases found
          rfl
  | none =>
      simp only [stored] at found
      obtain ⟨made, _, lifted, found⟩ := Call.ok_of_run_bind found
      obtain ⟨_, rfl⟩ := Call.ok_of_run_lift lifted
      cases made with
      | none => cases found
      | some db =>
          cases found
          rfl

/-- A load that returns `True` has loaded the user's own keys, then every friend, then the ratchet
storage key. -/
theorem load_true_iff_stages :
    (load P platform password now draws).run session = (.ok true, after) ↔
      ∃ middle read key db,
        (loadOwnKeys P platform password now).run session = (.ok true, middle) ∧
        readFriends P platform password middle.db.friends.items = .ok read ∧
        (loadRatchetStorageKey P password draws).run
          ⟨addFriends read (withoutFriends middle.store), middle.db⟩ =
            (.ok (some key), ⟨addFriends read (withoutFriends middle.store), db⟩) ∧
        after = ⟨withRatchetKey (addFriends read (withoutFriends middle.store)) key, db⟩ := by
  constructor
  · intro loaded
    obtain ⟨went, last, keys, rest⟩ := Call.ok_of_run_bind loaded
    rw [Call.run_mapError_ok_iff, loadKeys_eq] at keys
    cases went with
    | false => cases rest
    | true =>
        obtain ⟨opened, middle, own, friendsLoaded⟩ := Call.ok_of_run_bind keys
        cases opened with
        | false => cases friendsLoaded
        | true =>
            obtain ⟨_, other, loop, returned⟩ := Call.ok_of_run_bind friendsLoaded
            cases returned
            obtain ⟨read, reads, rfl⟩ := loadFriends_ok_iff.mp loop
            obtain ⟨key, final, ratchet, rest⟩ := Call.ok_of_run_bind rest
            cases key with
            | none => cases rest
            | some key =>
                have kept := loadRatchetStorageKey_store ratchet
                obtain ⟨store, db⟩ := final
                cases kept
                cases rest
                exact ⟨middle, read, key, db, own, reads, ratchet, rfl⟩
  · rintro ⟨middle, read, key, db, own, reads, ratchet, rfl⟩
    have loop := loadFriends_ok_iff.mpr ⟨read, reads, rfl⟩
    have keys : (loadKeys P platform password now).run session =
        (.ok true, ⟨addFriends read (withoutFriends middle.store), middle.db⟩) := by
      rw [loadKeys_eq, Call.run_bind_of_ok own, if_pos rfl, Call.run_bind_of_ok loop]
      rfl
    have wrapped := (Call.run_mapError_ok_iff (asKeyStoreError "Key loading failed: ") _ _ _ _).mpr
      keys
    rw [load, Call.run_bind_of_ok wrapped, if_pos rfl, Call.run_bind_of_ok ratchet]
    rfl

/-- Exchanging the friends and the decoy key for themselves. -/
theorem besides_self (session : Session Priv Pub Pem) :
    session.besides session.db.friends (session.db.keys .duressDecoyPrivkey) = session := by
  unfold Session.besides Database.besides
  rw [Function.update_eq_self]

theorem loadOwnKeys_keeps_friends (password : Bytes) (now : Rat) :
    (loadOwnKeys P platform password now).Keeps fun session => session.db.friends := by
  intro session
  have commutes : (loadOwnKeys P platform password now).Commutes
      (Session.besides session.db.friends (session.db.keys .duressDecoyPrivkey)) :=
    loadOwnKeys_commutes password now
  have same := commutes session
  rw [besides_self] at same
  exact congrArg (fun outcome => outcome.2.db.friends) same

/-- Every friend of a database that loads was read. -/
theorem load_reads (loaded : (load P platform password now draws).run session = (.ok true, after)) :
    ∃ read, readFriends P platform password session.db.friends.items = .ok read ∧
      after.store = addFriends read (withoutFriends after.store) := by
  obtain ⟨middle, read, key, db, own, reads, _, rfl⟩ := load_true_iff_stages.mp loaded
  have kept : ((loadOwnKeys P platform password now).run session).2.db.friends =
      session.db.friends := loadOwnKeys_keeps_friends password now session
  rw [own] at kept
  have same : middle.db.friends = session.db.friends := kept
  rw [same] at reads
  refine ⟨read, reads, ?_⟩
  show withRatchetKey _ key = addFriends read (withoutFriends (withRatchetKey _ key))
  rw [withRatchetKey_addFriends, withoutFriends_addFriends]
  rfl

/-- A database loads as well with any other friends that can be read, and the store differs in
them only. -/
theorem load_besides
    (loaded : (load P platform password now draws).run session = (.ok true, after))
    (decoy : Option Pem) {read : List ((String × FriendRow) × LoadedFriend Pub)}
    (reads : readFriends P platform password friends.items = .ok read) :
    ∃ db, (load P platform password now draws).run (session.besides friends decoy) =
      (.ok true, ⟨addFriends read (withoutFriends after.store), db⟩) := by
  obtain ⟨middle, before, key, db, own, _, ratchet, rfl⟩ := load_true_iff_stages.mp loaded
  have ownToo : (loadOwnKeys P platform password now).run (session.besides friends decoy) =
      (((loadOwnKeys P platform password now).run session).1,
        ((loadOwnKeys P platform password now).run session).2.besides friends decoy) :=
    loadOwnKeys_commutes password now session
  rw [own] at ownToo
  obtain ⟨rows, ratchetToo⟩ : ∃ rows, (loadRatchetStorageKey P password draws).run
      ⟨addFriends read (withoutFriends middle.store), middle.db.besides friends decoy⟩ =
        (.ok (some key), ⟨addFriends read (withoutFriends middle.store), rows⟩) :=
    loadRatchetStorageKey_besides ratchet _
  refine ⟨rows, load_true_iff_stages.mpr ⟨_, read, key, rows, ownToo, reads, ratchetToo, ?_⟩⟩
  show (⟨addFriends read (withoutFriends (withRatchetKey _ key)), rows⟩ : Session Priv Pub Pem) = _
  rw [withRatchetKey_addFriends, withoutFriends_addFriends, withRatchetKey_addFriends]
  rfl

end Loading

section Records

/-- What the store holds of a friend. -/
structure FriendRecord (Pub : Type) where
  key : Option (Pub × Option Bytes)
  x25519 : Option String
  ecdhPriv : Option Bytes
  capabilities : Option Capabilities
  pqcCombinedPub : Option Bytes
  hybridSigPubs : Option (Bytes × Bytes)
deriving DecidableEq, Repr

def friendRecord (store : KeyStore Priv Pub) (name : String) : FriendRecord Pub where
  key := store.friends.lookup name
  x25519 := store.friendsX25519.get? name
  ecdhPriv := store.friendsEcdhPriv.get? name
  capabilities := store.friendsCapabilities.get? name
  pqcCombinedPub := store.friendsPqcCombinedPub.get? name
  hybridSigPubs := store.friendsHybridSigPubs.get? name

/-- What a load makes of a row. -/
def LoadedFriend.record (row : FriendRow) (loaded : LoadedFriend Pub) : FriendRecord Pub where
  key := some (loaded.pub, loaded.secret)
  x25519 := nonempty row.x25519PublicKeyB64
  ecdhPriv := loaded.ecdhPriv
  capabilities := some (row.capabilitiesJson.getD [])
  pqcCombinedPub := loaded.pqcCombinedPub
  hybridSigPubs := loaded.hybridSigPubs

/-- A dictionary of the store after the friends were read into it anew. -/
theorem get?_reloaded {ν : Type} (view : KeyStore Priv Pub → Dict String ν)
    (column : FriendRow → LoadedFriend Pub → Option ν)
    (adds : ∀ item loaded store, view (addFriend item loaded store) =
      setIfSome (view store) item.1 (column item.2 loaded))
    (clears : ∀ store, view (withoutFriends store) = .empty)
    {read : List ((String × FriendRow) × LoadedFriend Pub)}
    (unique : (read.map fun friend => friend.1.1).Nodup) (store : KeyStore Priv Pub)
    (name : String) :
    (view (addFriends read (withoutFriends store))).get? name =
      (friendNamed name read).bind fun friend => column friend.1.2 friend.2 := by
  rw [addFriends_get? view column adds unique, clears, Dict.get?_empty, Option.or_none]

/-- What the store holds of a friend after the friends were read into it anew. -/
theorem friendRecord_addFriends {password : Bytes} {db : Database Pem}
    {read : List ((String × FriendRow) × LoadedFriend Pub)}
    (reads : readFriends P platform password db.friends.items = .ok read) (store : KeyStore Priv Pub)
    (name : String) :
    friendRecord (addFriends read (withoutFriends store)) name =
      { key := (friendNamed name read).map fun friend => (friend.2.pub, friend.2.secret)
        x25519 := (friendNamed name read).bind fun friend => nonempty friend.1.2.x25519PublicKeyB64
        ecdhPriv := (friendNamed name read).bind fun friend => friend.2.ecdhPriv
        capabilities := (friendNamed name read).bind fun friend =>
          some (friend.1.2.capabilitiesJson.getD [])
        pqcCombinedPub := (friendNamed name read).bind fun friend => friend.2.pqcCombinedPub
        hybridSigPubs := (friendNamed name read).bind fun friend => friend.2.hybridSigPubs } := by
  have unique : (read.map fun friend => friend.1.1).Nodup := by
    rw [readFriends_names reads]
    exact db.friends.nodup
  have key : (addFriends read (withoutFriends store)).friends.lookup name =
      (friendNamed name read).map fun friend => (friend.2.pub, friend.2.secret) :=
    addFriends_lookup read (withoutFriends store) name
  unfold friendRecord
  rw [key, get?_reloaded friendsX25519 (fun row _ => nonempty row.x25519PublicKeyB64)
      (fun _ _ _ => rfl) (fun _ => rfl) unique,
    get?_reloaded friendsEcdhPriv (fun _ loaded => loaded.ecdhPriv) (fun _ _ _ => rfl)
      (fun _ => rfl) unique,
    get?_reloaded friendsCapabilities (fun row _ => some (row.capabilitiesJson.getD []))
      (fun _ _ _ => rfl) (fun _ => rfl) unique,
    get?_reloaded friendsPqcCombinedPub (fun _ loaded => loaded.pqcCombinedPub) (fun _ _ _ => rfl)
      (fun _ => rfl) unique,
    get?_reloaded friendsHybridSigPubs (fun _ loaded => loaded.hybridSigPubs) (fun _ _ _ => rfl)
      (fun _ => rfl) unique]

/-- The record of a friend whose row was read. -/
theorem friendRecord_reloaded {password : Bytes} {db : Database Pem}
    {read : List ((String × FriendRow) × LoadedFriend Pub)}
    (reads : readFriends P platform password db.friends.items = .ok read) (store : KeyStore Priv Pub)
    {name : String} {row : FriendRow} (found : db.friends.get? name = some row) :
    ∃ loaded, readFriend P platform password row = .ok loaded ∧
      friendRecord (addFriends read (withoutFriends store)) name = loaded.record row := by
  obtain ⟨loaded, readRow, named⟩ := (readFriends_named reads name).2 row found
  refine ⟨loaded, readRow, ?_⟩
  rw [friendRecord_addFriends reads, named]
  rfl

/-- Of a friend who is not in the table the store holds nothing. -/
theorem friendRecord_unlisted {password : Bytes} {db : Database Pem}
    {read : List ((String × FriendRow) × LoadedFriend Pub)}
    (reads : readFriends P platform password db.friends.items = .ok read) (store : KeyStore Priv Pub)
    {name : String} (absent : db.friends.get? name = none) :
    friendRecord (addFriends read (withoutFriends store)) name =
      ⟨none, none, none, none, none, none⟩ := by
  rw [friendRecord_addFriends reads, (readFriends_named reads name).1 absent]
  rfl

end Records

end Frames

end UltimateEnigma.KeyStore
