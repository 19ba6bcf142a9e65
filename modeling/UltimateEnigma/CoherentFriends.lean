import UltimateEnigma.FriendValues

set_option autoImplicit false

namespace UltimateEnigma.KeyStore

open Py

section Coherence

variable {Priv Pub Pem : Type} (P : Primitives Priv Pub Pem) (platform : Platform)

/-- The same friends in the same order. Capabilities that are missing and empty ones are the
same. -/
structure SameFriends (first second : KeyStore Priv Pub) : Prop where
  friends : first.friends = second.friends
  x25519 : ∀ name, first.friendsX25519.get? name = second.friendsX25519.get? name
  ecdhPriv : ∀ name, first.friendsEcdhPriv.get? name = second.friendsEcdhPriv.get? name
  capabilities : ∀ name, (first.friendsCapabilities.get? name).getD [] =
    (second.friendsCapabilities.get? name).getD []
  pqcCombinedPub : ∀ name,
    first.friendsPqcCombinedPub.get? name = second.friendsPqcCombinedPub.get? name
  hybridSigPubs : ∀ name,
    first.friendsHybridSigPubs.get? name = second.friendsHybridSigPubs.get? name

/-- A fresh key store loads the database, and then holds the friends that this one holds. -/
def Coherent (master : Bytes) (now : Rat) (draws : LoadDraws) (session : Session Priv Pub Pem) :
    Prop :=
  ∃ loaded, (load P platform master now draws).run ⟨{}, session.db⟩ = (.ok true, loaded) ∧
    SameFriends session.store loaded.store

variable {P platform} {master : Bytes}

theorem readFriends_append {first second : List (String × FriendRow)}
    {read others : List ((String × FriendRow) × LoadedFriend Pub)}
    (reads : readFriends P platform master first = .ok read)
    (readsOthers : readFriends P platform master second = .ok others) :
    readFriends P platform master (first ++ second) = .ok (read ++ others) := by
  induction first generalizing read with
  | nil =>
      cases reads
      exact readsOthers
  | cons item rest ih =>
      obtain ⟨loaded, readItem, reads⟩ := ok_of_bind reads
      obtain ⟨later, readsLater, reads⟩ := ok_of_bind reads
      cases reads
      rw [List.cons_append, readFriends, readItem, ok_bind, ih readsLater]
      rfl

theorem readFriends_filter (kept : String × FriendRow → Bool) {items : List (String × FriendRow)}
    {read : List ((String × FriendRow) × LoadedFriend Pub)}
    (reads : readFriends P platform master items = .ok read) :
    readFriends P platform master (items.filter kept) =
      .ok (read.filter fun friend => kept friend.1) := by
  induction items generalizing read with
  | nil =>
      cases reads
      rfl
  | cons item rest ih =>
      obtain ⟨loaded, readItem, reads⟩ := ok_of_bind reads
      obtain ⟨later, readsLater, reads⟩ := ok_of_bind reads
      cases reads
      rw [List.filter_cons, List.filter_cons]
      dsimp only
      split
      · rw [readFriends, readItem, ok_bind, ih readsLater]
        rfl
      · exact ih readsLater

/-- What is read once one friend's row was replaced: the others, then that row. -/
def replacedFriend (name : String) (row : FriendRow) (loaded : LoadedFriend Pub)
    (read : List ((String × FriendRow) × LoadedFriend Pub)) :
    List ((String × FriendRow) × LoadedFriend Pub) :=
  (read.filter fun friend => friend.1.1 ≠ name) ++ [((name, row), loaded)]

variable {name : String} {row : FriendRow} {loaded : LoadedFriend Pub} {db : Database Pem}
variable {read : List ((String × FriendRow) × LoadedFriend Pub)}

theorem items_replaceFriend (db : Database Pem) (name : String) (row : FriendRow) :
    (db.replaceFriend name row).friends.items =
      (db.friends.items.filter fun item => item.1 ≠ name) ++ [(name, row)] := by
  have absent : name ∉ (db.friends.erase name).keys := by
    rw [← Dict.get?_eq_none_iff]
    exact Dict.get?_erase_self _ _
  show ((db.friends.erase name).set name row).items = _
  rw [Dict.set, dif_neg absent]
  rfl

theorem readFriends_replaced (reads : readFriends P platform master db.friends.items = .ok read)
    (readRow : readFriend P platform master row = .ok loaded) :
    readFriends P platform master (db.replaceFriend name row).friends.items =
      .ok (replacedFriend name row loaded read) := by
  rw [items_replaceFriend]
  refine readFriends_append (readFriends_filter _ reads) ?_
  rw [readFriends, readRow]
  rfl

theorem friendNamed_replaced (name other : String) (row : FriendRow) (loaded : LoadedFriend Pub)
    (read : List ((String × FriendRow) × LoadedFriend Pub)) :
    friendNamed other (replacedFriend name row loaded read) =
      if other = name then some ((name, row), loaded) else friendNamed other read := by
  unfold replacedFriend
  induction read with
  | nil => exact friendNamed_cons other _ []
  | cons friend rest ih =>
      by_cases dropped : friend.1.1 = name
      · have gone : ¬ decide (friend.1.1 ≠ name) = true := by
          rw [decide_eq_true_eq, not_not]
          exact dropped
        rw [List.filter_cons, if_neg gone, ih, friendNamed_cons, dropped]
        by_cases same : other = name
        · rw [if_pos same, if_pos same]
        · rw [if_neg same, if_neg same, if_neg same]
      · rw [List.filter_cons, if_pos (decide_eq_true dropped), List.cons_append, friendNamed_cons,
          friendNamed_cons, ih]
        by_cases here : other = friend.1.1
        · have apart : other ≠ name := by
            rw [here]
            exact dropped
          rw [if_pos here, if_neg apart, if_pos here]
        · rw [if_neg here, if_neg here]

/-- The list of friends as it is read. -/
def readEntries (read : List ((String × FriendRow) × LoadedFriend Pub)) :
    List (String × Pub × Option Bytes) :=
  read.map fun friend => (friend.1.1, friend.2.pub, friend.2.secret)

theorem addFriends_friends (read : List ((String × FriendRow) × LoadedFriend Pub))
    (store : KeyStore Priv Pub) :
    (addFriends read store).friends = store.friends ++ readEntries read := by
  induction read generalizing store with
  | nil => exact (List.append_nil _).symm
  | cons friend rest ih =>
      refine (ih _).trans ?_
      show store.friends ++ [_] ++ readEntries rest = _
      rw [List.append_assoc]
      rfl

theorem readEntries_replaced (name : String) (row : FriendRow) (loaded : LoadedFriend Pub)
    (read : List ((String × FriendRow) × LoadedFriend Pub)) :
    readEntries (replacedFriend name row loaded read) =
      (readEntries read).filter (fun friend => friend.1 ≠ name) ++
        [(name, loaded.pub, loaded.secret)] := by
  rw [readEntries, replacedFriend, List.map_append, readEntries, List.filter_map]
  rfl

theorem names_replaced (unique : (read.map fun friend => friend.1.1).Nodup) :
    ((replacedFriend name row loaded read).map fun friend => friend.1.1).Nodup := by
  rw [replacedFriend, List.map_append]
  have rest : ((read.filter fun friend => friend.1.1 ≠ name).map fun friend => friend.1.1).Nodup :=
    unique.sublist (List.filter_sublist.map _)
  refine List.nodup_append.mpr ⟨rest, List.nodup_singleton _, ?_⟩
  intro first inside second last same
  obtain ⟨friend, member, rfl⟩ := List.mem_map.mp inside
  obtain ⟨_, kept⟩ := List.mem_filter.mp member
  rw [List.map_singleton, List.mem_singleton] at last
  rw [decide_eq_true_eq] at kept
  exact kept (same.trans last)

/-- A dictionary of a fresh store, after one row was replaced. -/
theorem get?_replaced {ν : Type} (view : KeyStore Priv Pub → Dict String ν)
    (column : FriendRow → LoadedFriend Pub → Option ν)
    (adds : ∀ item loaded store, view (addFriend item loaded store) =
      setIfSome (view store) item.1 (column item.2 loaded))
    (clears : ∀ store, view (withoutFriends store) = .empty)
    (unique : (read.map fun friend => friend.1.1).Nodup) (store : KeyStore Priv Pub)
    (other : String) :
    (view (addFriends (replacedFriend name row loaded read) (withoutFriends store))).get? other =
      if other = name then column row loaded
      else (view (addFriends read (withoutFriends store))).get? other := by
  rw [get?_reloaded view column adds clears (names_replaced unique),
    get?_reloaded view column adds clears unique, friendNamed_replaced]
  split <;> rfl

variable {now : Rat} {draws : Draws} {loadDraws : LoadDraws} {update : FriendUpdate}
variable {password : Bytes} {session after : Session Priv Pub Pem} {pub : Pub}
variable {pqcCombinedPub : Option Bytes} {hybridSigPubs : Option (Bytes × Bytes)}

/-- What a fresh key store reads in the row of a save. -/
theorem Saved.readFriend (lawful : P.Lawful)
    (saved : Saved P platform name update password draws session after row pub pqcCombinedPub
      hybridSigPubs)
    (own : update.HasSecret → password = master) :
    readFriend P platform master row =
      .ok ⟨pub, nonemptyBytes update.sharedSecret, update.ecdhPrivBytes, pqcCombinedPub,
        hybridSigPubs⟩ := by
  have open_ : ¬ (update.HasSecret ∧ master ≠ password) := fun guarded =>
    guarded.2 (own guarded.1).symm
  rw [readFriend_savedRow lawful saved.made, saved.publicKey, ok_bind, if_neg open_, saved.pqcKey,
    ok_bind, saved.signingKeys]
  rfl

/-- The columns of a row that a save wrote in the clear. -/
theorem columns_savedRow (made : savedRow P name update password draws db = .ok row) :
    row.publicKeyPem = update.pem ∧ row.x25519PublicKeyB64 = update.x25519PubB64 ∧
      row.capabilitiesJson = nonemptyCapabilities update.capabilities ∧
      row.pqcCombinedPubB64 = update.pqcCombinedPubB64 ∧
      row.hybridSigPubB64 = update.hybridSigPubB64 := by
  obtain ⟨_, _, made⟩ := ok_of_bind made
  obtain ⟨_, _, made⟩ := ok_of_bind made
  cases made
  exact ⟨rfl, rfl, rfl, rfl, rfl⟩

/-- A save under the master password keeps the store what a fresh one would load. -/
theorem coherent_of_saved (lawful : P.Lawful)
    (coherent : Coherent P platform master now loadDraws session)
    (saved : Saved P platform name update password draws session after row pub pqcCombinedPub
      hybridSigPubs)
    (own : update.HasSecret → password = master) :
    Coherent P platform master now loadDraws after := by
  obtain ⟨before, loads, same⟩ := coherent
  obtain ⟨read, reads, fresh⟩ := load_reads loads
  have readRow := saved.readFriend lawful own
  have replaced : readFriends P platform master
      (session.db.replaceFriend name row).friends.items = .ok (replacedFriend name row
        ⟨pub, nonemptyBytes update.sharedSecret, update.ecdhPrivBytes, pqcCombinedPub,
          hybridSigPubs⟩ read) :=
    readFriends_replaced reads readRow
  obtain ⟨rows, again⟩ := load_besides loads (session.db.keys .duressDecoyPrivkey) replaced
  have beside : (Session.mk ({} : KeyStore Priv Pub) session.db).besides
      (session.db.replaceFriend name row).friends (session.db.keys .duressDecoyPrivkey) =
        ⟨{}, session.db.replaceFriend name row⟩ := by
    unfold Session.besides Database.besides
    rw [Function.update_eq_self]
    rfl
  rw [beside] at again
  have unique : (read.map fun friend => friend.1.1).Nodup := by
    rw [readFriends_names reads]
    exact session.db.friends.nodup
  obtain ⟨_, x25519, capabilities, _, _⟩ := columns_savedRow saved.made
  have result := saved.result
  rw [fresh] at same
  rw [result]
  refine ⟨_, again, ⟨?_, fun other => ?_, fun other => ?_, fun other => ?_, fun other => ?_,
    fun other => ?_⟩⟩
  · have listed := same.friends
    rw [addFriends_friends] at listed ⊢
    rw [readEntries_replaced]
    show session.store.friends.filter (fun friend => friend.1 ≠ name) ++ _ = [] ++ _
    rw [listed]
    rfl
  · rw [get?_replaced friendsX25519 (fun row _ => nonempty row.x25519PublicKeyB64)
      (fun _ _ _ => rfl) (fun _ => rfl) unique, ← same.x25519 other, x25519]
    exact get?_setOrPop session.store.friendsX25519 name other _
  · rw [get?_replaced friendsEcdhPriv (fun _ loaded => loaded.ecdhPriv) (fun _ _ _ => rfl)
      (fun _ => rfl) unique, ← same.ecdhPriv other]
    exact get?_setOrPop session.store.friendsEcdhPriv name other _
  · rw [get?_replaced friendsCapabilities (fun row _ => some (row.capabilitiesJson.getD []))
      (fun _ _ _ => rfl) (fun _ => rfl) unique, capabilities]
    have written := get?_setOrPop session.store.friendsCapabilities name other
      (nonemptyCapabilities update.capabilities)
    rw [show (storeWithSigning name hybridSigPubs (storeWithKeys name update pub pqcCombinedPub
      session.store)).friendsCapabilities.get? other = _ from written]
    by_cases here : other = name
    · rw [if_pos here, if_pos here, Option.getD_some]
    · rw [if_neg here, if_neg here]
      exact same.capabilities other
  · rw [get?_replaced friendsPqcCombinedPub (fun _ loaded => loaded.pqcCombinedPub)
      (fun _ _ _ => rfl) (fun _ => rfl) unique, ← same.pqcCombinedPub other]
    exact get?_setOrPop session.store.friendsPqcCombinedPub name other _
  · rw [get?_replaced friendsHybridSigPubs (fun _ loaded => loaded.hybridSigPubs)
      (fun _ _ _ => rfl) (fun _ => rfl) unique, ← same.hybridSigPubs other]
    exact get?_setOrPop session.store.friendsHybridSigPubs name other _

/-- The friend's entries, as his row reads. -/
theorem Coherent.reads (coherent : Coherent P platform master now loadDraws session)
    (stored : session.db.friends.get? name = some row) :
    ∃ loaded, readFriend P platform master row = .ok loaded ∧
      session.store.friends.lookup name = some (loaded.pub, loaded.secret) ∧
      session.store.friendsX25519.get? name = nonempty row.x25519PublicKeyB64 ∧
      session.store.friendsEcdhPriv.get? name = loaded.ecdhPriv ∧
      (session.store.friendsCapabilities.get? name).getD [] = row.capabilitiesJson.getD [] ∧
      session.store.friendsPqcCombinedPub.get? name = loaded.pqcCombinedPub ∧
      session.store.friendsHybridSigPubs.get? name = loaded.hybridSigPubs := by
  obtain ⟨before, loads, same⟩ := coherent
  obtain ⟨read, reads, fresh⟩ := load_reads loads
  obtain ⟨loaded, readRow, record⟩ := friendRecord_reloaded reads before.store stored
  rw [← fresh] at record
  refine ⟨loaded, readRow, ?_, ?_, ?_, ?_, ?_, ?_⟩
  · rw [same.friends]
    exact congrArg FriendRecord.key record
  · exact (same.x25519 name).trans (congrArg FriendRecord.x25519 record)
  · exact (same.ecdhPriv name).trans (congrArg FriendRecord.ecdhPriv record)
  · have held : before.store.friendsCapabilities.get? name = some (row.capabilitiesJson.getD []) :=
      congrArg FriendRecord.capabilities record
    rw [same.capabilities, held, Option.getD_some]
  · exact (same.pqcCombinedPub name).trans (congrArg FriendRecord.pqcCombinedPub record)
  · exact (same.hybridSigPubs name).trans (congrArg FriendRecord.hybridSigPubs record)

theorem loadedRows_readLegacyKey (db : Database Pem) (password : Bytes) (now : Rat)
    (draws : LoadDraws) :
    readLegacyKey P (loadedRows P db password now draws) password now =
      readLegacyKey P db password now := by
  have kept : readLegacyKey P (keepUnexpired db now) password now =
      readLegacyKey P db password now := by
    unfold keepUnexpired
    split
    · rfl
    · rename_i pem stored
      split
      · rfl
      · rename_i expired
        have gone : db.deleteLegacyKey.keys .legacyPrivateKeyEncrypted = none := by
          simp only [Database.deleteLegacyKey, Function.update_self]
        rw [readLegacyKey, gone, readLegacyKey, stored]
        exact (if_neg expired).symm
  unfold loadedRows
  dsimp only
  split <;> exact kept

theorem loadedRows_privateKey (db : Database Pem) (password : Bytes) (now : Rat)
    (draws : LoadDraws) :
    (loadedRows P db password now draws).keys .privateKeyEncrypted =
      db.keys .privateKeyEncrypted := by
  have kept : (keepUnexpired db now).keys .privateKeyEncrypted = db.keys .privateKeyEncrypted := by
    unfold keepUnexpired
    split
    · rfl
    · split
      · rfl
      · have apart : KeySetting.privateKeyEncrypted ≠ .legacyPrivateKeyEncrypted := by decide
        simp only [Database.deleteLegacyKey, Function.update_of_ne apart]
  unfold loadedRows
  dsimp only
  split <;> exact kept

theorem loadedRows_ratchetKey (lawful : P.Lawful) {db : Database Pem} {now : Rat}
    {draws : LoadDraws} {key : Bytes} (read : readRatchetKey P db password draws = .ok key) :
    readRatchetKey P (loadedRows P db password now draws) password draws = .ok key := by
  unfold loadedRows
  cases stored : db.secrets .ratchetStorageKey with
  | some wrapper =>
      dsimp only
      rw [readRatchetKey, keepUnexpired_secrets]
      exact read
  | none =>
      rw [readRatchetKey, stored] at read
      cases read
      have written : ((keepUnexpired db now).setSecret .ratchetStorageKey
          (wrap P draws.ratchetKey password draws.ratchetKeyEntropy)).secrets .ratchetStorageKey =
            some (wrap P draws.ratchetKey password draws.ratchetKeyEntropy) := by
        simp only [Database.setSecret, Function.update_self]
      show (unwrapColumn P (((keepUnexpired db now).setSecret .ratchetStorageKey
        (wrap P draws.ratchetKey password draws.ratchetKeyEntropy)).secrets .ratchetStorageKey)
          password).map _ = _
      rw [written, unwrapColumn, unwrap_wrap lawful, if_pos rfl]
      rfl

/-- Two stores that have read the same friends anew hold the same ones. -/
theorem sameFriends_of_reads (unique : (read.map fun friend => friend.1.1).Nodup)
    (first second : KeyStore Priv Pub) :
    SameFriends (addFriends read (withoutFriends first)) (addFriends read (withoutFriends second)) := by
  have same {ν : Type} (view : KeyStore Priv Pub → Dict String ν)
      (column : FriendRow → LoadedFriend Pub → Option ν)
      (adds : ∀ item loaded store, view (addFriend item loaded store) =
        setIfSome (view store) item.1 (column item.2 loaded))
      (clears : ∀ store, view (withoutFriends store) = .empty) (name : String) :
      (view (addFriends read (withoutFriends first))).get? name =
        (view (addFriends read (withoutFriends second))).get? name := by
    rw [get?_reloaded view column adds clears unique, get?_reloaded view column adds clears unique]
  refine ⟨?_, same friendsX25519 (fun row _ => nonempty row.x25519PublicKeyB64) (fun _ _ _ => rfl)
      fun _ => rfl,
    same friendsEcdhPriv (fun _ loaded => loaded.ecdhPriv) (fun _ _ _ => rfl) fun _ => rfl,
    fun name => congrArg (Option.getD · []) (same friendsCapabilities
      (fun row _ => some (row.capabilitiesJson.getD [])) (fun _ _ _ => rfl) (fun _ => rfl) name),
    same friendsPqcCombinedPub (fun _ loaded => loaded.pqcCombinedPub) (fun _ _ _ => rfl)
      fun _ => rfl,
    same friendsHybridSigPubs (fun _ loaded => loaded.hybridSigPubs) (fun _ _ _ => rfl)
      fun _ => rfl⟩
  rw [addFriends_friends, addFriends_friends]
  rfl

/-- A load of a sound database leaves a coherent session. -/
theorem coherent_of_load (lawful : P.Lawful) (sound : Sound P session.db)
    (loads : (load P platform master now loadDraws).run session = (.ok true, after)) :
    Coherent P platform master now loadDraws after := by
  have soundAfter : Sound P ((load P platform master now loadDraws).run session).2.db :=
    load_maintains master now loadDraws session sound
  rw [loads] at soundAfter
  obtain ⟨read, reads, fresh⟩ := load_reads loads
  obtain ⟨readings, key, opened, keyRead, rfl⟩ := (load_true_iff lawful sound).mp loads
  have again : Reads P platform (loadedRows P session.db master now loadDraws) master now
      readings := by
    obtain ⟨pub, priv, legacy, globalSecret, kyber, x25519, hybrid, friends⟩ := opened
    refine ⟨?_, ?_, ?_, ?_, ?_, ?_, ?_, ?_⟩
    · rwa [loadedRows_texts _ _ _ _ (by decide)]
    · rwa [loadedRows_privateKey]
    · rwa [loadedRows_readLegacyKey]
    · rwa [loadedRows_secrets _ _ _ _ (by decide)]
    · rwa [loadedRows_secrets _ _ _ _ (by decide)]
    · rwa [loadedRows_secrets _ _ _ _ (by decide)]
    · rwa [readHybridKeys, loadedRows_secrets _ _ _ _ (by decide),
        loadedRows_secrets _ _ _ _ (by decide)]
    · rwa [loadedRows_friends]
  have reloads : ∃ second, (load P platform master now loadDraws).run
      ⟨{}, loadedRows P session.db master now loadDraws⟩ = (.ok true, second) :=
    ⟨_, (load_true_iff lawful (by exact soundAfter)).mpr
      ⟨readings, key, again, loadedRows_ratchetKey lawful keyRead, rfl⟩⟩
  obtain ⟨second, reloads⟩ := reloads
  refine ⟨second, reloads, ?_⟩
  obtain ⟨others, readsAgain, freshAgain⟩ := load_reads reloads
  have same : others = read := by
    rw [loadedRows_friends, reads] at readsAgain
    exact (Except.ok.inj readsAgain).symm
  have unique : (read.map fun friend => friend.1.1).Nodup := by
    rw [readFriends_names reads]
    exact session.db.friends.nodup
  rw [fresh, freshAgain, same]
  exact sameFriends_of_reads unique _ _

end Coherence

end UltimateEnigma.KeyStore
