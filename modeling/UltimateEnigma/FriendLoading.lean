import UltimateEnigma.FriendCrud
import UltimateEnigma.PasswordChange

set_option autoImplicit false

namespace UltimateEnigma.Friends

open Py KeyStore

/-- The calls that write a friend. -/
inductive FriendCall where
  | saveFriend (update : FriendUpdate) (password : Bytes)
  | addFriend (update : FriendUpdate) (masterPassword : Bytes)
  | updateFriendPubKeys (masterPassword : Bytes) (new : NewKeys)
deriving DecidableEq, Repr

section Calls

variable {Priv Pub Pem : Type} (P : Primitives Priv Pub Pem) (platform : Platform)

def FriendCall.perform (name : String) (draws : Draws) : FriendCall → ServiceCall Priv Pub Pem Unit
  | .saveFriend update password =>
      onStore .passed (KeyStore.saveFriend P platform name update password draws)
  | .addFriend update masterPassword =>
      Friends.addFriend P platform name update masterPassword draws
  | .updateFriendPubKeys masterPassword new =>
      Friends.updateFriendPubKeys P platform name masterPassword new draws

/-- A fresh key store loads the database. -/
def Accepts (master : Bytes) (now : Rat) (draws : LoadDraws) (db : Database Pem) : Prop :=
  ∃ loaded, (load P platform master now draws).run ⟨{}, db⟩ = (.ok true, loaded)

/-- The call raises and changes nothing, or it succeeds and a fresh key store loads the database
with the friend in it. -/
def LeavesLoadable {ε : Type} (master : Bytes) (now : Rat) (loadDraws : LoadDraws) (name : String)
    (call : Call ε (Session Priv Pub Pem) Unit) (session : Session Priv Pub Pem) : Prop :=
  ((∃ raised, (call.run session).1 = .error raised) ∧ (call.run session).2 = session) ∨
  ((call.run session).1 = .ok () ∧ ∃ loaded,
    (load P platform master now loadDraws).run ⟨{}, (call.run session).2.db⟩ = (.ok true, loaded) ∧
      friendExists loaded.store name = true)

/-- What is saved misses a password, which is noticed before anything is written, or can be loaded
under the master password. -/
def Savable (master : Bytes) (update : FriendUpdate) (password : Bytes) : Prop :=
  (update.HasSecret ∧ password = []) ∨ update.Loads P platform password master

/-- The checks refuse the call, or the signing keys can be parsed, the PEM as well, and what secret
there is goes under the master password. -/
def FriendCall.Sound (master : Bytes) (name : String) (store : KeyStore Priv Pub) :
    FriendCall → Prop
  | .saveFriend update password => Savable P platform master update password
  | .addFriend update masterPassword =>
      (checkNewFriend name update masterPassword).isOk = false ∨
        Savable P platform master { update with ecdhPrivBytes := none } masterPassword
  | .updateFriendPubKeys masterPassword new =>
      (updatedFriend P store name masterPassword new).isOk = false ∨
        ((nonemptyBytes (getFriendSecret store name)).isSome = false ∧
          (store.friendsEcdhPriv.get? name).isSome = true) ∨
        ((readSigningKeys platform new.hybridSigB64).isOk = true ∧
          ((nonemptyBytes (getFriendSecret store name)).isSome = true → masterPassword = master))

variable {P platform} {master : Bytes} {now : Rat} {loadDraws : LoadDraws} {name : String}
variable {session : Session Priv Pub Pem} {update : FriendUpdate} {password : Bytes} {draws : Draws}

theorem wrapColumn_ok_iff {entropy : Entropy} {plain : Option Bytes} :
    (∃ column, wrapColumn P password entropy plain = .ok column) ↔
      (plain.isSome = true → password ≠ []) := by
  cases plain with
  | none =>
      constructor
      · intro _ given
        cases given
      · intro _
        exact ⟨none, rfl⟩
  | some plain =>
      rw [wrapColumn]
      constructor
      · rintro ⟨column, made⟩ _ rfl
        cases made
      · intro given
        have written : ¬ password.isEmpty = true := by
          rw [List.isEmpty_iff]
          exact given rfl
        rw [if_neg written]
        exact ⟨_, rfl⟩

/-- A row misses its password exactly where there is something to protect. -/
theorem savedRow_ok_iff {db : Database Pem} :
    (∃ row, savedRow P name update password draws db = .ok row) ↔
      (update.HasSecret → password ≠ []) := by
  have shared : (∃ column, wrapColumn P password (draws.sharedSecret name)
      (nonemptyBytes update.sharedSecret) = .ok column) ↔ _ := wrapColumn_ok_iff
  have ecdh : (∃ column, wrapColumn P password (draws.ecdhPriv name) update.ecdhPrivBytes =
      .ok column) ↔ _ := wrapColumn_ok_iff
  have both : (update.HasSecret → password ≠ []) ↔
      ((nonemptyBytes update.sharedSecret).isSome = true → password ≠ []) ∧
        (update.ecdhPrivBytes.isSome = true → password ≠ []) := or_imp
  rw [both, ← shared, ← ecdh]
  constructor
  · rintro ⟨row, made⟩
    obtain ⟨secretColumn, secretMade, made⟩ := ok_of_bind made
    obtain ⟨ecdhColumn, ecdhMade, _⟩ := ok_of_bind made
    exact ⟨⟨secretColumn, secretMade⟩, ecdhColumn, ecdhMade⟩
  · rintro ⟨⟨secretColumn, secretMade⟩, ecdhColumn, ecdhMade⟩
    rw [savedRow, secretMade, ecdhMade]
    exact ⟨_, rfl⟩

theorem reads_of_stored {db : Database Pem}
    {read : List ((String × FriendRow) × LoadedFriend Pub)}
    (reads : readFriends P platform master db.friends.items = .ok read) {row : FriendRow}
    (found : db.friends.get? name = some row) :
    ∃ loaded, readFriend P platform master row = .ok loaded :=
  readFriends_ok_iff.mp ⟨read, reads⟩ (name, row) (Dict.mem_of_get? found)

/-- Every friend still reads once a friend that reads is written. -/
theorem readFriends_replaceFriend {db : Database Pem} {row : FriendRow}
    (all : ∃ read, readFriends P platform master db.friends.items = .ok read)
    (reads : ∃ loaded, readFriend P platform master row = .ok loaded) :
    ∃ read, readFriends P platform master (db.replaceFriend name row).friends.items = .ok read := by
  apply readFriends_ok_iff.mpr
  rintro ⟨other, found⟩ member
  have stored := Dict.get?_of_mem _ member
  have written : ((db.friends.erase name).set name row).get? other = some found := stored
  by_cases same : other = name
  · rw [same, Dict.get?_set_self] at written
    cases written
    exact reads
  · rw [Dict.get?_set_of_ne _ _ same, Dict.get?_erase_of_ne _ same] at written
    obtain ⟨read, reads⟩ := all
    exact reads_of_stored reads written

theorem friendExists_of_loaded {loaded : Session Priv Pub Pem} {db : Database Pem} {row : FriendRow}
    (loads : (load P platform master now loadDraws).run ⟨{}, db⟩ = (.ok true, loaded))
    (found : db.friends.get? name = some row) : friendExists loaded.store name = true := by
  obtain ⟨read, reads, store⟩ := load_reads loads
  obtain ⟨friend, _, record⟩ := friendRecord_reloaded reads loaded.store found
  rw [← store] at record
  have key := congrArg FriendRecord.key record
  have listed : loaded.store.friends.lookup name = some (friend.pub, friend.secret) := key
  obtain ⟨before, after, split, _⟩ := List.lookup_eq_some_iff.mp listed
  rw [friendExists, split, List.any_append, List.any_cons, decide_eq_true rfl, Bool.true_or,
    Bool.or_true]

/-- A database that loads still does once a friend that reads is written, and then has that
friend. -/
theorem loads_replaceFriend {db : Database Pem} {row : FriendRow}
    (accepted : Accepts P platform master now loadDraws db)
    (reads : ∃ loaded, readFriend P platform master row = .ok loaded) :
    ∃ loaded, (load P platform master now loadDraws).run ⟨{}, db.replaceFriend name row⟩ =
      (.ok true, loaded) ∧ friendExists loaded.store name = true := by
  obtain ⟨before, loads⟩ := accepted
  obtain ⟨read, all, _⟩ := load_reads loads
  obtain ⟨after, replaced⟩ : ∃ after, readFriends P platform master
      (db.replaceFriend name row).friends.items = .ok after :=
    readFriends_replaceFriend ⟨read, all⟩ reads
  obtain ⟨rows, again⟩ := load_besides loads (db.keys .duressDecoyPrivkey) replaced
  have same : (Session.mk ({} : KeyStore Priv Pub) db).besides (db.replaceFriend name row).friends
      (db.keys .duressDecoyPrivkey) = ⟨{}, db.replaceFriend name row⟩ := by
    unfold Session.besides Database.besides
    rw [Function.update_eq_self]
    rfl
  rw [same] at again
  exact ⟨_, again, friendExists_of_loaded again (Dict.get?_set_self _ _ _)⟩

/-- A save that writes its row leaves a database that loads exactly where the row reads. -/
theorem saveFriend_leavesLoadable_iff (lawful : P.Lawful)
    (accepted : Accepts P platform master now loadDraws session.db) :
    LeavesLoadable P platform master now loadDraws name
        (KeyStore.saveFriend P platform name update password draws) session ↔
      Savable P platform master update password := by
  by_cases unwrapped : update.HasSecret ∧ password = []
  · have failed : ¬ ∃ row, savedRow P name update password draws session.db = .ok row := by
      rw [savedRow_ok_iff]
      exact fun given => given unwrapped.1 unwrapped.2
    cases made : savedRow P name update password draws session.db with
    | ok row => exact absurd ⟨row, made⟩ failed
    | error raised =>
        refine ⟨fun _ => .inl unwrapped, fun _ => .inl ?_⟩
        rw [saveFriend_run_unwrapped made]
        exact ⟨⟨raised, rfl⟩, rfl⟩
  · obtain ⟨row, made⟩ : ∃ row, savedRow P name update password draws session.db = .ok row := by
      rw [savedRow_ok_iff]
      exact fun given empty => unwrapped ⟨given, empty⟩
    have readable : (∃ loaded, readFriend P platform master row = .ok loaded) ↔ _ :=
      loads_iff lawful made master
    obtain ⟨pqcCombinedPub, _, run⟩ := saveFriend_run platform made
    have written : ((KeyStore.saveFriend P platform name update password draws).run session).2.db =
        session.db.replaceFriend name row := by
      rw [run]
      cases P.pemToPubkey update.pem with
      | error raised => rfl
      | ok pub => cases update.signingKeys platform <;> rfl
    have stored : (session.db.replaceFriend name row).friends.get? name = some row :=
      Dict.get?_set_self _ _ _
    rw [Savable, or_iff_right unwrapped, ← readable]
    constructor
    · rintro (⟨_, unchanged⟩ | ⟨_, loaded, loads, _⟩)
      · rw [unchanged] at written
        obtain ⟨before, loads⟩ := accepted
        obtain ⟨read, all, _⟩ := load_reads loads
        rw [← written] at stored
        exact reads_of_stored all stored
      · rw [written] at loads
        obtain ⟨read, all, _⟩ := load_reads loads
        exact reads_of_stored all stored
    · intro reads
      obtain ⟨⟨pub, parsed⟩, ⟨hybridSigPubs, signing⟩, _⟩ := readable.mp reads
      obtain ⟨loaded, loads, there⟩ := loads_replaceFriend accepted reads
      refine .inr ⟨?_, loaded, ?_, there⟩
      · rw [run, parsed]
        dsimp only
        rw [signing]
      · rw [written]
        exact loads

theorem leavesLoadable_onStore {refuse : KeyStore.Raised → ServiceRaised}
    {call : StoreCall Priv Pub Pem Unit} :
    LeavesLoadable P platform master now loadDraws name (onStore refuse call) session ↔
      LeavesLoadable P platform master now loadDraws name call session := by
  unfold LeavesLoadable
  rw [onStore_run]
  have results : ((∃ raised, ((onStore refuse call).run session).1 = .error raised) ↔
      ∃ raised, (call.run session).1 = .error raised) ∧
      (((onStore refuse call).run session).1 = .ok () ↔ (call.run session).1 = .ok ()) := by
    show ((∃ raised, (onStore refuse call session).1 = .error raised) ↔ _) ∧
      ((onStore refuse call session).1 = .ok () ↔ _)
    unfold onStore
    cases call.run session with
    | mk result after =>
        cases result with
        | ok value => exact ⟨by simp only [reduceCtorEq, exists_false], fun _ => rfl, fun _ => rfl⟩
        | error raised =>
            exact ⟨⟨fun _ => ⟨raised, rfl⟩, fun _ => ⟨refuse raised, rfl⟩⟩,
              by simp only [reduceCtorEq]⟩
  rw [results.1, results.2]

theorem addFriend_leavesLoadable_iff (lawful : P.Lawful)
    (accepted : Accepts P platform master now loadDraws session.db) :
    LeavesLoadable P platform master now loadDraws name
        (Friends.addFriend P platform name update password draws) session ↔
      (checkNewFriend name update password).isOk = false ∨
        Savable P platform master { update with ecdhPrivBytes := none } password := by
  unfold Friends.addFriend
  cases checked : checkNewFriend name update password with
  | error raised => exact ⟨fun _ => .inl rfl, fun _ => .inl ⟨⟨raised, rfl⟩, rfl⟩⟩
  | ok accepts =>
      have passes : ¬ (Except.ok accepts : Except ServiceRaised Unit).isOk = false := nofun
      have saves : LeavesLoadable P platform master now loadDraws name
          (onStore ServiceRaised.passed (KeyStore.saveFriend P platform name
            { update with ecdhPrivBytes := none } password draws)) session ↔ _ :=
        leavesLoadable_onStore.trans (saveFriend_leavesLoadable_iff lawful accepted)
      rw [or_iff_right passes, ← saves]
      rfl

/-- With an empty password no shared secret is preserved. -/
theorem updatedFriend_password {store : KeyStore Priv Pub} {masterPassword : Bytes} {new : NewKeys}
    {written : FriendUpdate × Bytes}
    (checked : updatedFriend P store name masterPassword new = .ok written)
    (secret : (nonemptyBytes (getFriendSecret store name)).isSome = true) : masterPassword ≠ [] := by
  rintro rfl
  unfold updatedFriend at checked
  dsimp only at checked
  rw [secret] at checked
  split at checked
  · cases checked
  split at checked
  · cases checked
  split at checked
  · cases checked
  · rename_i given
    exact given rfl

theorem isOk_iff {ε α : Type} {result : Except ε α} :
    result.isOk = true ↔ ∃ value, result = .ok value := by
  cases result with
  | error raised => exact ⟨nofun, nofun⟩
  | ok value => exact ⟨fun _ => ⟨value, rfl⟩, fun _ => rfl⟩

/-- What `update_friend_pub_keys` saves. -/
theorem savable_updatedFriend_iff (lawful : P.Lawful) {store : KeyStore Priv Pub}
    {masterPassword : Bytes} {new : NewKeys}
    (checked : updatedFriend P store name masterPassword new = .ok (update, password)) :
    Savable P platform master update password ↔
      ((nonemptyBytes (getFriendSecret store name)).isSome = false ∧
        (store.friendsEcdhPriv.get? name).isSome = true) ∨
      ((readSigningKeys platform new.hybridSigB64).isOk = true ∧
        ((nonemptyBytes (getFriendSecret store name)).isSome = true → masterPassword = master)) := by
  have parses := updatedFriend_parses lawful checked
  have signing : (update.signingKeys platform).isOk = _ := updatedFriend_signing checked
  obtain ⟨_, ⟨existing, found, _, shared, _, _, _, _, ecdh⟩, _, used⟩ := updatedFriend_ok checked
  obtain ⟨_, _, held, _⟩ := getFriendExistingKeys_ok found
  have protects : update.HasSecret ↔
      (nonemptyBytes (getFriendSecret store name)).isSome = true ∨
        (store.friendsEcdhPriv.get? name).isSome = true := by
    rw [FriendUpdate.HasSecret, shared, ecdh, held]
  have loads : update.Loads P platform password master ↔
      (readSigningKeys platform new.hybridSigB64).isOk = true ∧
        (update.HasSecret → password = master) := by
    rw [← signing, isOk_iff]
    exact ⟨fun loads => ⟨loads.signingKeys, loads.secret⟩, fun both => ⟨parses, both.1, both.2⟩⟩
  rw [Savable, loads, protects]
  cases secret : (nonemptyBytes (getFriendSecret store name)).isSome with
  | true =>
      have given := updatedFriend_password checked secret
      rw [secret, if_pos rfl] at used
      simp only [used, given, and_false, false_or, true_or, Bool.true_eq_false, false_and,
        forall_const]
  | false =>
      rw [secret] at used
      have empty : password = [] := used
      cases (store.friendsEcdhPriv.get? name).isSome with
      | true => simp only [empty, or_true, and_self, true_or]
      | false => simp only [Bool.false_eq_true, or_self, false_and, and_false, false_or,
          IsEmpty.forall_iff, and_true]

theorem updateFriendPubKeys_leavesLoadable_iff (lawful : P.Lawful)
    (accepted : Accepts P platform master now loadDraws session.db) {masterPassword : Bytes}
    {new : NewKeys} :
    LeavesLoadable P platform master now loadDraws name
        (Friends.updateFriendPubKeys P platform name masterPassword new draws) session ↔
      (FriendCall.updateFriendPubKeys masterPassword new).Sound P platform master name
        session.store := by
  unfold Friends.updateFriendPubKeys FriendCall.Sound LeavesLoadable
  simp only [Call.run_read_bind]
  cases checked : updatedFriend P session.store name masterPassword new with
  | error raised => exact ⟨fun _ => .inl rfl, fun _ => .inl ⟨⟨raised, rfl⟩, rfl⟩⟩
  | ok written =>
      obtain ⟨update, password⟩ := written
      have passes : ¬ (Except.ok (update, password) :
          Except ServiceRaised (FriendUpdate × Bytes)).isOk = false := by
        intro impossible
        cases impossible
      have saves : LeavesLoadable P platform master now loadDraws name
          (onStore ServiceRaised.passed (KeyStore.saveFriend P platform name update password draws))
          session ↔ _ :=
        leavesLoadable_onStore.trans (saveFriend_leavesLoadable_iff lawful accepted)
      rw [or_iff_right passes, ← savable_updatedFriend_iff lawful checked, ← saves]
      rfl

/-- A call that writes a friend leaves a key store that can be loaded exactly where the input is
sound. -/
theorem friend_call_leaves_loadable_iff (lawful : P.Lawful) (call : FriendCall)
    (accepted : Accepts P platform master now loadDraws session.db) :
    LeavesLoadable P platform master now loadDraws name (call.perform P platform name draws) session ↔
      call.Sound P platform master name session.store := by
  cases call with
  | saveFriend update password =>
      exact leavesLoadable_onStore.trans (saveFriend_leavesLoadable_iff lawful accepted)
  | addFriend update masterPassword => exact addFriend_leavesLoadable_iff lawful accepted
  | updateFriendPubKeys masterPassword new =>
      exact updateFriendPubKeys_leavesLoadable_iff lawful accepted

end Calls

section Example

theorem toyBefriended_accepts :
    Accepts toyLibraries toyPlatform [1] 0 toyLoadDraws toyBefriended.db :=
  ⟨_, Prod.ext (by decide +kernel) rfl⟩

/-- A friend with an X25519 key only. -/
def toyDave : FriendUpdate where
  pem := "dave's key"
  sharedSecret := none
  x25519PubB64 := some (b64encode (List.replicate 32 9))
  capabilities := none
  pqcCombinedPubB64 := none
  hybridSigPubB64 := none
  ecdhPrivBytes := none

theorem toyDave_added :
    LeavesLoadable toyLibraries toyPlatform [1] 0 toyLoadDraws "dave"
        ((FriendCall.addFriend toyDave []).perform toyLibraries toyPlatform "dave" toyDraws)
        toyBefriended ↔
      (FriendCall.addFriend toyDave []).Sound toyLibraries toyPlatform [1] "dave"
        toyBefriended.store :=
  friend_call_leaves_loadable_iff toyLibraries_lawful _ toyBefriended_accepts

/-- 36 bytes, which begin with the length of a key that takes up all of them. -/
def toyCutKeys : FriendUpdate :=
  { toyDave with hybridSigPubB64 := some (b64encode (0 :: 34 :: List.replicate 34 0)) }

/-- The call raises, the row is there, and the key store can no longer be loaded. -/
theorem toyCutKeys_bricks :
    (machine toyLibraries toyPlatform).Reachable (fun _ _ => True) toyBefriended ∧
    Accepts toyLibraries toyPlatform [1] 0 toyLoadDraws toyBefriended.db ∧
    (((FriendCall.addFriend toyCutKeys []).perform toyLibraries toyPlatform "dave" toyDraws).run
      toyBefriended).1 = .error (.passed .structError) ∧
    ((load toyLibraries toyPlatform [1] 0 toyLoadDraws).run
      ⟨{}, (((FriendCall.addFriend toyCutKeys []).perform toyLibraries toyPlatform "dave"
        toyDraws).run toyBefriended).2.db⟩).1 =
      .error (.keyStoreErrorFrom "Key loading failed: " .structError) ∧
    ¬ LeavesLoadable toyLibraries toyPlatform [1] 0 toyLoadDraws "dave"
      ((FriendCall.addFriend toyCutKeys []).perform toyLibraries toyPlatform "dave" toyDraws)
      toyBefriended := by
  have raised : (((FriendCall.addFriend toyCutKeys []).perform toyLibraries toyPlatform "dave"
      toyDraws).run toyBefriended).1 = .error (.passed .structError) := by decide +kernel
  have written : ((((FriendCall.addFriend toyCutKeys []).perform toyLibraries toyPlatform "dave"
      toyDraws).run toyBefriended).2.db.friends.get? "dave").isSome = true := by decide +kernel
  have absent : (toyBefriended.db.friends.get? "dave").isSome = false := by decide +kernel
  refine ⟨toyBefriended_reachable, toyBefriended_accepts, raised, by decide +kernel, ?_⟩
  rintro (⟨_, unchanged⟩ | ⟨succeeded, _⟩)
  · rw [unchanged, absent] at written
    cases written
  · rw [raised] at succeeded
    cases succeeded

end Example

end UltimateEnigma.Friends
