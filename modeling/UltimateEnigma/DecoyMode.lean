import UltimateEnigma.DecoyMemory
import UltimateEnigma.FriendCrud
import UltimateEnigma.PasswordChange
import UltimateEnigma.SavedFriends

set_option autoImplicit false

namespace UltimateEnigma.KeyStore

open Py
open Friends (ServiceRaised ServiceCall Guard NewKeys)

/-- What can be asked of the services in the decoy mode, with what they generate and draw. -/
inductive DecoyOperation (Priv : Type) where
  | addFriend (name : String) (update : FriendUpdate) (password : Bytes) (draws : Draws)
  | removeFriend (name : String)
  | updateFriendPubKeys (name : String) (password : Bytes) (new : NewKeys) (draws : Draws)
  | generateHybridSigKeys (generated : Option HybridKeys) (password : Bytes) (draws : Draws)
  | generatePqcKeys (keys : PqcBundle) (password : Bytes) (draws : Draws)
  | pqcDecapsulate (ciphertextB64 : String) (password : Bytes) (keys : PqcBundle) (draws : Draws)
  | ensurePqcKeys (password : Bytes) (keys : PqcBundle) (draws : Draws)
  | updateSecret (guard : Guard) (newSecret password : Bytes) (draws : Draws)
  | rotateRsaKey (password : Bytes) (priv : Priv) (now : Rat) (draws : Draws)

/-- The password that an operation is given. -/
def DecoyOperation.password? {Priv : Type} : DecoyOperation Priv → Option Bytes
  | .addFriend _ _ password _ => some password
  | .removeFriend _ => none
  | .updateFriendPubKeys _ password _ _ => some password
  | .generateHybridSigKeys _ password _ => some password
  | .generatePqcKeys _ password _ => some password
  | .pqcDecapsulate _ password _ _ => some password
  | .ensurePqcKeys password _ _ => some password
  | .updateSecret _ _ password _ => some password
  | .rotateRsaKey password _ _ _ => some password

section Decoy

variable {Priv Pub Pem : Type} (P : Primitives Priv Pub Pem) (platform : Platform)
variable (K : KemLibrary)

def DecoyOperation.perform (session : Session Priv Pub Pem) :
    DecoyOperation Priv → Session Priv Pub Pem
  | .addFriend name update password draws =>
      ((Friends.addFriend P platform name update password draws).run session).2
  | .removeFriend name => ((Friends.removeFriend name).run session).2
  | .updateFriendPubKeys name password new draws =>
      ((Friends.updateFriendPubKeys P platform name password new draws).run session).2
  | .generateHybridSigKeys generated password draws =>
      ((Friends.generateHybridSigKeys P generated password draws).run session).2
  | .generatePqcKeys keys password draws =>
      ((Friends.generatePqcKeys P platform keys password draws).run session).2
  | .pqcDecapsulate ciphertextB64 password keys draws =>
      ((Friends.pqcDecapsulate P platform K ciphertextB64 password keys draws).run session).2
  | .ensurePqcKeys password keys draws =>
      ((KeyStore.ensurePqcKeys P platform password keys draws).run session).2
  | .updateSecret guard newSecret password draws =>
      ((Friends.updateSecret P guard newSecret password draws).run session).2
  | .rotateRsaKey password priv now draws =>
      ((KeyStore.rotateRsaKey P password priv now draws).run session).2

/-- Runs of the decoy mode over the database of a real identity: they begin with
`load_duress_decoy`, and no operation is given the master password. -/
def decoyMachine (real : Database Pem) (master : Bytes) :
    Machine (Session Priv Pub Pem) (DecoyOperation Priv) where
  start session := ∃ store password generated fakeSecret draws,
    session = ((loadDuressDecoy P password generated fakeSecret draws).run ⟨store, real⟩).2
  enabled _ operation := operation.password? ≠ some master
  apply session operation := operation.perform P platform K session

/-- A later load under the master password returns `True` whenever it would have before the decoy
mode, with the same secrets and with every friend of the real identity as before. -/
def Unharmed (real : Database Pem) (master : Bytes) (db : Database Pem) : Prop :=
  ∀ (now : Rat) (draws : LoadDraws) (before : Session Priv Pub Pem),
    (load P platform master now draws).run ⟨{}, real⟩ = (.ok true, before) →
      ∃ after, (load P platform master now draws).run ⟨{}, db⟩ = (.ok true, after) ∧
        withoutFriends after.store = withoutFriends before.store ∧
        ∀ name ∈ real.friends.keys, db.friends.get? name = real.friends.get? name ∧
          friendRecord after.store name = friendRecord before.store name

/-- The steps that leave the real rows alone: those that are refused, and those that touch rows of
the decoy's own friends only, which then have to be readable without a password. -/
def Harmless (real : Database Pem) (session : Session Priv Pub Pem) :
    DecoyOperation Priv → Prop
  | .addFriend name update password _ =>
      (Friends.checkNewFriend name update password).isOk = false ∨
        name ∉ real.friends.keys ∧ nonemptyBytes update.sharedSecret = none ∧
          (P.pemToPubkey update.pem).isOk = true ∧ (update.signingKeys platform).isOk = true
  | .removeFriend name =>
      Friends.friendExists session.store name = false ∨ name ∉ real.friends.keys
  | .updateFriendPubKeys name password new _ =>
      (Friends.updatedFriend P session.store name password new).isOk = false ∨
        name ∉ real.friends.keys ∧ (readSigningKeys platform new.hybridSigB64).isOk = true
  | .generateHybridSigKeys generated _ _ => generated = none
  | .generatePqcKeys .. => platform.pqcAvailable = false
  | .pqcDecapsulate .. => platform.pqcAvailable = false ∨
      (real.secrets .kyberPrivEncrypted).isSome = true ∧
        (real.secrets .pqcX25519PrivEncrypted).isSome = true ∧
        (real.texts .pqcCombinedPubB64).isSome = true
  | .ensurePqcKeys .. => platform.pqcAvailable = false ∨
      session.store.myKyberPriv.isSome = true ∧ session.store.myPqcCombinedPub.isSome = true
  | .updateSecret .. => True
  | .rotateRsaKey .. => True

/-- The database in the decoy mode: the real rows are all there, and what friends there are beside
them can be read under the master password. -/
structure Beside (real : Database Pem) (master : Bytes) (db : Database Pem) : Prop where
  rows : ∃ friends pem, db = real.besides friends pem
  kept {name : String} {row : FriendRow} (found : real.friends.get? name = some row) :
    db.friends.get? name = some row
  readable {name : String} {row : FriendRow} (found : db.friends.get? name = some row)
    (own : name ∉ real.friends.keys) :
    ∃ loaded, readFriend P platform master row = .ok loaded

/-- What every state of the decoy mode keeps. -/
structure Behind (real : Database Pem) (master : Bytes) (session : Session Priv Pub Pem) : Prop
    where
  beside : Beside P platform real master session.db
  duress : session.store.duressMode = true
  noSecrets : ∀ friend ∈ session.store.friends, friend.2.2 = none
  noEcdh (name : String) : session.store.friendsEcdhPriv.get? name = none

variable {P platform K} {real : Database Pem} {master : Bytes} {session : Session Priv Pub Pem}

theorem beside_self (pem : Option Pem) :
    Beside P platform real master (real.besides real.friends pem) where
  rows := ⟨_, _, rfl⟩
  kept found := found
  readable {name row} found own := by
    have absent := (Dict.get?_eq_none_iff real.friends name).mpr own
    have same : real.friends.get? name = some row := found
    rw [absent] at same
    cases same

/-- A friend of the decoy's own is written. -/
theorem Beside.replaceFriend {db : Database Pem} (beside : Beside P platform real master db)
    {name : String} (own : name ∉ real.friends.keys) {row : FriendRow}
    (reads : ∃ loaded, readFriend P platform master row = .ok loaded) :
    Beside P platform real master (db.replaceFriend name row) where
  rows := by
    obtain ⟨friends, pem, rfl⟩ := beside.rows
    exact ⟨_, pem, rfl⟩
  kept {other found} there := by
    have apart : other ≠ name := by
      rintro rfl
      have absent := (Dict.get?_eq_none_iff real.friends other).mpr own
      rw [absent] at there
      cases there
    show ((db.friends.erase name).set name row).get? other = _
    rw [Dict.get?_set_of_ne _ _ apart, Dict.get?_erase_of_ne _ apart]
    exact beside.kept there
  readable {other found} there elsewhere := by
    by_cases same : other = name
    · subst same
      have written : ((db.friends.erase other).set other row).get? other = some found := there
      rw [Dict.get?_set_self] at written
      cases written
      exact reads
    · have before : ((db.friends.erase name).set name row).get? other = some found := there
      rw [Dict.get?_set_of_ne _ _ same, Dict.get?_erase_of_ne _ same] at before
      exact beside.readable before elsewhere

theorem Beside.deleteFriend {db : Database Pem} (beside : Beside P platform real master db)
    {name : String} (own : name ∉ real.friends.keys) :
    Beside P platform real master (db.deleteFriend name) where
  rows := by
    obtain ⟨friends, pem, rfl⟩ := beside.rows
    exact ⟨_, pem, rfl⟩
  kept {other found} there := by
    have apart : other ≠ name := by
      rintro rfl
      have absent := (Dict.get?_eq_none_iff real.friends other).mpr own
      rw [absent] at there
      cases there
    show (db.friends.erase name).get? other = _
    rw [Dict.get?_erase_of_ne _ apart]
    exact beside.kept there
  readable {other found} there elsewhere := by
    have before : (db.friends.erase name).get? other = some found := there
    rw [Dict.get?_erase] at before
    split at before
    · cases before
    · exact beside.readable before elsewhere

/-- The real identity is still there behind the decoy. -/
theorem unharmed_of_beside {db : Database Pem} (beside : Beside P platform real master db) :
    Unharmed P platform real master db := by
  intro now draws before loaded
  obtain ⟨realRead, realReads, sameStore⟩ := load_reads loaded
  have every : ∀ item ∈ db.friends.items,
      ∃ loaded, readFriend P platform master item.2 = .ok loaded := by
    rintro ⟨name, row⟩ member
    have found := Dict.get?_of_mem db.friends member
    by_cases own : name ∈ real.friends.keys
    · cases there : real.friends.get? name with
      | none => exact absurd own ((Dict.get?_eq_none_iff _ _).mp there)
      | some stored =>
          have same := beside.kept there
          rw [found] at same
          cases same
          exact readFriends_ok_iff.mp ⟨realRead, realReads⟩ (name, row) (Dict.mem_of_get? there)
    · exact beside.readable found own
  obtain ⟨read, reads⟩ := readFriends_ok_iff.mpr every
  obtain ⟨friends, pem, same⟩ := beside.rows
  have friendsSame : db.friends = friends := by
    rw [same]
    rfl
  rw [friendsSame] at reads
  obtain ⟨rows, loadedToo⟩ := load_besides loaded pem reads
  refine ⟨⟨addFriends read (withoutFriends before.store), rows⟩, ?_, ?_, ?_⟩
  · rw [same]
    exact loadedToo
  · exact withoutFriends_addFriends read _
  · intro name own
    cases there : real.friends.get? name with
    | none => exact absurd own ((Dict.get?_eq_none_iff _ _).mp there)
    | some row =>
        have found := beside.kept there
        refine ⟨found, ?_⟩
        obtain ⟨first, firstRead, firstRecord⟩ :=
          friendRecord_reloaded realReads before.store there
        rw [← friendsSame] at reads
        obtain ⟨second, secondRead, secondRecord⟩ :=
          friendRecord_reloaded reads before.store found
        rw [firstRead] at secondRead
        cases secondRead
        have same := congrArg (fun store => friendRecord store name) sameStore
        exact secondRecord.trans (firstRecord.symm.trans same.symm)

theorem savedRow_of_plain {name : String} {update : FriendUpdate} {password : Bytes}
    {draws : Draws} {db : Database Pem} (noShared : nonemptyBytes update.sharedSecret = none)
    (noEcdh : update.ecdhPrivBytes = none) :
    ∃ row, savedRow P name update password draws db = .ok row := by
  unfold savedRow
  rw [noShared, noEcdh]
  exact ⟨_, rfl⟩

/-- Saving a friend of the decoy's own that holds no secret. -/
theorem Behind.saveFriend (lawful : P.Lawful) (behind : Behind P platform real master session)
    {name : String} {update : FriendUpdate} (own : name ∉ real.friends.keys)
    (noShared : nonemptyBytes update.sharedSecret = none) (noEcdh : update.ecdhPrivBytes = none)
    (pem : (P.pemToPubkey update.pem).isOk = true)
    (signing : (update.signingKeys platform).isOk = true) (password : Bytes) (draws : Draws) :
    Behind P platform real master
      ((KeyStore.saveFriend P platform name update password draws).run session).2 := by
  have plain : ¬ update.HasSecret := by
    rintro (shared | ecdh)
    · rw [noShared] at shared
      cases shared
    · rw [noEcdh] at ecdh
      cases ecdh
  obtain ⟨row, made⟩ : ∃ row, savedRow P name update password draws session.db = .ok row :=
    savedRow_of_plain noShared noEcdh
  cases parsed : P.pemToPubkey update.pem with
  | error raised =>
      rw [parsed] at pem
      cases pem
  | ok pub =>
      cases keys : update.signingKeys platform with
      | error raised =>
          rw [keys] at signing
          cases signing
      | ok hybridSigPubs =>
          have reads := (loads_iff lawful made master).mpr
            ⟨⟨pub, parsed⟩, ⟨hybridSigPubs, keys⟩, fun given => absurd given plain⟩
          obtain ⟨pqcCombinedPub, _, run⟩ := saveFriend_run platform made
          rw [run, parsed]
          simp only [keys]
          refine ⟨behind.beside.replaceFriend own reads, behind.duress, ?_, ?_⟩
          · intro friend member
            have listed : friend ∈ session.store.friends.filter (fun friend => friend.1 ≠ name) ++
                [(name, pub, nonemptyBytes update.sharedSecret)] := member
            rw [noShared] at listed
            rcases List.mem_append.mp listed with old | new
            · exact behind.noSecrets friend (List.mem_filter.mp old).1
            · rw [List.mem_singleton.mp new]
          · intro other
            show (setOrPop session.store.friendsEcdhPriv name update.ecdhPrivBytes).get? other = none
            rw [noEcdh, setOrPop, Dict.get?_erase]
            split
            · rfl
            · exact behind.noEcdh other

theorem Behind.addFriend (lawful : P.Lawful) (behind : Behind P platform real master session)
    {name : String} {update : FriendUpdate} {password : Bytes} {draws : Draws}
    (harmless : Harmless P platform real session (.addFriend name update password draws)) :
    Behind P platform real master
      ((Friends.addFriend P platform name update password draws).run session).2 := by
  unfold Friends.addFriend
  cases checked : Friends.checkNewFriend name update password with
  | error raised => exact behind
  | ok accepted =>
      have allowed : name ∉ real.friends.keys ∧ nonemptyBytes update.sharedSecret = none ∧
          (P.pemToPubkey update.pem).isOk = true ∧
          (update.signingKeys platform).isOk = true := by
        rcases harmless with refused | allowed
        · rw [checked] at refused
          cases refused
        · exact allowed
      have noEcdh : ({ update with ecdhPrivBytes := none } : FriendUpdate).ecdhPrivBytes = none := rfl
      rw [Call.run_lift_ok_bind, Friends.onStore_run]
      exact behind.saveFriend lawful allowed.1 (by exact allowed.2.1) noEcdh (by exact allowed.2.2.1)
        (by exact allowed.2.2.2) password draws

theorem Behind.removeFriend (behind : Behind P platform real master session) {name : String}
    (harmless : Harmless P platform real session (.removeFriend name)) :
    Behind P platform real master ((Friends.removeFriend name).run session).2 := by
  unfold Friends.removeFriend
  rw [Call.run_read_bind]
  split
  · rename_i there
    have own : name ∉ real.friends.keys := by
      rcases harmless with missing | own
      · rw [there] at missing
        cases missing
      · exact own
    rw [Friends.onStore_run]
    refine ⟨behind.beside.deleteFriend own, behind.duress, ?_, ?_⟩
    · intro friend member
      exact behind.noSecrets friend (List.mem_filter.mp member).1
    · intro other
      show (session.store.friendsEcdhPriv.erase name).get? other = none
      rw [Dict.get?_erase]
      split
      · rfl
      · exact behind.noEcdh other
  · exact behind

theorem Behind.getFriendSecret (behind : Behind P platform real master session) (name : String) :
    Friends.getFriendSecret session.store name = none := by
  unfold Friends.getFriendSecret Friends.friendEntry
  cases found : session.store.friends.find? fun friend => friend.1 = name with
  | none => rfl
  | some friend => exact behind.noSecrets friend (List.mem_of_find?_eq_some found)

theorem Behind.updateFriendPubKeys (lawful : P.Lawful)
    (behind : Behind P platform real master session) {name : String} {password : Bytes}
    {new : NewKeys} {draws : Draws}
    (harmless : Harmless P platform real session (.updateFriendPubKeys name password new draws)) :
    Behind P platform real master
      ((Friends.updateFriendPubKeys P platform name password new draws).run session).2 := by
  unfold Friends.updateFriendPubKeys
  rw [Call.run_read_bind]
  cases checked : Friends.updatedFriend P session.store name password new with
  | error raised => exact behind
  | ok outcome =>
      obtain ⟨update, used⟩ := outcome
      have allowed : name ∉ real.friends.keys ∧
          (readSigningKeys platform new.hybridSigB64).isOk = true := by
        rcases harmless with refused | allowed
        · rw [checked] at refused
          cases refused
        · exact allowed
      obtain ⟨_, ⟨existing, found, _, secret, _, _, _, _, ecdh⟩, _⟩ :=
        Friends.updatedFriend_ok checked
      obtain ⟨_, _, ecdhHeld, _⟩ := Friends.getFriendExistingKeys_ok found
      have noShared : nonemptyBytes update.sharedSecret = none := by
        rw [secret, behind.getFriendSecret]
        rfl
      have noEcdh : update.ecdhPrivBytes = none := by
        rw [ecdh, ecdhHeld, behind.noEcdh]
      have parsed : (P.pemToPubkey update.pem).isOk = true := by
        obtain ⟨pub, parses⟩ := Friends.updatedFriend_parses lawful checked
        rw [parses]
        rfl
      have signing : (update.signingKeys platform).isOk = true := by
        rw [Friends.updatedFriend_signing checked]
        exact allowed.2
      rw [Call.run_lift_ok_bind]
      dsimp only
      rw [Friends.onStore_run]
      exact behind.saveFriend lawful allowed.1 noShared noEcdh parsed signing used draws

/-- What the master password opens, no other password does. -/
theorem unwrap_refused (lawful : P.Lawful) {wrapper : Wrapper}
    (made : ∃ plain password entropy, wrapper = wrap P plain password entropy)
    (opens : ∃ plain, unwrap P wrapper master = .ok plain) {password : Bytes}
    (apart : password ≠ master) : unwrap P wrapper password = .error .invalidTag := by
  obtain ⟨plain, owner, entropy, rfl⟩ := made
  obtain ⟨opened, opens⟩ := opens
  rw [unwrap_wrap lawful] at opens ⊢
  split at opens
  · rename_i same
    rw [if_neg (same ▸ apart)]
  · cases opens

/-- The master password of the real identity opens the wrappers that a load reads. -/
theorem master_opens (lawful : P.Lawful) (sound : Sound P real) {now : Rat} {draws : LoadDraws}
    {before : Session Priv Pub Pem}
    (loads : (load P platform master now draws).run ⟨{}, real⟩ = (.ok true, before))
    {key : SecretSetting} (read : key = .globalSecret ∨ key = .kyberPrivEncrypted)
    {wrapper : Wrapper} (stored : real.secrets key = some wrapper) :
    ∃ plain, unwrap P wrapper master = .ok plain := by
  have opened (value : Option Bytes)
      (column : unwrapColumn P (real.secrets key) master = .ok value) :
      ∃ plain, unwrap P wrapper master = .ok plain := by
    rw [stored] at column
    rcases unwrapColumn_ok_iff.mp column with ⟨none, _⟩ | ⟨_, plain, same, opens, _⟩
    · cases none
    · cases same
      exact ⟨plain, opens⟩
  have sessionSound : Sound P (Session.mk ({} : KeyStore Priv Pub) real).db := sound
  obtain ⟨readings, _, reads, _⟩ := (load_true_iff lawful sessionSound).mp loads
  rcases read with rfl | rfl
  · exact opened _ reads.globalSecret
  · exact opened _ reads.kyber

theorem updateSecret_run_duress (duress : session.store.duressMode = true) (guard : Guard)
    (newSecret password : Bytes) (draws : Draws) :
    ((Friends.updateSecret P guard newSecret password draws).run session).2 = session := by
  unfold Friends.updateSecret
  split
  · rfl
  · rw [Call.run_read_bind]
    cases Friends.verifyMasterPassword P guard password session with
    | error raised => rfl
    | ok valid =>
        rw [Call.run_lift_ok_bind, duress]
        cases valid <;> rfl

/-- Without the password of the global secret no key is rotated. -/
theorem rotateRsaKey_run_refused {password : Bytes} {priv : Priv} {now : Rat} {draws : Draws}
    (refused : ∀ wrapper, session.db.secrets .globalSecret = some wrapper →
      unwrap P wrapper password = .error .invalidTag) :
    ((rotateRsaKey P password priv now draws).run session).2 = session := by
  have failed : ∃ raised, rotatedKeys P password priv draws session.db = .error raised := by
    unfold rotatedKeys
    cases stored : session.db.secrets .globalSecret with
    | none => exact ⟨_, rfl⟩
    | some wrapper =>
        have invalid := refused wrapper stored
        unfold unwrap at invalid
        dsimp only
        cases parsed : jsonLoads wrapper with
        | error raised => exact ⟨_, rfl⟩
        | ok enc =>
            rw [parsed, ok_bind] at invalid
            rw [ok_bind, invalid]
            exact ⟨_, rfl⟩
  obtain ⟨raised, failed⟩ := failed
  rw [rotateRsaKey, Call.run_mapError, Call.run_read_bind, failed]
  rfl

/-- A stored bundle is not read with a password that does not open it, and nothing is generated in
its place. -/
theorem pqcDecapsulate_run_refused {password : Bytes}
    (refused : ∀ wrapper, session.db.secrets .kyberPrivEncrypted = some wrapper →
      unwrap P wrapper password = .error .invalidTag)
    (kept : platform.pqcAvailable = false ∨
      (session.db.secrets .kyberPrivEncrypted).isSome = true ∧
        (session.db.secrets .pqcX25519PrivEncrypted).isSome = true ∧
        (session.db.texts .pqcCombinedPubB64).isSome = true)
    (ciphertextB64 : String) (keys : PqcBundle) (draws : Draws) :
    ((Friends.pqcDecapsulate P platform K ciphertextB64 password keys draws).run
      session).2 = session := by
  have outcome : (readPqcBundle P password session.db = .ok none ∧
        platform.pqcAvailable = false) ∨
      readPqcBundle P password session.db = .error .invalidTag := by
    unfold readPqcBundle
    split
    · rename_i kyber x25519 pub kyberStored _ _
      right
      rw [refused kyber kyberStored]
      rfl
    · rename_i missing
      left
      refine ⟨rfl, kept.resolve_right ?_⟩
      rintro ⟨kyber, x25519, pub⟩
      obtain ⟨first, kyber⟩ := Option.isSome_iff_exists.mp kyber
      obtain ⟨second, x25519⟩ := Option.isSome_iff_exists.mp x25519
      obtain ⟨third, pub⟩ := Option.isSome_iff_exists.mp pub
      exact missing first second third kyber x25519 pub
  have found : (Friends.storedOrNewBundle P platform password keys draws).run session =
      (.ok none, session) ∨
      (Friends.storedOrNewBundle P platform password keys draws).run session =
        (.error .invalidTag, session) := by
    unfold Friends.storedOrNewBundle loadPqcBundle
    rcases outcome with ⟨nothing, unavailable⟩ | failed
    · left
      rw [bind_assoc, Call.run_read_bind, nothing]
      simp only [Call.run_lift_ok_bind, bind_assoc, pure_bind]
      unfold ensurePqcKeysFull
      rw [unavailable]
      rfl
    · right
      rw [bind_assoc, Call.run_read_bind, failed]
      rfl
  have wrapped : ((Friends.onStore ServiceRaised.passed
      (Friends.storedOrNewBundle P platform password keys draws)).run session =
        (.ok none, session)) ∨
      ((Friends.onStore ServiceRaised.passed
        (Friends.storedOrNewBundle P platform password keys draws)).run session =
        (.error (.passed .invalidTag), session)) := by
    rcases found with nothing | failed
    · exact .inl (Friends.onStore_run_ok_iff.mpr nothing)
    · right
      show Friends.onStore ServiceRaised.passed _ session = _
      unfold Friends.onStore
      rw [failed]
  unfold Friends.pqcDecapsulate
  rcases wrapped with nothing | failed
  · rw [Call.run_bind_of_ok nothing]
    rfl
  · rw [Call.run_bind_of_error failed]

theorem behind_start {store : KeyStore Priv Pub} (password : Option Bytes) (generated : Priv)
    (fakeSecret : Bytes) (draws : Draws) :
    Behind P platform real master
      ((loadDuressDecoy P password generated fakeSecret draws).run ⟨store, real⟩).2 := by
  obtain ⟨pem, run⟩ := loadDuressDecoy_run P password generated fakeSecret draws ⟨store, real⟩
  rw [run]
  refine ⟨beside_self pem, rfl, ?_, fun _ => rfl⟩
  intro friend member
  obtain ⟨old, _, rfl⟩ := List.mem_map.mp member
  rfl

/-- One step. -/
theorem behind_step (lawful : P.Lawful) (sound : Sound P real) {now : Rat} {draws : LoadDraws}
    {before : Session Priv Pub Pem}
    (loads : (load P platform master now draws).run ⟨{}, real⟩ = (.ok true, before))
    (behind : Behind P platform real master session) {operation : DecoyOperation Priv}
    (without : operation.password? ≠ some master)
    (harmless : Harmless P platform real session operation) :
    Behind P platform real master (operation.perform P platform K session) := by
  have sameSecrets : session.db.secrets = real.secrets := by
    obtain ⟨friends, pem, same⟩ := behind.beside.rows
    rw [same]
    rfl
  have sameTexts : session.db.texts = real.texts := by
    obtain ⟨friends, pem, same⟩ := behind.beside.rows
    rw [same]
    rfl
  have refused {password : Bytes} (apart : password ≠ master) {key : SecretSetting}
      (read : key = .globalSecret ∨ key = .kyberPrivEncrypted) (wrapper : Wrapper)
      (stored : session.db.secrets key = some wrapper) :
      unwrap P wrapper password = .error .invalidTag := by
    rw [sameSecrets] at stored
    exact unwrap_refused lawful (sound.wrapped key wrapper stored)
      (master_opens lawful sound loads read stored) apart
  cases operation with
  | addFriend name update password draws => exact behind.addFriend lawful harmless
  | removeFriend name => exact behind.removeFriend harmless
  | updateFriendPubKeys name password new draws => exact behind.updateFriendPubKeys lawful harmless
  | generateHybridSigKeys generated password draws =>
      have failed : generated = none := harmless
      rw [failed]
      exact behind
  | generatePqcKeys keys password draws =>
      have unavailable : platform.pqcAvailable = false := harmless
      show Behind P platform real master
        ((Friends.generatePqcKeys P platform keys password draws).run session).2
      unfold Friends.generatePqcKeys
      rw [unavailable]
      exact behind
  | pqcDecapsulate ciphertextB64 password keys draws =>
      have apart : password ≠ master := fun same => without (congrArg some same)
      have kept : platform.pqcAvailable = false ∨
          (real.secrets .kyberPrivEncrypted).isSome = true ∧
            (real.secrets .pqcX25519PrivEncrypted).isSome = true ∧
            (real.texts .pqcCombinedPubB64).isSome = true := harmless
      rw [← sameSecrets, ← sameTexts] at kept
      have same := pqcDecapsulate_run_refused (K := K) (refused apart (.inr rfl)) kept ciphertextB64
        keys draws
      show Behind P platform real master
        ((Friends.pqcDecapsulate P platform K ciphertextB64 password keys draws).run session).2
      rw [same]
      exact behind
  | ensurePqcKeys password keys draws =>
      have idle : ((KeyStore.ensurePqcKeys P platform password keys draws).run session).2 =
          session := by
        rw [KeyStore.ensurePqcKeys, Call.run_read_bind]
        split
        · rfl
        · rename_i absent
          have unavailable : platform.pqcAvailable = false := by
            rcases harmless with unavailable | ⟨kyber, pub⟩
            · exact unavailable
            · rw [kyber, pub] at absent
              exact absurd rfl absent
          rw [unavailable]
          rfl
      show Behind P platform real master
        ((KeyStore.ensurePqcKeys P platform password keys draws).run session).2
      rw [idle]
      exact behind
  | updateSecret guard newSecret password draws =>
      show Behind P platform real master
        ((Friends.updateSecret P guard newSecret password draws).run session).2
      rw [updateSecret_run_duress behind.duress]
      exact behind
  | rotateRsaKey password priv now draws =>
      have apart : password ≠ master := fun same => without (congrArg some same)
      show Behind P platform real master
        ((KeyStore.rotateRsaKey P password priv now draws).run session).2
      rw [rotateRsaKey_run_refused (refused apart (.inl rfl))]
      exact behind

theorem behind_of_reachable (lawful : P.Lawful) (sound : Sound P real) {now : Rat}
    {draws : LoadDraws} {before : Session Priv Pub Pem}
    (loads : (load P platform master now draws).run ⟨{}, real⟩ = (.ok true, before))
    (reachable : (decoyMachine P platform K real master).Reachable
      (Harmless P platform real) session) : Behind P platform real master session := by
  refine Machine.Reachable.invariant _ (Behind P platform real master) ?_ ?_ reachable
  · rintro state ⟨store, password, generated, fakeSecret, draws, rfl⟩
    exact behind_start password generated fakeSecret draws
  · intro state operation _ behind without harmless
    exact behind_step lawful sound loads behind without harmless

/-- In every run of the decoy mode whose steps leave the real rows alone, the real identity can
still be loaded as it was, from every state. -/
theorem decoy_leaves_identity (lawful : P.Lawful) {store : KeyStore Priv Pub}
    (installed : (machine P platform).Reachable (fun _ _ => True) ⟨store, real⟩) {now : Rat}
    {draws : LoadDraws} {before : Session Priv Pub Pem}
    (loads : (load P platform master now draws).run ⟨{}, real⟩ = (.ok true, before))
    (reachable : (decoyMachine P platform K real master).Reachable
      (Harmless P platform real) session) : Unharmed P platform real master session.db :=
  unharmed_of_beside
    (behind_of_reachable lawful (reachable_sound installed) loads reachable).beside

end Decoy

section Example

abbrev ToyDecoys : Machine ToySession (DecoyOperation String) :=
  decoyMachine toyLibraries toyPlatform toyKem toyBefriended.db [1]

/-- Behind the decoy over the database of `toyBefriended`. -/
def toyDecoyed : ToySession :=
  ((loadDuressDecoy toyLibraries (some [3]) "decoy" [1] toyDraws).run toyBefriended).2

theorem toyDecoyed_start : ToyDecoys.start toyDecoyed :=
  ⟨toyBefriended.store, some [3], "decoy", [1], toyDraws, rfl⟩

/-- A friend of the decoy's own, without a secret. -/
def toyCarol : FriendUpdate where
  pem := "carol's key"
  sharedSecret := none
  x25519PubB64 := none
  capabilities := none
  pqcCombinedPubB64 := none
  hybridSigPubB64 := none
  ecdhPrivBytes := none

/-- A friend is added and a key rotation is refused. -/
def toyCareful : ToySession :=
  ToyDecoys.run toyDecoyed
    [fun _ => .addFriend "carol" toyCarol [3] toyDraws,
     fun _ => .rotateRsaKey [3] "new key" 0 toyDraws]

theorem toyCareful_unharmed :
    Unharmed toyLibraries toyPlatform toyBefriended.db [1] toyCareful.db := by
  have loads : (load toyLibraries toyPlatform [1] 0 toyLoadDraws).run ⟨{}, toyBefriended.db⟩ =
      (.ok true, ((load toyLibraries toyPlatform [1] 0 toyLoadDraws).run
        ⟨{}, toyBefriended.db⟩).2) := Prod.ext (by decide +kernel) rfl
  have reachable : ToyDecoys.Reachable (Harmless toyLibraries toyPlatform toyBefriended.db)
      toyCareful :=
    .run (.start toyDecoyed_start)
      ⟨nofun, .inr ⟨by decide, rfl, rfl, rfl⟩, nofun, trivial, trivial⟩
  exact decoy_leaves_identity toyLibraries_lawful toyBefriended_reachable loads reachable

/-- Signing keys are generated behind the decoy. -/
def toyCareless : ToySession :=
  ToyDecoys.run toyDecoyed
    [fun _ => .generateHybridSigKeys (some ⟨List.replicate 32 18, [19], [20]⟩) [3] toyDraws]

/-- The next login with the master password raises on the signing keys of the decoy. -/
theorem toyCareless_bricked :
    ToyDecoys.Reachable (fun _ _ => True) toyCareless ∧
    ((load toyLibraries toyPlatform [1] 0 toyLoadDraws).run ⟨{}, toyBefriended.db⟩).1 = .ok true ∧
    ((load toyLibraries toyPlatform [1] 0 toyLoadDraws).run ⟨{}, toyCareless.db⟩).1 =
      .error (.keyStoreErrorFrom "Key loading failed: " .invalidTag) ∧
    ¬ Unharmed toyLibraries toyPlatform toyBefriended.db [1] toyCareless.db := by
  have loads : ((load toyLibraries toyPlatform [1] 0 toyLoadDraws).run
      ⟨{}, toyBefriended.db⟩).1 = .ok true := by decide +kernel
  have refused : ((load toyLibraries toyPlatform [1] 0 toyLoadDraws).run
      ⟨{}, toyCareless.db⟩).1 =
        .error (.keyStoreErrorFrom "Key loading failed: " .invalidTag) := by decide +kernel
  refine ⟨.run (.start toyDecoyed_start) ⟨nofun, trivial, trivial⟩, loads, refused, ?_⟩
  intro unharmed
  obtain ⟨after, success, _⟩ := unharmed 0 toyLoadDraws _ (Prod.ext loads rfl)
  rw [success] at refused
  cases refused

end Example

end UltimateEnigma.KeyStore
