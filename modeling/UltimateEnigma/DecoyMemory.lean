import UltimateEnigma.KeyStoreOperations
import UltimateEnigma.LegacyStrategy
import UltimateEnigma.LoadFrames

set_option autoImplicit false

namespace UltimateEnigma.KeyStore

open Py
open Encryption (secretsToTry)

variable {Priv Pub Pem : Type}

/-- What `get_decryption_snapshot` returns. -/
structure DecryptionSnapshot (Priv Pub : Type) where
  myPriv : Option Priv
  friendsForCrypto : List (String × Pub × Option Bytes)
  secretsToTry : List Bytes
  legacyPriv : Option Priv

/-- `get_decryption_snapshot`. -/
def getDecryptionSnapshot (store : KeyStore Priv Pub) : DecryptionSnapshot Priv Pub where
  myPriv := store.myPriv
  friendsForCrypto := store.friends ++ store.myPub.toList.map fun pub => ("myself", pub, none)
  secretsToTry := secretsToTry store
  legacyPriv := store.legacyPriv

/-- The sessions differ in the real identity only: their decoy rows agree. -/
structure SameDecoy (first second : Session Priv Pub Pem) : Prop where
  verifier : first.db.secrets .duressVerifier = second.db.secrets .duressVerifier
  key : first.db.keys .duressDecoyPrivkey = second.db.keys .duressDecoyPrivkey

/-- The names and public keys of the friends. -/
def friendKeys (store : KeyStore Priv Pub) : List (String × Pub) :=
  store.friends.map fun friend => (friend.1, friend.2.1)

/-- The stores agree on what `wipe` passes over. -/
structure SameRemains (first second : KeyStore Priv Pub) : Prop where
  legacyPriv : first.legacyPriv = second.legacyPriv
  friendKeys : first.friendKeys = second.friendKeys
  needsRotation : first.needsRotation = second.needsRotation

/-- No private key, shared secret or friend record is left. -/
structure Emptied (store : KeyStore Priv Pub) : Prop where
  myPriv : store.myPriv = none
  legacyPriv : store.legacyPriv = none
  globalSecret : store.globalSecret = none
  ratchetStorageKey : store.ratchetStorageKey = none
  pqc : store.myKyberPriv = none ∧ store.cachedPqcBundle = none
  signing : store.myEdPriv = none ∧ store.myDilPriv = none
  friends : store.friends = []
  friendsX25519 : store.friendsX25519 = .empty
  friendsEcdhPriv : store.friendsEcdhPriv = .empty
  friendsCapabilities : store.friendsCapabilities = .empty
  friendsPqcCombinedPub : store.friendsPqcCombinedPub = .empty
  friendsHybridSigPubs : store.friendsHybridSigPubs = .empty

/-- The friends that `wipe` keeps are determined by their names and keys. -/
theorem wiped_friends (store : KeyStore Priv Pub) :
    (wiped store).friends = store.friendKeys.map fun friend => (friend.1, friend.2, none) := by
  rw [friendKeys, List.map_map]
  rfl

theorem wiped_friendKeys (store : KeyStore Priv Pub) :
    (wiped store).friendKeys = store.friendKeys := by
  unfold friendKeys wiped
  rw [List.map_map]
  rfl

/-- Two stores are wiped to the same one exactly if they agree on what stays, up to the flag of the
duress mode. -/
theorem wiped_eq_iff (first second : KeyStore Priv Pub) :
    { wiped first with duressMode := true } = { wiped second with duressMode := true } ↔
      SameRemains first second := by
  constructor
  · intro same
    have legacy := congrArg KeyStore.legacyPriv same
    have friends := congrArg friendKeys same
    have rotation := congrArg KeyStore.needsRotation same
    exact ⟨legacy, by rwa [← wiped_friendKeys first, ← wiped_friendKeys second], rotation⟩
  · intro same
    have friends : (wiped first).friends = (wiped second).friends := by
      rw [wiped_friends, wiped_friends, same.friendKeys]
    have legacy : (wiped first).legacyPriv = (wiped second).legacyPriv := same.legacyPriv
    have rotation : (wiped first).needsRotation = (wiped second).needsRotation :=
      same.needsRotation
    unfold wiped at friends legacy rotation ⊢
    simp only at friends legacy rotation ⊢
    rw [friends, legacy, rotation]

variable (P : Primitives Priv Pub Pem)

/-- The store that `load_duress_decoy` leaves. -/
def decoyStore (decoy : Priv) (fakeSecret : Bytes) (store : KeyStore Priv Pub) :
    KeyStore Priv Pub :=
  { wiped store with
    myPriv := some decoy
    myPub := some (P.publicKey decoy)
    globalSecret := some fakeSecret
    duressMode := true }

/-- The decoy key is stored or generated; at most its row is written. -/
theorem decoyKey_run (password : Option Bytes) (generated : Priv) (draws : Draws)
    (session : Session Priv Pub Pem) :
    ∃ pem, (decoyKey P password generated draws).run session =
      (.ok ((storedDecoy P password session.db).getD generated),
        session.besides session.db.friends pem) := by
  rw [decoyKey, Call.run_read_bind]
  cases found : storedDecoy P password session.db with
  | some stored => exact ⟨_, by rw [besides_self]; rfl⟩
  | none =>
      cases made : password.map fun password =>
        P.privkeyToEncryptedPem generated password (draws.key .duressDecoyPrivkey) with
      | none => exact ⟨_, by rw [besides_self]; rfl⟩
      | some outcome =>
          cases outcome with
          | error raised => exact ⟨_, by rw [besides_self]; rfl⟩
          | ok pem => exact ⟨some pem, rfl⟩

theorem loadDuressDecoy_run (password : Option Bytes) (generated : Priv) (fakeSecret : Bytes)
    (draws : Draws) (session : Session Priv Pub Pem) :
    ∃ pem, (loadDuressDecoy P password generated fakeSecret draws).run session =
      (.ok true, ⟨decoyStore P ((storedDecoy P password session.db).getD generated) fakeSecret
        session.store, session.db.besides session.db.friends pem⟩) := by
  obtain ⟨pem, found⟩ := decoyKey_run P password generated draws
    { session with store := wiped session.store }
  refine ⟨pem, ?_⟩
  rw [loadDuressDecoy, run_assign_bind, Call.run_bind_of_ok found]
  rfl

theorem loadDuressDecoy_store (password : Option Bytes) (generated : Priv) (fakeSecret : Bytes)
    (draws : Draws) (session : Session Priv Pub Pem) :
    ((loadDuressDecoy P password generated fakeSecret draws).run session).2.store =
      decoyStore P ((storedDecoy P password session.db).getD generated) fakeSecret
        session.store := by
  obtain ⟨pem, run⟩ := loadDuressDecoy_run P password generated fakeSecret draws session
  rw [run]

theorem decoyStore_eq_iff (decoy : Priv) (fakeSecret : Bytes) (first second : KeyStore Priv Pub) :
    decoyStore P decoy fakeSecret first = decoyStore P decoy fakeSecret second ↔
      SameRemains first second := by
  constructor
  · intro same
    apply (wiped_eq_iff first second).mp
    have cleared := congrArg (fun store : KeyStore Priv Pub =>
      { store with myPriv := none, myPub := none, globalSecret := none }) same
    exact cleared
  · intro same
    have wipedSame := (wiped_eq_iff first second).mpr same
    exact congrArg (fun store : KeyStore Priv Pub =>
      { store with
        myPriv := some decoy
        myPub := some (P.publicKey decoy)
        globalSecret := some fakeSecret }) wipedSame

/-- `wipe` empties the store exactly if there was no friend and no retired key. -/
theorem emptied_wiped_iff (store : KeyStore Priv Pub) :
    Emptied (wiped store) ↔ store.friends = [] ∧ store.legacyPriv = none := by
  constructor
  · intro emptied
    have friends := emptied.friends
    rw [wiped_friends, List.map_eq_nil_iff, friendKeys, List.map_eq_nil_iff] at friends
    exact ⟨friends, emptied.legacyPriv⟩
  · rintro ⟨friends, legacy⟩
    have none : (wiped store).friends = [] := by
      rw [wiped_friends, friendKeys, friends]
      rfl
    exact ⟨rfl, legacy, rfl, rfl, ⟨rfl, rfl⟩, ⟨rfl, rfl⟩, none, rfl, rfl, rfl, rfl, rfl⟩

/-- Behind the decoy two identities look alike exactly if they agree on what `wipe` passes over: the
retired private key, the names and public keys of the friends, and the flag for a key to rotate. A
wiped store holds nothing of the identity exactly if there was no friend and no retired key. -/
theorem duress_noninterference_iff :
    (∀ first second : Session Priv Pub Pem, SameDecoy first second →
      ∀ (password : Option Bytes) (generated : Priv) (fakeSecret : Bytes) (draws : Draws),
        let load := loadDuressDecoy P password generated fakeSecret draws
        ((load.run first).2.store = (load.run second).2.store ∧
          getDecryptionSnapshot (load.run first).2.store =
            getDecryptionSnapshot (load.run second).2.store) ↔
          SameRemains first.store second.store) ∧
    ∀ store : KeyStore Priv Pub,
      Emptied (wiped store) ↔ store.friends = [] ∧ store.legacyPriv = none := by
  refine ⟨?_, emptied_wiped_iff⟩
  intro first second decoy password generated fakeSecret draws load
  have stored : storedDecoy P password first.db = storedDecoy P password second.db := by
    unfold storedDecoy
    rw [decoy.key]
  have firstRun := loadDuressDecoy_store P password generated fakeSecret draws first
  have secondRun := loadDuressDecoy_store P password generated fakeSecret draws second
  rw [← stored] at secondRun
  constructor
  · rintro ⟨same, _⟩
    rw [firstRun, secondRun] at same
    exact (decoyStore_eq_iff P _ fakeSecret first.store second.store).mp same
  · intro remains
    have same := (decoyStore_eq_iff P ((storedDecoy P password first.db).getD generated) fakeSecret
      first.store second.store).mpr remains
    have loaded : (load.run first).2.store = (load.run second).2.store := by
      rw [firstRun, secondRun, same]
    exact ⟨loaded, by rw [loaded]⟩

section Example

/-- A store with a retired key and the friend `bob`. -/
def toyBefore : Session String String (String × Bytes) where
  store :=
    { myPub := some "real"
      myPriv := some "real"
      legacyPriv := some "old"
      globalSecret := some [7]
      friends := [("bob", "bob's key", some [8])] }
  db := .empty

/-- Another identity, without either. -/
def toyOther : Session String String (String × Bytes) where
  store :=
    { myPub := some "other"
      myPriv := some "other"
      globalSecret := some [9] }
  db := .empty

/-- Other keys and another secret with `bob`, and the same retired key. -/
def toyTwin : Session String String (String × Bytes) where
  store :=
    { myPub := some "twin"
      myPriv := some "twin"
      legacyPriv := some "old"
      globalSecret := some [5]
      friends := [("bob", "bob's key", some [6])]
      ratchetStorageKey := some [4] }
  db := .empty

def toyDecoyDraws : Draws :=
  ⟨fun _ => toyEntropy 0 0, fun _ => [], fun _ => toyEntropy 0 0, fun _ => toyEntropy 0 0⟩

/-- Real identities that differ only in what `wipe` erases cannot be told apart. -/
theorem toyTwin_forgotten :
    let load := loadDuressDecoy toyLibraries (some [3]) "decoy" [1] toyDecoyDraws
    (load.run toyBefore).2.store = (load.run toyTwin).2.store := by
  intro load
  have agree : SameDecoy toyBefore toyTwin := ⟨rfl, rfl⟩
  have remains : SameRemains toyBefore.store toyTwin.store := ⟨rfl, rfl, rfl⟩
  exact (((duress_noninterference_iff toyLibraries).1 toyBefore toyTwin agree (some [3]) "decoy" [1]
    toyDecoyDraws).mpr remains).1

/-- Behind the decoy the retired key and the friend are still there, in the store and in the
snapshot for decryption; and `wipe` alone keeps them as well. -/
theorem toyBefore_exposed :
    let load := loadDuressDecoy toyLibraries (some [3]) "decoy" [1] toyDecoyDraws
    SameDecoy toyBefore toyOther ∧
    (load.run toyBefore).2.store.friends = [("bob", "bob's key", none)] ∧
    (load.run toyOther).2.store.friends = [] ∧
    (getDecryptionSnapshot (load.run toyBefore).2.store).legacyPriv = some "old" ∧
    (getDecryptionSnapshot (load.run toyOther).2.store).legacyPriv = none ∧
    ¬ Emptied (wiped toyBefore.store) := by
  intro load
  refine ⟨⟨rfl, rfl⟩, ?_, ?_, ?_, ?_, ?_⟩
  · exact congrArg KeyStore.friends (loadDuressDecoy_store toyLibraries (some [3]) "decoy" [1]
      toyDecoyDraws toyBefore)
  · exact congrArg KeyStore.friends (loadDuressDecoy_store toyLibraries (some [3]) "decoy" [1]
      toyDecoyDraws toyOther)
  · exact congrArg KeyStore.legacyPriv (loadDuressDecoy_store toyLibraries (some [3]) "decoy" [1]
      toyDecoyDraws toyBefore)
  · exact congrArg KeyStore.legacyPriv (loadDuressDecoy_store toyLibraries (some [3]) "decoy" [1]
      toyDecoyDraws toyOther)
  · intro emptied
    have kept := emptied.legacyPriv
    cases kept

end Example

end UltimateEnigma.KeyStore
