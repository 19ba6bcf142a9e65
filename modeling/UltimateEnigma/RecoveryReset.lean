import UltimateEnigma.DatabaseConnection
import UltimateEnigma.PasswordChange

set_option autoImplicit false

namespace UltimateEnigma

open Py

namespace KeyStore

/-- Two stores hold the same keys and the same public keys of the same friends. -/
structure SameKeys {Priv Pub : Type} (first second : KeyStore Priv Pub) : Prop where
  myPub : first.myPub = second.myPub
  myPriv : first.myPriv = second.myPriv
  legacyPriv : first.legacyPriv = second.legacyPriv
  globalSecret : first.globalSecret = second.globalSecret
  kyberPriv : first.myKyberPriv = second.myKyberPriv
  pqcCombinedPub : first.myPqcCombinedPub = second.myPqcCombinedPub
  pqcBundle : first.cachedPqcBundle = second.cachedPqcBundle
  edPriv : first.myEdPriv = second.myEdPriv
  dilPriv : first.myDilPriv = second.myDilPriv
  hybridSigCombinedPub : first.myHybridSigCombinedPub = second.myHybridSigCombinedPub
  ratchetStorageKey : first.ratchetStorageKey = second.ratchetStorageKey
  friends : ∀ name, (first.friends.lookup name).map Prod.fst =
    (second.friends.lookup name).map Prod.fst
  friendsX25519 : ∀ name, first.friendsX25519.get? name = second.friendsX25519.get? name
  friendsPqcCombinedPub : ∀ name,
    first.friendsPqcCombinedPub.get? name = second.friendsPqcCombinedPub.get? name
  friendsHybridSigPubs : ∀ name,
    first.friendsHybridSigPubs.get? name = second.friendsHybridSigPubs.get? name

/-- The columns of a friend's public keys. -/
def FriendRow.publicKeys (row : FriendRow) : String × Option String × Option String × Option String :=
  (row.publicKeyPem, row.x25519PublicKeyB64, row.pqcCombinedPubB64, row.hybridSigPubB64)

def SecretSetting.IsSigning (key : SecretSetting) : Prop :=
  key = .ed25519PrivEncrypted ∨ key = .dilithiumPrivEncrypted

section Statements

variable {Priv Pub Pem : Type} (P : Primitives Priv Pub Pem) (platform : Platform)

/-- Nothing is lost with the old password: what opens with it opens with the new one too. -/
def Carried (lost newPassword : Bytes) (wrapper : Wrapper) : Prop :=
  ∀ plain, unwrap P wrapper lost = .ok plain → ∃ plain, unwrap P wrapper newPassword = .ok plain

/-- What the reset of the keys has to leave. -/
structure KeysConsistent (session after : Session Priv Pub Pem) (lost newPassword : Bytes)
    (now : Rat) (draws : LoadDraws) : Prop where
  loads : ∃ loaded, (load P platform newPassword now draws).run ⟨{}, after.db⟩ =
    (.ok true, loaded) ∧ SameKeys loaded.store after.store
  publicKeys : ∀ name, (after.db.friends.get? name).map FriendRow.publicKeys =
    (session.db.friends.get? name).map FriendRow.publicKeys
  settings : ∀ key wrapper, after.db.secrets key = some wrapper →
    Carried P lost newPassword wrapper
  keys : ∀ key pem priv, after.db.keys key = some pem → P.pemToPrivkey pem lost = .ok priv →
    ∃ priv, P.pemToPrivkey pem newPassword = .ok priv
  columns : ∀ name row wrapper, after.db.friends.get? name = some row →
    row.sharedSecretEncrypted = some wrapper ∨ row.ecdhPrivEncrypted = some wrapper →
      Carried P lost newPassword wrapper
  ratchetStates : ∀ name row, after.db.friends.get? name = some row → row.ratchetStateJson = none

/-- The rows of the signing keys that the hybrid step did not get to hold its keys already; where
it generated none, no pair of keys and no public key is stored. -/
def SigningWritten (newPassword : Bytes) (db : Database Pem) : Option HybridStep → Prop
  | none =>
      (db.secrets .ed25519PrivEncrypted = none ∨ db.secrets .dilithiumPrivEncrypted = none) ∧
        (db.texts .hybridSigCombinedPubB64).bind (fun text => (decodeBase64 text).toOption) = none
  | some step =>
      (step.written < 1 → unwrapColumn P (db.secrets .ed25519PrivEncrypted) newPassword =
        .ok (some step.keys.edPriv)) ∧
      (step.written < 2 → unwrapColumn P (db.secrets .dilithiumPrivEncrypted) newPassword =
        .ok (some step.keys.dilPriv)) ∧
      (step.written < 3 → (db.texts .hybridSigCombinedPubB64).bind
        (fun text => (decodeBase64 text).toOption) = some step.keys.combinedPub)

/-- The store knows the friend by the RSA key of the row, and the row has no other public key. -/
def Mirrored (store : KeyStore Priv Pub) (name : String) : Option FriendRow → Prop
  | none => store.friends.lookup name = none
  | some row =>
      (∃ pub secret, P.pemToPubkey row.publicKeyPem = .ok pub ∧
        store.friends.lookup name = some (pub, secret)) ∧
      nonempty row.x25519PublicKeyB64 = none ∧
      attemptColumn (nonempty row.pqcCombinedPubB64) decodeBase64 = .ok none ∧
      attemptColumn (row.hybridSigPub platform)
        (fun text => decodeBase64 text >>= parseCombinedPub) = .ok none

/-- When the reset of the keys is consistent. -/
structure Resettable (session : Session Priv Pub Pem) (lost newPassword : Bytes)
    (hybrid : Option HybridStep) : Prop where
  pqc : ∀ key, key.IsPqc → session.db.secrets key = none
  signing : platform.hybridSigAvailable = true → SigningWritten P newPassword session.db hybrid
  leftSigning : platform.hybridSigAvailable = false ∨ hybrid = none → ∀ key, key.IsSigning →
    ∀ wrapper, session.db.secrets key = some wrapper → Carried P lost newPassword wrapper
  decoy : ∀ pem priv, session.db.keys .duressDecoyPrivkey = some pem →
    P.pemToPrivkey pem lost = .ok priv → ∃ priv, P.pemToPrivkey pem newPassword = .ok priv
  friends : ∀ name, Mirrored P platform session.store name (session.db.friends.get? name)

end Statements

section Rows

variable {Priv Pub Pem : Type} {P : Primitives Priv Pub Pem} {platform : Platform}
variable {newPassword : Bytes} {draws : ResetDraws Priv} {pem : Pem} {db : Database Pem}

/-- A hybrid step that is not taken leaves the database alone. -/
theorem resetHybridKeys_idle (idle : platform.hybridSigAvailable = false ∨ draws.hybrid = none) :
    resetHybridKeys P platform newPassword draws db = db := by
  unfold resetHybridKeys
  split
  · rename_i step found
    rw [found] at idle
    rw [if_neg]
    simpa using idle
  · rfl

/-- The rows that a hybrid step wrote before it failed, or all of them. -/
theorem resetHybridKeys_step {step : HybridStep} (available : platform.hybridSigAvailable = true)
    (found : draws.hybrid = some step) :
    resetHybridKeys P platform newPassword draws db =
      { db with
        secrets := fun key =>
          if key = .ed25519PrivEncrypted ∧ 1 ≤ step.written then
            some (wrap P step.keys.edPriv newPassword (draws.wrappers.secret .ed25519PrivEncrypted))
          else if key = .dilithiumPrivEncrypted ∧ 2 ≤ step.written then
            some (wrap P step.keys.dilPriv newPassword
              (draws.wrappers.secret .dilithiumPrivEncrypted))
          else db.secrets key
        texts := fun key =>
          if key = .hybridSigCombinedPubB64 ∧ 3 ≤ step.written then
            some (b64encode step.keys.combinedPub)
          else db.texts key } := by
  rw [resetHybridKeys, found]
  simp only [available, if_true]
  obtain ⟨keys, written⟩ := step
  match written with
  | 0 => simp [runStatements]
  | 1 =>
      simp only [hybridStatements, List.take_succ_cons, List.take_zero, runStatements,
        List.foldl_cons, List.foldl_nil, Database.setSecret]
      congr 1
      · funext key
        simp [Function.update_apply]
      · simp
  | 2 =>
      simp only [hybridStatements, List.take_succ_cons, List.take_zero, runStatements,
        List.foldl_cons, List.foldl_nil, Database.setSecret]
      congr 1
      · funext key
        cases key <;> simp
      · simp
  | more + 3 =>
      simp only [hybridStatements, List.take_succ_cons, List.take_nil, runStatements,
        List.foldl_cons, List.foldl_nil, Database.setSecret, Database.setText]
      congr 1
      · funext key
        cases key <;> simp
      · funext key
        simp [Function.update_apply]

variable (P platform newPassword draws db) in
/-- What the hybrid step leaves alone. -/
theorem resetHybridKeys_other :
    let after := resetHybridKeys P platform newPassword draws db
    after.keys = db.keys ∧ after.friends = db.friends ∧
      (∀ key, ¬ key.IsSigning → after.secrets key = db.secrets key) ∧
      ∀ key, key ≠ .hybridSigCombinedPubB64 → after.texts key = db.texts key := by
  cases available : platform.hybridSigAvailable with
  | false =>
      rw [resetHybridKeys_idle (.inl available)]
      exact ⟨rfl, rfl, fun _ _ => rfl, fun _ _ => rfl⟩
  | true =>
      cases found : draws.hybrid with
      | none =>
          rw [resetHybridKeys_idle (.inr found)]
          exact ⟨rfl, rfl, fun _ _ => rfl, fun _ _ => rfl⟩
      | some step =>
          rw [resetHybridKeys_step available found]
          refine ⟨rfl, rfl, fun key other => ?_, fun key other => ?_⟩
          · rw [SecretSetting.IsSigning, not_or] at other
            simp only [other.1, other.2, false_and, if_false]
          · simp only [other, false_and, if_false]

/-- The statements before the hybrid step. -/
def resetFirst (P : Primitives Priv Pub Pem) (newPassword : Bytes) (draws : ResetDraws Priv)
    (pem : Pem) (db : Database Pem) : Database Pem :=
  (((db.updateText .publicKey (P.pubkeyToPem (P.publicKey draws.priv))).updateKey
    .privateKeyEncrypted pem).deleteLegacyKey).updateSecret .globalSecret
      (wrap P draws.globalSecret newPassword (draws.wrappers.secret .globalSecret))

/-- The rows that do not depend on the hybrid step. -/
theorem resetRows_rows :
    let after := resetRows P platform newPassword draws pem db
    after.texts .publicKey =
      (db.texts .publicKey).map (fun _ => P.pubkeyToPem (P.publicKey draws.priv)) ∧
    after.keys .privateKeyEncrypted = (db.keys .privateKeyEncrypted).map (fun _ => pem) ∧
    after.keys .legacyPrivateKeyEncrypted = none ∧
    after.keys .duressDecoyPrivkey = db.keys .duressDecoyPrivkey ∧
    after.secrets .globalSecret = (db.secrets .globalSecret).map (fun _ =>
      wrap P draws.globalSecret newPassword (draws.wrappers.secret .globalSecret)) ∧
    after.secrets .ratchetStorageKey = some (wrap P draws.ratchetKey newPassword
      (draws.wrappers.secret .ratchetStorageKey)) ∧
    after.secrets .totpSecretEncrypted = none ∧
    after.secrets .duressVerifier = none ∧
    ∀ key, key.IsPqc → after.secrets key = db.secrets key := by
  obtain ⟨keys, -, secrets, texts⟩ := resetHybridKeys_other P platform newPassword draws
    (resetFirst P newPassword draws pem db)
  have keysKept : (resetRows P platform newPassword draws pem db).keys =
      (resetFirst P newPassword draws pem db).keys := keys
  have secretsKept : ∀ key, key ≠ .totpSecretEncrypted → key ≠ .duressVerifier →
      key ≠ .ratchetStorageKey → ¬ key.IsSigning →
      (resetRows P platform newPassword draws pem db).secrets key =
        (resetFirst P newPassword draws pem db).secrets key := by
    intro key notTotp notDuress notRatchet notSigning
    refine (Function.update_of_ne notRatchet _ _).trans ?_
    refine (Function.update_of_ne notDuress _ _).trans ?_
    exact (Function.update_of_ne notTotp _ _).trans (secrets key notSigning)
  refine ⟨?_, ?_, ?_, ?_, ?_, rfl, rfl, rfl, ?_⟩
  · exact texts .publicKey nofun
  · rw [keysKept]
    rfl
  · rw [keysKept]
    rfl
  · rw [keysKept]
    rfl
  · exact secretsKept .globalSecret nofun nofun nofun (by simp [SecretSetting.IsSigning])
  · rintro key (rfl | rfl)
    · exact secretsKept .kyberPrivEncrypted nofun nofun nofun (by simp [SecretSetting.IsSigning])
    · exact secretsKept .pqcX25519PrivEncrypted nofun nofun nofun
        (by simp [SecretSetting.IsSigning])

variable (P platform newPassword draws pem db) in
theorem resetRows_friends (name : String) :
    (resetRows P platform newPassword draws pem db).friends.get? name =
      (db.friends.get? name).map fun row =>
        { withoutFriendSecrets row with ratchetStateJson := none } := by
  obtain ⟨-, friends, -⟩ := resetHybridKeys_other P platform newPassword draws
    (resetFirst P newPassword draws pem db)
  have rows : (resetRows P platform newPassword draws pem db).friends =
      (((resetFirst P newPassword draws pem db).friends).mapValues
        fun _ row => withoutFriendSecrets row).mapValues
          fun _ row => { row with ratchetStateJson := none } := by
    rw [← friends]
    rfl
  rw [rows, Dict.get?_mapValues, Dict.get?_mapValues, Option.map_map]
  rfl

/-- The signing rows where no hybrid step is taken. -/
theorem resetRows_signing_idle
    (idle : platform.hybridSigAvailable = false ∨ draws.hybrid = none) :
    let after := resetRows P platform newPassword draws pem db
    (∀ key, key.IsSigning → after.secrets key = db.secrets key) ∧
      after.texts .hybridSigCombinedPubB64 = db.texts .hybridSigCombinedPubB64 := by
  have kept : resetHybridKeys P platform newPassword draws (resetFirst P newPassword draws pem db) =
      resetFirst P newPassword draws pem db := resetHybridKeys_idle idle
  constructor
  · rintro key (rfl | rfl)
    · exact congrFun (congrArg Database.secrets kept) _
    · exact congrFun (congrArg Database.secrets kept) _
  · exact congrFun (congrArg Database.texts kept) _

/-- The signing rows where one is taken. -/
theorem resetRows_signing_step {step : HybridStep}
    (available : platform.hybridSigAvailable = true) (found : draws.hybrid = some step) :
    let after := resetRows P platform newPassword draws pem db
    after.secrets .ed25519PrivEncrypted =
      (if 1 ≤ step.written then
        some (wrap P step.keys.edPriv newPassword (draws.wrappers.secret .ed25519PrivEncrypted))
      else db.secrets .ed25519PrivEncrypted) ∧
    after.secrets .dilithiumPrivEncrypted =
      (if 2 ≤ step.written then
        some (wrap P step.keys.dilPriv newPassword (draws.wrappers.secret .dilithiumPrivEncrypted))
      else db.secrets .dilithiumPrivEncrypted) ∧
    after.texts .hybridSigCombinedPubB64 =
      (if 3 ≤ step.written then some (b64encode step.keys.combinedPub)
      else db.texts .hybridSigCombinedPubB64) := by
  have made := @resetHybridKeys_step _ _ _ P platform newPassword draws
    (resetFirst P newPassword draws pem db) step available found
  refine ⟨?_, ?_, ?_⟩
  · refine (congrFun (congrArg Database.secrets made) .ed25519PrivEncrypted).trans ?_
    simp only [true_and, reduceCtorEq, false_and, if_false]
    rfl
  · refine (congrFun (congrArg Database.secrets made) .dilithiumPrivEncrypted).trans ?_
    simp only [true_and, reduceCtorEq, false_and, if_false]
    rfl
  · refine (congrFun (congrArg Database.texts made) .hybridSigCombinedPubB64).trans ?_
    simp only [true_and]
    rfl

end Rows

section Readings

variable {Priv Pub Pem : Type} {P : Primitives Priv Pub Pem} {platform : Platform}
variable {newPassword : Bytes} {draws : ResetDraws Priv}

theorem readHybridKeys_none_iff (available : platform.hybridSigAvailable = true)
    {db : Database Pem} :
    readHybridKeys P platform db newPassword = .ok none ↔
      db.secrets .ed25519PrivEncrypted = none ∨ db.secrets .dilithiumPrivEncrypted = none := by
  rw [readHybridKeys]
  cases db.secrets .ed25519PrivEncrypted with
  | none => simp
  | some edWrapper =>
      cases db.secrets .dilithiumPrivEncrypted with
      | none => simp
      | some dilWrapper =>
          simp only [available, if_true, reduceCtorEq, or_self, iff_false]
          intro read
          obtain ⟨_, -, read⟩ := ok_of_bind read
          obtain ⟨_, -, read⟩ := ok_of_bind read
          cases read

theorem readHybridKeys_some_iff (available : platform.hybridSigAvailable = true)
    {db : Database Pem} {edPriv dilPriv : Bytes} :
    readHybridKeys P platform db newPassword = .ok (some (edPriv, dilPriv)) ↔
      unwrapColumn P (db.secrets .ed25519PrivEncrypted) newPassword = .ok (some edPriv) ∧
      unwrapColumn P (db.secrets .dilithiumPrivEncrypted) newPassword = .ok (some dilPriv) := by
  rw [unwrapColumn_some_iff, unwrapColumn_some_iff, readHybridKeys]
  cases db.secrets .ed25519PrivEncrypted with
  | none => simp
  | some edWrapper =>
      cases db.secrets .dilithiumPrivEncrypted with
      | none => simp
      | some dilWrapper =>
          simp only [available, if_true, Option.some.injEq, exists_eq_left']
          constructor
          · intro read
            obtain ⟨edFound, ed_ok, read⟩ := ok_of_bind read
            obtain ⟨dilFound, dil_ok, read⟩ := ok_of_bind read
            cases read
            exact ⟨ed_ok, dil_ok⟩
          · rintro ⟨ed_ok, dil_ok⟩
            rw [ed_ok, dil_ok]
            rfl

/-- A row that the reset has been over gives the public keys only. -/
theorem readFriend_reset_iff (lawful : P.Lawful) {row : FriendRow} {loaded : LoadedFriend Pub} :
    readFriend P platform newPassword { withoutFriendSecrets row with ratchetStateJson := none } =
        .ok loaded ↔
      P.pemToPubkey row.publicKeyPem = .ok loaded.pub ∧ loaded.secret = none ∧
      loaded.ecdhPriv = none ∧
      attemptColumn (nonempty row.pqcCombinedPubB64) decodeBase64 = .ok loaded.pqcCombinedPub ∧
      attemptColumn (row.hybridSigPub platform)
        (fun text => decodeBase64 text >>= parseCombinedPub) = .ok loaded.hybridSigPubs := by
  have wrapped : FriendRow.Wrapped P
      { withoutFriendSecrets row with ratchetStateJson := none } := ⟨nofun, nofun⟩
  rw [readFriend_ok_iff lawful wrapped]
  have cleared : ∀ {value : Option Bytes},
      unwrapColumn P none newPassword = .ok value ↔ value = none := by
    intro value
    rw [unwrapColumn, Except.ok.injEq, eq_comm]
  exact and_congr_right fun _ => and_congr cleared (and_congr cleared Iff.rfl)

/-- The friends in memory keep their RSA keys only. -/
theorem resetStore_lookup (store : KeyStore Priv Pub) (name : String) :
    ((resetStore P platform draws store).friends.lookup name).map Prod.fst =
      (store.friends.lookup name).map Prod.fst := by
  let forget : String → Pub × Option Bytes → Pub × Option Bytes := fun _ friend => (friend.1, none)
  have cleared : (resetStore P platform draws store).friends.lookup name =
      ((store.friends.lookup name).map (forget name)).map (forget name) :=
    (Dict.lookup_map_values _ forget name).trans
      (congrArg (Option.map (forget name)) (Dict.lookup_map_values store.friends forget name))
  rw [cleared, Option.map_map, Option.map_map]
  rfl

end Readings

section Reset

variable {Priv Pub Pem : Type} {P : Primitives Priv Pub Pem} {platform : Platform}
variable {session : Session Priv Pub Pem} {lost newPassword : Bytes} {draws : ResetDraws Priv}
variable {pem : Pem} {now : Rat} {loadDraws : LoadDraws}

/-- What a reset that returns leaves. -/
def resetSession (P : Primitives Priv Pub Pem) (platform : Platform)
    (session : Session Priv Pub Pem) (newPassword : Bytes) (draws : ResetDraws Priv) (pem : Pem) :
    Session Priv Pub Pem :=
  ⟨resetStore P platform draws session.store,
    resetRows P platform newPassword draws pem session.db⟩

/-- The friends that a fresh store reads are those of the store in memory when each is mirrored. -/
theorem friends_same_iff (lawful : P.Lawful) {readings : Readings Priv Pub}
    (reads : readFriends P platform newPassword
      (resetRows P platform newPassword draws pem session.db).friends.items = .ok readings.friends)
    (name : String) :
    let loaded : KeyStore Priv Pub := readings.store P platform
      (resetRows P platform newPassword draws pem session.db) {}
    ((loaded.friends.lookup name).map Prod.fst =
        ((resetStore P platform draws session.store).friends.lookup name).map Prod.fst ∧
      loaded.friendsX25519.get? name = none ∧ loaded.friendsPqcCombinedPub.get? name = none ∧
      loaded.friendsHybridSigPubs.get? name = none) ↔
      Mirrored P platform session.store name (session.db.friends.get? name) := by
  have unique : (readings.friends.map fun friend => friend.1.1).Nodup := by
    rw [readFriends_names reads]
    exact Dict.nodup _
  have list := Readings.lookup_store P platform
    (resetRows P platform newPassword draws pem session.db) readings {} name
  have x25519 := Readings.get?_store P platform KeyStore.friendsX25519
    (fun row _ => nonempty row.x25519PublicKeyB64) (fun _ _ _ => rfl) (fun _ => rfl)
    (resetRows P platform newPassword draws pem session.db) unique {} name
  have pqc := Readings.get?_store P platform KeyStore.friendsPqcCombinedPub
    (fun _ loaded => loaded.pqcCombinedPub) (fun _ _ _ => rfl) (fun _ => rfl)
    (resetRows P platform newPassword draws pem session.db) unique {} name
  have hybrid := Readings.get?_store P platform KeyStore.friendsHybridSigPubs
    (fun _ loaded => loaded.hybridSigPubs) (fun _ _ _ => rfl) (fun _ => rfl)
    (resetRows P platform newPassword draws pem session.db) unique {} name
  have found := resetRows_friends P platform newPassword draws pem session.db name
  have named := readFriends_named reads name
  simp only [list, x25519, pqc, hybrid, resetStore_lookup]
  cases stored : session.db.friends.get? name with
  | none =>
      rw [stored] at found
      rw [named.1 found]
      simp only [Option.map_none, Option.bind_none, and_self, and_true, Mirrored]
      rw [eq_comm, Option.map_eq_none_iff]
  | some row =>
      rw [stored] at found
      obtain ⟨loaded, read, here⟩ := named.2 _ found
      obtain ⟨pub_ok, -, -, pqc_ok, hybrid_ok⟩ := (readFriend_reset_iff lawful).mp read
      rw [here]
      simp only [Option.map_some, Option.bind_some, Mirrored, pub_ok, pqc_ok, hybrid_ok,
        Except.ok.injEq]
      refine and_congr ?_ Iff.rfl
      cases session.store.friends.lookup name with
      | none => simp
      | some friend =>
          obtain ⟨pub, secret⟩ := friend
          simp only [Option.map_some, Option.some.injEq, Prod.mk.injEq]
          constructor
          · intro same
            exact ⟨pub, secret, same, rfl, rfl⟩
          · rintro ⟨_, _, same, known, _⟩
            exact same.trans known.symm

/-- A row that was written, or held the secret already. -/
theorem writtenColumn_iff (lawful : P.Lawful) {row written : Nat} {plain : Bytes}
    {entropy : Entropy} {column : Option Wrapper} :
    unwrapColumn P (if row ≤ written then some (wrap P plain newPassword entropy) else column)
        newPassword = .ok (some plain) ↔
      (written < row → unwrapColumn P column newPassword = .ok (some plain)) := by
  by_cases reached : row ≤ written
  · have own : unwrapColumn P (some (wrap P plain newPassword entropy)) newPassword =
        .ok (some plain) := by
      rw [unwrapColumn, unwrap_wrap lawful, if_pos rfl]
      rfl
    simp only [reached, if_true, own, true_iff]
    omega
  · have missed : written < row := by omega
    simp only [reached, if_false, missed, true_imp_iff]

theorem writtenText_iff {row written : Nat} {pub : Bytes} {column : Option String} :
    (if row ≤ written then some (b64encode pub) else column).bind
        (fun text => (decodeBase64 text).toOption) = some pub ↔
      (written < row → column.bind (fun text => (decodeBase64 text).toOption) = some pub) := by
  by_cases reached : row ≤ written
  · simp only [reached, if_true, Option.bind_some, decodeBase64_b64encode, Except.toOption,
      true_iff]
    omega
  · have missed : written < row := by omega
    simp only [reached, if_false, missed, true_imp_iff]

/-- The signing keys that a fresh store reads are those in memory when their rows were written. -/
theorem signing_same_iff (lawful : P.Lawful) {hybrid : Option (Bytes × Bytes)}
    (available : platform.hybridSigAvailable = true) :
    let after := resetRows P platform newPassword draws pem session.db
    let store := resetStore P platform draws session.store
    (readHybridKeys P platform after newPassword = .ok hybrid ∧
        hybrid.map Prod.fst = store.myEdPriv ∧ hybrid.map Prod.snd = store.myDilPriv ∧
        readHybridPub platform after = store.myHybridSigCombinedPub) ↔
      SigningWritten P newPassword session.db draws.hybrid ∧
        hybrid = draws.hybrid.map fun step => (step.keys.edPriv, step.keys.dilPriv) := by
  simp only [resetStore, readHybridPub, available, if_true]
  cases found : draws.hybrid with
  | none =>
      obtain ⟨rows, text⟩ := @resetRows_signing_idle _ _ _ P platform newPassword draws pem
        session.db (.inr found)
      rw [text]
      constructor
      · rintro ⟨read, ed, -, pub⟩
        obtain rfl := Option.map_eq_none_iff.mp ed
        have unpaired := (readHybridKeys_none_iff available).mp read
        rw [rows _ (.inl rfl), rows _ (.inr rfl)] at unpaired
        exact ⟨⟨unpaired, pub⟩, rfl⟩
      · rintro ⟨⟨unpaired, pub⟩, rfl⟩
        rw [← rows _ (.inl rfl), ← rows _ (.inr rfl)] at unpaired
        exact ⟨(readHybridKeys_none_iff available).mpr unpaired, rfl, rfl, pub⟩
  | some step =>
      obtain ⟨ed, dil, text⟩ := @resetRows_signing_step _ _ _ P platform newPassword draws pem
        session.db step available found
      simp only [text, Option.map_some, SigningWritten, writtenText_iff]
      have pair : readHybridKeys P platform
          (resetRows P platform newPassword draws pem session.db) newPassword =
            .ok (some (step.keys.edPriv, step.keys.dilPriv)) ↔
          (step.written < 1 → unwrapColumn P (session.db.secrets .ed25519PrivEncrypted)
            newPassword = .ok (some step.keys.edPriv)) ∧
          (step.written < 2 → unwrapColumn P (session.db.secrets .dilithiumPrivEncrypted)
            newPassword = .ok (some step.keys.dilPriv)) := by
        rw [readHybridKeys_some_iff available, ed, dil, writtenColumn_iff lawful,
          writtenColumn_iff lawful]
      constructor
      · rintro ⟨read, edSame, dilSame, pub⟩
        have both : hybrid = some (step.keys.edPriv, step.keys.dilPriv) := by
          cases hybrid with
          | none => cases edSame
          | some keys =>
              obtain ⟨edPriv, dilPriv⟩ := keys
              cases edSame
              cases dilSame
              rfl
        rw [both] at read
        exact ⟨⟨(pair.mp read).1, (pair.mp read).2, pub⟩, both⟩
      · rintro ⟨⟨edRow, dilRow, pub⟩, rfl⟩
        exact ⟨pair.mpr ⟨edRow, dilRow⟩, rfl, rfl, pub⟩

theorem readHybridKeys_unavailable (unavailable : platform.hybridSigAvailable = false)
    (db : Database Pem) (password : Bytes) :
    readHybridKeys P platform db password = .ok none := by
  rw [readHybridKeys, unavailable]
  split <;> rfl

/-- Where hybrid signatures are unavailable nothing of them is read or held. -/
theorem hybrid_same_iff (lawful : P.Lawful) {hybrid : Option (Bytes × Bytes)} :
    let after := resetRows P platform newPassword draws pem session.db
    let store := resetStore P platform draws session.store
    (readHybridKeys P platform after newPassword = .ok hybrid ∧
        hybrid.map Prod.fst = store.myEdPriv ∧ hybrid.map Prod.snd = store.myDilPriv ∧
        readHybridPub platform after = store.myHybridSigCombinedPub) ↔
      (platform.hybridSigAvailable = true →
        SigningWritten P newPassword session.db draws.hybrid) ∧
        hybrid = if platform.hybridSigAvailable then
          draws.hybrid.map fun step => (step.keys.edPriv, step.keys.dilPriv) else none := by
  cases available : platform.hybridSigAvailable with
  | true =>
      simp only [true_imp_iff, if_true]
      exact signing_same_iff lawful available
  | false =>
      simp only [reduceCtorEq, false_imp_iff, true_and, if_false]
      rw [readHybridKeys_unavailable available, readHybridPub, resetStore, available]
      constructor
      · exact fun ⟨read, _⟩ => (Except.ok.inj read).symm
      · rintro rfl
        exact ⟨rfl, rfl, rfl, rfl⟩

section Loads

variable (lawful : P.Lawful) (sound : Sound P session.db)
variable (made : P.privkeyToEncryptedPem draws.priv newPassword
  (draws.wrappers.key .privateKeyEncrypted) = .ok pem)
include lawful sound made

/-- The rows that the reset always rewrites read as the keys that it made. -/
theorem reset_reads_iff {readings : Readings Priv Pub} :
    let after := resetRows P platform newPassword draws pem session.db
    Reads P platform after newPassword now readings ↔
      readings.pub = P.publicKey draws.priv ∧ readings.priv = draws.priv ∧
      readings.legacy = none ∧ readings.globalSecret = some draws.globalSecret ∧
      unwrapColumn P (session.db.secrets .kyberPrivEncrypted) newPassword = .ok readings.kyber ∧
      unwrapColumn P (session.db.secrets .pqcX25519PrivEncrypted) newPassword =
        .ok readings.x25519 ∧
      readHybridKeys P platform after newPassword = .ok readings.hybrid ∧
      readFriends P platform newPassword after.friends.items = .ok readings.friends := by
  obtain ⟨publicKey, privateKey, legacy, -, globalSecret, -, -, -, pqc⟩ :=
    @resetRows_rows _ _ _ P platform newPassword draws pem session.db
  obtain ⟨oldPub, oldPub_stored⟩ := sound.publicKey
  obtain ⟨oldPem, oldPem_stored⟩ := Option.isSome_iff_exists.mp sound.privateKey
  obtain ⟨oldSecret, oldSecret_stored⟩ := Option.isSome_iff_exists.mp sound.globalSecret
  rw [oldPub_stored, Option.map_some] at publicKey
  rw [oldPem_stored, Option.map_some] at privateKey
  rw [oldSecret_stored, Option.map_some] at globalSecret
  have secretRead : unwrapColumn P ((resetRows P platform newPassword draws pem
      session.db).secrets .globalSecret) newPassword = .ok (some draws.globalSecret) := by
    rw [globalSecret, unwrapColumn, unwrap_wrap lawful, if_pos rfl]
    rfl
  have legacyRead : readLegacyKey P (resetRows P platform newPassword draws pem session.db)
      newPassword now = .ok none := by
    rw [readLegacyKey, legacy]
  constructor
  · intro reads
    obtain ⟨foundPub, foundPub_stored, pub_ok⟩ := reads.pub
    obtain ⟨foundPem, foundPem_stored, priv_ok⟩ := reads.priv
    have legacy_ok := reads.legacy
    have global_ok := reads.globalSecret
    rw [publicKey] at foundPub_stored
    cases foundPub_stored
    rw [privateKey] at foundPem_stored
    cases foundPem_stored
    rw [lawful.pubkey_round] at pub_ok
    rw [lawful.pem_opens made] at priv_ok
    rw [legacyRead] at legacy_ok
    rw [secretRead] at global_ok
    refine ⟨(Except.ok.inj pub_ok).symm, (Except.ok.inj priv_ok).symm,
      (Except.ok.inj legacy_ok).symm, (Except.ok.inj global_ok).symm, ?_, ?_, reads.hybrid,
      reads.friends⟩
    · rw [← pqc _ (.inl rfl)]
      exact reads.kyber
    · rw [← pqc _ (.inr rfl)]
      exact reads.x25519
  · rintro ⟨pub, priv, legacyNone, global, kyber, x25519, hybrid, friends⟩
    refine ⟨⟨_, publicKey, ?_⟩, ⟨_, privateKey, ?_⟩, ?_, ?_, ?_, ?_, hybrid, friends⟩
    · rw [pub, lawful.pubkey_round]
    · rw [priv, lawful.pem_opens made]
    · rw [legacyNone, legacyRead]
    · rw [global, secretRead]
    · rw [pqc _ (.inl rfl)]
      exact kyber
    · rw [pqc _ (.inr rfl)]
      exact x25519

omit sound made in
theorem reset_readRatchetKey :
    readRatchetKey P (resetRows P platform newPassword draws pem session.db) newPassword
      loadDraws = .ok draws.ratchetKey := by
  obtain ⟨-, -, -, -, -, ratchet, -⟩ :=
    @resetRows_rows _ _ _ P platform newPassword draws pem session.db
  rw [readRatchetKey, ratchet, unwrapColumn, unwrap_wrap lawful, if_pos rfl]
  rfl

omit sound made in
/-- Every friend's row reads when his public keys parse. -/
theorem reset_friends_read
    (mirrored : ∀ name, Mirrored P platform session.store name (session.db.friends.get? name)) :
    ∃ friends, readFriends P platform newPassword
      (resetRows P platform newPassword draws pem session.db).friends.items = .ok friends := by
  refine readFriends_ok_iff.mpr ?_
  rintro ⟨name, row⟩ member
  have found := Dict.get?_of_mem _ member
  have here := mirrored name
  rw [resetRows_friends] at found
  obtain ⟨old, stored, rfl⟩ := Option.map_eq_some_iff.mp found
  rw [stored] at here
  obtain ⟨⟨pub, secret, pub_ok, -⟩, -, pqc_ok, hybrid_ok⟩ := here
  exact ⟨⟨pub, none, none, none, none⟩, (readFriend_reset_iff lawful).mpr
    ⟨pub_ok, rfl, rfl, pqc_ok, hybrid_ok⟩⟩

/-- A fresh store loads what the store in memory holds. -/
theorem reset_loads_iff (now : Rat) (loadDraws : LoadDraws)
    (soundAfter : Sound P (resetRows P platform newPassword draws pem session.db)) :
    let after := resetSession P platform session newPassword draws pem
    (∃ loaded, (load P platform newPassword now loadDraws).run ⟨{}, after.db⟩ =
      (.ok true, loaded) ∧ SameKeys loaded.store after.store) ↔
    (∀ key, key.IsPqc → session.db.secrets key = none) ∧
      (platform.hybridSigAvailable = true →
        SigningWritten P newPassword session.db draws.hybrid) ∧
      ∀ name, Mirrored P platform session.store name (session.db.friends.get? name) := by
  have cleared : ∀ {key : SecretSetting},
      unwrapColumn P (session.db.secrets key) newPassword = .ok none →
        session.db.secrets key = none := by
    intro key read
    rcases unwrapColumn_ok_iff.mp read with ⟨absent, -⟩ | ⟨_, _, -, -, impossible⟩
    · exact absent
    · cases impossible
  constructor
  · rintro ⟨loaded, success, same⟩
    obtain ⟨readings, key, reads, -, rfl⟩ :=
      (load_true_iff lawful (by exact soundAfter)).mp success
    obtain ⟨-, -, -, -, kyber, -, bundle, ed, dil, hybridPub⟩ := Readings.attributes P platform
      (resetRows P platform newPassword draws pem session.db) readings {}
    obtain ⟨-, -, -, -, kyber_ok, x25519_ok, hybrid_ok, friends_ok⟩ :=
      (reset_reads_iff lawful sound made).mp reads
    have noKyber : readings.kyber = none := kyber.symm.trans same.kyberPriv
    have noX25519 : readings.x25519 = none :=
      Option.map_eq_none_iff.mp (bundle.symm.trans same.pqcBundle)
    refine ⟨?_, (hybrid_same_iff lawful).mp ⟨hybrid_ok, ed.symm.trans same.edPriv,
      dil.symm.trans same.dilPriv, hybridPub.symm.trans same.hybridSigCombinedPub⟩ |>.1, ?_⟩
    · rintro key (rfl | rfl)
      · exact cleared (noKyber ▸ kyber_ok)
      · exact cleared (noX25519 ▸ x25519_ok)
    · exact fun name => (friends_same_iff lawful friends_ok name).mp ⟨same.friends name,
        same.friendsX25519 name, same.friendsPqcCombinedPub name, same.friendsHybridSigPubs name⟩
  · rintro ⟨pqc, signing, mirrored⟩
    obtain ⟨friends, friends_ok⟩ := reset_friends_read lawful mirrored
    let hybrid := if platform.hybridSigAvailable then
      draws.hybrid.map fun step => (step.keys.edPriv, step.keys.dilPriv) else none
    have chosen : hybrid = if platform.hybridSigAvailable then
      draws.hybrid.map fun step => (step.keys.edPriv, step.keys.dilPriv) else none := rfl
    obtain ⟨hybrid_ok, edSame, dilSame, pubSame⟩ := (hybrid_same_iff lawful).mpr ⟨signing, chosen⟩
    let readings : Readings Priv Pub := ⟨P.publicKey draws.priv, draws.priv, none,
      some draws.globalSecret, none, none, hybrid, friends⟩
    have reads : Reads P platform (resetRows P platform newPassword draws pem session.db)
        newPassword now readings := by
      refine (reset_reads_iff lawful sound made).mpr ⟨rfl, rfl, rfl, rfl, ?_, ?_, hybrid_ok,
        friends_ok⟩
      · rw [pqc _ (.inl rfl)]
        rfl
      · rw [pqc _ (.inr rfl)]
        rfl
    refine ⟨_, (load_true_iff lawful (by exact soundAfter)).mpr ⟨readings, draws.ratchetKey, reads,
      reset_readRatchetKey lawful, rfl⟩, ?_⟩
    obtain ⟨pub, priv, legacy, globalSecret, kyber, pqcPub, bundle, ed, dil, hybridPub⟩ :=
      Readings.attributes P platform (resetRows P platform newPassword draws pem session.db)
        readings {}
    have friendsSame := fun name => (friends_same_iff lawful reads.friends name).mpr (mirrored name)
    exact {
      myPub := pub
      myPriv := priv
      legacyPriv := legacy
      globalSecret := globalSecret
      kyberPriv := kyber
      pqcCombinedPub := pqcPub
      pqcBundle := bundle
      edPriv := ed.trans edSame
      dilPriv := dil.trans dilSame
      hybridSigCombinedPub := hybridPub.trans pubSame
      ratchetStorageKey := rfl
      friends := fun name => (friendsSame name).1
      friendsX25519 := fun name => (friendsSame name).2.1
      friendsPqcCombinedPub := fun name => (friendsSame name).2.2.1
      friendsHybridSigPubs := fun name => (friendsSame name).2.2.2 }

end Loads

theorem carried_wrap (lawful : P.Lawful) (lost plain newPassword : Bytes) (entropy : Entropy) :
    Carried P lost newPassword (wrap P plain newPassword entropy) :=
  fun _ _ => ⟨plain, by rw [unwrap_wrap lawful, if_pos rfl]⟩

/-- No setting is left under the lost password. -/
theorem reset_settings_carried (lawful : P.Lawful)
    (resettable : Resettable P platform session lost newPassword draws.hybrid)
    {key : SecretSetting} {wrapper : Wrapper}
    (stored : (resetRows P platform newPassword draws pem session.db).secrets key = some wrapper) :
    Carried P lost newPassword wrapper := by
  obtain ⟨-, -, -, -, globalSecret, ratchet, totp, duress, pqc⟩ :=
    @resetRows_rows _ _ _ P platform newPassword draws pem session.db
  have signingRow : ∀ key, key.IsSigning →
      (resetRows P platform newPassword draws pem session.db).secrets key = some wrapper →
        Carried P lost newPassword wrapper := by
    intro key isSigning stored
    by_cases idle : platform.hybridSigAvailable = false ∨ draws.hybrid = none
    · rw [(resetRows_signing_idle idle).1 key isSigning] at stored
      exact resettable.leftSigning idle key isSigning wrapper stored
    · rw [not_or, Bool.not_eq_false] at idle
      obtain ⟨available, generated⟩ := idle
      obtain ⟨step, found⟩ := Option.ne_none_iff_exists'.mp generated
      have opens : ∃ plain, unwrapColumn P ((resetRows P platform newPassword draws pem
          session.db).secrets key) newPassword = .ok (some plain) := by
        obtain ⟨ed, dil, -⟩ := @resetRows_signing_step _ _ _ P platform newPassword draws pem
          session.db step available found
        have signing := resettable.signing available
        rw [found] at signing
        rcases isSigning with rfl | rfl
        · rw [ed]
          exact ⟨_, (writtenColumn_iff lawful).mpr signing.1⟩
        · rw [dil]
          exact ⟨_, (writtenColumn_iff lawful).mpr signing.2.1⟩
      obtain ⟨plain, read⟩ := opens
      obtain ⟨same, same_stored, opened⟩ := unwrapColumn_some_iff.mp read
      rw [stored] at same_stored
      cases same_stored
      exact fun _ _ => ⟨plain, opened⟩
  cases key with
  | globalSecret =>
      rw [globalSecret] at stored
      obtain ⟨_, -, rfl⟩ := Option.map_eq_some_iff.mp stored
      exact carried_wrap lawful _ _ _ _
  | ratchetStorageKey =>
      rw [ratchet] at stored
      cases stored
      exact carried_wrap lawful _ _ _ _
  | totpSecretEncrypted =>
      rw [totp] at stored
      cases stored
  | duressVerifier =>
      rw [duress] at stored
      cases stored
  | kyberPrivEncrypted =>
      rw [pqc _ (.inl rfl), resettable.pqc _ (.inl rfl)] at stored
      cases stored
  | pqcX25519PrivEncrypted =>
      rw [pqc _ (.inr rfl), resettable.pqc _ (.inr rfl)] at stored
      cases stored
  | ed25519PrivEncrypted => exact signingRow _ (.inl rfl) stored
  | dilithiumPrivEncrypted => exact signingRow _ (.inr rfl) stored

/-- No encrypted PEM is left under the lost password. -/
theorem reset_keys_carried (lawful : P.Lawful)
    (made : P.privkeyToEncryptedPem draws.priv newPassword
      (draws.wrappers.key .privateKeyEncrypted) = .ok pem)
    (resettable : Resettable P platform session lost newPassword draws.hybrid)
    {key : KeySetting} {found : Pem} {priv : Priv}
    (stored : (resetRows P platform newPassword draws pem session.db).keys key = some found)
    (opened : P.pemToPrivkey found lost = .ok priv) :
    ∃ priv, P.pemToPrivkey found newPassword = .ok priv := by
  obtain ⟨-, privateKey, legacy, decoy, -⟩ :=
    @resetRows_rows _ _ _ P platform newPassword draws pem session.db
  cases key with
  | privateKeyEncrypted =>
      rw [privateKey] at stored
      obtain ⟨_, -, rfl⟩ := Option.map_eq_some_iff.mp stored
      exact ⟨draws.priv, lawful.pem_opens made⟩
  | legacyPrivateKeyEncrypted =>
      rw [legacy] at stored
      cases stored
  | duressDecoyPrivkey =>
      rw [decoy] at stored
      exact resettable.decoy found priv stored opened

theorem resetKeys_ok {after : Session Priv Pub Pem}
    (reset : (resetKeys P platform newPassword draws).run session = (.ok true, after)) :
    ∃ pem, P.privkeyToEncryptedPem draws.priv newPassword
      (draws.wrappers.key .privateKeyEncrypted) = .ok pem ∧
        after = resetSession P platform session newPassword draws pem := by
  obtain ⟨pem, _, lifted, rest⟩ := Call.ok_of_run_bind reset
  obtain ⟨made, same⟩ := Call.ok_of_run_lift ((Call.run_mapError_ok_iff _ _ _ _ _).mp lifted)
  rw [same] at rest
  cases rest
  exact ⟨pem, made, rfl⟩

/-- The keys load with the new password as they are in memory, and nothing is left under the lost
one, exactly when the rows that the reset passes over allow it. -/
theorem keysConsistent_iff (lawful : P.Lawful)
    (reachable : (machine P platform).Reachable (fun _ _ => True) session)
    (generated : ∀ step ∈ draws.hybrid, step.keys.WellFormed) {after : Session Priv Pub Pem}
    (reset : (resetKeys P platform newPassword draws).run session = (.ok true, after)) :
    KeysConsistent P platform session after lost newPassword now loadDraws ↔
      Resettable P platform session lost newPassword draws.hybrid := by
  have sound : Sound P session.db := reachable_sound reachable
  have soundAfter : Sound P
      ((resetKeys P platform newPassword draws).run session).2.db :=
    resetKeys_sound sound newPassword generated
  rw [reset] at soundAfter
  obtain ⟨pem, made, rfl⟩ := resetKeys_ok reset
  have loads := reset_loads_iff lawful sound made now loadDraws soundAfter
  constructor
  · intro consistent
    obtain ⟨pqc, signing, mirrored⟩ := loads.mp consistent.loads
    refine ⟨pqc, signing, ?_, ?_, mirrored⟩
    · intro idle key isSigning wrapper stored
      rw [← (resetRows_signing_idle idle).1 key isSigning] at stored
      exact consistent.settings key wrapper stored
    · intro found priv stored opened
      obtain ⟨-, -, -, decoy, -⟩ :=
        @resetRows_rows _ _ _ P platform newPassword draws pem session.db
      rw [← decoy] at stored
      exact consistent.keys _ found priv stored opened
  · intro resettable
    refine ⟨loads.mpr ⟨resettable.pqc, resettable.signing, resettable.friends⟩, ?_,
      fun _ _ stored => reset_settings_carried lawful resettable stored,
      fun _ _ _ stored opened => reset_keys_carried lawful made resettable stored opened, ?_, ?_⟩
    · intro name
      rw [resetSession, resetRows_friends, Option.map_map]
      rfl
    · intro name row wrapper stored column
      rw [resetSession, resetRows_friends] at stored
      obtain ⟨_, -, rfl⟩ := Option.map_eq_some_iff.mp stored
      rcases column with absent | absent <;> cases absent
    · intro name row stored
      rw [resetSession, resetRows_friends] at stored
      obtain ⟨_, -, rfl⟩ := Option.map_eq_some_iff.mp stored
      rfl

/-- What the reset has to leave: the keys, which a fresh store loads over connections of its own,
and nothing under the lost password. -/
structure ResetConsistent (P : Primitives Priv Pub Pem) (platform : Platform)
    (process after : Process Priv Pub Pem) (lost newPassword : Bytes) (now : Rat)
    (draws : LoadDraws) (first second : DbKeyDraw) : Prop where
  keys : KeysConsistent P platform process.session after.session lost newPassword now draws
  loads : ∃ loaded, (Process.load P platform newPassword now draws first second).run
      ⟨after.database, ⟨{}, after.session.db⟩⟩ = (.ok true, loaded) ∧
    SameKeys loaded.session.store after.session.store
  dbKey : ∀ wrapper ∈ after.database.sqlcipherDbKey, Carried P lost newPassword wrapper

/-- Once there is a master password, no connection of `sqlcipher3` opens a file. -/
theorem opens_after_reset {process after : Process Priv Pub Pem} (opens : process.database.Opens)
    (left : after.database = { process.database with masterPassword := some newPassword }) :
    after.database.Opens ↔ process.database.hasSqlcipher = false := by
  rw [left]
  constructor
  · intro still
    by_contra installed
    rw [Bool.not_eq_false] at installed
    cases (still.keyless installed).1
  · intro missing
    refine ⟨opens.plain, ?_⟩
    intro installed
    exact absurd (missing.symm.trans installed) (by decide)

/-- After a successful reset the key store loads as it is in memory, and nothing is left under the
lost password, exactly when `sqlcipher3` is not installed and the rows that the reset passes over
allow it. -/
theorem recovery_reset_consistent_iff (lawful : P.Lawful) {process : Process Priv Pub Pem}
    (reachable : (machine P platform).Reachable (fun _ _ => True) process.session)
    (generated : ∀ step ∈ draws.hybrid, step.keys.WellFormed) {after : Process Priv Pub Pem}
    {draw : DbKeyDraw} (first second : DbKeyDraw)
    (reset : (Process.resetWithRecoveryKey P platform newPassword draws draw).run process =
      (.ok true, after)) :
    ResetConsistent P platform process after lost newPassword now loadDraws first second ↔
      process.database.hasSqlcipher = false ∧
        (∀ wrapper ∈ process.database.sqlcipherDbKey, Carried P lost newPassword wrapper) ∧
          Resettable P platform process.session lost newPassword draws.hybrid := by
  obtain ⟨opens, keys, left⟩ := Process.resetWithRecoveryKey_true reset
  have stillOpens := opens_after_reset opens left
  have row : after.database.sqlcipherDbKey = process.database.sqlcipherDbKey := by
    rw [left]
  have consistent : KeysConsistent P platform process.session after.session lost newPassword now
      loadDraws ↔ Resettable P platform process.session lost newPassword draws.hybrid :=
    keysConsistent_iff lawful reachable generated keys
  constructor
  · intro whole
    obtain ⟨loaded, ran, _⟩ := whole.loads
    have found : (⟨after.database, ⟨{}, after.session.db⟩⟩ : Process Priv Pub Pem).database.Opens :=
      Process.opens_of_load ran
    exact ⟨stillOpens.mp found, row ▸ whole.dbKey, consistent.mp whole.keys⟩
  · rintro ⟨missing, carried, resettable⟩
    have whole := consistent.mpr resettable
    refine ⟨whole, ?_, row ▸ carried⟩
    obtain ⟨loaded, ran, same⟩ := whole.loads
    refine ⟨⟨after.database, loaded⟩, ?_, same⟩
    have found : (⟨after.database, ⟨{}, after.session.db⟩⟩ : Process Priv Pub Pem).database.Opens :=
      stillOpens.mpr missing
    rw [Process.load_opens found]
    exact Call.run_within ran

end Reset

section Toy

/-- A reset whose hybrid step goes through. -/
def toyReset : ResetDraws String where
  priv := "my new key"
  globalSecret := [20]
  ratchetKey := [21]
  wrappers := toyDraws
  hybrid := some ⟨⟨List.replicate 32 22, [23], [24]⟩, 3⟩

theorem toyReset_wellFormed : ∀ step ∈ toyReset.hybrid, step.keys.WellFormed := by
  intro step found
  cases found
  decide

theorem toyBefriended_resettable :
    Resettable toyLibraries toyPlatform toyBefriended [1] [2] toyReset.hybrid := by
  refine ⟨?_, fun _ => ?_, ?_, ?_, ?_⟩
  · rintro key (rfl | rfl) <;> decide +kernel
  · exact ⟨fun few => absurd few (by decide), fun few => absurd few (by decide),
      fun few => absurd few (by decide)⟩
  · rintro (impossible | impossible) <;> cases impossible
  · intro pem priv stored
    cases stored
  · intro name
    by_cases here : name = "bob"
    · subst here
      exact ⟨⟨"bob's key", some [12], by decide +kernel⟩, by decide +kernel⟩
    · have keys : toyBefriended.db.friends.keys = ["bob"] := by decide +kernel
      have friends : toyBefriended.store.friends = [("bob", "bob's key", some [12])] := by
        decide +kernel
      have absent : toyBefriended.db.friends.get? name = none := by
        rw [Dict.get?_eq_none_iff, keys, List.mem_singleton]
        exact here
      rw [absent, Mirrored, friends, List.lookup_cons, beq_eq_false_iff_ne.mpr here]
      rfl

/-- A plaintext file, and no recovery yet. -/
def toyDatabase (hasSqlcipher : Bool) : DatabaseModule where
  hasSqlcipher := hasSqlcipher
  masterPassword := none
  pageKey := none
  sqlcipherDbKey := none

def toyKeyDraw : DbKeyDraw := ⟨[30], toyEntropy 31 32⟩

def toyRecovered (process : Process String String (String × Bytes)) :
    Except Raised Bool × Process String String (String × Bytes) :=
  (Process.resetWithRecoveryKey toyLibraries toyPlatform [2] toyReset toyKeyDraw).run process

/-- The next login in that process. -/
def toyReloaded (process : Process String String (String × Bytes)) : Except Raised Bool :=
  ((Process.load toyLibraries toyPlatform [2] 0 toyLoadDraws toyKeyDraw toyKeyDraw).run
    ⟨(toyRecovered process).2.database, ⟨{}, (toyRecovered process).2.session.db⟩⟩).1

theorem toyBefriended_resets :
    ResetConsistent toyLibraries toyPlatform ⟨toyDatabase false, toyBefriended⟩
      (toyRecovered ⟨toyDatabase false, toyBefriended⟩).2 [1] [2] 0 toyLoadDraws toyKeyDraw
      toyKeyDraw :=
  (recovery_reset_consistent_iff toyLibraries_lawful toyBefriended_reachable toyReset_wellFormed
    toyKeyDraw toyKeyDraw (Prod.ext (by decide +kernel) rfl)).mpr
      ⟨rfl, nofun, toyBefriended_resettable⟩

theorem not_consistent_of_refused {process : Process String String (String × Bytes)}
    {raised : Raised} (refused : toyReloaded process = .error raised) :
    ¬ ResetConsistent toyLibraries toyPlatform process (toyRecovered process).2 [1] [2] 0
      toyLoadDraws toyKeyDraw toyKeyDraw := by
  intro consistent
  obtain ⟨loaded, ran, _⟩ := consistent.loads
  rw [toyReloaded, ran] at refused
  cases refused

/-- The reset returns `True`, and the next login raises: `InvalidTag` on the Kyber key, or, with
`sqlcipher3` and nothing but a friend, on a file that is none under the new key. -/
theorem toyEnsured_unloadable :
    (machine toyLibraries toyPlatform).Reachable (fun _ _ => True) toyEnsured ∧
    (toyRecovered ⟨toyDatabase false, toyEnsured⟩).1 = .ok true ∧
    toyReloaded ⟨toyDatabase false, toyEnsured⟩ =
      .error (.keyStoreErrorFrom "Key loading failed: " .invalidTag) ∧
    ¬ ResetConsistent toyLibraries toyPlatform ⟨toyDatabase false, toyEnsured⟩
      (toyRecovered ⟨toyDatabase false, toyEnsured⟩).2 [1] [2] 0 toyLoadDraws toyKeyDraw
      toyKeyDraw ∧
    (toyRecovered ⟨toyDatabase true, toyBefriended⟩).1 = .ok true ∧
    toyReloaded ⟨toyDatabase true, toyBefriended⟩ = .error .databaseError ∧
    ¬ ResetConsistent toyLibraries toyPlatform ⟨toyDatabase true, toyBefriended⟩
      (toyRecovered ⟨toyDatabase true, toyBefriended⟩).2 [1] [2] 0 toyLoadDraws toyKeyDraw
      toyKeyDraw := by
  have wrapped : toyReloaded ⟨toyDatabase false, toyEnsured⟩ =
      .error (.keyStoreErrorFrom "Key loading failed: " .invalidTag) := by decide +kernel
  have keyed : toyReloaded ⟨toyDatabase true, toyBefriended⟩ = .error .databaseError := by
    decide +kernel
  exact ⟨.run (.start toyStarted_start)
      ⟨trivial, trivial, toyPqcKeys_wellFormed, trivial, trivial⟩,
    by decide +kernel, wrapped, not_consistent_of_refused wrapped, by decide +kernel, keyed,
    not_consistent_of_refused keyed⟩

end Toy

end KeyStore

end UltimateEnigma
