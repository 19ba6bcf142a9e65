import UltimateEnigma.HybridKem
import UltimateEnigma.PasswordChange

set_option autoImplicit false

namespace UltimateEnigma

open Py

namespace KeyStore

/-- A result of `HybridKEM.generate_keys`. -/
structure Generated (K : KemLibrary) (keys : PqcBundle) : Prop where
  x25519Priv_length : keys.x25519Priv.length = 32
  kyberPriv_nonempty : keys.kyberPriv ≠ []
  combinedPub : keys.combinedPub =
    HybridSigner.combine (K.x25519Public keys.x25519Priv) (K.kyberPublic keys.kyberPriv)

theorem Generated.wellFormed {K : KemLibrary} {keys : PqcBundle} (generated : Generated K keys) :
    keys.WellFormed := by
  refine ⟨generated.x25519Priv_length, generated.kyberPriv_nonempty, ?_⟩
  intro empty
  have size := congrArg List.length (generated.combinedPub.symm.trans empty)
  simp only [HybridSigner.combine, List.length_append, packBE_length, List.length_nil] at size
  omega

/-- The two keys that memory holds between calls. -/
def pqcKeys {Priv Pub : Type} (store : KeyStore Priv Pub) : Option Bytes × Option Bytes :=
  (store.myKyberPriv, store.myPqcCombinedPub)

/-- Memory holds no key but those of the set that was made. -/
def InMemory (made : Option PqcBundle) (held : Option Bytes × Option Bytes) : Prop :=
  (∀ kyberPriv ∈ held.1, made.map PqcBundle.kyberPriv = some kyberPriv) ∧
    (∀ combinedPub ∈ held.2, made.map PqcBundle.combinedPub = some combinedPub)

/-- Both keys are in memory, as the first test of both `ensure` functions asks. -/
def HoldsPqcKeys {Priv Pub : Type} (store : KeyStore Priv Pub) : Prop :=
  store.myKyberPriv.isSome = true ∧ store.myPqcCombinedPub.isSome = true

/-- The operations on the PQC keys, with one password, and those that lock and unlock. -/
def Operation.OnPqcKeys {Priv : Type} (K : KemLibrary) (password : Bytes) : Operation Priv → Prop
  | .restart | .wipe => True
  | .load used _ _ | .loadPqcBundle used => used = password
  | .ensurePqcKeys used keys _ | .ensurePqcKeysFull used keys _ =>
      used = password ∧ Generated K keys
  | _ => False

section Runs

variable {Priv Pub Pem : Type} (K : KemLibrary) (P : Primitives Priv Pub Pem)
variable (platform : Platform) (password : Bytes)

/-- The three rows hold the keys of one set, wrapped under the password, or are absent. -/
def StoredPqcKeys (made : Option PqcBundle) (db : Database Pem) : Prop :=
  ∃ kyberEntropy x25519Entropy,
    db.secrets .kyberPrivEncrypted =
      made.map (fun keys => wrap P keys.kyberPriv password kyberEntropy) ∧
    db.secrets .pqcX25519PrivEncrypted =
      made.map (fun keys => wrap P keys.x25519Priv password x25519Entropy) ∧
    db.texts .pqcCombinedPubB64 = made.map fun keys => b64encode keys.combinedPub

/-- Rows and memory hold the keys of one generated set, or none. -/
structure OnePqcKeySet (made : Option PqcBundle) (session : Session Priv Pub Pem) : Prop where
  generated : ∀ keys ∈ made, Generated K keys
  stored : StoredPqcKeys P password made session.db
  inMemory : InMemory made (pqcKeys session.store)

/-- Runs begin with any sound database and at most one set of keys. -/
def pqcMachine : Machine (Session Priv Pub Pem) (Operation Priv) where
  start := fun session => Sound P session.db ∧ ∃ made, OnePqcKeySet K P password made session
  enabled := fun _ operation => operation.OnPqcKeys K password
  apply := fun session operation => operation.perform P platform session

/-- The calls that make no second set of keys and no half of one: `ensure_pqc_keys` finds the keys
in memory, `ensure_pqc_keys_full` finds them there or finds nothing stored. -/
def KeepsPqcKeys (session : Session Priv Pub Pem) : Operation Priv → Prop
  | .ensurePqcKeys _ _ _ => HoldsPqcKeys session.store ∨ platform.pqcAvailable = false
  | .ensurePqcKeysFull _ _ _ =>
      HoldsPqcKeys session.store ∨ platform.pqcAvailable = false ∨
        session.db.texts .pqcCombinedPubB64 = none
  | _ => True

/-- The combined public key is the stored one. -/
def Published (db : Database Pem) (combinedPub : Bytes) : Prop :=
  db.texts .pqcCombinedPubB64 = some (b64encode combinedPub)

/-- Everything for which the stored keys, the returned ones and those of a load have to agree. -/
structure PqcKeysConsistent (allowed : Session Priv Pub Pem → Operation Priv → Prop)
    (session : Session Priv Pub Pem) : Prop where
  /-- The rows come from one result of `generate_keys`. -/
  oneOrigin : ∃ made : Option PqcBundle, (∀ keys ∈ made, Generated K keys) ∧
    StoredPqcKeys P password made session.db
  /-- What is in memory, or returned by a call, is stored. -/
  held : ∀ combinedPub ∈ session.store.myPqcCombinedPub, Published session.db combinedPub
  ensured : ∀ keys draws bundle after, Generated K keys →
    allowed session (.ensurePqcKeysFull password keys draws) →
    (ensurePqcKeysFull P platform password keys draws).run session = (.ok (some bundle), after) →
      Published after.db bundle.combinedPub
  loaded : ∀ bundle after, (loadPqcBundle P password).run session = (.ok (some bundle), after) →
    Published after.db bundle.combinedPub
  /-- What is stored stays. -/
  stays : ∀ after, (pqcMachine K P platform password).Follows allowed session after →
    ∀ combinedPub, Published session.db combinedPub → Published after.db combinedPub
  /-- A load makes the bundle that opens what was encapsulated to the stored key. -/
  decapsulates : ∀ now draws after combinedPub, Published session.db combinedPub →
    (load P platform password now draws).run session = (.ok true, after) →
      ∃ bundle, after.store.cachedPqcBundle = some bundle ∧
        ∀ xPriv draw ciphertext secret,
          HybridKem.encapsulate K xPriv draw combinedPub = .ok (ciphertext, secret) →
            HybridKem.decapsulate K bundle ciphertext = .ok secret

end Runs

section Reading

variable {Priv Pub Pem : Type} {K : KemLibrary} {P : Primitives Priv Pub Pem}
variable {platform : Platform} {password : Bytes} {made : Option PqcBundle}

/-- What is stored opens as the set that was made. -/
theorem readPqcBundle_stored (lawful : P.Lawful) {db : Database Pem}
    (generated : ∀ keys ∈ made, Generated K keys) (stored : StoredPqcKeys P password made db) :
    readPqcBundle P password db = .ok made := by
  obtain ⟨kyberEntropy, x25519Entropy, kyber, x25519, pub⟩ := stored
  rw [readPqcBundle, kyber, x25519, pub]
  cases made with
  | none => rfl
  | some keys =>
      have length : keys.x25519Priv.length = 32 := (generated keys rfl).x25519Priv_length
      simp only [Option.map_some, unwrap_wrap lawful, if_true, ok_bind, decodeBase64_b64encode,
        fromPrivateBytes, length]
      rfl

theorem StoredPqcKeys.published {db : Database Pem} (stored : StoredPqcKeys P password made db)
    {combinedPub : Bytes} :
    Published db combinedPub ↔ made.map PqcBundle.combinedPub = some combinedPub := by
  obtain ⟨_, _, _, _, pub⟩ := stored
  rw [Published, pub]
  cases made with
  | none => exact ⟨nofun, nofun⟩
  | some keys =>
      simp only [Option.map_some, Option.some.injEq]
      constructor
      · intro same
        have decoded := congrArg decodeBase64 same
        rw [decodeBase64_b64encode, decodeBase64_b64encode] at decoded
        exact Except.ok.inj decoded
      · rintro rfl
        rfl

theorem storedPqcKeys_survives :
    SurvivesLoad P (StoredPqcKeys P password made : Database Pem → Prop) := by
  constructor
  · exact fun _ stored => stored
  · intro used draws db after stored written
    obtain ⟨kyberEntropy, x25519Entropy, kyber, x25519, pub⟩ := stored
    obtain ⟨secrets, _, texts, _⟩ := newRatchetStorageKey_settings written
    exact ⟨kyberEntropy, x25519Entropy, (secrets _ (by decide)).trans kyber,
      (secrets _ (by decide)).trans x25519, (texts _ (by decide)).trans pub⟩

variable {session : Session Priv Pub Pem}

/-- Where memory holds both keys, it holds those of a set. -/
theorem OnePqcKeySet.exists_of_holds (one : OnePqcKeySet K P password made session)
    (holds : HoldsPqcKeys session.store) :
    ∃ keys, made = some keys ∧ session.store.myKyberPriv = some keys.kyberPriv ∧
      session.store.myPqcCombinedPub = some keys.combinedPub := by
  obtain ⟨kyberPriv, kyber⟩ := Option.isSome_iff_exists.mp holds.1
  obtain ⟨combinedPub, pub⟩ := Option.isSome_iff_exists.mp holds.2
  have kyberMade := one.inMemory.1 kyberPriv kyber
  have pubMade := one.inMemory.2 combinedPub pub
  cases made with
  | none => cases kyberMade
  | some keys =>
      cases kyberMade
      cases pubMade
      exact ⟨keys, rfl, kyber, pub⟩

theorem OnePqcKeySet.storedPqcBundle (lawful : P.Lawful)
    (one : OnePqcKeySet K P password made session) (holds : HoldsPqcKeys session.store) :
    storedPqcBundle P password session = .ok made := by
  obtain ⟨keys, rfl, kyber, pub⟩ := one.exists_of_holds holds
  obtain ⟨_, _, _, x25519, _⟩ := one.stored
  have length : keys.x25519Priv.length = 32 := (one.generated keys rfl).x25519Priv_length
  simp only [KeyStore.storedPqcBundle, kyber, pub, x25519, Option.map_some, attemptColumn,
    unwrap_wrap lawful, if_true, ok_bind, fromPrivateBytes, length]
  rfl

end Reading

section Loading

variable {Priv Pub Pem : Type} {K : KemLibrary} {P : Primitives Priv Pub Pem}
variable {platform : Platform} {password : Bytes} {made : Option PqcBundle}

/-- What `OnePqcKeySet` is about. -/
def pqcView (session : Session Priv Pub Pem) : Database Pem × (Option Bytes × Option Bytes) :=
  (session.db, pqcKeys session.store)

theorem seesOnly_pqcView : SeesOnly pqcKeys (pqcView : Session Priv Pub Pem → _) :=
  fun session _ same => congrArg (Prod.mk session.db) same

theorem onePqcKeySet_of_keeps {α : Type} {call : StoreCall Priv Pub Pem α}
    (keeps : call.Keeps pqcView) : call.Maintains (OnePqcKeySet K P password made) := by
  intro session one
  have same := keeps session
  have db : (call.run session).2.db = session.db := congrArg Prod.fst same
  have held : pqcKeys (call.run session).2.store = pqcKeys session.store := congrArg Prod.snd same
  refine ⟨one.generated, ?_, ?_⟩
  · rw [db]
    exact one.stored
  · rw [held]
    exact one.inMemory

theorem loadLegacyKey_onePqcKeySet (now : Rat) :
    (loadLegacyKey P password now).Maintains
      (OnePqcKeySet K P password made : Session Priv Pub Pem → Prop) := by
  intro session one
  have sees : SeesOnly pqcKeys fun session : Session Priv Pub Pem => pqcKeys session.store :=
    fun _ _ same => same
  have keeps : (loadLegacyKey P password now).Keeps
      fun session : Session Priv Pub Pem => pqcKeys session.store :=
    loadLegacyKey_keeps sees (fun _ _ => rfl) password now
  have held : pqcKeys ((loadLegacyKey P password now).run session).2.store = pqcKeys session.store :=
    keeps session
  refine ⟨one.generated, ?_, ?_⟩
  · exact loadLegacyKey_maintains storedPqcKeys_survives.deleteLegacyKey password now session one.stored
  · rw [held]
    exact one.inMemory

theorem loadKyberKey_onePqcKeySet (lawful : P.Lawful) :
    (loadKyberKey P password).Maintains
      (OnePqcKeySet K P password made : Session Priv Pub Pem → Prop) := by
  intro session one
  obtain ⟨_, _, kyber, _, _⟩ := one.stored
  simp only [loadKyberKey, run_assign_bind, Call.run_read_bind, kyber]
  cases made with
  | none =>
      refine ⟨one.generated, one.stored, ?_, ?_⟩
      · rintro _ ⟨⟩
      · rintro _ ⟨⟩
  | some keys =>
      simp only [Option.map_some, unwrap_wrap lawful, if_true, attempt, Call.run_lift_ok_bind,
        run_assign]
      refine ⟨one.generated, one.stored, ?_, ?_⟩
      · rintro kyberPriv ⟨⟩
        rfl
      · rintro _ ⟨⟩

theorem loadPqcCombinedPub_onePqcKeySet :
    (loadPqcCombinedPub).Maintains
      (OnePqcKeySet K P password made : Session Priv Pub Pem → Prop) := by
  intro session one
  obtain ⟨_, _, _, _, pub⟩ := one.stored
  simp only [loadPqcCombinedPub, Call.run_read_bind, pub]
  cases made with
  | none => exact one
  | some keys =>
      rw [Option.map_some]
      dsimp only
      rw [Call.run_ite]
      split
      · simp only [decodeBase64_b64encode, attempt, Call.run_lift_ok_bind, run_assign]
        refine ⟨one.generated, one.stored, one.inMemory.1, ?_⟩
        rintro combinedPub ⟨⟩
        rfl
      · exact one

theorem loadKeys_onePqcKeySet (lawful : P.Lawful) (now : Rat) :
    (loadKeys P platform password now).Maintains
      (OnePqcKeySet K P password made : Session Priv Pub Pem → Prop) := by
  have sees : SeesOnly pqcKeys (pqcView : Session Priv Pub Pem → _) := seesOnly_pqcView
  refine Call.maintains_bind (onePqcKeySet_of_keeps (loadPublicKey_keeps sees)) fun _ =>
    Call.maintains_bind (onePqcKeySet_of_keeps (loadPrivateKey_keeps sees password)) fun _ =>
    Call.maintains_ite ?_ (onePqcKeySet_of_keeps (Call.keeps_pure _))
  refine Call.maintains_bind (loadLegacyKey_onePqcKeySet now) fun _ =>
    Call.maintains_bind (onePqcKeySet_of_keeps (loadGlobalSecret_keeps sees password)) fun _ =>
    Call.maintains_ite ?_ (onePqcKeySet_of_keeps (Call.keeps_pure _))
  exact Call.maintains_bind (loadKyberKey_onePqcKeySet lawful) fun _ =>
    Call.maintains_bind loadPqcCombinedPub_onePqcKeySet fun _ => onePqcKeySet_of_keeps <|
    Call.keeps_bind (cachePqcBundle_keeps sees password) fun _ =>
    Call.keeps_bind (loadHybridSigning_keeps sees password) fun _ =>
    Call.keeps_bind (loadFriends_keeps sees password) fun _ => Call.keeps_pure _

theorem loadRatchetStorageKey_onePqcKeySet (draws : LoadDraws) :
    (loadRatchetStorageKey P password draws).Maintains
      (OnePqcKeySet K P password made : Session Priv Pub Pem → Prop) := by
  intro session one
  refine ⟨one.generated,
    loadRatchetStorageKey_maintains storedPqcKeys_survives.newRatchetStorageKey password draws session
      one.stored, ?_⟩
  have inMemory : (loadRatchetStorageKey P password draws).Maintains
      fun session : Session Priv Pub Pem => InMemory made (pqcKeys session.store) := by
    refine Call.maintains_read_bind fun session held => ?_
    split
    · cases attempt (unwrap P _ password) with
      | error raised => exact held
      | ok opened =>
          cases opened with
          | some key => exact held
          | none => exact ⟨nofun, nofun⟩
    · cases attempt (newRatchetStorageKey P password draws session.db) with
      | error raised => exact held
      | ok written =>
          cases written with
          | some db => exact held
          | none => exact ⟨nofun, nofun⟩
  exact inMemory session one.inMemory

/-- A load, whatever comes of it, neither mixes the rows nor brings other keys into memory. -/
theorem load_onePqcKeySet (lawful : P.Lawful) (now : Rat) (draws : LoadDraws) :
    (load P platform password now draws).Maintains
      (OnePqcKeySet K P password made : Session Priv Pub Pem → Prop) := by
  refine Call.maintains_bind (Call.maintains_mapError _ (loadKeys_onePqcKeySet lawful now)) fun _ =>
    Call.maintains_ite (Call.maintains_bind (loadRatchetStorageKey_onePqcKeySet draws) fun key => ?_)
      (onePqcKeySet_of_keeps (Call.keeps_pure _))
  cases key with
  | none => exact onePqcKeySet_of_keeps (Call.keeps_pure _)
  | some key =>
      exact onePqcKeySet_of_keeps (Call.keeps_bind (seesOnly_pqcView.assign_keeps fun _ => rfl)
        fun _ => Call.keeps_pure _)

end Loading

section Steps

variable {Priv Pub Pem : Type} {K : KemLibrary} {P : Primitives Priv Pub Pem}
variable {platform : Platform} {password : Bytes} {made : Option PqcBundle}
variable {session after : Session Priv Pub Pem}

theorem ensurePqcKeys_idle {keys : PqcBundle} {draws : Draws}
    (kept : HoldsPqcKeys session.store ∨ platform.pqcAvailable = false) :
    ((ensurePqcKeys P platform password keys draws).run session).2 = session := by
  rw [ensurePqcKeys, Call.run_read_bind, Call.run_ite]
  by_cases holds : HoldsPqcKeys session.store
  · have both : (session.store.myKyberPriv.isSome && session.store.myPqcCombinedPub.isSome) = true :=
      Bool.and_eq_true_iff.mpr holds
    rw [if_pos both]
    rfl
  · have missing : ¬ (session.store.myKyberPriv.isSome && session.store.myPqcCombinedPub.isSome) =
        true := fun both => holds (Bool.and_eq_true_iff.mp both)
    have unavailable : platform.pqcAvailable = false := kept.resolve_left holds
    simp only [if_neg missing, unavailable]
    rfl

/-- Where `ensure_pqc_keys_full` may be called it gives back the set that is there, or makes the
first one. -/
theorem ensurePqcKeysFull_onePqcKeySet (lawful : P.Lawful) {keys : PqcBundle} {draws : Draws}
    (generated : Generated K keys) (one : OnePqcKeySet K P password made session)
    (kept : KeepsPqcKeys platform session (.ensurePqcKeysFull password keys draws))
    {result : Except Raised (Option PqcBundle)}
    (ran : (ensurePqcKeysFull P platform password keys draws).run session = (result, after)) :
    ∃ extended, OnePqcKeySet K P password extended after ∧ (∀ old ∈ made, extended = some old) ∧
      ∀ bundle, result = .ok (some bundle) → extended = some bundle := by
  rw [ensurePqcKeysFull, Call.run_ite] at ran
  cases available : platform.pqcAvailable with
  | false =>
      rw [available] at ran
      cases ran
      exact ⟨made, one, fun old member => member, by simp⟩
  | true =>
      rw [available, Bool.not_true, if_neg Bool.false_ne_true, Call.run_read_bind] at ran
      by_cases holds : HoldsPqcKeys session.store
      · obtain ⟨present, rfl, _, _⟩ := one.exists_of_holds holds
        rw [one.storedPqcBundle lawful holds, Call.run_lift_ok_bind] at ran
        cases ran
        refine ⟨some present, one, fun old member => member, ?_⟩
        intro bundle returned
        exact Except.ok.inj returned
      · have absent : session.db.texts .pqcCombinedPubB64 = none := by
          rcases kept with holding | unavailable | absent
          · exact absurd holding holds
          · rw [available] at unavailable
            cases unavailable
          · exact absent
        have none_made : made = none := by
          obtain ⟨_, _, _, _, pub⟩ := one.stored
          rw [absent] at pub
          exact Option.map_eq_none_iff.mp pub.symm
        have found : storedPqcBundle P password session = .ok none := by
          unfold storedPqcBundle
          split
          · rename_i kyberPriv combinedPub kyber pub
            exact absurd ⟨by rw [kyber]; rfl, by rw [pub]; rfl⟩ holds
          · rfl
        rw [found, Call.run_lift_ok_bind] at ran
        cases ran
        refine ⟨some keys, ⟨?_, ?_, ?_, ?_⟩, ?_, ?_⟩
        · rintro _ ⟨⟩
          exact generated
        · exact ⟨draws.secret .kyberPrivEncrypted, draws.secret .pqcX25519PrivEncrypted, rfl, rfl, rfl⟩
        · rintro _ ⟨⟩
          rfl
        · rintro _ ⟨⟩
          rfl
        · rw [none_made]
          simp
        · intro bundle returned
          exact Except.ok.inj returned

theorem loadPqcBundle_onePqcKeySet (lawful : P.Lawful)
    (one : OnePqcKeySet K P password made session) :
    ∃ after, (loadPqcBundle P password).run session = (.ok made, after) ∧
      OnePqcKeySet K P password made after := by
  rw [loadPqcBundle, Call.run_read_bind, readPqcBundle_stored lawful one.generated one.stored,
    Call.run_lift_ok_bind]
  cases made with
  | none => exact ⟨session, rfl, one⟩
  | some keys =>
      refine ⟨_, rfl, one.generated, one.stored, ?_, ?_⟩
      · rintro _ ⟨⟩
        rfl
      · rintro _ ⟨⟩
        rfl

/-- One call, whether it returns or raises: the set stays, or the first one is made. -/
theorem perform_onePqcKeySet (lawful : P.Lawful) {operation : Operation Priv}
    (asked : operation.OnPqcKeys K password) (one : OnePqcKeySet K P password made session)
    (kept : KeepsPqcKeys platform session operation) :
    ∃ extended, OnePqcKeySet K P password extended (operation.perform P platform session) ∧
      ∀ old ∈ made, extended = some old := by
  have stays {after : Session Priv Pub Pem} (same : OnePqcKeySet K P password made after) :
      ∃ extended, OnePqcKeySet K P password extended after ∧ ∀ old ∈ made, extended = some old :=
    ⟨made, same, fun _ member => member⟩
  cases operation with
  | restart => exact stays ⟨one.generated, one.stored, nofun, nofun⟩
  | wipe => exact stays ⟨one.generated, one.stored, nofun, nofun⟩
  | load used now draws =>
      obtain rfl : used = password := asked
      exact stays (load_onePqcKeySet lawful now draws session one)
  | loadPqcBundle used =>
      obtain rfl : used = password := asked
      obtain ⟨after, ran, same⟩ := loadPqcBundle_onePqcKeySet lawful one
      refine stays ?_
      rw [Operation.perform, ran]
      exact same
  | ensurePqcKeys used keys draws =>
      refine stays ?_
      rw [Operation.perform, ensurePqcKeys_idle kept]
      exact one
  | ensurePqcKeysFull used keys draws =>
      obtain ⟨rfl, generated⟩ := asked
      obtain ⟨extended, same, extends_made, _⟩ :=
        ensurePqcKeysFull_onePqcKeySet lawful generated one kept rfl
      exact ⟨extended, same, extends_made⟩
  | _ => cases asked

/-- After a load the bundle is the stored set. -/
theorem cachedPqcBundle_of_load (lawful : P.Lawful) (sound : Sound P session.db)
    {keys : PqcBundle} (stored : StoredPqcKeys P password (some keys) session.db)
    {now : Rat} {draws : LoadDraws}
    (loaded : (load P platform password now draws).run session = (.ok true, after)) :
    after.store.cachedPqcBundle = some keys := by
  obtain ⟨readings, ratchetKey, reads, _, rfl⟩ := (load_true_iff lawful sound).mp loaded
  obtain ⟨_, _, kyber, x25519, pub⟩ := stored
  have kyberRead := reads.kyber
  have x25519Read := reads.x25519
  simp only [kyber, x25519, Option.map_some, unwrapColumn, unwrap_wrap lawful, if_true,
    Except.map, Except.ok.injEq] at kyberRead x25519Read
  have pubRead : readPqcCombinedPub session.db readings.kyber = some keys.combinedPub := by
    rw [← kyberRead]
    show (session.db.texts .pqcCombinedPubB64).bind _ = _
    rw [pub]
    simp only [Option.map_some, Option.bind_some, decodeBase64_b64encode, Except.toOption]
  obtain ⟨_, _, _, _, _, _, bundle, _⟩ :=
    readings.attributes P platform session.db session.store
  refine bundle.trans ?_
  rw [pubRead, ← kyberRead, ← x25519Read]
  rfl

end Steps

section Whole

variable {Priv Pub Pem : Type} {K : KemLibrary} {P : Primitives Priv Pub Pem}
variable {platform : Platform} {password : Bytes}
variable {session after : Session Priv Pub Pem}

theorem Operation.OnPqcKeys.generates {operation : Operation Priv}
    (asked : operation.OnPqcKeys K password) : operation.Generates := by
  cases operation with
  | ensurePqcKeys used keys draws => exact asked.2.wellFormed
  | ensurePqcKeysFull used keys draws => exact asked.2.wellFormed
  | restart | wipe | load used now draws | loadPqcBundle used => trivial
  | _ => cases asked

theorem reachable_onePqcKeySet (lawful : P.Lawful)
    (reachable : (pqcMachine K P platform password).Reachable (KeepsPqcKeys platform) session) :
    Sound P session.db ∧ ∃ made, OnePqcKeySet K P password made session := by
  refine Machine.Reachable.invariant (pqcMachine K P platform password)
    (fun session => Sound P session.db ∧ ∃ made, OnePqcKeySet K P password made session)
    (fun _ initial => initial) ?_ reachable
  rintro session operation - ⟨sound, made, one⟩ asked kept
  obtain ⟨extended, same, _⟩ := perform_onePqcKeySet lawful asked one kept
  exact ⟨perform_sound sound asked.generates, extended, same⟩

theorem follows_onePqcKeySet (lawful : P.Lawful) {made : Option PqcBundle}
    (one : OnePqcKeySet K P password made session)
    (later : (pqcMachine K P platform password).Follows (KeepsPqcKeys platform) session after) :
    ∃ extended, OnePqcKeySet K P password extended after ∧ ∀ old ∈ made, extended = some old := by
  refine Machine.Follows.relation
    (fun after => ∃ extended, OnePqcKeySet K P password extended after ∧
      ∀ old ∈ made, extended = some old) ⟨made, one, fun _ member => member⟩ ?_ later
  rintro middle operation - ⟨extended, same, extends_made⟩ asked kept
  obtain ⟨last, still, extends_middle⟩ := perform_onePqcKeySet lawful asked same kept
  exact ⟨last, still, fun old member => extends_middle old (extends_made old member)⟩

/-- While no call makes a second set of keys, or half of one, the stored keys come from one result
of `generate_keys`, its public key stays, and a load opens what was encapsulated to it. -/
theorem pqc_keys_consistent (lawful : P.Lawful) (kemLawful : K.Lawful)
    (reachable : (pqcMachine K P platform password).Reachable (KeepsPqcKeys platform) session) :
    PqcKeysConsistent K P platform password (KeepsPqcKeys platform) session := by
  obtain ⟨sound, made, one⟩ := reachable_onePqcKeySet lawful reachable
  constructor
  case oneOrigin => exact ⟨made, one.generated, one.stored⟩
  case held => exact fun combinedPub member => one.stored.published.mpr (one.inMemory.2 _ member)
  case ensured =>
    intro keys draws bundle after generated kept ran
    obtain ⟨extended, same, _, returned⟩ :=
      ensurePqcKeysFull_onePqcKeySet lawful generated one kept ran
    obtain rfl := returned bundle rfl
    exact same.stored.published.mpr rfl
  case loaded =>
    intro bundle after ran
    obtain ⟨last, loads, same⟩ := loadPqcBundle_onePqcKeySet lawful one
    rw [loads] at ran
    cases ran
    exact same.stored.published.mpr rfl
  case stays =>
    intro after later combinedPub published
    obtain ⟨extended, same, extends_made⟩ := follows_onePqcKeySet lawful one later
    obtain ⟨keys, rfl, pub⟩ := Option.map_eq_some_iff.mp (one.stored.published.mp published)
    rw [same.stored.published, extends_made keys rfl]
    exact congrArg some pub
  case decapsulates =>
    intro now draws after combinedPub published loaded
    obtain ⟨keys, rfl, rfl⟩ := Option.map_eq_some_iff.mp (one.stored.published.mp published)
    refine ⟨keys, cachedPqcBundle_of_load lawful sound one.stored loaded, ?_⟩
    intro xPriv draw ciphertext secret encapsulated
    rw [(one.generated keys rfl).combinedPub] at encapsulated
    exact HybridKem.decapsulate_encapsulate kemLawful encapsulated

end Whole

section Toy

/-- A result of `generate_keys` of the toy libraries. -/
def toyGenerated (byte : UInt8) : PqcBundle where
  x25519Priv := List.replicate 32 byte
  kyberPriv := [byte]
  combinedPub := HybridSigner.combine (toyKem.x25519Public (List.replicate 32 byte))
    (toyKem.kyberPublic [byte])

theorem toyGenerated_generated (byte : UInt8) : Generated toyKem (toyGenerated byte) where
  x25519Priv_length := List.length_replicate
  kyberPriv_nonempty := List.cons_ne_nil _ _
  combinedPub := rfl

abbrev ToyPqc : Machine ToySession (Operation String) := pqcMachine toyKem toyLibraries toyPlatform [1]

theorem toyStarted_onePqcKeySet : ToyPqc.start toyStarted :=
  ⟨start_sound toyStarted_start, none, nofun, ⟨toyEntropy 0 0, toyEntropy 0 0, rfl, rfl, rfl⟩,
    nofun, nofun⟩

/-- The keys of the exchange dialog, a lock and a login. -/
def toyExchanged : ToySession :=
  ToyPqc.run toyStarted [fun _ => .ensurePqcKeysFull [1] (toyGenerated 15) toyDraws,
    fun _ => .wipe, fun _ => .load [1] 0 toyLoadDraws]

theorem toyExchanged_consistent :
    PqcKeysConsistent toyKem toyLibraries toyPlatform [1] (KeepsPqcKeys toyPlatform) toyExchanged :=
  pqc_keys_consistent toyLibraries_lawful toyKem_lawful <|
    .run (.start toyStarted_onePqcKeySet) ⟨⟨rfl, toyGenerated_generated 15⟩, .inr (.inr rfl),
      trivial, trivial, rfl, trivial, trivial⟩

/-- `ensure_pqc_keys` stores no X25519 key, so that `ensure_pqc_keys_full` replaces the public
key. -/
theorem pqc_keys_replaced : ¬ ∀ session, ToyPqc.Reachable (fun _ _ => True) session →
    PqcKeysConsistent toyKem toyLibraries toyPlatform [1] (fun _ _ => True) session := by
  intro claimed
  have reachable : ToyPqc.Reachable (fun _ _ => True)
      (ToyPqc.run toyStarted [fun _ => .ensurePqcKeys [1] (toyGenerated 15) toyDraws]) :=
    .run (.start toyStarted_onePqcKeySet) ⟨⟨rfl, toyGenerated_generated 15⟩, trivial, trivial⟩
  have later : ToyPqc.Follows (fun _ _ => True)
      (ToyPqc.run toyStarted [fun _ => .ensurePqcKeys [1] (toyGenerated 15) toyDraws])
      (ToyPqc.run (ToyPqc.run toyStarted [fun _ => .ensurePqcKeys [1] (toyGenerated 15) toyDraws])
        [fun _ => .ensurePqcKeysFull [1] (toyGenerated 16) toyDraws]) :=
    .run (.refl _) ⟨⟨rfl, toyGenerated_generated 16⟩, trivial, trivial⟩
  have stays := (claimed _ reachable).stays _ later (toyGenerated 15).combinedPub rfl
  have replaced : b64encode (toyGenerated 16).combinedPub = b64encode (toyGenerated 15).combinedPub :=
    Option.some.inj stays
  have decoded := congrArg decodeBase64 replaced
  rw [decodeBase64_b64encode, decodeBase64_b64encode] at decoded
  exact absurd (Except.ok.inj decoded) (by decide)

end Toy

end KeyStore

end UltimateEnigma
