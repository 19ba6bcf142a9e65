import UltimateEnigma.KeyStoreRuns

set_option autoImplicit false

namespace UltimateEnigma

open Py

namespace KeyStore

section Readings

variable {Priv Pub Pem : Type} (P : Primitives Priv Pub Pem) (platform : Platform)

/-- A column of wrapped secrets read without catching anything. -/
def unwrapColumn (column : Option Wrapper) (password : Bytes) : Except Raised (Option Bytes) :=
  match column with
  | none => .ok none
  | some wrapper => (unwrap P wrapper password).map some

def readLegacyKey (db : Database Pem) (password : Bytes) (now : Rat) :
    Except Raised (Option Priv) :=
  match db.keys .legacyPrivateKeyEncrypted with
  | none => .ok none
  | some pem =>
      if now < db.legacyKeyExpiry.getD 0 then attempt (P.pemToPrivkey pem password) else .ok none

/-- The legacy rows that a load leaves. -/
def keepUnexpired (db : Database Pem) (now : Rat) : Database Pem :=
  match db.keys .legacyPrivateKeyEncrypted with
  | none => db
  | some _ => if now < db.legacyKeyExpiry.getD 0 then db else db.deleteLegacyKey

/-- The combined public key counts only next to a Kyber key. -/
def readPqcCombinedPub (db : Database Pem) (kyber : Option Bytes) : Option Bytes :=
  match kyber with
  | none => none
  | some _ => (db.texts .pqcCombinedPubB64).bind fun text => (decodeBase64 text).toOption

/-- Both signing keys or none. -/
def readHybridKeys (db : Database Pem) (password : Bytes) :
    Except Raised (Option (Bytes × Bytes)) :=
  match db.secrets .ed25519PrivEncrypted, db.secrets .dilithiumPrivEncrypted with
  | some edWrapper, some dilWrapper => do
      if platform.hybridSigAvailable then
        let edPriv ← unwrap P edWrapper password
        let dilPriv ← unwrap P dilWrapper password
        return some (edPriv, dilPriv)
      else return none
  | _, _ => .ok none

def readHybridPub (db : Database Pem) : Option Bytes :=
  if platform.hybridSigAvailable then
    (db.texts .hybridSigCombinedPubB64).bind fun text => (decodeBase64 text).toOption
  else none

/-- What one row of the friends table gives when it is read. -/
structure LoadedFriend (Pub : Type) where
  pub : Pub
  secret : Option Bytes
  ecdhPriv : Option Bytes
  pqcCombinedPub : Option Bytes
  hybridSigPubs : Option (Bytes × Bytes)

def readFriend (password : Bytes) (row : FriendRow) : Except Raised (LoadedFriend Pub) := do
  let pub ← P.pemToPubkey row.publicKeyPem
  let secret ← attemptColumn row.sharedSecret (unwrap P · password)
  let ecdhPriv ← attemptColumn row.ecdhPrivEncrypted (unwrap P · password)
  let pqcCombinedPub ← attemptColumn (nonempty row.pqcCombinedPubB64) decodeBase64
  let hybridSigPubs ← attemptColumn (row.hybridSigPub platform)
    (fun text => decodeBase64 text >>= parseCombinedPub)
  return { pub, secret, ecdhPriv, pqcCombinedPub, hybridSigPubs }

def readFriends (password : Bytes) : List (String × FriendRow) →
    Except Raised (List ((String × FriendRow) × LoadedFriend Pub))
  | [] => .ok []
  | item :: rest => do
      let loaded ← readFriend P platform password item.2
      let others ← readFriends password rest
      return (item, loaded) :: others

def addFriend (item : String × FriendRow) (loaded : LoadedFriend Pub)
    (store : KeyStore Priv Pub) : KeyStore Priv Pub :=
  { store with
    friends := store.friends ++ [(item.1, loaded.pub, loaded.secret)]
    friendsX25519 := setIfSome store.friendsX25519 item.1 (nonempty item.2.x25519PublicKeyB64)
    friendsEcdhPriv := setIfSome store.friendsEcdhPriv item.1 loaded.ecdhPriv
    friendsCapabilities := store.friendsCapabilities.set item.1 (item.2.capabilitiesJson.getD [])
    friendsPqcCombinedPub := setIfSome store.friendsPqcCombinedPub item.1 loaded.pqcCombinedPub
    friendsHybridSigPubs := setIfSome store.friendsHybridSigPubs item.1 loaded.hybridSigPubs }

def addFriends (friends : List ((String × FriendRow) × LoadedFriend Pub))
    (store : KeyStore Priv Pub) : KeyStore Priv Pub :=
  friends.foldl (fun store friend => addFriend friend.1 friend.2 store) store

/-- What loading the keys of a sound database finds, column by column. -/
structure Readings (Priv Pub : Type) where
  pub : Pub
  priv : Priv
  legacy : Option Priv
  globalSecret : Option Bytes
  kyber : Option Bytes
  x25519 : Option Bytes
  hybrid : Option (Bytes × Bytes)
  friends : List ((String × FriendRow) × LoadedFriend Pub)

structure Reads (db : Database Pem) (password : Bytes) (now : Rat)
    (readings : Readings Priv Pub) : Prop where
  pub : ∃ pem, db.texts .publicKey = some pem ∧ P.pemToPubkey pem = .ok readings.pub
  priv : ∃ pem, db.keys .privateKeyEncrypted = some pem ∧
    P.pemToPrivkey pem password = .ok readings.priv
  legacy : readLegacyKey P db password now = .ok readings.legacy
  globalSecret : unwrapColumn P (db.secrets .globalSecret) password = .ok readings.globalSecret
  kyber : unwrapColumn P (db.secrets .kyberPrivEncrypted) password = .ok readings.kyber
  x25519 : unwrapColumn P (db.secrets .pqcX25519PrivEncrypted) password = .ok readings.x25519
  hybrid : readHybridKeys P platform db password = .ok readings.hybrid
  friends : readFriends P platform password db.friends.items = .ok readings.friends

/-- The stored key, or a drawn one where none is stored. -/
def readRatchetKey (db : Database Pem) (password : Bytes) (draws : LoadDraws) :
    Except Raised Bytes :=
  (unwrapColumn P (db.secrets .ratchetStorageKey) password).map
    fun stored => stored.getD draws.ratchetKey

section Attributes

variable (store : KeyStore Priv Pub)

def withPub (pub : Pub) : KeyStore Priv Pub :=
  { store with myPub := some pub, needsRotation := decide (P.keySize pub < minRsaKeySize) }

def withPriv (priv : Priv) : KeyStore Priv Pub := { store with myPriv := some priv }

def withLegacy (legacy : Option Priv) : KeyStore Priv Pub := { store with legacyPriv := legacy }

def withGlobalSecret (plain : Option Bytes) : KeyStore Priv Pub :=
  { store with globalSecret := plain }

def withKyber (kyber : Option Bytes) : KeyStore Priv Pub :=
  { store with myKyberPriv := kyber, myPqcCombinedPub := none }

def withPqcPub (pub : Option Bytes) : KeyStore Priv Pub := { store with myPqcCombinedPub := pub }

def withBundle (x25519 : Option Bytes) : KeyStore Priv Pub :=
  { store with cachedPqcBundle := x25519.map (bundleOf store) }

def withHybrid (hybrid : Option (Bytes × Bytes)) (pub : Option Bytes) : KeyStore Priv Pub :=
  { store with
    myEdPriv := hybrid.map Prod.fst
    myDilPriv := hybrid.map Prod.snd
    myHybridSigCombinedPub := pub }

def withRatchetKey (key : Bytes) : KeyStore Priv Pub :=
  { store with ratchetStorageKey := some key }

end Attributes

/-- The store that loading the keys leaves. -/
def Readings.store (db : Database Pem) (readings : Readings Priv Pub)
    (before : KeyStore Priv Pub) : KeyStore Priv Pub :=
  let rsa := withLegacy (withPriv (withPub P before readings.pub) readings.priv) readings.legacy
  let kyber := withKyber (withGlobalSecret rsa readings.globalSecret) readings.kyber
  let pqc := withBundle (withPqcPub kyber (readPqcCombinedPub db readings.kyber)) readings.x25519
  addFriends readings.friends
    (withoutFriends (withHybrid pqc readings.hybrid (readHybridPub platform db)))

/-- The database that a load leaves. -/
def loadedRows (db : Database Pem) (password : Bytes) (now : Rat) (draws : LoadDraws) :
    Database Pem :=
  let kept := keepUnexpired db now
  match db.secrets .ratchetStorageKey with
  | some _ => kept
  | none => (kept.setSecret .ratchetStorageKey
      (wrap P draws.ratchetKey password draws.ratchetKeyEntropy)).deleteText .ratchetHkdfSalt

end Readings

section Loaders

variable {Priv Pub Pem : Type} {P : Primitives Priv Pub Pem} {platform : Platform}
variable {session after : Session Priv Pub Pem} {password : Bytes}

theorem loadPublicKey_ok_iff :
    (loadPublicKey P).run session = (.ok (), after) ↔
      ∃ pub, (∃ pem, session.db.texts .publicKey = some pem ∧ P.pemToPubkey pem = .ok pub) ∧
        after = ⟨withPub P session.store pub, session.db⟩ := by
  simp only [loadPublicKey, withPub, Call.run_bind_ok_iff, Call.run_read_ok_iff, Call.run_require_ok_iff,
    Call.run_lift_ok_iff, run_assign_ok_iff]
  grind

theorem loadPrivateKey_true_iff :
    (loadPrivateKey P password).run session = (.ok true, after) ↔
      ∃ priv, (∃ pem, session.db.keys .privateKeyEncrypted = some pem ∧
          P.pemToPrivkey pem password = .ok priv) ∧
        after = ⟨withPriv session.store priv, session.db⟩ := by
  simp only [loadPrivateKey, Call.run_bind_ok_iff, Call.run_read_ok_iff, Call.run_require_ok_iff,
    Call.run_lift_ok_iff]
  constructor
  · rintro ⟨_, _, ⟨rfl, rfl⟩, pem, _, ⟨stored, rfl⟩, opened, _, ⟨opened_ok, rfl⟩, set⟩
    cases opened with
    | none => cases set
    | some priv =>
        cases set
        exact ⟨priv, ⟨pem, stored, attempt_eq_some_iff.mp opened_ok⟩, rfl⟩
  · rintro ⟨priv, ⟨pem, stored, opened⟩, rfl⟩
    exact ⟨_, _, ⟨rfl, rfl⟩, pem, _, ⟨stored, rfl⟩, some priv, _,
      ⟨attempt_eq_some_iff.mpr opened, rfl⟩, rfl⟩

theorem loadLegacyKey_ok_iff {now : Rat} :
    (loadLegacyKey P password now).run session = (.ok (), after) ↔
      ∃ legacy, readLegacyKey P session.db password now = .ok legacy ∧
        after = ⟨withLegacy session.store legacy, keepUnexpired session.db now⟩ := by
  simp only [loadLegacyKey, withLegacy, run_assign_bind, Call.run_read_bind, readLegacyKey, keepUnexpired]
  cases session.db.keys .legacyPrivateKeyEncrypted with
  | none => simp only [Call.run_pure_ok_iff, true_and, Except.ok.injEq, exists_eq_left']
  | some pem =>
      simp only [Call.run_ite]
      split
      · simp only [Call.run_bind_ok_iff, Call.run_lift_ok_iff]
        constructor
        · rintro ⟨legacy, _, ⟨read, rfl⟩, set⟩
          cases legacy with
          | none => exact ⟨none, read, (Call.run_pure_ok_iff.mp set).2⟩
          | some priv => exact ⟨some priv, read, run_assign_ok_iff.mp set⟩
        · rintro ⟨legacy, read, rfl⟩
          refine ⟨legacy, _, ⟨read, rfl⟩, ?_⟩
          cases legacy <;> rfl
      · simp only [run_commit_ok_iff, Except.ok.injEq, exists_eq_left']

/-- Of what `encrypt_secret` made, a wrong password raises what no `except` here catches. -/
theorem attempt_unwrap (lawful : P.Lawful) {wrapper : Wrapper}
    (wrapped : ∃ plain password entropy, wrapper = wrap P plain password entropy)
    (password : Bytes) :
    attempt (unwrap P wrapper password) = (unwrap P wrapper password).map some := by
  obtain ⟨plain, own, entropy, rfl⟩ := wrapped
  rw [unwrap_wrap lawful]
  split
  · rfl
  · rfl

theorem attemptColumn_unwrap (lawful : P.Lawful) {column : Option Wrapper}
    (wrapped : ∀ wrapper ∈ column, ∃ plain password entropy,
      wrapper = wrap P plain password entropy) (password : Bytes) :
    attemptColumn column (unwrap P · password) = unwrapColumn P column password := by
  cases column with
  | none => rfl
  | some wrapper => exact attempt_unwrap lawful (wrapped wrapper rfl) password

theorem unwrapColumn_some_iff {column : Option Wrapper} {plain : Bytes} :
    unwrapColumn P column password = .ok (some plain) ↔
      ∃ wrapper, column = some wrapper ∧ unwrap P wrapper password = .ok plain := by
  cases column with
  | none => simp only [unwrapColumn, Except.ok.injEq, reduceCtorEq, false_and, exists_false]
  | some wrapper =>
      cases opened : unwrap P wrapper password with
      | error raised => simp [unwrapColumn, opened, Except.map]
      | ok found => simp [unwrapColumn, opened, Except.map]

theorem unwrapColumn_ok_iff {column : Option Wrapper} {value : Option Bytes} :
    unwrapColumn P column password = .ok value ↔
      (column = none ∧ value = none) ∨
      ∃ wrapper plain, column = some wrapper ∧ unwrap P wrapper password = .ok plain ∧
        value = some plain := by
  cases column with
  | none => simp [unwrapColumn, eq_comm]
  | some wrapper =>
      cases opened : unwrap P wrapper password with
      | error raised => simp [unwrapColumn, opened, Except.map]
      | ok found => simp [unwrapColumn, opened, Except.map, eq_comm]

theorem attempt_decodeBase64 (text : String) :
    attempt (decodeBase64 text) = .ok (decodeBase64 text).toOption := by
  unfold decodeBase64
  split <;> rfl

theorem Sound.wrapped {db : Database Pem} (sound : Sound P db) (key : SecretSetting) :
    ∀ wrapper ∈ db.secrets key, ∃ plain password entropy,
      wrapper = wrap P plain password entropy := by
  intro wrapper stored
  obtain ⟨plain, password, entropy, -, made⟩ := sound.secrets key wrapper stored
  exact ⟨plain, password, entropy, made⟩

/-- What a sound row opens to is of the form its generator gives. -/
theorem Sound.fits (lawful : P.Lawful) {db : Database Pem} (sound : Sound P db)
    {key : SecretSetting} {wrapper : Wrapper} {plain : Bytes}
    (stored : db.secrets key = some wrapper) (opened : unwrap P wrapper password = .ok plain) :
    key.Fits plain := by
  obtain ⟨own, made, entropy, fits, rfl⟩ := sound.secrets key wrapper stored
  rw [unwrap_wrap lawful] at opened
  split at opened
  · cases opened
    exact fits
  · cases opened

theorem loadGlobalSecret_true_iff :
    (loadGlobalSecret P password).run session = (.ok true, after) ↔
      ∃ plain, unwrapColumn P (session.db.secrets .globalSecret) password = .ok plain ∧
        after = ⟨withGlobalSecret session.store plain, session.db⟩ := by
  simp only [loadGlobalSecret, withGlobalSecret, Call.run_read_bind]
  cases session.db.secrets .globalSecret with
  | none =>
      simp only [run_assign_bind, Call.run_pure_ok_iff, true_and, unwrapColumn, Except.ok.injEq,
        exists_eq_left']
  | some wrapper =>
      cases wrapper with
      | malformed =>
          constructor
          · intro impossible
            cases impossible
          · rintro ⟨plain, opened, -⟩
            cases opened
      | json enc =>
          have same : unwrap P (.json enc) password = decryptSecret P enc password := rfl
          simp only [jsonLoads, Call.run_lift_ok_bind, unwrapColumn, same]
          cases decryptSecret P enc password with
          | ok plain =>
              rw [attempt, Call.run_lift_ok_bind]
              simp only [run_assign_bind, Call.run_pure_ok_iff, true_and, Except.map,
                Except.ok.injEq, exists_eq_left']
          | error raised =>
              refine ⟨?_, ?_⟩
              · rw [attempt]
                split <;> intro ran <;> cases ran
              · rintro ⟨plain, opened, -⟩
                cases opened

section Sound

variable (lawful : P.Lawful) (sound : Sound P session.db)
include lawful sound

theorem loadKyberKey_ok_iff :
    (loadKyberKey P password).run session = (.ok (), after) ↔
      ∃ kyber, unwrapColumn P (session.db.secrets .kyberPrivEncrypted) password = .ok kyber ∧
        after = ⟨withKyber session.store kyber, session.db⟩ := by
  simp only [loadKyberKey, withKyber, run_assign_bind, Call.run_read_bind]
  cases stored : session.db.secrets .kyberPrivEncrypted with
  | none =>
      simp only [Call.run_pure_ok_iff, true_and, unwrapColumn, Except.ok.injEq, exists_eq_left']
  | some wrapper =>
      have uncaught := attempt_unwrap lawful (sound.wrapped _ wrapper stored) password
      simp only [uncaught, Call.run_bind_ok_iff, Call.run_lift_ok_iff, unwrapColumn]
      constructor
      · rintro ⟨found, _, ⟨opened, rfl⟩, set⟩
        refine ⟨found, opened, ?_⟩
        cases found with
        | none => exact (Call.run_pure_ok_iff.mp set).2
        | some found => exact run_assign_ok_iff.mp set
      · rintro ⟨found, opened, rfl⟩
        refine ⟨found, _, ⟨opened, rfl⟩, ?_⟩
        cases found <;> rfl

theorem loadPqcCombinedPub_ok_iff {kyber : Option Bytes}
    (read : unwrapColumn P (session.db.secrets .kyberPrivEncrypted) password = .ok kyber)
    (held : session.store.myKyberPriv = kyber) (cleared : session.store.myPqcCombinedPub = none) :
    loadPqcCombinedPub.run session = (.ok (), after) ↔
      after = ⟨withPqcPub session.store (readPqcCombinedPub session.db kyber), session.db⟩ := by
  have same : ({ session.store with myPqcCombinedPub := none } : KeyStore Priv Pub) =
      session.store := by rw [← cleared]
  simp only [loadPqcCombinedPub, withPqcPub, Call.run_read_bind]
  rcases unwrapColumn_ok_iff.mp read with ⟨absent, rfl⟩ | ⟨wrapper, plain, stored, opened, rfl⟩
  · have idle : truthy session.store.myKyberPriv = false := by rw [held]; rfl
    simp only [idle, Bool.false_eq_true, if_false, readPqcCombinedPub, same]
    split <;> simp only [Call.run_pure_ok_iff, true_and]
  · have fits : plain ≠ [] := sound.fits lawful stored opened
    have held_nonempty : truthy session.store.myKyberPriv = true := by
      rw [held, truthy, Bool.not_eq_true', List.isEmpty_eq_false_iff]
      exact fits
    simp only [held_nonempty, if_true, attempt_decodeBase64, readPqcCombinedPub]
    cases session.db.texts .pqcCombinedPubB64 with
    | none => simp only [Call.run_pure_ok_iff, true_and, Option.bind_none, same]
    | some text =>
        simp only [Call.run_lift_ok_bind, Option.bind_some]
        cases (decodeBase64 text).toOption with
        | none => simp only [Call.run_pure_ok_iff, true_and, same]
        | some pub => simp only [run_assign_ok_iff]

theorem cachePqcBundle_ok_iff {kyber : Option Bytes}
    (read : unwrapColumn P (session.db.secrets .kyberPrivEncrypted) password = .ok kyber)
    (held : session.store.myKyberPriv = kyber)
    (pub : session.store.myPqcCombinedPub = readPqcCombinedPub session.db kyber) :
    (cachePqcBundle P password).run session = (.ok (), after) ↔
      ∃ x25519, unwrapColumn P (session.db.secrets .pqcX25519PrivEncrypted) password =
          .ok x25519 ∧
        after = ⟨withBundle session.store x25519, session.db⟩ := by
  simp only [cachePqcBundle, withBundle, run_assign_bind, Call.run_read_bind]
  rcases unwrapColumn_ok_iff.mp read with ⟨absent, rfl⟩ | ⟨wrapper, plain, stored, opened, rfl⟩
  · have idle : truthy session.store.myKyberPriv = false := by rw [held]; rfl
    have alone : session.db.secrets .pqcX25519PrivEncrypted = none := by
      cases present : session.db.secrets .pqcX25519PrivEncrypted with
      | none => rfl
      | some x25519 =>
          have kyber := sound.x25519WithKyber (by rw [present]; rfl)
          rw [absent] at kyber
          cases kyber
    simp only [idle, Bool.false_and, Bool.false_eq_true, if_false, alone, unwrapColumn,
      Call.run_pure_ok_iff, true_and, Except.ok.injEq, exists_eq_left', Option.map_none]
  · have fits : plain ≠ [] := sound.fits lawful stored opened
    obtain ⟨combinedPub, nonempty, text⟩ := sound.kyberWithPub (by rw [stored]; rfl)
    have both : (truthy session.store.myKyberPriv && truthy session.store.myPqcCombinedPub) =
        true := by
      rw [held, pub, readPqcCombinedPub, text]
      simp only [Option.bind_some, decodeBase64_b64encode, Except.toOption, truthy,
        Bool.and_eq_true, Bool.not_eq_true', List.isEmpty_eq_false_iff]
      exact ⟨fits, nonempty⟩
    simp only [both, if_true]
    cases x25519 : session.db.secrets .pqcX25519PrivEncrypted with
    | none =>
        simp only [Call.run_pure_ok_iff, true_and, unwrapColumn, Except.ok.injEq,
          exists_eq_left', Option.map_none]
    | some wrapper =>
        have opening : attempt (unwrap P wrapper password >>= fromPrivateBytes) =
            (unwrap P wrapper password).map some := by
          cases outcome : unwrap P wrapper password with
          | error raised =>
              have uncaught := attempt_unwrap lawful (sound.wrapped _ wrapper x25519) password
              rw [outcome] at uncaught
              exact uncaught
          | ok priv =>
              have length : priv.length = 32 := sound.fits lawful x25519 outcome
              have made : (Except.ok priv >>= fromPrivateBytes) = .ok priv := if_pos length
              rw [made]
              rfl
        simp only [opening, Call.run_bind_ok_iff, Call.run_lift_ok_iff, unwrapColumn]
        constructor
        · rintro ⟨found, _, ⟨opened, rfl⟩, set⟩
          refine ⟨found, opened, ?_⟩
          cases found with
          | none => exact (Call.run_pure_ok_iff.mp set).2
          | some found => exact run_assign_ok_iff.mp set
        · rintro ⟨found, opened, rfl⟩
          refine ⟨found, _, ⟨opened, rfl⟩, ?_⟩
          cases found <;> rfl

omit lawful sound in
theorem withoutHybridPrivs {store : KeyStore Priv Pub} (noEd : store.myEdPriv = none)
    (noDil : store.myDilPriv = none) :
    ({ store with myEdPriv := none, myDilPriv := none } : KeyStore Priv Pub) = store := by
  cases store
  simp only at noEd noDil
  subst noEd noDil
  rfl

theorem loadHybridPrivateKeys_ok_iff (available : platform.hybridSigAvailable = true)
    (noEd : session.store.myEdPriv = none) (noDil : session.store.myDilPriv = none) :
    (loadHybridPrivateKeys P password).run session = (.ok (), after) ↔
      ∃ hybrid, readHybridKeys P platform session.db password = .ok hybrid ∧
        after = { session with store := { session.store with
          myEdPriv := hybrid.map Prod.fst
          myDilPriv := hybrid.map Prod.snd } } := by
  have same := withoutHybridPrivs noEd noDil
  simp only [loadHybridPrivateKeys, Call.run_read_bind, readHybridKeys]
  cases edStored : session.db.secrets .ed25519PrivEncrypted with
  | none =>
      simp only [Call.run_pure_ok_iff, true_and, Except.ok.injEq, exists_eq_left',
        Option.map_none, same]
  | some edWrapper =>
      cases dilStored : session.db.secrets .dilithiumPrivEncrypted with
      | none =>
          simp only [Call.run_pure_ok_iff, true_and, Except.ok.injEq, exists_eq_left',
            Option.map_none, same]
      | some dilWrapper =>
          have dilUncaught := attempt_unwrap lawful (sound.wrapped _ dilWrapper dilStored) password
          simp only [available, if_true]
          cases edOpened : unwrap P edWrapper password with
          | error raised =>
              have uncaught := attempt_unwrap lawful (sound.wrapped _ edWrapper edStored) password
              rw [edOpened] at uncaught
              have passes : attempt ((.error raised : Except Raised Bytes) >>= fromPrivateBytes) =
                  .error raised := uncaught
              rw [passes]
              constructor
              · intro impossible
                cases impossible
              · rintro ⟨_, impossible, -⟩
                cases impossible
          | ok edPriv =>
              have length : edPriv.length = 32 := sound.fits lawful edStored edOpened
              have made : attempt ((.ok edPriv : Except Raised Bytes) >>= fromPrivateBytes) =
                  .ok (some edPriv) := attempt_eq_some_iff.mpr (if_pos length)
              simp only [made, Call.run_lift_ok_bind, run_assign_bind, dilUncaught]
              cases dilOpened : unwrap P dilWrapper password with
              | error raised =>
                  constructor
                  · intro impossible
                    cases impossible
                  · rintro ⟨_, impossible, -⟩
                    cases impossible
              | ok dilPriv =>
                  constructor
                  · intro set
                    simp only [Except.map, Call.run_lift_ok_bind, run_assign_ok_iff] at set
                    exact ⟨some (edPriv, dilPriv), rfl, set⟩
                  · rintro ⟨hybrid, read, rfl⟩
                    cases read
                    rfl

omit lawful sound in
theorem loadHybridCombinedPub_run (available : platform.hybridSigAvailable = true)
    (cleared : session.store.myHybridSigCombinedPub = none) :
    loadHybridCombinedPub.run session = (.ok (), { session with store :=
      { session.store with
        myHybridSigCombinedPub := readHybridPub platform session.db } }) := by
  have same : ({ session.store with myHybridSigCombinedPub := none } : KeyStore Priv Pub) =
      session.store := by rw [← cleared]
  simp only [loadHybridCombinedPub, Call.run_read_bind, readHybridPub, available, if_true]
  cases session.db.texts .hybridSigCombinedPubB64 with
  | none => simp only [Call.run_pure, Option.bind_none, same]
  | some text =>
      simp only [attempt_decodeBase64, Call.run_lift_ok_bind, Option.bind_some]
      cases (decodeBase64 text).toOption with
      | none => simp only [Call.run_pure, same]
      | some pub => rfl

theorem loadHybridSigning_ok_iff :
    (loadHybridSigning P platform password).run session = (.ok (), after) ↔
      ∃ hybrid, readHybridKeys P platform session.db password = .ok hybrid ∧
        after = ⟨withHybrid session.store hybrid (readHybridPub platform session.db),
          session.db⟩ := by
  simp only [loadHybridSigning, withHybrid, run_assign_bind, Call.run_ite]
  split
  · rename_i available
    rw [Call.run_bind_ok_iff]
    constructor
    · rintro ⟨_, middle, keys, pub⟩
      obtain ⟨hybrid, read, rfl⟩ := (loadHybridPrivateKeys_ok_iff lawful (by exact sound) available
        (by rfl) (by rfl)).mp keys
      rw [loadHybridCombinedPub_run available rfl] at pub
      cases pub
      exact ⟨hybrid, read, rfl⟩
    · rintro ⟨hybrid, read, rfl⟩
      exact ⟨(), _, (loadHybridPrivateKeys_ok_iff lawful (by exact sound) available (by rfl)
        (by rfl)).mpr ⟨hybrid, read, rfl⟩, loadHybridCombinedPub_run available rfl⟩
  · rename_i unavailable
    have read : readHybridKeys P platform session.db password = .ok none := by
      unfold readHybridKeys
      split
      · exact if_neg unavailable
      · rfl
    have pub : readHybridPub platform session.db = none := if_neg unavailable
    simp only [Call.run_pure_ok_iff, true_and, read, Except.ok.injEq, exists_eq_left',
      Option.map_none, pub]

omit lawful sound in
theorem loadFriend_ok_iff {name : String} {row : FriendRow} {result : Unit} :
    (loadFriend P platform password name row).run session = (.ok result, after) ↔
      ∃ loaded, readFriend P platform password row = .ok loaded ∧
        after = ⟨addFriend (name, row) loaded session.store, session.db⟩ := by
  simp only [loadFriend, Call.run_bind_ok_iff, Call.run_lift_ok_iff, run_assign_ok_iff]
  constructor
  · rintro ⟨pub, _, ⟨pub_ok, rfl⟩, secret, _, ⟨secret_ok, rfl⟩, _, _, rfl, ecdhPriv, _,
      ⟨ecdh_ok, rfl⟩, _, _, rfl, pqcPub, _, ⟨pqc_ok, rfl⟩, _, _, rfl, hybridPubs, _,
      ⟨hybrid_ok, rfl⟩, rfl⟩
    refine ⟨⟨pub, secret, ecdhPriv, pqcPub, hybridPubs⟩, ?_, rfl⟩
    simp only [readFriend, pub_ok, secret_ok, ecdh_ok, pqc_ok, hybrid_ok]
    rfl
  · rintro ⟨loaded, read, rfl⟩
    obtain ⟨pub, pub_ok, read⟩ := ok_of_bind read
    obtain ⟨secret, secret_ok, read⟩ := ok_of_bind read
    obtain ⟨ecdhPriv, ecdh_ok, read⟩ := ok_of_bind read
    obtain ⟨pqcPub, pqc_ok, read⟩ := ok_of_bind read
    obtain ⟨hybridPubs, hybrid_ok, read⟩ := ok_of_bind read
    cases read
    exact ⟨pub, _, ⟨pub_ok, rfl⟩, secret, _, ⟨secret_ok, rfl⟩, (), _, rfl, ecdhPriv, _,
      ⟨ecdh_ok, rfl⟩, (), _, rfl, pqcPub, _, ⟨pqc_ok, rfl⟩, (), _, rfl, hybridPubs, _,
      ⟨hybrid_ok, rfl⟩, rfl⟩

omit lawful sound in
theorem loadFriendRows_ok_iff {rows : List (String × FriendRow)} {result : Unit} :
    (loadFriendRows P platform password rows).run session = (.ok result, after) ↔
      ∃ friends, readFriends P platform password rows = .ok friends ∧
        after = ⟨addFriends friends session.store, session.db⟩ := by
  induction rows generalizing session with
  | nil =>
      simp only [loadFriendRows, Call.run_pure_ok_iff, true_and, readFriends, Except.ok.injEq,
        exists_eq_left', addFriends, List.foldl_nil]
  | cons item rest ih =>
      simp only [loadFriendRows, Call.run_bind_ok_iff, loadFriend_ok_iff, ih]
      constructor
      · rintro ⟨_, _, ⟨loaded, read, rfl⟩, friends, reads, rfl⟩
        refine ⟨(item, loaded) :: friends, ?_, rfl⟩
        simp only [readFriends, read, reads]
        rfl
      · rintro ⟨friends, reads, rfl⟩
        obtain ⟨loaded, read, reads⟩ := ok_of_bind reads
        obtain ⟨others, others_ok, reads⟩ := ok_of_bind reads
        cases reads
        exact ⟨(), _, ⟨loaded, read, rfl⟩, others, others_ok, rfl⟩

omit lawful sound in
theorem loadFriends_ok_iff :
    (loadFriends P platform password).run session = (.ok (), after) ↔
      ∃ friends, readFriends P platform password session.db.friends.items = .ok friends ∧
        after = ⟨addFriends friends (withoutFriends session.store), session.db⟩ := by
  simp only [loadFriends, Call.run_read_bind, run_assign_bind, loadFriendRows_ok_iff]

theorem loadRatchetStorageKey_some_iff {draws : LoadDraws} {key : Bytes} :
    (loadRatchetStorageKey P password draws).run session = (.ok (some key), after) ↔
      readRatchetKey P session.db password draws = .ok key ∧
        after = { session with db :=
          match session.db.secrets .ratchetStorageKey with
          | some _ => session.db
          | none => (session.db.setSecret .ratchetStorageKey
              (wrap P draws.ratchetKey password draws.ratchetKeyEntropy)).deleteText
                .ratchetHkdfSalt } := by
  simp only [loadRatchetStorageKey, Call.run_read_bind, readRatchetKey]
  cases stored : session.db.secrets .ratchetStorageKey with
  | none =>
      have made : attempt (newRatchetStorageKey P password draws session.db) = .ok (some _) :=
        attempt_eq_some_iff.mpr (newRatchetStorageKey_unsalted sound.noLegacySalt password draws)
      simp only [made, Call.run_lift_ok_bind, run_commit_bind, Call.run_pure_ok_iff, unwrapColumn,
        Except.map, Option.getD_none, Except.ok.injEq, Option.some.injEq]
      constructor
      · rintro ⟨rfl, rfl⟩
        exact ⟨rfl, rfl⟩
      · rintro ⟨rfl, rfl⟩
        exact ⟨rfl, rfl⟩
  | some wrapper =>
      have uncaught := attempt_unwrap lawful (sound.wrapped _ wrapper stored) password
      simp only [uncaught, unwrapColumn]
      cases unwrap P wrapper password with
      | error raised =>
          constructor
          · intro impossible
            cases impossible
          · rintro ⟨impossible, -⟩
            cases impossible
      | ok plain =>
          simp only [Except.map, Call.run_lift_ok_bind, Call.run_pure_ok_iff, Option.getD_some,
            Except.ok.injEq, Option.some.injEq]
          constructor
          · rintro ⟨rfl, rfl⟩
            exact ⟨rfl, rfl⟩
          · rintro ⟨rfl, rfl⟩
            exact ⟨rfl, rfl⟩

omit lawful sound in
@[simp] theorem keepUnexpired_secrets (db : Database Pem) (now : Rat) :
    (keepUnexpired db now).secrets = db.secrets := by
  unfold keepUnexpired
  split
  · rfl
  · split <;> rfl

omit lawful sound in
@[simp] theorem keepUnexpired_texts (db : Database Pem) (now : Rat) :
    (keepUnexpired db now).texts = db.texts := by
  unfold keepUnexpired
  split
  · rfl
  · split <;> rfl

omit lawful sound in
@[simp] theorem keepUnexpired_friends (db : Database Pem) (now : Rat) :
    (keepUnexpired db now).friends = db.friends := by
  unfold keepUnexpired
  split
  · rfl
  · split <;> rfl

omit lawful sound in
theorem keepUnexpired_sound {db : Database Pem} (sound : Sound P db) (now : Rat) :
    Sound P (keepUnexpired db now) := by
  unfold keepUnexpired
  split
  · exact sound
  · split
    · exact sound
    · exact sound.deleteLegacyKey

theorem loadKeys_true_iff {now : Rat} :
    (loadKeys P platform password now).run session = (.ok true, after) ↔
      ∃ readings, Reads P platform session.db password now readings ∧
        after = ⟨readings.store P platform session.db session.store,
          keepUnexpired session.db now⟩ := by
  have kept : Sound P (keepUnexpired session.db now) := keepUnexpired_sound sound now
  have friendsKept := keepUnexpired_friends session.db now
  constructor
  · intro loaded
    obtain ⟨_, _, first, loaded⟩ := Call.ok_of_run_bind loaded
    obtain ⟨pub, pub_read, rfl⟩ := loadPublicKey_ok_iff.mp first
    obtain ⟨opened, _, second, loaded⟩ := Call.ok_of_run_bind loaded
    cases opened with
    | false => cases loaded
    | true =>
      obtain ⟨priv, priv_read, rfl⟩ := loadPrivateKey_true_iff.mp second
      obtain ⟨_, _, third, loaded⟩ := Call.ok_of_run_bind loaded
      obtain ⟨legacy, legacy_read, rfl⟩ := loadLegacyKey_ok_iff.mp third
      obtain ⟨opened, _, fourth, loaded⟩ := Call.ok_of_run_bind loaded
      cases opened with
      | false => cases loaded
      | true =>
        obtain ⟨globalSecret, secret_read, rfl⟩ :=
          loadGlobalSecret_true_iff.mp fourth
        obtain ⟨_, _, fifth, loaded⟩ := Call.ok_of_run_bind loaded
        obtain ⟨kyber, kyber_read, rfl⟩ := (loadKyberKey_ok_iff lawful (by exact kept)).mp fifth
        obtain ⟨_, _, sixth, loaded⟩ := Call.ok_of_run_bind loaded
        obtain rfl := (loadPqcCombinedPub_ok_iff lawful (by exact kept) (by exact kyber_read)
          (by rfl) (by rfl)).mp sixth
        obtain ⟨_, _, seventh, loaded⟩ := Call.ok_of_run_bind loaded
        obtain ⟨x25519, x25519_read, rfl⟩ := (cachePqcBundle_ok_iff lawful (by exact kept)
          (by exact kyber_read) (by rfl) (by rfl)).mp seventh
        obtain ⟨_, _, eighth, loaded⟩ := Call.ok_of_run_bind loaded
        obtain ⟨hybrid, hybrid_read, rfl⟩ :=
          (loadHybridSigning_ok_iff lawful (by exact kept)).mp eighth
        obtain ⟨_, _, ninth, loaded⟩ := Call.ok_of_run_bind loaded
        obtain ⟨friends, friends_read, rfl⟩ := loadFriends_ok_iff.mp ninth
        cases loaded
        refine ⟨⟨pub, priv, legacy, globalSecret, kyber, x25519, hybrid, friends⟩,
          ⟨pub_read, priv_read, legacy_read, ?_, ?_, ?_, ?_, ?_⟩, ?_⟩
        · simpa only [keepUnexpired_secrets] using secret_read
        · simpa only [keepUnexpired_secrets] using kyber_read
        · simpa only [keepUnexpired_secrets] using x25519_read
        · simpa only [readHybridKeys, keepUnexpired_secrets] using hybrid_read
        · simpa only [keepUnexpired_friends] using friends_read
        · simp only [Readings.store, readPqcCombinedPub, readHybridPub, keepUnexpired_texts]
  · rintro ⟨readings, reads, rfl⟩
    have secret_read := reads.globalSecret
    have kyber_read := reads.kyber
    have x25519_read := reads.x25519
    have hybrid_read : readHybridKeys P platform (keepUnexpired session.db now) password =
        .ok readings.hybrid := by
      simpa only [readHybridKeys, keepUnexpired_secrets] using reads.hybrid
    have friends_read := reads.friends
    rw [← keepUnexpired_secrets session.db now] at secret_read kyber_read x25519_read
    rw [← keepUnexpired_friends session.db now] at friends_read
    refine Call.run_bind_ok_iff.mpr
      ⟨(), _, loadPublicKey_ok_iff.mpr ⟨readings.pub, reads.pub, rfl⟩, ?_⟩
    refine Call.run_bind_ok_iff.mpr
      ⟨true, _, loadPrivateKey_true_iff.mpr ⟨readings.priv, reads.priv, rfl⟩, ?_⟩
    refine Call.run_bind_ok_iff.mpr
      ⟨(), _, loadLegacyKey_ok_iff.mpr ⟨readings.legacy, reads.legacy, rfl⟩, ?_⟩
    refine Call.run_bind_ok_iff.mpr ⟨true, _, loadGlobalSecret_true_iff.mpr
      ⟨readings.globalSecret, secret_read, rfl⟩, ?_⟩
    refine Call.run_bind_ok_iff.mpr ⟨(), _, (loadKyberKey_ok_iff lawful kept).mpr
      ⟨readings.kyber, kyber_read, rfl⟩, ?_⟩
    refine Call.run_bind_ok_iff.mpr ⟨(), _, (loadPqcCombinedPub_ok_iff lawful kept kyber_read
      rfl rfl).mpr rfl, ?_⟩
    refine Call.run_bind_ok_iff.mpr ⟨(), _, (cachePqcBundle_ok_iff lawful kept kyber_read
      rfl rfl).mpr ⟨readings.x25519, x25519_read, rfl⟩, ?_⟩
    refine Call.run_bind_ok_iff.mpr ⟨(), _, (loadHybridSigning_ok_iff lawful kept).mpr
      ⟨readings.hybrid, hybrid_read, rfl⟩, ?_⟩
    refine Call.run_bind_ok_iff.mpr ⟨(), _, loadFriends_ok_iff.mpr
      ⟨readings.friends, friends_read, rfl⟩, ?_⟩
    simp only [Call.run_pure, Readings.store, readPqcCombinedPub, readHybridPub,
      keepUnexpired_texts]
    rfl

/-- `load` returns `True` exactly when every column reads, and then holds what was read. -/
theorem load_true_iff {now : Rat} {draws : LoadDraws} :
    (load P platform password now draws).run session = (.ok true, after) ↔
      ∃ readings ratchetKey, Reads P platform session.db password now readings ∧
        readRatchetKey P session.db password draws = .ok ratchetKey ∧
        after = ⟨withRatchetKey (readings.store P platform session.db session.store) ratchetKey,
          loadedRows P session.db password now draws⟩ := by
  have kept : Sound P (keepUnexpired session.db now) := keepUnexpired_sound sound now
  have secretsKept := keepUnexpired_secrets session.db now
  constructor
  · intro loaded
    obtain ⟨went, _, keys_ok, loaded⟩ := Call.ok_of_run_bind loaded
    rw [Call.run_mapError_ok_iff] at keys_ok
    cases went with
    | false => cases loaded
    | true =>
      obtain ⟨readings, reads, rfl⟩ := (loadKeys_true_iff lawful sound).mp keys_ok
      obtain ⟨key, _, ratchet, loaded⟩ := Call.ok_of_run_bind loaded
      cases key with
      | none => cases loaded
      | some key =>
        obtain ⟨key_read, rfl⟩ := (loadRatchetStorageKey_some_iff lawful (by exact kept)).mp ratchet
        cases loaded
        refine ⟨readings, key, reads, ?_, ?_⟩
        · simpa only [readRatchetKey, secretsKept] using key_read
        · simp only [withRatchetKey, loadedRows, secretsKept]
  · rintro ⟨readings, key, reads, key_read, rfl⟩
    refine Call.run_bind_ok_iff.mpr ⟨true, _, (Call.run_mapError_ok_iff _ _ _ _ _).mpr
      ((loadKeys_true_iff lawful sound).mpr ⟨readings, reads, rfl⟩), ?_⟩
    refine Call.run_bind_ok_iff.mpr ⟨some key, _, (loadRatchetStorageKey_some_iff lawful kept).mpr
      ⟨?_, rfl⟩, ?_⟩
    · simpa only [readRatchetKey, secretsKept] using key_read
    · simp only [run_assign_bind, Call.run_pure, withRatchetKey, loadedRows, secretsKept]

end Sound

theorem loadedRows_friends (db : Database Pem) (password : Bytes) (now : Rat) (draws : LoadDraws) :
    (loadedRows P db password now draws).friends = db.friends := by
  unfold loadedRows
  dsimp only
  split <;> exact keepUnexpired_friends db now

/-- Of the wrapped secrets a load writes the ratchet storage key only. -/
theorem loadedRows_secrets (db : Database Pem) (password : Bytes) (now : Rat) (draws : LoadDraws)
    {key : SecretSetting} (apart : key ≠ .ratchetStorageKey) :
    (loadedRows P db password now draws).secrets key = db.secrets key := by
  unfold loadedRows
  dsimp only
  split
  · rw [keepUnexpired_secrets]
  · have updated : Function.update (keepUnexpired db now).secrets .ratchetStorageKey
        (some (wrap P draws.ratchetKey password draws.ratchetKeyEntropy)) key =
          (keepUnexpired db now).secrets key := Function.update_of_ne apart _ _
    exact updated.trans (congrFun (keepUnexpired_secrets db now) _)

/-- Of the texts a load deletes the legacy salt only. -/
theorem loadedRows_texts (db : Database Pem) (password : Bytes) (now : Rat) (draws : LoadDraws)
    {key : TextSetting} (apart : key ≠ .ratchetHkdfSalt) :
    (loadedRows P db password now draws).texts key = db.texts key := by
  unfold loadedRows
  dsimp only
  split
  · rw [keepUnexpired_texts]
  · have updated : Function.update (keepUnexpired db now).texts .ratchetHkdfSalt none key =
        (keepUnexpired db now).texts key := Function.update_of_ne apart _ _
    exact updated.trans (congrFun (keepUnexpired_texts db now) _)

/-- A row reads when its keys parse and its wrappers open. -/
theorem readFriend_ok_iff (lawful : P.Lawful) {row : FriendRow}
    (wrapped : row.Wrapped P) {loaded : LoadedFriend Pub} :
    readFriend P platform password row = .ok loaded ↔
      P.pemToPubkey row.publicKeyPem = .ok loaded.pub ∧
      unwrapColumn P row.sharedSecret password = .ok loaded.secret ∧
      unwrapColumn P row.ecdhPrivEncrypted password = .ok loaded.ecdhPriv ∧
      attemptColumn (nonempty row.pqcCombinedPubB64) decodeBase64 = .ok loaded.pqcCombinedPub ∧
      attemptColumn (row.hybridSigPub platform)
        (fun text => decodeBase64 text >>= parseCombinedPub) = .ok loaded.hybridSigPubs := by
  have shared : ∀ wrapper ∈ row.sharedSecret, ∃ plain password entropy,
      wrapper = wrap P plain password entropy := by
    intro wrapper stored
    rw [FriendRow.sharedSecret] at stored
    split at stored
    · exact wrapped.1 wrapper stored
    · cases stored
  rw [← attemptColumn_unwrap lawful shared, ← attemptColumn_unwrap lawful wrapped.2]
  constructor
  · intro read
    obtain ⟨pub, pub_ok, read⟩ := ok_of_bind read
    obtain ⟨secret, secret_ok, read⟩ := ok_of_bind read
    obtain ⟨ecdhPriv, ecdh_ok, read⟩ := ok_of_bind read
    obtain ⟨pqcPub, pqc_ok, read⟩ := ok_of_bind read
    obtain ⟨hybridPubs, hybrid_ok, read⟩ := ok_of_bind read
    cases read
    exact ⟨pub_ok, secret_ok, ecdh_ok, pqc_ok, hybrid_ok⟩
  · rintro ⟨pub_ok, secret_ok, ecdh_ok, pqc_ok, hybrid_ok⟩
    simp only [readFriend, pub_ok, secret_ok, ecdh_ok, pqc_ok, hybrid_ok]
    rfl

theorem attemptColumn_decodeBase64 (column : Option String) :
    ∃ value, attemptColumn column decodeBase64 = .ok value := by
  cases column with
  | none => exact ⟨none, rfl⟩
  | some text => exact ⟨_, attempt_decodeBase64 text⟩

/-- Reading the friends goes through exactly when each row reads. -/
theorem readFriends_ok_iff {items : List (String × FriendRow)} :
    (∃ friends, readFriends P platform password items = .ok friends) ↔
      ∀ item ∈ items, ∃ loaded, readFriend P platform password item.2 = .ok loaded := by
  induction items with
  | nil =>
      exact ⟨fun _ _ absent => absurd absent List.not_mem_nil, fun _ => ⟨[], rfl⟩⟩
  | cons item rest ih =>
      simp only [List.forall_mem_cons, ← ih]
      constructor
      · rintro ⟨friends, reads⟩
        obtain ⟨loaded, read, reads⟩ := ok_of_bind reads
        obtain ⟨others, others_ok, -⟩ := ok_of_bind reads
        exact ⟨⟨loaded, read⟩, others, others_ok⟩
      · rintro ⟨⟨loaded, read⟩, others, others_ok⟩
        exact ⟨(item, loaded) :: others, by rw [readFriends, read, others_ok]; rfl⟩

/-- Adding friends leaves the other attributes alone. -/
theorem addFriends_keeps {τ : Type} (view : KeyStore Priv Pub → τ)
    (same : ∀ item loaded store, view (addFriend item loaded store) = view store)
    (friends : List ((String × FriendRow) × LoadedFriend Pub)) (store : KeyStore Priv Pub) :
    view (addFriends friends store) = view store := by
  induction friends generalizing store with
  | nil => rfl
  | cons friend rest ih => exact (ih _).trans (same _ _ _)

/-- What was read of the friend of a name. -/
def friendNamed (name : String) (friends : List ((String × FriendRow) × LoadedFriend Pub)) :
    Option ((String × FriendRow) × LoadedFriend Pub) :=
  friends.find? fun friend => name == friend.1.1

theorem friendNamed_cons (name : String) (friend : (String × FriendRow) × LoadedFriend Pub)
    (rest : List ((String × FriendRow) × LoadedFriend Pub)) :
    friendNamed name (friend :: rest) =
      if name = friend.1.1 then some friend else friendNamed name rest := by
  rw [friendNamed, List.find?_cons]
  by_cases same : name = friend.1.1
  · rw [beq_iff_eq.mpr same, if_pos same]
  · rw [beq_eq_false_iff_ne.mpr same, if_neg same, friendNamed]

/-- The list of friends is searched from its front, and each friend read goes to its end. -/
theorem addFriends_lookup (friends : List ((String × FriendRow) × LoadedFriend Pub))
    (store : KeyStore Priv Pub) (name : String) :
    (addFriends friends store).friends.lookup name =
      (store.friends.lookup name).or
        ((friendNamed name friends).map fun friend => (friend.2.pub, friend.2.secret)) := by
  induction friends generalizing store with
  | nil => exact Option.or_none.symm
  | cons friend rest ih =>
      have appended : (addFriend friend.1 friend.2 store).friends.lookup name =
          (store.friends.lookup name).or
            (if name = friend.1.1 then some (friend.2.pub, friend.2.secret) else none) := by
        simp only [addFriend, List.lookup_append, List.lookup_cons, List.lookup_nil]
        by_cases same : name = friend.1.1
        · rw [beq_iff_eq.mpr same, if_pos same]
        · rw [beq_eq_false_iff_ne.mpr same, if_neg same]
      refine (ih _).trans ?_
      rw [appended, friendNamed_cons]
      by_cases same : name = friend.1.1
      · simp only [same, if_true, Option.or_assoc, Option.some_or, Option.map_some]
      · simp only [same, if_false, Option.or_none]

/-- A dictionary of the store takes one column of each friend read. -/
theorem addFriends_get? {ν : Type} (view : KeyStore Priv Pub → Dict String ν)
    (column : FriendRow → LoadedFriend Pub → Option ν)
    (adds : ∀ item loaded store, view (addFriend item loaded store) =
      setIfSome (view store) item.1 (column item.2 loaded))
    {friends : List ((String × FriendRow) × LoadedFriend Pub)}
    (unique : (friends.map fun friend => friend.1.1).Nodup) (store : KeyStore Priv Pub)
    (name : String) :
    (view (addFriends friends store)).get? name =
      ((friendNamed name friends).bind fun friend => column friend.1.2 friend.2).or
        ((view store).get? name) := by
  induction friends generalizing store with
  | nil => rfl
  | cons friend rest ih =>
      simp only [List.map_cons, List.nodup_cons] at unique
      refine (ih unique.2 _).trans ?_
      rw [adds, friendNamed_cons]
      by_cases same : name = friend.1.1
      · have later : friendNamed name rest = none := by
          refine List.find?_eq_none.mpr fun other member found => unique.1 ?_
          rw [← same, beq_iff_eq.mp found]
          exact List.mem_map_of_mem member
        rw [later, if_pos same, same]
        simp only [Option.bind_none, Option.none_or, Option.bind_some]
        cases column friend.1.2 friend.2 with
        | none => rfl
        | some value => exact Dict.get?_set_self _ _ _
      · rw [if_neg same]
        cases column friend.1.2 friend.2 with
        | none => rfl
        | some value => rw [setIfSome, Dict.get?_set_of_ne _ _ same]

variable (P platform) in
/-- What the store holds of each reading; adding the friends leaves these attributes alone. -/
theorem Readings.attributes (db : Database Pem) (readings : Readings Priv Pub)
    (before : KeyStore Priv Pub) :
    let store := readings.store P platform db before
    store.myPub = some readings.pub ∧ store.myPriv = some readings.priv ∧
      store.legacyPriv = readings.legacy ∧ store.globalSecret = readings.globalSecret ∧
      store.myKyberPriv = readings.kyber ∧
      store.myPqcCombinedPub = readPqcCombinedPub db readings.kyber ∧
      store.cachedPqcBundle = readings.x25519.map (fun x25519Priv =>
        { x25519Priv, kyberPriv := readings.kyber.getD []
          combinedPub := (readPqcCombinedPub db readings.kyber).getD [] }) ∧
      store.myEdPriv = readings.hybrid.map Prod.fst ∧
      store.myDilPriv = readings.hybrid.map Prod.snd ∧
      store.myHybridSigCombinedPub = readHybridPub platform db := by
  have kept : ∀ {τ : Type} (view : KeyStore Priv Pub → τ),
      (∀ item loaded store, view (addFriend item loaded store) = view store) →
      ∀ store, view (addFriends readings.friends store) = view store :=
    fun view same store => addFriends_keeps view same readings.friends store
  exact ⟨kept myPub (fun _ _ _ => rfl) _, kept myPriv (fun _ _ _ => rfl) _,
    kept legacyPriv (fun _ _ _ => rfl) _, kept KeyStore.globalSecret (fun _ _ _ => rfl) _,
    kept myKyberPriv (fun _ _ _ => rfl) _, kept myPqcCombinedPub (fun _ _ _ => rfl) _,
    kept cachedPqcBundle (fun _ _ _ => rfl) _, kept myEdPriv (fun _ _ _ => rfl) _,
    kept myDilPriv (fun _ _ _ => rfl) _, kept myHybridSigCombinedPub (fun _ _ _ => rfl) _⟩

variable (P platform) in
theorem Readings.lookup_store (db : Database Pem) (readings : Readings Priv Pub)
    (before : KeyStore Priv Pub) (name : String) :
    (readings.store P platform db before).friends.lookup name =
      (friendNamed name readings.friends).map fun friend => (friend.2.pub, friend.2.secret) :=
  addFriends_lookup readings.friends _ name

variable (P platform) in
theorem Readings.get?_store {ν : Type} (view : KeyStore Priv Pub → Dict String ν)
    (column : FriendRow → LoadedFriend Pub → Option ν)
    (adds : ∀ item loaded store, view (addFriend item loaded store) =
      setIfSome (view store) item.1 (column item.2 loaded))
    (clears : ∀ store, view (withoutFriends store) = .empty)
    (db : Database Pem) {readings : Readings Priv Pub}
    (unique : (readings.friends.map fun friend => friend.1.1).Nodup) (before : KeyStore Priv Pub)
    (name : String) :
    (view (readings.store P platform db before)).get? name =
      (friendNamed name readings.friends).bind fun friend => column friend.1.2 friend.2 := by
  refine (addFriends_get? view column adds unique _ name).trans ?_
  rw [clears, Dict.get?_empty, Option.or_none]

/-- The friends read are those of the table, each with what its row gave. -/
theorem readFriends_named {items : List (String × FriendRow)}
    {friends : List ((String × FriendRow) × LoadedFriend Pub)}
    (reads : readFriends P platform password items = .ok friends) (name : String) :
    (items.lookup name = none → friendNamed name friends = none) ∧
    ∀ row, items.lookup name = some row → ∃ loaded,
      readFriend P platform password row = .ok loaded ∧
        friendNamed name friends = some ((name, row), loaded) := by
  induction items generalizing friends with
  | nil =>
      cases reads
      exact ⟨fun _ => rfl, fun _ found => nomatch found⟩
  | cons item rest ih =>
      obtain ⟨loaded, read, reads⟩ := ok_of_bind reads
      obtain ⟨others, others_ok, reads⟩ := ok_of_bind reads
      cases reads
      rw [List.lookup_cons, friendNamed_cons]
      by_cases same : name = item.1
      · rw [beq_iff_eq.mpr same, if_pos same]
        refine ⟨nofun, fun row found => ?_⟩
        cases found
        exact ⟨loaded, read, by rw [same]⟩
      · rw [beq_eq_false_iff_ne.mpr same, if_neg same]
        exact ih others_ok

theorem readFriends_names {items : List (String × FriendRow)}
    {friends : List ((String × FriendRow) × LoadedFriend Pub)}
    (reads : readFriends P platform password items = .ok friends) :
    friends.map (fun friend => friend.1.1) = items.map Prod.fst := by
  induction items generalizing friends with
  | nil =>
      cases reads
      rfl
  | cons item rest ih =>
      obtain ⟨loaded, -, reads⟩ := ok_of_bind reads
      obtain ⟨others, others_ok, reads⟩ := ok_of_bind reads
      cases reads
      rw [List.map_cons, List.map_cons, ih others_ok]

end Loaders

end KeyStore

end UltimateEnigma
