import UltimateEnigma.PasswordChange
import UltimateEnigma.Py.Faults

set_option autoImplicit false

namespace UltimateEnigma.KeyStore

open Py

/-- What the libraries raise by their documentation: `InvalidTag` where the authentication fails,
else a `ValueError` or a `TypeError`. -/
structure Primitives.Documented {Priv Pub Pem : Type} (P : Primitives Priv Pub Pem) : Prop where
  aesDecrypt {key nonce ct : Bytes} {raised : Raised}
    (failed : P.aesDecrypt key nonce ct = .error raised) :
    raised = .invalidTag ∨ raised.isValueOrType = true
  pemToPubkey {pem : String} {raised : Raised} (failed : P.pemToPubkey pem = .error raised) :
    raised.isValueOrType = true
  pemToPrivkey {pem : Pem} {password : Bytes} {raised : Raised}
    (failed : P.pemToPrivkey pem password = .error raised) : raised.isValueOrType = true

/-- What is raised nowhere but in `decrypt_secret`, and caught by no `except` clause here. -/
def Raised.IsLoud : Raised → Prop
  | .invalidTag | .keyError _ | .attributeError | .hashingError => True
  | _ => False

/-- A wrapper whose salt is not Base64. -/
def damaged : Wrapper :=
  .json (.dict ⟨some (.text "argon2id"), some (.text "AAAAAAAAAA"), some (.text "AAAAAAAAAA"),
    some (.text "AAAAAAAAAA")⟩)

section Wrappers

variable {Priv Pub Pem : Type} (P : Primitives Priv Pub Pem) (password : Bytes)

/-- The wrapper cannot be unwrapped. -/
def Closed (wrapper : Wrapper) : Prop := ∀ plain, unwrap P wrapper password ≠ .ok plain

/-- If the wrapper cannot be unwrapped, it fails in a way that the `except` clauses name. -/
def Quiet (wrapper : Wrapper) : Prop :=
  ∀ raised, unwrap P wrapper password = .error raised → raised.isValueOrType = true

/-- A wrapper that cannot be unwrapped counts as one with a bad salt. -/
def settled (wrapper : Wrapper) : Wrapper :=
  match unwrap P wrapper password with
  | .ok _ => wrapper
  | .error _ => damaged

variable {P password}

theorem unwrap_damaged : unwrap P damaged password = .error .valueError := by
  have salt : decodeBase64 "AAAAAAAAAA" = .error .valueError := by decide +kernel
  rw [unwrap, damaged, jsonLoads, ok_bind, decryptSecret, entry, salt]
  rfl

theorem unwrap_settled (wrapper : Wrapper) :
    unwrap P (settled P password wrapper) password =
      match unwrap P wrapper password with
      | .ok plain => .ok plain
      | .error _ => .error .valueError := by
  unfold settled
  cases opened : unwrap P wrapper password with
  | ok plain => exact opened
  | error raised => exact unwrap_damaged

theorem json_of_ne_malformed {wrapper : Wrapper} (parses : wrapper ≠ .malformed) :
    ∃ enc, wrapper = .json enc := by
  cases wrapper with
  | json enc => exact ⟨enc, rfl⟩
  | malformed => exact absurd rfl parses

theorem settled_json (enc : EncValue) :
    ∃ parsed, settled P password (.json enc) = .json parsed := by
  unfold settled
  cases unwrap P (.json enc) password with
  | ok plain => exact ⟨enc, rfl⟩
  | error raised => exact ⟨_, rfl⟩

/-- What is read inside a `try`, where the failures are quiet. -/
theorem attempt_settled {α : Type} {wrapper : Wrapper} (quiet : Quiet P password wrapper)
    (reading : Bytes → Except Raised α) :
    attempt (unwrap P (settled P password wrapper) password >>= reading) =
      attempt (unwrap P wrapper password >>= reading) := by
  rw [unwrap_settled]
  cases opened : unwrap P wrapper password with
  | ok plain => rfl
  | error raised =>
      show attempt (.error .valueError) = attempt (.error raised)
      rw [attempt, attempt, quiet raised opened]
      rfl

theorem loud_of_entry {key : String} {item : Option JsonItem} {raised : Raised}
    (failed : entry key item = .error raised) (uncaught : raised.isValueOrType = false) :
    raised.IsLoud := by
  match item with
  | none =>
      cases failed
      trivial
  | some .other =>
      cases failed
      cases uncaught
  | some (.text text) =>
      rw [entry, decodeBase64] at failed
      split at failed
      · cases failed
      · cases failed
        cases uncaught

theorem loud_of_derivation {kdf : Option JsonItem} {salt : Bytes} {raised : Raised}
    (failed : deriveKey P kdf password salt = .error raised) : raised.IsLoud := by
  rw [deriveKey] at failed
  split at failed
  · rw [deriveKeyArgon2id] at failed
    split at failed
    · cases failed
      trivial
    · cases failed
  · cases failed

/-- What `decrypt_secret` raises, it raises of its own or passes on from the libraries. -/
theorem loud_of_decryptSecret (documented : P.Documented) {enc : EncValue} {raised : Raised}
    (failed : decryptSecret P enc password = .error raised)
    (uncaught : raised.isValueOrType = false) : raised.IsLoud := by
  cases enc with
  | other =>
      cases failed
      trivial
  | dict enc =>
      rw [decryptSecret] at failed
      obtain failed | ⟨salt, _, failed⟩ := error_of_bind failed
      · exact loud_of_entry failed uncaught
      · obtain failed | ⟨nonce, _, failed⟩ := error_of_bind failed
        · exact loud_of_entry failed uncaught
        · obtain failed | ⟨ct, _, failed⟩ := error_of_bind failed
          · exact loud_of_entry failed uncaught
          · obtain failed | ⟨key, _, failed⟩ := error_of_bind failed
            · exact loud_of_derivation failed
            · obtain rfl | caught := documented.aesDecrypt failed
              · trivial
              · rw [caught] at uncaught
                cases uncaught

theorem loud_of_not_quiet (documented : P.Documented) {wrapper : Wrapper} {raised : Raised}
    (failed : unwrap P wrapper password = .error raised)
    (uncaught : raised.isValueOrType = false) : raised.IsLoud := by
  obtain failed | ⟨enc, _, failed⟩ := error_of_bind failed
  · cases wrapper with
    | json enc => cases failed
    | malformed =>
        cases failed
        cases uncaught
  · exact loud_of_decryptSecret documented failed uncaught

end Wrappers

section Conditions

variable {Priv Pub Pem : Type} (P : Primitives Priv Pub Pem) (platform : Platform)
variable (password : Bytes)

def QuietColumn (column : Option Wrapper) : Prop := ∀ wrapper ∈ column, Quiet P password wrapper

/-- What a column holds, as far as it can be unwrapped. -/
def opened (column : Option Wrapper) : Option Bytes :=
  column.bind fun wrapper => (unwrap P wrapper password).toOption

/-- A raw private key in a column, as far as it can be unwrapped and has the length of one. -/
def openedKey (column : Option Wrapper) : Option Bytes :=
  column.bind fun wrapper => (unwrap P wrapper password >>= fromPrivateBytes).toOption

/-- The Ed25519 key, which is looked at only next to a Dilithium key. -/
def openedEdPriv (db : Database Pem) : Option Bytes :=
  if platform.hybridSigAvailable then
    (db.secrets .dilithiumPrivEncrypted).bind fun _ =>
      openedKey P password (db.secrets .ed25519PrivEncrypted)
  else none

/-- The Dilithium key, which is looked at only behind an Ed25519 key that opens. -/
def openedDilPriv (db : Database Pem) : Option Bytes :=
  (openedEdPriv P platform password db).bind fun _ =>
    opened P password (db.secrets .dilithiumPrivEncrypted)

def ReadsPublicKey (db : Database Pem) : Prop :=
  ∃ pub pem, db.texts .publicKey = some pem ∧ P.pemToPubkey pem = .ok pub

def ReadsPrivateKey (db : Database Pem) : Prop :=
  ∃ priv pem, db.keys .privateKeyEncrypted = some pem ∧ P.pemToPrivkey pem password = .ok priv

/-- The global secret opens, or there is none. -/
def OpensGlobalSecret (db : Database Pem) : Prop :=
  ∀ wrapper ∈ db.secrets .globalSecret, ¬ Closed P password wrapper

/-- A Kyber key and a combined public key, without which the X25519 key is not looked at. -/
def HasPqcKeys (db : Database Pem) : Prop :=
  truthy (opened P password (db.secrets .kyberPrivEncrypted)) = true ∧
    truthy ((db.texts .pqcCombinedPubB64).bind fun text => (decodeBase64 text).toOption) = true

/-- The two signing keys: without the first the second is not looked at. -/
def QuietHybrid (db : Database Pem) : Prop :=
  ∀ edWrapper dilWrapper, db.secrets .ed25519PrivEncrypted = some edWrapper →
    db.secrets .dilithiumPrivEncrypted = some dilWrapper → Quiet P password edWrapper ∧
      ((∃ priv, unwrap P edWrapper password >>= fromPrivateBytes = .ok priv) →
        Quiet P password dilWrapper)

/-- The optional secrets among the settings, as far as they are looked at. -/
structure QuietSettings (db : Database Pem) : Prop where
  kyber : QuietColumn P password (db.secrets .kyberPrivEncrypted)
  x25519 : HasPqcKeys P password db →
    QuietColumn P password (db.secrets .pqcX25519PrivEncrypted)
  hybrid : platform.hybridSigAvailable = true → QuietHybrid P password db

def ReadsPem (row : FriendRow) : Prop := ∃ pub, P.pemToPubkey row.publicKeyPem = .ok pub

def ReadsHybridPub (row : FriendRow) : Prop :=
  ∃ pubs, attemptColumn (row.hybridSigPub platform)
    (fun text => decodeBase64 text >>= parseCombinedPub) = .ok pubs

/-- The secrets of the friends, up to a row whose public keys end the load. -/
def QuietFriends : List (String × FriendRow) → Prop
  | [] => True
  | item :: rest =>
      ReadsPem P item.2 →
        QuietColumn P password item.2.sharedSecret ∧
          QuietColumn P password item.2.ecdhPrivEncrypted ∧
            (ReadsHybridPub platform item.2 → QuietFriends rest)

def ReadsFriends (db : Database Pem) : Prop :=
  ∀ item ∈ db.friends.items, ReadsPem P item.2 ∧ ReadsHybridPub platform item.2

/-- Every wrapper that a load comes to opens or fails in a way that the `except` clauses name, and
the global secret is JSON, which is parsed before its `try`. -/
def LoadQuiet (db : Database Pem) : Prop :=
  ReadsPublicKey P db → ReadsPrivateKey P password db →
    (∀ wrapper ∈ db.secrets .globalSecret, wrapper ≠ .malformed ∧ Quiet P password wrapper) ∧
      (OpensGlobalSecret P password db →
        QuietSettings P platform password db ∧
          QuietFriends P platform password db.friends.items ∧
            (ReadsFriends P platform db → QuietColumn P password (db.secrets .ratchetStorageKey)))

/-- Every wrapper that does not open under the password has a bad salt instead. -/
def settledRow (row : FriendRow) : FriendRow :=
  { row with
    sharedSecretEncrypted := row.sharedSecretEncrypted.map (settled P password)
    ecdhPrivEncrypted := row.ecdhPrivEncrypted.map (settled P password) }

def settledRows (db : Database Pem) : Database Pem :=
  { db with
    secrets := fun key => (db.secrets key).map (settled P password)
    friends := db.friends.mapValues fun _ row => settledRow P password row }

def settle (session : Session Priv Pub Pem) : Session Priv Pub Pem :=
  { session with db := settledRows P password session.db }

variable {P platform password}

/-- The condition is about the wrapped settings and the texts alone. -/
theorem QuietSettings.congr {db other : Database Pem}
    (quiet : QuietSettings P platform password db) (secrets : other.secrets = db.secrets)
    (texts : other.texts = db.texts) : QuietSettings P platform password other := by
  obtain ⟨kyber, x25519, hybrid⟩ := quiet
  refine ⟨?_, ?_, ?_⟩
  · rwa [secrets]
  · unfold HasPqcKeys
    rwa [secrets, texts]
  · unfold QuietHybrid
    rwa [secrets]

end Conditions

section Loaders

variable {Priv Pub Pem : Type} {P : Primitives Priv Pub Pem} {platform : Platform}
variable {password : Bytes} {session : Session Priv Pub Pem}

theorem assign_settles (change : KeyStore Priv Pub → KeyStore Priv Pub)
    (session : Session Priv Pub Pem) : (assign change).CommutesAt (settle P password) session :=
  rfl

theorem loadPublicKey_settles :
    (loadPublicKey P).Commutes (settle P password : Session Priv Pub Pem → _) :=
  Call.commutes_read_bind (fun _ => rfl) fun _ =>
    Call.commutes_bind (Call.commutes_require _ _) fun _ =>
      Call.commutes_bind (Call.commutes_lift _) fun _ => Call.commutes_modify fun _ => rfl

theorem loadPrivateKey_settles :
    (loadPrivateKey P password).Commutes (settle P password : Session Priv Pub Pem → _) := by
  refine Call.commutes_read_bind (fun _ => rfl) fun _ =>
    Call.commutes_bind (Call.commutes_require _ _) fun _ =>
      Call.commutes_bind (Call.commutes_lift _) fun found => ?_
  cases found with
  | none => exact Call.commutes_pure false
  | some priv =>
      exact Call.commutes_bind (Call.commutes_modify fun _ => rfl) fun _ => Call.commutes_pure true

theorem loadLegacyKey_settles (now : Rat) :
    (loadLegacyKey P password now).Commutes (settle P password : Session Priv Pub Pem → _) := by
  refine Call.commutes_bind (Call.commutes_modify fun _ => rfl) fun _ =>
    Call.commutes_read_bind (fun _ => rfl) fun session => ?_
  cases session.db.keys .legacyPrivateKeyEncrypted with
  | none => exact Call.commutes_pure ()
  | some pem =>
      refine Call.commutes_ite (Call.commutes_bind (Call.commutes_lift _) fun found => ?_)
        (Call.commutes_modify fun _ => rfl)
      cases found with
      | none => exact Call.commutes_pure ()
      | some priv => exact Call.commutes_modify fun _ => rfl

theorem attempt_unwrap_settled {wrapper : Wrapper} (quiet : Quiet P password wrapper) :
    attempt (unwrap P (settled P password wrapper) password) =
      attempt (unwrap P wrapper password) := by
  rw [unwrap_settled]
  cases opened : unwrap P wrapper password with
  | ok plain => rfl
  | error raised =>
      show attempt (.error .valueError) = attempt (.error raised)
      rw [attempt, attempt, quiet raised opened]
      rfl

theorem attemptColumn_settled {column : Option Wrapper} (quiet : QuietColumn P password column) :
    attemptColumn (column.map (settled P password)) (unwrap P · password) =
      attemptColumn column (unwrap P · password) := by
  cases column with
  | none => rfl
  | some wrapper => exact attempt_unwrap_settled (quiet wrapper rfl)

@[simp] theorem settle_secrets (session : Session Priv Pub Pem) (key : SecretSetting) :
    (settle P password session).db.secrets key = (session.db.secrets key).map (settled P password) :=
  rfl

theorem loadGlobalSecret_settles (json : ∀ wrapper ∈ session.db.secrets .globalSecret,
    wrapper ≠ .malformed ∧ Quiet P password wrapper) :
    (loadGlobalSecret P password).CommutesAt (settle P password) session := by
  unfold Call.CommutesAt loadGlobalSecret
  rw [Call.run_read_bind, Call.run_read_bind, settle_secrets]
  cases stored : session.db.secrets .globalSecret with
  | none => rfl
  | some wrapper =>
      obtain ⟨parses, quiet⟩ := json wrapper stored
      obtain ⟨enc, rfl⟩ := json_of_ne_malformed parses
      obtain ⟨enc', settled_eq⟩ : ∃ parsed, settled P password (.json enc) = .json parsed :=
        settled_json enc
      have same : attempt (decryptSecret P enc' password) =
          attempt (decryptSecret P enc password) := by
        have settled_same := attempt_unwrap_settled quiet
        rwa [settled_eq] at settled_same
      simp only [Option.map_some, settled_eq, jsonLoads, Call.run_lift_ok_bind, same]
      cases attempt (decryptSecret P enc password) with
      | error raised => rfl
      | ok found => cases found <;> rfl

theorem loadKyberKey_settles
    (quiet : QuietColumn P password (session.db.secrets .kyberPrivEncrypted)) :
    (loadKyberKey P password).CommutesAt (settle P password) session := by
  unfold Call.CommutesAt loadKyberKey
  simp only [run_assign_bind, Call.run_read_bind, settle_secrets]
  cases stored : session.db.secrets .kyberPrivEncrypted with
  | none => rfl
  | some wrapper =>
      simp only [Option.map_some, attempt_unwrap_settled (quiet wrapper stored)]
      cases attempt (unwrap P wrapper password) with
      | error raised => rfl
      | ok found => cases found <;> rfl

theorem loadPqcCombinedPub_settles :
    (loadPqcCombinedPub : StoreCall Priv Pub Pem Unit).Commutes
      (settle P password : Session Priv Pub Pem → _) := by
  refine Call.commutes_read_bind (fun _ => rfl) fun session => ?_
  cases session.db.texts .pqcCombinedPubB64 with
  | none => exact Call.commutes_pure ()
  | some text =>
      refine Call.commutes_ite (Call.commutes_bind (Call.commutes_lift _) fun found => ?_)
        (Call.commutes_pure ())
      cases found with
      | none => exact Call.commutes_pure ()
      | some pub => exact Call.commutes_modify fun _ => rfl

theorem cachePqcBundle_settles
    (quiet : (truthy session.store.myKyberPriv && truthy session.store.myPqcCombinedPub) = true →
      QuietColumn P password (session.db.secrets .pqcX25519PrivEncrypted)) :
    (cachePqcBundle P password).CommutesAt (settle P password) session := by
  unfold Call.CommutesAt cachePqcBundle
  rw [run_assign_bind, run_assign_bind, Call.run_read_bind, Call.run_read_bind]
  by_cases usable : (truthy session.store.myKyberPriv &&
      truthy session.store.myPqcCombinedPub) = true
  · simp only [settle, settledRows, usable, if_true]
    cases stored : session.db.secrets .pqcX25519PrivEncrypted with
    | none => rfl
    | some wrapper =>
        simp only [Option.map_some, attempt_settled (quiet usable wrapper stored)]
        cases attempt (unwrap P wrapper password >>= fromPrivateBytes) with
        | error raised => rfl
        | ok found => cases found <;> rfl
  · simp only [settle, usable]
    rfl

theorem loadHybridPrivateKeys_settles (quiet : QuietHybrid P password session.db) :
    (loadHybridPrivateKeys P password).CommutesAt (settle P password) session := by
  unfold Call.CommutesAt loadHybridPrivateKeys
  rw [Call.run_read_bind, Call.run_read_bind, settle_secrets, settle_secrets]
  cases ed : session.db.secrets .ed25519PrivEncrypted with
  | none => rfl
  | some edWrapper =>
      cases dil : session.db.secrets .dilithiumPrivEncrypted with
      | none => rfl
      | some dilWrapper =>
          obtain ⟨edQuiet, dilQuiet⟩ := quiet edWrapper dilWrapper ed dil
          simp only [Option.map_some, attempt_settled edQuiet]
          cases found : attempt (unwrap P edWrapper password >>= fromPrivateBytes) with
          | error raised => rfl
          | ok found' =>
              cases found' with
              | none => rfl
              | some edPriv =>
                  simp only [Call.run_lift_ok_bind, run_assign_bind,
                    attempt_unwrap_settled (dilQuiet ⟨edPriv, attempt_eq_some_iff.mp found⟩)]
                  cases attempt (unwrap P dilWrapper password) with
                  | error raised => rfl
                  | ok dilFound => cases dilFound <;> rfl

theorem loadHybridCombinedPub_settles :
    (loadHybridCombinedPub : StoreCall Priv Pub Pem Unit).Commutes
      (settle P password : Session Priv Pub Pem → _) := by
  refine Call.commutes_read_bind (fun _ => rfl) fun session => ?_
  cases session.db.texts .hybridSigCombinedPubB64 with
  | none => exact Call.commutes_pure ()
  | some text =>
      refine Call.commutes_bind (Call.commutes_lift _) fun found => ?_
      cases found with
      | none => exact Call.commutes_pure ()
      | some pub => exact Call.commutes_modify fun _ => rfl

theorem loadHybridSigning_settles
    (quiet : platform.hybridSigAvailable = true → QuietHybrid P password session.db) :
    (loadHybridSigning P platform password).CommutesAt (settle P password) session := by
  refine Call.commutesAt_bind (assign_settles _ _) fun _ after cleared => ?_
  cases cleared
  split
  · rename_i available
    exact Call.commutesAt_bind (loadHybridPrivateKeys_settles (quiet available)) fun _ _ _ =>
      loadHybridCombinedPub_settles.at _
  · rfl

/-- A row whose wrappers are quiet, as far as the load comes to them, loads as the settled one. -/
theorem loadFriend_settled {name : String} {row : FriendRow}
    (quiet : ReadsPem P row → QuietColumn P password row.sharedSecret ∧
      QuietColumn P password row.ecdhPrivEncrypted) :
    loadFriend P platform password name (settledRow P password row) =
      loadFriend P platform password name row := by
  have column : (settledRow P password row).sharedSecret =
      row.sharedSecret.map (settled P password) := by
    unfold FriendRow.sharedSecret settledRow
    by_cases has : row.hasSharedSecret = true <;> simp [has]
  unfold loadFriend
  rw [column]
  show Call.lift (P.pemToPubkey row.publicKeyPem) >>= _ = _
  cases read : P.pemToPubkey row.publicKeyPem with
  | error raised => rfl
  | ok pub =>
      obtain ⟨shared, ecdh⟩ := quiet ⟨pub, read⟩
      rw [attemptColumn_settled shared]
      show Call.lift (.ok pub) >>= (fun _ => Call.lift _ >>= fun _ => assign _ >>= fun _ =>
        Call.lift (attemptColumn (row.ecdhPrivEncrypted.map (settled P password))
          (unwrap P · password)) >>= _) = _
      rw [attemptColumn_settled ecdh]
      rfl

theorem loadFriend_settles (name : String) (row : FriendRow) :
    (loadFriend P platform password name row).Commutes
      (settle P password : Session Priv Pub Pem → _) :=
  Call.commutes_bind (Call.commutes_lift _) fun _ =>
    Call.commutes_bind (Call.commutes_lift _) fun _ =>
    Call.commutes_bind (Call.commutes_modify fun _ => rfl) fun _ =>
    Call.commutes_bind (Call.commutes_lift _) fun _ =>
    Call.commutes_bind (Call.commutes_modify fun _ => rfl) fun _ =>
    Call.commutes_bind (Call.commutes_lift _) fun _ =>
    Call.commutes_bind (Call.commutes_modify fun _ => rfl) fun _ =>
    Call.commutes_bind (Call.commutes_lift _) fun _ => Call.commutes_modify fun _ => rfl

/-- What `loadFriend` reads where it returns. -/
theorem reads_of_loadFriend {name : String} {row : FriendRow} {after : Session Priv Pub Pem}
    (loaded : (loadFriend P platform password name row).run session = (.ok (), after)) :
    ReadsPem P row ∧ ReadsHybridPub platform row := by
  obtain ⟨pub, read, loaded⟩ := Call.ok_of_run_lift_bind loaded
  obtain ⟨_, _, loaded⟩ := Call.ok_of_run_lift_bind loaded
  obtain ⟨_, _, loaded⟩ := Call.ok_of_run_lift_bind loaded
  obtain ⟨_, _, loaded⟩ := Call.ok_of_run_lift_bind loaded
  obtain ⟨pubs, parsed, _⟩ := Call.ok_of_run_lift_bind loaded
  exact ⟨⟨pub, read⟩, ⟨pubs, parsed⟩⟩

theorem loadFriendRows_settled {rows : List (String × FriendRow)}
    (quiet : QuietFriends P platform password rows) (session : Session Priv Pub Pem) :
    (loadFriendRows P platform password
        (rows.map fun item => (item.1, settledRow P password item.2))).run
          (settle P password session) =
      (((loadFriendRows P platform password rows).run session).1,
        settle P password ((loadFriendRows P platform password rows).run session).2) := by
  induction rows generalizing session with
  | nil => rfl
  | cons item rest ih =>
      have first : loadFriend P platform password item.1 (settledRow P password item.2) =
          (loadFriend P platform password item.1 item.2 : StoreCall Priv Pub Pem Unit) :=
        loadFriend_settled fun reads => ⟨(quiet reads).1, (quiet reads).2.1⟩
      show Call.run (loadFriend P platform password item.1 (settledRow P password item.2) >>= _) _ =
        _
      rw [first, loadFriendRows, Call.run_bind, Call.run_bind,
        loadFriend_settles item.1 item.2 session]
      cases ran : (loadFriend P platform password item.1 item.2).run session with
      | mk result after =>
          cases result with
          | error raised => rfl
          | ok _ =>
              obtain ⟨pem, hybridPub⟩ := reads_of_loadFriend ran
              exact ih ((quiet pem).2.2 hybridPub) after

theorem loadFriends_settles (quiet : QuietFriends P platform password session.db.friends.items) :
    (loadFriends P platform password).CommutesAt (settle P password) session := by
  unfold Call.CommutesAt loadFriends
  rw [Call.run_read_bind, Call.run_read_bind, run_assign_bind, run_assign_bind]
  exact loadFriendRows_settled quiet { session with store := withoutFriends session.store }

end Loaders

end UltimateEnigma.KeyStore
