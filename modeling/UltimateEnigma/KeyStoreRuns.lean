import UltimateEnigma.KeyStoreOperations
import UltimateEnigma.Machine

set_option autoImplicit false

namespace UltimateEnigma

open Py

namespace KeyStore

/-- What a generated key looks like: raw curve keys have 32 bytes, a Kyber key is not empty. -/
def SecretSetting.Fits : SecretSetting → Bytes → Prop
  | .pqcX25519PrivEncrypted, plain => plain.length = 32
  | .ed25519PrivEncrypted, plain => plain.length = 32
  | .kyberPrivEncrypted, plain => plain ≠ []
  | _, _ => True

def PqcBundle.WellFormed (keys : PqcBundle) : Prop :=
  keys.x25519Priv.length = 32 ∧ keys.kyberPriv ≠ [] ∧ keys.combinedPub ≠ []

instance (keys : PqcBundle) : Decidable keys.WellFormed :=
  inferInstanceAs (Decidable (_ ∧ _ ∧ _))

def HybridKeys.WellFormed (keys : HybridKeys) : Prop := keys.edPriv.length = 32

instance (keys : HybridKeys) : Decidable keys.WellFormed := inferInstanceAs (Decidable (_ = _))

/-- The operations that read or write the stored keys, with what the libraries and the random
source gave to them. -/
inductive Operation (Priv : Type) where
  | restart
  | wipe
  | initDb (password : Bytes) (priv : Priv) (globalSecret : Bytes) (draws : Draws)
      (hybrid : Option HybridKeys)
  | load (password : Bytes) (now : Rat) (draws : LoadDraws)
  | saveFriend (name : String) (update : FriendUpdate) (password : Bytes) (draws : Draws)
  | removeFriend (name : String)
  | updateGlobalSecret (newSecret password : Bytes) (draws : Draws)
  | setDuressPassword (password dummySecret : Bytes) (decoy : Priv) (draws : Draws)
  | loadDuressDecoy (password : Option Bytes) (generated : Priv) (fakeSecret : Bytes)
      (draws : Draws)
  | ensurePqcKeys (password : Bytes) (keys : PqcBundle) (draws : Draws)
  | ensurePqcKeysFull (password : Bytes) (keys : PqcBundle) (draws : Draws)
  | loadPqcBundle (password : Bytes)
  | generateHybridSigKeys (password : Bytes) (keys : HybridKeys) (draws : Draws)
  | rotateRsaKey (password : Bytes) (priv : Priv) (now : Rat) (draws : Draws)
  | persistTotpSecret (secret : Bytes) (password : Option Bytes) (draws : Draws)
  | changePassword (oldPassword newPassword : Bytes) (draws : Draws)
  | resetWithRecoveryKey (newPassword : Bytes) (draws : ResetDraws Priv)

/-- The keys that an operation generates are of the libraries' making. -/
def Operation.Generates {Priv : Type} : Operation Priv → Prop
  | .initDb _ _ _ _ hybrid => ∀ keys ∈ hybrid, keys.WellFormed
  | .ensurePqcKeys _ keys _ | .ensurePqcKeysFull _ keys _ => keys.WellFormed
  | .generateHybridSigKeys _ keys _ => keys.WellFormed
  | .resetWithRecoveryKey _ draws => ∀ step ∈ draws.hybrid, step.keys.WellFormed
  | _ => True

section Runs

variable {Priv Pub Pem : Type} (P : Primitives Priv Pub Pem) (platform : Platform)

def Operation.perform (session : Session Priv Pub Pem) : Operation Priv → Session Priv Pub Pem
  | .restart => { session with store := {} }
  | .wipe => { session with store := wiped session.store }
  | .initDb password priv globalSecret draws hybrid =>
      ((KeyStore.initDb P platform password priv globalSecret draws hybrid).run session).2
  | .load password now draws => ((KeyStore.load P platform password now draws).run session).2
  | .saveFriend name update password draws =>
      ((KeyStore.saveFriend P platform name update password draws).run session).2
  | .removeFriend name => ((KeyStore.removeFriend name).run session).2
  | .updateGlobalSecret newSecret password draws =>
      ((KeyStore.updateGlobalSecret P newSecret password draws).run session).2
  | .setDuressPassword password dummySecret decoy draws =>
      ((KeyStore.setDuressPassword P password dummySecret decoy draws).run session).2
  | .loadDuressDecoy password generated fakeSecret draws =>
      ((KeyStore.loadDuressDecoy P password generated fakeSecret draws).run session).2
  | .ensurePqcKeys password keys draws =>
      ((KeyStore.ensurePqcKeys P platform password keys draws).run session).2
  | .ensurePqcKeysFull password keys draws =>
      ((KeyStore.ensurePqcKeysFull P platform password keys draws).run session).2
  | .loadPqcBundle password => ((KeyStore.loadPqcBundle P password).run session).2
  | .generateHybridSigKeys password keys draws =>
      ((KeyStore.generateHybridSigKeys P password keys draws).run session).2
  | .rotateRsaKey password priv now draws =>
      ((KeyStore.rotateRsaKey P password priv now draws).run session).2
  | .persistTotpSecret secret password draws =>
      ((KeyStore.persistTotpSecret P secret password draws).run session).2
  | .changePassword oldPassword newPassword draws =>
      ((KeyStore.changePassword P oldPassword newPassword draws).run session).2
  | .resetWithRecoveryKey newPassword draws =>
      ((KeyStore.resetKeys P platform newPassword draws).run session).2

/-- Every run begins in a fresh process whose `init_db` has made the first keys. The password that
`set_master_password` keeps is no part of it: no connection reads it where `sqlcipher3` is not
installed, and nothing sets it before the first recovery. -/
def machine : Machine (Session Priv Pub Pem) (Operation Priv) where
  start := fun session => ∃ password priv globalSecret draws hybrid,
    (∀ keys ∈ hybrid, HybridKeys.WellFormed keys) ∧
    (initDb P platform password priv globalSecret draws hybrid).run ⟨{}, .empty⟩ =
      (.ok true, session)
  enabled := fun _ operation => operation.Generates
  apply := fun session operation => operation.perform P platform session

def FriendRow.Wrapped (row : FriendRow) : Prop :=
  (∀ wrapper ∈ row.sharedSecretEncrypted, ∃ plain password entropy,
    wrapper = wrap P plain password entropy) ∧
  (∀ wrapper ∈ row.ecdhPrivEncrypted, ∃ plain password entropy,
    wrapper = wrap P plain password entropy)

/-- What every run keeps of the database: each secret is wrapped under some password, the first
keys are there, and the PQC rows come together. -/
structure Sound (db : Database Pem) : Prop where
  secrets : ∀ key, ∀ wrapper ∈ db.secrets key, ∃ plain password entropy,
    key.Fits plain ∧ wrapper = wrap P plain password entropy
  keys : ∀ key, ∀ pem ∈ db.keys key, ∃ priv password salt,
    P.privkeyToEncryptedPem priv password salt = .ok pem
  friends : ∀ name, ∀ row ∈ db.friends.get? name, row.Wrapped P
  publicKey : ∃ pub, db.texts .publicKey = some (P.pubkeyToPem pub)
  privateKey : (db.keys .privateKeyEncrypted).isSome
  globalSecret : (db.secrets .globalSecret).isSome
  x25519WithKyber : (db.secrets .pqcX25519PrivEncrypted).isSome →
    (db.secrets .kyberPrivEncrypted).isSome
  kyberWithPub : (db.secrets .kyberPrivEncrypted).isSome →
    ∃ pub, pub ≠ [] ∧ db.texts .pqcCombinedPubB64 = some (b64encode pub)
  noLegacySalt : db.texts .ratchetHkdfSalt = none

/-- The settings that go with others, so that they are not written alone. -/
def SecretSetting.IsPqc (key : SecretSetting) : Prop :=
  key = .kyberPrivEncrypted ∨ key = .pqcX25519PrivEncrypted

instance (key : SecretSetting) : Decidable key.IsPqc := inferInstanceAs (Decidable (_ ∨ _))

variable {P}

namespace Sound

variable {db : Database Pem} (sound : Sound P db)
include sound

theorem setSecret (key : SecretSetting) (plain : Bytes) (password : Bytes) (entropy : Entropy)
    (fits : key.Fits plain) (alone : ¬ key.IsPqc) :
    Sound P (db.setSecret key (wrap P plain password entropy)) := by
  have notKyber : SecretSetting.kyberPrivEncrypted ≠ key := fun same => alone (.inl same.symm)
  have notX25519 : SecretSetting.pqcX25519PrivEncrypted ≠ key :=
    fun same => alone (.inr same.symm)
  refine ⟨?_, sound.keys, sound.friends, sound.publicKey, sound.privateKey, ?_, ?_, ?_,
    sound.noLegacySalt⟩
  · intro found wrapper stored
    simp only [Database.setSecret, Function.update_apply, Option.mem_def] at stored
    split at stored
    · rename_i same
      subst same
      exact ⟨plain, password, entropy, fits, (Option.some.inj stored).symm⟩
    · exact sound.secrets found wrapper stored
  · simp only [Database.setSecret, Function.update_apply]
    split
    · rfl
    · exact sound.globalSecret
  · simpa only [Database.setSecret, Function.update_of_ne notKyber,
      Function.update_of_ne notX25519] using sound.x25519WithKyber
  · simpa only [Database.setSecret, Function.update_of_ne notKyber] using sound.kyberWithPub

theorem updateSecret (key : SecretSetting) (plain : Bytes) (password : Bytes) (entropy : Entropy)
    (fits : key.Fits plain) (alone : ¬ key.IsPqc) :
    Sound P (db.updateSecret key (wrap P plain password entropy)) := by
  cases present : db.secrets key with
  | some wrapper =>
      have same : db.updateSecret key (wrap P plain password entropy) =
          db.setSecret key (wrap P plain password entropy) := by
        simp only [Database.updateSecret, Database.setSecret, present, Option.map_some]
      rw [same]
      exact sound.setSecret key plain password entropy fits alone
  | none =>
      have same : db.updateSecret key (wrap P plain password entropy) = db := by
        rw [Database.updateSecret, present, Option.map_none, ← present,
          Function.update_eq_self]
      rw [same]
      exact sound

theorem deleteSecret (key : SecretSetting) (spare : key ≠ .globalSecret) (alone : ¬ key.IsPqc) :
    Sound P (db.deleteSecret key) := by
  have notKyber : SecretSetting.kyberPrivEncrypted ≠ key := fun same => alone (.inl same.symm)
  have notX25519 : SecretSetting.pqcX25519PrivEncrypted ≠ key :=
    fun same => alone (.inr same.symm)
  refine ⟨?_, sound.keys, sound.friends, sound.publicKey, sound.privateKey, ?_, ?_, ?_,
    sound.noLegacySalt⟩
  · intro found wrapper stored
    simp only [Database.deleteSecret, Function.update_apply, Option.mem_def] at stored
    split at stored
    · cases stored
    · exact sound.secrets found wrapper stored
  · simpa only [Database.deleteSecret, Function.update_of_ne (Ne.symm spare)]
      using sound.globalSecret
  · simpa only [Database.deleteSecret, Function.update_of_ne notKyber,
      Function.update_of_ne notX25519] using sound.x25519WithKyber
  · simpa only [Database.deleteSecret, Function.update_of_ne notKyber] using sound.kyberWithPub

theorem setKey (key : KeySetting) {priv : Priv} {password salt : Bytes} {pem : Pem}
    (made : P.privkeyToEncryptedPem priv password salt = .ok pem) : Sound P (db.setKey key pem) := by
  refine ⟨sound.secrets, ?_, sound.friends, sound.publicKey, ?_, sound.globalSecret,
    sound.x25519WithKyber, sound.kyberWithPub, sound.noLegacySalt⟩
  · intro found stored_pem stored
    simp only [Database.setKey, Function.update_apply, Option.mem_def] at stored
    split at stored
    · exact ⟨priv, password, salt, made.trans (congrArg Except.ok (Option.some.inj stored))⟩
    · exact sound.keys found stored_pem stored
  · simp only [Database.setKey, Function.update_apply]
    split
    · rfl
    · exact sound.privateKey

theorem updateKey (key : KeySetting) {priv : Priv} {password salt : Bytes} {pem : Pem}
    (made : P.privkeyToEncryptedPem priv password salt = .ok pem) :
    Sound P (db.updateKey key pem) := by
  cases present : db.keys key with
  | some current =>
      have same : db.updateKey key pem = db.setKey key pem := by
        simp only [Database.updateKey, Database.setKey, present, Option.map_some]
      rw [same]
      exact sound.setKey key made
  | none =>
      have same : db.updateKey key pem = db := by
        rw [Database.updateKey, present, Option.map_none, ← present, Function.update_eq_self]
      rw [same]
      exact sound

theorem withExpiry (expiry : Option Rat) : Sound P { db with legacyKeyExpiry := expiry } :=
  ⟨sound.secrets, sound.keys, sound.friends, sound.publicKey, sound.privateKey,
    sound.globalSecret, sound.x25519WithKyber, sound.kyberWithPub, sound.noLegacySalt⟩

theorem deleteLegacyKey : Sound P db.deleteLegacyKey := by
  refine ⟨sound.secrets, ?_, sound.friends, sound.publicKey, ?_, sound.globalSecret,
    sound.x25519WithKyber, sound.kyberWithPub, sound.noLegacySalt⟩
  · intro found pem stored
    simp only [Database.deleteLegacyKey, Function.update_apply, Option.mem_def] at stored
    split at stored
    · cases stored
    · exact sound.keys found pem stored
  · simpa only [Database.deleteLegacyKey, Function.update_apply, reduceCtorEq, if_false]
      using sound.privateKey

theorem changeText (key : TextSetting) (value : Option String) (spare : key ≠ .publicKey)
    (alone : key ≠ .pqcCombinedPubB64) (noSalt : key = .ratchetHkdfSalt → value = none) :
    Sound P { db with texts := Function.update db.texts key value } := by
  refine ⟨sound.secrets, sound.keys, sound.friends, ?_, sound.privateKey, sound.globalSecret,
    sound.x25519WithKyber, ?_, ?_⟩
  · simpa only [Function.update_of_ne (Ne.symm spare)] using sound.publicKey
  · simpa only [Function.update_of_ne (Ne.symm alone)] using sound.kyberWithPub
  · simp only [Function.update_apply]
    split
    · rename_i same
      exact noSalt same.symm
    · exact sound.noLegacySalt

theorem setPublicKey (pub : Pub) : Sound P (db.setText .publicKey (P.pubkeyToPem pub)) := by
  refine ⟨sound.secrets, sound.keys, sound.friends, ⟨pub, ?_⟩, sound.privateKey,
    sound.globalSecret, sound.x25519WithKyber, ?_, ?_⟩
  · simp only [Database.setText, Function.update_self]
  · simpa only [Database.setText, Function.update_apply, reduceCtorEq, if_false]
      using sound.kyberWithPub
  · simpa only [Database.setText, Function.update_apply, reduceCtorEq, if_false]
      using sound.noLegacySalt

theorem updatePublicKey (pub : Pub) : Sound P (db.updateText .publicKey (P.pubkeyToPem pub)) := by
  obtain ⟨current, present⟩ := sound.publicKey
  have same : db.updateText .publicKey (P.pubkeyToPem pub) =
      db.setText .publicKey (P.pubkeyToPem pub) := by
    simp only [Database.updateText, Database.setText, present, Option.map_some]
  rw [same]
  exact sound.setPublicKey pub

theorem withFriends {friends : Dict String FriendRow}
    (wrapped : ∀ name, ∀ row ∈ friends.get? name, row.Wrapped P) :
    Sound P { db with friends := friends } :=
  ⟨sound.secrets, sound.keys, wrapped, sound.publicKey, sound.privateKey,
    sound.globalSecret, sound.x25519WithKyber, sound.kyberWithPub, sound.noLegacySalt⟩

theorem replaceFriend (name : String) {row : FriendRow} (wrapped : row.Wrapped P) :
    Sound P (db.replaceFriend name row) := by
  apply sound.withFriends
  intro other found stored
  rw [Dict.get?_set] at stored
  split at stored
  · rw [← Option.some.inj stored]
    exact wrapped
  · rename_i apart
    rw [Dict.get?_erase_of_ne _ apart] at stored
    exact sound.friends other found stored

theorem deleteFriend (name : String) : Sound P (db.deleteFriend name) := by
  apply sound.withFriends
  intro other found stored
  rw [Dict.get?_erase] at stored
  split at stored
  · cases stored
  · exact sound.friends other found stored

theorem mapFriends (change : String → FriendRow → FriendRow)
    (keeps : ∀ name row, row.Wrapped P → (change name row).Wrapped P) :
    Sound P { db with friends := db.friends.mapValues change } := by
  apply sound.withFriends
  intro name row stored
  rw [Dict.get?_mapValues] at stored
  obtain ⟨before, present, rfl⟩ := Option.map_eq_some_iff.mp stored
  exact keeps name before (sound.friends name before present)

/-- The PQC rows as `ensure_pqc_keys` and `ensure_pqc_keys_full` leave them. -/
theorem setPqc {keys : PqcBundle} (wellFormed : keys.WellFormed) (password : Bytes)
    (draws : Draws) :
    Sound P ((db.setSecret .kyberPrivEncrypted
      (wrap P keys.kyberPriv password (draws.secret .kyberPrivEncrypted))).setText
        .pqcCombinedPubB64 (b64encode keys.combinedPub)) := by
  refine ⟨?_, sound.keys, sound.friends, ?_, sound.privateKey, ?_, ?_, ?_, ?_⟩
  · intro found wrapper stored
    simp only [Database.setText, Database.setSecret, Function.update_apply,
      Option.mem_def] at stored
    split at stored
    · rename_i same
      subst same
      exact ⟨_, _, _, wellFormed.2.1, (Option.some.inj stored).symm⟩
    · exact sound.secrets found wrapper stored
  · simpa only [Database.setText, Database.setSecret, Function.update_apply, reduceCtorEq,
      if_false] using sound.publicKey
  · simpa only [Database.setText, Database.setSecret, Function.update_apply, reduceCtorEq,
      if_false] using sound.globalSecret
  · intro present
    simp only [Database.setText, Database.setSecret, Function.update_self, Option.isSome_some]
  · intro present
    exact ⟨keys.combinedPub, wellFormed.2.2, by
      simp only [Database.setText, Function.update_self]⟩
  · simpa only [Database.setText, Database.setSecret, Function.update_apply, reduceCtorEq,
      if_false] using sound.noLegacySalt

theorem setX25519 {plain : Bytes} (fits : plain.length = 32) (password : Bytes)
    (entropy : Entropy) (kyber : (db.secrets .kyberPrivEncrypted).isSome) :
    Sound P (db.setSecret .pqcX25519PrivEncrypted (wrap P plain password entropy)) := by
  refine ⟨?_, sound.keys, sound.friends, sound.publicKey, sound.privateKey, ?_, ?_, ?_,
    sound.noLegacySalt⟩
  · intro found wrapper stored
    simp only [Database.setSecret, Function.update_apply, Option.mem_def] at stored
    split at stored
    · rename_i same
      subst same
      exact ⟨plain, password, entropy, fits, (Option.some.inj stored).symm⟩
    · exact sound.secrets found wrapper stored
  · simpa only [Database.setSecret, Function.update_apply, reduceCtorEq, if_false]
      using sound.globalSecret
  · intro _
    simpa only [Database.setSecret, Function.update_apply, reduceCtorEq, if_false] using kyber
  · simpa only [Database.setSecret, Function.update_apply, reduceCtorEq, if_false]
      using sound.kyberWithPub

end Sound

variable {platform}

theorem runStatements_sound {statements : List (Database Pem → Database Pem)}
    (each : ∀ statement ∈ statements, ∀ db, Sound P db → Sound P (statement db))
    {db : Database Pem} (sound : Sound P db) : Sound P (runStatements statements db) := by
  induction statements generalizing db with
  | nil => exact sound
  | cons statement rest ih =>
      exact ih (fun later inside => each later (List.mem_cons_of_mem _ inside))
        (each statement List.mem_cons_self db sound)

theorem hybridStatements_sound {password : Bytes} {draws : Draws} {keys : HybridKeys}
    (wellFormed : keys.WellFormed) :
    ∀ statement ∈ hybridStatements P password draws keys, ∀ db : Database Pem,
      Sound P db → Sound P (statement db) := by
  intro statement inside db sound
  simp only [hybridStatements, List.mem_cons, List.not_mem_nil, or_false] at inside
  rcases inside with rfl | rfl | rfl
  · exact sound.setSecret _ _ password _ wellFormed (by decide)
  · exact sound.setSecret _ _ password _ trivial (by decide)
  · exact sound.changeText _ _ (by decide) (by decide) nofun

theorem sound_of_keeps {α : Type} {call : StoreCall Priv Pub Pem α}
    {session : Session Priv Pub Pem} (keeps : call.Keeps Session.db)
    (sound : Sound P session.db) : Sound P (call.run session).2.db :=
  keeps.maintains (Sound P) session sound

section Operations

variable {session : Session Priv Pub Pem} (sound : Sound P session.db)
include sound

theorem insertHybridKeys_sound (password : Bytes) (draws : Draws) {hybrid : Option HybridKeys}
    (wellFormed : ∀ keys ∈ hybrid, keys.WellFormed) :
    Sound P ((insertHybridKeys P platform password draws hybrid).run session).2.db := by
  simp only [insertHybridKeys, Call.run_read_bind]
  cases hybrid with
  | none => exact sound
  | some keys =>
      simp only [Call.run_ite]
      split
      · exact runStatements_sound (hybridStatements_sound (wellFormed keys rfl)) sound
      · exact sound

theorem initDb_sound (password : Bytes) (priv : Priv) (globalSecret : Bytes) (draws : Draws)
    {hybrid : Option HybridKeys} (wellFormed : ∀ keys ∈ hybrid, keys.WellFormed) :
    Sound P ((initDb P platform password priv globalSecret draws hybrid).run session).2.db := by
  obtain ⟨pem, present⟩ := Option.isSome_iff_exists.mp sound.privateKey
  have nothing : (insertFirstKeys P password priv globalSecret draws).run session =
      (.ok false, session) := by
    simp only [insertFirstKeys, Call.run_read_bind, present, Call.run_pure]
  rw [initDb, Call.run_bind_of_ok nothing]
  refine Call.maintains_bind ?_ (fun _ => (Call.keeps_pure _).maintains (Sound P)) session sound
  exact fun session sound => insertHybridKeys_sound sound password draws wellFormed

theorem setDuressPassword_sound (password dummySecret : Bytes) (decoy : Priv) (draws : Draws) :
    Sound P ((setDuressPassword P password dummySecret decoy draws).run session).2.db := by
  rw [setDuressPassword]
  cases made : P.privkeyToEncryptedPem decoy password (draws.key .duressDecoyPrivkey) with
  | error raised => exact sound
  | ok pem =>
      exact (sound.setSecret .duressVerifier _ password _ trivial (by decide)).setKey _ made

theorem decoyKey_sound (password : Option Bytes) (generated : Priv) (draws : Draws) :
    Sound P ((decoyKey P password generated draws).run session).2.db := by
  simp only [decoyKey, Call.run_read_bind]
  split
  · exact sound
  · split
    · rename_i pem made
      obtain ⟨password, -, made⟩ := Option.map_eq_some_iff.mp made
      exact sound.setKey _ made
    · exact sound

theorem loadDuressDecoy_sound (password : Option Bytes) (generated : Priv) (fakeSecret : Bytes)
    (draws : Draws) :
    Sound P ((loadDuressDecoy P password generated fakeSecret draws).run session).2.db := by
  refine Call.maintains_bind ((assign_keeps_db _).maintains (Sound P)) (fun _ =>
    Call.maintains_bind ?_ fun _ => ?_) session sound
  · exact fun session sound => decoyKey_sound sound password generated draws
  · exact (Call.keeps_bind (assign_keeps_db _) fun _ => Call.keeps_pure _).maintains (Sound P)

theorem updateGlobalSecret_sound (newSecret password : Bytes) (draws : Draws) :
    Sound P ((updateGlobalSecret P newSecret password draws).run session).2.db :=
  sound.updateSecret _ _ password _ trivial (by decide)

omit sound in
theorem wrapColumn_wrapped {password : Bytes} {entropy : Entropy} {plain : Option Bytes}
    {column : Option Wrapper} (made : wrapColumn P password entropy plain = .ok column) :
    ∀ wrapper ∈ column, ∃ plain password entropy, wrapper = wrap P plain password entropy := by
  cases plain with
  | none =>
      cases made
      exact fun _ absent => absurd absent (by simp)
  | some plain =>
      rw [wrapColumn] at made
      split at made
      · cases made
      · cases made
        intro wrapper same
        exact ⟨plain, password, entropy, (Option.some.inj same).symm⟩

theorem saveFriend_sound (name : String) (update : FriendUpdate) (password : Bytes)
    (draws : Draws) :
    Sound P ((saveFriend P platform name update password draws).run session).2.db := by
  rw [saveFriend]
  cases secretMade : wrapColumn P password (draws.sharedSecret name)
      (nonemptyBytes update.sharedSecret) with
  | error raised => exact sound
  | ok secretColumn =>
      cases ecdhMade : wrapColumn P password (draws.ecdhPriv name) update.ecdhPrivBytes with
      | error raised => exact sound
      | ok ecdhColumn =>
          simp only [Call.run_lift_ok_bind, run_commit_bind]
          -- after the commit only attributes change
          apply sound_of_keeps
          · exact Call.keeps_bind (Call.keeps_lift _) fun _ =>
              Call.keeps_bind (Call.keeps_lift _) fun _ =>
              Call.keeps_bind (assign_keeps_db _) fun _ =>
              Call.keeps_bind (Call.keeps_lift _) fun _ => assign_keeps_db _
          · exact sound.replaceFriend name
              ⟨wrapColumn_wrapped secretMade, wrapColumn_wrapped ecdhMade⟩

theorem ensurePqcKeys_sound (password : Bytes) {keys : PqcBundle}
    (wellFormed : keys.WellFormed) (draws : Draws) :
    Sound P ((ensurePqcKeys P platform password keys draws).run session).2.db := by
  simp only [ensurePqcKeys, Call.run_read_bind]
  split
  · exact sound
  · split
    · exact sound
    · exact sound.setPqc wellFormed password draws

theorem ensurePqcKeysFull_sound (password : Bytes) {keys : PqcBundle}
    (wellFormed : keys.WellFormed) (draws : Draws) :
    Sound P ((ensurePqcKeysFull P platform password keys draws).run session).2.db := by
  simp only [ensurePqcKeysFull]
  split
  · exact sound
  · simp only [Call.run_read_bind]
    cases storedPqcBundle P password session with
    | error raised => exact sound
    | ok stored =>
        cases stored with
        | some bundle => exact sound
        | none =>
            have written := (sound.setPqc wellFormed password draws).setX25519 wellFormed.1
              password (draws.secret .pqcX25519PrivEncrypted) (by
                simp only [Database.setText, Database.setSecret, Function.update_self,
                  Option.isSome_some])
            exact written

theorem loadPqcBundle_sound (password : Bytes) :
    Sound P ((loadPqcBundle P password).run session).2.db := by
  simp only [loadPqcBundle, Call.run_read_bind]
  cases readPqcBundle P password session.db with
  | error raised => exact sound
  | ok found =>
      cases found with
      | none => exact sound
      | some bundle => exact sound

theorem generateHybridSigKeys_sound (password : Bytes) {keys : HybridKeys}
    (wellFormed : keys.WellFormed) (draws : Draws) :
    Sound P ((generateHybridSigKeys P password keys draws).run session).2.db :=
  runStatements_sound (hybridStatements_sound wellFormed) sound

omit sound in
theorem rotatedKeys_ok {password : Bytes} {priv : Priv} {draws : Draws} {db : Database Pem}
    {current renewed : Pem} (rotated : rotatedKeys P password priv draws db = .ok (current, renewed)) :
    db.keys .privateKeyEncrypted = some current ∧
      P.privkeyToEncryptedPem priv password (draws.key .privateKeyEncrypted) = .ok renewed := by
  unfold rotatedKeys at rotated
  split at rotated
  · cases rotated
  · rename_i wrapper stored
    obtain ⟨enc, -, rotated⟩ := ok_of_bind rotated
    obtain ⟨plain, -, rotated⟩ := ok_of_bind rotated
    split at rotated
    · cases rotated
    · rename_i pem present
      obtain ⟨made, made_ok, rotated⟩ := ok_of_bind rotated
      cases rotated
      exact ⟨present, made_ok⟩

theorem rotateRsaKey_sound (password : Bytes) (priv : Priv) (now : Rat) (draws : Draws) :
    Sound P ((rotateRsaKey P password priv now draws).run session).2.db := by
  suffices maintained : (rotateRsaKey P password priv now draws).Maintains
      (fun session : Session Priv Pub Pem => Sound P session.db) from maintained session sound
  apply Call.maintains_mapError
  apply Call.maintains_read_bind
  intro session sound
  cases rotated : rotatedKeys P password priv draws session.db with
  | error raised => exact sound
  | ok pair =>
      obtain ⟨current, renewed⟩ := pair
      obtain ⟨present, made⟩ := rotatedKeys_ok rotated
      obtain ⟨retired, password, salt, wrapped⟩ := sound.keys .privateKeyEncrypted current present
      simp only [Call.run_lift_ok_bind, run_commit_bind]
      apply sound_of_keeps
      · exact Call.keeps_bind (assign_keeps_db _) fun _ =>
          Call.keeps_bind (Call.keeps_lift _) fun _ => assign_keeps_db _
      · exact (((sound.setKey _ wrapped).withExpiry _).updatePublicKey _).updateKey _ made

theorem persistTotpSecret_sound (secret : Bytes) (password : Option Bytes) (draws : Draws) :
    Sound P ((persistTotpSecret P secret password draws).run session).2.db := by
  simp only [persistTotpSecret, Call.run_read_bind]
  split
  · exact sound
  · exact (sound.setSecret .totpSecretEncrypted _ _ _ trivial (by decide)).changeText _ _
      (by decide) (by decide) nofun

omit sound in
/-- The loop treats each row of the table once and leaves other names alone. -/
theorem rewrapFriends_ok {oldPassword newPassword : Bytes} {draws : Draws}
    {items : List (String × FriendRow)} (unique : (items.map Prod.fst).Nodup)
    {friends : Dict String FriendRow} {updates : Dict String Bytes}
    {result : Dict String FriendRow × Dict String Bytes}
    (rewrapped : rewrapFriends P oldPassword newPassword draws items friends updates =
      .ok result) :
    (∀ name, name ∉ items.map Prod.fst → result.1.get? name = friends.get? name) ∧
    (∀ name row, (name, row) ∈ items → ∃ after plain,
      rewrapFriend P oldPassword newPassword draws name row = .ok (after, plain) ∧
        result.1.get? name = some after) := by
  induction items generalizing friends updates with
  | nil =>
      cases rewrapped
      exact ⟨fun _ _ => rfl, fun _ _ absent => absurd absent List.not_mem_nil⟩
  | cons item rest ih =>
      obtain ⟨first, row⟩ := item
      obtain ⟨⟨after, plain⟩, first_ok, rest_ok⟩ := ok_of_bind rewrapped
      simp only [List.map_cons, List.nodup_cons] at unique
      obtain ⟨others, inside⟩ := ih unique.2 rest_ok
      constructor
      · intro name absent
        simp only [List.map_cons, List.mem_cons, not_or] at absent
        rw [others name absent.2, Dict.get?_set_of_ne _ _ absent.1]
      · intro name found member
        rcases List.mem_cons.mp member with same | later
        · cases same
          exact ⟨after, plain, first_ok, by rw [others _ unique.1, Dict.get?_set_self]⟩
        · exact inside name found later

omit sound in
theorem rewrap_ok {oldPassword newPassword : Bytes} {entropy : Entropy} {wrapper : Wrapper}
    {made : Bytes × Wrapper}
    (rewrapped : rewrap P oldPassword newPassword entropy wrapper = .ok made) :
    unwrap P wrapper oldPassword = .ok made.1 ∧
      made.2 = wrap P made.1 newPassword entropy := by
  obtain ⟨plain, opened, made_ok⟩ := ok_of_bind rewrapped
  cases made_ok
  exact ⟨opened, rfl⟩

omit sound in
theorem attempt_rewrap_wrapped {oldPassword newPassword : Bytes} {entropy : Entropy}
    {wrapper : Wrapper} {made : Option (Bytes × Wrapper)}
    (rewrapped : attempt (rewrap P oldPassword newPassword entropy wrapper) = .ok made)
    {column : Option Wrapper}
    (before : ∀ wrapper ∈ column, ∃ plain password entropy,
      wrapper = wrap P plain password entropy) :
    ∀ wrapper ∈ (made.map Prod.snd).or column, ∃ plain password entropy,
      wrapper = wrap P plain password entropy := by
  cases made with
  | none => exact before
  | some pair =>
      intro wrapper same
      rw [← Option.some.inj same]
      exact ⟨pair.1, newPassword, entropy, (rewrap_ok (attempt_eq_some_iff.mp rewrapped)).2⟩

omit sound in
theorem rewrapFriend_wrapped {oldPassword newPassword : Bytes} {draws : Draws} {name : String}
    {row after : FriendRow} {plain : Option Bytes} (wrapped : row.Wrapped P)
    (rewrapped : rewrapFriend P oldPassword newPassword draws name row = .ok (after, plain)) :
    after.Wrapped P := by
  unfold rewrapFriend at rewrapped
  split at rewrapped
  · cases rewrapped
    exact wrapped
  · obtain ⟨secret, secret_ok, rewrapped⟩ := ok_of_bind rewrapped
    obtain ⟨ecdhPriv, ecdh_ok, rewrapped⟩ := ok_of_bind rewrapped
    cases rewrapped
    refine ⟨attempt_rewrap_wrapped secret_ok wrapped.1, ?_⟩
    cases column : row.ecdhPrivEncrypted with
    | none =>
        rw [column] at ecdh_ok
        cases ecdh_ok
        exact fun _ absent => absurd absent (by simp)
    | some wrapper =>
        rw [column] at ecdh_ok
        rw [← column]
        exact attempt_rewrap_wrapped ecdh_ok wrapped.2

omit sound in
/-- Everything that `change_password` read before it wrote. -/
theorem rewrapSecrets_ok {oldPassword newPassword : Bytes} {draws : Draws} {db : Database Pem}
    {rewrapped : Rewrapped Priv Pem}
    (success : rewrapSecrets P oldPassword newPassword draws db = .ok rewrapped) :
    (∃ wrapper, db.secrets .globalSecret = some wrapper ∧
      attempt (unwrap P wrapper oldPassword) = .ok (some rewrapped.globalSecret)) ∧
    (∃ pem, db.keys .privateKeyEncrypted = some pem ∧
      P.pemToPrivkey pem oldPassword = .ok rewrapped.priv) ∧
    rewrapFriends P oldPassword newPassword draws db.friends.items db.friends .empty =
      .ok (rewrapped.friends, rewrapped.friendSecrets) ∧
    attemptColumn (db.secrets .totpSecretEncrypted) (unwrap P · oldPassword) =
      .ok rewrapped.totp ∧
    P.privkeyToEncryptedPem rewrapped.priv newPassword (draws.key .privateKeyEncrypted) =
      .ok rewrapped.pem := by
  unfold rewrapSecrets at success
  split at success
  · cases success
  · rename_i wrapper stored
    obtain ⟨enc, loaded, success⟩ := ok_of_bind success
    obtain ⟨plain, opened, success⟩ := ok_of_bind success
    split at success
    · cases success
    · rename_i pem present
      obtain ⟨priv, priv_ok, success⟩ := ok_of_bind success
      obtain ⟨⟨friends, friendSecrets⟩, friends_ok, success⟩ := ok_of_bind success
      obtain ⟨totp, totp_ok, success⟩ := ok_of_bind success
      obtain ⟨renewed, renewed_ok, success⟩ := ok_of_bind success
      cases success
      refine ⟨⟨wrapper, stored, ?_⟩, ⟨pem, present, ok_of_orKeyStoreError priv_ok⟩, friends_ok,
        totp_ok, renewed_ok⟩
      rw [attempt_eq_some_iff, unwrap, loaded]
      exact ok_of_orKeyStoreError opened

omit sound in
theorem rewriteTotp_sound (newPassword : Bytes) (draws : Draws) (totp : Option Bytes)
    {db : Database Pem} (sound : Sound P db) :
    Sound P (rewriteTotp P newPassword draws totp db) := by
  cases totp with
  | none => exact sound
  | some plain => exact sound.updateSecret _ _ newPassword _ trivial (by decide)

omit sound in
theorem rewriteRatchetKey_sound (newPassword : Bytes) (draws : Draws)
    (ratchetStorageKey : Option Bytes) {db : Database Pem} (sound : Sound P db) :
    Sound P (rewriteRatchetKey P newPassword draws ratchetStorageKey db) := by
  cases ratchetStorageKey with
  | none => exact sound
  | some plain => exact sound.setSecret _ _ newPassword _ trivial (by decide)

theorem changePassword_sound (oldPassword newPassword : Bytes) (draws : Draws) :
    Sound P ((changePassword P oldPassword newPassword draws).run session).2.db := by
  suffices maintained : (changePassword P oldPassword newPassword draws).Maintains
      (fun session : Session Priv Pub Pem => Sound P session.db) from maintained session sound
  apply Call.maintains_mapError
  apply Call.maintains_read_bind
  intro session sound
  cases success : rewrapSecrets P oldPassword newPassword draws session.db with
  | error raised => exact sound
  | ok rewrapped =>
      obtain ⟨-, -, friends_ok, -, made⟩ := rewrapSecrets_ok success
      obtain ⟨others, inside⟩ := rewrapFriends_ok session.db.friends.nodup friends_ok
      have wrapped : ∀ name, ∀ row ∈ rewrapped.friends.get? name, row.Wrapped P := by
        intro name row stored
        cases present : session.db.friends.get? name with
        | none =>
            have absent := (Dict.get?_eq_none_iff session.db.friends name).mp present
            have same := others name absent
            rw [present, stored] at same
            cases same
        | some before =>
            obtain ⟨after, plain, one_ok, found⟩ := inside name before (Dict.mem_of_get? present)
            rw [Option.mem_def, found] at stored
            cases stored
            exact rewrapFriend_wrapped (sound.friends name before present) one_ok
      exact rewriteRatchetKey_sound newPassword draws _ (rewriteTotp_sound newPassword draws _
        (((sound.withFriends wrapped).updateSecret .globalSecret _ newPassword _ trivial
          (by decide)).updateKey .privateKeyEncrypted made))

omit sound in
theorem resetHybridKeys_sound (platform : Platform) (password : Bytes) {draws : ResetDraws Priv}
    (wellFormed : ∀ step ∈ draws.hybrid, step.keys.WellFormed) {db : Database Pem}
    (sound : Sound P db) : Sound P (resetHybridKeys P platform password draws db) := by
  unfold resetHybridKeys
  split
  · rename_i step ran
    split
    · exact runStatements_sound (fun statement inside =>
        hybridStatements_sound (wellFormed step ran) statement (List.mem_of_mem_take inside)) sound
    · exact sound
  · exact sound

theorem resetKeys_sound (newPassword : Bytes) {draws : ResetDraws Priv}
    (wellFormed : ∀ step ∈ draws.hybrid, step.keys.WellFormed) :
    Sound P ((resetKeys P platform newPassword draws).run session).2.db := by
  rw [resetKeys]
  cases made : P.privkeyToEncryptedPem draws.priv newPassword
      (draws.wrappers.key .privateKeyEncrypted) with
  | error raised => exact sound
  | ok pem =>
      have hybrid := resetHybridKeys_sound platform newPassword wellFormed
        (((sound.updatePublicKey (P.publicKey draws.priv)).updateKey .privateKeyEncrypted
          made).deleteLegacyKey.updateSecret .globalSecret draws.globalSecret newPassword
            (draws.wrappers.secret .globalSecret) trivial (by decide))
      have friends := hybrid.mapFriends (fun _ => withoutFriendSecrets) fun _ _ _ =>
        ⟨fun _ absent => absurd absent (by simp [withoutFriendSecrets]),
          fun _ absent => absurd absent (by simp [withoutFriendSecrets])⟩
      have totp := ((friends.deleteSecret .totpSecretEncrypted (by decide)
        (by decide)).changeText .totpSetupComplete none (by decide) (by decide) nofun).changeText
          .totpEnabled none (by decide) (by decide) nofun
      have ratchet := ((totp.deleteSecret .duressVerifier (by decide) (by decide)).setSecret
        .ratchetStorageKey draws.ratchetKey newPassword
          (draws.wrappers.secret .ratchetStorageKey) trivial (by decide)).changeText
            .ratchetHkdfSalt none (by decide) (by decide) fun _ => rfl
      exact ratchet.mapFriends (fun _ row => { row with ratchetStateJson := none })
        fun _ _ wrapped => wrapped

end Operations

section Loading

/-- A view on the rows and on a part of the attributes. -/
def SeesOnly {κ τ : Type} (part : KeyStore Priv Pub → κ) (view : Session Priv Pub Pem → τ) : Prop :=
  ∀ session store, part store = part session.store →
    view { session with store := store } = view session

/-- A view on the rows and on the one attribute that only the last stage of a load assigns. -/
def Spared {τ : Type} (view : Session Priv Pub Pem → τ) : Prop :=
  ∀ session store, store.ratchetStorageKey = session.store.ratchetStorageKey →
    view { session with store := store } = view session

theorem spared_db : Spared (Session.db : Session Priv Pub Pem → Database Pem) := fun _ _ _ => rfl

section Frames

variable {κ τ : Type} {part : KeyStore Priv Pub → κ} {view : Session Priv Pub Pem → τ}

theorem SeesOnly.assign_keeps (sees : SeesOnly part view)
    {change : KeyStore Priv Pub → KeyStore Priv Pub}
    (apart : ∀ store, part (change store) = part store) :
    (assign change : StoreCall Priv Pub Pem Unit).Keeps view :=
  Call.keeps_modify fun session => sees session _ (apart session.store)

theorem loadPublicKey_keeps (sees : SeesOnly part view)
    (apart : ∀ store pub needsRotation, part { store with myPub := pub, needsRotation } =
      part store := by exact fun _ _ _ => rfl) :
    (loadPublicKey P : StoreCall Priv Pub Pem Unit).Keeps view :=
  Call.keeps_bind Call.keeps_read fun _ => Call.keeps_bind (Call.keeps_require _ _) fun _ =>
    Call.keeps_bind (Call.keeps_lift _) fun _ => sees.assign_keeps fun store => apart store _ _

theorem loadPrivateKey_keeps (sees : SeesOnly part view) (password : Bytes)
    (apart : ∀ store priv, part { store with myPriv := priv } = part store := by
      exact fun _ _ => rfl) :
    (loadPrivateKey P password : StoreCall Priv Pub Pem Bool).Keeps view := by
  refine Call.keeps_bind Call.keeps_read fun _ => Call.keeps_bind (Call.keeps_require _ _) fun _ =>
    Call.keeps_bind (Call.keeps_lift _) fun priv => ?_
  cases priv with
  | none => exact Call.keeps_pure _
  | some priv =>
      exact Call.keeps_bind (sees.assign_keeps fun store => apart store _) fun _ => Call.keeps_pure _

theorem loadLegacyKey_keeps (sees : SeesOnly part view)
    (rows : ∀ (session : Session Priv Pub Pem) db, view { session with db } = view session)
    (password : Bytes) (now : Rat)
    (apart : ∀ store legacy, part { store with legacyPriv := legacy } = part store := by
      exact fun _ _ => rfl) :
    (loadLegacyKey P password now : StoreCall Priv Pub Pem Unit).Keeps view := by
  refine Call.keeps_bind (sees.assign_keeps fun store => apart store _) fun _ =>
    Call.keeps_bind Call.keeps_read fun session => ?_
  split
  · exact Call.keeps_pure _
  · refine Call.keeps_ite (Call.keeps_bind (Call.keeps_lift _) fun priv => ?_)
      (Call.keeps_modify fun session => rows session _)
    cases priv with
    | none => exact Call.keeps_pure _
    | some priv => exact sees.assign_keeps fun store => apart store _

theorem loadGlobalSecret_keeps (sees : SeesOnly part view) (password : Bytes)
    (apart : ∀ store secret, part { store with globalSecret := secret } = part store := by
      exact fun _ _ => rfl) :
    (loadGlobalSecret P password : StoreCall Priv Pub Pem Bool).Keeps view := by
  refine Call.keeps_bind Call.keeps_read fun session => ?_
  split
  · exact Call.keeps_bind (sees.assign_keeps fun store => apart store _) fun _ => Call.keeps_pure _
  · refine Call.keeps_bind (Call.keeps_lift _) fun enc =>
      Call.keeps_bind (Call.keeps_lift _) fun plain => ?_
    cases plain with
    | none => exact Call.keeps_pure _
    | some plain =>
        exact Call.keeps_bind (sees.assign_keeps fun store => apart store _) fun _ => Call.keeps_pure _

theorem loadKyberKey_keeps (sees : SeesOnly part view) (password : Bytes)
    (apart : ∀ store kyber pub, part { store with myKyberPriv := kyber, myPqcCombinedPub := pub } =
      part store := by exact fun _ _ _ => rfl) :
    (loadKyberKey P password : StoreCall Priv Pub Pem Unit).Keeps view := by
  refine Call.keeps_bind (sees.assign_keeps fun store => apart store _ _) fun _ =>
    Call.keeps_bind Call.keeps_read fun _ => ?_
  split
  · exact Call.keeps_pure _
  · refine Call.keeps_bind (Call.keeps_lift _) fun plain => ?_
    cases plain with
    | none => exact Call.keeps_pure _
    | some plain => exact sees.assign_keeps fun store => apart store _ store.myPqcCombinedPub

theorem loadPqcCombinedPub_keeps (sees : SeesOnly part view)
    (apart : ∀ store pub, part { store with myPqcCombinedPub := pub } = part store := by
      exact fun _ _ => rfl) :
    (loadPqcCombinedPub : StoreCall Priv Pub Pem Unit).Keeps view := by
  refine Call.keeps_bind Call.keeps_read fun session => ?_
  split
  · exact Call.keeps_pure _
  · refine Call.keeps_ite (Call.keeps_bind (Call.keeps_lift _) fun pub => ?_) (Call.keeps_pure _)
    cases pub with
    | none => exact Call.keeps_pure _
    | some pub => exact sees.assign_keeps fun store => apart store _

theorem cachePqcBundle_keeps (sees : SeesOnly part view) (password : Bytes)
    (apart : ∀ store bundle, part { store with cachedPqcBundle := bundle } = part store := by
      exact fun _ _ => rfl) :
    (cachePqcBundle P password : StoreCall Priv Pub Pem Unit).Keeps view := by
  refine Call.keeps_bind (sees.assign_keeps fun store => apart store _) fun _ =>
    Call.keeps_bind Call.keeps_read fun _ => Call.keeps_ite ?_ (Call.keeps_pure _)
  split
  · exact Call.keeps_pure _
  · refine Call.keeps_bind (Call.keeps_lift _) fun priv => ?_
    cases priv with
    | none => exact Call.keeps_pure _
    | some priv => exact sees.assign_keeps fun store => apart store _

theorem loadHybridPrivateKeys_keeps (sees : SeesOnly part view) (password : Bytes)
    (apart : ∀ store ed dil, part { store with myEdPriv := ed, myDilPriv := dil } = part store := by
      exact fun _ _ _ => rfl) :
    (loadHybridPrivateKeys P password : StoreCall Priv Pub Pem Unit).Keeps view := by
  refine Call.keeps_bind Call.keeps_read fun _ => ?_
  split
  · refine Call.keeps_bind (Call.keeps_lift _) fun edPriv => ?_
    cases edPriv with
    | none => exact Call.keeps_pure _
    | some edPriv =>
        refine Call.keeps_bind (sees.assign_keeps fun store => apart store _ store.myDilPriv)
          fun _ => Call.keeps_bind (Call.keeps_lift _) fun dilPriv => ?_
        cases dilPriv with
        | none => exact Call.keeps_pure _
        | some dilPriv => exact sees.assign_keeps fun store => apart store store.myEdPriv _
  · exact Call.keeps_pure _

theorem loadHybridCombinedPub_keeps (sees : SeesOnly part view)
    (apart : ∀ store pub, part { store with myHybridSigCombinedPub := pub } = part store := by
      exact fun _ _ => rfl) :
    (loadHybridCombinedPub : StoreCall Priv Pub Pem Unit).Keeps view := by
  refine Call.keeps_bind Call.keeps_read fun _ => ?_
  split
  · exact Call.keeps_pure _
  · refine Call.keeps_bind (Call.keeps_lift _) fun pub => ?_
    cases pub with
    | none => exact Call.keeps_pure _
    | some pub => exact sees.assign_keeps fun store => apart store _

theorem loadHybridSigning_keeps (sees : SeesOnly part view) (password : Bytes)
    (apart : ∀ store ed dil pub, part { store with
      myEdPriv := ed, myDilPriv := dil, myHybridSigCombinedPub := pub } = part store := by
        exact fun _ _ _ _ => rfl) :
    (loadHybridSigning P platform password : StoreCall Priv Pub Pem Unit).Keeps view :=
  Call.keeps_bind (sees.assign_keeps fun store => apart store _ _ _) fun _ =>
    Call.keeps_ite (Call.keeps_bind (loadHybridPrivateKeys_keeps sees password
        fun store ed dil => apart store ed dil store.myHybridSigCombinedPub) fun _ =>
      loadHybridCombinedPub_keeps sees fun store pub =>
        apart store store.myEdPriv store.myDilPriv pub) (Call.keeps_pure _)

theorem loadFriendRows_keeps (sees : SeesOnly part view) (password : Bytes)
    (rows : List (String × FriendRow))
    (apart : ∀ store, part (withoutFriends store) = part store := by exact fun _ => rfl) :
    (loadFriendRows P platform password rows : StoreCall Priv Pub Pem Unit).Keeps view := by
  have keeps {change : KeyStore Priv Pub → KeyStore Priv Pub}
      (friendsOnly : ∀ store, withoutFriends (change store) = withoutFriends store) :
      (assign change : StoreCall Priv Pub Pem Unit).Keeps view :=
    sees.assign_keeps fun store => by rw [← apart (change store), friendsOnly, apart]
  induction rows with
  | nil => exact Call.keeps_pure _
  | cons item rest ih =>
      refine Call.keeps_bind ?_ fun _ => ih
      exact Call.keeps_bind (Call.keeps_lift _) fun _ => Call.keeps_bind (Call.keeps_lift _) fun _ =>
        Call.keeps_bind (keeps fun _ => rfl) fun _ => Call.keeps_bind (Call.keeps_lift _) fun _ =>
        Call.keeps_bind (keeps fun _ => rfl) fun _ => Call.keeps_bind (Call.keeps_lift _) fun _ =>
        Call.keeps_bind (keeps fun _ => rfl) fun _ => Call.keeps_bind (Call.keeps_lift _) fun _ =>
        keeps fun _ => rfl

theorem loadFriends_keeps (sees : SeesOnly part view) (password : Bytes)
    (apart : ∀ store, part (withoutFriends store) = part store := by exact fun _ => rfl) :
    (loadFriends P platform password : StoreCall Priv Pub Pem Unit).Keeps view :=
  Call.keeps_bind Call.keeps_read fun _ => Call.keeps_bind (sees.assign_keeps apart) fun _ =>
    loadFriendRows_keeps sees password _ apart

end Frames

variable (P) in
/-- What the two writes of a load do not harm: the rows of an expired legacy key are deleted, and a
ratchet storage key is made where none is stored. -/
structure SurvivesLoad (property : Database Pem → Prop) : Prop where
  deleteLegacyKey : ∀ db, property db → property db.deleteLegacyKey
  newRatchetStorageKey : ∀ password draws db after, property db →
    newRatchetStorageKey P password draws db = .ok after → property after

section Survives

variable {property : Database Pem → Prop}

theorem loadLegacyKey_maintains (survives : ∀ db, property db → property db.deleteLegacyKey)
    (password : Bytes) (now : Rat) :
    (loadLegacyKey P password now).Maintains
      fun session : Session Priv Pub Pem => property session.db := by
  refine Call.maintains_bind ((assign_keeps_db _).maintains property) fun _ =>
    Call.maintains_read_bind fun session holds => ?_
  split
  · exact holds
  · rw [Call.run_ite]
    split
    · refine Call.Keeps.maintains ?_ property session holds
      refine Call.keeps_bind (Call.keeps_lift _) fun priv => ?_
      cases priv with
      | none => exact Call.keeps_pure _
      | some priv => exact assign_keeps_db _
    · exact survives session.db holds

theorem loadKeys_maintains (survives : ∀ db, property db → property db.deleteLegacyKey)
    (password : Bytes) (now : Rat) :
    (loadKeys P platform password now).Maintains
      fun session : Session Priv Pub Pem => property session.db := by
  refine Call.maintains_bind ((loadPublicKey_keeps spared_db).maintains property) fun _ =>
    Call.maintains_bind ((loadPrivateKey_keeps spared_db password).maintains property) fun _ =>
    Call.maintains_ite (Call.maintains_bind (loadLegacyKey_maintains survives password now) fun _ =>
      Call.maintains_bind ((loadGlobalSecret_keeps spared_db password).maintains property) fun _ =>
      Call.maintains_ite ?_ ((Call.keeps_pure _).maintains property))
      ((Call.keeps_pure _).maintains property)
  exact (Call.keeps_bind (loadKyberKey_keeps spared_db password) fun _ =>
    Call.keeps_bind (loadPqcCombinedPub_keeps spared_db) fun _ =>
    Call.keeps_bind (cachePqcBundle_keeps spared_db password) fun _ =>
    Call.keeps_bind (loadHybridSigning_keeps spared_db password) fun _ =>
    Call.keeps_bind (loadFriends_keeps spared_db password) fun _ => Call.keeps_pure _).maintains property

theorem loadRatchetStorageKey_maintains
    (survives : ∀ password draws db after, property db →
      newRatchetStorageKey P password draws db = .ok after → property after)
    (password : Bytes) (draws : LoadDraws) :
    (loadRatchetStorageKey P password draws).Maintains
      fun session : Session Priv Pub Pem => property session.db := by
  refine Call.maintains_read_bind fun session holds => ?_
  split
  · refine Call.Keeps.maintains ?_ property session holds
    refine Call.keeps_bind (Call.keeps_lift _) fun key => ?_
    cases key with
    | some key => exact Call.keeps_pure _
    | none => exact Call.keeps_bind (assign_keeps_db _) fun _ => Call.keeps_pure _
  · cases made : attempt (newRatchetStorageKey P password draws session.db) with
    | error raised => exact holds
    | ok result =>
        cases result with
        | none => exact holds
        | some after =>
            exact survives password draws session.db after holds
              (attempt_eq_some_iff.mp made)

theorem load_maintains_of (survives : SurvivesLoad P property) (password : Bytes) (now : Rat)
    (draws : LoadDraws) :
    (load P platform password now draws).Maintains
      fun session : Session Priv Pub Pem => property session.db := by
  refine Call.maintains_bind (Call.maintains_mapError _
    (loadKeys_maintains survives.deleteLegacyKey password now))
    fun _ => Call.maintains_ite (Call.maintains_bind
      (loadRatchetStorageKey_maintains survives.newRatchetStorageKey password draws) fun key => ?_)
      ((Call.keeps_pure _).maintains property)
  cases key with
  | none => exact (Call.keeps_pure _).maintains property
  | some key =>
      exact (Call.keeps_bind (assign_keeps_db _) fun _ => Call.keeps_pure _).maintains property

end Survives

theorem newRatchetStorageKey_unsalted {db : Database Pem} (unsalted : db.texts .ratchetHkdfSalt = none)
    (password : Bytes) (draws : LoadDraws) :
    newRatchetStorageKey P password draws db = .ok ((db.setSecret .ratchetStorageKey
      (wrap P draws.ratchetKey password draws.ratchetKeyEntropy)).deleteText .ratchetHkdfSalt) := by
  rw [newRatchetStorageKey, migratedRows, unsalted]
  rfl

/-- Of the settings, making a ratchet storage key writes its own row and deletes the legacy salt. -/
theorem newRatchetStorageKey_settings {password : Bytes} {draws : LoadDraws}
    {db after : Database Pem} (made : newRatchetStorageKey P password draws db = .ok after) :
    (∀ key, key ≠ .ratchetStorageKey → after.secrets key = db.secrets key) ∧
      after.keys = db.keys ∧
      (∀ key, key ≠ .ratchetHkdfSalt → after.texts key = db.texts key) ∧
      after.legacyKeyExpiry = db.legacyKeyExpiry := by
  obtain ⟨migrated, moved, made⟩ := ok_of_bind made
  have settings : migrated.secrets = db.secrets ∧ migrated.keys = db.keys ∧
      migrated.texts = db.texts ∧ migrated.legacyKeyExpiry = db.legacyKeyExpiry := by
    unfold migratedRows at moved
    split at moved
    · cases moved
      exact ⟨rfl, rfl, rfl, rfl⟩
    · obtain ⟨salt, _, moved⟩ := ok_of_bind moved
      cases moved
      exact ⟨rfl, rfl, rfl, rfl⟩
  cases made
  obtain ⟨secrets, keys, texts, expiry⟩ := settings
  refine ⟨fun key apart => ?_, keys, fun key apart => ?_, expiry⟩
  · rw [← secrets]
    exact Function.update_of_ne apart _ _
  · rw [← texts]
    exact Function.update_of_ne apart _ _

theorem newRatchetStorageKey_sound {password : Bytes} {draws : LoadDraws} {db after : Database Pem}
    (sound : Sound P db) (made : newRatchetStorageKey P password draws db = .ok after) :
    Sound P after := by
  obtain ⟨migrated, migrated_ok, made⟩ := ok_of_bind made
  have migrated_sound : Sound P migrated := by
    unfold migratedRows at migrated_ok
    split at migrated_ok
    · cases migrated_ok
      exact sound
    · obtain ⟨salt, -, migrated_ok⟩ := ok_of_bind migrated_ok
      cases migrated_ok
      exact sound.mapFriends _ fun _ _ wrapped => wrapped
  cases made
  exact (migrated_sound.setSecret .ratchetStorageKey _ password _ trivial (by decide)).changeText _ _
    (by decide) (by decide) fun _ => rfl

theorem load_maintains (password : Bytes) (now : Rat) (draws : LoadDraws) :
    (load P platform password now draws).Maintains
      fun session : Session Priv Pub Pem => Sound P session.db :=
  load_maintains_of
    ⟨fun _ sound => sound.deleteLegacyKey, fun _ _ _ _ sound made => newRatchetStorageKey_sound sound made⟩
    password now draws

end Loading

/-- The first keys are enough for a sound database. -/
theorem firstKeys_sound {pem : Pem} {priv : Priv} {password salt : Bytes}
    (made : P.privkeyToEncryptedPem priv password salt = .ok pem) (pub : Pub)
    (globalSecret : Bytes) (entropy : Entropy) :
    Sound P (((Database.empty.setText .publicKey (P.pubkeyToPem pub)).setKey
      .privateKeyEncrypted pem).setSecret .globalSecret
      (wrap P globalSecret password entropy)) := by
  refine ⟨?_, ?_, ?_, ⟨pub, rfl⟩, rfl, rfl, (nomatch ·), (nomatch ·), rfl⟩
  · intro key wrapper stored
    simp only [Database.setSecret, Database.setKey, Database.setText, Database.empty,
      Function.update_apply, Option.mem_def] at stored
    split at stored
    · rename_i same
      subst same
      exact ⟨_, _, _, trivial, (Option.some.inj stored).symm⟩
    · cases stored
  · intro key found stored
    simp only [Database.setSecret, Database.setKey, Database.setText, Database.empty,
      Function.update_apply, Option.mem_def] at stored
    split at stored
    · exact ⟨priv, password, salt, made.trans (congrArg Except.ok (Option.some.inj stored))⟩
    · cases stored
  · exact fun _ _ absent => nomatch absent

/-- The database that `init_db` makes. -/
theorem start_sound {session : Session Priv Pub Pem} (initial : (machine P platform).start session) :
    Sound P session.db := by
  obtain ⟨password, priv, globalSecret, draws, hybrid, wellFormed, made⟩ := initial
  obtain ⟨newKeys, first, first_ok, rest_ok⟩ := Call.ok_of_run_bind made
  have first_sound : Sound P first.db := by
    simp only [insertFirstKeys, Call.run_read_bind, Database.empty] at first_ok
    cases pem_made : P.privkeyToEncryptedPem priv password (draws.key .privateKeyEncrypted) with
    | error raised =>
        rw [pem_made] at first_ok
        cases first_ok
    | ok pem =>
        rw [pem_made] at first_ok
        cases first_ok
        exact firstKeys_sound pem_made _ globalSecret _
  obtain ⟨_, second, second_ok, rest_ok⟩ := Call.ok_of_run_bind rest_ok
  cases rest_ok
  have second_sound : Sound P
      ((insertHybridKeys P platform password draws hybrid).run first).2.db :=
    insertHybridKeys_sound first_sound password draws wellFormed
  rw [second_ok] at second_sound
  exact second_sound

/-- One operation, whether it returns or raises. -/
theorem perform_sound {session : Session Priv Pub Pem} (sound : Sound P session.db)
    {operation : Operation Priv} (generates : operation.Generates) :
    Sound P (operation.perform P platform session).db := by
  cases operation with
  | restart => exact sound
  | wipe => exact sound
  | initDb password priv globalSecret draws hybrid =>
      exact initDb_sound sound password priv globalSecret draws generates
  | load password now draws => exact load_maintains password now draws session sound
  | saveFriend name update password draws => exact saveFriend_sound sound name update password draws
  | removeFriend name => exact sound.deleteFriend name
  | updateGlobalSecret newSecret password draws =>
      exact updateGlobalSecret_sound sound newSecret password draws
  | setDuressPassword password dummySecret decoy draws =>
      exact setDuressPassword_sound sound password dummySecret decoy draws
  | loadDuressDecoy password generated fakeSecret draws =>
      exact loadDuressDecoy_sound sound password generated fakeSecret draws
  | ensurePqcKeys password keys draws => exact ensurePqcKeys_sound sound password generates draws
  | ensurePqcKeysFull password keys draws =>
      exact ensurePqcKeysFull_sound sound password generates draws
  | loadPqcBundle password => exact loadPqcBundle_sound sound password
  | generateHybridSigKeys password keys draws =>
      exact generateHybridSigKeys_sound sound password generates draws
  | rotateRsaKey password priv now draws => exact rotateRsaKey_sound sound password priv now draws
  | persistTotpSecret secret password draws =>
      exact persistTotpSecret_sound sound secret password draws
  | changePassword oldPassword newPassword draws =>
      exact changePassword_sound sound oldPassword newPassword draws
  | resetWithRecoveryKey newPassword draws =>
      exact resetKeys_sound sound newPassword generates

/-- Every database that the operations can leave is sound. -/
theorem reachable_sound {allowed : Session Priv Pub Pem → Operation Priv → Prop}
    {session : Session Priv Pub Pem} (reachable : (machine P platform).Reachable allowed session) :
    Sound P session.db :=
  Machine.Reachable.invariant (machine P platform) (fun session => Sound P session.db)
    (fun _ initial => start_sound initial)
    (fun _ _ _ sound generates _ => perform_sound sound generates) reachable

end Runs

end KeyStore

end UltimateEnigma
