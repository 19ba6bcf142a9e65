import UltimateEnigma.BackupImport
import UltimateEnigma.KeyStoreRuns
import UltimateEnigma.TrustChain

set_option autoImplicit false

namespace UltimateEnigma

open Py

namespace KeyStore

section Locked

variable {Priv Pub Pem : Type} {P : Primitives Priv Pub Pem} {platform : Platform}

def Session.ratchetKey (session : Session Priv Pub Pem) : Option Bytes :=
  session.store.ratchetStorageKey

theorem spared_ratchetKey : Spared (Session.ratchetKey : Session Priv Pub Pem → Option Bytes) :=
  fun _ _ same => same

theorem loadKeys_keeps_ratchetKey (password : Bytes) (now : Rat) :
    (loadKeys P platform password now).Keeps
      (Session.ratchetKey : Session Priv Pub Pem → Option Bytes) := by
  have spared : Spared (Session.ratchetKey : Session Priv Pub Pem → Option Bytes) :=
    spared_ratchetKey
  refine Call.keeps_bind (loadPublicKey_keeps spared) fun _ =>
    Call.keeps_bind (loadPrivateKey_keeps spared password) fun _ =>
    Call.keeps_ite ?_ (Call.keeps_pure _)
  refine Call.keeps_bind (loadLegacyKey_keeps spared (fun _ _ => rfl) password now) fun _ =>
    Call.keeps_bind (loadGlobalSecret_keeps spared password) fun _ =>
    Call.keeps_ite ?_ (Call.keeps_pure _)
  exact Call.keeps_bind (loadKyberKey_keeps spared password) fun _ =>
    Call.keeps_bind (loadPqcCombinedPub_keeps spared) fun _ =>
    Call.keeps_bind (cachePqcBundle_keeps spared password) fun _ =>
    Call.keeps_bind (loadHybridSigning_keeps spared password) fun _ =>
    Call.keeps_bind (loadFriends_keeps spared password) fun _ => Call.keeps_pure _

/-- The stage that finds the ratchet storage key does not assign it, and wipes it when it fails. -/
theorem loadRatchetStorageKey_locked (password : Bytes) (draws : LoadDraws) :
    (loadRatchetStorageKey P password draws).Maintains
      fun session : Session Priv Pub Pem => session.ratchetKey = none := by
  refine Call.maintains_read_bind fun session locked => ?_
  split
  · cases attempt (unwrap P _ password) with
    | error raised => exact locked
    | ok opened =>
        cases opened with
        | some key => exact locked
        | none => rfl
  · cases attempt (newRatchetStorageKey P password draws session.db) with
    | error raised => exact locked
    | ok made =>
        cases made with
        | some db => exact locked
        | none => rfl

/-- Only a load that returns `True` unlocks the ratchets. -/
theorem locked_of_failed_load {password : Bytes} {now : Rat} {draws : LoadDraws}
    {session : Session Priv Pub Pem} (locked : session.ratchetKey = none)
    (failed : ((load P platform password now draws).run session).1 ≠ .ok true) :
    ((load P platform password now draws).run session).2.ratchetKey = none := by
  have kept : (loadKeys P platform password now).Keeps Session.ratchetKey :=
    loadKeys_keeps_ratchetKey password now
  have keys := Call.keeps_mapError (asKeyStoreError "Key loading failed: ") kept session
  unfold load at failed ⊢
  cases loaded : (Call.mapError (asKeyStoreError "Key loading failed: ")
    (loadKeys P platform password now)).run session with
  | mk outcome middle =>
      rw [loaded] at keys
      have middle_locked : middle.ratchetKey = none := keys.trans locked
      cases outcome with
      | error raised =>
          rw [Call.run_bind_of_error loaded]
          exact middle_locked
      | ok went =>
          rw [Call.run_bind_of_ok loaded] at failed ⊢
          cases went with
          | false => exact middle_locked
          | true =>
              have left := loadRatchetStorageKey_locked (P := P) password draws middle middle_locked
              rw [if_pos rfl] at failed ⊢
              cases ran : (loadRatchetStorageKey P password draws).run middle with
              | mk outcome last =>
                  rw [ran] at left
                  cases outcome with
                  | error raised =>
                      rw [Call.run_bind_of_error ran]
                      exact left
                  | ok key =>
                      rw [Call.run_bind_of_ok ran] at failed ⊢
                      cases key with
                      | none => exact left
                      | some key => exact absurd rfl failed

end Locked

end KeyStore

namespace BackupService

open KeyStore (Database LoadDraws load)

section Failures

variable {Priv Pub Pem : Type} (L : Libraries Priv Pub Pem) (data : Json) (password : Bytes)
variable (connection : Except TrustChain.Raised Unit) (now : Rat) (draws : LoadDraws)
variable (installation : Installation Priv Pub Pem)

/-- An import that raises has changed nothing, in memory or in the database. -/
def FailureChangesNothing : Prop :=
  ∀ raised after, (importBackup L data password connection now draws).run installation =
    (.error raised, after) → after = installation

/-- One of the checks in front of `wipe` refuses the data. -/
def Refused : Prop := ∃ raised, checkedBackup L data password = .error raised

/-- The restored rows under a wiped store, as the reload finds them. -/
def restoredInstallation (rows : RestoredRows) : Installation Priv Pub Pem :=
  installation.wipe.commit L rows

/-- What `load` makes of the restored rows. -/
def reloadRun (rows : RestoredRows) :
    Except KeyStore.Raised Bool × KeyStore.Session Priv Pub Pem :=
  (load L.keyStore L.platform password now draws).run
    (restoredInstallation L installation rows).session

/-- The database opens, takes every row, and the rows load. -/
def Restores : Prop :=
  ∃ backup rows, checkedBackup L data password = .ok backup ∧ connection = .ok () ∧
    restoredRows L backup = .ok rows ∧
    (reloadRun L password now draws installation rows).1 = .ok true

/-- The store is already wiped where the rows cannot be written, or store and rows are already those
that the failed reload leaves. -/
def NothingToSpoil : Prop :=
  ∃ backup, checkedBackup L data password = .ok backup ∧
    ((∃ cause, (connection >>= fun _ => restoredRows L backup) = .error cause) ∧
        installation.wipe = installation ∨
      ∃ rows, connection = .ok () ∧ restoredRows L backup = .ok rows ∧
        (reloadRun L password now draws installation rows).1 ≠ .ok true ∧
        (⟨(reloadRun L password now draws installation rows).2, rows.otherSettings⟩ :
          Installation Priv Pub Pem) = installation)

variable {L data password connection now draws installation}

theorem changesNothing_of_error {raised : ImportError} {after : Installation Priv Pub Pem}
    (ran : (importBackup L data password connection now draws).run installation =
      (.error raised, after)) :
    FailureChangesNothing L data password connection now draws installation ↔
      after = installation := by
  constructor
  · intro nothing
    exact nothing raised after ran
  · intro same other left otherRan
    rw [ran] at otherRan
    cases otherRan
    exact same

/-- A reload that returns `False` raises as one that raises does. -/
theorem importBackup_unloaded {backup : Backup} {rows : RestoredRows}
    (checked : checkedBackup L data password = .ok backup)
    (restored : restoredRows L backup = .ok rows)
    (failed : (reloadRun L password now draws installation rows).1 ≠ .ok true) :
    ∃ raised, (importBackup L data password (.ok ()) now draws).run installation =
      (.error raised,
        ⟨(reloadRun L password now draws installation rows).2, rows.otherSettings⟩) := by
  have ran := onKeyStore_run (load L.keyStore L.platform password now draws)
    (installation.wipe.commit L rows)
  change _ = ((reloadRun L password now draws installation rows).1.mapError ImportError.keyStore,
    (⟨(reloadRun L password now draws installation rows).2, rows.otherSettings⟩ :
      Installation Priv Pub Pem)) at ran
  rw [importBackup_restored checked restored]
  cases outcome : (reloadRun L password now draws installation rows).1 with
  | error raised =>
      rw [outcome] at ran
      exact ⟨_, Call.run_bind_of_error ran _⟩
  | ok loaded =>
      rw [outcome] at ran failed
      cases loaded with
      | true => exact absurd rfl failed
      | false => exact ⟨_, Call.run_bind_of_ok ran _⟩

theorem importBackup_loaded {backup : Backup} {rows : RestoredRows}
    (checked : checkedBackup L data password = .ok backup)
    (restored : restoredRows L backup = .ok rows)
    (loaded : (reloadRun L password now draws installation rows).1 = .ok true) :
    (importBackup L data password (.ok ()) now draws).run installation =
      (.ok (), ⟨(reloadRun L password now draws installation rows).2, rows.otherSettings⟩) := by
  have ran := onKeyStore_run (load L.keyStore L.platform password now draws)
    (installation.wipe.commit L rows)
  change _ = ((reloadRun L password now draws installation rows).1.mapError ImportError.keyStore,
    (⟨(reloadRun L password now draws installation rows).2, rows.otherSettings⟩ :
      Installation Priv Pub Pem)) at ran
  rw [loaded] at ran
  rw [importBackup_restored checked restored, Call.run_bind_of_ok ran]
  rfl

/-- The rows that were not written, for either reason. -/
theorem importBackup_unwritten {backup : Backup} {cause : TrustChain.Raised}
    (checked : checkedBackup L data password = .ok backup)
    (failed : (connection >>= fun _ => restoredRows L backup) = .error cause) :
    ∃ raised, (importBackup L data password connection now draws).run installation =
      (.error raised, installation.wipe) := by
  cases connection with
  | error refused => exact ⟨_, importBackup_unopened checked⟩
  | ok _ => exact ⟨_, importBackup_unrestored checked failed⟩

theorem changesNothing_iff :
    FailureChangesNothing L data password connection now draws installation ↔
      Refused L data password ∨ Restores L data password connection now draws installation ∨
        NothingToSpoil L data password connection now draws installation := by
  cases checked : checkedBackup L data password with
  | error raised =>
      rw [changesNothing_of_error (importBackup_refused checked)]
      exact ⟨fun _ => .inl ⟨raised, checked⟩, fun _ => rfl⟩
  | ok backup =>
      have unrefused : ¬ Refused L data password := by
        rintro ⟨raised, refused⟩
        rw [checked] at refused
        cases refused
      cases written : (connection >>= fun _ => restoredRows L backup) with
      | error cause =>
          obtain ⟨raised, ran⟩ := importBackup_unwritten checked written
          rw [changesNothing_of_error ran]
          constructor
          · intro same
            exact .inr (.inr ⟨backup, checked, .inl ⟨⟨cause, written⟩, same⟩⟩)
          · rintro (refused | ⟨other, rows, again, opened, restored, -⟩ |
              ⟨other, again, ⟨-, same⟩ | ⟨rows, opened, restored, -⟩⟩)
            · exact absurd refused unrefused
            · rw [checked] at again
              cases again
              rw [opened, ok_bind, restored] at written
              cases written
            · exact same
            · rw [checked] at again
              cases again
              rw [opened, ok_bind, restored] at written
              cases written
      | ok rows =>
          obtain ⟨_, opened, restored⟩ := ok_of_bind written
          cases opened
          by_cases loaded : (reloadRun L password now draws installation rows).1 = .ok true
          · have returns := importBackup_loaded checked restored loaded
            refine ⟨fun _ => .inr (.inl ⟨backup, rows, checked, rfl, restored, loaded⟩), ?_⟩
            intro _ raised after ran
            rw [ran] at returns
            cases returns
          · obtain ⟨raised, ran⟩ := importBackup_unloaded checked restored loaded
            rw [changesNothing_of_error ran]
            constructor
            · intro same
              exact .inr (.inr ⟨backup, checked, .inr ⟨rows, rfl, restored, loaded, same⟩⟩)
            · rintro (refused | ⟨other, others, again, -, same, loads⟩ |
                ⟨other, again, ⟨⟨cause, failed⟩, -⟩ | ⟨others, -, same, -, left⟩⟩)
              · exact absurd refused unrefused
              · rw [checked] at again
                cases again
                rw [restored] at same
                cases same
                exact absurd loads loaded
              · rw [checked] at again
                cases again
                rw [written] at failed
                cases failed
              · rw [checked] at again
                cases again
                rw [restored] at same
                cases same
                exact left

/-- An unlocked store always has something to spoil. -/
theorem not_nothingToSpoil (unlocked : installation.session.ratchetKey ≠ none) :
    ¬ NothingToSpoil L data password connection now draws installation := by
  rintro ⟨backup, -, ⟨-, same⟩ | ⟨rows, -, -, failed, same⟩⟩
  · apply unlocked
    rw [← same]
    rfl
  · apply unlocked
    rw [← same]
    exact KeyStore.locked_of_failed_load rfl failed

/-- A failing import changes nothing exactly when a check refuses the data before the store is
wiped, when it does not fail, or when nothing is left to spoil, which an unlocked store rules out. -/
theorem failing_import_changes_nothing_iff (L : Libraries Priv Pub Pem) (data : Json)
    (password : Bytes) (connection : Except TrustChain.Raised Unit) (now : Rat) (draws : LoadDraws)
    (installation : Installation Priv Pub Pem) :
    (FailureChangesNothing L data password connection now draws installation ↔
      Refused L data password ∨ Restores L data password connection now draws installation ∨
        NothingToSpoil L data password connection now draws installation) ∧
    (installation.session.store.ratchetStorageKey ≠ none →
      (FailureChangesNothing L data password connection now draws installation ↔
        Refused L data password ∨ Restores L data password connection now draws installation)) := by
  refine ⟨changesNothing_iff, fun unlocked => ?_⟩
  rw [changesNothing_iff]
  constructor
  · rintro (refused | restores | nothing)
    · exact .inl refused
    · exact .inr restores
    · exact absurd nothing (not_nothingToSpoil unlocked)
  · rintro (refused | restores)
    · exact .inl refused
    · exact .inr (.inl restores)

end Failures

section Toy

open KeyStore (toyEntropy toyLibraries wrap)

/-- Libraries small enough to run: the tag of a backup is the password it was made with. -/
def toyBackupLibraries : Libraries String String (String × Bytes) where
  keyStore := toyLibraries
  platform := ⟨false, false⟩
  conversions := TrustChain.toyConversions
  canonicalJson _ := []
  deriveHmacKey password := password
  hexdigest key _ := b64encode key
  readWrapper _ := .malformed
  readPem text := (text, [1])
  readExpiry _ := none
  integerTruth text := text != ""

/-- A backup with a correct tag, whose one friend has no name. -/
def namelessFriend : Json :=
  .dict [("version", .int 1), ("exported_at", .int 0),
    ("settings", .dict [("public_key", .str "alice"), ("private_key_encrypted", .str "alice"),
      ("global_secret", .str "secret")]),
    ("friends", .list [.dict [("public_key_pem", .str "bob"), ("has_shared_secret", .int 0)]]),
    ("hmac", .str "AQ==")]

def unlockedInstallation : Installation String String (String × Bytes) where
  session :=
    { store :=
        { myPub := some "alice"
          myPriv := some "alice"
          globalSecret := some [2]
          ratchetStorageKey := some [3] }
      db := (((Database.empty.setText .publicKey "alice").setKey .privateKeyEncrypted
        ("alice", [1])).setSecret .globalSecret (wrap toyLibraries [2] [1] (toyEntropy 0 0))).setSecret
          .ratchetStorageKey (wrap toyLibraries [3] [1] (toyEntropy 0 0)) }
  otherSettings _ := none

def toyDraws : LoadDraws := ⟨[5], toyEntropy 0 0, fun _ => []⟩

theorem failing_import_changes_nothing_iff_unlocked :
    unlockedInstallation.session.store.ratchetStorageKey ≠ none ∧
      (FailureChangesNothing toyBackupLibraries namelessFriend [1] (.ok ()) 0 toyDraws
          unlockedInstallation ↔
        Refused toyBackupLibraries namelessFriend [1] ∨
          Restores toyBackupLibraries namelessFriend [1] (.ok ()) 0 toyDraws
            unlockedInstallation) := by
  have unlocked : unlockedInstallation.session.store.ratchetStorageKey ≠ none := nofun
  exact ⟨unlocked, (failing_import_changes_nothing_iff toyBackupLibraries namelessFriend [1] (.ok ())
    0 toyDraws unlockedInstallation).2 unlocked⟩

/-- The keys in memory are gone after an import of it has failed. -/
theorem nameless_friend_wipes_keys :
    ¬ FailureChangesNothing toyBackupLibraries namelessFriend [1] (.ok ()) 0 toyDraws
      unlockedInstallation := by
  intro nothing
  have checked : checkedBackup toyBackupLibraries namelessFriend [1] = .ok
      { version := .int 1
        exportedAt := .int 0
        settings := [("public_key", .str "alice"), ("private_key_encrypted", .str "alice"),
          ("global_secret", .str "secret")]
        friends := [.dict [("public_key_pem", .str "bob"), ("has_shared_secret", .int 0)]]
        hmac := .str "AQ==" } := rfl
  have same := nothing _ _ (importBackup_unrestored checked rfl)
  have key := congrArg (fun installation => installation.session.store.ratchetStorageKey) same
  cases key

end Toy

end BackupService

end UltimateEnigma
