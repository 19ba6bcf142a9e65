import UltimateEnigma.AtomicChange

set_option autoImplicit false

namespace Py.Dict

variable {κ ν τ υ : Type}

theorem mapValues_congr [DecidableEq κ] {dict : Dict κ ν} {first second : κ → ν → τ}
    (same : ∀ key value, dict.get? key = some value → first key value = second key value) :
    dict.mapValues first = dict.mapValues second := by
  apply ext_items
  apply List.map_congr_left
  intro item member
  exact congrArg (Prod.mk item.1) (same _ _ (dict.get?_of_mem member))

theorem mapValues_mapValues (dict : Dict κ ν) (first : κ → ν → τ) (second : κ → τ → υ) :
    (dict.mapValues first).mapValues second =
      dict.mapValues fun key value => second key (first key value) := by
  apply ext_items
  simp only [mapValues, List.map_map, Function.comp_def]

theorem mapValues_self (dict : Dict κ ν) : dict.mapValues (fun _ value => value) = dict := by
  apply ext_items
  simp only [mapValues, Prod.mk.eta, List.map_id']

end Py.Dict

namespace UltimateEnigma.KeyStore

open Py

open Stepwise (updateFriend)

/-- The count that is returned, and the rows as the connection sees them before it commits. -/
structure Migration (Pem : Type) where
  migrated : Nat
  db : Database Pem

abbrev MigrationCall (Pem α : Type) : Type := Call Raised (Migration Pem) α

section Operations

variable {Priv Pub Pem : Type} (P : Primitives Priv Pub Pem) (password : Bytes) (draws : Draws)

/-- `if enc_dict.get("kdf") != "argon2id": …`: decrypted, encrypted, written back, counted. -/
def migrateEntry (entropy : Entropy) (write : Wrapper → Database Pem → Database Pem) :
    EncValue → MigrationCall Pem Unit
  | .other => Call.raise .attributeError
  | .dict enc =>
      if enc.kdf = some (.text "argon2id") then return ()
      else do
        let plain ← Call.lift (decryptSecret P (.dict enc) password)
        Call.modify fun state =>
          ⟨state.migrated + 1, write (wrap P plain password entropy) state.db⟩

def migrateGlobalSecret : MigrationCall Pem Unit := do
  let state ← Call.read
  match state.db.secrets .globalSecret with
  | none => return ()
  | some wrapper => do
      let enc ← Call.lift (jsonLoads wrapper)
      migrateEntry P password (draws.secret .globalSecret)
        (fun wrapped db => db.updateSecret .globalSecret wrapped) enc

def setSharedSecret (name : String) (wrapped : Wrapper) : Database Pem → Database Pem :=
  updateFriend name fun row => { row with sharedSecretEncrypted := some wrapped }

def setEcdhPriv (name : String) (wrapped : Wrapper) : Database Pem → Database Pem :=
  updateFriend name fun row => { row with ecdhPrivEncrypted := some wrapped }

/-- What the query fetches of a row. An empty text is as no text here, which is why a column that
is not NULL is not tested once more. -/
structure FetchedRow where
  name : String
  secJson : Wrapper
  ecdhJson : Option Wrapper

/-- One pass of the loop. The JSON of the shared secret is parsed outside of its `try`, and a
value without `get` raises what neither handler names. -/
def migrateFriend (fetched : FetchedRow) : MigrationCall Pem Unit := do
  let enc ← Call.lift (jsonLoads fetched.secJson)
  let _ ← Call.tryExcept Raised.isValueOrType
    (migrateEntry P password (draws.sharedSecret fetched.name) (setSharedSecret fetched.name) enc)
  match fetched.ecdhJson with
  | none => return ()
  | some wrapper => do
      let _ ← Call.tryExcept Raised.isValueOrType do
        let enc ← Call.lift (jsonLoads wrapper)
        migrateEntry P password (draws.ecdhPriv fetched.name) (setEcdhPriv fetched.name) enc
      return ()

def migrateFriends : List FetchedRow → MigrationCall Pem Unit
  | [] => return ()
  | fetched :: rest => do
      migrateFriend P password draws fetched
      migrateFriends rest

/-- `SELECT … FROM friends WHERE has_shared_secret=1 AND shared_secret_encrypted IS NOT NULL`. -/
def fetchRows (db : Database Pem) : List FetchedRow :=
  db.friends.items.filterMap fun item =>
    item.2.sharedSecret.map fun wrapper => ⟨item.1, wrapper, item.2.ecdhPrivEncrypted⟩

/-- The statements between the connection and its commit. -/
def migrateSecrets : MigrationCall Pem Unit := do
  migrateGlobalSecret P password draws
  let state ← Call.read
  migrateFriends P password draws (fetchRows state.db)

/-- `database.migrate_secrets_to_argon2id`. A connection that is closed before its commit leaves
the rows as they were; the count goes on from what it was. -/
def migrateSecretsToArgon2id (db : Database Pem) : Except Raised Nat × Database Pem :=
  match (migrateSecrets P password draws).run ⟨0, db⟩ with
  | (.ok _, after) => (.ok after.migrated, after.db)
  | (.error raised, after) =>
      if raised.isValueOrType then (.ok after.migrated, db) else (.error raised, db)

end Operations

section Meaning

variable {Priv Pub Pem : Type} (P : Primitives Priv Pub Pem) (password : Bytes)

/-- What an entry under PBKDF2 decrypts to. -/
def legacyPlain : Option Wrapper → Option Bytes
  | some (.json (.dict enc)) =>
      if enc.kdf = some (.text "argon2id") then none
      else (decryptSecret P (.dict enc) password).toOption
  | _ => none

/-- The entry is under Argon2id, with the plaintext it had under PBKDF2; any other entry is as
it was. -/
def Upgraded (before after : Option Wrapper) : Prop :=
  match legacyPlain P password before with
  | some plain => ∃ enc, after = some (.json (.dict enc)) ∧ enc.kdf = some (.text "argon2id") ∧
      decryptSecret P (.dict enc) password = .ok plain
  | none => after = before

/-- Both entries of a friend, and nothing else of the row. A wrapper that `has_shared_secret` does
not vouch for is no entry. -/
def UpgradedRow (before after : FriendRow) : Prop :=
  ∃ shared ecdh,
    after = { before with sharedSecretEncrypted := shared, ecdhPrivEncrypted := ecdh } ∧
      (if before.hasSharedSecret then Upgraded P password before.sharedSecretEncrypted shared
        else shared = before.sharedSecretEncrypted) ∧
      Upgraded P password before.ecdhPrivEncrypted ecdh

/-- Every entry is upgraded, and nothing else is changed. -/
structure UpgradedDb (before after : Database Pem) : Prop where
  globalSecret : Upgraded P password (before.secrets .globalSecret) (after.secrets .globalSecret)
  secrets : ∀ key, key ≠ .globalSecret → after.secrets key = before.secrets key
  keys : after.keys = before.keys
  texts : after.texts = before.texts
  legacyKeyExpiry : after.legacyKeyExpiry = before.legacyKeyExpiry
  names : after.friends.keys = before.friends.keys
  rows : ∀ name row, before.friends.get? name = some row →
    ∃ next, after.friends.get? name = some next ∧ UpgradedRow P password row next

/-- One for an entry that is to be upgraded. -/
def legacyEntry (column : Option Wrapper) : Nat :=
  if (legacyPlain P password column).isSome then 1 else 0

def legacyEntriesOf (row : FriendRow) : Nat :=
  legacyEntry P password row.sharedSecret + legacyEntry P password row.ecdhPrivEncrypted

/-- How many entries are to be upgraded. -/
def legacyEntries (db : Database Pem) : Nat :=
  legacyEntry P password (db.secrets .globalSecret) +
    (db.friends.items.map fun item => legacyEntriesOf P password item.2).sum

/-- Complete and idempotent: every entry is upgraded and counted, and a second call finds none. -/
def Complete (draws : Draws) (db : Database Pem) : Prop :=
  ∃ after, migrateSecretsToArgon2id P password draws db =
      (.ok (legacyEntries P password db), after) ∧ UpgradedDb P password db after ∧
    ∀ again, migrateSecretsToArgon2id P password again after = (.ok 0, after)

/-- What looking up the kind of an entry raises, or decrypting one under PBKDF2. -/
def legacyFailure : EncValue → Option Raised
  | .other => some .attributeError
  | .dict enc =>
      if enc.kdf = some (.text "argon2id") then none
      else match decryptSecret P (.dict enc) password with
        | .ok _ => none
        | .error raised => some raised

def globalOffence : Option Wrapper → List Raised
  | none => []
  | some .malformed => [.valueError]
  | some (.json enc) => (legacyFailure P password enc).toList

def pastValueOrType (raised : Option Raised) : List Raised :=
  raised.toList.filter fun raised => !raised.isValueOrType

def sharedOffence : Wrapper → List Raised
  | .malformed => [.valueError]
  | .json enc => pastValueOrType (legacyFailure P password enc)

def ecdhOffence : Option Wrapper → List Raised
  | some (.json enc) => pastValueOrType (legacyFailure P password enc)
  | _ => []

def offencesOf (fetched : FetchedRow) : List Raised :=
  sharedOffence P password fetched.secJson ++ ecdhOffence P password fetched.ecdhJson

/-- What the entries raise past the handlers of their own, in the order in which they are read. -/
def offences (db : Database Pem) : List Raised :=
  globalOffence P password (db.secrets .globalSecret) ++
    (fetchRows db).flatMap (offencesOf P password)

/-- No friend whose row is not fetched has an ECDH key under PBKDF2. -/
def NoneMissed (db : Database Pem) : Prop :=
  ∀ name row, db.friends.get? name = some row → row.sharedSecret = none →
    legacyPlain P password row.ecdhPrivEncrypted = none

end Meaning

section Steps

variable {Priv Pub Pem : Type} (P : Primitives Priv Pub Pem) (password : Bytes) (draws : Draws)

/-- The rows with this entry upgraded, if it is to be upgraded. -/
def upgradedBy (entropy : Entropy) (write : Wrapper → Database Pem → Database Pem)
    (column : Option Wrapper)
    (db : Database Pem) : Database Pem :=
  match legacyPlain P password column with
  | some plain => write (wrap P plain password entropy) db
  | none => db

/-- What a part of the migration does: either nothing in it raises past its handlers, and it counts
and writes this, or the first of what does ends it, and it has counted no more than this. -/
def Outcome {α : Type} (call : MigrationCall Pem α) (raises : List Raised) (count : Nat)
    (write : Database Pem → Database Pem) (state : Migration Pem) : Prop :=
  match raises with
  | [] => ∃ value, call.run state = (.ok value, ⟨state.migrated + count, write state.db⟩)
  | first :: _ => ∃ after, call.run state = (.error first, after) ∧
      after.migrated ≤ state.migrated + count

theorem Outcome.bind {α β : Type} {first : MigrationCall Pem α} {next : α → MigrationCall Pem β}
    {raises later : List Raised} {count further : Nat}
    {write writes : Database Pem → Database Pem} {state : Migration Pem}
    (start : Outcome first raises count write state)
    (rest : ∀ value, Outcome (next value) later further writes
      ⟨state.migrated + count, write state.db⟩) :
    Outcome (first >>= next) (raises ++ later) (count + further)
      (fun db => writes (write db)) state := by
  cases raises with
  | cons raised others =>
      obtain ⟨after, ended, counted⟩ := start
      refine ⟨after, Call.run_bind_of_error ended next, ?_⟩
      omega
  | nil =>
      obtain ⟨value, ended⟩ := start
      have continued := rest value
      cases later with
      | nil =>
          obtain ⟨result, finished⟩ := continued
          refine ⟨result, ?_⟩
          rw [Call.run_bind_of_ok ended, finished, Nat.add_assoc]
      | cons raised others =>
          obtain ⟨after, finished, counted⟩ := continued
          refine ⟨after, (Call.run_bind_of_ok ended next).trans finished, ?_⟩
          dsimp only at counted
          omega

theorem Outcome.nothing {call : MigrationCall Pem Unit} {state : Migration Pem}
    (ran : call.run state = (.ok (), state)) : Outcome call [] 0 (fun db => db) state :=
  ⟨(), ran⟩

/-- The three ways of an entry. -/
theorem migrateEntry_outcome (entropy : Entropy)
    (write : Wrapper → Database Pem → Database Pem) (enc : EncValue) (state : Migration Pem) :
    Outcome (migrateEntry P password entropy write enc) (legacyFailure P password enc).toList
      (legacyEntry P password (some (.json enc)))
      (upgradedBy P password entropy write (some (.json enc))) state := by
  unfold legacyEntry upgradedBy
  cases enc with
  | other => exact ⟨state, rfl, Nat.le_add_right _ _⟩
  | dict enc =>
      unfold migrateEntry legacyFailure legacyPlain
      by_cases modern : enc.kdf = some (.text "argon2id")
      · simp only [modern, if_true]
        exact .nothing rfl
      · simp only [modern, if_false]
        cases decrypted : decryptSecret P (.dict enc) password with
        | ok plain => exact ⟨(), rfl⟩
        | error raised => exact ⟨state, rfl, Nat.le_refl _⟩

/-- An entry in a `try` of its own: what the handler catches has counted and written nothing. -/
theorem tryEntry_outcome (entropy : Entropy)
    (write : Wrapper → Database Pem → Database Pem) (enc : EncValue) (state : Migration Pem) :
    Outcome (Call.tryExcept Raised.isValueOrType (migrateEntry P password entropy write enc))
      (pastValueOrType (legacyFailure P password enc))
      (legacyEntry P password (some (.json enc)))
      (upgradedBy P password entropy write (some (.json enc))) state := by
  unfold legacyEntry upgradedBy
  cases enc with
  | other => exact ⟨state, rfl, Nat.le_add_right _ _⟩
  | dict enc =>
      unfold migrateEntry legacyFailure legacyPlain
      by_cases modern : enc.kdf = some (.text "argon2id")
      · simp only [modern, if_true]
        exact ⟨some (), rfl⟩
      · simp only [modern, if_false]
        cases decrypted : decryptSecret P (.dict enc) password with
        | ok plain => exact ⟨some (), rfl⟩
        | error raised =>
            have ran : (Call.lift (.error raised) >>= fun plain => Call.modify
                fun state : Migration Pem => ⟨state.migrated + 1,
                  write (wrap P plain password entropy) state.db⟩).run state =
                (.error raised, state) := rfl
            cases caught : raised.isValueOrType with
            | true =>
                have passes : pastValueOrType (some raised) = [] := by
                  simp only [pastValueOrType, Option.toList, List.filter, caught, Bool.not_true]
                rw [passes]
                refine ⟨none, ?_⟩
                rw [Call.run_tryExcept, ran]
                simp only [caught, if_true]
                rfl
            | false =>
                have passes : pastValueOrType (some raised) = [raised] := by
                  simp only [pastValueOrType, Option.toList, List.filter, caught, Bool.not_false]
                rw [passes]
                refine ⟨state, ?_, Nat.le_add_right _ _⟩
                rw [Call.run_tryExcept, ran]
                simp only [caught, Bool.false_eq_true, if_false]

theorem migrateGlobalSecret_outcome (state : Migration Pem) :
    Outcome (migrateGlobalSecret P password draws)
      (globalOffence P password (state.db.secrets .globalSecret))
      (legacyEntry P password (state.db.secrets .globalSecret))
      (upgradedBy P password (draws.secret .globalSecret)
        (fun wrapped db => db.updateSecret .globalSecret wrapped)
        (state.db.secrets .globalSecret)) state := by
  unfold migrateGlobalSecret
  cases stored : state.db.secrets .globalSecret with
  | none =>
      refine .nothing ?_
      rw [Call.run_read_bind, stored]
      rfl
  | some wrapper =>
      cases wrapper with
      | malformed =>
          refine ⟨state, ?_, Nat.le_add_right _ _⟩
          rw [Call.run_read_bind, stored]
          rfl
      | json enc =>
          have ran : (Call.read >>= fun state : Migration Pem =>
              match state.db.secrets .globalSecret with
              | none => return ()
              | some wrapper => do
                  let enc ← Call.lift (jsonLoads wrapper)
                  migrateEntry P password (draws.secret .globalSecret)
                    (fun wrapped db => db.updateSecret .globalSecret wrapped) enc).run state =
              (migrateEntry P password (draws.secret .globalSecret)
                (fun wrapped db => db.updateSecret .globalSecret wrapped) enc).run state := by
            rw [Call.run_read_bind, stored]
            rfl
          have outcome := migrateEntry_outcome P password
            (draws.secret .globalSecret) (fun wrapped db => db.updateSecret .globalSecret wrapped)
            enc state
          unfold Outcome at outcome ⊢
          rw [ran]
          exact outcome

/-- The ECDH key, whose JSON is parsed inside of the `try`. -/
theorem migrateEcdh_outcome (fetched : FetchedRow) (state : Migration Pem) :
    Outcome (match fetched.ecdhJson with
        | none => return ()
        | some wrapper => do
            let _ ← Call.tryExcept Raised.isValueOrType do
              let enc ← Call.lift (jsonLoads wrapper)
              migrateEntry P password (draws.ecdhPriv fetched.name) (setEcdhPriv fetched.name) enc
            return () : MigrationCall Pem Unit)
      (ecdhOffence P password fetched.ecdhJson) (legacyEntry P password fetched.ecdhJson)
      (upgradedBy P password (draws.ecdhPriv fetched.name) (setEcdhPriv fetched.name)
        fetched.ecdhJson) state := by
  obtain ⟨name, secJson, ecdhJson⟩ := fetched
  cases ecdhJson with
  | none => exact .nothing rfl
  | some wrapper =>
      cases wrapper with
      | malformed => exact ⟨(), rfl⟩
      | json enc =>
          have outcome := (tryEntry_outcome P password (draws.ecdhPriv name)
            (setEcdhPriv name) enc state).bind fun _ =>
              Outcome.nothing rfl
          rw [List.append_nil] at outcome
          exact outcome

theorem migrateFriend_outcome (fetched : FetchedRow) (state : Migration Pem) :
    Outcome (migrateFriend P password draws fetched) (offencesOf P password fetched)
      (legacyEntry P password (some fetched.secJson) + legacyEntry P password fetched.ecdhJson)
      (fun db => upgradedBy P password (draws.ecdhPriv fetched.name) (setEcdhPriv fetched.name)
        fetched.ecdhJson (upgradedBy P password (draws.sharedSecret fetched.name)
          (setSharedSecret fetched.name) (some fetched.secJson) db)) state := by
  cases sec : fetched.secJson with
  | malformed =>
      unfold migrateFriend offencesOf
      rw [sec]
      exact ⟨state, rfl, Nat.le_add_right _ _⟩
  | json enc =>
      have outcome := (tryEntry_outcome P password
        (draws.sharedSecret fetched.name) (setSharedSecret fetched.name) enc state).bind fun _ =>
          migrateEcdh_outcome P password draws fetched _
      unfold migrateFriend offencesOf
      rw [sec]
      exact outcome

/-- How many entries the query fetches that are to be upgraded. -/
def fetchedEntries (rows : List FetchedRow) : Nat :=
  (rows.map fun fetched => legacyEntry P password (some fetched.secJson) +
    legacyEntry P password fetched.ecdhJson).sum

/-- What the loop writes. -/
def upgradedRows (rows : List FetchedRow) (db : Database Pem) : Database Pem :=
  rows.foldl (fun db fetched => upgradedBy P password (draws.ecdhPriv fetched.name)
    (setEcdhPriv fetched.name) fetched.ecdhJson (upgradedBy P password
      (draws.sharedSecret fetched.name) (setSharedSecret fetched.name) (some fetched.secJson) db)) db

theorem migrateFriends_outcome (rows : List FetchedRow) (state : Migration Pem) :
    Outcome (migrateFriends P password draws rows) (rows.flatMap (offencesOf P password))
      (fetchedEntries P password rows) (upgradedRows P password draws rows) state := by
  induction rows generalizing state with
  | nil => exact .nothing rfl
  | cons fetched rest ih =>
      rw [List.flatMap_cons]
      exact (migrateFriend_outcome P password draws fetched state).bind fun _ => ih _

end Steps

section Upgrades

variable {Priv Pub Pem : Type} (P : Primitives Priv Pub Pem) (password : Bytes) (draws : Draws)

def upgradedColumn (entropy : Entropy) (column : Option Wrapper) : Option Wrapper :=
  match legacyPlain P password column with
  | some plain => some (wrap P plain password entropy)
  | none => column

def upgradedRow (name : String) (row : FriendRow) : FriendRow :=
  match row.sharedSecret with
  | none => row
  | some _ => { row with
      sharedSecretEncrypted :=
        upgradedColumn P password (draws.sharedSecret name) row.sharedSecretEncrypted
      ecdhPrivEncrypted := upgradedColumn P password (draws.ecdhPriv name) row.ecdhPrivEncrypted }

def upgradedDb (db : Database Pem) : Database Pem :=
  { db with
    secrets := Function.update db.secrets .globalSecret
      (upgradedColumn P password (draws.secret .globalSecret) (db.secrets .globalSecret))
    friends := db.friends.mapValues (upgradedRow P password draws) }

variable {P password draws}

theorem sharedSecret_some_iff {row : FriendRow} {wrapper : Wrapper} :
    row.sharedSecret = some wrapper ↔
      row.hasSharedSecret = true ∧ row.sharedSecretEncrypted = some wrapper := by
  unfold FriendRow.sharedSecret
  split
  · rename_i flagged
    simp only [flagged, true_and]
  · rename_i unflagged
    simp only [unflagged, reduceCtorEq, false_and]

theorem updateFriend_eq_mapValues (name : String) (change : FriendRow → FriendRow)
    (db : Database Pem) :
    updateFriend name change db = { db with
      friends := db.friends.mapValues fun other row => if other = name then change row else row } := by
  unfold updateFriend
  cases stored : db.friends.get? name with
  | none =>
      have same : db.friends.mapValues (fun other row => if other = name then change row else row) =
          db.friends.mapValues (fun _ row => row) := by
        apply Dict.mapValues_congr
        intro other row found
        apply if_neg
        rintro rfl
        rw [stored] at found
        cases found
      rw [same, Dict.mapValues_self]
  | some row =>
      have present : name ∈ db.friends.keys := by
        by_contra absent
        rw [(Dict.get?_eq_none_iff _ _).mpr absent] at stored
        cases stored
      have same : db.friends.set name (change row) =
          db.friends.mapValues (fun other row => if other = name then change row else row) := by
        apply Dict.ext_items
        rw [Dict.set, dif_pos present]
        apply List.map_congr_left
        intro item member
        by_cases here : item.1 = name
        · have found := Dict.get?_of_mem _ member
          rw [here, stored] at found
          simp only [here, if_true, Option.some.inj found]
        · simp only [here, if_false]
      exact congrArg (fun friends => { db with friends }) same

/-- The write of an entry, as an update of the row that holds it. -/
theorem upgradedBy_updateFriend {name : String} {entropy : Entropy}
    (read : FriendRow → Option Wrapper) (set : Option Wrapper → FriendRow → FriendRow)
    (same : ∀ row, set (read row) row = row) {column : Option Wrapper} {db : Database Pem}
    (holds : ∀ row, db.friends.get? name = some row → read row = column) :
    upgradedBy P password entropy (fun wrapped => updateFriend name (set (some wrapped))) column db =
      updateFriend name (fun row => set (upgradedColumn P password entropy (read row)) row) db := by
  unfold upgradedBy
  cases opened : legacyPlain P password column with
  | some plain =>
      show updateFriend name (set (some (wrap P plain password entropy))) db = _
      rw [updateFriend_eq_mapValues, updateFriend_eq_mapValues]
      congr 1
      apply Dict.mapValues_congr
      intro other row found
      by_cases here : other = name
      · subst here
        simp only [if_true, holds row found, upgradedColumn, opened]
      · simp only [here, if_false]
  | none =>
      have unchanged : db.friends.mapValues (fun other row => if other = name then
          set (upgradedColumn P password entropy (read row)) row else row) = db.friends := by
        conv_rhs => rw [← Dict.mapValues_self db.friends]
        apply Dict.mapValues_congr
        intro other row found
        by_cases here : other = name
        · subst here
          simp only [if_true, upgradedColumn, holds row found, opened]
          rw [← holds row found, same]
        · simp only [here, if_false]
      rw [updateFriend_eq_mapValues, unchanged]

/-- Both writes of one pass, as one update of the row that was fetched. -/
theorem upgradedBy_friend {db : Database Pem} {name : String} {row : FriendRow}
    {wrapper : Wrapper} (stored : db.friends.get? name = some row)
    (fetched : row.sharedSecret = some wrapper) :
    upgradedBy P password (draws.ecdhPriv name) (setEcdhPriv name) row.ecdhPrivEncrypted
        (upgradedBy P password (draws.sharedSecret name) (setSharedSecret name) (some wrapper) db) =
      updateFriend name (upgradedRow P password draws name) db := by
  have column := (sharedSecret_some_iff.mp fetched).2
  have shared : upgradedBy P password (draws.sharedSecret name) (setSharedSecret name)
      (some wrapper) db = updateFriend name (fun row => { row with
        sharedSecretEncrypted :=
          upgradedColumn P password (draws.sharedSecret name) row.sharedSecretEncrypted }) db := by
    refine upgradedBy_updateFriend (fun row => row.sharedSecretEncrypted)
      (fun column row => { row with sharedSecretEncrypted := column }) (fun _ => rfl) ?_
    intro found same
    rw [stored] at same
    rw [← Option.some.inj same, column]
  have ecdh (db : Database Pem)
      (kept : ∀ found, db.friends.get? name = some found →
        found.ecdhPrivEncrypted = row.ecdhPrivEncrypted) :
      upgradedBy P password (draws.ecdhPriv name) (setEcdhPriv name) row.ecdhPrivEncrypted db =
        updateFriend name (fun row => { row with
          ecdhPrivEncrypted :=
            upgradedColumn P password (draws.ecdhPriv name) row.ecdhPrivEncrypted }) db :=
    upgradedBy_updateFriend (fun row => row.ecdhPrivEncrypted)
      (fun column row => { row with ecdhPrivEncrypted := column }) (fun _ => rfl) kept
  rw [shared, ecdh]
  · rw [updateFriend_eq_mapValues, updateFriend_eq_mapValues, updateFriend_eq_mapValues,
      Dict.mapValues_mapValues]
    congr 1
    apply Dict.mapValues_congr
    intro other found same
    by_cases here : other = name
    · subst here
      rw [stored] at same
      obtain rfl := Option.some.inj same
      simp only [if_true, upgradedRow, fetched]
    · simp only [here, if_false]
  · intro found same
    rw [updateFriend_eq_mapValues, Dict.get?_mapValues, stored] at same
    rw [← Option.some.inj same]
    simp only [if_true]

theorem mem_fetchRows {db : Database Pem} {fetched : FetchedRow} :
    fetched ∈ fetchRows db ↔ ∃ row, db.friends.get? fetched.name = some row ∧
      row.sharedSecret = some fetched.secJson ∧ row.ecdhPrivEncrypted = fetched.ecdhJson := by
  obtain ⟨name, secJson, ecdhJson⟩ := fetched
  simp only [fetchRows, List.mem_filterMap, Option.map_eq_some_iff, Dict.get?_eq_some_iff]
  constructor
  · rintro ⟨⟨found, row⟩, member, wrapper, shared, same⟩
    cases same
    exact ⟨row, member, shared, rfl⟩
  · rintro ⟨row, member, shared, rfl⟩
    exact ⟨⟨name, row⟩, member, secJson, shared, rfl⟩

/-- A name is fetched at most once. -/
theorem fetchRows_nodup (db : Database Pem) : ((fetchRows db).map FetchedRow.name).Nodup := by
  have names : ((fetchRows db).map FetchedRow.name).Sublist db.friends.keys := by
    unfold fetchRows Dict.keys
    induction db.friends.items with
    | nil => exact List.Sublist.slnil
    | cons item rest ih =>
        rw [List.filterMap_cons]
        cases shared : item.2.sharedSecret with
        | none => exact ih.cons _
        | some wrapper => exact ih.cons_cons _
  exact db.friends.keys_nodup.sublist names

theorem upgradedRows_eq {rows : List FetchedRow} (unique : (rows.map FetchedRow.name).Nodup)
    {db : Database Pem}
    (fetched : ∀ fetched ∈ rows, ∃ row, db.friends.get? fetched.name = some row ∧
      row.sharedSecret = some fetched.secJson ∧ row.ecdhPrivEncrypted = fetched.ecdhJson) :
    upgradedRows P password draws rows db = { db with
      friends := db.friends.mapValues fun name row =>
        if name ∈ rows.map FetchedRow.name then upgradedRow P password draws name row else row } := by
  induction rows generalizing db with
  | nil =>
      simp only [upgradedRows, List.foldl_nil, List.map_nil, List.not_mem_nil, if_false,
        Dict.mapValues_self]
  | cons first rest ih =>
      rw [List.map_cons, List.nodup_cons] at unique
      obtain ⟨row, stored, shared, ecdh⟩ := fetched first List.mem_cons_self
      have step : upgradedRows P password draws (first :: rest) db = upgradedRows P password draws
          rest (updateFriend first.name (upgradedRow P password draws first.name) db) := by
        rw [← upgradedBy_friend stored shared, ecdh]
        rfl
      rw [step, ih unique.2, updateFriend_eq_mapValues, Dict.mapValues_mapValues]
      · congr 1
        apply Dict.mapValues_congr
        intro name value _
        by_cases here : name = first.name
        · subst here
          simp only [unique.1, if_false, if_true, List.map_cons, List.mem_cons, true_or]
        · simp only [here, if_false, List.map_cons, List.mem_cons, false_or]
      · intro later member
        obtain ⟨row, stored, rest⟩ := fetched later (List.mem_cons_of_mem _ member)
        refine ⟨row, ?_, rest⟩
        have apart : later.name ≠ first.name := by
          intro same
          exact unique.1 (same ▸ List.mem_map_of_mem member)
        rw [updateFriend_eq_mapValues, Dict.get?_mapValues, stored, Option.map_some, if_neg apart]

theorem upgradedDb_globalSecret (db : Database Pem) :
    (upgradedDb P password draws db).secrets .globalSecret =
      upgradedColumn P password (draws.secret .globalSecret) (db.secrets .globalSecret) := by
  simp only [upgradedDb, Function.update_self]

theorem upgradedRow_of_not_fetched {name : String} {row : FriendRow}
    (absent : row.sharedSecret = none) : upgradedRow P password draws name row = row := by
  rw [upgradedRow, absent]

/-- All the writes of the migration. -/
theorem upgradedRows_fetchRows (db : Database Pem) :
    upgradedRows P password draws (fetchRows db)
        (upgradedBy P password (draws.secret .globalSecret)
          (fun wrapped db => db.updateSecret .globalSecret wrapped) (db.secrets .globalSecret) db) =
      upgradedDb P password draws db := by
  have first : upgradedBy P password (draws.secret .globalSecret)
      (fun wrapped db => db.updateSecret .globalSecret wrapped) (db.secrets .globalSecret) db =
        { db with
          secrets := Function.update db.secrets .globalSecret
            (upgradedColumn P password (draws.secret .globalSecret) (db.secrets .globalSecret)) } := by
    unfold upgradedBy upgradedColumn
    cases opened : legacyPlain P password (db.secrets .globalSecret) with
    | none => rw [Function.update_eq_self]
    | some plain =>
        cases stored : db.secrets .globalSecret with
        | none =>
            rw [stored] at opened
            cases opened
        | some wrapper =>
            show db.updateSecret .globalSecret _ = _
            rw [Database.updateSecret, stored]
            rfl
  rw [first, upgradedRows_eq (fetchRows_nodup db)]
  · unfold upgradedDb
    congr 1
    apply Dict.mapValues_congr
    intro name row stored
    split
    · rfl
    · rename_i absent
      apply Eq.symm
      apply upgradedRow_of_not_fetched
      cases shared : row.sharedSecret with
      | none => rfl
      | some wrapper =>
          have member : (⟨name, wrapper, row.ecdhPrivEncrypted⟩ : FetchedRow) ∈ fetchRows db :=
            mem_fetchRows.mpr ⟨row, stored, shared, rfl⟩
          exact absurd (List.mem_map_of_mem member) absent
  · exact fun fetched member => mem_fetchRows.mp member

theorem fetchRows_upgradedBy_globalSecret (db : Database Pem) (entropy : Entropy) :
    fetchRows (upgradedBy P password entropy
      (fun wrapped db => db.updateSecret .globalSecret wrapped) (db.secrets .globalSecret) db) =
        fetchRows db := by
  unfold upgradedBy
  cases legacyPlain P password (db.secrets .globalSecret) <;> rfl

variable (P password draws) in
theorem migrateSecrets_outcome (db : Database Pem) :
    match offences P password db with
    | [] => ∃ value, (migrateSecrets P password draws).run ⟨0, db⟩ =
        (.ok value, ⟨legacyEntry P password (db.secrets .globalSecret) +
          fetchedEntries P password (fetchRows db), upgradedDb P password draws db⟩)
    | first :: _ => ∃ after, (migrateSecrets P password draws).run ⟨0, db⟩ =
        (.error first, after) ∧
          after.migrated ≤ legacyEntry P password (db.secrets .globalSecret) +
            fetchedEntries P password (fetchRows db) := by
  have outcome : Outcome (migrateSecrets P password draws) _ _ _ ⟨0, db⟩ :=
    (migrateGlobalSecret_outcome P password draws ⟨0, db⟩).bind fun _ => by
        have friends := migrateFriends_outcome P password draws (fetchRows db)
          ⟨0 + legacyEntry P password (db.secrets .globalSecret), upgradedBy P password
            (draws.secret .globalSecret) (fun wrapped db => db.updateSecret .globalSecret wrapped)
            (db.secrets .globalSecret) db⟩
        unfold Outcome at friends ⊢
        rw [Call.run_read_bind, fetchRows_upgradedBy_globalSecret]
        exact friends
  unfold Outcome at outcome
  rw [← upgradedRows_fetchRows, ← Nat.zero_add (legacyEntry P password _ + _)]
  exact outcome

end Upgrades

section Completeness

variable {Priv Pub Pem : Type} {P : Primitives Priv Pub Pem} {password : Bytes} {draws : Draws}
variable {column : Option Wrapper} {db : Database Pem}

theorem legacyPlain_wrap (plain : Bytes) (entropy : Entropy) :
    legacyPlain P password (some (wrap P plain password entropy)) = none := by
  rw [wrap, legacyPlain]
  exact if_pos rfl

theorem legacyPlain_upgradedColumn (entropy : Entropy) (column : Option Wrapper) :
    legacyPlain P password (upgradedColumn P password entropy column) = none := by
  unfold upgradedColumn
  cases opened : legacyPlain P password column with
  | none => exact opened
  | some plain => exact legacyPlain_wrap plain entropy

theorem upgradedColumn_of_settled {entropy : Entropy}
    (settled : legacyPlain P password column = none) :
    upgradedColumn P password entropy column = column := by
  rw [upgradedColumn, settled]

theorem upgraded_upgradedColumn (lawful : P.Lawful) (entropy : Entropy)
    (column : Option Wrapper) :
    Upgraded P password column (upgradedColumn P password entropy column) := by
  unfold Upgraded upgradedColumn
  cases opened : legacyPlain P password column with
  | none => rfl
  | some plain =>
      refine ⟨encryptSecret P plain password entropy, rfl, rfl, ?_⟩
      rw [decryptSecret_encryptSecret]
      exact lawful.aes_opens _ _ _

/-- An entry that is to be upgraded does not stay as it was. -/
theorem upgraded_self_iff :
    Upgraded P password column column ↔ legacyPlain P password column = none := by
  unfold Upgraded
  cases opened : legacyPlain P password column with
  | none => exact iff_of_true rfl rfl
  | some plain =>
      simp only [reduceCtorEq, iff_false]
      rintro ⟨enc, rfl, modern, -⟩
      rw [legacyPlain, if_pos modern] at opened
      cases opened

theorem legacyEntry_eq_zero_iff :
    legacyEntry P password column = 0 ↔ legacyPlain P password column = none := by
  unfold legacyEntry
  cases legacyPlain P password column <;> simp

theorem legacyFailure_encryptSecret (plain : Bytes) (entropy : Entropy) :
    legacyFailure P password (.dict (encryptSecret P plain password entropy)) = none := by
  rw [legacyFailure]
  exact if_pos rfl

theorem globalOffence_upgradedColumn {entropy : Entropy}
    (quiet : globalOffence P password column = []) :
    globalOffence P password (upgradedColumn P password entropy column) = [] := by
  unfold upgradedColumn
  cases opened : legacyPlain P password column with
  | none => exact quiet
  | some plain =>
      show (legacyFailure P password (.dict (encryptSecret P plain password entropy))).toList = []
      rw [legacyFailure_encryptSecret]
      rfl

theorem ecdhOffence_upgradedColumn {entropy : Entropy}
    (quiet : ecdhOffence P password column = []) :
    ecdhOffence P password (upgradedColumn P password entropy column) = [] := by
  unfold upgradedColumn
  cases opened : legacyPlain P password column with
  | none => exact quiet
  | some plain =>
      show pastValueOrType
        (legacyFailure P password (.dict (encryptSecret P plain password entropy))) = []
      rw [legacyFailure_encryptSecret]
      rfl

theorem sharedOffence_upgradedColumn {entropy : Entropy} {before after : Wrapper}
    (quiet : sharedOffence P password before = [])
    (written : upgradedColumn P password entropy (some before) = some after) :
    sharedOffence P password after = [] := by
  unfold upgradedColumn at written
  cases opened : legacyPlain P password (some before) with
  | none =>
      rw [opened] at written
      rwa [← Option.some.inj written]
  | some plain =>
      rw [opened] at written
      rw [← Option.some.inj written]
      show pastValueOrType
        (legacyFailure P password (.dict (encryptSecret P plain password entropy))) = []
      rw [legacyFailure_encryptSecret]
      rfl

/-- What is fetched after the migration comes from what was fetched before it. -/
theorem fetched_upgradedDb {fetched : FetchedRow}
    (member : fetched ∈ fetchRows (upgradedDb P password draws db)) :
    ∃ before ∈ fetchRows db, before.name = fetched.name ∧
      upgradedColumn P password (draws.sharedSecret fetched.name) (some before.secJson) =
        some fetched.secJson ∧
      upgradedColumn P password (draws.ecdhPriv fetched.name) before.ecdhJson =
        fetched.ecdhJson := by
  obtain ⟨after, stored, shared, ecdh⟩ := mem_fetchRows.mp member
  have moved : (db.friends.mapValues (upgradedRow P password draws)).get? fetched.name =
      some after := stored
  rw [Dict.get?_mapValues, Option.map_eq_some_iff] at moved
  obtain ⟨row, found, rfl⟩ := moved
  cases secret : row.sharedSecret with
  | none =>
      rw [upgradedRow_of_not_fetched secret, secret] at shared
      cases shared
  | some wrapper =>
      have columns := (sharedSecret_some_iff.mp secret).2
      rw [upgradedRow, secret] at shared ecdh
      have written := (sharedSecret_some_iff.mp shared).2
      dsimp only at written ecdh
      rw [columns] at written
      exact ⟨⟨fetched.name, wrapper, row.ecdhPrivEncrypted⟩,
        mem_fetchRows.mpr ⟨row, found, secret, rfl⟩, rfl, written, ecdh⟩

theorem offences_eq_nil_iff : offences P password db = [] ↔
    globalOffence P password (db.secrets .globalSecret) = [] ∧
      ∀ fetched ∈ fetchRows db, sharedOffence P password fetched.secJson = [] ∧
        ecdhOffence P password fetched.ecdhJson = [] := by
  simp only [offences, offencesOf, List.append_eq_nil_iff, List.flatMap_eq_nil_iff]

theorem offences_upgradedDb (quiet : offences P password db = []) :
    offences P password (upgradedDb P password draws db) = [] := by
  obtain ⟨secret, rows⟩ := offences_eq_nil_iff.mp quiet
  refine offences_eq_nil_iff.mpr ⟨?_, ?_⟩
  · rw [upgradedDb_globalSecret]
    exact globalOffence_upgradedColumn secret
  · intro fetched member
    obtain ⟨before, there, -, shared, ecdh⟩ := fetched_upgradedDb member
    obtain ⟨sharedQuiet, ecdhQuiet⟩ := rows before there
    exact ⟨sharedOffence_upgradedColumn sharedQuiet shared,
      ecdh ▸ ecdhOffence_upgradedColumn ecdhQuiet⟩

/-- No entry that the migration reads is to be upgraded. -/
structure NothingLegacy (P : Primitives Priv Pub Pem) (password : Bytes) (db : Database Pem) : Prop where
  globalSecret : legacyPlain P password (db.secrets .globalSecret) = none
  rows : ∀ fetched ∈ fetchRows db, legacyPlain P password (some fetched.secJson) = none ∧
    legacyPlain P password fetched.ecdhJson = none

theorem settled_upgradedDb (db : Database Pem) :
    NothingLegacy P password (upgradedDb P password draws db) where
  globalSecret := by
    rw [upgradedDb_globalSecret]
    exact legacyPlain_upgradedColumn _ _
  rows fetched member := by
    obtain ⟨before, -, -, shared, ecdh⟩ := fetched_upgradedDb member
    exact ⟨shared ▸ legacyPlain_upgradedColumn _ _, ecdh ▸ legacyPlain_upgradedColumn _ _⟩

theorem NothingLegacy.upgradedDb (settled : NothingLegacy P password db) (draws : Draws) :
    upgradedDb P password draws db = db := by
  have friends : db.friends.mapValues (upgradedRow P password draws) = db.friends := by
    conv_rhs => rw [← Dict.mapValues_self db.friends]
    apply Dict.mapValues_congr
    intro name row stored
    cases secret : row.sharedSecret with
    | none => exact upgradedRow_of_not_fetched secret
    | some wrapper =>
        obtain ⟨shared, ecdh⟩ := settled.rows ⟨name, wrapper, row.ecdhPrivEncrypted⟩
          (mem_fetchRows.mpr ⟨row, stored, secret, rfl⟩)
        have columns := (sharedSecret_some_iff.mp secret).2
        rw [upgradedRow, secret, columns]
        dsimp only
        rw [upgradedColumn_of_settled shared, upgradedColumn_of_settled ecdh, ← columns]
  rw [KeyStore.upgradedDb, friends, upgradedColumn_of_settled settled.globalSecret,
    Function.update_eq_self]

theorem NothingLegacy.entries (settled : NothingLegacy P password db) :
    legacyEntry P password (db.secrets .globalSecret) +
      fetchedEntries P password (fetchRows db) = 0 := by
  have none_fetched : fetchedEntries P password (fetchRows db) = 0 := by
    apply List.sum_eq_zero_iff_forall_eq_nat.mpr
    intro count member
    obtain ⟨fetched, there, rfl⟩ := List.mem_map.mp member
    obtain ⟨shared, ecdh⟩ := settled.rows fetched there
    rw [legacyEntry_eq_zero_iff.mpr shared, legacyEntry_eq_zero_iff.mpr ecdh]
  rw [none_fetched, legacyEntry_eq_zero_iff.mpr settled.globalSecret]

/-- Entries that are to be upgraded in a row that is not fetched. -/
def missedEntries (P : Primitives Priv Pub Pem) (password : Bytes) (row : FriendRow) : Nat :=
  if row.sharedSecret = none then legacyEntry P password row.ecdhPrivEncrypted else 0

theorem legacyEntries_split (db : Database Pem) :
    legacyEntries P password db = legacyEntry P password (db.secrets .globalSecret) +
      fetchedEntries P password (fetchRows db) +
        (db.friends.items.map fun item => missedEntries P password item.2).sum := by
  have rows : (db.friends.items.map fun item => legacyEntriesOf P password item.2).sum =
      fetchedEntries P password (fetchRows db) +
        (db.friends.items.map fun item => missedEntries P password item.2).sum := by
    unfold fetchRows fetchedEntries
    induction db.friends.items with
    | nil => rfl
    | cons item rest ih =>
        rw [List.map_cons, List.sum_cons, ih, List.map_cons, List.sum_cons, List.filterMap_cons]
        cases secret : item.2.sharedSecret with
        | none =>
            have nothing : legacyEntry P password none = 0 := rfl
            simp only [legacyEntriesOf, missedEntries, secret, nothing, if_true, Option.map_none]
            omega
        | some wrapper =>
            simp only [legacyEntriesOf, missedEntries, secret, reduceCtorEq, if_false,
              Option.map_some, List.map_cons, List.sum_cons]
            omega
  rw [legacyEntries, rows, Nat.add_assoc]

theorem noneMissed_iff : NoneMissed P password db ↔
    (db.friends.items.map fun item => missedEntries P password item.2).sum = 0 := by
  rw [List.sum_eq_zero_iff_forall_eq_nat]
  constructor
  · intro missed count member
    obtain ⟨item, there, rfl⟩ := List.mem_map.mp member
    unfold missedEntries
    split
    · rename_i absent
      exact legacyEntry_eq_zero_iff.mpr (missed _ _ (Dict.get?_of_mem _ there) absent)
    · rfl
  · intro zero name row stored absent
    have counted := zero _ (List.mem_map_of_mem (Dict.mem_of_get? stored))
    unfold missedEntries at counted
    rw [if_pos absent] at counted
    exact legacyEntry_eq_zero_iff.mp counted

/-- A row in which no entry is to be upgraded is upgraded as it is, and no other row is. -/
theorem upgradedRow_self_iff {row : FriendRow} :
    UpgradedRow P password row row ↔ legacyEntriesOf P password row = 0 := by
  rw [legacyEntriesOf, Nat.add_eq_zero_iff, legacyEntry_eq_zero_iff, legacyEntry_eq_zero_iff]
  constructor
  · rintro ⟨shared, ecdh, same, secret, upgraded⟩
    have sharedSame := congrArg FriendRow.sharedSecretEncrypted same
    have ecdhSame := congrArg FriendRow.ecdhPrivEncrypted same
    dsimp only at sharedSame ecdhSame
    rw [← ecdhSame] at upgraded
    refine ⟨?_, upgraded_self_iff.mp upgraded⟩
    unfold FriendRow.sharedSecret
    split
    · rename_i flagged
      rw [if_pos flagged, ← sharedSame] at secret
      exact upgraded_self_iff.mp secret
    · rfl
  · rintro ⟨secret, ecdh⟩
    refine ⟨_, _, rfl, ?_, upgraded_self_iff.mpr ecdh⟩
    split
    · rename_i flagged
      rw [FriendRow.sharedSecret, if_pos flagged] at secret
      exact upgraded_self_iff.mpr secret
    · rfl

theorem upgradedDb_self_iff : UpgradedDb P password db db ↔ legacyEntries P password db = 0 := by
  rw [legacyEntries, Nat.add_eq_zero_iff, legacyEntry_eq_zero_iff,
    List.sum_eq_zero_iff_forall_eq_nat]
  constructor
  · intro upgraded
    refine ⟨upgraded_self_iff.mp upgraded.globalSecret, ?_⟩
    intro count member
    obtain ⟨⟨name, row⟩, there, rfl⟩ := List.mem_map.mp member
    have stored := Dict.get?_of_mem _ there
    obtain ⟨next, found, moved⟩ := upgraded.rows name row stored
    rw [stored] at found
    exact upgradedRow_self_iff.mp (Option.some.inj found ▸ moved)
  · rintro ⟨secret, rows⟩
    refine ⟨upgraded_self_iff.mpr secret, fun _ _ => rfl, rfl, rfl, rfl, rfl, ?_⟩
    intro name row stored
    have counted := rows _ (List.mem_map_of_mem (Dict.mem_of_get? stored))
    exact ⟨row, stored, upgradedRow_self_iff.mpr counted⟩

/-- What the migration writes of a fetched row is what is to be done to it. -/
theorem upgradedRow_upgrades (lawful : P.Lawful) {name : String} {row : FriendRow}
    (missed : row.sharedSecret = none → legacyPlain P password row.ecdhPrivEncrypted = none) :
    UpgradedRow P password row (upgradedRow P password draws name row) := by
  cases secret : row.sharedSecret with
  | none =>
      rw [upgradedRow_of_not_fetched secret, upgradedRow_self_iff, legacyEntriesOf, secret,
        legacyEntry_eq_zero_iff.mpr (missed secret)]
      rfl
  | some wrapper =>
      rw [upgradedRow, secret]
      refine ⟨_, _, rfl, ?_, upgraded_upgradedColumn lawful _ _⟩
      rw [if_pos (sharedSecret_some_iff.mp secret).1]
      exact upgraded_upgradedColumn lawful _ _

theorem upgradedDb_upgrades (lawful : P.Lawful) (missed : NoneMissed P password db) :
    UpgradedDb P password db (upgradedDb P password draws db) where
  globalSecret := upgradedDb_globalSecret db ▸ upgraded_upgradedColumn lawful _ _
  secrets key apart := Function.update_of_ne apart _ _
  keys := rfl
  texts := rfl
  legacyKeyExpiry := rfl
  names := by
    show (db.friends.mapValues _).items.map Prod.fst = db.friends.items.map Prod.fst
    rw [Dict.mapValues, List.map_map]
    rfl
  rows name row stored := by
    refine ⟨upgradedRow P password draws name row, ?_,
      upgradedRow_upgrades lawful (missed name row stored)⟩
    show (db.friends.mapValues (upgradedRow P password draws)).get? name = _
    rw [Dict.get?_mapValues, stored]
    rfl

/-- A row that is not fetched is left with what is to be upgraded in it. -/
theorem noneMissed_of_upgradedDb
    (upgraded : UpgradedDb P password db (upgradedDb P password draws db)) :
    NoneMissed P password db := by
  intro name row stored absent
  obtain ⟨next, found, moved⟩ := upgraded.rows name row stored
  have kept : (db.friends.mapValues (upgradedRow P password draws)).get? name = some row := by
    rw [Dict.get?_mapValues, stored, Option.map_some, upgradedRow_of_not_fetched absent]
  have same : next = row := Option.some.inj (found.symm.trans kept)
  rw [same, upgradedRow_self_iff, legacyEntriesOf, Nat.add_eq_zero_iff,
    legacyEntry_eq_zero_iff, legacyEntry_eq_zero_iff] at moved
  exact moved.2

end Completeness

section Runs

variable {Priv Pub Pem : Type} {P : Primitives Priv Pub Pem} {password : Bytes} {draws : Draws}
variable {db : Database Pem}

/-- No entry raises past its handlers: what is fetched is upgraded and counted. -/
theorem migrateSecretsToArgon2id_of_quiet (quiet : offences P password db = []) :
    migrateSecretsToArgon2id P password draws db =
      (.ok (legacyEntry P password (db.secrets .globalSecret) +
        fetchedEntries P password (fetchRows db)), upgradedDb P password draws db) := by
  have outcome := migrateSecrets_outcome P password draws db
  rw [quiet] at outcome
  obtain ⟨value, ran⟩ := outcome
  rw [migrateSecretsToArgon2id, ran]

/-- The first entry that raises past its handlers ends it, and nothing is written. -/
theorem migrateSecretsToArgon2id_of_offence (draws : Draws) {first : Raised}
    {rest : List Raised} (raises : offences P password db = first :: rest) :
    ∃ count ≤ legacyEntries P password db, migrateSecretsToArgon2id P password draws db =
      (if first.isValueOrType then .ok count else .error first, db) := by
  have outcome := migrateSecrets_outcome P password draws db
  rw [raises] at outcome
  obtain ⟨after, ran, counted⟩ := outcome
  refine ⟨after.migrated, ?_, ?_⟩
  · rw [legacyEntries_split]
    omega
  · rw [migrateSecretsToArgon2id, ran]
    dsimp only
    split <;> rfl

theorem argon2id_migration_complete_iff (lawful : P.Lawful) (draws : Draws) (db : Database Pem) :
    Complete P password draws db ↔
      (offences P password db = [] ∧ NoneMissed P password db) ∨
        (legacyEntries P password db = 0 ∧
          ∃ first ∈ (offences P password db).head?, first.isValueOrType = true) := by
  constructor
  · rintro ⟨after, ran, upgraded, -⟩
    cases raises : offences P password db with
    | nil =>
        rw [migrateSecretsToArgon2id_of_quiet raises] at ran
        obtain rfl := congrArg Prod.snd ran
        exact .inl ⟨rfl, noneMissed_of_upgradedDb upgraded⟩
    | cons first rest =>
        obtain ⟨count, -, ended⟩ :=
          migrateSecretsToArgon2id_of_offence draws raises
        rw [ended] at ran
        obtain rfl := congrArg Prod.snd ran
        refine .inr ⟨upgradedDb_self_iff.mp upgraded, first, rfl, ?_⟩
        cases caught : first.isValueOrType with
        | true => rfl
        | false =>
            rw [caught] at ran
            cases congrArg Prod.fst ran
  · rintro (⟨quiet, missed⟩ | ⟨nothing, first, head, caught⟩)
    · refine ⟨upgradedDb P password draws db, ?_, upgradedDb_upgrades lawful missed, ?_⟩
      · rw [migrateSecretsToArgon2id_of_quiet quiet, legacyEntries_split,
          noneMissed_iff.mp missed, Nat.add_zero]
      · intro again
        have settled : NothingLegacy P password (upgradedDb P password draws db) := settled_upgradedDb db
        rw [migrateSecretsToArgon2id_of_quiet (offences_upgradedDb quiet), settled.entries,
          settled.upgradedDb again]
    · obtain ⟨rest, raises⟩ := List.head?_eq_some_iff.mp head
      have ends (draws : Draws) : migrateSecretsToArgon2id P password draws db = (.ok 0, db) := by
        obtain ⟨count, below, ended⟩ :=
          migrateSecretsToArgon2id_of_offence draws raises
        rw [ended, if_pos caught]
        have zero : count = 0 := by omega
        rw [zero]
      exact ⟨db, nothing ▸ ends draws, upgradedDb_self_iff.mpr nothing, ends⟩

end Runs

section Toy

/-- An entry under PBKDF2, which has no tag. -/
def toyLegacyWrapper (password plain : Bytes) : Wrapper :=
  .json (.dict ⟨none, some (.text (b64encode [1])), some (.text (b64encode [2])),
    some (.text
      (b64encode (toyLibraries.aesEncrypt (toyLibraries.pbkdf2 password [1]) [2] plain)))⟩)

def toyMigrationDraws : Draws where
  secret _ := toyEntropy 3 4
  key _ := [5]
  sharedSecret _ := toyEntropy 6 7
  ecdhPriv _ := toyEntropy 8 9

def toyUnsharedRow : FriendRow where
  publicKeyPem := "friend's key"
  hasSharedSecret := false
  sharedSecretEncrypted := none
  x25519PublicKeyB64 := none
  capabilitiesJson := none
  ratchetStateJson := none
  pqcCombinedPubB64 := none
  hybridSigPubB64 := none
  ecdhPrivEncrypted := some (toyLegacyWrapper [1] [10])

def toySharedRow (password : Bytes) : FriendRow :=
  { toyUnsharedRow with
    hasSharedSecret := true
    sharedSecretEncrypted := some (toyLegacyWrapper password [11]) }

/-- A global secret under PBKDF2 and one friend. -/
def toyLegacyDb (row : FriendRow) : Database (String × Bytes) :=
  (Database.empty.setSecret .globalSecret (toyLegacyWrapper [1] [12])).replaceFriend "bob" row

theorem argon2id_migration_complete_toy :
    Complete toyLibraries [1] toyMigrationDraws (toyLegacyDb (toySharedRow [1])) :=
  (argon2id_migration_complete_iff toyLibraries_lawful _ _).mpr (.inl ⟨by decide +kernel, by
    rw [noneMissed_iff]
    decide +kernel⟩)

/-- The key of a friend without a shared secret is passed over; a shared secret under another
password ends the migration with `InvalidTag`. -/
theorem argon2id_migration_misses_and_stops :
    ¬ Complete toyLibraries [1] toyMigrationDraws (toyLegacyDb toyUnsharedRow) ∧
      ¬ Complete toyLibraries [1] toyMigrationDraws (toyLegacyDb (toySharedRow [2])) := by
  have passedOver : (migrateSecretsToArgon2id toyLibraries [1] toyMigrationDraws
      (toyLegacyDb toyUnsharedRow)).1 = .ok 1 := by decide +kernel
  have stopped : (migrateSecretsToArgon2id toyLibraries [1] toyMigrationDraws
      (toyLegacyDb (toySharedRow [2]))).1 = .error .invalidTag := by decide +kernel
  constructor
  · rintro ⟨after, ran, -⟩
    rw [ran] at passedOver
    exact absurd (Except.ok.inj passedOver) (by decide +kernel)
  · rintro ⟨after, ran, -⟩
    rw [ran] at stopped
    cases stopped

end Toy

end UltimateEnigma.KeyStore
