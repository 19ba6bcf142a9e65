import UltimateEnigma.LoadFrames

set_option autoImplicit false

namespace UltimateEnigma.KeyStore

open Py

section Blobs

variable {Priv Pub Pem : Type} (P : Primitives Priv Pub Pem)

/-- What a stored blob holds under a key: nothing where it is plain JSON or cannot be decrypted. -/
def openBlob (key : Bytes) (text : String) : Option Bytes :=
  if text.isEmpty || text.startsWith "\x7b" then none
  else
    match decodeBase64 text with
    | .error _ => none
    | .ok raw => (P.aesDecrypt key (raw.take 12) (raw.drop 12)).toOption

/-- A blob that opens under the old key opens under the new one to the same plaintext, and any
other blob is as it was. -/
def BlobMoved (oldKey newKey : Bytes) : Option String → Option String → Prop
  | none, after => after = none
  | some text, after =>
      match openBlob P oldKey text with
      | some plain => ∃ moved, after = some moved ∧ openBlob P newKey moved = some plain
      | none => after = some text

/-- The friends are the same but for their blobs, which have moved to the new key. -/
def BlobsMoved (oldKey newKey : Bytes) (before after : Dict String FriendRow) : Prop :=
  after.keys = before.keys ∧ ∀ name row, before.get? name = some row →
    ∃ blob, after.get? name = some { row with ratchetStateJson := blob } ∧
      BlobMoved P oldKey newKey row.ratchetStateJson blob

end Blobs

section Letters

open Base64

theorem encodeChars_head {bytes : Bytes} (nonempty : bytes ≠ []) :
    ∃ value rest, value < 64 ∧ encodeChars bytes = letter value :: rest := by
  match bytes with
  | [first] =>
      refine ⟨first.toNat / 4, _, ?_, rfl⟩
      have := first.toNat_lt
      omega
  | [first, second] =>
      refine ⟨first.toNat / 4, _, ?_, rfl⟩
      have := first.toNat_lt
      omega
  | first :: second :: third :: rest =>
      refine ⟨first.toNat / 4, _, ?_, rfl⟩
      have := first.toNat_lt
      omega

theorem letter_ne_brace {value : Nat} (small : value < 64) : letter value ≠ '\x7b' := by
  have all : ∀ index : Fin 64, letter index.val ≠ '\x7b' := by decide +kernel
  exact all ⟨value, small⟩

/-- What is encoded is neither empty nor taken for plain JSON. -/
theorem b64encode_isBlob {bytes : Bytes} (nonempty : bytes ≠ []) :
    ((b64encode bytes).isEmpty || (b64encode bytes).startsWith "\x7b") = false := by
  obtain ⟨value, rest, small, encoded⟩ := encodeChars_head nonempty
  have chars : (b64encode bytes).toList = letter value :: rest := by
    rw [b64encode, encoded, String.toList_ofList]
  rw [Bool.or_eq_false_iff]
  constructor
  · rw [← Bool.not_eq_true, String.isEmpty_iff, ← String.toList_eq_nil_iff, chars]
    exact List.cons_ne_nil _ _
  · rw [String.startsWith_string_eq_false_iff, chars]
    intro starts
    exact letter_ne_brace small (List.cons_prefix_cons.mp starts).1.symm

end Letters

section Migration

variable {Priv Pub Pem : Type} {P : Primitives Priv Pub Pem}

theorem openBlob_migrated (lawful : P.Lawful) (key : Bytes) {nonce : Bytes} (plain : Bytes)
    (length : nonce.length = 12) :
    openBlob P key (b64encode (nonce ++ P.aesEncrypt key nonce plain)) = some plain := by
  have nonempty : nonce ++ P.aesEncrypt key nonce plain ≠ [] := by
    intro empty
    have none : nonce = [] := (List.append_eq_nil_iff.mp empty).1
    rw [none] at length
    cases length
  unfold openBlob
  rw [b64encode_isBlob nonempty, decodeBase64_b64encode]
  simp only [Bool.false_eq_true, if_false, List.take_left' length, List.drop_left' length,
    lawful.aes_opens, Except.toOption]

theorem migrateRatchetBlob_moved (lawful : P.Lawful) (oldKey newKey : Bytes) {nonce : Bytes}
    (length : nonce.length = 12) (blob : Option String) :
    BlobMoved P oldKey newKey blob (blob.map (migrateRatchetBlob P oldKey newKey nonce)) := by
  cases blob with
  | none => rfl
  | some text =>
      simp only [BlobMoved, Option.map_some]
      cases opened : openBlob P oldKey text with
      | none =>
          simp only [Option.some.injEq]
          unfold openBlob at opened
          unfold migrateRatchetBlob
          split
          · rfl
          · next encrypted =>
              rw [if_neg encrypted] at opened
              split
              · rfl
              · next raw decoded =>
                  simp only [decoded] at opened
                  split
                  · rfl
                  · next plain decrypted =>
                      rw [decrypted] at opened
                      cases opened
      | some plain =>
          refine ⟨_, rfl, ?_⟩
          unfold openBlob at opened
          unfold migrateRatchetBlob
          split at opened
          · cases opened
          · next encrypted =>
              rw [if_neg encrypted]
              cases decoded : decodeBase64 text with
              | error raised =>
                  rw [decoded] at opened
                  cases opened
              | ok raw =>
                  simp only [decoded] at opened ⊢
                  cases decrypted : P.aesDecrypt oldKey (raw.take 12) (raw.drop 12) with
                  | error raised =>
                      rw [decrypted] at opened
                      cases opened
                  | ok found =>
                      rw [decrypted] at opened
                      obtain rfl := Option.some.inj opened
                      exact openBlob_migrated lawful newKey found length

theorem migrateRatchetBlobs_moved (lawful : P.Lawful) (oldKey newKey : Bytes)
    {blobNonce : String → Bytes} (lengths : ∀ name, (blobNonce name).length = 12)
    (db : Database Pem) :
    BlobsMoved P oldKey newKey db.friends
      (migrateRatchetBlobs P oldKey newKey blobNonce db).friends := by
  constructor
  · simp only [migrateRatchetBlobs, Dict.keys, Dict.mapValues, List.map_map]
    rfl
  · intro name row found
    refine ⟨row.ratchetStateJson.map (migrateRatchetBlob P oldKey newKey (blobNonce name)), ?_,
      migrateRatchetBlob_moved lawful oldKey newKey (lengths name) _⟩
    simp only [migrateRatchetBlobs, Dict.get?_mapValues, found, Option.map_some]

/-- The columns that the last stage of a load reads and writes. -/
def Database.ratchet (db : Database Pem) :
    Dict String FriendRow × Option String × Option Wrapper :=
  (db.friends, db.texts .ratchetHkdfSalt, db.secrets .ratchetStorageKey)

theorem newRatchetStorageKey_ok (lawful : P.Lawful) {password : Bytes} {draws : LoadDraws}
    (lengths : ∀ name, (draws.blobNonce name).length = 12) {db after : Database Pem}
    {saltText : String} (salted : db.texts .ratchetHkdfSalt = some saltText)
    (made : newRatchetStorageKey P password draws db = .ok after) :
    (∃ salt, decodeBase64 saltText = .ok salt ∧
        BlobsMoved P (P.hkdf salt password) draws.ratchetKey db.friends after.friends) ∧
      after.texts .ratchetHkdfSalt = none ∧
      after.secrets .ratchetStorageKey =
        some (wrap P draws.ratchetKey password draws.ratchetKeyEntropy) := by
  obtain ⟨rows, migrated, returned⟩ := ok_of_bind made
  unfold migratedRows at migrated
  simp only [salted] at migrated
  obtain ⟨salt, decoded, moved⟩ := ok_of_bind migrated
  cases moved
  cases returned
  refine ⟨⟨salt, decoded, ?_⟩, ?_, ?_⟩
  · exact migrateRatchetBlobs_moved lawful _ _ lengths db
  · simp only [Database.deleteText, Function.update_self]
  · simp only [Database.deleteText, Database.setSecret, Function.update_self]

end Migration

section Loads

variable {Priv Pub Pem : Type} {P : Primitives Priv Pub Pem} {platform : Platform}
variable {password : Bytes} {now : Rat} {draws : LoadDraws}
variable {session after : Session Priv Pub Pem} {result : Except Raised Bool}

theorem loadKeys_keeps_ratchet (password : Bytes) (now : Rat) :
    (loadKeys P platform password now).Keeps
      fun session : Session Priv Pub Pem => session.db.ratchet := by
  intro session
  have survives (db : Database Pem) (same : db.ratchet = session.db.ratchet) :
      db.deleteLegacyKey.ratchet = session.db.ratchet := same
  have maintained : (loadKeys P platform password now).Maintains
      fun middle : Session Priv Pub Pem => middle.db.ratchet = session.db.ratchet :=
    loadKeys_maintains survives password now
  exact maintained session rfl

/-- What the last stage does to the columns: nothing, unless it makes a new key. -/
theorem loadRatchetStorageKey_cases {found : Except Raised (Option Bytes)}
    (ran : (loadRatchetStorageKey P password draws).run session = (found, after)) :
    ((∀ key, found ≠ .ok (some key)) ∧ after.db.ratchet = session.db.ratchet) ∨
      ∃ key, found = .ok (some key) ∧
        ((∃ wrapper, session.db.secrets .ratchetStorageKey = some wrapper ∧
            unwrap P wrapper password = .ok key ∧ after.db.ratchet = session.db.ratchet) ∨
          session.db.secrets .ratchetStorageKey = none ∧ key = draws.ratchetKey ∧
            newRatchetStorageKey P password draws session.db = .ok after.db) := by
  rw [loadRatchetStorageKey, Call.run_read_bind] at ran
  cases stored : session.db.secrets .ratchetStorageKey with
  | some wrapper =>
      simp only [stored] at ran
      cases opened : attempt (unwrap P wrapper password) with
      | error raised =>
          rw [opened] at ran
          cases ran
          exact .inl ⟨by simp, rfl⟩
      | ok key =>
          rw [opened] at ran
          cases key with
          | none =>
              cases ran
              exact .inl ⟨by simp, rfl⟩
          | some key =>
              cases ran
              exact .inr ⟨key, rfl, .inl ⟨wrapper, rfl, attempt_eq_some_iff.mp opened, rfl⟩⟩
  | none =>
      simp only [stored] at ran
      cases made : attempt (newRatchetStorageKey P password draws session.db) with
      | error raised =>
          rw [made] at ran
          cases ran
          exact .inl ⟨by simp, rfl⟩
      | ok db =>
          rw [made] at ran
          cases db with
          | none =>
              cases ran
              exact .inl ⟨by simp, rfl⟩
          | some db =>
              cases ran
              exact .inr ⟨_, rfl, .inr ⟨rfl, rfl, attempt_eq_some_iff.mp made⟩⟩

/-- A load that fails leaves the columns alone; one that returns `True` has found the stored key,
or has made a new one. -/
theorem load_cases (ran : (load P platform password now draws).run session = (result, after)) :
    (result ≠ .ok true ∧ after.db.ratchet = session.db.ratchet) ∨
      ∃ key, result = .ok true ∧ after.store.ratchetStorageKey = some key ∧
        ((∃ wrapper, session.db.secrets .ratchetStorageKey = some wrapper ∧
            unwrap P wrapper password = .ok key ∧ after.db.ratchet = session.db.ratchet) ∨
          session.db.secrets .ratchetStorageKey = none ∧ key = draws.ratchetKey ∧
            ∃ middle : Database Pem, middle.ratchet = session.db.ratchet ∧
              newRatchetStorageKey P password draws middle = .ok after.db) := by
  have kept : ((loadKeys P platform password now).run session).2.db.ratchet = session.db.ratchet :=
    loadKeys_keeps_ratchet password now session
  rw [load, Call.run_bind, Call.run_mapError] at ran
  cases keys : (loadKeys P platform password now).run session with
  | mk went middle =>
      rw [keys] at ran kept
      have sameKey : middle.db.secrets .ratchetStorageKey = session.db.secrets .ratchetStorageKey :=
        congrArg (fun columns => columns.2.2) kept
      cases went with
      | error raised =>
          cases ran
          exact .inl ⟨by simp, kept⟩
      | ok opened =>
          cases opened with
          | false =>
              cases ran
              exact .inl ⟨by simp, kept⟩
          | true =>
              simp only [if_true] at ran
              rw [Call.run_bind] at ran
              cases ratchet : (loadRatchetStorageKey P password draws).run middle with
              | mk found last =>
                  rw [ratchet] at ran
                  obtain ⟨none, same⟩ | ⟨key, rfl, rest⟩ := loadRatchetStorageKey_cases ratchet
                  · cases found with
                    | error raised =>
                        cases ran
                        exact .inl ⟨by simp, same.trans kept⟩
                    | ok key =>
                        cases key with
                        | some key => exact (none key rfl).elim
                        | none =>
                            cases ran
                            exact .inl ⟨by simp, same.trans kept⟩
                  · cases ran
                    refine .inr ⟨key, rfl, rfl, ?_⟩
                    obtain ⟨wrapper, stored, opened, same⟩ | ⟨missing, drawn, made⟩ := rest
                    · exact .inl ⟨wrapper, sameKey ▸ stored, opened, same.trans kept⟩
                    · exact .inr ⟨sameKey ▸ missing, drawn, middle.db, kept, made⟩

/-- Loads one after the other, none of which returns `True`. -/
inductive FailedLoads (P : Primitives Priv Pub Pem) (platform : Platform)
    (start : Session Priv Pub Pem) : Session Priv Pub Pem → Prop where
  | none : FailedLoads P platform start start
  | next {before after : Session Priv Pub Pem} {password : Bytes} {now : Rat} {draws : LoadDraws}
      {result : Except Raised Bool} (earlier : FailedLoads P platform start before)
      (ran : (load P platform password now draws).run before = (result, after))
      (failed : result ≠ .ok true) : FailedLoads P platform start after

/-- Loads one after the other. -/
inductive Loads (P : Primitives Priv Pub Pem) (platform : Platform)
    (start : Session Priv Pub Pem) : Session Priv Pub Pem → Prop where
  | none : Loads P platform start start
  | next {before after : Session Priv Pub Pem} {password : Bytes} {now : Rat} {draws : LoadDraws}
      {result : Except Raised Bool} (earlier : Loads P platform start before)
      (ran : (load P platform password now draws).run before = (result, after)) :
      Loads P platform start after

theorem FailedLoads.ratchet (failed : FailedLoads P platform session after) :
    after.db.ratchet = session.db.ratchet := by
  induction failed with
  | none => rfl
  | next earlier ran refused ih =>
      obtain ⟨-, same⟩ | ⟨key, returned, -⟩ := load_cases ran
      · exact same.trans ih
      · exact (refused returned).elim

/-- No load changes a blob or the wrapped key where one is stored. -/
theorem Loads.ratchet {wrapper : Wrapper}
    (stored : session.db.secrets .ratchetStorageKey = some wrapper)
    (loads : Loads P platform session after) : after.db.ratchet = session.db.ratchet := by
  induction loads with
  | none => rfl
  | @next before after password now draws result earlier ran ih =>
      have kept : before.db.secrets .ratchetStorageKey = some wrapper :=
        (congrArg (fun columns => columns.2.2) ih).trans stored
      obtain ⟨-, same⟩ | ⟨key, -, -, ⟨other, -, -, same⟩ | ⟨missing, -⟩⟩ := load_cases ran
      · exact same.trans ih
      · exact same.trans ih
      · rw [kept] at missing
        cases missing

/-- The rows as they were before a load that returns `True`. -/
structure Unmigrated (before after : Database Pem) : Prop where
  blobs : after.friends = before.friends
  salt : after.texts .ratchetHkdfSalt = before.texts .ratchetHkdfSalt
  noKey : after.secrets .ratchetStorageKey = none

/-- The rows after a load with this password that returned `True`, and the key in memory. -/
structure MigratedTo (P : Primitives Priv Pub Pem) (password key : Bytes) (before : Database Pem)
    (first : Session Priv Pub Pem) : Prop where
  inMemory : first.store.ratchetStorageKey = some key
  blobs : ∃ saltText salt, before.texts .ratchetHkdfSalt = some saltText ∧
    decodeBase64 saltText = .ok salt ∧
      BlobsMoved P (P.hkdf salt password) key before.friends first.db.friends
  noSalt : first.db.texts .ratchetHkdfSalt = none
  wrapped : ∃ entropy, first.db.secrets .ratchetStorageKey = some (wrap P key password entropy)

/-- Later loads leave the blobs and the wrapped key alone, and find the same key. -/
structure Settled (P : Primitives Priv Pub Pem) (platform : Platform) (password key : Bytes)
    (first last : Session Priv Pub Pem) : Prop where
  blobs : last.db.friends = first.db.friends
  wrapped : last.db.secrets .ratchetStorageKey = first.db.secrets .ratchetStorageKey
  found : ∀ now draws final, (load P platform password now draws).run last = (.ok true, final) →
    final.store.ratchetStorageKey = some key

theorem migratedTo_of_load (lawful : P.Lawful) {saltText : String}
    (salted : session.db.texts .ratchetHkdfSalt = some saltText)
    (missing : session.db.secrets .ratchetStorageKey = none)
    (lengths : ∀ name, (draws.blobNonce name).length = 12)
    (loaded : (load P platform password now draws).run session = (.ok true, after)) :
    MigratedTo P password draws.ratchetKey session.db after := by
  obtain ⟨refused, -⟩ | ⟨key, -, inMemory, ⟨wrapper, stored, -⟩ | ⟨-, rfl, middle, same, made⟩⟩ :=
    load_cases loaded
  · exact (refused rfl).elim
  · rw [missing] at stored
    cases stored
  · have friends : middle.friends = session.db.friends := congrArg (fun columns => columns.1) same
    have salt : middle.texts .ratchetHkdfSalt = some saltText :=
      (congrArg (fun columns => columns.2.1) same).trans salted
    obtain ⟨⟨salt', decoded, moved⟩, noSalt, wrapped⟩ := newRatchetStorageKey_ok lawful lengths salt made
    exact ⟨inMemory, ⟨saltText, salt', salted, decoded, friends ▸ moved⟩, noSalt, _, wrapped⟩

theorem MigratedTo.settled (lawful : P.Lawful) {key : Bytes} {before : Database Pem}
    {first last : Session Priv Pub Pem} (migrated : MigratedTo P password key before first)
    (loads : Loads P platform first last) : Settled P platform password key first last := by
  obtain ⟨entropy, wrapped⟩ := migrated.wrapped
  have same := loads.ratchet wrapped
  refine ⟨congrArg (fun columns => columns.1) same, congrArg (fun columns => columns.2.2) same, ?_⟩
  intro now draws final loaded
  have kept : last.db.secrets .ratchetStorageKey = some (wrap P key password entropy) :=
    (congrArg (fun columns => columns.2.2) same).trans wrapped
  obtain ⟨refused, -⟩ | ⟨found, -, inMemory, ⟨wrapper, stored, opened, -⟩ | ⟨missing, -⟩⟩ :=
    load_cases loaded
  · exact (refused rfl).elim
  · obtain rfl := Option.some.inj (kept.symm.trans stored)
    rw [unwrap_wrap lawful, if_pos rfl] at opened
    rw [inMemory, Except.ok.inj opened]
  · rw [kept] at missing
    cases missing

end Loads

theorem legacy_ratchet_blobs_migrated {Priv Pub Pem : Type} {P : Primitives Priv Pub Pem}
    {platform : Platform} (lawful : P.Lawful) {session middle : Session Priv Pub Pem}
    {saltText : String} (salted : session.db.texts .ratchetHkdfSalt = some saltText)
    (missing : session.db.secrets .ratchetStorageKey = none)
    (failed : FailedLoads P platform session middle) :
    Unmigrated session.db middle.db ∧
      ∀ password now draws first, (∀ name, (draws.blobNonce name).length = 12) →
        (load P platform password now draws).run middle = (.ok true, first) →
        ∃ key, MigratedTo P password key session.db first ∧
          ∀ last, Loads P platform first last → Settled P platform password key first last := by
  have same := failed.ratchet
  have friends : middle.db.friends = session.db.friends := congrArg (fun columns => columns.1) same
  have salt : middle.db.texts .ratchetHkdfSalt = session.db.texts .ratchetHkdfSalt :=
    congrArg (fun columns => columns.2.1) same
  have noKey : middle.db.secrets .ratchetStorageKey = none :=
    (congrArg (fun columns => columns.2.2) same).trans missing
  refine ⟨⟨friends, salt, noKey⟩, ?_⟩
  intro password now draws first lengths loaded
  have migrated := migratedTo_of_load lawful (salt.trans salted) noKey lengths loaded
  have settled (last : Session Priv Pub Pem) (loads : Loads P platform first last) :
      Settled P platform password draws.ratchetKey first last := migrated.settled lawful loads
  obtain ⟨inMemory, ⟨text, key, stored, decoded, moved⟩, noSalt, wrapped⟩ := migrated
  exact ⟨draws.ratchetKey, ⟨inMemory, ⟨text, key, salt ▸ stored, decoded, friends ▸ moved⟩, noSalt,
    wrapped⟩, settled⟩

section Toy

/-- A nonce of twelve bytes. -/
def toyNonce : Bytes := List.replicate 12 5

def toyLegacyDraws : LoadDraws where
  ratchetKey := [8]
  ratchetKeyEntropy := toyEntropy 9 10
  blobNonce _ := toyNonce

/-- A friend whose ratchet state is encrypted under the legacy key. -/
def toyLegacyRow : FriendRow where
  publicKeyPem := "bob's key"
  hasSharedSecret := false
  sharedSecretEncrypted := none
  x25519PublicKeyB64 := none
  capabilitiesJson := none
  ratchetStateJson := some (b64encode (toyNonce ++ toyLibraries.aesEncrypt [1] toyNonce [42]))
  pqcCombinedPubB64 := none
  hybridSigPubB64 := none
  ecdhPrivEncrypted := none

def toyLegacyRows : Database (String × Bytes) :=
  ((((Database.empty.setText .publicKey "my key").setKey .privateKeyEncrypted
    ("my key", [1])).setSecret .globalSecret (wrap toyLibraries [14] [1] (toyEntropy 1 2))).setText
      .ratchetHkdfSalt (b64encode [7])).replaceFriend "bob" toyLegacyRow

theorem legacy_ratchet_blobs_migrated_toy : ∃ first,
    (load toyLibraries ⟨true, true⟩ [1] 0 toyLegacyDraws).run ⟨{}, toyLegacyRows⟩ =
      (.ok true, first) ∧
    ∃ key, MigratedTo toyLibraries [1] key toyLegacyRows first := by
  have loaded : (load toyLibraries ⟨true, true⟩ [1] 0 toyLegacyDraws).run ⟨{}, toyLegacyRows⟩ =
      (.ok true, ((load toyLibraries ⟨true, true⟩ [1] 0 toyLegacyDraws).run ⟨{}, toyLegacyRows⟩).2) :=
    Prod.ext (by decide +kernel) rfl
  have salted : toyLegacyRows.texts .ratchetHkdfSalt = some (b64encode [7]) := rfl
  have start : (⟨{}, toyLegacyRows⟩ : Session String String (String × Bytes)).db = toyLegacyRows := rfl
  have failed : FailedLoads toyLibraries ⟨true, true⟩
      (⟨{}, toyLegacyRows⟩ : Session String String (String × Bytes)) ⟨{}, toyLegacyRows⟩ := .none
  obtain ⟨-, migrates⟩ :=
    legacy_ratchet_blobs_migrated toyLibraries_lawful (start ▸ salted) rfl failed
  obtain ⟨key, migrated, -⟩ := migrates [1] 0 toyLegacyDraws _ (fun _ => rfl) loaded
  exact ⟨_, loaded, key, migrated⟩

end Toy

end UltimateEnigma.KeyStore
