import UltimateEnigma.LoadedSecrets

set_option autoImplicit false

namespace UltimateEnigma.KeyStore

open Py

section Loading

variable {Priv Pub Pem : Type} {P : Primitives Priv Pub Pem} {platform : Platform}
variable {password : Bytes} {now : Rat} {draws : LoadDraws} {session after : Session Priv Pub Pem}

theorem loadPublicKey_silent (documented : P.Documented) :
    ¬ (loadPublicKey P).Raises Raised.BlamesWrapper session := by
  rintro ⟨raised, failed, blames⟩
  rw [loadPublicKey, Call.run_read_bind] at failed
  cases stored : session.db.texts .publicKey with
  | none =>
      rw [stored] at failed
      cases failed
      exact blames
  | some pem =>
      rw [stored, Call.run_require_bind] at failed
      cases parsed : P.pemToPubkey pem with
      | ok pub =>
          rw [parsed] at failed
          cases failed
      | error other =>
          rw [parsed] at failed
          cases failed
          exact not_loud_of_valueOrType (documented.pemToPubkey parsed) blames

/-- A PEM that does not open is passed over. -/
theorem attempt_pemToPrivkey (documented : P.Documented) (pem : Pem) :
    attempt (P.pemToPrivkey pem password) = .ok (P.pemToPrivkey pem password).toOption := by
  cases opening : P.pemToPrivkey pem password with
  | ok priv => rfl
  | error raised =>
      rw [attempt, documented.pemToPrivkey opening]
      rfl

theorem loadPrivateKey_silent (documented : P.Documented) :
    ¬ (loadPrivateKey P password).Raises Raised.BlamesWrapper session := by
  rintro ⟨raised, failed, blames⟩
  rw [loadPrivateKey, Call.run_read_bind] at failed
  cases stored : session.db.keys .privateKeyEncrypted with
  | none =>
      rw [stored] at failed
      cases failed
      exact blames
  | some pem =>
      rw [stored, Call.run_require_bind, attempt_pemToPrivkey documented] at failed
      cases opening : (P.pemToPrivkey pem password).toOption with
      | none =>
          rw [opening] at failed
          cases failed
      | some priv =>
          rw [opening] at failed
          cases failed

theorem loadPrivateKey_closed (documented : P.Documented) {pem : Pem}
    (stored : session.db.keys .privateKeyEncrypted = some pem)
    (closed : ∀ priv, P.pemToPrivkey pem password ≠ .ok priv) :
    (loadPrivateKey P password).run session = (.ok false, session) := by
  have nothing : (P.pemToPrivkey pem password).toOption = none := by
    cases opening : P.pemToPrivkey pem password with
    | ok priv => exact absurd opening (closed priv)
    | error raised => rfl
  rw [loadPrivateKey, Call.run_read_bind, stored, Call.run_require_bind,
    attempt_pemToPrivkey documented, nothing]
  rfl

theorem readLegacyKey_opened (documented : P.Documented) (db : Database Pem) :
    readLegacyKey P db password now = .ok (openedLegacyKey P password db now) := by
  unfold readLegacyKey openedLegacyKey
  cases db.keys .legacyPrivateKeyEncrypted with
  | none =>
      rw [Option.bind_none, ite_self]
  | some pem =>
      dsimp only
      split
      · exact attempt_pemToPrivkey documented pem
      · rfl

/-- What `load_keys` does behind the RSA keys. -/
def loadBehindRsa (P : Primitives Priv Pub Pem) (platform : Platform) (password : Bytes) :
    StoreCall Priv Pub Pem Bool := do
  if ← loadGlobalSecret P password then loadSecrets P platform password else return false

theorem loadKeys_eq_behind : loadKeys P platform password now = (do
    loadPublicKey P
    if ← loadPrivateKey P password then
      loadLegacyKey P password now
      loadBehindRsa P platform password
    else return false) := rfl

/-- With the RSA keys read the load goes on behind them. -/
theorem loadKeys_run_behind {pub : Pub} {priv : Priv} {legacy : Option Priv}
    (pubRead : ∃ pem, session.db.texts .publicKey = some pem ∧ P.pemToPubkey pem = .ok pub)
    (privRead : ∃ pem, session.db.keys .privateKeyEncrypted = some pem ∧
      P.pemToPrivkey pem password = .ok priv)
    (legacyRead : readLegacyKey P session.db password now = .ok legacy) :
    (loadKeys P platform password now).run session = (loadBehindRsa P platform password).run
      ⟨withLegacy (withPriv (withPub P session.store pub) priv) legacy,
        keepUnexpired session.db now⟩ := by
  have first := loadPublicKey_ok_iff.mpr ⟨pub, pubRead, rfl⟩
  have second : (loadPrivateKey P password).run ⟨withPub P session.store pub, session.db⟩ =
      (.ok true, _) := loadPrivateKey_true_iff.mpr ⟨priv, privRead, rfl⟩
  have third : (loadLegacyKey P password now).run
      ⟨withPriv (withPub P session.store pub) priv, session.db⟩ = (.ok (),
        ⟨withLegacy (withPriv (withPub P session.store pub) priv) legacy,
          keepUnexpired session.db now⟩) := loadLegacyKey_ok_iff.mpr ⟨legacy, legacyRead, rfl⟩
  rw [loadKeys_eq_behind, Call.run_bind_of_ok first, Call.run_bind_of_ok second, if_pos rfl,
    Call.run_bind_of_ok third]

theorem loadKeys_run_of_reads (documented : P.Documented) (pub : ReadsPublicKey P session.db)
    (priv : ReadsPrivateKey P password session.db) :
    ∃ store, (loadKeys P platform password now).run session =
      (loadBehindRsa P platform password).run ⟨store, keepUnexpired session.db now⟩ := by
  obtain ⟨pub, pem, stored, parsed⟩ := pub
  obtain ⟨priv, pem', stored', opened⟩ := priv
  exact ⟨_, loadKeys_run_behind ⟨pem, stored, parsed⟩ ⟨pem', stored', opened⟩
    (readLegacyKey_opened documented session.db)⟩

theorem loadKeys_silent_of_unread (documented : P.Documented)
    (unread : ¬ (ReadsPublicKey P session.db ∧ ReadsPrivateKey P password session.db)) :
    ¬ (loadKeys P platform password now).Raises Raised.BlamesWrapper session := by
  rw [loadKeys_eq_behind]
  refine Call.not_raises_bind_iff.mpr ⟨loadPublicKey_silent documented, fun _ first pubRan => ?_⟩
  refine Call.not_raises_bind_iff.mpr
    ⟨loadPrivateKey_silent documented, fun went second privRan => ?_⟩
  cases went with
  | false => exact Call.Returns.not_raises ⟨false, _, rfl⟩
  | true =>
      obtain ⟨pub, parsed, rfl⟩ := loadPublicKey_ok_iff.mp pubRan
      obtain ⟨priv, opened, _⟩ := loadPrivateKey_true_iff.mp privRan
      exact absurd ⟨⟨pub, parsed⟩, ⟨priv, opened⟩⟩ unread

section GlobalSecret

theorem loadGlobalSecret_opens (opens : OpensGlobalSecret P password session.db) :
    (loadGlobalSecret P password).run session = (.ok true,
      ⟨withGlobalSecret session.store (opened P password (session.db.secrets .globalSecret)),
        session.db⟩) := by
  rw [loadGlobalSecret, Call.run_read_bind]
  cases stored : session.db.secrets .globalSecret with
  | none => rfl
  | some wrapper =>
      obtain ⟨plain, opening, plain_eq⟩ : ∃ plain, unwrap P wrapper password = .ok plain ∧
        opened P password (some wrapper) = some plain := opened_of_open rfl (opens wrapper stored)
      rw [plain_eq]
      cases wrapper with
      | malformed => cases opening
      | json enc =>
          have decrypted : decryptSecret P enc password = .ok plain := opening
          simp only [jsonLoads, Call.run_lift_ok_bind, decrypted]
          rfl

theorem loadGlobalSecret_closed {enc : EncValue}
    (stored : session.db.secrets .globalSecret = some (.json enc))
    (quiet : Quiet P password (.json enc)) (closed : Closed P password (.json enc)) :
    (loadGlobalSecret P password).run session = (.ok false, session) := by
  have nothing : attempt (decryptSecret P enc password) = .ok none := by
    cases opening : decryptSecret P enc password with
    | ok plain => exact absurd opening (closed plain)
    | error raised =>
        rw [attempt, quiet raised opening]
        rfl
  rw [loadGlobalSecret, Call.run_read_bind, stored]
  simp only [jsonLoads, Call.run_lift_ok_bind, nothing]
  rfl

theorem quiet_of_loadGlobalSecret (documented : P.Documented)
    (silent : ¬ (loadGlobalSecret P password).Raises Raised.BlamesWrapper session) :
    QuietColumn P password (session.db.secrets .globalSecret) := by
  intro wrapper stored
  by_contra loud
  obtain ⟨raised, failed, of_kind⟩ := attempt_unwrap_loud documented loud
  refine silent ⟨raised, ?_, of_kind⟩
  rw [loadGlobalSecret, Call.run_read_bind]
  cases wrapper with
  | malformed =>
      cases failed
  | json enc =>
      have decrypted : attempt (decryptSecret P enc password) = .error raised := failed
      simp only [Option.mem_def.mp stored, jsonLoads, Call.run_lift_ok_bind, decrypted]
      rfl

theorem opens_of_loadGlobalSecret
    (ran : (loadGlobalSecret P password).run session = (.ok true, after)) :
    OpensGlobalSecret P password session.db := by
  intro wrapper stored closed
  rw [loadGlobalSecret, Call.run_read_bind] at ran
  simp only [Option.mem_def.mp stored] at ran
  obtain ⟨enc, parsed, ran⟩ := Call.ok_of_run_lift_bind ran
  obtain ⟨found, opening, ran⟩ := Call.ok_of_run_lift_bind ran
  cases found with
  | none => cases ran
  | some plain =>
      refine closed plain ?_
      rw [unwrap, parsed, ok_bind]
      exact attempt_eq_some_iff.mp opening

end GlobalSecret

/-- Keys that were loaded were all read on the way. -/
theorem loadKeys_true
    (ran : (loadKeys P platform password now).run session = (.ok true, after)) :
    ReadsPublicKey P session.db ∧ ReadsPrivateKey P password session.db ∧
      OpensGlobalSecret P password session.db ∧ ReadsFriends P platform session.db ∧
        after.db = keepUnexpired session.db now := by
  rw [loadKeys_eq_behind] at ran
  obtain ⟨_, first, pubRan, ran⟩ := Call.ok_of_run_bind ran
  obtain ⟨pub, parsed, rfl⟩ := loadPublicKey_ok_iff.mp pubRan
  obtain ⟨went, second, privRan, ran⟩ := Call.ok_of_run_bind ran
  cases went with
  | false => cases ran
  | true =>
      obtain ⟨priv, opened, rfl⟩ := loadPrivateKey_true_iff.mp privRan
      obtain ⟨_, third, legacyRan, ran⟩ := Call.ok_of_run_bind ran
      obtain ⟨legacy, _, rfl⟩ := loadLegacyKey_ok_iff.mp legacyRan
      obtain ⟨went, fourth, globalRan, ran⟩ := Call.ok_of_run_bind ran
      cases went with
      | false => cases ran
      | true =>
          have opens := opens_of_loadGlobalSecret globalRan
          have fourth_db := (loadGlobalSecret_keeps spared_db password).of_run globalRan
          obtain ⟨_, reads, last_db⟩ := loadSecrets_ok ran
          unfold OpensGlobalSecret at opens
          unfold ReadsFriends at reads
          rw [keepUnexpired_secrets] at opens
          rw [fourth_db, keepUnexpired_friends] at reads
          exact ⟨⟨pub, parsed⟩, ⟨priv, opened⟩, opens, reads, last_db.trans fourth_db⟩

theorem loadKeys_settles (quiet : LoadQuiet P platform password session.db) :
    (loadKeys P platform password now).CommutesAt (settle P password) session := by
  rw [loadKeys_eq_behind]
  refine Call.commutesAt_bind (loadPublicKey_settles.at _) fun _ first pubRan => ?_
  obtain ⟨pub, parsed, rfl⟩ := loadPublicKey_ok_iff.mp pubRan
  refine Call.commutesAt_bind (loadPrivateKey_settles.at _) fun went second privRan => ?_
  cases went with
  | false => rfl
  | true =>
      obtain ⟨priv, opened, rfl⟩ := loadPrivateKey_true_iff.mp privRan
      obtain ⟨global, behind⟩ := quiet ⟨pub, parsed⟩ ⟨priv, opened⟩
      refine Call.commutesAt_bind ((loadLegacyKey_settles now).at _) fun _ third legacyRan => ?_
      obtain ⟨legacy, _, rfl⟩ := loadLegacyKey_ok_iff.mp legacyRan
      refine Call.commutesAt_bind (loadGlobalSecret_settles ?_) fun went fourth globalRan => ?_
      · simpa only [keepUnexpired_secrets] using global
      · cases went with
        | false => rfl
        | true =>
            have opens := opens_of_loadGlobalSecret globalRan
            have fourth_db := (loadGlobalSecret_keeps spared_db password).of_run globalRan
            unfold OpensGlobalSecret at opens
            rw [keepUnexpired_secrets] at opens
            obtain ⟨settings, friends, _⟩ := behind opens
            refine loadSecrets_settles ?_ ?_
            · rw [fourth_db]
              exact settings.congr (keepUnexpired_secrets _ _) (keepUnexpired_texts _ _)
            · rw [fourth_db, keepUnexpired_friends]
              exact friends

/-- Behind the RSA keys nothing is blamed on a wrapper just where the wrappers are quiet. -/
theorem loadBehindRsa_silent_iff (documented : P.Documented)
    (parses : ∀ wrapper ∈ session.db.secrets .globalSecret, wrapper ≠ .malformed) :
    ¬ (loadBehindRsa P platform password).Raises Raised.BlamesWrapper session ↔
      QuietColumn P password (session.db.secrets .globalSecret) ∧
        (OpensGlobalSecret P password session.db →
          QuietSettings P platform password session.db ∧
            QuietFriends P platform password session.db.friends.items) := by
  constructor
  · intro silent
    obtain ⟨first, rest⟩ := Call.not_raises_bind_iff.mp silent
    refine ⟨quiet_of_loadGlobalSecret documented first, fun opens => ?_⟩
    have secrets := rest true _ (loadGlobalSecret_opens opens)
    rw [if_pos rfl, loadSecrets_silent_iff documented] at secrets
    exact secrets
  · rintro ⟨quiet, behind⟩
    by_cases opens : OpensGlobalSecret P password session.db
    · rw [loadBehindRsa, Call.raises_bind_of_ok (loadGlobalSecret_opens opens), if_pos rfl,
        loadSecrets_silent_iff documented]
      exact behind opens
    · obtain ⟨wrapper, closed⟩ := not_forall.mp opens
      obtain ⟨stored, closed⟩ := Classical.not_imp.mp closed
      obtain ⟨enc, rfl⟩ := json_of_ne_malformed (parses wrapper stored)
      have ran : (loadGlobalSecret P password).run session = _ :=
        loadGlobalSecret_closed stored (quiet _ stored) (not_not.mp closed)
      rw [loadBehindRsa, Call.raises_bind_of_ok ran]
      exact Call.Returns.not_raises ⟨false, _, rfl⟩

/-- What a load does that reports each of its failures as documented: `False` where the private
key, the global secret or the ratchet storage key cannot be unwrapped, no exception for any
wrapper, and where these three and the public keys can be read `True` and everything that opens,
with nothing in the place of what does not. All of it is what the load would do if every wrapper
that does not open had a bad salt, which each `except` clause names. -/
structure ReportsFailures (P : Primitives Priv Pub Pem) (platform : Platform) (password : Bytes)
    (now : Rat) (draws : LoadDraws) (session : Session Priv Pub Pem) : Prop where
  privateKey {pem : Pem} (pub : ReadsPublicKey P session.db)
    (stored : session.db.keys .privateKeyEncrypted = some pem)
    (closed : ∀ priv, P.pemToPrivkey pem password ≠ .ok priv) :
    ((load P platform password now draws).run session).1 = .ok false
  globalSecret {wrapper : Wrapper} (pub : ReadsPublicKey P session.db)
    (priv : ReadsPrivateKey P password session.db)
    (stored : session.db.secrets .globalSecret = some wrapper)
    (closed : Closed P password wrapper) :
    ((load P platform password now draws).run session).1 = .ok false
  ratchetStorageKey {wrapper : Wrapper} (pub : ReadsPublicKey P session.db)
    (priv : ReadsPrivateKey P password session.db)
    (opens : OpensGlobalSecret P password session.db) (reads : ReadsFriends P platform session.db)
    (stored : session.db.secrets .ratchetStorageKey = some wrapper)
    (closed : Closed P password wrapper) :
    ((load P platform password now draws).run session).1 = .ok false
  loads (pub : ReadsPublicKey P session.db) (priv : ReadsPrivateKey P password session.db)
    (opens : OpensGlobalSecret P password session.db) (reads : ReadsFriends P platform session.db)
    (has : HasRatchetKey P password session.db) :
    ((load P platform password now draws).run session).1 = .ok true ∧
      HoldsWhatOpens P platform password session.db now draws
        ((load P platform password now draws).run session).2.store
  silent : ¬ (load P platform password now draws).Raises Raised.BlamesWrapper session
  skips : ((load P platform password now draws).run (settle P password session)).1 =
      ((load P platform password now draws).run session).1 ∧
    ((load P platform password now draws).run (settle P password session)).2.store =
      ((load P platform password now draws).run session).2.store

theorem loadKeys_silent (documented : P.Documented)
    (quiet : LoadQuiet P platform password session.db) :
    ¬ (loadKeys P platform password now).Raises Raised.BlamesWrapper session := by
  by_cases reads : ReadsPublicKey P session.db ∧ ReadsPrivateKey P password session.db
  · obtain ⟨global, behind⟩ := quiet reads.1 reads.2
    obtain ⟨store, ran⟩ : ∃ store, (loadKeys P platform password now).run session = _ :=
      loadKeys_run_of_reads documented reads.1 reads.2
    rw [Call.Raises, ran, ← Call.Raises, loadBehindRsa_silent_iff documented]
    · unfold OpensGlobalSecret
      simp only [keepUnexpired_secrets, keepUnexpired_friends]
      refine ⟨fun wrapper stored => (global wrapper stored).2, fun opens => ?_⟩
      obtain ⟨settings, friends, _⟩ := behind opens
      exact ⟨settings.congr (keepUnexpired_secrets _ _) (keepUnexpired_texts _ _), friends⟩
    · rw [keepUnexpired_secrets]
      exact fun wrapper stored => (global wrapper stored).1
  · exact loadKeys_silent_of_unread documented reads

theorem raises_loadKeys_iff :
    (Call.mapError (asKeyStoreError "Key loading failed: ")
      (loadKeys P platform password now)).Raises Raised.BlamesWrapper session ↔
      (loadKeys P platform password now).Raises Raised.BlamesWrapper session := by
  rw [Call.raises_mapError_iff]
  simp only [blames_asKeyStoreError_iff]

/-- The keys were loaded, so the ratchet storage key comes next. -/
theorem ratchet_quiet_of_loadKeys (quiet : LoadQuiet P platform password session.db)
    (ran : (loadKeys P platform password now).run session = (.ok true, after)) :
    QuietColumn P password (after.db.secrets .ratchetStorageKey) := by
  obtain ⟨pub, priv, opens, reads, after_db⟩ := loadKeys_true ran
  rw [after_db, keepUnexpired_secrets]
  exact ((quiet pub priv).2 opens).2.2 reads

theorem load_silent (documented : P.Documented)
    (quiet : LoadQuiet P platform password session.db) :
    ¬ (load P platform password now draws).Raises Raised.BlamesWrapper session := by
  refine Call.not_raises_bind_iff.mpr ⟨?_, fun went after ran => ?_⟩
  · rw [raises_loadKeys_iff]
    exact loadKeys_silent documented quiet
  · cases went with
    | false => exact Call.Returns.not_raises ⟨false, _, rfl⟩
    | true =>
        rw [Call.run_mapError_ok_iff] at ran
        have ratchet : (loadRatchetStorageKey P password draws).Returns after :=
          loadRatchetStorageKey_of_quiet (ratchet_quiet_of_loadKeys quiet ran)
        refine Call.Returns.not_raises (Call.returns_bind ratchet fun found _ _ => ?_)
        cases found with
        | none => exact ⟨false, _, rfl⟩
        | some key => exact ⟨true, _, rfl⟩

theorem load_settles (quiet : LoadQuiet P platform password session.db) :
    ((load P platform password now draws).run (settle P password session)).1 =
        ((load P platform password now draws).run session).1 ∧
      ((load P platform password now draws).run (settle P password session)).2.store =
        ((load P platform password now draws).run session).2.store := by
  have keys : (loadKeys P platform password now).CommutesAt (settle P password) session :=
    loadKeys_settles quiet
  have keys := Call.commutesAt_mapError (asKeyStoreError "Key loading failed: ") keys
  rw [load, Call.run_bind, Call.run_bind, keys]
  cases ran : (Call.mapError (asKeyStoreError "Key loading failed: ")
      (loadKeys P platform password now)).run session with
  | mk result after =>
      cases result with
      | error raised => exact ⟨rfl, rfl⟩
      | ok went =>
          cases went with
          | false => exact ⟨rfl, rfl⟩
          | true =>
              rw [Call.run_mapError_ok_iff] at ran
              obtain ⟨same, store⟩ : ((loadRatchetStorageKey P password draws).run _).1 = _ ∧ _ :=
                loadRatchetStorageKey_settles (ratchet_quiet_of_loadKeys quiet ran)
              dsimp only
              rw [if_pos rfl, Call.run_bind, Call.run_bind]
              generalize (loadRatchetStorageKey P password draws).run (settle P password after) =
                other at same store
              generalize (loadRatchetStorageKey P password draws).run after = found at same store
              obtain ⟨otherResult, otherAfter⟩ := other
              obtain ⟨foundResult, foundAfter⟩ := found
              cases same
              cases otherResult with
              | error raised => exact ⟨rfl, store⟩
              | ok key =>
                  cases key with
                  | none => exact ⟨rfl, store⟩
                  | some key => exact ⟨rfl, congrArg (withRatchetKey · key) store⟩

theorem load_of_loadKeys_false
    (ran : (loadKeys P platform password now).run session = (.ok false, after)) :
    ((load P platform password now draws).run session).1 = .ok false := by
  have mapped := (Call.run_mapError_ok_iff (asKeyStoreError "Key loading failed: ") _ _ _ _).mpr ran
  rw [load, Call.run_bind_of_ok mapped]
  rfl

theorem load_privateKey_closed (documented : P.Documented) {pem : Pem}
    (pub : ReadsPublicKey P session.db)
    (stored : session.db.keys .privateKeyEncrypted = some pem)
    (closed : ∀ priv, P.pemToPrivkey pem password ≠ .ok priv) :
    ((load P platform password now draws).run session).1 = .ok false := by
  obtain ⟨pub, text, row, parsed⟩ := pub
  have first := loadPublicKey_ok_iff.mpr ⟨pub, ⟨text, row, parsed⟩, rfl⟩
  have second : (loadPrivateKey P password).run ⟨withPub P session.store pub, session.db⟩ =
      (.ok false, _) := loadPrivateKey_closed documented stored closed
  have keys : (loadKeys P platform password now).run session =
      (.ok false, ⟨withPub P session.store pub, session.db⟩) := by
    rw [loadKeys_eq_behind, Call.run_bind_of_ok first, Call.run_bind_of_ok second]
    rfl
  exact load_of_loadKeys_false keys

theorem load_globalSecret_closed (documented : P.Documented) {enc : EncValue}
    (pub : ReadsPublicKey P session.db) (priv : ReadsPrivateKey P password session.db)
    (stored : session.db.secrets .globalSecret = some (.json enc))
    (quiet : Quiet P password (.json enc)) (closed : Closed P password (.json enc)) :
    ((load P platform password now draws).run session).1 = .ok false := by
  obtain ⟨store, ran⟩ : ∃ store, (loadKeys P platform password now).run session = _ :=
    loadKeys_run_of_reads documented pub priv
  have behind : (loadGlobalSecret P password).run ⟨store, keepUnexpired session.db now⟩ = _ :=
    loadGlobalSecret_closed (by rwa [keepUnexpired_secrets]) quiet closed
  rw [loadBehindRsa, Call.run_bind_of_ok behind] at ran
  exact load_of_loadKeys_false ran

/-- With everything before it read, the load comes to the ratchet storage key; that one is all that
the store is short of. -/
theorem loadKeys_run_true (documented : P.Documented)
    (settings : QuietSettings P platform password session.db)
    (friends : QuietFriends P platform password session.db.friends.items)
    (pub : ReadsPublicKey P session.db) (priv : ReadsPrivateKey P password session.db)
    (opens : OpensGlobalSecret P password session.db)
    (reads : ReadsFriends P platform session.db) (draws : LoadDraws) :
    ∃ after, (loadKeys P platform password now).run session = (.ok true, after) ∧
      HoldsWhatOpens P platform password session.db now draws (withRatchetKey after.store
        ((opened P password (session.db.secrets .ratchetStorageKey)).getD draws.ratchetKey)) := by
  obtain ⟨pub, text, pubStored, parsed⟩ := pub
  obtain ⟨priv, pem, privStored, privOpened⟩ := priv
  obtain ⟨⟨read, readsAll⟩, each⟩ := readFriends_of_quiet friends reads
  have behind : (loadKeys P platform password now).run session = _ := loadKeys_run_behind
    ⟨text, pubStored, parsed⟩ ⟨pem, privStored, privOpened⟩
    (readLegacyKey_opened documented session.db)
  have kept_secrets := keepUnexpired_secrets session.db now
  have kept_texts := keepUnexpired_texts session.db now
  have global : OpensGlobalSecret P password (keepUnexpired session.db now) := by
    unfold OpensGlobalSecret
    rwa [kept_secrets]
  refine ⟨⟨keysLoaded P platform password session.db now pub priv read session.store,
    keepUnexpired session.db now⟩, ?_, holdsWhatOpens_loaded ⟨pubStored, parsed⟩
      ⟨privStored, privOpened⟩ readsAll each⟩
  rw [behind, loadBehindRsa, Call.run_bind_of_ok (loadGlobalSecret_opens global), if_pos rfl,
    loadSecrets_run (settings.congr kept_secrets kept_texts)
      (by rw [keepUnexpired_friends]; exact readsAll),
    secretsLoaded_congr kept_secrets kept_texts, kept_secrets]
  rfl

theorem load_ratchetStorageKey_closed
    (ran : (loadKeys P platform password now).run session = (.ok true, after)) {wrapper : Wrapper}
    (stored : session.db.secrets .ratchetStorageKey = some wrapper)
    (quiet : Quiet P password wrapper) (closed : Closed P password wrapper) :
    ((load P platform password now draws).run session).1 = .ok false := by
  obtain ⟨_, _, _, _, after_db⟩ := loadKeys_true ran
  have mapped := (Call.run_mapError_ok_iff (asKeyStoreError "Key loading failed: ") _ _ _ _).mpr ran
  have ratchet : (loadRatchetStorageKey P password draws).run after = _ :=
    loadRatchetStorageKey_closed (by rw [after_db, keepUnexpired_secrets, stored]) quiet closed
  rw [load, Call.run_bind_of_ok mapped, if_pos rfl, Call.run_bind_of_ok ratchet]
  rfl

theorem load_true (ran : (loadKeys P platform password now).run session = (.ok true, after))
    (has : HasRatchetKey P password session.db) :
    ∃ rows, (load P platform password now draws).run session =
      (.ok true, ⟨withRatchetKey after.store
        ((opened P password (session.db.secrets .ratchetStorageKey)).getD draws.ratchetKey),
        rows⟩) := by
  obtain ⟨_, _, _, _, after_db⟩ := loadKeys_true ran
  have mapped := (Call.run_mapError_ok_iff (asKeyStoreError "Key loading failed: ") _ _ _ _).mpr ran
  have kept : HasRatchetKey P password after.db := by
    unfold HasRatchetKey
    rw [after_db, keepUnexpired_secrets, keepUnexpired_texts]
    exact has
  obtain ⟨rows, ratchet⟩ : ∃ rows, (loadRatchetStorageKey P password draws).run after = _ :=
    loadRatchetStorageKey_opens kept
  rw [after_db, keepUnexpired_secrets] at ratchet
  rw [load, Call.run_bind_of_ok mapped, if_pos rfl, Call.run_bind_of_ok ratchet]
  exact ⟨rows, rfl⟩

theorem reportsFailures_of_quiet (documented : P.Documented)
    (quiet : LoadQuiet P platform password session.db) :
    ReportsFailures P platform password now draws session where
  privateKey pub stored closed := load_privateKey_closed documented pub stored closed
  globalSecret pub priv stored closed := by
    obtain ⟨parses, quietGlobal⟩ := (quiet pub priv).1 _ stored
    obtain ⟨enc, rfl⟩ := json_of_ne_malformed parses
    exact load_globalSecret_closed documented pub priv stored quietGlobal closed
  ratchetStorageKey pub priv opens reads stored closed := by
    obtain ⟨settings, friends, ratchet⟩ := (quiet pub priv).2 opens
    obtain ⟨after, ran, _⟩ :=
      loadKeys_run_true documented settings friends pub priv opens reads draws
    exact load_ratchetStorageKey_closed ran stored (ratchet reads _ stored) closed
  loads pub priv opens reads has := by
    obtain ⟨settings, friends, _⟩ := (quiet pub priv).2 opens
    obtain ⟨after, ran, holds⟩ :=
      loadKeys_run_true documented settings friends pub priv opens reads draws
    obtain ⟨rows, loaded⟩ : ∃ rows, (load P platform password now draws).run session = _ :=
      load_true ran has
    rw [loaded]
    exact ⟨rfl, holds⟩
  silent := load_silent documented quiet
  skips := load_settles quiet

/-- A global secret that is not JSON ends the load in an exception. -/
theorem load_globalSecret_malformed (documented : P.Documented)
    (pub : ReadsPublicKey P session.db) (priv : ReadsPrivateKey P password session.db)
    (stored : session.db.secrets .globalSecret = some .malformed) :
    ((load P platform password now draws).run session).1 ≠ .ok false := by
  obtain ⟨store, ran⟩ : ∃ store, (loadKeys P platform password now).run session = _ :=
    loadKeys_run_of_reads documented pub priv
  have column : (keepUnexpired session.db now).secrets .globalSecret = some .malformed := by
    rw [keepUnexpired_secrets, stored]
  have failed : (loadKeys P platform password now).run session =
      (.error .valueError, ⟨store, keepUnexpired session.db now⟩) := by
    rw [ran, loadBehindRsa, loadGlobalSecret, Call.run_bind, Call.run_read_bind, column]
    rfl
  rw [load, Call.run_bind, Call.run_mapError, failed]
  intro impossible
  cases impossible

theorem quiet_of_reportsFailures (documented : P.Documented)
    (reports : ReportsFailures P platform password now draws session) :
    LoadQuiet P platform password session.db := by
  intro pub priv
  have parses : ∀ wrapper ∈ session.db.secrets .globalSecret, wrapper ≠ .malformed := by
    rintro wrapper stored rfl
    exact load_globalSecret_malformed documented pub priv stored
      (reports.globalSecret pub priv stored nofun)
  obtain ⟨first, rest⟩ := Call.not_raises_bind_iff.mp reports.silent
  rw [raises_loadKeys_iff] at first
  obtain ⟨store, ran⟩ : ∃ store, (loadKeys P platform password now).run session = _ :=
    loadKeys_run_of_reads documented pub priv
  have behind : ¬ (loadBehindRsa P platform password).Raises Raised.BlamesWrapper
      ⟨store, keepUnexpired session.db now⟩ := by
    rw [Call.Raises, ran] at first
    exact first
  rw [loadBehindRsa_silent_iff documented (by rwa [keepUnexpired_secrets])] at behind
  unfold OpensGlobalSecret at behind
  simp only [keepUnexpired_secrets, keepUnexpired_friends] at behind
  obtain ⟨global, secrets⟩ := behind
  refine ⟨fun wrapper stored => ⟨parses wrapper stored, global wrapper stored⟩, fun opens => ?_⟩
  obtain ⟨settings, friends⟩ := secrets opens
  have kept := settings.congr (keepUnexpired_secrets session.db now).symm
    (keepUnexpired_texts session.db now).symm
  refine ⟨kept, friends, fun reads => ?_⟩
  obtain ⟨after, loaded, _⟩ : ∃ after, (loadKeys P platform password now).run session = _ ∧ _ :=
    loadKeys_run_true documented kept friends pub priv opens reads draws
  have mapped := (Call.run_mapError_ok_iff (asKeyStoreError "Key loading failed: ") _ _ _ _).mpr
    loaded
  have ratchet := quiet_of_loadRatchetStorageKey documented
    (Call.not_raises_bind_iff.mp (rest true after mapped)).1
  obtain ⟨_, _, _, _, after_db⟩ := loadKeys_true loaded
  rwa [after_db, keepUnexpired_secrets] at ratchet

end Loading

section Passwords

variable {Priv Pub Pem : Type} (P : Primitives Priv Pub Pem) (password : Bytes)

/-- A private key of the bundle that cannot be unwrapped: there is no bundle. -/
def ReportsBundle (session : Session Priv Pub Pem) : Prop :=
  ∀ wrapper, (session.db.secrets .kyberPrivEncrypted = some wrapper ∨
      session.db.secrets .pqcX25519PrivEncrypted = some wrapper) →
    Closed P password wrapper → ((loadPqcBundle P password).run session).1 = .ok none

/-- The wrappers of the bundle, as far as `load_pqc_bundle` comes to them. -/
def QuietBundle (db : Database Pem) : Prop :=
  ∀ kyber x25519 pub, db.secrets .kyberPrivEncrypted = some kyber →
    db.secrets .pqcX25519PrivEncrypted = some x25519 → db.texts .pqcCombinedPubB64 = some pub →
      Quiet P password kyber ∧ (¬ Closed P password kyber → Quiet P password x25519)

/-- A password that does not open the global secret is refused with a `KeyStoreError`. -/
def RefusesPassword {α : Type} (call : StoreCall Priv Pub Pem α) (session : Session Priv Pub Pem) :
    Prop :=
  ∀ wrapper, session.db.secrets .globalSecret = some wrapper → Closed P password wrapper →
    call.Raises (fun raised => raised.isKeyStoreError = true) session

variable {P password} {session : Session Priv Pub Pem}

theorem closed_of_error {wrapper : Wrapper} {raised : Raised}
    (failed : unwrap P wrapper password = .error raised) : Closed P password wrapper := by
  intro plain opening
  rw [failed] at opening
  cases opening

theorem error_of_closed {wrapper : Wrapper} (closed : Closed P password wrapper) :
    ∃ raised, unwrap P wrapper password = .error raised := by
  cases opening : unwrap P wrapper password with
  | ok plain => exact absurd opening (closed plain)
  | error raised => exact ⟨raised, rfl⟩

/-- The outcome of `load_pqc_bundle` by what the first wrapper that fails raises. -/
theorem loadPqcBundle_failed {kyber x25519 : Wrapper} {pub : String} {raised : Raised}
    (kyberRow : session.db.secrets .kyberPrivEncrypted = some kyber)
    (x25519Row : session.db.secrets .pqcX25519PrivEncrypted = some x25519)
    (pubRow : session.db.texts .pqcCombinedPubB64 = some pub)
    (failed : unwrap P kyber password = .error raised ∨
      (∃ plain, unwrap P kyber password = .ok plain) ∧ unwrap P x25519 password = .error raised) :
    ((loadPqcBundle P password).run session).1 =
      if raised.isValueOrType then .ok none else .error raised := by
  rw [loadPqcBundle, Call.run_read_bind, readPqcBundle, kyberRow, x25519Row, pubRow]
  dsimp only
  obtain first | ⟨⟨plain, opening⟩, second⟩ := failed
  · rw [first]
    show (Call.run (Call.lift (attempt (.error raised)) >>= _) _).1 = _
    rw [attempt]
    split <;> rfl
  · rw [opening, second]
    show (Call.run (Call.lift (attempt (.error raised)) >>= _) _).1 = _
    rw [attempt]
    split <;> rfl

theorem reportsBundle_iff :
    ReportsBundle P password session ↔ QuietBundle P password session.db := by
  constructor
  · intro reports kyber x25519 pub kyberRow x25519Row pubRow
    have quiet : ∀ {wrapper raised}, (session.db.secrets .kyberPrivEncrypted = some wrapper ∨
          session.db.secrets .pqcX25519PrivEncrypted = some wrapper) →
        unwrap P wrapper password = .error raised →
        ((loadPqcBundle P password).run session).1 =
          (if raised.isValueOrType then .ok none else .error raised) →
        raised.isValueOrType = true := by
      intro wrapper raised stored failed outcome
      rw [reports wrapper stored (closed_of_error failed)] at outcome
      split at outcome
      · assumption
      · cases outcome
    refine ⟨fun raised failed => ?_, fun opens raised failed => ?_⟩
    · exact quiet (.inl kyberRow) failed
        (loadPqcBundle_failed kyberRow x25519Row pubRow (.inl failed))
    · obtain ⟨plain, opening⟩ := not_forall_not.mp opens
      exact quiet (.inr x25519Row) failed
        (loadPqcBundle_failed kyberRow x25519Row pubRow (.inr ⟨⟨plain, opening⟩, failed⟩))
  · intro quiet wrapper stored closed
    cases kyberRow : session.db.secrets .kyberPrivEncrypted with
    | none =>
        rw [loadPqcBundle, Call.run_read_bind, readPqcBundle, kyberRow]
        rfl
    | some kyber =>
        cases x25519Row : session.db.secrets .pqcX25519PrivEncrypted with
        | none =>
            rw [loadPqcBundle, Call.run_read_bind, readPqcBundle, kyberRow, x25519Row]
            rfl
        | some x25519 =>
            cases pubRow : session.db.texts .pqcCombinedPubB64 with
            | none =>
                rw [loadPqcBundle, Call.run_read_bind, readPqcBundle, kyberRow, x25519Row, pubRow]
                rfl
            | some pub =>
                obtain ⟨kyberQuiet, x25519Quiet⟩ := quiet kyber x25519 pub kyberRow x25519Row pubRow
                cases opening : unwrap P kyber password with
                | error raised =>
                    rw [loadPqcBundle_failed kyberRow x25519Row pubRow (.inl opening),
                      if_pos (kyberQuiet raised opening)]
                | ok plain =>
                    have other : x25519 = wrapper := by
                      obtain first | second := stored
                      · rw [kyberRow] at first
                        cases first
                        exact absurd opening (closed plain)
                      · rw [x25519Row] at second
                        exact Option.some.inj second
                    rw [← other] at closed
                    obtain ⟨raised, failed⟩ := error_of_closed closed
                    rw [loadPqcBundle_failed kyberRow x25519Row pubRow
                      (.inr ⟨⟨plain, opening⟩, failed⟩),
                      if_pos (x25519Quiet (fun shut => shut plain opening) raised failed)]

/-- Either call begins by opening the global secret with the password. -/
theorem refusesPassword_iff {α : Type} (documented : P.Documented) {call : StoreCall Priv Pub Pem α}
    (checks : ∀ wrapper raised, session.db.secrets .globalSecret = some wrapper →
      unwrap P wrapper password = .error raised → ∃ refused,
        (call.run session).1 = .error refused ∧
          (refused = raised ∧ raised.isValueOrType = false ∨
            refused.isKeyStoreError = true ∧ raised.isValueOrType = true)) :
    RefusesPassword P password call session ↔
      QuietColumn P password (session.db.secrets .globalSecret) := by
  constructor
  · intro refuses wrapper stored raised failed
    obtain ⟨refused, ended, same | known⟩ := checks wrapper raised stored failed
    · obtain ⟨rfl, uncaught⟩ := same
      obtain ⟨other, ended', of_kind⟩ := refuses wrapper stored (closed_of_error failed)
      rw [ended] at ended'
      cases ended'
      have loud := loud_of_not_quiet documented failed uncaught
      cases refused with
      | keyStoreError message => exact loud.elim
      | keyStoreErrorFrom message cause => exact loud.elim
      | _ => cases of_kind
    · exact known.2
  · intro quiet wrapper stored closed
    obtain ⟨raised, failed⟩ := error_of_closed closed
    obtain ⟨refused, ended, same | known⟩ := checks wrapper raised stored failed
    · rw [quiet wrapper stored raised failed] at same
      cases same.2
    · exact ⟨refused, ended, known.1⟩

theorem changePassword_checks (newPassword : Bytes) (draws : Draws) {wrapper : Wrapper}
    {raised : Raised} (stored : session.db.secrets .globalSecret = some wrapper)
    (failed : unwrap P wrapper password = .error raised) : ∃ refused,
    ((changePassword P password newPassword draws).run session).1 = .error refused ∧
      (refused = raised ∧ raised.isValueOrType = false ∨
        refused.isKeyStoreError = true ∧ raised.isValueOrType = true) := by
  rw [changePassword, Call.run_mapError, Call.run_read_bind, rewrapSecrets, stored]
  dsimp only
  cases wrapper with
  | malformed =>
      cases failed
      exact ⟨_, rfl, .inr ⟨rfl, rfl⟩⟩
  | json enc =>
      have decrypted : decryptSecret P enc password = .error raised := failed
      rw [jsonLoads, ok_bind, decrypted, orKeyStoreError]
      cases caught : raised.isValueOrType with
      | true => exact ⟨_, rfl, .inr ⟨rfl, rfl⟩⟩
      | false =>
          refine ⟨_, rfl, .inl ⟨?_, rfl⟩⟩
          rw [valueOrTypeAs, caught]
          rfl

theorem rotateRsaKey_checks (priv : Priv) (now : Rat) (draws : Draws) {wrapper : Wrapper}
    {raised : Raised} (stored : session.db.secrets .globalSecret = some wrapper)
    (failed : unwrap P wrapper password = .error raised) : ∃ refused,
    ((rotateRsaKey P password priv now draws).run session).1 = .error refused ∧
      (refused = raised ∧ raised.isValueOrType = false ∨
        refused.isKeyStoreError = true ∧ raised.isValueOrType = true) := by
  rw [rotateRsaKey, Call.run_mapError, Call.run_read_bind, rotatedKeys, stored]
  dsimp only
  cases wrapper with
  | malformed =>
      cases failed
      exact ⟨_, rfl, .inr ⟨rfl, rfl⟩⟩
  | json enc =>
      have decrypted : decryptSecret P enc password = .error raised := failed
      rw [jsonLoads, ok_bind, decrypted, orKeyStoreError]
      cases caught : raised.isValueOrType with
      | true => exact ⟨_, rfl, .inr ⟨rfl, rfl⟩⟩
      | false =>
          refine ⟨_, rfl, .inl ⟨?_, rfl⟩⟩
          rw [valueOrTypeAs, caught]
          rfl

/-- Wrong keys and corrupted wrappers are reported as documented just where each wrapper that the
call comes to either opens or fails with a `ValueError` or a `TypeError`. -/
theorem wrong_keys_reported_iff (documented : P.Documented) (platform : Platform) (now : Rat)
    (draws : LoadDraws) (newPassword : Bytes) (newPriv : Priv) (entropy : Draws) :
    (ReportsFailures P platform password now draws session ↔
        LoadQuiet P platform password session.db) ∧
      (ReportsBundle P password session ↔ QuietBundle P password session.db) ∧
      (RefusesPassword P password (changePassword P password newPassword entropy) session ↔
        QuietColumn P password (session.db.secrets .globalSecret)) ∧
      (RefusesPassword P password (rotateRsaKey P password newPriv now entropy) session ↔
        QuietColumn P password (session.db.secrets .globalSecret)) := by
  refine ⟨⟨quiet_of_reportsFailures documented, reportsFailures_of_quiet documented⟩,
    reportsBundle_iff, ?_, ?_⟩
  · exact refusesPassword_iff documented fun _ _ stored failed =>
      changePassword_checks newPassword entropy stored failed
  · exact refusesPassword_iff documented fun _ _ stored failed =>
      rotateRsaKey_checks newPriv now entropy stored failed

end Passwords

section Toy

theorem toyLibraries_documented : toyLibraries.Documented where
  aesDecrypt failed := by
    unfold toyLibraries at failed
    dsimp only at failed
    split at failed <;> cases failed
    exact .inl rfl
  pemToPubkey failed := nomatch failed
  pemToPrivkey failed := by
    unfold toyLibraries at failed
    dsimp only at failed
    split at failed <;> cases failed
    rfl

/-- One friend's secret was wrapped under another password than the rest. -/
def straySession : Session String String (String × Bytes) where
  store := {}
  db := { (Database.empty : Database (String × Bytes)) with
    secrets := fun
      | .globalSecret => some (wrap toyLibraries [7] [1] (toyEntropy 0 0))
      | _ => none
    keys := fun
      | .privateKeyEncrypted => some ("me", [1])
      | _ => none
    texts := fun
      | .publicKey => some "me"
      | _ => none
    friends := Dict.empty.set "bob"
      ⟨"bob", true, some (wrap toyLibraries [9] [2] (toyEntropy 0 0)), none, none, none, none, none,
        none⟩ }

def strayDraws : Draws :=
  ⟨fun _ => toyEntropy 0 0, fun _ => [], fun _ => toyEntropy 0 0, fun _ => toyEntropy 0 0⟩

theorem wrong_keys_reported_iff_stray :
    (ReportsFailures toyLibraries ⟨false, false⟩ [1] 0 ⟨[5], toyEntropy 0 0, fun _ => []⟩
          straySession ↔
        LoadQuiet toyLibraries ⟨false, false⟩ [1] straySession.db) ∧
      (ReportsBundle toyLibraries [1] straySession ↔ QuietBundle toyLibraries [1] straySession.db) ∧
      (RefusesPassword toyLibraries [1] (changePassword toyLibraries [1] [3] strayDraws)
          straySession ↔
        QuietColumn toyLibraries [1] (straySession.db.secrets .globalSecret)) ∧
      (RefusesPassword toyLibraries [1] (rotateRsaKey toyLibraries [1] "new" 0 strayDraws)
          straySession ↔
        QuietColumn toyLibraries [1] (straySession.db.secrets .globalSecret)) :=
  wrong_keys_reported_iff toyLibraries_documented ⟨false, false⟩ 0 _ [3] "new" strayDraws

/-- A wrapper of another password is not quiet: the tag does not match. -/
theorem loud_of_other_password {plain own other : Bytes} (differ : other ≠ own) :
    ¬ Quiet toyLibraries other (wrap toyLibraries plain own (toyEntropy 0 0)) := by
  intro quiet
  have failed := unwrap_wrap toyLibraries_lawful plain own other (toyEntropy 0 0)
  rw [if_neg differ] at failed
  cases quiet _ failed

/-- One stray secret of a friend makes the whole load raise, and a wrong password leaves
`change_password` and `rotate_rsa_key` as an `InvalidTag`. -/
theorem stray_wrappers_raise :
    ¬ ReportsFailures toyLibraries ⟨false, false⟩ [1] 0 ⟨[5], toyEntropy 0 0, fun _ => []⟩
        straySession ∧
      ¬ RefusesPassword toyLibraries [3] (changePassword toyLibraries [3] [4] strayDraws)
        straySession ∧
      ¬ RefusesPassword toyLibraries [3] (rotateRsaKey toyLibraries [3] "new" 0 strayDraws)
        straySession := by
  have documented := toyLibraries_documented
  have global : ¬ QuietColumn toyLibraries [3] (straySession.db.secrets .globalSecret) :=
    fun quiet => loud_of_other_password (show [3] ≠ [1] by decide)
      (quiet (wrap toyLibraries [7] [1] (toyEntropy 0 0)) rfl)
  refine ⟨fun reports => ?_, fun refuses => global ?_, fun refuses => global ?_⟩
  · have opens : OpensGlobalSecret toyLibraries [1] straySession.db := by
      rintro _ ⟨⟩ closed
      exact closed [7] ((unwrap_wrap toyLibraries_lawful _ _ _ _).trans (if_pos rfl))
    obtain ⟨_, friends, _⟩ := (quiet_of_reportsFailures documented reports
      ⟨"me", "me", rfl, rfl⟩ ⟨"me", ("me", [1]), rfl, rfl⟩).2 opens
    have bob := (friends ⟨"bob", rfl⟩).1
    exact loud_of_other_password (show [1] ≠ [2] by decide)
      (bob (wrap toyLibraries [9] [2] (toyEntropy 0 0)) rfl)
  · exact (refusesPassword_iff documented fun _ _ stored failed =>
      changePassword_checks [4] strayDraws stored failed).mp refuses
  · exact (refusesPassword_iff documented fun _ _ stored failed =>
      rotateRsaKey_checks "new" 0 strayDraws stored failed).mp refuses

end Toy

end UltimateEnigma.KeyStore
