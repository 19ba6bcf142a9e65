import UltimateEnigma.ClosedWrappers

set_option autoImplicit false

namespace UltimateEnigma.KeyStore

open Py

/-- What was raised for a wrapper, as it is or as the cause of a `KeyStoreError`. -/
def Raised.BlamesWrapper : Raised → Prop
  | .invalidTag | .keyError _ | .attributeError | .hashingError => True
  | .keyStoreErrorFrom _ cause => cause.BlamesWrapper
  | _ => False

theorem Raised.IsLoud.blames {raised : Raised} (loud : raised.IsLoud) : raised.BlamesWrapper := by
  cases raised with
  | invalidTag | keyError _ | attributeError | hashingError => trivial
  | _ => exact loud.elim

theorem blames_asKeyStoreError_iff {message : String} {raised : Raised} :
    (asKeyStoreError message raised).BlamesWrapper ↔ raised.BlamesWrapper := by
  rw [asKeyStoreError]
  split <;> rfl

section Stages

variable {Priv Pub Pem : Type} {P : Primitives Priv Pub Pem} {platform : Platform}
variable {password : Bytes} {session after : Session Priv Pub Pem}

theorem error_of_attempt {α : Type} {computed : Except Raised α} {raised : Raised}
    (failed : attempt computed = .error raised) : computed = .error raised := by
  cases computed with
  | ok value => cases failed
  | error other =>
      rw [attempt] at failed
      split at failed <;> cases failed
      rfl

theorem attempt_of_quiet {wrapper : Wrapper} (quiet : Quiet P password wrapper) :
    attempt (unwrap P wrapper password) = .ok (unwrap P wrapper password).toOption := by
  cases opening : unwrap P wrapper password with
  | ok plain => rfl
  | error raised =>
      rw [attempt, quiet raised opening]
      rfl

theorem attemptColumn_of_quiet {column : Option Wrapper} (quiet : QuietColumn P password column) :
    attemptColumn column (unwrap P · password) = .ok (opened P password column) := by
  cases column with
  | none => rfl
  | some wrapper => exact attempt_of_quiet (quiet wrapper rfl)

/-- A wrapper that is not quiet makes the attempt raise, whatever would have been read from it. -/
theorem attempt_loud {α : Type} (documented : P.Documented) {wrapper : Wrapper}
    (loud : ¬ Quiet P password wrapper) (reading : Bytes → Except Raised α) :
    ∃ raised, attempt (unwrap P wrapper password >>= reading) = .error raised ∧
      raised.BlamesWrapper := by
  obtain ⟨raised, loud⟩ := not_forall.mp loud
  obtain ⟨failed, uncaught⟩ := Classical.not_imp.mp loud
  have passes : raised.isValueOrType = false := Bool.eq_false_iff.mpr uncaught
  refine ⟨raised, ?_, (loud_of_not_quiet documented failed passes).blames⟩
  rw [failed]
  exact attempt_error passes

theorem attempt_unwrap_loud (documented : P.Documented) {wrapper : Wrapper}
    (loud : ¬ Quiet P password wrapper) :
    ∃ raised, attempt (unwrap P wrapper password) = .error raised ∧ raised.BlamesWrapper := by
  obtain ⟨raised, failed, of_kind⟩ := attempt_loud documented loud pure
  rw [bind_pure] at failed
  exact ⟨raised, failed, of_kind⟩

theorem attemptColumn_loud (documented : P.Documented) {column : Option Wrapper}
    (loud : ¬ QuietColumn P password column) :
    ∃ raised, attemptColumn column (unwrap P · password) = .error raised ∧ raised.BlamesWrapper := by
  obtain ⟨wrapper, uncaught⟩ := not_forall.mp loud
  obtain ⟨stored, wrapper_loud⟩ := Classical.not_imp.mp uncaught
  have column_eq : column = some wrapper := stored
  rw [column_eq]
  exact attempt_unwrap_loud documented wrapper_loud

theorem attempt_fromPrivateBytes {wrapper : Wrapper} (quiet : Quiet P password wrapper) :
    attempt (unwrap P wrapper password >>= fromPrivateBytes) =
      .ok (unwrap P wrapper password >>= fromPrivateBytes).toOption := by
  cases opening : unwrap P wrapper password with
  | error raised =>
      show attempt (.error raised) = .ok none
      rw [attempt, quiet raised opening]
      rfl
  | ok plain =>
      rw [ok_bind, fromPrivateBytes]
      split <;> rfl

theorem loadKyberKey_of_quiet
    (quiet : QuietColumn P password (session.db.secrets .kyberPrivEncrypted)) :
    (loadKyberKey P password).run session = (.ok (),
      ⟨withKyber session.store (opened P password (session.db.secrets .kyberPrivEncrypted)),
        session.db⟩) := by
  rw [loadKyberKey, run_assign_bind, Call.run_read_bind]
  cases stored : session.db.secrets .kyberPrivEncrypted with
  | none => rfl
  | some wrapper =>
      simp only [attempt_of_quiet (quiet wrapper stored), opened, Option.bind_some]
      cases (unwrap P wrapper password).toOption <;> rfl

theorem quiet_of_loadKyberKey (documented : P.Documented)
    (silent : ¬ (loadKyberKey P password).Raises Raised.BlamesWrapper session) :
    QuietColumn P password (session.db.secrets .kyberPrivEncrypted) := by
  by_contra loud
  obtain ⟨raised, failed, of_kind⟩ := attemptColumn_loud documented loud
  refine silent ⟨raised, ?_, of_kind⟩
  rw [loadKyberKey, run_assign_bind, Call.run_read_bind]
  cases stored : session.db.secrets .kyberPrivEncrypted with
  | none =>
      rw [stored] at failed
      cases failed
  | some wrapper =>
      rw [stored, attemptColumn] at failed
      simp only [failed]
      rfl

/-- The combined public key next to a Kyber key in memory. -/
theorem loadPqcCombinedPub_run (cleared : session.store.myPqcCombinedPub = none) :
    loadPqcCombinedPub.run session = (.ok (),
      ⟨withPqcPub session.store (if truthy session.store.myKyberPriv then
        (session.db.texts .pqcCombinedPubB64).bind fun text => (decodeBase64 text).toOption
      else none), session.db⟩) := by
  have same : withPqcPub session.store none = session.store := by
    rw [withPqcPub, ← cleared]
  rw [loadPqcCombinedPub, Call.run_read_bind]
  cases session.db.texts .pqcCombinedPubB64 with
  | none => simp only [Option.bind_none, ite_self, same, Call.run_pure]
  | some text =>
      by_cases held : truthy session.store.myKyberPriv = true
      · simp only [held, if_true, attempt_decodeBase64, Call.run_lift_ok_bind, Option.bind_some]
        cases (decodeBase64 text).toOption with
        | none => simp only [same, Call.run_pure]
        | some pub => rfl
      · simp only [held, Bool.false_eq_true, if_false, same, Call.run_pure]

theorem cachePqcBundle_of_quiet
    (quiet : (truthy session.store.myKyberPriv && truthy session.store.myPqcCombinedPub) = true →
      QuietColumn P password (session.db.secrets .pqcX25519PrivEncrypted)) :
    (cachePqcBundle P password).run session = (.ok (), ⟨withBundle session.store
      (if truthy session.store.myKyberPriv && truthy session.store.myPqcCombinedPub then
        openedKey P password (session.db.secrets .pqcX25519PrivEncrypted) else none),
      session.db⟩) := by
  rw [cachePqcBundle, run_assign_bind, Call.run_read_bind]
  by_cases usable : (truthy session.store.myKyberPriv &&
      truthy session.store.myPqcCombinedPub) = true
  · simp only [usable, if_true]
    cases stored : session.db.secrets .pqcX25519PrivEncrypted with
    | none => rfl
    | some wrapper =>
        simp only [attempt_fromPrivateBytes (quiet usable wrapper stored), openedKey,
          Option.bind_some]
        cases (unwrap P wrapper password >>= fromPrivateBytes).toOption <;> rfl
  · simp only [usable]
    rfl

theorem quiet_of_cachePqcBundle (documented : P.Documented)
    (silent : ¬ (cachePqcBundle P password).Raises Raised.BlamesWrapper session)
    (usable : (truthy session.store.myKyberPriv && truthy session.store.myPqcCombinedPub) = true) :
    QuietColumn P password (session.db.secrets .pqcX25519PrivEncrypted) := by
  intro wrapper stored
  by_contra loud
  obtain ⟨raised, failed, of_kind⟩ := attempt_loud documented loud fromPrivateBytes
  refine silent ⟨raised, ?_, of_kind⟩
  rw [cachePqcBundle, run_assign_bind, Call.run_read_bind]
  simp only [usable, if_true, Option.mem_def.mp stored, failed]
  rfl

def withSigning (store : KeyStore Priv Pub) (edPriv dilPriv pub : Option Bytes) :
    KeyStore Priv Pub :=
  { store with myEdPriv := edPriv, myDilPriv := dilPriv, myHybridSigCombinedPub := pub }

theorem loadHybridPrivateKeys_of_quiet (available : platform.hybridSigAvailable = true)
    (quiet : QuietHybrid P password session.db) :
    (loadHybridPrivateKeys P password).run
        ⟨withSigning session.store none none none, session.db⟩ =
      (.ok (), ⟨withSigning session.store (openedEdPriv P platform password session.db)
        (openedDilPriv P platform password session.db) none, session.db⟩) := by
  unfold openedDilPriv openedEdPriv
  rw [if_pos available, loadHybridPrivateKeys, Call.run_read_bind]
  cases ed : session.db.secrets .ed25519PrivEncrypted with
  | none => cases session.db.secrets .dilithiumPrivEncrypted <;> rfl
  | some edWrapper =>
      cases dil : session.db.secrets .dilithiumPrivEncrypted with
      | none => rfl
      | some dilWrapper =>
          obtain ⟨edQuiet, dilQuiet⟩ := quiet edWrapper dilWrapper ed dil
          simp only [attempt_fromPrivateBytes edQuiet, Call.run_lift_ok_bind, openedKey,
            Option.bind_some]
          cases made : unwrap P edWrapper password >>= fromPrivateBytes with
          | error raised => rfl
          | ok edPriv =>
              simp only [Except.toOption, run_assign_bind, attempt_of_quiet (dilQuiet ⟨edPriv, made⟩),
                Call.run_lift_ok_bind, opened, Option.bind_some]
              cases unwrap P dilWrapper password <;> rfl

theorem quiet_of_loadHybridPrivateKeys (documented : P.Documented)
    (silent : ¬ (loadHybridPrivateKeys P password).Raises Raised.BlamesWrapper session) :
    QuietHybrid P password session.db := by
  intro edWrapper dilWrapper ed dil
  have edQuiet : Quiet P password edWrapper := by
    by_contra loud
    obtain ⟨raised, failed, of_kind⟩ := attempt_loud documented loud fromPrivateBytes
    refine silent ⟨raised, ?_, of_kind⟩
    rw [loadHybridPrivateKeys, Call.run_read_bind]
    simp only [ed, dil, failed]
    rfl
  refine ⟨edQuiet, ?_⟩
  rintro ⟨edPriv, made⟩
  by_contra loud
  obtain ⟨raised, failed, of_kind⟩ := attempt_unwrap_loud documented loud
  refine silent ⟨raised, ?_, of_kind⟩
  rw [loadHybridPrivateKeys, Call.run_read_bind]
  simp only [ed, dil, attempt_eq_some_iff.mpr made, Call.run_lift_ok_bind, run_assign_bind, failed]
  rfl

theorem loadHybridSigning_of_quiet
    (quiet : platform.hybridSigAvailable = true → QuietHybrid P password session.db) :
    (loadHybridSigning P platform password).run session =
      (.ok (), ⟨withSigning session.store (openedEdPriv P platform password session.db)
        (openedDilPriv P platform password session.db) (readHybridPub platform session.db),
        session.db⟩) := by
  rw [loadHybridSigning, run_assign_bind]
  by_cases available : platform.hybridSigAvailable = true
  · have privs : (loadHybridPrivateKeys P password).run
        ⟨{ session.store with myEdPriv := none, myDilPriv := none, myHybridSigCombinedPub := none },
          session.db⟩ = _ := loadHybridPrivateKeys_of_quiet available (quiet available)
    rw [if_pos available, Call.run_bind_of_ok privs, loadHybridCombinedPub_run available rfl]
    rfl
  · unfold openedDilPriv openedEdPriv readHybridPub
    rw [if_neg available, if_neg available, if_neg available]
    rfl

theorem quiet_of_loadHybridSigning (documented : P.Documented)
    (silent : ¬ (loadHybridSigning P platform password).Raises Raised.BlamesWrapper session)
    (available : platform.hybridSigAvailable = true) : QuietHybrid P password session.db := by
  obtain ⟨_, rest⟩ := Call.not_raises_bind_iff.mp silent
  have keys := rest () _ rfl
  rw [if_pos available] at keys
  have hybrid := quiet_of_loadHybridPrivateKeys documented (Call.not_raises_bind_iff.mp keys).1
  exact hybrid

theorem not_loud_of_valueOrType {raised : Raised} (caught : raised.isValueOrType = true) :
    ¬ raised.BlamesWrapper := by
  intro loud
  cases raised with
  | invalidTag | keyError _ | attributeError | hashingError => cases caught
  | keyStoreErrorFrom message cause => cases caught
  | _ => exact loud

theorem not_loud_of_hybridPub {column : Option String} {raised : Raised}
    (failed : attemptColumn column (fun text => decodeBase64 text >>= parseCombinedPub) =
      .error raised) : ¬ raised.BlamesWrapper := by
  cases column with
  | none => cases failed
  | some text =>
      have source : (decodeBase64 text >>= parseCombinedPub) = .error raised :=
        error_of_attempt failed
      obtain decoding | ⟨combined, _, parsing⟩ := error_of_bind source
      · rw [decodeBase64] at decoding
        split at decoding <;> cases decoding
        exact id
      · have short : ∀ {bytes : Bytes}, unpackLength bytes = .error raised → ¬ raised.BlamesWrapper := by
          intro bytes unpacking
          rw [unpackLength] at unpacking
          split at unpacking <;> cases unpacking
          exact id
        obtain first | ⟨edLength, _, parsing⟩ := error_of_bind parsing
        · exact short first
        · obtain second | ⟨dilLength, _, parsing⟩ := error_of_bind parsing
          · exact short second
          · cases parsing

/-- A row whose wrappers are quiet raises for its public keys only. -/
theorem loadFriend_of_quiet (platform : Platform) (password : Bytes) (name : String)
    (row : FriendRow) (session : Session Priv Pub Pem) (reads : ReadsPem P row)
    (shared : QuietColumn P password row.sharedSecret)
    (ecdh : QuietColumn P password row.ecdhPrivEncrypted) :
    ReadsHybridPub platform row ∧
        (loadFriend P platform password name row).Returns session ∨
      ¬ ReadsHybridPub platform row ∧
        ∃ raised after, (loadFriend P platform password name row).run session =
          (.error raised, after) ∧ ¬ raised.BlamesWrapper := by
  obtain ⟨pub, parsed⟩ := reads
  have pqc : ∃ found, attemptColumn (nonempty row.pqcCombinedPubB64) decodeBase64 = .ok found := by
    cases nonempty row.pqcCombinedPubB64 with
    | none => exact ⟨none, rfl⟩
    | some text => exact ⟨_, attempt_decodeBase64 text⟩
  obtain ⟨found, pqc⟩ := pqc
  simp only [loadFriend, parsed, attemptColumn_of_quiet shared, attemptColumn_of_quiet ecdh, pqc,
    Call.run_lift_ok_bind, run_assign_bind]
  cases pubs : attemptColumn (row.hybridSigPub platform)
      (fun text => decodeBase64 text >>= parseCombinedPub) with
  | ok pair => exact .inl ⟨⟨pair, pubs⟩, (), _, rfl⟩
  | error raised =>
      refine .inr ⟨?_, raised, _, rfl, ?_⟩
      · rintro ⟨pair, read⟩
        rw [pubs] at read
        cases read
      · exact not_loud_of_hybridPub pubs

theorem quiet_of_loadFriend (documented : P.Documented) {name : String} {row : FriendRow}
    (silent : ¬ (loadFriend P platform password name row).Raises Raised.BlamesWrapper session)
    (reads : ReadsPem P row) :
    QuietColumn P password row.sharedSecret ∧ QuietColumn P password row.ecdhPrivEncrypted := by
  obtain ⟨pub, parsed⟩ := reads
  have shared : QuietColumn P password row.sharedSecret := by
    by_contra loud
    obtain ⟨raised, failed, of_kind⟩ := attemptColumn_loud documented loud
    refine silent ⟨raised, ?_, of_kind⟩
    simp only [loadFriend, parsed, failed, Call.run_lift_ok_bind, Call.run_lift_error_bind]
  refine ⟨shared, ?_⟩
  by_contra loud
  obtain ⟨raised, failed, of_kind⟩ := attemptColumn_loud documented loud
  refine silent ⟨raised, ?_, of_kind⟩
  simp only [loadFriend, parsed, attemptColumn_of_quiet shared, failed, Call.run_lift_ok_bind,
    Call.run_lift_error_bind, run_assign_bind]

theorem loadFriendRows_silent_iff (documented : P.Documented) {rows : List (String × FriendRow)}
    {session : Session Priv Pub Pem} :
    ¬ (loadFriendRows P platform password rows).Raises Raised.BlamesWrapper session ↔
      QuietFriends P platform password rows := by
  induction rows generalizing session with
  | nil => exact iff_of_true (Call.Returns.not_raises ⟨(), _, rfl⟩) trivial
  | cons item rest ih =>
      have outcome := loadFriend_of_quiet (P := P) platform password item.1 item.2 session
      rw [loadFriendRows, Call.not_raises_bind_iff]
      constructor
      · rintro ⟨first, others⟩ reads
        obtain ⟨shared, ecdh⟩ := quiet_of_loadFriend documented first reads
        refine ⟨shared, ecdh, fun hybridPub => ?_⟩
        obtain ⟨_, _, after, ran⟩ | ⟨unread, _⟩ := outcome reads shared ecdh
        · exact ih.mp (others () after ran)
        · exact absurd hybridPub unread
      · intro quiet
        refine ⟨?_, fun _ after ran => ?_⟩
        · rintro ⟨raised, failed, of_kind⟩
          by_cases reads : ReadsPem P item.2
          · obtain ⟨shared, ecdh, _⟩ := quiet reads
            obtain ⟨_, returns⟩ | ⟨_, other, after, ran, soft⟩ := outcome reads shared ecdh
            · exact returns.not_raises ⟨raised, failed, of_kind⟩
            · exact soft ((Call.raises_of_error ran).mp ⟨raised, failed, of_kind⟩)
          · cases parsed : P.pemToPubkey item.2.publicKeyPem with
            | ok pub => exact reads ⟨pub, parsed⟩
            | error other =>
                have ran : (loadFriend P platform password item.1 item.2).run session =
                    (.error other, session) := by
                  rw [loadFriend, parsed]
                  rfl
                exact not_loud_of_valueOrType (documented.pemToPubkey parsed)
                  ((Call.raises_of_error ran).mp ⟨raised, failed, of_kind⟩)
        · obtain ⟨pem, hybridPub⟩ := reads_of_loadFriend ran
          exact ih.mpr ((quiet pem).2.2 hybridPub)

/-- What `load_keys` reads behind the private key and the global secret. -/
def loadSecrets (P : Primitives Priv Pub Pem) (platform : Platform) (password : Bytes) :
    StoreCall Priv Pub Pem Bool := do
  loadKyberKey P password
  loadPqcCombinedPub
  cachePqcBundle P password
  loadHybridSigning P platform password
  loadFriends P platform password
  return true

/-- The session between the PQC keys and their bundle. -/
def pqcLoaded (P : Primitives Priv Pub Pem) (password : Bytes) (session : Session Priv Pub Pem) :
    Session Priv Pub Pem :=
  let kyber := opened P password (session.db.secrets .kyberPrivEncrypted)
  ⟨withPqcPub (withKyber session.store kyber) (if truthy kyber then
      (session.db.texts .pqcCombinedPubB64).bind fun text => (decodeBase64 text).toOption
    else none), session.db⟩

theorem pqcLoaded_usable_iff :
    (truthy (pqcLoaded P password session).store.myKyberPriv &&
        truthy (pqcLoaded P password session).store.myPqcCombinedPub) = true ↔
      HasPqcKeys P password session.db := by
  rw [Bool.and_eq_true]
  unfold HasPqcKeys
  refine and_congr_right fun held => ?_
  have kyber : truthy (opened P password (session.db.secrets .kyberPrivEncrypted)) = true := held
  show truthy (if truthy _ = true then _ else none) = true ↔ _
  rw [if_pos kyber]

theorem loadPqcKeys_run {β : Type} (next : StoreCall Priv Pub Pem β)
    (quiet : QuietColumn P password (session.db.secrets .kyberPrivEncrypted)) :
    (loadKyberKey P password >>= fun _ => loadPqcCombinedPub >>= fun _ => next).run session =
      next.run (pqcLoaded P password session) := by
  rw [Call.run_bind_of_ok (loadKyberKey_of_quiet quiet), Call.run_bind_of_ok
    (loadPqcCombinedPub_run rfl)]
  rfl

/-- The store behind the secrets of the settings, each as far as it opens. -/
def secretsLoaded (P : Primitives Priv Pub Pem) (platform : Platform) (password : Bytes)
    (session : Session Priv Pub Pem) : KeyStore Priv Pub :=
  let store := (pqcLoaded P password session).store
  withSigning (withBundle store
      (if truthy store.myKyberPriv && truthy store.myPqcCombinedPub then
        openedKey P password (session.db.secrets .pqcX25519PrivEncrypted) else none))
    (openedEdPriv P platform password session.db) (openedDilPriv P platform password session.db)
    (readHybridPub platform session.db)

/-- With quiet secrets the load comes to the friends. -/
theorem loadSecrets_run_friends (settings : QuietSettings P platform password session.db) :
    (loadSecrets P platform password).run session =
      (loadFriends P platform password >>= fun _ => return true).run
        ⟨secretsLoaded P platform password session, session.db⟩ := by
  have cached : (cachePqcBundle P password).run (pqcLoaded P password session) = _ :=
    cachePqcBundle_of_quiet fun usable => settings.x25519 (pqcLoaded_usable_iff.mp usable)
  rw [loadSecrets, loadPqcKeys_run _ settings.kyber, Call.run_bind_of_ok cached]
  exact Call.run_bind_of_ok (loadHybridSigning_of_quiet (by exact settings.hybrid)) _

theorem loadSecrets_silent_iff (documented : P.Documented) :
    ¬ (loadSecrets P platform password).Raises Raised.BlamesWrapper session ↔
      QuietSettings P platform password session.db ∧
        QuietFriends P platform password session.db.friends.items := by
  have friends : ∀ store, ¬ (loadFriends P platform password >>= fun _ => return true).Raises
      Raised.BlamesWrapper ⟨store, session.db⟩ ↔
        QuietFriends P platform password session.db.friends.items := by
    intro store
    rw [Call.not_raises_bind_iff, loadFriends, Call.Raises, Call.run_read_bind, run_assign_bind,
      ← Call.Raises, loadFriendRows_silent_iff documented]
    exact and_iff_left fun _ _ _ => Call.Returns.not_raises ⟨_, _, rfl⟩
  constructor
  · intro silent
    have kyber := quiet_of_loadKyberKey documented (Call.not_raises_bind_iff.mp silent).1
    rw [Call.Raises, loadSecrets, loadPqcKeys_run _ kyber, ← Call.Raises,
      Call.not_raises_bind_iff] at silent
    obtain ⟨bundle, rest⟩ := silent
    have x25519 := fun usable => quiet_of_cachePqcBundle documented bundle usable
    obtain ⟨signing, rest⟩ := Call.not_raises_bind_iff.mp
      (rest _ _ (cachePqcBundle_of_quiet x25519))
    have hybrid := fun available => quiet_of_loadHybridSigning documented signing available
    exact ⟨⟨kyber, fun has => x25519 (pqcLoaded_usable_iff.mpr has), hybrid⟩,
      (friends _).mp (rest _ _ (loadHybridSigning_of_quiet hybrid))⟩
  · rintro ⟨settings, quietFriends⟩
    rw [Call.Raises, loadSecrets_run_friends settings, ← Call.Raises]
    exact (friends _).mpr quietFriends

theorem loadSecrets_settles (settings : QuietSettings P platform password session.db)
    (friends : QuietFriends P platform password session.db.friends.items) :
    (loadSecrets P platform password).CommutesAt (settle P password) session := by
  refine Call.commutesAt_bind (loadKyberKey_settles settings.kyber) fun _ first kyber => ?_
  rw [loadKyberKey_of_quiet settings.kyber] at kyber
  cases kyber
  refine Call.commutesAt_bind (loadPqcCombinedPub_settles.at _) fun _ second pub => ?_
  rw [loadPqcCombinedPub_run rfl] at pub
  cases pub
  refine Call.commutesAt_bind (cachePqcBundle_settles fun usable =>
    settings.x25519 (pqcLoaded_usable_iff.mp usable)) fun _ third cached => ?_
  have third_db := (cachePqcBundle_keeps spared_db password).of_run cached
  refine Call.commutesAt_bind (loadHybridSigning_settles ?_) fun _ fourth signed => ?_
  · rw [third_db]
    exact settings.hybrid
  · have fourth_db := (loadHybridSigning_keeps spared_db password).of_run signed
    refine Call.commutesAt_bind (loadFriends_settles ?_) fun _ _ _ => rfl
    rw [fourth_db, third_db]
    exact friends

theorem readsFriends_of_read {items : List (String × FriendRow)}
    {friends : List ((String × FriendRow) × LoadedFriend Pub)}
    (reads : readFriends P platform password items = .ok friends) :
    ∀ item ∈ items, ReadsPem P item.2 ∧ ReadsHybridPub platform item.2 := by
  intro item member
  obtain ⟨loaded, read⟩ := readFriends_ok_iff.mp ⟨friends, reads⟩ item member
  obtain ⟨pub, pem, read⟩ := ok_of_bind read
  obtain ⟨_, _, read⟩ := ok_of_bind read
  obtain ⟨_, _, read⟩ := ok_of_bind read
  obtain ⟨_, _, read⟩ := ok_of_bind read
  obtain ⟨pubs, hybrid, _⟩ := ok_of_bind read
  exact ⟨⟨pub, pem⟩, ⟨pubs, hybrid⟩⟩

/-- Behind the secrets the friends were read, and the database is as it was. -/
theorem loadSecrets_ok {went : Bool}
    (ran : (loadSecrets P platform password).run session = (.ok went, after)) :
    went = true ∧ ReadsFriends P platform session.db ∧ after.db = session.db := by
  obtain ⟨_, first, kyber, ran⟩ := Call.ok_of_run_bind ran
  obtain ⟨_, second, pub, ran⟩ := Call.ok_of_run_bind ran
  obtain ⟨_, third, cached, ran⟩ := Call.ok_of_run_bind ran
  obtain ⟨_, fourth, signed, ran⟩ := Call.ok_of_run_bind ran
  obtain ⟨_, fifth, loaded, returned⟩ := Call.ok_of_run_bind ran
  cases returned
  have db_eq : fourth.db = session.db :=
    ((loadHybridSigning_keeps spared_db password).of_run signed).trans
      (((cachePqcBundle_keeps spared_db password).of_run cached).trans
        (((loadPqcCombinedPub_keeps spared_db).of_run pub).trans
          ((loadKyberKey_keeps spared_db password).of_run kyber)))
  obtain ⟨read, reads, _⟩ := loadFriends_ok_iff.mp loaded
  rw [db_eq] at reads
  exact ⟨rfl, readsFriends_of_read reads,
    ((loadFriends_keeps spared_db password).of_run loaded).trans db_eq⟩

section RatchetKey

variable {draws : LoadDraws}

theorem newRatchetStorageKey_attempt (db : Database Pem) :
    ∃ found, attempt (newRatchetStorageKey P password draws db) = .ok found := by
  unfold newRatchetStorageKey migratedRows
  cases db.texts .ratchetHkdfSalt with
  | none => exact ⟨_, rfl⟩
  | some saltText =>
      dsimp only
      cases decoded : decodeBase64 saltText with
      | ok salt => exact ⟨_, rfl⟩
      | error raised =>
          rw [decodeBase64] at decoded
          split at decoded <;> cases decoded
          exact ⟨none, rfl⟩

theorem loadRatchetStorageKey_of_quiet
    (quiet : QuietColumn P password (session.db.secrets .ratchetStorageKey)) :
    (loadRatchetStorageKey P password draws).Returns session := by
  rw [Call.Returns, loadRatchetStorageKey, Call.run_read_bind]
  cases stored : session.db.secrets .ratchetStorageKey with
  | some wrapper =>
      simp only [attempt_of_quiet (quiet wrapper stored), Call.run_lift_ok_bind]
      cases (unwrap P wrapper password).toOption <;> exact ⟨_, _, rfl⟩
  | none =>
      obtain ⟨found, made⟩ : ∃ found,
        attempt (newRatchetStorageKey P password draws session.db) = .ok found :=
          newRatchetStorageKey_attempt session.db
      simp only [made, Call.run_lift_ok_bind]
      cases found <;> exact ⟨_, _, rfl⟩

theorem quiet_of_loadRatchetStorageKey (documented : P.Documented)
    (silent : ¬ (loadRatchetStorageKey P password draws).Raises Raised.BlamesWrapper session) :
    QuietColumn P password (session.db.secrets .ratchetStorageKey) := by
  intro wrapper stored
  by_contra loud
  obtain ⟨raised, failed, of_kind⟩ := attempt_unwrap_loud documented loud
  refine silent ⟨raised, ?_, of_kind⟩
  rw [loadRatchetStorageKey, Call.run_read_bind]
  simp only [Option.mem_def.mp stored, failed]
  rfl

/-- A storage key that does not open: nothing is found. -/
theorem loadRatchetStorageKey_closed {wrapper : Wrapper}
    (stored : session.db.secrets .ratchetStorageKey = some wrapper)
    (quiet : Quiet P password wrapper) (closed : Closed P password wrapper) :
    (loadRatchetStorageKey P password draws).run session =
      (.ok none, ⟨wiped session.store, session.db⟩) := by
  have nothing : attempt (unwrap P wrapper password) = .ok none := by
    rw [attempt_of_quiet quiet]
    cases opening : unwrap P wrapper password with
    | ok plain => exact absurd opening (closed plain)
    | error raised => rfl
  rw [loadRatchetStorageKey, Call.run_read_bind]
  simp only [stored, nothing]
  rfl

/-- The outcome and the store are those of the settled session; a key that was drawn anew is
stored in either database. -/
theorem loadRatchetStorageKey_settles
    (quiet : QuietColumn P password (session.db.secrets .ratchetStorageKey)) :
    ((loadRatchetStorageKey P password draws).run (settle P password session)).1 =
        ((loadRatchetStorageKey P password draws).run session).1 ∧
      ((loadRatchetStorageKey P password draws).run (settle P password session)).2.store =
        ((loadRatchetStorageKey P password draws).run session).2.store := by
  rw [loadRatchetStorageKey, Call.run_read_bind, Call.run_read_bind]
  have column : (settle P password session).db.secrets .ratchetStorageKey =
      (session.db.secrets .ratchetStorageKey).map (settled P password) := rfl
  simp only [column]
  cases stored : session.db.secrets .ratchetStorageKey with
  | some wrapper =>
      simp only [Option.map_some, attempt_unwrap_settled (quiet wrapper stored)]
      cases attempt (unwrap P wrapper password) with
      | error raised => exact ⟨rfl, rfl⟩
      | ok found => cases found <;> exact ⟨rfl, rfl⟩
  | none =>
      simp only [Option.map_none]
      have texts : (settle P password session).db.texts = session.db.texts := rfl
      unfold newRatchetStorageKey migratedRows
      rw [texts]
      cases session.db.texts .ratchetHkdfSalt with
      | none => exact ⟨rfl, rfl⟩
      | some saltText =>
          dsimp only
          cases decodeBase64 saltText with
          | ok salt => exact ⟨rfl, rfl⟩
          | error raised => cases raised <;> exact ⟨rfl, rfl⟩

end RatchetKey

end Stages

end UltimateEnigma.KeyStore
