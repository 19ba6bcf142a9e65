import UltimateEnigma.Delegation

set_option autoImplicit false

namespace Py.Dict

variable {κ ν : Type} [DecidableEq κ]

theorem erase_erase (dict : Dict κ ν) (key : κ) : (dict.erase key).erase key = dict.erase key :=
  (dict.erase key).erase_of_absent (dict.get?_erase_self key)

theorem erase_set (dict : Dict κ ν) (key : κ) (value : ν) :
    (dict.set key value).erase key = dict.erase key := by
  apply ext_items
  unfold set
  split
  · simp only [erase, List.filter_map, Function.comp_def]
    have kept : (dict.items.filter fun item =>
        decide ((if item.1 = key then (key, value) else item).1 ≠ key)) =
        dict.items.filter fun item => item.1 ≠ key := by
      apply List.filter_congr
      intro item _
      by_cases here : item.1 = key <;> simp [here]
    rw [kept]
    conv_rhs => rw [← List.map_id' (dict.items.filter _)]
    apply List.map_congr_left
    intro item member
    have apart := (List.mem_filter.mp member).2
    rw [decide_eq_true_eq] at apart
    exact if_neg apart
  · simp [erase]

end Py.Dict

namespace Py.KeyedTable

variable {Row : Type} {key : Row → Option String}

/-- A key names at most one row. -/
theorem eq_of_key {table : KeyedTable Row key} {left right : Row} {name : String}
    (leftMember : left ∈ table.rows) (rightMember : right ∈ table.rows)
    (leftKey : key left = some name) (rightKey : key right = some name) : left = right := by
  obtain ⟨rows, unique⟩ := table
  dsimp only at leftMember rightMember
  have apart := List.pairwise_filterMap.mp unique
  clear unique
  induction apart with
  | nil => cases leftMember
  | cons first _ ih =>
      rcases List.mem_cons.mp leftMember with rfl | leftRest
      · rcases List.mem_cons.mp rightMember with rfl | rightRest
        · rfl
        · exact absurd rfl (first right rightRest name leftKey name rightKey)
      · rcases List.mem_cons.mp rightMember with rfl | rightRest
        · exact absurd rfl (first left leftRest name rightKey name leftKey)
        · exact ih leftRest rightRest

theorem deleteWhere_deleteWhere (table : KeyedTable Row key) (first second : Row → Bool) :
    (table.deleteWhere first).deleteWhere second =
      table.deleteWhere fun row => first row || second row := by
  unfold deleteWhere
  congr 1
  rw [List.filter_filter]
  apply List.filter_congr
  intro row _
  dsimp only
  cases first row <;> cases second row <;> rfl

theorem deleteWhere_false (table : KeyedTable Row key) :
    table.deleteWhere (fun _ => false) = table := by
  unfold deleteWhere
  congr 1
  exact List.filter_true _

end Py.KeyedTable

namespace UltimateEnigma.KeyStore

open Py

variable {Priv Pub Pem : Type} {P : Primitives Priv Pub Pem} {platform : Platform}

theorem erase_setOrPop {ν : Type} (dict : Dict String ν) (key : String) (value : Option ν) :
    (setOrPop dict key value).erase key = dict.erase key := by
  cases value with
  | none => exact dict.erase_erase key
  | some value => exact dict.erase_set key value

/-- What is left when the friend is removed. -/
def without (name : String) (session : Session Priv Pub Pem) : Session Priv Pub Pem :=
  ((removeFriend name).run session).2

theorem without_replaceFriend (name : String) (row : FriendRow) (session : Session Priv Pub Pem) :
    without name { session with db := session.db.replaceFriend name row } =
      without name session := by
  have friends : ((session.db.friends.erase name).set name row).erase name =
      session.db.friends.erase name := by
    rw [Dict.erase_set, Dict.erase_erase]
  show (⟨_, { session.db with friends := ((session.db.friends.erase name).set name row).erase name }⟩ :
    Session Priv Pub Pem) = _
  rw [friends]
  rfl

theorem without_storeWithKeys (name : String) (update : FriendUpdate) (pub : Pub)
    (pqcCombinedPub : Option Bytes) (session : Session Priv Pub Pem) :
    without name { session with
      store := storeWithKeys name update pub pqcCombinedPub session.store } =
        without name session := by
  have friends : (session.store.friends.filter (fun friend => friend.1 ≠ name) ++
      [(name, pub, nonemptyBytes update.sharedSecret)]).filter (fun friend => friend.1 ≠ name) =
        session.store.friends.filter fun friend => friend.1 ≠ name := by
    rw [List.filter_append, List.filter_filter]
    simp
  unfold without removeFriend storeWithKeys
  simp only [run_commit_bind, run_assign]
  rw [friends, erase_setOrPop, erase_setOrPop, erase_setOrPop, erase_setOrPop]

theorem without_storeWithSigning (name : String) (hybridSigPubs : Option (Bytes × Bytes))
    (session : Session Priv Pub Pem) :
    without name { session with store := storeWithSigning name hybridSigPubs session.store } =
      without name session := by
  unfold without removeFriend storeWithSigning
  simp only [run_commit_bind, run_assign]
  rw [erase_setOrPop]

/-- Whatever becomes of a save, it is about its friend only. -/
theorem saveFriend_keeps_without (name : String) (update : FriendUpdate) (password : Bytes)
    (draws : Draws) :
    (saveFriend P platform name update password draws).Keeps (without name) := by
  intro session
  cases made : savedRow P name update password draws session.db with
  | error raised => rw [saveFriend_run_unwrapped made]
  | ok row =>
      obtain ⟨pqcCombinedPub, -, ran⟩ := saveFriend_run platform made
      rw [ran]
      cases P.pemToPubkey update.pem with
      | error raised => exact without_replaceFriend name row session
      | ok pub =>
          have keys := (without_storeWithKeys name update pub pqcCombinedPub
            { session with db := session.db.replaceFriend name row }).trans
              (without_replaceFriend name row session)
          dsimp only
          cases update.signingKeys platform with
          | error raised => exact keys
          | ok hybridSigPubs => exact (without_storeWithSigning name hybridSigPubs _).trans keys

end UltimateEnigma.KeyStore

namespace UltimateEnigma.Delegation

open Py

section Gate

variable {Priv Pub Pem : Type} {setting : Setting Priv Pub Pem} {tables : Tables Priv Pub Pem}
variable {delegatorName : String}

/-- A local user always has a name, so that the query for its certificates filters. -/
theorem myName_ne_empty (tables : Tables Priv Pub Pem) : myName setting tables ≠ "" := by
  unfold myName
  cases named : KeyStore.nonempty tables.myNameSetting with
  | some name =>
      rintro rfl
      unfold KeyStore.nonempty at named
      split at named
      · split at named
        · cases named
        · rename_i filled
          cases named
          exact filled rfl
      · cases named
  | none =>
      cases tables.session.store.myPub with
      | none =>
          show "anonymous" ≠ ""
          decide
      | some pub =>
          intro empty
          have chars := congrArg String.toList empty
          rw [String.toList_append] at chars
          cases chars

theorem readable_iff {subjectName : String} : Readable setting subjectName tables ↔
    ∃ certs, TrustChain.certificatesOf setting.libraries.conversions
      (tables.certificates.certificatesFor none (some subjectName)) = .ok certs := by
  constructor
  · intro readable
    cases loaded : TrustChain.certificatesOf setting.libraries.conversions
        (tables.certificates.certificatesFor none (some subjectName)) with
    | ok certs => exact ⟨certs, rfl⟩
    | error raised =>
        obtain ⟨-, row, member, unread⟩ := TrustChain.valueError_of_certificatesOf loaded
        obtain ⟨cert, read⟩ := readable row member
        exact absurd read (unread cert)
  · rintro ⟨certs, loaded⟩ row member
    obtain ⟨cert, -, read⟩ :=
      (TrustChain.readFrom_of_certificatesOf loaded).exists_right member
    exact ⟨cert, read⟩

theorem held_of_unreadable (unreadable : ¬ Readable setting (myName setting tables) tables) :
    TrustChain.getDelegationCertsHeldByMe setting.libraries.conversions setting.now
      (myName setting tables) tables.certificates = .error .valueError := by
  unfold TrustChain.getDelegationCertsHeldByMe
  cases loaded : TrustChain.certificatesOf setting.libraries.conversions
      (tables.certificates.certificatesFor none (some (myName setting tables))) with
  | ok certs => exact absurd (readable_iff.mpr ⟨certs, loaded⟩) unreadable
  | error raised =>
      rw [(TrustChain.valueError_of_certificatesOf loaded).1]
      rfl

/-- What is held comes from the delegator exactly if there is a delegation. -/
theorem held_of_readable (readable : Readable setting (myName setting tables) tables) :
    ∃ delegations, TrustChain.getDelegationCertsHeldByMe setting.libraries.conversions setting.now
        (myName setting tables) tables.certificates = .ok delegations ∧
      ∀ delegatorName, (delegations.any fun cert => cert.issuedBy delegatorName) = true ↔
        Authorised setting delegatorName tables := by
  obtain ⟨certs, loaded⟩ := readable_iff.mp readable
  have readFrom := TrustChain.readFrom_of_certificatesOf loaded
  refine ⟨certs.filter fun cert => cert.certType = .delegation ∧
    cert.status setting.now = .valid, ?_, ?_⟩
  · rw [TrustChain.getDelegationCertsHeldByMe, loaded]
    rfl
  intro delegatorName
  rw [List.any_eq_true]
  constructor
  · rintro ⟨cert, member, issued⟩
    obtain ⟨inside, counts⟩ := List.mem_filter.mp member
    rw [decide_eq_true_eq] at counts
    obtain ⟨row, selected, read⟩ := TrustChain.mem_mapM_ok loaded inside
    have reads := TrustChain.reads_of_fromDict read
    obtain ⟨stored, subject⟩ := TrustChain.CertificateTable.mem_certificatesFor_subject.mp selected
    exact ⟨row, stored, (TrustChain.certificateType_delegation reads.certType).mp counts.1,
      (TrustChain.issuedBy_of_reads reads _).mp issued,
      subject.resolve_left (myName_ne_empty tables),
      (TrustChain.status_of_reads reads).mp counts.2⟩
  · rintro ⟨row, stored, typed, issued, subject, live⟩
    obtain ⟨cert, inside, read⟩ := readFrom.exists_right
      (TrustChain.CertificateTable.mem_certificatesFor_subject.mpr ⟨stored, .inr subject⟩)
    have reads := TrustChain.reads_of_fromDict read
    refine ⟨cert, List.mem_filter.mpr ⟨inside, ?_⟩,
      (TrustChain.issuedBy_of_reads reads _).mpr issued⟩
    rw [decide_eq_true_eq]
    exact ⟨(TrustChain.certificateType_delegation reads.certType).mpr typed,
      (TrustChain.status_of_reads reads).mpr live⟩

theorem heldByMe_of_unreadable (unreadable : ¬ Readable setting (myName setting tables) tables) :
    (heldByMe setting).run tables = (.error (.chain .valueError), tables) := by
  rw [heldByMe, Call.run_read_bind, held_of_unreadable unreadable]
  rfl

theorem heldByMe_of_readable (readable : Readable setting (myName setting tables) tables) :
    ∃ delegations, (heldByMe setting).run tables = (.ok delegations, tables) ∧
      ∀ delegatorName, (delegations.any fun cert => cert.issuedBy delegatorName) = true ↔
        Authorised setting delegatorName tables := by
  obtain ⟨delegations, held, authorised⟩ := held_of_readable readable
  refine ⟨delegations, ?_, authorised⟩
  rw [heldByMe, Call.run_read_bind, held]
  rfl

end Gate

section Updates

variable {Priv Pub Pem : Type} {setting : Setting Priv Pub Pem} {tables : Tables Priv Pub Pem}

/-- What an operation on the delegator's row leaves alone. -/
def others (delegatorName : String) (tables : Tables Priv Pub Pem) :=
  (KeyStore.without delegatorName tables.session, tables.myNameSetting, tables.certificates,
    tables.recoveryShares, tables.heldShares)

theorem onlyOf_of_others {delegatorName : String} {before after : Tables Priv Pub Pem}
    (same : others delegatorName after = others delegatorName before) :
    OnlyOf delegatorName before after := by
  simp only [others, Prod.mk.injEq] at same
  obtain ⟨session, name, certificates, recovery, held⟩ := same
  refine ⟨session, name, ?_, ?_, ?_⟩
  · rw [certificates]
  · rw [recovery]
  · rw [held]

theorem onSession_keeps {delegatorName : String} {call : Friends.ServiceCall Priv Pub Pem Unit}
    (keeps : call.Keeps (KeyStore.without delegatorName)) :
    (onSession call).Keeps (others delegatorName) := by
  intro tables
  have kept := keeps tables.session
  unfold Call.run at kept
  unfold Call.run onSession others
  cases ran : call.run tables.session with
  | mk result after =>
      unfold Call.run at ran
      rw [ran] at kept
      cases result <;> exact congrArg (fun session => (session, tables.myNameSetting,
        tables.certificates, tables.recoveryShares, tables.heldShares)) kept

theorem onStore_keeps {α τ : Type} {view : KeyStore.Session Priv Pub Pem → τ}
    {refuse : KeyStore.Raised → Friends.ServiceRaised} {call : KeyStore.StoreCall Priv Pub Pem α}
    (keeps : call.Keeps view) : (Friends.onStore refuse call).Keeps view := by
  intro session
  have kept := keeps session
  unfold Call.run at kept
  unfold Call.run Friends.onStore
  cases ran : call.run session with
  | mk result after =>
      unfold Call.run at ran
      rw [ran] at kept
      cases result <;> exact kept

/-- An update of one key, as the five are written. -/
abbrev update (setting : Setting Priv Pub Pem) (delegatorName : String) (masterPassword : Bytes)
    (check : Except Friends.ServiceRaised Unit) (overrides : KeyStore.FriendUpdate →
      KeyStore.FriendUpdate) : DelegateCall Priv Pub Pem (Option Nat) :=
  keyUpdate setting fun context => Friends.updateDelegator setting.libraries.keyStore
    setting.libraries.platform context delegatorName masterPassword check overrides

variable (delegatorName : String) (masterPassword : Bytes)
variable (check : Except Friends.ServiceRaised Unit)
variable (overrides : KeyStore.FriendUpdate → KeyStore.FriendUpdate)

theorem update_keeps :
    (update setting delegatorName masterPassword check overrides).Keeps (others delegatorName) := by
  refine Call.keeps_bind (Call.keeps_bind Call.keeps_read fun _ => Call.keeps_lift _)
    fun delegations => Call.keeps_bind (onSession_keeps ?_) fun _ => Call.keeps_pure _
  refine Call.keeps_bind (Call.keeps_lift _) fun _ => Call.keeps_bind (Call.keeps_lift _) fun _ =>
    Call.keeps_bind Call.keeps_read fun session => ?_
  cases session.db.friends.get? delegatorName with
  | none => exact Call.keeps_raise _
  | some row =>
      dsimp only
      cases Friends.hybridSigPubB64 session.store delegatorName with
      | error cause => exact Call.keeps_raise _
      | ok hybridB64 =>
          exact onStore_keeps (KeyStore.saveFriend_keeps_without delegatorName _ _ _)

theorem update_of_unreadable (unreadable : ¬ Readable setting (myName setting tables) tables) :
    (update setting delegatorName masterPassword check overrides).run tables =
      (.error (.chain .valueError), tables) :=
  Call.run_bind_of_error (heldByMe_of_unreadable unreadable) _

theorem assertDelegation_refused {context : Friends.UpdateContext} {delegatorName : String}
    (absent : ¬ (context.delegations.any fun cert => cert.issuedBy delegatorName) = true) :
    Friends.assertDelegation context delegatorName = .error (.certificateError
      ("No valid delegation certificate from '" ++ delegatorName ++ "'.")) := if_neg absent

theorem update_of_unauthorised (readable : Readable setting (myName setting tables) tables)
    (unauthorised : ¬ Authorised setting delegatorName tables) :
    (update setting delegatorName masterPassword check overrides).run tables =
      (.error (.friends (.certificateError
        ("No valid delegation certificate from '" ++ delegatorName ++ "'."))), tables) := by
  obtain ⟨delegations, held, authorised⟩ := heldByMe_of_readable readable
  have absent := fun issued => unauthorised ((authorised delegatorName).mp issued)
  have refused : (Friends.updateDelegator setting.libraries.keyStore setting.libraries.platform
      { setting.context with delegations } delegatorName masterPassword check overrides).run
        tables.session = (.error (.certificateError
          ("No valid delegation certificate from '" ++ delegatorName ++ "'.")), tables.session) := by
    rw [Friends.updateDelegator, assertDelegation_refused absent]
    rfl
  rw [update, keyUpdate, Call.run_bind_of_ok held]
  apply Call.run_bind_of_error
  show onSession _ tables = _
  unfold onSession
  rw [refused]

end Updates

theorem Mutation.perform_update {Priv Pub Pem : Type} (setting : Setting Priv Pub Pem)
    (delegatorName : String) {mutation : Mutation} (updates : mutation.isRevocation = false) :
    ∃ masterPassword check overrides, mutation.perform setting delegatorName =
      update setting delegatorName masterPassword check overrides := by
  cases mutation with
  | updateDelegatorPubKey new masterPassword => exact ⟨_, _, _, rfl⟩
  | updateDelegatorX25519Key new masterPassword => exact ⟨_, _, _, rfl⟩
  | updateDelegatorPem new masterPassword => exact ⟨_, _, _, rfl⟩
  | updateDelegatorPqcKey new masterPassword => exact ⟨_, _, _, rfl⟩
  | removeAllDelegatorOptionalKeys masterPassword => exact ⟨_, _, _, rfl⟩
  | revokeDelegatorRecoveryShares => cases updates
  | revokeAllCertsForDelegator => cases updates

theorem gated_update_iff {Priv Pub Pem : Type} {setting : Setting Priv Pub Pem}
    {delegatorName : String} {mutation : Mutation} {before : Tables Priv Pub Pem}
    (updates : mutation.isRevocation = false) :
    Gated setting mutation delegatorName before ↔
      Readable setting (myName setting before) before ∨
        Authorised setting delegatorName before := by
  obtain ⟨masterPassword, check, overrides, performs⟩ :=
    mutation.perform_update setting delegatorName updates
  constructor
  · intro gated
    by_contra neither
    rw [not_or] at neither
    obtain ⟨raised, ran, refused⟩ := gated.refused neither.2
    rw [performs, update_of_unreadable _ _ _ _ neither.1] at ran
    cases ran
    cases refused
  · intro holds
    refine ⟨?_, ?_, ?_⟩
    · intro unauthorised
      rw [performs, update_of_unauthorised _ _ _ _ (holds.resolve_right unauthorised) unauthorised]
      exact ⟨_, rfl, rfl⟩
    · intro _
      rw [performs]
      exact onlyOf_of_others (update_keeps _ _ _ _ before)
    · intro _ revokes
      rw [updates] at revokes
      cases revokes

section Shares

variable {Priv Pub Pem : Type} {setting : Setting Priv Pub Pem} {tables : Tables Priv Pub Pem}
variable {delegatorName : String}

/-- The loop deletes what has the key of one of the delegator's rows, and counts these. -/
theorem deleteHeldShares_run (delegatorName : String) (rows : List HeldShare) (heldCount : Nat)
    (tables : Tables Priv Pub Pem) :
    (deleteHeldShares delegatorName rows heldCount).run tables =
      (.ok (heldCount + (rows.filter fun row => row.ownerName = delegatorName).length),
        { tables with
          heldShares := tables.heldShares.deleteWhere fun row => rows.any fun other =>
            other.ownerName = delegatorName &&
              KeyedTable.hasKey HeldShare.shareId other.shareId row }) := by
  induction rows generalizing heldCount tables with
  | nil =>
      simp only [List.any_nil, KeyedTable.deleteWhere_false]
      rfl
  | cons row rest ih =>
      unfold deleteHeldShares
      by_cases owned : row.ownerName = delegatorName
      · rw [if_pos owned, Call.run_modify_bind, ih]
        simp only [deleteHeldShare, KeyedTable.deleteWhere_deleteWhere, List.any_cons, owned,
          decide_true, Bool.true_and, List.filter_cons_of_pos, List.length_cons]
        rw [Nat.add_assoc, Nat.add_comm 1]
      · rw [if_neg owned, ih]
        simp only [List.any_cons, owned, decide_false, Bool.false_and, Bool.false_or,
          List.filter_cons_of_neg, Bool.false_eq_true, not_false_eq_true]

/-- A row of the delegator that has a key. -/
def reached (delegatorName : String) (row : HeldShare) : Bool :=
  row.ownerName = delegatorName && row.shareId.isSome

/-- Keys are unique: the loop deletes the delegator's rows, but for those without a key. -/
theorem rows_deleteHeldShares (delegatorName : String)
    (table : KeyedTable HeldShare HeldShare.shareId) :
    (table.deleteWhere fun row => table.rows.any fun other => other.ownerName = delegatorName &&
      KeyedTable.hasKey HeldShare.shareId other.shareId row).rows =
        table.rows.filter fun row => !reached delegatorName row := by
  apply List.filter_congr
  intro row member
  congr 1
  rw [Bool.eq_iff_iff, List.any_eq_true]
  simp only [reached, KeyedTable.hasKey, Bool.and_eq_true, decide_eq_true_eq, beq_iff_eq]
  constructor
  · rintro ⟨other, inside, owned, present, same⟩
    obtain ⟨shareId, named⟩ := Option.isSome_iff_exists.mp present
    have equal : row = other := KeyedTable.eq_of_key member inside (same.trans named) named
    rw [equal]
    exact ⟨owned, present⟩
  · rintro ⟨owned, present⟩
    exact ⟨row, member, owned, present, rfl⟩

theorem revokeShares_of_unreadable (unreadable : ¬ Readable setting (myName setting tables) tables) :
    (revokeDelegatorRecoveryShares setting delegatorName).run tables =
      (.error (.chain .valueError), tables) :=
  Call.run_bind_of_error (heldByMe_of_unreadable unreadable) _

theorem revokeShares_of_unauthorised (readable : Readable setting (myName setting tables) tables)
    (unauthorised : ¬ Authorised setting delegatorName tables) :
    (revokeDelegatorRecoveryShares setting delegatorName).run tables =
      (.error (.friends (.certificateError
        ("No valid delegation certificate from '" ++ delegatorName ++ "'."))), tables) := by
  obtain ⟨delegations, held, authorised⟩ := heldByMe_of_readable readable
  have absent := fun issued => unauthorised ((authorised delegatorName).mp issued)
  rw [revokeDelegatorRecoveryShares, Call.run_bind_of_ok held, assertDelegation_refused absent]
  rfl

/-- The tables without the delegator's shares, but for held ones without a key. -/
def withoutShares (delegatorName : String) (tables : Tables Priv Pub Pem) : Tables Priv Pub Pem :=
  { deleteRecoverySharesFor delegatorName tables with
    heldShares := tables.heldShares.deleteWhere fun row => tables.heldShares.rows.any fun other =>
      other.ownerName = delegatorName &&
        KeyedTable.hasKey HeldShare.shareId other.shareId row }

theorem revokeShares_of_authorised (readable : Readable setting (myName setting tables) tables)
    (authorised : Authorised setting delegatorName tables) :
    (revokeDelegatorRecoveryShares setting delegatorName).run tables =
      (.ok (some ((getRecoverySharesFor tables delegatorName).length +
        (tables.heldShares.rows.filter fun row => row.ownerName = delegatorName).length)),
          withoutShares delegatorName tables) := by
  obtain ⟨delegations, held, issued⟩ := heldByMe_of_readable readable
  have admitted : Friends.assertDelegation { setting.context with delegations } delegatorName =
      .ok () := if_pos ((issued delegatorName).mpr authorised)
  have deleted := deleteHeldShares_run delegatorName tables.heldShares.rows 0
    (deleteRecoverySharesFor delegatorName tables)
  rw [Nat.zero_add] at deleted
  rw [revokeDelegatorRecoveryShares, Call.run_bind_of_ok held, admitted]
  show ((Call.lift (.ok ()) >>= _ : DelegateCall Priv Pub Pem (Option Nat)).run tables) = _
  rw [Call.run_lift_ok_bind, Call.run_read_bind, Call.run_modify_bind, Call.run_bind_of_ok deleted]
  rfl

theorem withoutShares_onlyOf (delegatorName : String) (tables : Tables Priv Pub Pem) :
    OnlyOf delegatorName tables (withoutShares delegatorName tables) where
  session := rfl
  myNameSetting := rfl
  certificates := rfl
  recoveryShares := by
    show (tables.recoveryShares.rows.filter _).filter _ = _
    rw [List.filter_filter]
    apply List.filter_congr
    intro row _
    by_cases owned : row.ownerName = delegatorName <;> simp [owned]
  heldShares := by
    show ((tables.heldShares.deleteWhere _).rows).filter _ = _
    rw [rows_deleteHeldShares, List.filter_filter]
    apply List.filter_congr
    intro row _
    by_cases owned : row.ownerName = delegatorName <;> simp [owned, reached]

/-- What is taken away is what is counted, but for the delegator's held shares without a key. -/
theorem remaining_withoutShares (delegatorName : String) (tables : Tables Priv Pub Pem) :
    remaining tables + (tables.heldShares.rows.filter fun row =>
        row.ownerName = delegatorName && row.shareId.isNone).length =
      remaining (withoutShares delegatorName tables) +
        ((getRecoverySharesFor tables delegatorName).length +
          (tables.heldShares.rows.filter fun row => row.ownerName = delegatorName).length) := by
  have recovery := tables.recoveryShares.rows.length_eq_length_filter_add
    fun row => decide (row.ownerName = delegatorName)
  have held := tables.heldShares.rows.length_eq_length_filter_add (reached delegatorName)
  have owned := (tables.heldShares.rows.filter fun row =>
    row.ownerName = delegatorName).length_eq_length_filter_add fun row => row.shareId.isSome
  rw [List.filter_filter, List.filter_filter] at owned
  have keyed : (tables.heldShares.rows.filter fun row =>
      row.shareId.isSome && decide (row.ownerName = delegatorName)) =
        tables.heldShares.rows.filter (reached delegatorName) :=
    List.filter_congr fun row _ => Bool.and_comm _ _
  have unkeyed : (tables.heldShares.rows.filter fun row =>
      !row.shareId.isSome && decide (row.ownerName = delegatorName)) =
        tables.heldShares.rows.filter fun row =>
          row.ownerName = delegatorName && row.shareId.isNone :=
    List.filter_congr fun row _ => by rw [Option.not_isSome, Bool.and_comm]
  rw [keyed, unkeyed] at owned
  have left : remaining (withoutShares delegatorName tables) =
      (tables.recoveryShares.rows.filter fun row =>
        !decide (row.ownerName = delegatorName)).length +
      (tables.heldShares.rows.filter fun row => !reached delegatorName row).length +
      (tables.certificates.rows.filter fun row => !row.revoked).length := by
    rw [← rows_deleteHeldShares]
    rfl
  rw [left, remaining, getRecoverySharesFor]
  omega

/-- A revocation that cannot read what the local user holds neither refuses nor counts. -/
theorem readable_of_gated {mutation : Mutation} (revokes : mutation.isRevocation = true)
    (unread : ¬ Readable setting (myName setting tables) tables →
      (mutation.perform setting delegatorName).run tables = (.error (.chain .valueError), tables))
    (gated : Gated setting mutation delegatorName tables) :
    Readable setting (myName setting tables) tables := by
  by_contra unreadable
  by_cases authorised : Authorised setting delegatorName tables
  · obtain ⟨count, after, ran, -⟩ := gated.counts authorised revokes
    rw [unread unreadable] at ran
    cases ran
  · obtain ⟨raised, ran, refused⟩ := gated.refused authorised
    rw [unread unreadable] at ran
    cases ran
    cases refused

theorem gated_revokeShares_iff :
    Gated setting .revokeDelegatorRecoveryShares delegatorName tables ↔
      Mutation.revokeDelegatorRecoveryShares.Holds setting delegatorName tables := by
  constructor
  · intro gated
    have readable := readable_of_gated rfl revokeShares_of_unreadable gated
    refine ⟨readable, ?_⟩
    intro authorised row member owned missing
    obtain ⟨count, after, ran, counted⟩ := gated.counts authorised rfl
    have returned := (revokeShares_of_authorised readable authorised).symm.trans ran
    cases returned
    have taken := remaining_withoutShares delegatorName tables
    have present : 0 < (tables.heldShares.rows.filter fun row =>
        row.ownerName = delegatorName && row.shareId.isNone).length := by
      apply List.length_pos_of_mem (a := row)
      simp [member, owned, missing]
    omega
  · rintro ⟨readable, keyed⟩
    refine ⟨?_, ?_, ?_⟩
    · intro unauthorised
      exact ⟨_, revokeShares_of_unauthorised readable unauthorised, rfl⟩
    · intro authorised
      have ran := revokeShares_of_authorised readable authorised
      show OnlyOf delegatorName tables
        ((revokeDelegatorRecoveryShares setting delegatorName).run tables).2
      rw [ran]
      exact withoutShares_onlyOf delegatorName tables
    · intro authorised _
      refine ⟨_, _, revokeShares_of_authorised readable authorised, ?_⟩
      have taken := remaining_withoutShares delegatorName tables
      have nothing : (tables.heldShares.rows.filter fun row =>
          row.ownerName = delegatorName && row.shareId.isNone) = [] := by
        apply List.filter_eq_nil_iff.mpr
        intro row member both
        simp only [Bool.and_eq_true, decide_eq_true_eq, Option.isNone_iff_eq_none] at both
        exact keyed authorised row member both.1 both.2
      rw [nothing] at taken
      exact taken

end Shares

section Certificates

variable {Priv Pub Pem : Type} {setting : Setting Priv Pub Pem} {tables : Tables Priv Pub Pem}
variable {delegatorName : String}

/-- The call on the certificates table. -/
abbrev revokeAllOn (setting : Setting Priv Pub Pem) (tables : Tables Priv Pub Pem)
    (delegatorName : String) : TrustChain.TableCall Nat :=
  TrustChain.revokeAllCertsForDelegator setting.libraries.conversions
    ⟨tables.session.store, myName setting tables, setting.now⟩ delegatorName

theorem revokeAll_ok {total : Nat} {after : TrustChain.CertificateTable}
    (ran : (revokeAllOn setting tables delegatorName).run tables.certificates =
      (.ok total, after)) :
    (revokeAllCertsForDelegator setting delegatorName).run tables =
      (.ok (some total), { tables with certificates := after }) := by
  have revoked : (onCertificates (revokeAllOn setting tables delegatorName)).run tables =
      (.ok total, { tables with certificates := after }) := by
    show onCertificates _ tables = _
    rw [onCertificates, ran]
  rw [revokeAllCertsForDelegator, Call.run_read_bind]
  exact Call.run_bind_of_ok revoked _

theorem revokeAll_error {raised : TrustChain.Raised} {after : TrustChain.CertificateTable}
    (ran : (revokeAllOn setting tables delegatorName).run tables.certificates =
      (.error raised, after)) :
    (revokeAllCertsForDelegator setting delegatorName).run tables =
      (.error (.chain raised), { tables with certificates := after }) := by
  have failed : (onCertificates (revokeAllOn setting tables delegatorName)).run tables =
      (.error (.chain raised), { tables with certificates := after }) := by
    show onCertificates _ tables = _
    rw [onCertificates, ran]
  rw [revokeAllCertsForDelegator, Call.run_read_bind]
  exact Call.run_bind_of_error failed _

theorem revokeAll_of_unreadable (unreadable : ¬ Readable setting (myName setting tables) tables) :
    (revokeAllCertsForDelegator setting delegatorName).run tables =
      (.error (.chain .valueError), tables) := by
  have ran : (revokeAllOn setting tables delegatorName).run tables.certificates =
      (.error .valueError, tables.certificates) := by
    rw [revokeAllOn, TrustChain.revokeAllCertsForDelegator, Call.run_read_bind]
    dsimp only
    rw [held_of_unreadable unreadable]
    rfl
  exact revokeAll_error ran

theorem revokeAll_of_unauthorised (readable : Readable setting (myName setting tables) tables)
    (unauthorised : ¬ Authorised setting delegatorName tables) :
    (revokeAllCertsForDelegator setting delegatorName).run tables =
      (.error (.chain (.certificateError ("No valid delegation certificate from '" ++
        delegatorName ++ "'. Cannot revoke their certificates."))), tables) := by
  obtain ⟨delegations, held, authorised⟩ := held_of_readable readable
  have absent := fun issued => unauthorised ((authorised delegatorName).mp issued)
  have ran : (revokeAllOn setting tables delegatorName).run tables.certificates =
      (.error (.certificateError ("No valid delegation certificate from '" ++ delegatorName ++
        "'. Cannot revoke their certificates.")), tables.certificates) := by
    rw [revokeAllOn, TrustChain.revokeAllCertsForDelegator, Call.run_read_bind]
    dsimp only
    rw [held, Call.run_lift_ok_bind, if_neg absent]
    rfl
  exact revokeAll_error ran

/-- The delegator's certificates that are neither revoked nor expired. -/
def liveRows (setting : Setting Priv Pub Pem) (delegatorName : String)
    (tables : Tables Priv Pub Pem) : List TrustChain.CertificateRow :=
  (tables.certificates.certificatesFor none (some delegatorName)).filter fun row =>
    row.live setting.now

theorem liveRows_toRevoke (setting : Setting Priv Pub Pem) (delegatorName : String)
    (tables : Tables Priv Pub Pem) :
    TrustChain.ToRevoke (liveRows setting delegatorName tables) tables.certificates where
  stored row member := (TrustChain.CertificateTable.mem_certificatesFor_subject.mp
    (List.mem_of_mem_filter member)).1
  unmarked row member := by
    have live := (List.mem_filter.mp member).2
    simp only [TrustChain.CertificateRow.live, Bool.and_eq_true, Bool.not_eq_true'] at live
    exact live.1
  unique := tables.certificates.unique.sublist
    ((List.filter_sublist.trans List.filter_sublist).filterMap _)

/-- The gate passed, it is decided by what can be read of the delegator. -/
theorem revokeAll_of_authorised (readable : Readable setting (myName setting tables) tables)
    (authorised : Authorised setting delegatorName tables) :
    (¬ Readable setting delegatorName tables ∧
      (revokeAllCertsForDelegator setting delegatorName).run tables =
        (.error (.chain .valueError), tables)) ∨
    (Readable setting delegatorName tables ∧ ∃ certs,
      TrustChain.ReadFrom setting.libraries.conversions
        (liveRows setting delegatorName tables) certs ∧
      (revokeAllOn setting tables delegatorName).run tables.certificates =
        (TrustChain.revokeEach setting.libraries.conversions
          ("Revoked by delegate " ++ myName setting tables) certs 0).run tables.certificates) := by
  obtain ⟨delegations, held, issued⟩ := held_of_readable readable
  have admitted := (issued delegatorName).mpr authorised
  have passed : (revokeAllOn setting tables delegatorName).run tables.certificates =
      (Call.lift (TrustChain.certificatesOf setting.libraries.conversions
          (tables.certificates.certificatesFor none (some delegatorName))) >>= fun certs =>
        TrustChain.revokeEach setting.libraries.conversions
          ("Revoked by delegate " ++ myName setting tables)
          (certs.filter fun cert => !cert.revoked && !cert.isExpired setting.now) 0).run
        tables.certificates := by
    rw [revokeAllOn, TrustChain.revokeAllCertsForDelegator, Call.run_read_bind]
    dsimp only
    rw [held, Call.run_lift_ok_bind, if_pos admitted]
    rfl
  cases loaded : TrustChain.certificatesOf setting.libraries.conversions
      (tables.certificates.certificatesFor none (some delegatorName)) with
  | error raised =>
      rw [loaded] at passed
      obtain ⟨same, row, member, unread⟩ := TrustChain.valueError_of_certificatesOf loaded
      refine .inl ⟨?_, ?_⟩
      · intro read
        obtain ⟨cert, found⟩ := read row member
        exact unread cert found
      · rw [same] at passed
        exact revokeAll_error passed
  | ok certs =>
      rw [loaded, Call.run_lift_ok_bind] at passed
      have live : ∀ row cert, TrustChain.CertificateRow.Reads row cert →
          (!cert.revoked && !cert.isExpired setting.now) = row.live setting.now := by
        intro row cert reads
        rw [TrustChain.CertificateRow.live, TrustChain.TrustCertificate.isExpired, reads.revoked,
          reads.notAfter]
      exact .inr ⟨readable_iff.mpr ⟨certs, loaded⟩, _,
        (TrustChain.readFrom_of_certificatesOf loaded).filter live, passed⟩

theorem remaining_certificates (tables : Tables Priv Pub Pem)
    (after : TrustChain.CertificateTable) :
    remaining { tables with certificates := after } + TrustChain.unrevoked tables.certificates =
      remaining tables + TrustChain.unrevoked after := by
  simp only [remaining, TrustChain.unrevoked]
  omega

/-- A change of the certificates table that keeps the rows of other subjects. -/
theorem onlyOf_certificates_iff {after : TrustChain.CertificateTable} :
    OnlyOf delegatorName tables { tables with certificates := after } ↔
      after.rows.filter (fun row => row.subjectName ≠ delegatorName) =
        tables.certificates.rows.filter (fun row => row.subjectName ≠ delegatorName) :=
  ⟨fun onlyOf => onlyOf.certificates, fun kept => ⟨rfl, rfl, kept, rfl, rfl⟩⟩

theorem revokeAll_gated (delegatorName : String) (tables : Tables Priv Pub Pem)
    (holds : Mutation.revokeAllCertsForDelegator.Holds setting delegatorName tables) :
    Gated setting .revokeAllCertsForDelegator delegatorName tables := by
  obtain ⟨readable, sound⟩ := holds
  have succeeds (authorised : Authorised setting delegatorName tables) :
      ∃ total after, (revokeAllCertsForDelegator setting delegatorName).run tables =
        (.ok (some total), { tables with certificates := after }) ∧
        TrustChain.unrevoked tables.certificates = TrustChain.unrevoked after + total ∧
        after.rows.filter (fun row => row.subjectName ≠ delegatorName) =
          tables.certificates.rows.filter (fun row => row.subjectName ≠ delegatorName) := by
    obtain ⟨theirs, rows⟩ := sound authorised
    obtain ⟨unread, -⟩ | ⟨-, certs, readFrom, ran⟩ := revokeAll_of_authorised readable authorised
    · exact absurd theirs unread
    have toRevoke := liveRows_toRevoke setting delegatorName tables
    have live : ∀ row ∈ liveRows setting delegatorName tables, row.certId ≠ none ∧
        (row.Dated → row.subjectName = delegatorName) := fun row member =>
      rows row (List.mem_of_mem_filter member) (List.mem_filter.mp member).2
    obtain ⟨raised, after, -, row, member, missing⟩ | ⟨total, after, each, counted⟩ :=
      TrustChain.revokeEach_counts ("Revoked by delegate " ++ myName setting tables) 0 readFrom
        toRevoke
    · exact absurd missing (live row member).1
    have named : (liveRows setting delegatorName tables).filter (fun row => row.certId.isNone) =
        [] := by
      apply List.filter_eq_nil_iff.mpr
      intro row member missing
      exact (live row member).1 (Option.isNone_iff_eq_none.mp missing)
    rw [named] at counted
    have kept := TrustChain.revokeEach_filter ("Revoked by delegate " ++ myName setting tables) 0
      (fun row => row.subjectName ≠ delegatorName) (fun row same => by simp [same]) readFrom
      toRevoke fun row member => (live row member).2
    rw [each] at kept
    refine ⟨total, after, revokeAll_ok (ran.trans each), ?_, kept⟩
    simpa using counted
  refine ⟨?_, ?_, ?_⟩
  · intro unauthorised
    exact ⟨_, revokeAll_of_unauthorised readable unauthorised, rfl⟩
  · intro authorised
    obtain ⟨total, after, ran, -, kept⟩ := succeeds authorised
    show OnlyOf delegatorName tables
      ((revokeAllCertsForDelegator setting delegatorName).run tables).2
    rw [ran]
    exact onlyOf_certificates_iff.mpr kept
  · intro authorised _
    obtain ⟨total, after, ran, counted, -⟩ := succeeds authorised
    refine ⟨total, _, ran, ?_⟩
    have moved := remaining_certificates tables after
    omega

theorem gated_revokeAll_iff :
    Gated setting .revokeAllCertsForDelegator delegatorName tables ↔
      Mutation.revokeAllCertsForDelegator.Holds setting delegatorName tables := by
  refine ⟨?_, revokeAll_gated delegatorName tables⟩
  intro gated
  have readable := readable_of_gated rfl revokeAll_of_unreadable gated
  refine ⟨readable, ?_⟩
  intro authorised
  obtain ⟨total, last, returned, taken⟩ := gated.counts authorised rfl
  obtain ⟨-, failed⟩ | ⟨theirs, certs, readFrom, ran⟩ := revokeAll_of_authorised readable authorised
  · have impossible := failed.symm.trans returned
    cases impossible
  refine ⟨theirs, ?_⟩
  have toRevoke := liveRows_toRevoke setting delegatorName tables
  obtain ⟨raised, after, each, -⟩ | ⟨count, after, each, counted⟩ :=
    TrustChain.revokeEach_counts ("Revoked by delegate " ++ myName setting tables) 0 readFrom
      toRevoke
  · have impossible := (revokeAll_error (ran.trans each)).symm.trans returned
    cases impossible
  have done := revokeAll_ok (ran.trans each)
  have same := done.symm.trans returned
  cases same
  have moved := remaining_certificates tables after
  have named : ∀ row ∈ liveRows setting delegatorName tables, row.certId ≠ none := by
    intro row member missing
    have present : 0 < ((liveRows setting delegatorName tables).filter fun row =>
        row.certId.isNone).length := by
      apply List.length_pos_of_mem (a := row)
      simp [member, missing]
    omega
  intro row selected live
  have member : row ∈ liveRows setting delegatorName tables := List.mem_filter.mpr ⟨selected, live⟩
  refine ⟨named row member, ?_⟩
  intro dated
  by_contra differ
  have onlyOf : OnlyOf delegatorName tables
      ((revokeAllCertsForDelegator setting delegatorName).run tables).2 := gated.onlyOf authorised
  rw [done] at onlyOf
  have gone := TrustChain.revokeEach_marks ("Revoked by delegate " ++ myName setting tables) 0
    readFrom toRevoke named member dated
  rw [each] at gone
  have there : row ∈ tables.certificates.rows.filter
      (fun row => row.subjectName ≠ delegatorName) :=
    List.mem_filter.mpr ⟨toRevoke.stored row member, by simpa using differ⟩
  rw [← onlyOf.certificates] at there
  exact gone (List.mem_of_mem_filter there)

end Certificates

/-- Each of the seven operations keeps the gate exactly if what it reads and marks can be told
apart and read back. -/
theorem delegation_gate_iff {Priv Pub Pem : Type} (setting : Setting Priv Pub Pem)
    (mutation : Mutation) (delegatorName : String) (before : Tables Priv Pub Pem) :
    Gated setting mutation delegatorName before ↔ mutation.Holds setting delegatorName before := by
  cases mutation with
  | revokeDelegatorRecoveryShares => exact gated_revokeShares_iff
  | revokeAllCertsForDelegator => exact gated_revokeAll_iff
  | updateDelegatorPubKey new masterPassword => exact gated_update_iff rfl
  | updateDelegatorX25519Key new masterPassword => exact gated_update_iff rfl
  | updateDelegatorPem new masterPassword => exact gated_update_iff rfl
  | updateDelegatorPqcKey new masterPassword => exact gated_update_iff rfl
  | removeAllDelegatorOptionalKeys masterPassword => exact gated_update_iff rfl

section Toy

open TrustChain (toyRow toyTrustLibraries CertificateRow CertificateTable)

def toySetting : Setting String String (String × Bytes) where
  libraries := toyTrustLibraries
  fingerprint text := text
  now := 0
  context := Friends.toyContext

/-- Alice's delegation to me. -/
def toyDelegation : CertificateRow :=
  { toyRow "c1" "me" false with certType := TrustChain.CertificateType.delegation.value }

/-- A certificate about alice that came without an id. -/
def toyUnnamed : CertificateRow := { toyRow "c2" "alice" false with certId := none }

/-- A share of alice's that came without an id. -/
def toyUnnamedShare : HeldShare where
  shareId := none
  ownerName := "alice"
  holderName := "me"
  shareIndex := 1
  totalShares := 3
  threshold := 2
  plaintextShareB64 := ""
  createdAt := 0

def toyTables : Tables String String (String × Bytes) where
  session := ⟨{}, .empty⟩
  myNameSetting := some "me"
  certificates := (CertificateTable.empty.insertOrReplace toyDelegation).insertOrReplace toyUnnamed
  recoveryShares := .empty
  heldShares := ⟨[toyUnnamedShare], List.nodup_nil⟩

theorem toyTables_authorised : Authorised toySetting "alice" toyTables :=
  ⟨toyDelegation, by decide +kernel, rfl, rfl, by decide +kernel, by decide +kernel⟩

/-- A certificate and a share without an id are counted, and stay. -/
theorem delegation_gate_miscounts :
    ¬ Gated toySetting .revokeAllCertsForDelegator "alice" toyTables ∧
      ¬ Gated toySetting .revokeDelegatorRecoveryShares "alice" toyTables := by
  have certificates : ((revokeAllCertsForDelegator toySetting "alice").run toyTables).1 =
      .ok (some 1) := by decide +kernel
  have shares : ((revokeDelegatorRecoveryShares toySetting "alice").run toyTables).1 =
      .ok (some 1) := by decide +kernel
  constructor
  · intro gated
    obtain ⟨count, after, ran, counted⟩ := gated.counts toyTables_authorised rfl
    have left : remaining ((revokeAllCertsForDelegator toySetting "alice").run toyTables).2 =
        remaining toyTables := by decide +kernel
    have ran : (revokeAllCertsForDelegator toySetting "alice").run toyTables =
        (.ok (some count), after) := ran
    rw [ran] at certificates left
    cases certificates
    dsimp only at left
    omega
  · intro gated
    obtain ⟨count, after, ran, counted⟩ := gated.counts toyTables_authorised rfl
    have left : remaining ((revokeDelegatorRecoveryShares toySetting "alice").run toyTables).2 =
        remaining toyTables := by decide +kernel
    have ran : (revokeDelegatorRecoveryShares toySetting "alice").run toyTables =
        (.ok (some count), after) := ran
    rw [ran] at shares left
    cases shares
    dsimp only at left
    omega

end Toy

end UltimateEnigma.Delegation
