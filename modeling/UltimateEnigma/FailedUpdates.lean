import UltimateEnigma.FriendLoading
import UltimateEnigma.PartialUpdates

set_option autoImplicit false

namespace UltimateEnigma.Friends

open Py KeyStore

section Statements

variable {Priv Pub Pem : Type}

/-- A call that raises leaves the friend's row and the maps of the key store as they were. -/
def FailsCleanly {α : Type} (name : String) (session : Session Priv Pub Pem)
    (call : ServiceCall Priv Pub Pem α) : Prop :=
  ∀ raised, (call.run session).1 = .error raised →
    (call.run session).2.db.friends.get? name = session.db.friends.get? name ∧
      (call.run session).2.store = session.store

variable (P : Primitives Priv Pub Pem) (context : UpdateContext)

/-- The password is the master password, and not empty where it protects something. -/
def Accepted (masterPassword : Bytes) (protects : Prop) (session : Session Priv Pub Pem) : Prop :=
  verifyMasterPassword P context.guard masterPassword session = .ok true ∧
    (protects → masterPassword ≠ [])

/-- Where `init_ratchet` gets as far as the password, the password is accepted, or the row
says already what is written before it is asked for. -/
def InitSpares (name role : String) (masterPassword : Bytes) (session : Session Priv Pub Pem) :
    Prop :=
  ∀ secret xB64 peerDhPub state,
    ratchetInputs session.store name = .ok (secret, xB64, peerDhPub) →
    freshRatchet context role peerDhPub secret (session.store.friendsEcdhPriv.get? name) =
      .ok state →
    (nonempty (currentPem P session.store name)).isSome = true →
    Accepted P context masterPassword True session ∨
      ∀ row, session.db.friends.get? name = some row →
        row.ratchetStateJson = some state ∧
          (capabilityOf row.capabilitiesJson doubleRatchet).getD false = true

/-- Where `reset_ratchet` gets as far as the password, the password is accepted, or there
is no session to delete. -/
def ResetSpares (name : String) (masterPassword : Bytes) (session : Session Priv Pub Pem) : Prop :=
  (nonempty (currentPem P session.store name)).isSome = true →
    Accepted P context masterPassword
        ((nonemptyBytes (getFriendSecret session.store name)).isSome = true ∨
          (session.store.friendsEcdhPriv.get? name).isSome = true) session ∨
      ∀ row, session.db.friends.get? name = some row → row.ratchetStateJson = none

end Statements

section Rows

variable {Pem : Type}

theorem get?_updateRow (name : String) (change : FriendRow → FriendRow) (db : Database Pem) :
    (updateRow name change db).friends.get? name = (db.friends.get? name).map change := by
  unfold updateRow
  split
  · rename_i missing
    rw [missing]
    rfl
  · rename_i row found
    rw [found]
    exact Dict.get?_set_self _ _ _

theorem lookup_setCapability_self (key : String) (caps : Capabilities) :
    (setCapability key caps).lookup key = some true := by
  induction caps with
  | nil => rw [setCapability, List.lookup_cons, beq_iff_eq.mpr rfl]
  | cons entry rest ih =>
      rw [setCapability]
      split
      · rw [List.lookup_cons, beq_iff_eq.mpr rfl]
      · rename_i apart
        rw [List.lookup_cons, beq_eq_false_iff_ne.mpr (Ne.symm apart)]
        exact ih

/-- The flag is set already where setting it changes nothing. -/
theorem ensured_eq_iff (row : FriendRow) :
    (if (capabilityOf row.capabilitiesJson doubleRatchet).getD false then row
      else { row with
        capabilitiesJson := some (setCapability doubleRatchet (row.capabilitiesJson.getD [])) }) =
        row ↔ (capabilityOf row.capabilitiesJson doubleRatchet).getD false = true := by
  split
  · rename_i set
    exact iff_of_true rfl set
  · rename_i missing
    refine iff_of_false (fun same => missing ?_) missing
    have column := congrArg FriendRow.capabilitiesJson same
    rw [← column]
    show ((setCapability doubleRatchet (row.capabilitiesJson.getD [])).lookup doubleRatchet).getD
      false = true
    rw [lookup_setCapability_self]
    rfl

theorem ensured_set_eq_iff (db : Database Pem) (name state : String) :
    (ensureRatchetCapability name (setRatchetState name (some state) db)).friends.get? name =
        db.friends.get? name ↔
      ∀ row, db.friends.get? name = some row → row.ratchetStateJson = some state ∧
        (capabilityOf row.capabilitiesJson doubleRatchet).getD false = true := by
  rw [ensureRatchetCapability, get?_updateRow, setRatchetState, get?_updateRow]
  cases db.friends.get? name with
  | none =>
      refine iff_of_true rfl ?_
      intro row missing
      cases missing
  | some row =>
      simp only [Option.map_some, Option.some.injEq, forall_eq']
      constructor
      · intro same
        have stored : row.ratchetStateJson = some state := by
          have written := congrArg FriendRow.ratchetStateJson same
          rw [← written]
          split <;> rfl
        rw [← stored, ensured_eq_iff] at same
        exact ⟨stored, same⟩
      · rintro ⟨stored, set⟩
        rw [← stored, ensured_eq_iff]
        exact set

theorem erased_eq_iff (db : Database Pem) (name : String) :
    (setRatchetState name none db).friends.get? name = db.friends.get? name ↔
      ∀ row, db.friends.get? name = some row → row.ratchetStateJson = none := by
  rw [setRatchetState, get?_updateRow]
  cases db.friends.get? name with
  | none =>
      refine iff_of_true rfl ?_
      intro row missing
      cases missing
  | some row =>
      simp only [Option.map_some, Option.some.injEq, forall_eq']
      constructor
      · intro same
        rw [← same]
      · intro blank
        rw [← blank]

end Rows

section Saves

variable {Priv Pub Pem : Type} {P : Primitives Priv Pub Pem} {platform : Platform}
variable {context : UpdateContext} {masterPassword : Bytes} {name : String}
variable {session : Session Priv Pub Pem} {update : FriendUpdate}

theorem onStore_run_error {α : Type} {refuse : KeyStore.Raised → ServiceRaised}
    {call : StoreCall Priv Pub Pem α} {raised : KeyStore.Raised} {after : Session Priv Pub Pem}
    (failed : call.run session = (.error raised, after)) :
    (onStore refuse call).run session = (.error (refuse raised), after) := by
  show onStore refuse call session = _
  unfold onStore
  rw [failed]

/-- A save of a key that parses, without signing keys, raises before it writes, or not at all. -/
theorem saveVerified_run (parses : ∃ pub, P.pemToPubkey update.pem = .ok pub)
    (unsigned : update.hybridSigPubB64 = none) :
    Accepted P context masterPassword update.HasSecret session ∧
      (∃ value after, (saveVerified P platform context name update masterPassword).run session =
        (.ok value, after)) ∨
    ¬ Accepted P context masterPassword update.HasSecret session ∧
      ∃ raised, (saveVerified P platform context name update masterPassword).run session =
        (.error raised, session) := by
  rw [saveVerified, Call.run_read_bind]
  cases verified : verifyMasterPassword P context.guard masterPassword session with
  | error refusal =>
      refine .inr ⟨?_, refusal, rfl⟩
      rintro ⟨valid, _⟩
      rw [verified] at valid
      cases valid
  | ok valid =>
      cases valid with
      | false =>
          refine .inr ⟨?_, _, rfl⟩
          rintro ⟨valid, _⟩
          rw [verified] at valid
          cases valid
      | true =>
          rw [Call.run_lift_ok_bind]
          show _ ∧ (∃ value after, (onStore .passed _).run session = _) ∨
            _ ∧ ∃ raised, (onStore .passed _).run session = _
          cases made : savedRow P name update masterPassword context.draws session.db with
          | error raised =>
              have empty : ¬ ∃ row,
                  savedRow P name update masterPassword context.draws session.db = .ok row := by
                rw [made]
                rintro ⟨row, same⟩
                cases same
              rw [savedRow_ok_iff] at empty
              exact .inr ⟨fun accepted => empty accepted.2, _,
                onStore_run_error (saveFriend_run_unwrapped made)⟩
          | ok row =>
              obtain ⟨pqcCombinedPub, _, run⟩ := saveFriend_run platform made
              have signing : update.signingKeys platform = .ok none := by
                unfold FriendUpdate.signingKeys readSigningKeys
                rw [unsigned]
                split <;> rfl
              obtain ⟨pub, parses⟩ := parses
              rw [parses] at run
              dsimp only at run
              rw [signing] at run
              exact .inl ⟨⟨verified, savedRow_ok_iff.mp ⟨row, made⟩⟩, _, _,
                onStore_run_ok_iff.mpr run⟩

theorem saveVerified_return_run {accepted : Prop} {α : Type}
    (means : accepted ↔ Accepted P context masterPassword update.HasSecret session)
    (parses : ∃ pub, P.pemToPubkey update.pem = .ok pub)
    (unsigned : update.hybridSigPubB64 = none) (result : α) :
    accepted ∧ (∃ value after, (saveVerified P platform context name update masterPassword >>=
        fun _ => pure result).run session = (.ok value, after)) ∨
    ¬ accepted ∧ ∃ raised, (saveVerified P platform context name update masterPassword >>=
        fun _ => pure result).run session = (.error raised, session) := by
  rw [means]
  rcases saveVerified_run parses unsigned with ⟨accepted, _, after, ran⟩ | ⟨refused, raised, ran⟩
  · exact .inl ⟨accepted, result, after, Call.run_bind_of_ok ran _⟩
  · exact .inr ⟨refused, raised, Call.run_bind_of_error ran _⟩

theorem currentPem_parses (lawful : P.Lawful) {pem : String}
    (text : nonempty (currentPem P session.store name) = some pem) :
    ∃ pub, P.pemToPubkey pem = .ok pub := by
  obtain ⟨entry, _, written⟩ := Option.map_eq_some_iff.mp (eq_of_nonempty text).1
  exact ⟨entry.1, by rw [← written, lawful.pubkey_round]⟩

theorem RowTouched.write {middle : Session Priv Pub Pem} (touched : RowTouched name session middle)
    (change : FriendRow → FriendRow) :
    RowTouched name session { middle with db := Friends.updateRow name change middle.db } :=
  touched.updateRow
    (show (onDatabase (Friends.updateRow name change)).run middle = (.ok (), _) from rfl)

theorem RowTouched.accepted_iff {middle : Session Priv Pub Pem}
    (touched : RowTouched name session middle) {protects : Prop} :
    Accepted P context masterPassword protects middle ↔
      Accepted P context masterPassword protects session := by
  unfold Accepted verifyMasterPassword
  rw [touched.store, touched.secrets]

/-- A password that is not accepted leaves behind what was written before it was asked for. -/
theorem fails_cleanly_after_write_iff {α : Type} {accepted : Prop}
    {outcome : Except ServiceRaised α × Session Priv Pub Pem} {middle : Session Priv Pub Pem}
    (touched : RowTouched name session middle)
    (split : accepted ∧ (∃ value after, outcome = (.ok value, after)) ∨
      ¬ accepted ∧ ∃ raised, outcome = (.error raised, middle)) :
    (∀ raised, outcome.1 = .error raised →
      outcome.2.db.friends.get? name = session.db.friends.get? name ∧
        outcome.2.store = session.store) ↔
      accepted ∨ middle.db.friends.get? name = session.db.friends.get? name := by
  rcases split with ⟨accepted, value, after, rfl⟩ | ⟨refused, raised, rfl⟩
  · refine iff_of_true ?_ (.inl accepted)
    intro raised impossible
    cases impossible
  · rw [or_iff_right refused]
    constructor
    · intro clean
      exact (clean raised rfl).1
    · intro same _ _
      exact ⟨same, touched.store⟩

theorem initRatchet_fails_cleanly_iff (lawful : P.Lawful) {role : String} :
    FailsCleanly name session (initRatchet P platform context name role masterPassword) ↔
      InitSpares P context name role masterPassword session := by
  unfold FailsCleanly
  rw [initRatchet, Call.run_read_bind]
  dsimp only
  cases given : ratchetInputs session.store name with
  | error refusal =>
      refine iff_of_true (fun _ _ => ⟨rfl, rfl⟩) ?_
      intro secret xB64 peerDhPub state inputs
      rw [given] at inputs
      cases inputs
  | ok inputs =>
      obtain ⟨secret, xB64, peerDhPub⟩ := inputs
      rw [Call.run_lift_ok_bind]
      dsimp only
      cases fresh : freshRatchet context role peerDhPub secret
          (session.store.friendsEcdhPriv.get? name) with
      | error refusal =>
          refine iff_of_true (fun _ _ => ⟨rfl, rfl⟩) ?_
          intro _ _ _ state inputs started
          rw [given] at inputs
          cases inputs
          rw [fresh] at started
          cases started
      | ok state =>
          rw [Call.run_lift_ok_bind]
          let middle : Session Priv Pub Pem :=
            { session with db :=
                ensureRatchetCapability name (setRatchetState name (some state) session.db) }
          have touched : RowTouched name session middle :=
            ((RowTouched.refl name session).write _).write _
          have erased : (onDatabase (setRatchetState name (some state)) :
              ServiceCall Priv Pub Pem Unit).run session =
                (.ok (), { session with db := setRatchetState name (some state) session.db }) := rfl
          have enabled : (onDatabase (ensureRatchetCapability name) :
              ServiceCall Priv Pub Pem Unit).run
                { session with db := setRatchetState name (some state) session.db } =
                (.ok (), middle) := rfl
          rw [Call.run_bind_of_ok erased, Call.run_bind_of_ok enabled]
          have settled : InitSpares P context name role masterPassword session ↔
              ((nonempty (currentPem P session.store name)).isSome = true →
                Accepted P context masterPassword True session ∨
                  middle.db.friends.get? name = session.db.friends.get? name) := by
            rw [ensured_set_eq_iff]
            constructor
            · intro spares
              exact spares secret xB64 peerDhPub state given fresh
            · intro spares _ _ _ _ inputs started
              rw [given] at inputs
              cases inputs
              rw [fresh] at started
              cases started
              exact spares
          rw [settled]
          cases text : nonempty (currentPem P session.store name) with
          | none =>
              refine iff_of_true ?_ (by simp)
              intro raised impossible
              cases impossible
          | some pem =>
              have parses := currentPem_parses lawful text
              obtain ⟨_, shared, _⟩ := ratchetInputs_ok given
              have protects : (nonemptyBytes (some secret)).isSome = true := by
                rw [← shared, nonemptyBytes_nonemptyBytes, shared]
                rfl
              refine (fails_cleanly_after_write_iff touched (saveVerified_run parses rfl)).trans ?_
              rw [touched.accepted_iff, forall_prop_of_true Option.isSome_some]
              refine or_congr_left (and_congr_right fun _ => ?_)
              exact ⟨fun guarded _ => guarded (.inl protects), fun guarded _ => guarded trivial⟩

theorem resetRatchet_fails_cleanly_iff (lawful : P.Lawful) :
    FailsCleanly name session (resetRatchet P platform context name masterPassword) ↔
      ResetSpares P context name masterPassword session := by
  unfold FailsCleanly
  rw [resetRatchet, Call.run_read_bind]
  dsimp only
  split
  · rename_i missing
    have absent : friendEntry session.store name = none := by
      rw [friendExists_eq_isSome] at missing
      simpa only [Bool.not_eq_eq_eq_not, Bool.not_true, Option.isSome_eq_false_iff,
        Option.isNone_iff_eq_none] using missing
    refine iff_of_true (fun _ _ => ⟨rfl, rfl⟩) ?_
    unfold ResetSpares
    rw [currentPem, absent]
    intro impossible
    cases impossible
  · let middle : Session Priv Pub Pem :=
      { session with db := setRatchetState name none session.db }
    have touched : RowTouched name session middle := (RowTouched.refl name session).write _
    rw [Call.run_bind_of_ok (show (deleteRatchet name).run session = (.ok _, middle) from rfl)]
    unfold ResetSpares
    rw [← erased_eq_iff, ← touched.accepted_iff]
    cases text : nonempty (currentPem P session.store name) with
    | none =>
        refine iff_of_true ?_ (by simp)
        intro raised impossible
        cases impossible
    | some pem =>
        rw [forall_prop_of_true Option.isSome_some]
        refine fails_cleanly_after_write_iff touched ?_
        dsimp only
        split
        · rename_i missing
          obtain ⟨shared, empty⟩ := Bool.and_eq_true_iff.mp missing
          refine .inr ⟨?_, _, rfl⟩
          rintro ⟨_, guarded⟩
          exact guarded (.inl shared) (List.isEmpty_iff.mp empty)
        · refine saveVerified_return_run ?_ ?_ ?_ _
          · rfl
          · exact currentPem_parses lawful text
          · rfl

/-- `init_ratchet` and `reset_ratchet` write before they ask for the password: one that raises
leaves everything as it was exactly where the password is not what it raises on, or nothing was
to be written. -/
theorem failed_ratchet_update_changes_nothing_iff (lawful : P.Lawful) {role : String} :
    (FailsCleanly name session (initRatchet P platform context name role masterPassword) ↔
        InitSpares P context name role masterPassword session) ∧
      (FailsCleanly name session (resetRatchet P platform context name masterPassword) ↔
        ResetSpares P context name masterPassword session) :=
  ⟨initRatchet_fails_cleanly_iff lawful, resetRatchet_fails_cleanly_iff lawful⟩

end Saves

section Example

/-- Bob has a key for the exchange, and then a session. -/
def toyPaired : ToySession :=
  ((initRatchet toyLibraries toyPlatform toyContext "bob" "alice" [1]).run
    ((machine toyLibraries toyPlatform).run toyStarted
      [fun _ => .load [1] 0 toyLoadDraws,
       fun _ => .saveFriend "bob"
         { toyFriend with x25519PubB64 := some (b64encode (List.replicate 32 9)) } [1] toyDraws])).2

theorem toyPaired_fails_cleanly :
    FailsCleanly "bob" toyPaired
        (initRatchet toyLibraries toyPlatform toyContext "bob" "carol" [9]) ↔
      InitSpares toyLibraries toyContext "bob" "carol" [9] toyPaired :=
  (failed_ratchet_update_changes_nothing_iff toyLibraries_lawful).1

def ratchetStateOf (name : String) (session : ToySession) : Option String :=
  (session.db.friends.get? name).bind FriendRow.ratchetStateJson

/-- A wrong password makes the reset raise, and the session is gone; it makes another
`init_ratchet` raise, and the session is another one. -/
theorem toyPaired_loses_session :
    ratchetStateOf "bob" toyPaired = some "alice's state" ∧
    ((resetRatchet toyLibraries toyPlatform toyContext "bob" [9]).run toyPaired).1 =
      .error (.valueError "Invalid password — cannot save friend") ∧
    ratchetStateOf "bob"
      ((resetRatchet toyLibraries toyPlatform toyContext "bob" [9]).run toyPaired).2 = none ∧
    ¬ FailsCleanly "bob" toyPaired
      (resetRatchet toyLibraries toyPlatform toyContext "bob" [9]) ∧
    ratchetStateOf "bob" ((initRatchet toyLibraries toyPlatform toyContext "bob" "bob" [9]).run
      toyPaired).2 = some "bob's state" ∧
    ¬ FailsCleanly "bob" toyPaired
      (initRatchet toyLibraries toyPlatform toyContext "bob" "bob" [9]) := by
  have paired : ratchetStateOf "bob" toyPaired = some "alice's state" := by decide +kernel
  have raised : ((resetRatchet toyLibraries toyPlatform toyContext "bob" [9]).run toyPaired).1 =
      .error (.valueError "Invalid password — cannot save friend") := by decide +kernel
  have gone : ratchetStateOf "bob" ((resetRatchet toyLibraries toyPlatform toyContext "bob"
      [9]).run toyPaired).2 = none := by decide +kernel
  have refused : ((initRatchet toyLibraries toyPlatform toyContext "bob" "bob" [9]).run
      toyPaired).1 = .error (.valueError "Invalid password — cannot save friend") := by
    decide +kernel
  have replaced : ratchetStateOf "bob" ((initRatchet toyLibraries toyPlatform toyContext "bob"
      "bob" [9]).run toyPaired).2 = some "bob's state" := by decide +kernel
  refine ⟨paired, raised, gone, fun clean => ?_, replaced, fun clean => ?_⟩
  · have same := (clean _ raised).1
    rw [ratchetStateOf, same] at gone
    cases paired.symm.trans gone
  · have same := (clean _ refused).1
    rw [ratchetStateOf, same] at replaced
    exact absurd (paired.symm.trans replaced) (by decide)

end Example

end UltimateEnigma.Friends
