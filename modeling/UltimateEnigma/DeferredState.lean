import UltimateEnigma.DoubleRatchetFrames
import UltimateEnigma.RatchetService
import UltimateEnigma.LateMessage

set_option autoImplicit false

namespace UltimateEnigma

open Py DoubleRatchet

namespace DoubleRatchet

variable {Priv Dh Key : Type} (P : Primitives Priv Dh Key)

/-- An encryption that returned leaves a state that would be stored differently. -/
theorem Primitives.encrypt_changes {fresh : Priv} {nonce plaintext header ciphertext : Bytes}
    {state after : RatchetState Priv Key}
    (success : (P.encrypt fresh nonce plaintext).run state = (.ok (header, ciphertext), after)) :
    after.serialize ≠ state.serialize := by
  obtain ⟨middle, onChain, start⟩ := P.encrypt_ok success
  obtain ⟨priv, ck, _, _, _, stepped⟩ := P.encryptOnChain_ok onChain
  intro same
  rcases start with ⟨_, same_state⟩ | ⟨missing, _, _⟩
  · have counter := congrArg SerializedState.sendMsgNum same
    rw [stepped, same_state] at counter
    simp only [RatchetState.serialize] at counter
    omega
  · have chain := congrArg SerializedState.sendChainKey same
    rw [stepped] at chain
    simp only [RatchetState.serialize, missing] at chain
    cases chain

theorem Primitives.decrypt_changes {fresh : Priv} {header ciphertext plaintext : Bytes}
    {state after : RatchetState Priv Key}
    (success : (P.decrypt fresh header ciphertext).run state = (.ok plaintext, after)) :
    after.serialize ≠ state.serialize := by
  obtain ⟨long, remote, turn⟩ := P.decrypt_ok success
  intro same
  rcases turn with ⟨_, _, onChain⟩ | ⟨differs, _, _⟩
  · rcases P.decryptOnChain_progress onChain with keys | counter
    · exact keys (congrArg SerializedState.skippedKeys same)
    · have equal := congrArg SerializedState.recvMsgNum same
      simp only [RatchetState.serialize] at equal
      omega
  · have equal := congrArg SerializedState.dhPubRemote same
    simp only [RatchetState.serialize] at equal
    exact differs (equal.symm.trans remote)

end DoubleRatchet

namespace RatchetService

/-- A call of `encrypt_message` or `decrypt_message` that returned: the state it started
from, the state it left, and for an encryption the header's DH key and message number. -/
structure Operation (Priv Key : Type) where
  friend : String
  start : RatchetState Priv Key
  left : RatchetState Priv Key
  pair : Option (Option PubBytes × Nat)

/-- The service and what it has done so far, the newest first. -/
structure World (Priv Key StorageKey Box : Type) where
  service : Service Priv Key StorageKey Box
  history : List (Operation Priv Key)

/-- `flush` is a call of `flush_dirty_states` or the timer that calls it. -/
inductive Event (Priv : Type) where
  | encrypt (friend : String) (fresh : Priv) (nonce plaintext : Bytes)
  | decrypt (friend : String) (fresh : Priv) (header ciphertext : Bytes)
  | flush (nonce : String → Bytes) (fails : String → Bool)

section History

variable {Priv Key : Type}

def lastOperation (history : List (Operation Priv Key)) (friend : String) :
    Option (Operation Priv Key) :=
  history.find? fun operation => operation.friend = friend

/-- The DH key and message number of every message encrypted for this friend. -/
def usedPairs (history : List (Operation Priv Key)) (friend : String) :
    List (Option PubBytes × Nat) :=
  (history.filter fun operation => operation.friend = friend).filterMap Operation.pair

theorem lastOperation_cons (operation : Operation Priv Key) (rest : List (Operation Priv Key))
    (friend : String) :
    lastOperation (operation :: rest) friend =
      if operation.friend = friend then some operation else lastOperation rest friend := by
  simp only [lastOperation, List.find?_cons]
  by_cases same : operation.friend = friend <;> simp [same]

theorem usedPairs_cons (operation : Operation Priv Key) (rest : List (Operation Priv Key))
    (friend : String) :
    usedPairs (operation :: rest) friend =
      if operation.friend = friend then operation.pair.toList ++ usedPairs rest friend
      else usedPairs rest friend := by
  simp only [usedPairs, List.filter_cons]
  by_cases same : operation.friend = friend
  · cases pair : operation.pair <;> simp [same, pair]
  · simp [same]

end History

section Runs

variable {Priv Dh Key StorageKey Box : Type}
variable (P : Primitives Priv Dh Key) (cipher : StorageCipher Priv Key StorageKey Box)

def applyEncrypt (world : World Priv Key StorageKey Box) (friend : String) (fresh : Priv)
    (nonce plaintext : Bytes) : World Priv Key StorageKey Box :=
  let result := (encryptMessage P cipher friend fresh nonce plaintext).run world.service
  match loadedState cipher world.service friend, result.1 with
  | .ok start, .ok (header, _) =>
      { service := result.2
        history := ⟨friend, start, ((P.encrypt fresh nonce plaintext).run start).2,
          some (headerPub header, headerMsgNum header)⟩ :: world.history }
  | _, _ => { world with service := result.2 }

def applyDecrypt (world : World Priv Key StorageKey Box) (friend : String) (fresh : Priv)
    (header ciphertext : Bytes) : World Priv Key StorageKey Box :=
  let result := (decryptMessage P cipher friend fresh header ciphertext).run world.service
  match loadedState cipher world.service friend, result.1 with
  | .ok start, .ok _ =>
      { service := result.2
        history := ⟨friend, start, ((P.decrypt fresh header ciphertext).run start).2, none⟩ ::
          world.history }
  | _, _ => { world with service := result.2 }

/-- Calls and timer firings one after the other. A key pair that a call generates has a
public key no header to that friend has carried. -/
def sequential : Machine (World Priv Key StorageKey Box) (Event Priv) where
  start world := world.service.dirty = .empty ∧ world.history = []
  enabled world
    | .encrypt friend fresh _ _ | .decrypt friend fresh _ _ =>
        ∀ pair ∈ usedPairs world.history friend, pair.1 ≠ some (P.publicBytes fresh)
    | .flush _ _ => True
  apply world
    | .encrypt friend fresh nonce plaintext => applyEncrypt P cipher world friend fresh nonce plaintext
    | .decrypt friend fresh header ciphertext =>
        applyDecrypt P cipher world friend fresh header ciphertext
    | .flush nonce fails =>
        { world with service := ((flushDirtyStates cipher nonce fails).run world.service).2 }

/-- The call finds nothing buffered for its friend. -/
def Settled (world : World Priv Key StorageKey Box) : Event Priv → Prop
  | .encrypt friend _ _ _ | .decrypt friend _ _ _ => world.service.dirty.get? friend = none
  | .flush _ _ => True

instance (world : World Priv Key StorageKey Box) : (event : Event Priv) →
    Decidable ((sequential P cipher).enabled world event)
  | .encrypt friend fresh _ _ | .decrypt friend fresh _ _ =>
      inferInstanceAs (Decidable
        (∀ pair ∈ usedPairs world.history friend, pair.1 ≠ some (P.publicBytes fresh)))
  | .flush _ _ => inferInstanceAs (Decidable True)

instance (world : World Priv Key StorageKey Box) :
    (event : Event Priv) → Decidable (Settled world event)
  | .encrypt friend _ _ _ | .decrypt friend _ _ _ =>
      decidable_of_iff ((world.service.dirty.get? friend).isNone) Option.isNone_iff_eq_none
  | .flush _ _ => inferInstanceAs (Decidable True)

variable {P cipher} {world : World Priv Key StorageKey Box}

/-- The world after a call on this friend that returned. -/
def completed (world : World Priv Key StorageKey Box) (operation : Operation Priv Key) :
    World Priv Key StorageKey Box where
  service :=
    { world.service with
      dirty := world.service.dirty.set operation.friend operation.left }
  history := operation :: world.history

variable (P cipher world) in
theorem applyEncrypt_cases (friend : String) (fresh : Priv) (nonce plaintext : Bytes) :
    applyEncrypt P cipher world friend fresh nonce plaintext = world ∨
      ∃ start left header ciphertext, loadedState cipher world.service friend = .ok start ∧
        (P.encrypt fresh nonce plaintext).run start = (.ok (header, ciphertext), left) ∧
        applyEncrypt P cipher world friend fresh nonce plaintext =
          completed world ⟨friend, start, left, some (headerPub header, headerMsgNum header)⟩ := by
  have load := getRatchetState_run cipher world.service friend
  cases loaded : loadedState cipher world.service friend with
  | error raised =>
      rw [loaded] at load
      left
      simp only [applyEncrypt, loaded, encryptMessage, Call.run_bind_of_error load]
  | ok start =>
      rw [loaded] at load
      rcases ran : (P.encrypt fresh nonce plaintext).run start with ⟨outcome, after⟩
      cases outcome with
      | error raised =>
          left
          simp only [applyEncrypt, loaded, encryptMessage, Call.run_bind_of_ok load, ran]
          cases raised <;> rfl
      | ok packet =>
          obtain ⟨header, ciphertext⟩ := packet
          right
          refine ⟨start, after, header, ciphertext, rfl, ran, ?_⟩
          simp only [applyEncrypt, loaded, encryptMessage, Call.run_bind_of_ok load, markDirty,
            Call.run_modify_bind, Call.run_pure, ran, completed]

variable (P cipher world) in
theorem applyDecrypt_cases (friend : String) (fresh : Priv) (header ciphertext : Bytes) :
    applyDecrypt P cipher world friend fresh header ciphertext = world ∨
      ∃ start left plaintext, loadedState cipher world.service friend = .ok start ∧
        (P.decrypt fresh header ciphertext).run start = (.ok plaintext, left) ∧
        applyDecrypt P cipher world friend fresh header ciphertext =
          completed world ⟨friend, start, left, none⟩ := by
  have load := getRatchetState_run cipher world.service friend
  cases loaded : loadedState cipher world.service friend with
  | error raised =>
      rw [loaded] at load
      left
      simp only [applyDecrypt, loaded, decryptMessage, Call.run_bind_of_error load]
  | ok start =>
      rw [loaded] at load
      rcases ran : (P.decrypt fresh header ciphertext).run start with ⟨outcome, after⟩
      cases outcome with
      | error raised =>
          left
          simp only [applyDecrypt, loaded, decryptMessage, Call.run_bind_of_ok load, ran]
          rfl
      | ok plaintext =>
          right
          refine ⟨start, after, plaintext, rfl, ran, ?_⟩
          simp only [applyDecrypt, loaded, decryptMessage, Call.run_bind_of_ok load, markDirty,
            Call.run_modify_bind, Call.run_pure, ran, completed]

/-- Where the state that the last operation on a friend left is now: in the buffer, with
the state that operation started from still in the row; or in the row. -/
structure Recorded (cipher : StorageCipher Priv Key StorageKey Box)
    (world : World Priv Key StorageKey Box) : Prop where
  untouched : ∀ friend, lastOperation world.history friend = none →
    world.service.dirty.get? friend = none
  buffered : ∀ friend operation state, lastOperation world.history friend = some operation →
    world.service.dirty.get? friend = some state →
      state = operation.left ∧
        loadedState cipher world.service friend = .ok operation.start ∧
        operation.left.serialize ≠ operation.start.serialize
  settled : ∀ friend operation, lastOperation world.history friend = some operation →
    world.service.dirty.get? friend = none →
      loadedState cipher world.service friend = .ok operation.left.serialize.deserialize

theorem Recorded.completed (recorded : Recorded cipher world) {operation : Operation Priv Key}
    (loaded : loadedState cipher world.service operation.friend = .ok operation.start)
    (changed : operation.left.serialize ≠ operation.start.serialize) :
    Recorded cipher (completed world operation) := by
  have same : ∀ friend, loadedState cipher (RatchetService.completed world operation).service
      friend = loadedState cipher world.service friend :=
    fun friend => loadedState_congr cipher rfl rfl
  have last := lastOperation_cons operation world.history
  constructor
  · intro friend none_yet
    rw [RatchetService.completed, last] at none_yet
    split at none_yet
    · cases none_yet
    · rename_i apart
      have kept := recorded.untouched friend none_yet
      rw [← kept]
      exact Dict.get?_set_of_ne _ _ (Ne.symm apart)
  · intro friend found state newest stored
    rw [RatchetService.completed, last] at newest
    rw [same]
    simp only [RatchetService.completed, Dict.get?_set] at stored
    split at newest
    · rename_i own
      cases newest
      rw [if_pos own.symm] at stored
      cases stored
      rw [← own]
      exact ⟨rfl, loaded, changed⟩
    · rename_i apart
      rw [if_neg (Ne.symm apart)] at stored
      exact recorded.buffered friend found state newest stored
  · intro friend found newest absent
    rw [RatchetService.completed, last] at newest
    rw [same]
    simp only [RatchetService.completed, Dict.get?_set] at absent
    split at newest
    · rename_i own
      rw [if_pos own.symm] at absent
      cases absent
    · rename_i apart
      rw [if_neg (Ne.symm apart)] at absent
      exact recorded.settled friend found newest absent

theorem Recorded.flush (lawful : cipher.Lawful) (recorded : Recorded cipher world)
    (nonce : String → Bytes) (fails : String → Bool) :
    Recorded cipher
      { world with service := ((flushDirtyStates cipher nonce fails).run world.service).2 } := by
  have key := flushDirtyStates_storageKey cipher nonce fails world.service
  have dirty := flushDirtyStates_dirty cipher nonce fails world.service
  constructor
  · intro friend none_yet
    simp only [dirty, recorded.untouched friend none_yet, ite_self]
  · intro friend operation state newest stored
    simp only [dirty] at stored
    split at stored
    · cases stored
    · rename_i blocked
      rw [Bool.not_eq_true] at blocked
      obtain ⟨same, loaded, changed⟩ := recorded.buffered friend operation state newest stored
      refine ⟨same, ?_, changed⟩
      rw [← loaded]
      exact loadedState_congr cipher key (flushDirtyStates_rows_of_blocked cipher nonce fails
        world.service friend blocked (row_of_loadedState cipher loaded))
  · intro friend operation newest absent
    simp only [dirty] at absent
    cases stored : world.service.dirty.get? friend with
    | none =>
        rw [← recorded.settled friend operation newest stored]
        exact loadedState_congr cipher key
          (flushDirtyStates_rows_of_absent cipher nonce fails world.service friend stored)
    | some state =>
        rw [stored] at absent
        split at absent
        · rename_i goes
          obtain ⟨same, loaded, _⟩ := recorded.buffered friend operation state newest stored
          rw [← same]
          exact flushDirtyStates_loaded cipher nonce fails lawful world.service friend state
            stored goes (row_of_loadedState cipher loaded)
        · cases absent

theorem recorded_of_reachable (lawful : cipher.Lawful)
    {allowed : World Priv Key StorageKey Box → Event Priv → Prop}
    (reachable : (sequential P cipher).Reachable allowed world) : Recorded cipher world := by
  refine Machine.Reachable.invariant _ (Recorded cipher) ?_ ?_ reachable
  · intro state initial
    obtain ⟨dirty, history⟩ := initial
    constructor
    · intro friend _
      rw [dirty]
      rfl
    · intro friend operation _ newest
      rw [history] at newest
      cases newest
    · intro friend operation newest
      rw [history] at newest
      cases newest
  · intro state event _ recorded _ _
    cases event with
    | encrypt friend fresh nonce plaintext =>
        rcases applyEncrypt_cases P cipher state friend fresh nonce plaintext with
          same | ⟨start, left, header, ciphertext, loaded, ran, applied⟩
        · show Recorded cipher (applyEncrypt P cipher state friend fresh nonce plaintext)
          rw [same]
          exact recorded
        · show Recorded cipher (applyEncrypt P cipher state friend fresh nonce plaintext)
          rw [applied]
          exact recorded.completed loaded (P.encrypt_changes ran)
    | decrypt friend fresh header ciphertext =>
        rcases applyDecrypt_cases P cipher state friend fresh header ciphertext with
          same | ⟨start, left, plaintext, loaded, ran, applied⟩
        · show Recorded cipher (applyDecrypt P cipher state friend fresh header ciphertext)
          rw [same]
          exact recorded
        · show Recorded cipher (applyDecrypt P cipher state friend fresh header ciphertext)
          rw [applied]
          exact recorded.completed loaded (P.decrypt_changes ran)
    | flush nonce fails => exact recorded.flush lawful nonce fails

/-- The state that the next operation on a friend loads is the one left by the last
exactly when nothing is buffered for the friend and there is no queue to lose. -/
theorem Recorded.loaded_iff (recorded : Recorded cipher world) {friend : String}
    {operation : Operation Priv Key}
    (last : lastOperation world.history friend = some operation) :
    loadedState cipher world.service friend = .ok operation.left ↔
      world.service.dirty.get? friend = none ∧ operation.left.skippedKeyOrder = [] := by
  cases stored : world.service.dirty.get? friend with
  | none =>
      rw [recorded.settled friend operation last stored, Except.ok.injEq,
        deserialize_serialize_eq_iff]
      exact (true_and _).symm.to_iff.trans (and_congr_left fun _ => (eq_self_iff_true _).symm)
  | some state =>
      obtain ⟨_, loaded, changed⟩ := recorded.buffered friend operation state last stored
      rw [loaded, Except.ok.injEq]
      constructor
      · intro same
        exact absurd (congrArg RatchetState.serialize same.symm) changed
      · intro absent
        cases absent.1

/-- The pairs of a friend lie behind the sending chain of this state. -/
def Behind (P : Primitives Priv Dh Key) (pairs : List (Option PubBytes × Nat))
    (state : RatchetState Priv Key) : Prop :=
  ∀ pub number, (some pub, number) ∈ pairs → state.sendChainKey.isSome →
    state.dhPriv.map P.publicBytes = some pub → number < state.sendMsgNum

/-- An encryption from a state ahead of all pairs uses a new one, and stays ahead. -/
theorem Behind.encrypt {pairs : List (Option PubBytes × Nat)} {start left : RatchetState Priv Key}
    (behind : Behind P pairs start) {fresh : Priv}
    (new : ∀ pair ∈ pairs, pair.1 ≠ some (P.publicBytes fresh))
    {nonce plaintext header ciphertext : Bytes}
    (ran : (P.encrypt fresh nonce plaintext).run start = (.ok (header, ciphertext), left)) :
    (headerPub header, headerMsgNum header) ∉ pairs ∧
      Behind P ((headerPub header, headerMsgNum header) :: pairs) left := by
  obtain ⟨middle, onChain, origin⟩ := P.encrypt_ok ran
  obtain ⟨priv, ck, own, chain, packed, stepped⟩ := P.encryptOnChain_ok onChain
  have named := headerOf_packHeader packed
  rw [Primitives.headerPub_of_headerOf named, named.number]
  have old : ∀ number, (some (P.publicBytes priv), number) ∈ pairs →
      number < middle.sendMsgNum := by
    intro number member
    rcases origin with ⟨chained, same⟩ | ⟨_, generated, _⟩
    · rw [same] at own ⊢
      exact behind _ number member chained (by rw [own]; rfl)
    · rw [generated] at own
      cases own
      exact absurd rfl (new _ member)
  constructor
  · intro member
    exact absurd (old _ member) (Nat.lt_irrefl _)
  · intro pub number member _ current
    rw [stepped] at current ⊢
    simp only [own, Option.map_some, Option.some.injEq] at current
    rw [← current] at member
    show number < middle.sendMsgNum + 1
    rcases List.mem_cons.mp member with same | earlier
    · cases same
      omega
    · have before := old number earlier
      omega

theorem Behind.decrypt {pairs : List (Option PubBytes × Nat)} {start left : RatchetState Priv Key}
    (behind : Behind P pairs start) {fresh : Priv}
    (new : ∀ pair ∈ pairs, pair.1 ≠ some (P.publicBytes fresh))
    {header ciphertext plaintext : Bytes}
    (ran : (P.decrypt fresh header ciphertext).run start = (.ok plaintext, left)) :
    Behind P pairs left := by
  obtain ⟨long, _, turn⟩ := P.decrypt_ok ran
  intro pub number member chained current
  rcases turn with ⟨_, same, _⟩ | ⟨_, generated, _⟩
  · have own : left.dhPriv = start.dhPriv := congrArg Turn.dhPriv same
    have counter : left.sendMsgNum = start.sendMsgNum := congrArg Turn.sendMsgNum same
    have chain : left.sendChainKey = start.sendChainKey := congrArg Turn.sendChainKey same
    rw [own] at current
    rw [chain] at chained
    rw [counter]
    exact behind pub number member chained current
  · rw [generated] at current
    cases current
    exact absurd rfl (new _ member)

/-- Settled runs: no pair twice, and the last state of each friend ahead of its pairs. -/
structure NoReuse (P : Primitives Priv Dh Key) (history : List (Operation Priv Key)) : Prop where
  distinct : ∀ friend, (usedPairs history friend).Nodup
  behind : ∀ friend operation, lastOperation history friend = some operation →
    Behind P (usedPairs history friend) operation.left

theorem usedPairs_of_lastOperation_none {history : List (Operation Priv Key)} {friend : String}
    (untouched : lastOperation history friend = none) : usedPairs history friend = [] := by
  have absent : (history.filter fun operation => operation.friend = friend) = [] :=
    List.filter_eq_nil_iff.mpr (List.find?_eq_none.mp untouched)
  simp only [usedPairs, absent, List.filterMap_nil]

/-- What a settled call loads is ahead of all pairs of its friend. -/
theorem NoReuse.behind_loaded (reuse : NoReuse P world.history)
    (recorded : Recorded cipher world) {friend : String}
    (settled : world.service.dirty.get? friend = none) {start : RatchetState Priv Key}
    (loaded : loadedState cipher world.service friend = .ok start) :
    Behind P (usedPairs world.history friend) start := by
  cases last : lastOperation world.history friend with
  | none =>
      rw [usedPairs_of_lastOperation_none last]
      intro pub number member
      cases member
  | some operation =>
      rw [recorded.settled friend operation last settled] at loaded
      cases loaded
      exact reuse.behind friend operation last

theorem NoReuse.cons {history : List (Operation Priv Key)} (reuse : NoReuse P history)
    {operation : Operation Priv Key}
    (new : ∀ pair ∈ operation.pair, pair ∉ usedPairs history operation.friend)
    (behind : Behind P (operation.pair.toList ++ usedPairs history operation.friend)
      operation.left) : NoReuse P (operation :: history) := by
  constructor
  · intro friend
    rw [usedPairs_cons]
    split
    · rename_i own
      rw [← own]
      cases pair : operation.pair with
      | none => exact reuse.distinct operation.friend
      | some used => exact List.nodup_cons.mpr ⟨new used pair, reuse.distinct operation.friend⟩
    · exact reuse.distinct friend
  · intro friend newest last
    rw [lastOperation_cons] at last
    rw [usedPairs_cons]
    split at last
    · rename_i own
      cases last
      rw [if_pos own, ← own]
      exact behind
    · rename_i apart
      rw [if_neg apart]
      exact reuse.behind friend newest last

theorem noReuse_of_reachable (lawful : cipher.Lawful)
    (reachable : (sequential P cipher).Reachable Settled world) : NoReuse P world.history := by
  refine Machine.Reachable.invariant _ (fun world => NoReuse P world.history) ?_ ?_ reachable
  · intro state initial
    show NoReuse P state.history
    rw [initial.2]
    refine ⟨fun friend => List.nodup_nil, fun friend operation last => ?_⟩
    cases last
  · intro state event before reuse enabled settled
    have recorded := recorded_of_reachable lawful before
    cases event with
    | encrypt friend fresh nonce plaintext =>
        show NoReuse P (applyEncrypt P cipher state friend fresh nonce plaintext).history
        rcases applyEncrypt_cases P cipher state friend fresh nonce plaintext with
          same | ⟨start, left, header, ciphertext, loaded, ran, applied⟩
        · rw [same]
          exact reuse
        · obtain ⟨unused, ahead⟩ :=
            (reuse.behind_loaded recorded settled loaded).encrypt enabled ran
          rw [applied]
          refine reuse.cons ?_ ahead
          intro pair used
          cases used
          exact unused
    | decrypt friend fresh header ciphertext =>
        show NoReuse P (applyDecrypt P cipher state friend fresh header ciphertext).history
        rcases applyDecrypt_cases P cipher state friend fresh header ciphertext with
          same | ⟨start, left, plaintext, loaded, ran, applied⟩
        · rw [same]
          exact reuse
        · have ahead := (reuse.behind_loaded recorded settled loaded).decrypt enabled ran
          rw [applied]
          refine reuse.cons ?_ ahead
          intro pair used
          cases used
    | flush nonce fails => exact reuse

end Runs

/-- Every call that starts from the state its friend's last call left, and only such a
call, finds the buffer empty for the friend and that state without an eviction queue; and
in runs whose calls find the buffer empty no header is used twice for one friend. -/
theorem calls_start_where_last_left_iff {Priv Dh Key StorageKey Box : Type}
    (P : Primitives Priv Dh Key) (cipher : StorageCipher Priv Key StorageKey Box)
    (lawful : cipher.Lawful) (world : World Priv Key StorageKey Box) :
    ((sequential P cipher).Reachable (fun _ _ => True) world →
      ∀ friend operation, lastOperation world.history friend = some operation →
        (loadedState cipher world.service friend = .ok operation.left ↔
          world.service.dirty.get? friend = none ∧ operation.left.skippedKeyOrder = [])) ∧
    ((sequential P cipher).Reachable Settled world →
      ∀ friend, (usedPairs world.history friend).Nodup) := by
  constructor
  · intro reachable friend operation last
    exact (recorded_of_reachable lawful reachable).loaded_iff last
  · intro reachable
    exact (noReuse_of_reachable lawful reachable).distinct

/-- A cipher small enough to run: the box is the state, the key and the nonce. -/
def toyCipher : StorageCipher UInt8 Bytes Nat (Nat × Bytes × SerializedState UInt8 Bytes) where
  encrypt key nonce data := (key, nonce, data)
  decrypt key box := if box.1 = key then some box.2.2 else none

theorem toyCipher_lawful : toyCipher.Lawful where
  opens _ _ _ := if_pos rfl

/-- Alice's side of a new session with Bob, stored in his row. -/
def toyStart : World UInt8 Bytes Nat (Nat × Bytes × SerializedState UInt8 Bytes) where
  service :=
    { storageKey := some 5
      rows := Dict.empty.set "bob"
        (some (.json ((toyPrimitives.startConversation toySetup).state .alice).serialize))
      dirty := .empty }
  history := []

/-- Two messages, each flushed. -/
def toyFlushed : World UInt8 Bytes Nat (Nat × Bytes × SerializedState UInt8 Bytes) :=
  (sequential toyPrimitives toyCipher).run toyStart
    [fun _ => .encrypt "bob" 10 toyNonce [1],
     fun _ => .flush (fun _ => []) (fun _ => false),
     fun _ => .encrypt "bob" 11 toyNonce [2],
     fun _ => .flush (fun _ => []) (fun _ => false)]

theorem toyFlushed_calls :
    ∃ operation, lastOperation toyFlushed.history "bob" = some operation ∧
      loadedState toyCipher toyFlushed.service "bob" = .ok operation.left ∧
      (usedPairs toyFlushed.history "bob").Nodup := by
  have settled : (sequential toyPrimitives toyCipher).Reachable Settled toyFlushed :=
    .run (.start ⟨rfl, rfl⟩) (by decide +kernel)
  have any : (sequential toyPrimitives toyCipher).Reachable (fun _ _ => True) toyFlushed :=
    settled.weaken fun _ _ _ _ _ => trivial
  have queue : (lastOperation toyFlushed.history "bob").map
      (fun operation => operation.left.skippedKeyOrder) = some [] := by decide +kernel
  obtain ⟨operation, last, empty⟩ := Option.map_eq_some_iff.mp queue
  obtain ⟨starts, distinct⟩ :=
    calls_start_where_last_left_iff toyPrimitives toyCipher toyCipher_lawful toyFlushed
  refine ⟨operation, last, (starts any "bob" operation last).mpr ⟨?_, empty⟩, distinct settled "bob"⟩
  decide +kernel

/-- Two messages within one flush interval. -/
def toyUnflushed : World UInt8 Bytes Nat (Nat × Bytes × SerializedState UInt8 Bytes) :=
  (sequential toyPrimitives toyCipher).run toyStart
    [fun _ => .encrypt "bob" 10 toyNonce [1],
     fun _ => .encrypt "bob" 11 toyNonce [2]]

/-- The second message starts where the first did, and goes out under the same header. -/
theorem toyUnflushed_reuses :
    (sequential toyPrimitives toyCipher).Reachable (fun _ _ => True) toyUnflushed ∧
    toyUnflushed.history[0]?.map Operation.start ≠ toyUnflushed.history[1]?.map Operation.left ∧
    toyUnflushed.history[0]?.map Operation.start = toyUnflushed.history[1]?.map Operation.start ∧
    ¬ (usedPairs toyUnflushed.history "bob").Nodup :=
  ⟨.run (.start ⟨rfl, rfl⟩) (by decide +kernel), by decide +kernel, by decide +kernel,
    by decide +kernel⟩

end RatchetService

end UltimateEnigma
