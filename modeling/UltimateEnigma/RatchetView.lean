import UltimateEnigma.Ladder

set_option autoImplicit false

namespace UltimateEnigma.DoubleRatchet

open Py Ladder

variable {Priv Dh Key : Type}

namespace Primitives

variable (P : Primitives Priv Dh Key) (secret : Key) (ladder : Ladder Priv)

def pubAt (rung : Nat) : PubBytes := P.publicBytes (ladder.priv rung)

def rootAt (rung : Nat) : Key := (P.rung secret ladder.priv rung).1

def chainAt (rung : Nat) : Key := (P.rung secret ladder.priv rung).2

/-- Keys in the store open messages of the peer's chains, up to where the current one
has been stepped. -/
def Stored (remote : Nat) (state : RatchetState Priv Key) : Prop :=
  ∀ pub number mk, state.skippedKeys.get? (pub, number) = some mk →
    ∃ rung, 1 ≤ rung ∧ rung ≤ remote ∧ pub = P.pubAt ladder rung ∧
      mk = P.messageKey (P.chainAt secret ladder rung) number ∧
      (rung = remote → number < state.recvMsgNum)

/-- One side's state, as its level on the ladder determines it. -/
structure View (party : Party) (state : RatchetState Priv Key) : Prop where
  own : state.dhPriv = some (ladder.priv (ladder.level party))
  remote : state.dhPubRemote = some (P.pubAt ladder (remoteLevel (ladder.level party)))
  root : state.rootKey = some
    (P.rootAt secret ladder (max (ladder.level party) (remoteLevel (ladder.level party))))
  sending : state.sendChainKey = if ladder.level party = 0 then none else
    some (P.chainKey (P.chainAt secret ladder (ladder.level party)) state.sendMsgNum)
  receiving : state.recvChainKey = if remoteLevel (ladder.level party) = 0 then none else
    some (P.chainKey (P.chainAt secret ladder (remoteLevel (ladder.level party)))
      state.recvMsgNum)
  sent : state.sendMsgNum = ladder.count (ladder.level party)
  previous : state.prevSendChainLen = ladder.count (ladder.level party - 2)
  stored : P.Stored secret ladder (remoteLevel (ladder.level party)) state

variable {P secret ladder}

theorem pubAt_congr {other : Ladder Priv} {rung : Nat}
    (same : ladder.priv rung = other.priv rung) : P.pubAt ladder rung = P.pubAt other rung := by
  rw [pubAt, pubAt, same]

theorem rootAt_congr {other : Ladder Priv} {rung : Nat}
    (same : ∀ index ≤ rung, ladder.priv index = other.priv index) :
    P.rootAt secret ladder rung = P.rootAt secret other rung := by
  rw [rootAt, rootAt, P.rung_congr secret rung same]

theorem chainAt_congr {other : Ladder Priv} {rung : Nat}
    (same : ∀ index ≤ rung, ladder.priv index = other.priv index) :
    P.chainAt secret ladder rung = P.chainAt secret other rung := by
  rw [chainAt, chainAt, P.rung_congr secret rung same]

theorem Stored.congr {other : Ladder Priv} {remote : Nat} {state : RatchetState Priv Key}
    (stored : P.Stored secret ladder remote state)
    (same : ∀ index ≤ remote, ladder.priv index = other.priv index) :
    P.Stored secret other remote state := by
  intro pub number mk found
  obtain ⟨rung, positive, bounded, named, key, before⟩ := stored pub number mk found
  refine ⟨rung, positive, bounded, ?_, ?_, before⟩
  · rw [named, pubAt_congr (same rung bounded)]
  · rw [key, chainAt_congr (fun index inside => same index (by omega))]

/-- A view reads the ladder only up to the side's own rungs. -/
theorem View.congr {other : Ladder Priv} {party : Party} {state : RatchetState Priv Key}
    (view : P.View secret ladder party state)
    (same : ∀ index ≤ max (ladder.level party) (remoteLevel (ladder.level party)),
      ladder.priv index = other.priv index)
    (level : other.level party = ladder.level party)
    (count : other.count (ladder.level party) = ladder.count (ladder.level party))
    (previous : other.count (ladder.level party - 2) = ladder.count (ladder.level party - 2)) :
    P.View secret other party state := by
  have sameOwn : ∀ index ≤ ladder.level party, ladder.priv index = other.priv index :=
    fun index inside => same index (by omega)
  have sameRemote : ∀ index ≤ remoteLevel (ladder.level party),
      ladder.priv index = other.priv index := fun index inside => same index (by omega)
  constructor
  · rw [level, view.own, sameOwn _ (Nat.le_refl _)]
  · rw [level, view.remote, pubAt_congr (sameRemote _ (Nat.le_refl _))]
  · rw [level, view.root, rootAt_congr same]
  · rw [level, view.sending, chainAt_congr sameOwn]
  · rw [level, view.receiving, chainAt_congr sameRemote]
  · rw [level, view.sent, count]
  · rw [level, view.previous, previous]
  · rw [level]
    exact view.stored.congr sameRemote

theorem pubAt_climb {party : Party} (fresh : Priv) {rung : Nat}
    (below : rung < ladder.level party + 2) :
    P.pubAt (ladder.climb party fresh) rung = P.pubAt ladder rung :=
  (pubAt_congr (climb_priv_of_lt below)).symm

variable (secret) in
theorem rung_step {below : Nat} {dhOut : Dh}
    (agreed : P.exchange (ladder.priv (below + 1)) (P.pubAt ladder below) = some dhOut) :
    P.hkdfRk (P.rootAt secret ladder below) dhOut =
      (P.rootAt secret ladder (below + 1), P.chainAt secret ladder (below + 1)) := by
  rw [rootAt, rootAt, chainAt, P.rung_succ secret ladder.priv below agreed]

/-- A first sending chain goes two rungs up from the foot of the ladder. -/
theorem View.startSendChain {party : Party} {state : RatchetState Priv Key} (lawful : P.Lawful)
    (view : P.View secret ladder party state) (foot : ladder.level party = 0)
    (unsent : ladder.count 0 = 0 ∧ ladder.count 2 = 0) (fresh : Priv) :
    ∃ after, (P.startSendChain fresh).run state = (.ok (), after) ∧
      P.View secret (ladder.climb party fresh) party after ∧
      after.skippedKeys = state.skippedKeys ∧ after.recvMsgNum = state.recvMsgNum ∧
      after.dhPriv = some fresh := by
  have remoteOne : remoteLevel (ladder.level party) = 1 := by rw [foot]; rfl
  have maximum : max 0 1 = 1 := rfl
  have remote := view.remote
  have root := view.root
  have receiving := view.receiving
  have stored := view.stored
  have sent := view.sent
  rw [remoteOne] at remote root receiving stored
  rw [foot] at root sent
  have top : (ladder.climb party fresh).priv (ladder.level party + 2) = fresh :=
    climb_priv_top party fresh
  rw [foot] at top
  have below : ∀ index ≤ 1, ladder.priv index = (ladder.climb party fresh).priv index :=
    fun index inside => climb_priv_of_lt (by omega)
  obtain ⟨dhOut, agreed, _⟩ := lawful.exchange_some fresh (ladder.priv 1)
  have derived : P.hkdfRk (P.rootAt secret ladder 1) dhOut =
      (P.rootAt secret (ladder.climb party fresh) 2,
        P.chainAt secret (ladder.climb party fresh) 2) := by
    rw [rootAt_congr below]
    apply rung_step
    rw [top, ← pubAt_congr (below 1 (Nat.le_refl _))]
    exact agreed
  have started := P.startSendChain_run fresh (P.pubAt ladder 1) (P.rootAt secret ladder 1) dhOut
    state remote root agreed
  rw [derived] at started
  refine ⟨_, started, ?_, rfl, rfl, rfl⟩
  have level : (ladder.climb party fresh).level party = 2 := by rw [climb_level, foot]
  have remoteTwo : remoteLevel 2 = 1 := rfl
  constructor
  · rw [level, top]
  · rw [level, remoteTwo, remote, pubAt_congr (below 1 (Nat.le_refl _))]
  · rw [level]
    rfl
  · rw [level]
    rfl
  · rw [level, remoteTwo, ← chainAt_congr below]
    exact receiving
  · rw [level, climb_count]
    exact unsent.2.symm
  · rw [level, climb_count]
    exact sent
  · rw [level]
    exact stored.congr below

/-- The next message of a chain, and the header that names its place on the ladder. -/
theorem View.encryptOnChain {party : Party} {state : RatchetState Priv Key}
    (view : P.View secret ladder party state) (climbed : ladder.level party ≠ 0)
    (fits : CountersFit state) (position : Nat) (nonce plaintext : Bytes) :
    ∃ header after,
      (P.encryptOnChain nonce plaintext).run state =
        (.ok (header, nonce ++ P.aeadEncrypt
          (P.messageKey (P.chainAt secret ladder (ladder.level party)) state.sendMsgNum)
            nonce plaintext header), after) ∧
      HeaderOf header state.sendMsgNum state.prevSendChainLen
        (P.pubAt ladder (ladder.level party)) ∧
      P.View secret (ladder.send party position) party after ∧
      after.skippedKeys = state.skippedKeys ∧ after.recvMsgNum = state.recvMsgNum ∧
      after.dhPriv = state.dhPriv := by
  have sending := view.sending
  rw [if_neg climbed] at sending
  have packed := packHeader_of_fits (P.pubAt ladder (ladder.level party)) fits.1 fits.2.2
  refine ⟨_, _, P.encryptOnChain_run nonce plaintext _ _ _ state view.own sending packed,
    headerOf_packHeader packed, ?_, rfl, rfl, rfl⟩
  constructor
  · exact view.own
  · exact view.remote
  · exact view.root
  · rw [send_level, if_neg climbed]
    rfl
  · exact view.receiving
  · rw [send_level, send_count_self, ← view.sent]
  · rw [send_level, send_count_of_ne (by omega)]
    exact view.previous
  · exact view.stored

/-- Every message number below the counter, but those already used, has its key. -/
def Kept (pub : PubBytes) (wanted : Nat → Prop) (state : RatchetState Priv Key) : Prop :=
  ∀ number, wanted number → number < state.recvMsgNum →
    (state.skippedKeys.get? (pub, number)).isSome

theorem View.skipMessages {party : Party} {state : RatchetState Priv Key}
    (view : P.View secret ladder party state)
    (chained : remoteLevel (ladder.level party) ≠ 0) (count : Nat)
    (room : state.skippedKeys.size + count ≤ maxSkippedKeys) :
    ∃ after,
      (P.skipMessages (P.pubAt ladder (remoteLevel (ladder.level party))) count).run state =
        (.ok (), after) ∧
      P.View secret ladder party after ∧ after.recvMsgNum = state.recvMsgNum + count ∧
      after.skippedKeys.size ≤ state.skippedKeys.size + count ∧
      ∀ wanted, Kept (P.pubAt ladder (remoteLevel (ladder.level party))) wanted state →
        Kept (P.pubAt ladder (remoteLevel (ladder.level party))) wanted after := by
  have receiving := view.receiving
  rw [if_neg chained] at receiving
  have grown := Dict.size_update_le state.skippedKeys
    (P.skippedRange (P.pubAt ladder (remoteLevel (ladder.level party)))
      (P.chainAt secret ladder (remoteLevel (ladder.level party))) state.recvMsgNum count)
  rw [skippedRange_length] at grown
  refine ⟨_, P.skipMessages_run _ count _ state receiving room, ?_, rfl, grown, ?_⟩
  · constructor
    · exact view.own
    · exact view.remote
    · exact view.root
    · exact view.sending
    · rw [if_neg chained]
    · exact view.sent
    · exact view.previous
    · intro pub number mk found
      simp only [get?_skippedRange] at found
      split at found
      · rename_i inside
        cases found
        exact ⟨remoteLevel (ladder.level party), by omega, Nat.le_refl _, inside.1, rfl,
          fun _ => inside.2.2⟩
      · obtain ⟨rung, positive, bounded, named, key, before⟩ := view.stored pub number mk found
        refine ⟨rung, positive, bounded, named, key, fun current => ?_⟩
        have earlier := before current
        show number < state.recvMsgNum + count
        omega
  · intro wanted kept number needed below
    have below : number < state.recvMsgNum + count := below
    simp only [get?_skippedRange]
    split
    · trivial
    · rename_i outside
      apply kept number needed
      by_contra later
      exact outside ⟨trivial, by omega, below⟩

theorem View.closeChain {party : Party} {state : RatchetState Priv Key}
    (view : P.View secret ladder party state) (bound : Nat)
    (near : state.recvChainKey.isNone ∨ bound - state.recvMsgNum ≤ maxSkipDistance)
    (room : state.recvChainKey.isNone ∨
      state.skippedKeys.size + (bound - state.recvMsgNum) ≤ maxSkippedKeys) :
    ∃ after, (P.skipRecvChain state.dhPubRemote bound).run state = (.ok (), after) ∧
      P.View secret ladder party after ∧
      after.skippedKeys.size ≤ state.skippedKeys.size +
        (if state.recvChainKey.isNone then 0 else bound - state.recvMsgNum) := by
  have receiving := view.receiving
  by_cases foot : remoteLevel (ladder.level party) = 0
  · rw [if_pos foot] at receiving
    exact ⟨state, P.skipRecvChain_run_idle _ bound state receiving, view, Nat.le_add_right _ _⟩
  · rw [if_neg foot] at receiving
    have chained : state.recvChainKey.isNone = false := by rw [receiving]; rfl
    simp only [chained, Bool.false_eq_true, false_or, ↓reduceIte] at near room ⊢
    obtain ⟨after, skipped, seen, _, size, _⟩ :=
      view.skipMessages foot (bound - state.recvMsgNum) room
    refine ⟨after, ?_, seen, size⟩
    rw [view.remote, P.skipRecvChain_run _ bound _ state receiving near, skipped]

/-- The receiver turns its ratchet on the peer's new key and climbs two rungs. -/
theorem View.dhRatchetStep {party : Party} {state : RatchetState Priv Key} (lawful : P.Lawful)
    (view : P.View secret ladder party state) (climbed : ladder.level party ≠ 0)
    (unsent : ladder.count (ladder.level party + 2) = 0) (fresh : Priv) :
    ∃ after,
      (P.dhRatchetStep fresh (P.pubAt ladder (ladder.level party + 1))).run state =
        (.ok (), after) ∧
      P.View secret (ladder.climb party fresh) party after ∧
      after.skippedKeys = state.skippedKeys ∧ after.recvMsgNum = 0 ∧
      after.dhPriv = some fresh := by
  have below : ∀ index ≤ ladder.level party + 1,
      ladder.priv index = (ladder.climb party fresh).priv index :=
    fun index inside => climb_priv_of_lt (by omega)
  have remoteBelow : remoteLevel (ladder.level party) = ladder.level party - 1 := by
    rw [remoteLevel, if_neg climbed]
  have remoteNext : remoteLevel (ladder.level party + 2) = ladder.level party + 1 := rfl
  have root := view.root
  rw [show max (ladder.level party) (remoteLevel (ladder.level party)) = ladder.level party by
    rw [remoteBelow]; omega] at root
  obtain ⟨dhOut, sender, receiver⟩ := lawful.exchange_some (ladder.priv (ladder.level party + 1))
    (ladder.priv (ladder.level party))
  obtain ⟨dhOut2, second, _⟩ := lawful.exchange_some fresh (ladder.priv (ladder.level party + 1))
  have derived := rung_step secret sender
  have derived2 : P.hkdfRk (P.rootAt secret ladder (ladder.level party + 1)) dhOut2 =
      (P.rootAt secret (ladder.climb party fresh) (ladder.level party + 2),
        P.chainAt secret (ladder.climb party fresh) (ladder.level party + 2)) := by
    rw [rootAt_congr below]
    apply rung_step
    rw [climb_priv_top, ← pubAt_congr (below _ (Nat.le_refl _))]
    exact second
  have turned := P.dhRatchetStep_run fresh _ (P.pubAt ladder (ladder.level party + 1)) _ dhOut
    dhOut2 state view.own root receiver second
  rw [derived, derived2] at turned
  refine ⟨_, turned, ?_, rfl, rfl, rfl⟩
  constructor
  · rw [climb_level, climb_priv_top]
  · rw [climb_level, remoteNext, ← pubAt_congr (below _ (Nat.le_refl _))]
  · rw [climb_level, remoteNext, Nat.max_eq_left (by omega)]
  · rw [climb_level, if_neg (by omega)]
    rfl
  · rw [climb_level, remoteNext, if_neg (by omega), ← chainAt_congr below]
    rfl
  · rw [climb_level, climb_count]
    exact unsent.symm
  · rw [climb_level, climb_count]
    exact view.sent
  · rw [climb_level, remoteNext]
    intro pub number mk found
    obtain ⟨rung, positive, bounded, named, key, _⟩ := view.stored pub number mk found
    refine ⟨rung, positive, by omega, ?_, ?_, fun current => by omega⟩
    · rw [named, pubAt_congr (below rung (by omega))]
    · rw [key, chainAt_congr (fun index inside => below index (by omega))]

/-- The store speaks about the current chain only below the counter. -/
theorem View.stored_current {party : Party} {state : RatchetState Priv Key}
    (view : P.View secret ladder party state)
    (apart : ∀ rung, 1 ≤ rung → rung < remoteLevel (ladder.level party) →
      P.pubAt ladder rung ≠ P.pubAt ladder (remoteLevel (ladder.level party)))
    {number : Nat} {mk : Key}
    (found : state.skippedKeys.get?
      (P.pubAt ladder (remoteLevel (ladder.level party)), number) = some mk) :
    mk = P.messageKey (P.chainAt secret ladder (remoteLevel (ladder.level party))) number ∧
      number < state.recvMsgNum := by
  obtain ⟨rung, positive, bounded, named, key, before⟩ := view.stored _ number mk found
  have current : rung = remoteLevel (ladder.level party) := by
    by_contra older
    exact apart rung positive (by omega) named.symm
  rw [current] at key
  exact ⟨key, before current⟩

/-- Forgetting one key of the store. -/
theorem View.forget {party : Party} {state : RatchetState Priv Key}
    (view : P.View secret ladder party state) (key : PubBytes × Nat) :
    P.View secret ladder party { state with skippedKeys := state.skippedKeys.erase key } := by
  refine ⟨view.own, view.remote, view.root, view.sending, view.receiving, view.sent,
    view.previous, ?_⟩
  intro pub number mk found
  simp only [Dict.get?_erase] at found
  split at found
  · cases found
  · exact view.stored pub number mk found

/-- One more message key taken from the receiving chain. -/
theorem View.stepRecvChain {party : Party} {state : RatchetState Priv Key}
    (view : P.View secret ladder party state)
    (chained : remoteLevel (ladder.level party) ≠ 0) :
    P.stepRecvChain.run state =
        (.ok (P.messageKey (P.chainAt secret ladder (remoteLevel (ladder.level party)))
          state.recvMsgNum),
          { state with recvChainKey := some (P.chainKey
              (P.chainAt secret ladder (remoteLevel (ladder.level party)))
              (state.recvMsgNum + 1)) }) ∧
      P.View secret ladder party
        { state with
          recvChainKey := some (P.chainKey
            (P.chainAt secret ladder (remoteLevel (ladder.level party))) (state.recvMsgNum + 1))
          recvMsgNum := state.recvMsgNum + 1 } := by
  have receiving := view.receiving
  rw [if_neg chained] at receiving
  have stepped := P.stepRecvChain_run state _ receiving
  rw [P.chainKey_succ] at stepped
  refine ⟨stepped, view.own, view.remote, view.root, view.sending, ?_, view.sent,
    view.previous, ?_⟩
  · rw [if_neg chained]
  · intro pub number mk found
    obtain ⟨rung, positive, bounded, named, key, before⟩ := view.stored pub number mk found
    exact ⟨rung, positive, bounded, named, key, fun current => Nat.lt_succ_of_lt (before current)⟩

/-- A message of the current chain opens, and the keys of the others stay within reach. -/
theorem View.decryptOnChain {party : Party} {state : RatchetState Priv Key}
    (view : P.View secret ladder party state)
    (chained : remoteLevel (ladder.level party) ≠ 0)
    (apart : ∀ rung, 1 ≤ rung → rung < remoteLevel (ladder.level party) →
      P.pubAt ladder rung ≠ P.pubAt ladder (remoteLevel (ladder.level party)))
    {number : Nat} {header ciphertext plaintext : Bytes}
    (long : xchacha20NonceSize ≤ ciphertext.length)
    (opens : P.aeadDecrypt
      (P.messageKey (P.chainAt secret ladder (remoteLevel (ladder.level party))) number)
      (ciphertext.take xchacha20NonceSize) (ciphertext.drop xchacha20NonceSize) header =
        some plaintext)
    {wanted : Nat → Prop}
    (kept : Kept (P.pubAt ladder (remoteLevel (ladder.level party))) wanted state)
    (needed : wanted number) (near : number - state.recvMsgNum ≤ maxSkipDistance)
    (room : state.recvMsgNum ≤ number →
      state.skippedKeys.size + (number - state.recvMsgNum) ≤ maxSkippedKeys) :
    ∃ after,
      (P.decryptOnChain (P.pubAt ladder (remoteLevel (ladder.level party))) number header
        ciphertext).run state = (.ok plaintext, after) ∧
      P.View secret ladder party after ∧ after.dhPriv = state.dhPriv ∧
      after.recvMsgNum ≤ max state.recvMsgNum (number + 1) ∧
      Kept (P.pubAt ladder (remoteLevel (ladder.level party)))
        (fun other => wanted other ∧ other ≠ number) after := by
  by_cases reached : number < state.recvMsgNum
  · obtain ⟨mk, found⟩ := Option.isSome_iff_exists.mp (kept number needed reached)
    obtain ⟨key, _⟩ := view.stored_current apart found
    refine ⟨_, ?_, view.forget (P.pubAt ladder (remoteLevel (ladder.level party)), number), rfl,
      Nat.le_max_left _ _, ?_⟩
    · rw [key] at found
      simp only [Primitives.decryptOnChain, Call.run_read_bind, found, Call.run_modify_bind]
      exact P.decryptWithKey_run long opens _
    · intro other other_needed below
      have differs : (P.pubAt ladder (remoteLevel (ladder.level party)), other) ≠
          (P.pubAt ladder (remoteLevel (ladder.level party)), number) := by
        intro same
        exact other_needed.2 (Prod.mk.inj same).2
      simp only [Dict.get?_erase_of_ne _ differs]
      exact kept other other_needed.1 below
  · have missing : state.skippedKeys.get?
        (P.pubAt ladder (remoteLevel (ladder.level party)), number) = none := by
      cases found : state.skippedKeys.get?
          (P.pubAt ladder (remoteLevel (ladder.level party)), number) with
      | none => rfl
      | some mk => exact absurd (view.stored_current apart found).2 reached
    have close : ¬ maxSkipDistance < number - state.recvMsgNum := by omega
    obtain ⟨middle, skipped, seen, counter, _, keeps⟩ :=
      view.skipMessages chained (number - state.recvMsgNum) (room (Nat.le_of_not_lt reached))
    have arrived : middle.recvMsgNum = number := by omega
    obtain ⟨stepped, after_seen⟩ := seen.stepRecvChain chained
    refine ⟨_, ?_, after_seen, ?_, ?_, ?_⟩
    · simp only [Primitives.decryptOnChain, Call.run_read_bind, missing, close, ↓reduceIte]
      rw [Call.run_bind_of_ok skipped, Call.run_bind_of_ok stepped, Call.run_modify_bind,
        arrived]
      exact P.decryptWithKey_run long opens _
    · show middle.dhPriv = state.dhPriv
      rw [seen.own, view.own]
    · show middle.recvMsgNum + 1 ≤ max state.recvMsgNum (number + 1)
      omega
    · intro other other_needed below
      have below : other < middle.recvMsgNum + 1 := below
      have differs := other_needed.2
      exact keeps wanted kept other other_needed.1 (by omega)

end Primitives

end UltimateEnigma.DoubleRatchet
