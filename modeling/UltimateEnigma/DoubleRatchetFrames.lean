import UltimateEnigma.DoubleRatchetSteps

set_option autoImplicit false

namespace UltimateEnigma.DoubleRatchet

open Py

variable {Priv Dh Key : Type}

/-- The fields that a message on the current chain leaves alone. -/
structure Turn (Priv Key : Type) where
  dhPriv : Option Priv
  dhPubRemote : Option PubBytes
  rootKey : Option Key
  sendChainKey : Option Key
  sendMsgNum : Nat
  prevSendChainLen : Nat

def RatchetState.turn (state : RatchetState Priv Key) : Turn Priv Key :=
  ⟨state.dhPriv, state.dhPubRemote, state.rootKey, state.sendChainKey, state.sendMsgNum,
    state.prevSendChainLen⟩

theorem storeSkippedKey_keeps {τ : Type} (view : RatchetState Priv Key → τ)
    (key : PubBytes × Nat) (mk : Key)
    (same : ∀ state keys order,
      view { state with skippedKeys := keys, skippedKeyOrder := order } = view state) :
    (storeSkippedKey key mk : Call Raised (RatchetState Priv Key) Unit).Keeps view := by
  apply Call.keeps_bind Call.keeps_read
  intro state
  have store : (Call.modify fun state : RatchetState Priv Key =>
      { state with
        skippedKeys := state.skippedKeys.set key mk,
        skippedKeyOrder := state.skippedKeyOrder ++ [key] } :
      Call Raised (RatchetState Priv Key) Unit).Keeps view :=
    Call.keeps_modify fun state => same state _ _
  split
  · cases state.skippedKeyOrder with
    | nil => exact Call.keeps_raise _
    | cons oldest order =>
        exact Call.keeps_bind (Call.keeps_modify fun state => same state _ _) fun _ => store
  · exact store

namespace Primitives

variable (P : Primitives Priv Dh Key)

theorem stepRecvChain_keeps {τ : Type} (view : RatchetState Priv Key → τ)
    (same : ∀ state ck, view { state with recvChainKey := ck } = view state) :
    (P.stepRecvChain : Call Raised (RatchetState Priv Key) Key).Keeps view := by
  apply Call.keeps_bind Call.keeps_read
  intro state
  apply Call.keeps_bind (Call.keeps_require _ _)
  intro ck
  exact Call.keeps_bind (Call.keeps_modify fun state => same state _) fun _ => Call.keeps_pure _

theorem skipMessages_keeps_turn (pub : PubBytes) (count : Nat) :
    (P.skipMessages pub count).Keeps RatchetState.turn := by
  induction count with
  | zero => exact Call.keeps_pure ()
  | succ count ih =>
      apply Call.keeps_bind (P.stepRecvChain_keeps _ fun _ _ => rfl)
      intro mk
      apply Call.keeps_bind Call.keeps_read
      intro state
      apply Call.keeps_bind (storeSkippedKey_keeps _ _ _ fun _ _ _ => rfl)
      intro _
      exact Call.keeps_bind (Call.keeps_modify fun _ => rfl) fun _ => ih

theorem skipMessages_counter (pub : PubBytes) (count : Nat) {state after : RatchetState Priv Key}
    (success : (P.skipMessages pub count).run state = (.ok (), after)) :
    after.recvMsgNum = state.recvMsgNum + count := by
  induction count generalizing state with
  | zero =>
      cases success
      rfl
  | succ count ih =>
      rw [skipMessages] at success
      obtain ⟨mk, stepped, first, success⟩ := Call.ok_of_run_bind success
      rw [Call.run_read_bind] at success
      obtain ⟨_, stored, second, success⟩ := Call.ok_of_run_bind success
      rw [Call.run_modify_bind] at success
      have rest : after.recvMsgNum = stored.recvMsgNum + 1 + count := ih success
      have stepKeeps := P.stepRecvChain_keeps RatchetState.recvMsgNum (fun _ _ => rfl) state
      have storeKeeps := storeSkippedKey_keeps RatchetState.recvMsgNum
        (pub, stepped.recvMsgNum) mk (fun _ _ _ => rfl) stepped
      rw [first] at stepKeeps
      rw [second] at storeKeeps
      simp only [] at stepKeeps storeKeeps
      omega

theorem skipRecvChain_keeps_turn (pub : Option PubBytes) (bound : Nat) :
    (P.skipRecvChain pub bound).Keeps RatchetState.turn := by
  apply Call.keeps_bind Call.keeps_read
  intro state
  split
  · exact Call.keeps_ite (Call.keeps_raise _) (P.skipMessages_keeps_turn _ _)
  · exact Call.keeps_pure ()

theorem decryptWithKey_keeps {τ : Type} (view : RatchetState Priv Key → τ) (key : Key)
    (data header : Bytes) :
    (P.decryptWithKey key data header : Call Raised (RatchetState Priv Key) Bytes).Keeps view :=
  Call.keeps_ite (Call.keeps_raise _) (Call.keeps_require _ _)

theorem exchangeOn_keeps {τ : Type} (view : RatchetState Priv Key → τ) (dhPriv : Option Priv)
    (pub : PubBytes) : (P.exchangeOn dhPriv pub).Keeps view := by
  apply Call.keeps_bind (Call.keeps_require _ _)
  intro priv
  exact Call.keeps_require _ _

theorem exchangeOn_ok {dhPriv : Option Priv} {pub : PubBytes} {dhOut : Dh}
    {state after : RatchetState Priv Key}
    (success : (P.exchangeOn dhPriv pub).run state = (.ok dhOut, after)) : after = state := by
  obtain ⟨priv, middle, first, second⟩ := Call.ok_of_run_bind success
  rw [(Call.ok_of_run_require second).2, (Call.ok_of_run_require first).2]

theorem decryptOnChain_keeps_turn (pub : PubBytes) (msgNum : Nat) (header ciphertext : Bytes) :
    (P.decryptOnChain pub msgNum header ciphertext).Keeps RatchetState.turn := by
  apply Call.keeps_bind Call.keeps_read
  intro state
  cases state.skippedKeys.get? (pub, msgNum) with
  | some key =>
      refine Call.keeps_bind (Call.keeps_modify ?_) fun _ => ?_
      · exact fun _ => rfl
      · exact P.decryptWithKey_keeps _ _ _ _
  | none =>
      apply Call.keeps_ite (Call.keeps_raise _)
      refine Call.keeps_bind (P.skipMessages_keeps_turn _ _) fun _ => ?_
      refine Call.keeps_bind (P.stepRecvChain_keeps _ fun _ _ => rfl) fun mk => ?_
      refine Call.keeps_bind (Call.keeps_modify ?_) fun _ => ?_
      · exact fun _ => rfl
      · exact P.decryptWithKey_keeps _ _ _ _

/-- A message on the current chain uses up a skipped key or moves the counter. -/
theorem decryptOnChain_progress {pub : PubBytes} {msgNum : Nat}
    {header ciphertext plaintext : Bytes} {state after : RatchetState Priv Key}
    (success : (P.decryptOnChain pub msgNum header ciphertext).run state =
      (.ok plaintext, after)) :
    after.skippedKeys ≠ state.skippedKeys ∨ state.recvMsgNum < after.recvMsgNum := by
  rw [decryptOnChain, Call.run_read_bind] at success
  cases found : state.skippedKeys.get? (pub, msgNum) with
  | some key =>
      rw [found] at success
      simp only [Call.run_modify_bind] at success
      have kept := P.decryptWithKey_keeps RatchetState.skippedKeys key ciphertext header
        { state with skippedKeys := state.skippedKeys.erase (pub, msgNum) }
      rw [success] at kept
      have erased : after.skippedKeys = state.skippedKeys.erase (pub, msgNum) := kept
      refine Or.inl fun same => ?_
      rw [← same, erased, Dict.get?_erase_self] at found
      cases found
  | none =>
      rw [found] at success
      simp only at success
      split at success
      · cases success
      · obtain ⟨_, skipped, first, success⟩ := Call.ok_of_run_bind success
        obtain ⟨mk, stepped, second, success⟩ := Call.ok_of_run_bind success
        rw [Call.run_modify_bind] at success
        have counter := P.skipMessages_counter pub _ first
        have stepKeeps := P.stepRecvChain_keeps RatchetState.recvMsgNum (fun _ _ => rfl)
          skipped
        rw [second] at stepKeeps
        have kept := P.decryptWithKey_keeps RatchetState.recvMsgNum mk ciphertext header
          { stepped with recvMsgNum := stepped.recvMsgNum + 1 }
        rw [success] at kept
        simp only at stepKeeps kept
        exact Or.inr (by omega)

/-- What a turn of the ratchet leaves: the new keys on both sides, the counters at zero. -/
theorem dhRatchetStep_ok (fresh : Priv) (pub : PubBytes) {state after : RatchetState Priv Key}
    (success : (P.dhRatchetStep fresh pub).run state = (.ok (), after)) :
    after.dhPubRemote = some pub ∧ after.dhPriv = some fresh ∧ after.sendMsgNum = 0 ∧
      after.sendChainKey.isSome := by
  rw [dhRatchetStep, Call.run_read_bind] at success
  obtain ⟨dhOut, first, _, success⟩ := Call.ok_of_run_bind success
  obtain ⟨rk, second, _, success⟩ := Call.ok_of_run_bind success
  rw [Call.run_modify_bind] at success
  obtain ⟨dhOut2, third, agreed, success⟩ := Call.ok_of_run_bind success
  rw [P.exchangeOn_ok agreed] at success
  cases success
  exact ⟨rfl, rfl, rfl, rfl⟩

theorem startSendChain_ok (fresh : Priv) {state after : RatchetState Priv Key}
    (success : (P.startSendChain fresh).run state = (.ok (), after)) :
    after.dhPriv = some fresh ∧ after.sendMsgNum = 0 ∧ after.sendChainKey.isSome := by
  rw [startSendChain, Call.run_read_bind] at success
  obtain ⟨remote, first, _, success⟩ := Call.ok_of_run_bind success
  rw [Call.run_modify_bind] at success
  obtain ⟨dhOut, second, agreed, success⟩ := Call.ok_of_run_bind success
  rw [P.exchangeOn_ok agreed] at success
  obtain ⟨rk, third, found, success⟩ := Call.ok_of_run_bind success
  rw [(Call.ok_of_run_require found).2] at success
  cases success
  exact ⟨rfl, rfl, rfl⟩

/-- What an encryption never touches: the remote key and the receiving side. -/
theorem encrypt_keeps {τ : Type} (view : RatchetState Priv Key → τ) (fresh : Priv)
    (nonce plaintext : Bytes)
    (same : ∀ state dhPriv rootKey sendChainKey sendMsgNum prevSendChainLen,
      view { state with
        dhPriv := dhPriv, rootKey := rootKey, sendChainKey := sendChainKey,
        sendMsgNum := sendMsgNum, prevSendChainLen := prevSendChainLen } = view state) :
    (P.encrypt fresh nonce plaintext).Keeps view := by
  have onChain : (P.encryptOnChain nonce plaintext).Keeps view := by
    apply Call.keeps_bind Call.keeps_read
    intro state
    apply Call.keeps_bind (Call.keeps_require _ _)
    intro ck
    refine Call.keeps_bind (Call.keeps_modify fun _ => same _ _ _ _ _ _) fun _ => ?_
    apply Call.keeps_bind (Call.keeps_require _ _)
    intro priv
    split
    · exact Call.keeps_raise _
    · refine Call.keeps_bind (Call.keeps_modify fun _ => same _ _ _ _ _ _) fun _ => ?_
      exact Call.keeps_pure _
  have start : (P.startSendChain fresh).Keeps view := by
    apply Call.keeps_bind Call.keeps_read
    intro state
    refine Call.keeps_bind (Call.keeps_require _ _) fun remote => ?_
    refine Call.keeps_bind (Call.keeps_modify fun _ => same _ _ _ _ _ _) fun _ => ?_
    refine Call.keeps_bind (P.exchangeOn_keeps _ _ _) fun dhOut => ?_
    refine Call.keeps_bind (Call.keeps_require _ _) fun rk => ?_
    exact Call.keeps_modify fun _ => same _ _ _ _ _ _
  apply Call.keeps_bind Call.keeps_read
  intro state
  split
  · exact Call.keeps_bind start fun _ => onChain
  · exact onChain

/-- What an encryption that returned did: the chain it used, and one step on it. -/
theorem encryptOnChain_ok {nonce plaintext header ciphertext : Bytes}
    {state after : RatchetState Priv Key}
    (success : (P.encryptOnChain nonce plaintext).run state = (.ok (header, ciphertext), after)) :
    ∃ priv ck, state.dhPriv = some priv ∧ state.sendChainKey = some ck ∧
      packHeader state.sendMsgNum state.prevSendChainLen (P.publicBytes priv) = .ok header ∧
      after = { state with
        sendChainKey := some (P.hkdfCk ck).1, sendMsgNum := state.sendMsgNum + 1 } := by
  rw [encryptOnChain, Call.run_read_bind] at success
  cases chain : state.sendChainKey with
  | none =>
      rw [chain] at success
      cases success
  | some ck =>
      rw [chain, Call.run_require_bind, Call.run_modify_bind] at success
      cases own : state.dhPriv with
      | none =>
          rw [own] at success
          cases success
      | some priv =>
          rw [own, Call.run_require_bind] at success
          split at success
          · cases success
          · rename_i header' packed
            cases success
            exact ⟨priv, ck, rfl, rfl, packed, rfl⟩

/-- An encryption that returned used the chain at hand, or started one under a new key. -/
theorem encrypt_ok {fresh : Priv} {nonce plaintext header ciphertext : Bytes}
    {state after : RatchetState Priv Key}
    (success : (P.encrypt fresh nonce plaintext).run state = (.ok (header, ciphertext), after)) :
    ∃ middle, (P.encryptOnChain nonce plaintext).run middle = (.ok (header, ciphertext), after) ∧
      (state.sendChainKey.isSome ∧ middle = state ∨
        state.sendChainKey = none ∧ middle.dhPriv = some fresh ∧ middle.sendMsgNum = 0) := by
  cases chain : state.sendChainKey with
  | some ck =>
      rw [P.encrypt_run_ready fresh nonce plaintext ck state chain] at success
      exact ⟨state, success, Or.inl ⟨rfl, rfl⟩⟩
  | none =>
      simp only [encrypt, Call.run_read_bind, chain, Option.isNone_none, ↓reduceIte] at success
      obtain ⟨_, middle, started, success⟩ := Call.ok_of_run_bind success
      obtain ⟨own, counter, _⟩ := P.startSendChain_ok fresh started
      exact ⟨middle, success, Or.inr ⟨rfl, own, counter⟩⟩

/-- A decryption that returned left the sending side alone, or turned the ratchet onto
the key pair generated for it. -/
theorem decrypt_ok {fresh : Priv} {header ciphertext plaintext : Bytes}
    {state after : RatchetState Priv Key}
    (success : (P.decrypt fresh header ciphertext).run state = (.ok plaintext, after)) :
    ∃ long : 40 ≤ header.length, after.dhPubRemote = some (headerDhPub header long) ∧
      (state.dhPubRemote = some (headerDhPub header long) ∧ after.turn = state.turn ∧
          (P.decryptOnChain (headerDhPub header long) (headerMsgNum header) header
            ciphertext).run state = (.ok plaintext, after) ∨
        state.dhPubRemote ≠ some (headerDhPub header long) ∧ after.dhPriv = some fresh ∧
          after.sendMsgNum = 0) := by
  by_cases short : header.length < 40
  · rw [decrypt, dif_pos short] at success
    cases success
  have long : 40 ≤ header.length := Nat.le_of_not_lt short
  have packed : HeaderOf header (headerMsgNum header) (headerPrevChainLen header)
      (headerDhPub header long) := ⟨long, rfl, rfl, rfl⟩
  refine ⟨long, ?_⟩
  by_cases same : state.dhPubRemote = some (headerDhPub header long)
  · rw [P.decrypt_run_same fresh packed ciphertext state same] at success
    have kept := P.decryptOnChain_keeps_turn (headerDhPub header long) (headerMsgNum header)
      header ciphertext state
    rw [success] at kept
    have remote : after.dhPubRemote = state.dhPubRemote := congrArg Turn.dhPubRemote kept
    exact ⟨remote.trans same, Or.inl ⟨same, kept, success⟩⟩
  · rw [P.decrypt_run_new fresh packed ciphertext state same] at success
    obtain ⟨_, middle, _, success⟩ := Call.ok_of_run_bind success
    obtain ⟨_, turned, step, success⟩ := Call.ok_of_run_bind success
    obtain ⟨remote, own, counter, _⟩ := P.dhRatchetStep_ok fresh _ step
    have kept := P.decryptOnChain_keeps_turn (headerDhPub header long) (headerMsgNum header)
      header ciphertext turned
    rw [success] at kept
    have keptRemote : after.dhPubRemote = turned.dhPubRemote := congrArg Turn.dhPubRemote kept
    have keptOwn : after.dhPriv = turned.dhPriv := congrArg Turn.dhPriv kept
    have keptCounter : after.sendMsgNum = turned.sendMsgNum := congrArg Turn.sendMsgNum kept
    exact ⟨keptRemote.trans remote, Or.inr ⟨same, keptOwn.trans own, keptCounter.trans counter⟩⟩

end Primitives

end UltimateEnigma.DoubleRatchet
