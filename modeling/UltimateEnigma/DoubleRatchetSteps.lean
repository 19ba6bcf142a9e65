import UltimateEnigma.DoubleRatchet
import Mathlib.Logic.Function.Iterate

set_option autoImplicit false

namespace UltimateEnigma.DoubleRatchet

open Py

/-- What a packed header says. -/
structure HeaderOf (header : Bytes) (msgNum prevChainLen : Nat) (dhPub : PubBytes) : Prop where
  long : 40 ≤ header.length
  number : headerMsgNum header = msgNum
  previous : headerPrevChainLen header = prevChainLen
  pub : headerDhPub header long = dhPub

theorem packHeader_of_fits {msgNum prevChainLen : Nat} (dhPub : PubBytes)
    (number : msgNum < 2 ^ 32) (previous : prevChainLen < 2 ^ 32) :
    packHeader msgNum prevChainLen dhPub =
      .ok (packBE 4 msgNum ++ packBE 4 prevChainLen ++ dhPub.toList) := by
  simp only [packHeader, number, previous, and_self, ↓reduceIte]

theorem headerOf_packHeader {msgNum prevChainLen : Nat} {dhPub : PubBytes} {header : Bytes}
    (success : packHeader msgNum prevChainLen dhPub = .ok header) :
    HeaderOf header msgNum prevChainLen dhPub := by
  unfold packHeader at success
  split at success
  · rename_i fits
    cases success
    have size : dhPub.toList.length = 32 := Vector.length_toList
    refine ⟨by simp [size], ?_, ?_, ?_⟩
    · simp only [headerMsgNum, List.append_assoc, List.take_left' (packBE_length 4 msgNum)]
      exact unpackBE_packBE 4 msgNum (by omega)
    · simp only [headerPrevChainLen, List.append_assoc, List.drop_left' (packBE_length 4 msgNum),
        List.take_left' (packBE_length 4 prevChainLen)]
      exact unpackBE_packBE 4 prevChainLen (by omega)
    · apply Vector.toArray_inj.mp
      apply Array.toList_inj.mp
      have front : (packBE 4 msgNum ++ packBE 4 prevChainLen).length = 8 := by
        simp only [List.length_append, packBE_length]
      simp only [headerDhPub, List.drop_left' front]
      rw [List.take_of_length_le (Nat.le_of_eq size)]
      rfl
  · cases success

theorem storeSkippedKey_run {Priv Key : Type} (key : PubBytes × Nat) (mk : Key)
    (state : RatchetState Priv Key) (room : state.skippedKeys.size < maxSkippedKeys) :
    (storeSkippedKey key mk).run state =
      (.ok (), { state with
        skippedKeys := state.skippedKeys.set key mk,
        skippedKeyOrder := state.skippedKeyOrder ++ [key] }) := by
  have below : ¬ maxSkippedKeys ≤ state.skippedKeys.size := by omega
  simp only [storeSkippedKey, Call.run_read_bind, below, ↓reduceIte, Call.run_modify]

namespace Primitives

variable {Priv Dh Key : Type} (P : Primitives Priv Dh Key)

/-- The chain key after `count` steps. -/
def chainKey (ck : Key) (count : Nat) : Key := (fun key => (P.hkdfCk key).1)^[count] ck

/-- The key of message `number` on the chain that starts at `ck`. -/
def messageKey (ck : Key) (number : Nat) : Key := (P.hkdfCk (P.chainKey ck number)).2

@[simp] theorem chainKey_zero (ck : Key) : P.chainKey ck 0 = ck := rfl

theorem chainKey_succ (ck : Key) (count : Nat) :
    (P.hkdfCk (P.chainKey ck count)).1 = P.chainKey ck (count + 1) :=
  (Function.iterate_succ_apply' (fun key => (P.hkdfCk key).1) count ck).symm

/-- The entries that skipping `count` messages from `start` on puts in the store. -/
def skippedRange (pub : PubBytes) (ck : Key) (start count : Nat) :
    List ((PubBytes × Nat) × Key) :=
  (List.range' start count).map fun number => ((pub, number), P.messageKey ck number)

theorem skippedRange_succ (pub : PubBytes) (ck : Key) (start count : Nat) :
    P.skippedRange pub ck start (count + 1) =
      ((pub, start), P.messageKey ck start) :: P.skippedRange pub ck (start + 1) count := by
  simp only [skippedRange, List.range'_succ, List.map_cons]

@[simp] theorem skippedRange_length (pub : PubBytes) (ck : Key) (start count : Nat) :
    (P.skippedRange pub ck start count).length = count := by
  simp only [skippedRange, List.length_map, List.length_range']

theorem get?_skippedRange (dict : Dict (PubBytes × Nat) Key) (pub : PubBytes) (ck : Key)
    (start count : Nat) (key : PubBytes × Nat) :
    (dict.update (P.skippedRange pub ck start count)).get? key =
      if key.1 = pub ∧ start ≤ key.2 ∧ key.2 < start + count then
        some (P.messageKey ck key.2)
      else dict.get? key := by
  have keys : (P.skippedRange pub ck start count).map Prod.fst =
      (List.range' start count).map fun number => (pub, number) := by
    simp only [skippedRange, List.map_map, Function.comp_def]
  obtain ⟨other, number⟩ := key
  split
  · rename_i inside
    obtain ⟨same, lower, upper⟩ := inside
    have same : other = pub := same
    subst same
    apply Dict.get?_update_of_mem
    · rw [keys]
      exact (List.nodup_range').map fun left right equal => congrArg Prod.snd equal
    · simp only [skippedRange, List.mem_map, List.mem_range'_1]
      exact ⟨number, ⟨lower, upper⟩, rfl⟩
  · rename_i outside
    apply Dict.get?_update_of_not_mem
    rw [keys]
    intro member
    obtain ⟨found, inside, same⟩ := List.mem_map.mp member
    cases same
    exact outside ⟨rfl, List.mem_range'_1.mp inside⟩

theorem stepRecvChain_run (state : RatchetState Priv Key) (ck : Key)
    (chain : state.recvChainKey = some ck) :
    P.stepRecvChain.run state =
      (.ok (P.hkdfCk ck).2, { state with recvChainKey := some (P.hkdfCk ck).1 }) := by
  simp only [stepRecvChain, Call.run_read_bind, chain, Call.run_require_bind,
    Call.run_modify_bind, Call.run_pure]

/-- With room for every key, skipping stores exactly the next `count` message keys. -/
theorem skipMessages_run (pub : PubBytes) (count : Nat) (ck : Key)
    (state : RatchetState Priv Key)
    (chain : state.recvChainKey = some (P.chainKey ck state.recvMsgNum))
    (room : state.skippedKeys.size + count ≤ maxSkippedKeys) :
    (P.skipMessages pub count).run state =
      (.ok (), { state with
        recvChainKey := some (P.chainKey ck (state.recvMsgNum + count)),
        recvMsgNum := state.recvMsgNum + count,
        skippedKeys :=
          state.skippedKeys.update (P.skippedRange pub ck state.recvMsgNum count),
        skippedKeyOrder := state.skippedKeyOrder ++
          (P.skippedRange pub ck state.recvMsgNum count).map Prod.fst }) := by
  induction count generalizing state with
  | zero =>
      simp only [skipMessages, Call.run_pure, Nat.add_zero, ← chain, skippedRange,
        List.range'_zero, List.map_nil, Dict.update_nil, List.append_nil]
  | succ count ih =>
      have stored := storeSkippedKey_run (pub, state.recvMsgNum)
        (P.messageKey ck state.recvMsgNum)
        { state with recvChainKey := some (P.chainKey ck (state.recvMsgNum + 1)) }
        (show state.skippedKeys.size < maxSkippedKeys by omega)
      have grown := Dict.size_set_le state.skippedKeys (pub, state.recvMsgNum)
        (P.messageKey ck state.recvMsgNum)
      have rest := ih
        { state with
          recvChainKey := some (P.chainKey ck (state.recvMsgNum + 1)),
          skippedKeys := state.skippedKeys.set (pub, state.recvMsgNum)
            (P.messageKey ck state.recvMsgNum),
          skippedKeyOrder := state.skippedKeyOrder ++ [(pub, state.recvMsgNum)],
          recvMsgNum := state.recvMsgNum + 1 } rfl
        (show (state.skippedKeys.set (pub, state.recvMsgNum) _).size + count ≤
          maxSkippedKeys by omega)
      rw [skipMessages, Call.run_bind_of_ok (P.stepRecvChain_run state _ chain),
        P.chainKey_succ, Call.run_read_bind]
      refine (Call.run_bind_of_ok stored _).trans ?_
      rw [Call.run_modify_bind]
      refine rest.trans ?_
      simp only [skippedRange_succ, Dict.update_cons, List.map_cons, List.append_assoc,
        List.singleton_append, Nat.add_assoc, Nat.add_comm 1 count]

theorem skipRecvChain_run (pub : PubBytes) (bound : Nat) (ck : Key)
    (state : RatchetState Priv Key)
    (chain : state.recvChainKey = some (P.chainKey ck state.recvMsgNum))
    (near : bound - state.recvMsgNum ≤ maxSkipDistance) :
    (P.skipRecvChain (some pub) bound).run state =
      (P.skipMessages pub (bound - state.recvMsgNum)).run state := by
  have close : ¬ maxSkipDistance < bound - state.recvMsgNum := by omega
  simp only [skipRecvChain, Call.run_read_bind, chain, close, ↓reduceIte]

theorem skipRecvChain_run_idle (pub : Option PubBytes) (bound : Nat)
    (state : RatchetState Priv Key) (chain : state.recvChainKey = none) :
    (P.skipRecvChain pub bound).run state = (.ok (), state) := by
  simp only [skipRecvChain, Call.run_read_bind, chain, Call.run_pure]

theorem exchangeOn_run {priv : Priv} {pub : PubBytes} {dhOut : Dh}
    (agreed : P.exchange priv pub = some dhOut) (state : RatchetState Priv Key) :
    (P.exchangeOn (some priv) pub).run state = (.ok dhOut, state) := by
  simp only [exchangeOn, Call.run_require_bind, agreed, Call.run_require_some]

theorem initializeAsAlice_run (fresh : Priv) (bobDhPub : PubBytes) (sharedSecret : Key)
    (localDhPriv : Option Priv) (dhOut : Dh) (state : RatchetState Priv Key)
    (agreed : P.exchange (localDhPriv.getD fresh) bobDhPub = some dhOut) :
    (P.initializeAsAlice fresh bobDhPub sharedSecret localDhPriv).run state =
      (.ok (), { state with
        dhPriv := some (localDhPriv.getD fresh), dhPubRemote := some bobDhPub,
        rootKey := some (P.hkdfRk sharedSecret dhOut).1,
        sendChainKey := some (P.hkdfRk sharedSecret dhOut).2, recvChainKey := none,
        sendMsgNum := 0, recvMsgNum := 0, prevSendChainLen := 0 }) := by
  rw [initializeAsAlice, Call.run_modify_bind, Call.run_bind_of_ok (P.exchangeOn_run agreed _),
    Call.run_modify]

theorem initializeAsBob_run (fresh : Priv) (aliceDhPub : PubBytes) (sharedSecret : Key)
    (localDhPriv : Option Priv) (dhOut : Dh) (state : RatchetState Priv Key)
    (agreed : P.exchange (localDhPriv.getD fresh) aliceDhPub = some dhOut) :
    (P.initializeAsBob fresh aliceDhPub sharedSecret localDhPriv).run state =
      (.ok (), { state with
        dhPriv := some (localDhPriv.getD fresh), dhPubRemote := some aliceDhPub,
        rootKey := some (P.hkdfRk sharedSecret dhOut).1,
        recvChainKey := some (P.hkdfRk sharedSecret dhOut).2, sendChainKey := none,
        sendMsgNum := 0, recvMsgNum := 0, prevSendChainLen := 0 }) := by
  rw [initializeAsBob, Call.run_modify_bind, Call.run_bind_of_ok (P.exchangeOn_run agreed _),
    Call.run_modify]

theorem dhRatchetStep_run (fresh priv : Priv) (pub : PubBytes) (rk : Key) (dhOut dhOut2 : Dh)
    (state : RatchetState Priv Key) (own : state.dhPriv = some priv)
    (root : state.rootKey = some rk) (agreed : P.exchange priv pub = some dhOut)
    (agreed2 : P.exchange fresh pub = some dhOut2) :
    (P.dhRatchetStep fresh pub).run state =
      (.ok (), { state with
        rootKey := some (P.hkdfRk (P.hkdfRk rk dhOut).1 dhOut2).1,
        sendChainKey := some (P.hkdfRk (P.hkdfRk rk dhOut).1 dhOut2).2,
        recvChainKey := some (P.hkdfRk rk dhOut).2,
        prevSendChainLen := state.sendMsgNum, sendMsgNum := 0, recvMsgNum := 0,
        dhPriv := some fresh, dhPubRemote := some pub }) := by
  rw [dhRatchetStep, Call.run_read_bind, own, Call.run_bind_of_ok (P.exchangeOn_run agreed state),
    root, Call.run_require_bind, Call.run_modify_bind,
    Call.run_bind_of_ok (P.exchangeOn_run agreed2 _), Call.run_modify]

theorem startSendChain_run (fresh : Priv) (pub : PubBytes) (rk : Key) (dhOut : Dh)
    (state : RatchetState Priv Key) (remote : state.dhPubRemote = some pub)
    (root : state.rootKey = some rk) (agreed : P.exchange fresh pub = some dhOut) :
    (P.startSendChain fresh).run state =
      (.ok (), { state with
        rootKey := some (P.hkdfRk rk dhOut).1, sendChainKey := some (P.hkdfRk rk dhOut).2,
        dhPriv := some fresh, prevSendChainLen := state.sendMsgNum, sendMsgNum := 0 }) := by
  rw [startSendChain, Call.run_read_bind, remote, Call.run_require_bind, Call.run_modify_bind,
    Call.run_bind_of_ok (P.exchangeOn_run agreed _), root, Call.run_require_bind, Call.run_modify]
  simp only [remote]

/-- The packet that a chain at message `number` produces, and the chain after it. -/
theorem encryptOnChain_run (nonce plaintext header : Bytes) (priv : Priv) (ck : Key)
    (state : RatchetState Priv Key) (own : state.dhPriv = some priv)
    (chain : state.sendChainKey = some (P.chainKey ck state.sendMsgNum))
    (packed : packHeader state.sendMsgNum state.prevSendChainLen (P.publicBytes priv) =
      .ok header) :
    (P.encryptOnChain nonce plaintext).run state =
      (.ok (header, nonce ++
          P.aeadEncrypt (P.messageKey ck state.sendMsgNum) nonce plaintext header),
        { state with
          sendChainKey := some (P.chainKey ck (state.sendMsgNum + 1)),
          sendMsgNum := state.sendMsgNum + 1 }) := by
  simp only [encryptOnChain, Call.run_read_bind, chain, Call.run_require_bind, own,
    Call.run_modify_bind, packed, Call.run_pure, messageKey, ← P.chainKey_succ]

theorem encrypt_run_ready (fresh : Priv) (nonce plaintext : Bytes) (ck : Key)
    (state : RatchetState Priv Key) (chain : state.sendChainKey = some ck) :
    (P.encrypt fresh nonce plaintext).run state =
      (P.encryptOnChain nonce plaintext).run state := by
  simp only [encrypt, Call.run_read_bind, chain, Option.isNone_some, Bool.false_eq_true,
    ↓reduceIte]

theorem encrypt_run_start (fresh : Priv) (nonce plaintext : Bytes)
    (state after : RatchetState Priv Key) (missing : state.sendChainKey = none)
    (started : (P.startSendChain fresh).run state = (.ok (), after)) :
    (P.encrypt fresh nonce plaintext).run state =
      (P.encryptOnChain nonce plaintext).run after := by
  simp only [encrypt, Call.run_read_bind, missing, Option.isNone_none, ↓reduceIte]
  exact Call.run_bind_of_ok started _

theorem decrypt_run_same (fresh : Priv) {header : Bytes} {msgNum prevChainLen : Nat}
    {pub : PubBytes} (packed : HeaderOf header msgNum prevChainLen pub) (ciphertext : Bytes)
    (state : RatchetState Priv Key) (same : state.dhPubRemote = some pub) :
    (P.decrypt fresh header ciphertext).run state =
      (P.decryptOnChain pub msgNum header ciphertext).run state := by
  have long : ¬ header.length < 40 := Nat.not_lt_of_le packed.long
  simp only [decrypt, long, ↓reduceDIte, Call.run_read_bind, packed.pub, same, ne_eq,
    not_true_eq_false, ↓reduceIte, packed.number]

/-- On a new DH key the old chain is wound up and the ratchet turns, before anything
else in the packet is looked at. -/
theorem decrypt_run_new (fresh : Priv) {header : Bytes} {msgNum prevChainLen : Nat}
    {pub : PubBytes} (packed : HeaderOf header msgNum prevChainLen pub) (ciphertext : Bytes)
    (state : RatchetState Priv Key) (differs : state.dhPubRemote ≠ some pub) :
    (P.decrypt fresh header ciphertext).run state =
      ((P.skipRecvChain state.dhPubRemote prevChainLen >>= fun _ =>
        P.dhRatchetStep fresh pub >>= fun _ =>
        P.decryptOnChain pub msgNum header ciphertext)).run state := by
  have long : ¬ header.length < 40 := Nat.not_lt_of_le packed.long
  simp only [decrypt, long, ↓reduceDIte, Call.run_read_bind, packed.pub, differs, ne_eq,
    not_false_eq_true, ↓reduceIte, packed.number, packed.previous]

theorem decryptWithKey_run {key : Key} {data header plaintext : Bytes}
    (long : xchacha20NonceSize ≤ data.length)
    (opens : P.aeadDecrypt key (data.take xchacha20NonceSize) (data.drop xchacha20NonceSize)
      header = some plaintext) (state : RatchetState Priv Key) :
    (P.decryptWithKey key data header).run state = (.ok plaintext, state) := by
  have enough : ¬ data.length < xchacha20NonceSize := Nat.not_lt_of_le long
  simp only [decryptWithKey, enough, ↓reduceIte, opens, Call.run_require_some]

end Primitives

end UltimateEnigma.DoubleRatchet
