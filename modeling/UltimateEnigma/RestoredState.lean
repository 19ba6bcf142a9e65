import UltimateEnigma.Agreement
import UltimateEnigma.DoubleRatchetFrames
import UltimateEnigma.RatchetService
import Mathlib.Data.Fintype.Card
import Mathlib.Data.Fintype.Vector

set_option autoImplicit false

namespace UltimateEnigma.DoubleRatchet

open Py

variable {Priv Dh Key : Type}

/-- A call that a later message makes on one side's state. -/
inductive SideCall (Priv : Type) where
  | encrypt (fresh : Priv) (nonce plaintext : Bytes)
  | decrypt (fresh : Priv) (header ciphertext : Bytes)
deriving DecidableEq

inductive Reply where
  | sent (result : Except Raised (Bytes × Bytes))
  | opened (result : Except Raised Bytes)
deriving DecidableEq

/-- Everything that may happen to a `RatchetState` object. `restore` replaces it by what
`deserialize` makes of its `serialize`. -/
inductive SideEvent (Priv Key : Type) where
  | setUp (role : Party) (fresh : Priv) (dhPub : PubBytes) (sharedSecret : Key)
      (localDhPriv : Option Priv)
  | turn (fresh : Priv) (remotePub : PubBytes)
  | call (call : SideCall Priv)
  | restore
deriving DecidableEq

namespace Primitives

variable (P : Primitives Priv Dh Key)

def perform (state : RatchetState Priv Key) : SideCall Priv → Reply × RatchetState Priv Key
  | .encrypt fresh nonce plaintext =>
      let (result, after) := (P.encrypt fresh nonce plaintext).run state
      (.sent result, after)
  | .decrypt fresh header ciphertext =>
      let (result, after) := (P.decrypt fresh header ciphertext).run state
      (.opened result, after)

/-- What each call returns or raises, and the skipped keys as it leaves them. -/
def transcript (state : RatchetState Priv Key) :
    List (SideCall Priv) → List (Reply × Dict (PubBytes × Nat) Key)
  | [] => []
  | call :: rest =>
      ((P.perform state call).1, (P.perform state call).2.skippedKeys) ::
        transcript (P.perform state call).2 rest

/-- No sequence of calls tells the two states apart. -/
def BehavesLike (left right : RatchetState Priv Key) : Prop :=
  ∀ calls, P.transcript left calls = P.transcript right calls

def side : Machine (RatchetState Priv Key) (SideEvent Priv Key) where
  start state := state = {}
  enabled _ _ := True
  apply state
    | .setUp .alice fresh dhPub sharedSecret localDhPriv =>
        ((P.initializeAsAlice fresh dhPub sharedSecret localDhPriv).run state).2
    | .setUp .bob fresh dhPub sharedSecret localDhPriv =>
        ((P.initializeAsBob fresh dhPub sharedSecret localDhPriv).run state).2
    | .turn fresh remotePub => ((P.dhRatchetStep fresh remotePub).run state).2
    | .call call => (P.perform state call).2
    | .restore => state.serialize.deserialize

/-- X25519 has a key pair outside any short list, and two key pairs always agree on
something. -/
structure Plentiful : Prop where
  agrees (left right : Priv) : (P.exchange left (P.publicBytes right)).isSome
  outside (pubs : List PubBytes) (short : pubs.length ≤ maxSkippedKeys + 1) :
    ∃ priv, P.publicBytes priv ∉ pubs

variable {P}

theorem BehavesLike.reply {left right : RatchetState Priv Key} (alike : P.BehavesLike left right)
    (call : SideCall Priv) :
    (P.perform left call).1 = (P.perform right call).1 ∧
      (P.perform left call).2.skippedKeys = (P.perform right call).2.skippedKeys := by
  have once := alike [call]
  simp only [transcript, List.cons.injEq, Prod.mk.injEq, and_true] at once
  exact once

theorem BehavesLike.step {left right : RatchetState Priv Key} (alike : P.BehavesLike left right)
    (call : SideCall Priv) :
    P.BehavesLike (P.perform left call).2 (P.perform right call).2 := by
  intro calls
  have longer := alike (call :: calls)
  simp only [transcript, List.cons.injEq] at longer
  exact longer.2

section Decrypting

variable {left right leftAfter rightAfter : RatchetState Priv Key} {fresh : Priv}
  {header ciphertext : Bytes} {leftResult rightResult : Except Raised Bytes}

theorem BehavesLike.decrypt_reply (alike : P.BehavesLike left right)
    (leftRun : (P.decrypt fresh header ciphertext).run left = (leftResult, leftAfter))
    (rightRun : (P.decrypt fresh header ciphertext).run right = (rightResult, rightAfter)) :
    leftResult = rightResult ∧ leftAfter.skippedKeys = rightAfter.skippedKeys := by
  have same := alike.reply (.decrypt fresh header ciphertext)
  simp only [perform, leftRun, rightRun, Reply.opened.injEq] at same
  exact same

theorem BehavesLike.decrypt_step (alike : P.BehavesLike left right)
    (leftRun : (P.decrypt fresh header ciphertext).run left = (leftResult, leftAfter))
    (rightRun : (P.decrypt fresh header ciphertext).run right = (rightResult, rightAfter)) :
    P.BehavesLike leftAfter rightAfter := by
  have later := alike.step (.decrypt fresh header ciphertext)
  simp only [perform, leftRun, rightRun] at later
  exact later

end Decrypting

end Primitives

/-- A state with its own key pair and a root key. -/
def Keyed (state : RatchetState Priv Key) : Prop :=
  state.dhPriv.isSome ∧ state.rootKey.isSome

/-- A state that no exchange has set up yet. -/
def Unkeyed (state : RatchetState Priv Key) : Prop :=
  state.rootKey = none ∧ state.recvChainKey = none ∧ state.skippedKeyOrder = []

def Settled (state : RatchetState Priv Key) : Prop := Keyed state ∨ Unkeyed state

namespace Primitives

variable (P : Primitives Priv Dh Key)

theorem maintains_keyed_of_keeps_turn {α : Type} {call : Call Raised (RatchetState Priv Key) α}
    (keeps : call.Keeps RatchetState.turn) : call.Maintains Keyed :=
  keeps.maintains fun turn => turn.dhPriv.isSome ∧ turn.rootKey.isSome

theorem stepRecvChain_unkeyed {state : RatchetState Priv Key} (unkeyed : Unkeyed state) :
    P.stepRecvChain.run state = (.error .attributeError, state) := by
  simp only [stepRecvChain, Call.run_read_bind, unkeyed.2.1]
  rfl

theorem skipMessages_settled (pub : PubBytes) (count : Nat) :
    (P.skipMessages pub count).Maintains Settled := by
  intro state settled
  rcases settled with keyed | unkeyed
  · exact .inl (maintains_keyed_of_keeps_turn (P.skipMessages_keeps_turn pub count) state keyed)
  · cases count with
    | zero => exact .inr unkeyed
    | succ count =>
        rw [skipMessages, Call.run_bind_of_error (P.stepRecvChain_unkeyed unkeyed)]
        exact .inr unkeyed

theorem skipRecvChain_settled (remotePub : Option PubBytes) (bound : Nat) :
    (P.skipRecvChain remotePub bound).Maintains Settled := by
  apply Call.maintains_read_bind
  intro state settled
  split
  · split
    · exact settled
    · exact P.skipMessages_settled _ _ state settled
  · exact settled

theorem dhRatchetStep_settled (fresh : Priv) (remotePub : PubBytes) :
    (P.dhRatchetStep fresh remotePub).Maintains Settled := by
  apply Call.maintains_read_bind
  intro state settled
  cases own : state.dhPriv with
  | none => exact settled
  | some priv =>
      cases agreed : P.exchange priv remotePub with
      | none =>
          simp only [exchangeOn, Call.run_bind, Call.run_require_some, agreed, Call.run_require_none]
          exact settled
      | some dhOut =>
          rw [Call.run_bind_of_ok (P.exchangeOn_run agreed state)]
          cases root : state.rootKey with
          | none => exact settled
          | some rk =>
              rw [Call.run_require_bind, Call.run_modify_bind]
              apply Or.inl
              cases agreed2 : P.exchange fresh remotePub with
              | none =>
                  simp only [exchangeOn, Call.run_bind, Call.run_require_some, agreed2,
                    Call.run_require_none]
                  exact ⟨rfl, rfl⟩
              | some dhOut2 =>
                  rw [Call.run_bind_of_ok (P.exchangeOn_run agreed2 _), Call.run_modify]
                  exact ⟨rfl, rfl⟩

theorem startSendChain_settled (fresh : Priv) : (P.startSendChain fresh).Maintains Settled := by
  apply Call.maintains_read_bind
  intro state settled
  cases remote : state.dhPubRemote with
  | none => exact settled
  | some pub =>
      rw [Call.run_require_bind, Call.run_modify_bind]
      cases agreed : P.exchange fresh pub with
      | none =>
          simp only [exchangeOn, Call.run_bind, Call.run_require_some, agreed, Call.run_require_none]
          exact settled.imp (fun keyed => ⟨rfl, keyed.2⟩) id
      | some dhOut =>
          rw [Call.run_bind_of_ok (P.exchangeOn_run agreed _)]
          cases root : state.rootKey with
          | none =>
              rcases settled with keyed | unkeyed
              · rw [Keyed, root] at keyed
                cases keyed.2
              · exact .inr ⟨rfl, unkeyed.2⟩
          | some rk => exact .inl ⟨rfl, rfl⟩

theorem encryptOnChain_settled (nonce plaintext : Bytes) :
    (P.encryptOnChain nonce plaintext).Maintains Settled := by
  have keeps : (P.encryptOnChain nonce plaintext).Keeps fun state =>
      (state.dhPriv, state.rootKey, state.recvChainKey, state.skippedKeyOrder) := by
    apply Call.keeps_bind Call.keeps_read
    intro state
    apply Call.keeps_bind (Call.keeps_require _ _)
    intro ck
    refine Call.keeps_bind (Call.keeps_modify fun _ => ?_) fun _ => ?_
    · rfl
    apply Call.keeps_bind (Call.keeps_require _ _)
    intro priv
    split
    · exact Call.keeps_raise _
    · exact Call.keeps_bind (Call.keeps_modify fun _ => rfl) fun _ => Call.keeps_pure _
  exact keeps.maintains fun view =>
    (view.1.isSome ∧ view.2.1.isSome) ∨ (view.2.1 = none ∧ view.2.2.1 = none ∧ view.2.2.2 = [])

theorem encrypt_settled (fresh : Priv) (nonce plaintext : Bytes) :
    (P.encrypt fresh nonce plaintext).Maintains Settled := by
  have onChain := P.encryptOnChain_settled nonce plaintext
  apply Call.maintains_read_bind
  intro state settled
  split
  · exact Call.maintains_bind (P.startSendChain_settled fresh) (fun _ => onChain) state settled
  · exact onChain state settled

theorem decryptOnChain_settled (remotePub : PubBytes) (msgNum : Nat)
    (header ciphertext : Bytes) :
    (P.decryptOnChain remotePub msgNum header ciphertext).Maintains Settled := by
  intro state settled
  rcases settled with keyed | unkeyed
  · have keeps := P.decryptOnChain_keeps_turn remotePub msgNum header ciphertext
    exact .inl (maintains_keyed_of_keeps_turn keeps state keyed)
  · have stuck := P.stepRecvChain_unkeyed unkeyed
    apply Or.inr
    rw [decryptOnChain, Call.run_read_bind]
    split
    · exact (P.decryptWithKey_keeps id _ ciphertext header).maintains Unkeyed _ unkeyed
    · split
      · exact unkeyed
      · cases msgNum - state.recvMsgNum with
        | zero =>
            rw [skipMessages, Call.run_pure_bind, Call.run_bind_of_error stuck]
            exact unkeyed
        | succ count =>
            rw [skipMessages, Call.run_bind, Call.run_bind_of_error stuck]
            exact unkeyed

theorem decrypt_settled (fresh : Priv) (header ciphertext : Bytes) :
    (P.decrypt fresh header ciphertext).Maintains Settled := by
  unfold decrypt
  split
  · exact fun _ settled => settled
  · apply Call.maintains_read_bind
    intro state settled
    have onChain := P.decryptOnChain_settled
      (headerDhPub header (Nat.le_of_not_lt ‹_›)) (headerMsgNum header) header ciphertext
    split
    · refine Call.maintains_bind (P.skipRecvChain_settled _ _) (fun _ => ?_) state settled
      exact Call.maintains_bind (P.dhRatchetStep_settled _ _) (fun _ => onChain)
    · exact onChain state settled

theorem perform_settled (state : RatchetState Priv Key) (call : SideCall Priv)
    (settled : Settled state) : Settled (P.perform state call).2 := by
  cases call with
  | encrypt fresh nonce plaintext => exact P.encrypt_settled fresh nonce plaintext state settled
  | decrypt fresh header ciphertext => exact P.decrypt_settled fresh header ciphertext state settled

theorem initializeAsAlice_settled (fresh : Priv) (bobDhPub : PubBytes) (sharedSecret : Key)
    (localDhPriv : Option Priv) :
    (P.initializeAsAlice fresh bobDhPub sharedSecret localDhPriv).Maintains Settled := by
  intro state settled
  rw [initializeAsAlice, Call.run_modify_bind]
  cases agreed : P.exchange (localDhPriv.getD fresh) bobDhPub with
  | none =>
      simp only [exchangeOn, Call.run_bind, Call.run_require_some, agreed, Call.run_require_none]
      exact settled.imp (fun keyed => ⟨rfl, keyed.2⟩) id
  | some dhOut =>
      rw [Call.run_bind_of_ok (P.exchangeOn_run agreed _), Call.run_modify]
      exact .inl ⟨rfl, rfl⟩

theorem initializeAsBob_settled (fresh : Priv) (aliceDhPub : PubBytes) (sharedSecret : Key)
    (localDhPriv : Option Priv) :
    (P.initializeAsBob fresh aliceDhPub sharedSecret localDhPriv).Maintains Settled := by
  intro state settled
  rw [initializeAsBob, Call.run_modify_bind]
  cases agreed : P.exchange (localDhPriv.getD fresh) aliceDhPub with
  | none =>
      simp only [exchangeOn, Call.run_bind, Call.run_require_some, agreed, Call.run_require_none]
      exact settled.imp (fun keyed => ⟨rfl, keyed.2⟩) id
  | some dhOut =>
      rw [Call.run_bind_of_ok (P.exchangeOn_run agreed _), Call.run_modify]
      exact .inl ⟨rfl, rfl⟩

theorem settled_of_reachable {state : RatchetState Priv Key}
    (reachable : P.side.Reachable (fun _ _ => True) state) : Settled state := by
  induction reachable with
  | start initial =>
      subst initial
      exact .inr ⟨rfl, rfl, rfl⟩
  | @step before event _ _ _ settled =>
      cases event with
      | setUp role fresh dhPub sharedSecret localDhPriv =>
          cases role with
          | alice => exact P.initializeAsAlice_settled fresh dhPub sharedSecret localDhPriv _ settled
          | bob => exact P.initializeAsBob_settled fresh dhPub sharedSecret localDhPriv _ settled
      | turn fresh remotePub => exact P.dhRatchetStep_settled fresh remotePub _ settled
      | call call => exact P.perform_settled before call settled
      | restore => exact settled.imp id fun unkeyed => ⟨unkeyed.1, unkeyed.2.1, rfl⟩

theorem reachable_decrypt {state after : RatchetState Priv Key} {fresh : Priv}
    {header ciphertext : Bytes} {result : Except Raised Bytes}
    (reachable : P.side.Reachable (fun _ _ => True) state)
    (run : (P.decrypt fresh header ciphertext).run state = (result, after)) :
    P.side.Reachable (fun _ _ => True) after := by
  have same : P.side.apply state (.call (.decrypt fresh header ciphertext)) = after :=
    congrArg Prod.snd run
  rw [← same]
  exact reachable.step _ trivial trivial

/-- Only a state with its own key pair and a root key can have queued a key. -/
theorem keyed_of_reachable {state : RatchetState Priv Key}
    (reachable : P.side.Reachable (fun _ _ => True) state)
    (queued : state.skippedKeyOrder ≠ []) : Keyed state := by
  rcases P.settled_of_reachable reachable with keyed | unkeyed
  · exact keyed
  · exact absurd unkeyed.2.2 queued

/-- A packet that only its header makes worth sending. -/
def probe (msgNum prevChainLen : Nat) (pub : PubBytes) : Bytes :=
  packBE 4 msgNum ++ packBE 4 prevChainLen ++ pub.toList

theorem headerOf_probe {msgNum prevChainLen : Nat} (pub : PubBytes) (number : msgNum < 2 ^ 32)
    (previous : prevChainLen < 2 ^ 32) :
    HeaderOf (probe msgNum prevChainLen pub) msgNum prevChainLen pub :=
  headerOf_packHeader (packHeader_of_fits pub number previous)

/-- A state on the receiving chain of `pub`, which started from `ck`. -/
structure OnChain (state : RatchetState Priv Key) (pub : PubBytes) (ck : Key) : Prop where
  remote : state.dhPubRemote = some pub
  chain : state.recvChainKey = some (P.chainKey ck state.recvMsgNum)
  keyed : Keyed state

def tooShort : Raised := .valueError "Ciphertext too short"

/-- A message whose key was not kept: the chain moves on before the tag is checked. -/
theorem decryptOnChain_run {pub : PubBytes} {msgNum count : Nat} (header ciphertext : Bytes)
    {ck : Key} (state : RatchetState Priv Key) {middle : RatchetState Priv Key}
    (absent : state.skippedKeys.get? (pub, msgNum) = none)
    (distance : msgNum - state.recvMsgNum = count) (near : count ≤ maxSkipDistance)
    (skipped : (P.skipMessages pub count).run state = (.ok (), middle))
    (chain : middle.recvChainKey = some ck) :
    (P.decryptOnChain pub msgNum header ciphertext).run state =
      (P.decryptWithKey (P.hkdfCk ck).2 ciphertext header).run { middle with
        recvChainKey := some (P.hkdfCk ck).1, recvMsgNum := middle.recvMsgNum + 1 } := by
  have close : ¬ maxSkipDistance < count := by omega
  simp only [decryptOnChain, Call.run_read_bind, absent, distance, close, ↓reduceIte]
  rw [Call.run_bind_of_ok skipped, Call.run_bind_of_ok (P.stepRecvChain_run middle ck chain),
    Call.run_modify_bind]

theorem decryptWithKey_empty (key : Key) (header : Bytes) (state : RatchetState Priv Key) :
    (P.decryptWithKey key [] header).run state = (.error tooShort, state) := rfl

/-- One more key in a full store, where the queue still knows the oldest. -/
theorem skipMessages_evicts (pub : PubBytes) (state : RatchetState Priv Key) {ck : Key}
    {oldest : PubBytes × Nat} {order : List (PubBytes × Nat)}
    (full : maxSkippedKeys ≤ state.skippedKeys.size) (chain : state.recvChainKey = some ck)
    (queue : state.skippedKeyOrder = oldest :: order) :
    (P.skipMessages pub 1).run state =
      (.ok (), { state with
        recvChainKey := some (P.hkdfCk ck).1, recvMsgNum := state.recvMsgNum + 1,
        skippedKeyOrder := order ++ [(pub, state.recvMsgNum)],
        skippedKeys := (state.skippedKeys.erase oldest).set (pub, state.recvMsgNum)
          (P.hkdfCk ck).2 }) := by
  rw [skipMessages, Call.run_bind_of_ok (P.stepRecvChain_run state ck chain), Call.run_read_bind]
  simp only [storeSkippedKey, Call.run_bind, Call.run_read, full, ↓reduceIte, queue,
    Call.run_modify, skipMessages, Call.run_pure]

/-- The same in a state that has lost its queue. -/
theorem skipMessages_lost (pub : PubBytes) (state : RatchetState Priv Key) {ck : Key}
    (full : maxSkippedKeys ≤ state.skippedKeys.size) (chain : state.recvChainKey = some ck)
    (queue : state.skippedKeyOrder = []) :
    (P.skipMessages pub 1).run state =
      (.error .indexError, { state with recvChainKey := some (P.hkdfCk ck).1 }) := by
  rw [skipMessages, Call.run_bind_of_ok (P.stepRecvChain_run state ck chain), Call.run_read_bind]
  simp only [storeSkippedKey, Call.run_bind, Call.run_read, full, ↓reduceIte, queue, Call.run_raise]

variable {P}

/-- The ratchet turns whatever the queue holds, and leaves it alone. -/
theorem Plentiful.turns (plentiful : P.Plentiful) (state : RatchetState Priv Key)
    (keyed : Keyed state) (own : Priv) :
    ∃ turned ck, P.OnChain turned (P.publicBytes own) ck ∧ turned.recvMsgNum = 0 ∧
      turned.skippedKeys = state.skippedKeys ∧
      ∀ order, (P.dhRatchetStep own (P.publicBytes own)).run
          { state with skippedKeyOrder := order } =
        (.ok (), { turned with skippedKeyOrder := order }) := by
  obtain ⟨priv, before⟩ := Option.isSome_iff_exists.mp keyed.1
  obtain ⟨rk, root⟩ := Option.isSome_iff_exists.mp keyed.2
  obtain ⟨dhOut, agreed⟩ := Option.isSome_iff_exists.mp (plentiful.agrees priv own)
  obtain ⟨dhOut2, agreed2⟩ := Option.isSome_iff_exists.mp (plentiful.agrees own own)
  refine ⟨{ state with
    rootKey := some (P.hkdfRk (P.hkdfRk rk dhOut).1 dhOut2).1,
    sendChainKey := some (P.hkdfRk (P.hkdfRk rk dhOut).1 dhOut2).2,
    recvChainKey := some (P.hkdfRk rk dhOut).2,
    prevSendChainLen := state.sendMsgNum, sendMsgNum := 0, recvMsgNum := 0,
    dhPriv := some own, dhPubRemote := some (P.publicBytes own) }, (P.hkdfRk rk dhOut).2,
    ⟨rfl, rfl, rfl, rfl⟩, rfl, rfl, ?_⟩
  intro order
  exact P.dhRatchetStep_run own priv (P.publicBytes own) rk dhOut dhOut2
    { state with skippedKeyOrder := order } before root agreed agreed2

theorem skipRecvChain_nothing (remotePub : Option PubBytes) (state : RatchetState Priv Key) :
    (P.skipRecvChain remotePub 0).run state = (.ok (), state) := by
  rw [skipRecvChain, Call.run_read_bind]
  split
  · simp only [Nat.zero_sub, Nat.not_lt_zero, ↓reduceIte, skipMessages, Call.run_pure]
  · rfl

/-- A header with a new key turns the ratchet before the packet is looked at. -/
theorem Plentiful.decrypt_turns (plentiful : P.Plentiful) {state : RatchetState Priv Key}
    (keyed : Keyed state) (own : Priv) (differs : state.dhPubRemote ≠ some (P.publicBytes own))
    (msgNum : Nat) (number : msgNum < 2 ^ 32) :
    ∃ turned ck, P.OnChain turned (P.publicBytes own) ck ∧ turned.recvMsgNum = 0 ∧
      turned.skippedKeys = state.skippedKeys ∧
      ∀ order, (P.decrypt own (probe msgNum 0 (P.publicBytes own)) []).run
          { state with skippedKeyOrder := order } =
        (P.decryptOnChain (P.publicBytes own) msgNum (probe msgNum 0 (P.publicBytes own)) []).run
          { turned with skippedKeyOrder := order } := by
  obtain ⟨turned, ck, onChain, zero, same, turns⟩ := plentiful.turns state keyed own
  refine ⟨turned, ck, onChain, zero, same, fun order => ?_⟩
  have packed : HeaderOf (probe msgNum 0 (P.publicBytes own)) msgNum 0 (P.publicBytes own) :=
    headerOf_probe (P.publicBytes own) number (by decide)
  rw [P.decrypt_run_new own packed [] { state with skippedKeyOrder := order } differs,
    Call.run_bind_of_ok (skipRecvChain_nothing _ _), Call.run_bind_of_ok (turns order)]

/-- A new chain fills the store exactly up to its cap. -/
theorem OnChain.fills {state : RatchetState Priv Key} {pub : PubBytes} {ck : Key}
    (onChain : P.OnChain state pub ck) (count : Nat) (zero : state.recvMsgNum = 0)
    (room : state.skippedKeys.size + (count + 1) = maxSkippedKeys)
    (new : ∀ number, state.skippedKeys.get? (pub, number) = none) :
    ∃ filled queued, P.OnChain filled pub ck ∧ filled.recvMsgNum = count + 2 ∧
      filled.skippedKeys.size = maxSkippedKeys ∧
      (filled.skippedKeys.get? (pub, 0)).isSome ∧
      (∀ later, count + 2 ≤ later → filled.skippedKeys.get? (pub, later) = none) ∧
      ∀ order header ciphertext, (P.decryptOnChain pub (count + 1) header ciphertext).run
          { state with skippedKeyOrder := order } =
        (P.decryptWithKey (P.messageKey ck (count + 1)) ciphertext header).run
          { filled with skippedKeyOrder := order ++ (pub, 0) :: queued } := by
  have cap : maxSkippedKeys = 1000 := rfl
  have reach : maxSkipDistance = 1000 := rfl
  have distance : count + 1 - state.recvMsgNum = count + 1 := by omega
  have keys := P.get?_skippedRange state.skippedKeys pub ck 0 (count + 1)
  refine ⟨{ state with
    recvChainKey := some (P.chainKey ck (count + 2)), recvMsgNum := count + 2,
    skippedKeys := state.skippedKeys.update (P.skippedRange pub ck 0 (count + 1)) },
    (P.skippedRange pub ck 1 count).map Prod.fst,
    ⟨onChain.remote, rfl, onChain.keyed⟩, rfl, ?_, ?_, ?_, ?_⟩
  · rw [Dict.size_update_of_absent, P.skippedRange_length, room]
    · intro item member
      obtain ⟨number, _, rfl⟩ := List.mem_map.mp member
      exact new number
    · simp only [skippedRange, List.map_map]
      exact (List.nodup_range').map fun left right equal => congrArg Prod.snd equal
  · rw [keys, if_pos ⟨rfl, Nat.le_refl 0, by omega⟩]
    rfl
  · intro later beyond
    rw [keys, if_neg (by omega)]
    exact new later
  · intro order header ciphertext
    have skipped := P.skipMessages_run pub (count + 1) ck { state with skippedKeyOrder := order }
      onChain.chain (Nat.le_of_eq room)
    rw [P.decryptOnChain_run header ciphertext { state with skippedKeyOrder := order }
      (new (count + 1)) distance (by omega) skipped rfl]
    simp only [zero, Nat.zero_add, P.chainKey_succ, P.skippedRange_succ, List.map_cons, messageKey]

/-- One more message on the chain of a full store. -/
theorem OnChain.decrypt_evicts {state : RatchetState Priv Key} {pub : PubBytes} {ck : Key}
    (onChain : P.OnChain state pub ck) (fresh : Priv) (number : state.recvMsgNum + 1 < 2 ^ 32)
    (full : maxSkippedKeys ≤ state.skippedKeys.size)
    (absent : state.skippedKeys.get? (pub, state.recvMsgNum + 1) = none)
    (oldest : PubBytes × Nat) (order : List (PubBytes × Nat)) :
    ∃ after, (P.decrypt fresh (probe (state.recvMsgNum + 1) 0 pub) []).run
        { state with skippedKeyOrder := oldest :: order } = (.error tooShort, after) ∧
      after.skippedKeys = (state.skippedKeys.erase oldest).set (pub, state.recvMsgNum)
        (P.messageKey ck state.recvMsgNum) := by
  have distance : state.recvMsgNum + 1 - state.recvMsgNum = 1 := by omega
  have packed : HeaderOf (probe (state.recvMsgNum + 1) 0 pub) (state.recvMsgNum + 1) 0 pub :=
    headerOf_probe pub number (by decide)
  have evicted := P.skipMessages_evicts pub { state with skippedKeyOrder := oldest :: order }
    full onChain.chain rfl
  have raised := P.decryptOnChain_run (probe (state.recvMsgNum + 1) 0 pub) []
    { state with skippedKeyOrder := oldest :: order } absent distance (by decide) evicted rfl
  have same := P.decrypt_run_same fresh packed []
    { state with skippedKeyOrder := oldest :: order } onChain.remote
  rw [decryptWithKey_empty] at raised
  exact ⟨_, same.trans raised, rfl⟩

/-- Message 0 of a chain is opened with a kept key or moves the chain on by one. -/
theorem decryptOnChain_first {pub : PubBytes} (header : Bytes) {ck : Key}
    (state : RatchetState Priv Key) (onChain : P.OnChain state pub ck)
    (zero : state.recvMsgNum = 0) :
    ∃ after, P.OnChain after pub ck ∧ after.recvMsgNum ≤ 1 ∧
      after.skippedKeys = state.skippedKeys.erase (pub, 0) ∧
      ∀ order, (P.decryptOnChain pub 0 header []).run { state with skippedKeyOrder := order } =
        (.error tooShort, { after with skippedKeyOrder := order }) := by
  cases kept : state.skippedKeys.get? (pub, 0) with
  | some key =>
      refine ⟨{ state with skippedKeys := state.skippedKeys.erase (pub, 0) },
        ⟨onChain.remote, onChain.chain, onChain.keyed⟩, by simp only [zero, Nat.zero_le], rfl, ?_⟩
      intro order
      simp only [decryptOnChain, Call.run_read_bind, kept, Call.run_modify_bind]
      rfl
  | none =>
      refine ⟨{ state with recvChainKey := some (P.chainKey ck 1), recvMsgNum := 1 },
        ⟨onChain.remote, rfl, onChain.keyed⟩, Nat.le_refl 1,
        (Dict.erase_of_absent _ kept).symm, ?_⟩
      intro order
      have chain : state.recvChainKey = some ck := by
        rw [onChain.chain, zero, P.chainKey_zero]
      rw [P.decryptOnChain_run header [] { state with skippedKeyOrder := order } kept
        (Nat.zero_sub _) (Nat.zero_le _) rfl chain, decryptWithKey_empty]
      simp only [zero, Nat.zero_add, ← P.chainKey_succ, P.chainKey_zero]

/-- In a full store the state that has lost its queue raises where the other goes on. -/
theorem Plentiful.full_store_differs (plentiful : P.Plentiful) {state : RatchetState Priv Key}
    {pub : PubBytes} {ck : Key} (onChain : P.OnChain state pub ck)
    (number : state.recvMsgNum + 1 < 2 ^ 32) (full : maxSkippedKeys ≤ state.skippedKeys.size)
    (oldest : PubBytes × Nat) (order : List (PubBytes × Nat)) :
    ¬ P.BehavesLike { state with skippedKeyOrder := [] }
      { state with skippedKeyOrder := oldest :: order } := by
  intro alike
  have short : [pub].length ≤ maxSkippedKeys + 1 := Nat.le_add_left 1 maxSkippedKeys
  obtain ⟨own, outside⟩ := plentiful.outside [pub] short
  have differs : state.dhPubRemote ≠ some (P.publicBytes own) := by
    rw [onChain.remote]
    intro same
    exact outside (List.mem_singleton.mpr (Option.some.inj same).symm)
  have one : state.recvMsgNum + 1 - state.recvMsgNum = 1 := by omega
  have packed : HeaderOf (probe 0 (state.recvMsgNum + 1) (P.publicBytes own)) 0
      (state.recvMsgNum + 1) (P.publicBytes own) := headerOf_probe _ (by decide) number
  have closes (queue : List (PubBytes × Nat)) :
      (P.skipRecvChain state.dhPubRemote (state.recvMsgNum + 1)).run
          { state with skippedKeyOrder := queue } =
        (P.skipMessages pub 1).run { state with skippedKeyOrder := queue } := by
    have near : state.recvMsgNum + 1 - state.recvMsgNum ≤ maxSkipDistance := by
      rw [one]
      exact Nat.le_add_left 1 999
    have skips := P.skipRecvChain_run pub (state.recvMsgNum + 1) ck
      { state with skippedKeyOrder := queue } onChain.chain near
    rw [one] at skips
    exact (congrArg (fun remote => (P.skipRecvChain remote _).run _) onChain.remote).trans skips
  have lost := P.skipMessages_lost pub { state with skippedKeyOrder := [] } full onChain.chain rfl
  have leftRun := P.decrypt_run_new own packed [] { state with skippedKeyOrder := [] } differs
  rw [Call.run_bind_of_error ((closes []).trans lost)] at leftRun
  have evicts := P.skipMessages_evicts pub { state with skippedKeyOrder := oldest :: order }
    full onChain.chain rfl
  obtain ⟨turned, root, turnedOn, zero, _, turns⟩ := plentiful.turns
    { state with
      recvChainKey := some (P.hkdfCk (P.chainKey ck state.recvMsgNum)).1,
      recvMsgNum := state.recvMsgNum + 1,
      skippedKeys := (state.skippedKeys.erase oldest).set (pub, state.recvMsgNum)
        (P.hkdfCk (P.chainKey ck state.recvMsgNum)).2 } onChain.keyed own
  obtain ⟨after, _, _, _, opens⟩ := P.decryptOnChain_first
    (probe 0 (state.recvMsgNum + 1) (P.publicBytes own)) turned turnedOn zero
  have rightRun := P.decrypt_run_new own packed []
    { state with skippedKeyOrder := oldest :: order } differs
  rw [Call.run_bind_of_ok ((closes _).trans evicts), Call.run_bind_of_ok (turns _), opens]
    at rightRun
  have same := (alike.decrypt_reply leftRun rightRun).1
  cases same

/-- A thousand missed messages, then the state is stored and restored, then another
message is missed: the original goes on and the restored one raises. -/
theorem OnChain.restored_raises {state : RatchetState Priv Key} {pub : PubBytes} {ck : Key}
    (onChain : P.OnChain state pub ck) (zero : state.recvMsgNum = 0)
    (none : state.skippedKeys = .empty) (fresh later : Priv) (sealed : Nat → Bytes)
    (plaintext : Bytes)
    (opens : ∀ number object, (P.decryptWithKey (P.messageKey ck number) (sealed number)
      (probe number 0 pub)).run object = (.ok plaintext, object)) :
    ∃ filled, (P.decrypt fresh (probe 1000 0 pub) (sealed 1000)).run
        { state with skippedKeyOrder := [] } = (.ok plaintext, filled) ∧
      ((P.decrypt later (probe 1002 0 pub) (sealed 1002)).run filled).1 = .ok plaintext ∧
      ((P.decrypt later (probe 1002 0 pub) (sealed 1002)).run
        filled.serialize.deserialize).1 = .error .indexError := by
  have new (number : Nat) : state.skippedKeys.get? (pub, number) = .none := by
    rw [none, Dict.get?_empty]
  have room : state.skippedKeys.size + (999 + 1) = maxSkippedKeys := by
    rw [none, Dict.size_empty]
    rfl
  obtain ⟨filled, queued, onFilled, reached, full, _, beyond, fills⟩ :=
    onChain.fills 999 zero room new
  have packed : HeaderOf (probe 1000 0 pub) 1000 0 pub :=
    headerOf_probe pub (by decide) (by decide)
  have next : HeaderOf (probe 1002 0 pub) 1002 0 pub := headerOf_probe pub (by decide) (by decide)
  have distance : 1002 - filled.recvMsgNum = 1 := by omega
  have absent : filled.skippedKeys.get? (pub, 1002) = .none := beyond 1002 (by omega)
  have capped : maxSkippedKeys ≤ filled.skippedKeys.size := Nat.le_of_eq full.symm
  have key : (P.hkdfCk (P.hkdfCk (P.chainKey ck filled.recvMsgNum)).1).2 = P.messageKey ck 1002 := by
    rw [reached, P.chainKey_succ, messageKey]
  refine ⟨{ filled with skippedKeyOrder := (pub, 0) :: queued }, ?_, ?_, ?_⟩
  · rw [P.decrypt_run_same fresh packed _ { state with skippedKeyOrder := [] } onChain.remote]
    exact (fills [] _ _).trans (opens 1000 _)
  · have evicts := P.skipMessages_evicts pub
      { filled with skippedKeyOrder := (pub, 0) :: queued } capped onFilled.chain rfl
    rw [P.decrypt_run_same later next _ { filled with skippedKeyOrder := (pub, 0) :: queued }
      onFilled.remote, P.decryptOnChain_run _ _
      { filled with skippedKeyOrder := (pub, 0) :: queued } absent distance (by decide) evicts rfl,
      key, opens]
  · have lost := P.skipMessages_lost pub { filled with skippedKeyOrder := [] } capped
      onFilled.chain rfl
    rw [deserialize_serialize, P.decrypt_run_same later next _
      { filled with skippedKeyOrder := [] } onFilled.remote]
    simp only [decryptOnChain, Call.run_read_bind, absent, distance]
    rw [if_neg (by decide), Call.run_bind_of_error lost]

/-- With room in the store, the two states first evict different keys. -/
theorem Plentiful.room_differs (plentiful : P.Plentiful) {state : RatchetState Priv Key}
    (keyed : Keyed state) (room : state.skippedKeys.size < maxSkippedKeys)
    (oldest : PubBytes × Nat) (order : List (PubBytes × Nat)) :
    ¬ P.BehavesLike { state with skippedKeyOrder := [] }
      { state with skippedKeyOrder := oldest :: order } := by
  intro alike
  have cap : maxSkippedKeys = 1000 := rfl
  obtain ⟨own, outside⟩ := plentiful.outside
    (oldest.1 :: (state.dhPubRemote.toList ++ state.skippedKeys.keys.map Prod.fst)) (by
      have remotes : state.dhPubRemote.toList.length ≤ 1 := by
        cases state.dhPubRemote <;> simp
      have stored : (state.skippedKeys.keys.map Prod.fst).length = state.skippedKeys.size := by
        simp only [Dict.keys, List.length_map, Dict.size]
      simp only [List.length_cons, List.length_append, stored]
      omega)
  simp only [List.mem_cons, List.mem_append, Option.mem_toList, not_or] at outside
  obtain ⟨oldestApart, differs, unused⟩ := outside
  have new (number : Nat) : state.skippedKeys.get? (P.publicBytes own, number) = none := by
    rw [Dict.get?_eq_none_iff]
    exact fun member => unused (List.mem_map_of_mem member)
  obtain ⟨count, missing⟩ : ∃ count, state.skippedKeys.size + (count + 1) = maxSkippedKeys :=
    ⟨maxSkippedKeys - state.skippedKeys.size - 1, by omega⟩
  have number : count + 1 < 2 ^ 32 := by omega
  obtain ⟨turned, ck, onTurned, zero, same, turns⟩ :=
    plentiful.decrypt_turns keyed own differs (count + 1) number
  rw [← same] at missing new
  obtain ⟨filled, queued, onChain, reached, full, first, later, fills⟩ :=
    onTurned.fills count zero missing new
  have alike := alike.decrypt_step ((turns _).trans (fills _ _ [])) ((turns _).trans (fills _ _ []))
  have next : filled.recvMsgNum + 1 < 2 ^ 32 := by omega
  have absent : filled.skippedKeys.get? (P.publicBytes own, filled.recvMsgNum + 1) = none :=
    later (filled.recvMsgNum + 1) (by omega)
  obtain ⟨left, leftRun, leftKeys⟩ := onChain.decrypt_evicts own next (Nat.le_of_eq full.symm)
    absent (P.publicBytes own, 0) queued
  obtain ⟨right, rightRun, rightKeys⟩ := onChain.decrypt_evicts own next
    (Nat.le_of_eq full.symm) absent oldest (order ++ (P.publicBytes own, 0) :: queued)
  have agree := (alike.decrypt_reply leftRun rightRun).2
  have last : ((P.publicBytes own, 0) : PubBytes × Nat) ≠
      (P.publicBytes own, filled.recvMsgNum) := by
    intro equal
    have zero : 0 = filled.recvMsgNum := congrArg Prod.snd equal
    omega
  have apart : ((P.publicBytes own, 0) : PubBytes × Nat) ≠ oldest := by
    intro equal
    exact oldestApart (congrArg Prod.fst equal)
  have lost : left.skippedKeys.get? (P.publicBytes own, 0) = none := by
    rw [leftKeys, Dict.get?_set_of_ne _ _ last, Dict.get?_erase_self]
  rw [agree, rightKeys, Dict.get?_set_of_ne _ _ last, Dict.get?_erase_of_ne _ apart] at lost
  rw [lost] at first
  cases first

/-- A queue that is not empty makes a difference some day. -/
theorem Plentiful.queue_matters (plentiful : P.Plentiful) {state : RatchetState Priv Key}
    (keyed : Keyed state) (oldest : PubBytes × Nat) (order : List (PubBytes × Nat)) :
    ¬ P.BehavesLike { state with skippedKeyOrder := [] }
      { state with skippedKeyOrder := oldest :: order } := by
  by_cases room : state.skippedKeys.size < maxSkippedKeys
  · exact plentiful.room_differs keyed room oldest order
  · intro alike
    obtain ⟨own, differs⟩ : ∃ own, state.dhPubRemote ≠ some (P.publicBytes own) := by
      obtain ⟨own, outside⟩ := plentiful.outside state.dhPubRemote.toList (by
        cases state.dhPubRemote <;> simp)
      simp only [Option.mem_toList] at outside
      exact ⟨own, outside⟩
    obtain ⟨turned, ck, onTurned, zero, _, turns⟩ :=
      plentiful.decrypt_turns keyed own differs 0 (by decide)
    obtain ⟨after, onChain, low, _, opens⟩ := P.decryptOnChain_first
      (probe 0 0 (P.publicBytes own)) turned onTurned zero
    have alike := alike.decrypt_step ((turns _).trans (opens _)) ((turns _).trans (opens _))
    -- The packet may have used up a kept key, and with it made room for one.
    by_cases full : maxSkippedKeys ≤ after.skippedKeys.size
    · exact plentiful.full_store_differs onChain (by omega) full oldest order alike
    · exact plentiful.room_differs onChain.keyed (by omega) oldest order alike

end Primitives

/-- A restored state can be told from the state it was stored from exactly when the
eviction queue, which is not stored, was not empty. -/
theorem restored_behaves_alike_iff (P : Primitives Priv Dh Key) (plentiful : P.Plentiful)
    (state : RatchetState Priv Key) (reachable : P.side.Reachable (fun _ _ => True) state) :
    P.BehavesLike state.serialize.deserialize state ↔ state.skippedKeyOrder = [] := by
  constructor
  · intro alike
    cases queue : state.skippedKeyOrder with
    | nil => rfl
    | cons oldest order =>
        have queued : state.skippedKeyOrder ≠ [] := by
          rw [queue]
          exact List.cons_ne_nil oldest order
        have differs := plentiful.queue_matters (P.keyed_of_reachable reachable queued) oldest order
        rw [deserialize_serialize, ← queue] at *
        exact absurd alike differs
  · intro empty calls
    rw [(deserialize_serialize_eq_iff state).mpr empty]

/-- Primitives as simple as `toyPrimitives`, with a key pair for every public key. -/
def toyKeys : Primitives PubBytes PubBytes Bytes where
  publicBytes priv := priv
  exchange priv pub := some (Vector.zipWith (· + ·) priv pub)
  hkdf rk dhOut := (0 :: dhOut.toList ++ rk, 1 :: dhOut.toList ++ rk)
  hmac key message := message :: key
  aeadEncrypt key nonce plaintext header := key ++ nonce ++ header ++ plaintext
  aeadDecrypt key nonce ciphertext header :=
    if (key ++ nonce ++ header).isPrefixOf ciphertext then
      some (ciphertext.drop (key ++ nonce ++ header).length)
    else
      none

theorem toyKeys_opens (key nonce plaintext header : Bytes) :
    toyKeys.aeadDecrypt key nonce (toyKeys.aeadEncrypt key nonce plaintext header) header =
      some plaintext := by
  have inside : (key ++ nonce ++ header).isPrefixOf (key ++ nonce ++ header ++ plaintext) :=
    List.isPrefixOf_iff_prefix.mpr (List.prefix_append _ _)
  simp only [toyKeys, inside, ↓reduceIte, List.drop_left]

def toyPub (number : Nat) : PubBytes :=
  ⟨(packBE 32 number).toArray, by rw [List.size_toArray, packBE_length]⟩

theorem toyPub_injOn : Set.InjOn toyPub (Finset.range (maxSkippedKeys + 2)) := by
  have small (number : Nat) (member : number ∈ Finset.range (maxSkippedKeys + 2)) :
      unpackBE (toyPub number).toList = number := by
    have below : number < maxSkippedKeys + 2 := Finset.mem_range.mp member
    have cap : maxSkippedKeys = 1000 := rfl
    exact unpackBE_packBE 32 number (by omega)
  intro left leftMember right rightMember same
  rw [← small left leftMember, same, small right rightMember]

theorem toyKeys_plentiful : toyKeys.Plentiful where
  agrees _ _ := rfl
  outside pubs short := by
    by_contra every
    simp only [not_exists, not_not] at every
    have inside : (Finset.range (maxSkippedKeys + 2)).image toyPub ⊆ pubs.toFinset := by
      intro pub _
      exact List.mem_toFinset.mpr (every pub)
    have counted := Finset.card_le_card inside
    rw [Finset.card_image_of_injOn toyPub_injOn, Finset.card_range] at counted
    have distinct := pubs.toFinset_card_le
    omega

def toyAlice : PubBytes := toyPub 1

def toyChain : Bytes := (toyKeys.hkdf [7] (Vector.zipWith (· + ·) (toyPub 2) toyAlice)).2

/-- The ciphertext of a message on Alice's first chain. -/
def toySealed (number : Nat) (plaintext : Bytes) : Bytes :=
  toyNonce ++ toyKeys.aeadEncrypt (toyKeys.messageKey toyChain number) toyNonce plaintext
    (Primitives.probe number 0 toyAlice)

theorem toySealed_opens (number : Nat) (plaintext : Bytes)
    (state : RatchetState PubBytes Bytes) :
    (toyKeys.decryptWithKey (toyKeys.messageKey toyChain number) (toySealed number plaintext)
      (Primitives.probe number 0 toyAlice)).run state = (.ok plaintext, state) := by
  have size : toyNonce.length = xchacha20NonceSize := rfl
  apply toyKeys.decryptWithKey_run
  · rw [toySealed, List.length_append, size]
    exact Nat.le_add_right _ _
  · rw [toySealed, ← size, List.take_left, List.drop_left]
    exact toyKeys_opens _ _ _ _

def toyBob : RatchetState PubBytes Bytes :=
  toyKeys.side.apply {} (.setUp .bob (toyPub 2) toyAlice [7] none)

theorem toyBob_reachable : toyKeys.side.Reachable (fun _ _ => True) toyBob :=
  .step _ (.start rfl) trivial trivial

/-- Bob opens the third message of Alice's first chain, and is stored and loaded. -/
def toyStored : RatchetState PubBytes Bytes :=
  toyKeys.side.run toyBob [fun _ => .call (.decrypt (toyPub 3) (Primitives.probe 2 0 toyAlice)
    (toySealed 2 [5])), fun _ => .restore]

/-- He keeps two skipped keys without a queue, and storing him once more changes nothing. -/
theorem toyStored_behaves_alike :
    toyStored.skippedKeys.size = 2 ∧
    toyKeys.BehavesLike toyStored.serialize.deserialize toyStored := by
  have reachable : toyKeys.side.Reachable (fun _ _ => True) toyStored :=
    Machine.Reachable.run toyBob_reachable ⟨trivial, trivial, trivial, trivial, trivial⟩
  refine ⟨by decide +kernel, ?_⟩
  exact (restored_behaves_alike_iff toyKeys toyKeys_plentiful toyStored reachable).mpr rfl

/-- Bob misses the first thousand messages of Alice's first chain, and then one more. -/
theorem toyBob_restored_raises :
    ∃ filled, (toyKeys.decrypt (toyPub 3) (Primitives.probe 1000 0 toyAlice)
        (toySealed 1000 [5])).run toyBob = (.ok [5], filled) ∧
      toyKeys.side.Reachable (fun _ _ => True) filled ∧
      ((toyKeys.decrypt (toyPub 4) (Primitives.probe 1002 0 toyAlice) (toySealed 1002 [5])).run
        filled).1 = .ok [5] ∧
      ((toyKeys.decrypt (toyPub 4) (Primitives.probe 1002 0 toyAlice) (toySealed 1002 [5])).run
        filled.serialize.deserialize).1 = .error .indexError ∧
      ¬ toyKeys.BehavesLike filled.serialize.deserialize filled := by
  have onBob : toyKeys.OnChain toyBob toyAlice toyChain := ⟨rfl, rfl, rfl, rfl⟩
  obtain ⟨filled, taken, original, restored⟩ := onBob.restored_raises rfl rfl (toyPub 3)
    (toyPub 4) (fun number => toySealed number [5]) [5] fun number => toySealed_opens number [5]
  have reachable := toyKeys.reachable_decrypt toyBob_reachable taken
  refine ⟨filled, taken, reachable, original, restored, ?_⟩
  intro alike
  have agree := (alike.reply (.decrypt (toyPub 4) (Primitives.probe 1002 0 toyAlice)
    (toySealed 1002 [5]))).1
  simp only [Primitives.perform, Reply.opened.injEq] at agree
  rw [original, restored] at agree
  cases agree

end UltimateEnigma.DoubleRatchet
