import UltimateEnigma.DoubleRatchetFrames
import UltimateEnigma.KeySchedule
import UltimateEnigma.Py.Triple

set_option autoImplicit false

namespace UltimateEnigma.DoubleRatchet

open Py

variable {Priv Dh Key : Type}

/-- The message keys that wait for late messages. -/
def RatchetState.storedKeys (state : RatchetState Priv Key) : Set Key :=
  { mk | ∃ name, state.skippedKeys.get? name = some mk }

namespace Primitives

variable (P : Primitives Priv Dh Key)

/-- `decryptOnChain` up to the AEAD: the key that the ciphertext is opened under. -/
def selectKey (remotePub : PubBytes) (msgNum : Nat) :
    Call Raised (RatchetState Priv Key) Key := do
  let state ← Call.read
  match state.skippedKeys.get? (remotePub, msgNum) with
  | some skipKey =>
      Call.modify fun state =>
        { state with skippedKeys := state.skippedKeys.erase (remotePub, msgNum) }
      return skipKey
  | none =>
      if maxSkipDistance < msgNum - state.recvMsgNum then
        Call.raise (.valueError ("Skip distance " ++ toString (msgNum - state.recvMsgNum) ++
          " exceeds maximum " ++ toString maxSkipDistance))
      else do
        P.skipMessages remotePub (msgNum - state.recvMsgNum)
        let mk ← P.stepRecvChain
        Call.modify fun state => { state with recvMsgNum := state.recvMsgNum + 1 }
        return mk

theorem long_of_not_short {header : Bytes} (short : ¬ header.length < 40) : 40 ≤ header.length :=
  Nat.le_of_not_lt short

/-- `decrypt` up to the AEAD. -/
def decryptKey (fresh : Priv) (header : Bytes) : Call Raised (RatchetState Priv Key) Key :=
  if short : header.length < 40 then
    Call.raise (.valueError "Header too short")
  else do
    let remotePub := headerDhPub header (long_of_not_short short)
    let state ← Call.read
    if state.dhPubRemote = some remotePub then
      P.selectKey remotePub (headerMsgNum header)
    else do
      P.skipRecvChain state.dhPubRemote (headerPrevChainLen header)
      P.dhRatchetStep fresh remotePub
      P.selectKey remotePub (headerMsgNum header)

theorem decryptOnChain_eq (remotePub : PubBytes) (msgNum : Nat) (header ciphertext : Bytes) :
    P.decryptOnChain remotePub msgNum header ciphertext =
      P.selectKey remotePub msgNum >>= fun mk => P.decryptWithKey mk ciphertext header := by
  simp only [decryptOnChain, selectKey, bind_assoc]
  congr 1
  funext state
  cases state.skippedKeys.get? (remotePub, msgNum) with
  | some skipKey => simp only [bind_assoc, pure_bind]
  | none =>
      simp only
      split
      · rfl
      · simp only [bind_assoc, pure_bind]

/-- What `decrypt` does to the state is done when the key is chosen. -/
theorem decrypt_eq (fresh : Priv) (header ciphertext : Bytes) :
    P.decrypt fresh header ciphertext =
      P.decryptKey fresh header >>= fun mk => P.decryptWithKey mk ciphertext header := by
  by_cases short : header.length < 40
  · rw [decrypt, decryptKey, dif_pos short, dif_pos short]
    rfl
  have long : 40 ≤ header.length := Nat.le_of_not_lt short
  have packed : HeaderOf header (headerMsgNum header) (headerPrevChainLen header)
      (headerDhPub header long) := ⟨long, rfl, rfl, rfl⟩
  funext state
  show (P.decrypt fresh header ciphertext).run state =
    (P.decryptKey fresh header >>= fun mk => P.decryptWithKey mk ciphertext header).run state
  rw [decryptKey, dif_neg short]
  by_cases same : state.dhPubRemote = some (headerDhPub header long)
  · rw [P.decrypt_run_same fresh packed ciphertext state same, decryptOnChain_eq, bind_assoc,
      Call.run_read_bind, if_pos same]
  · rw [P.decrypt_run_new fresh packed ciphertext state same, decryptOnChain_eq, bind_assoc,
      Call.run_read_bind, if_neg same]
    simp only [bind_assoc]

/-- The key that `encrypt` passes to the AEAD, where it gets that far. -/
def sendingKey (fresh : Priv) (state : RatchetState Priv Key) : Option Key :=
  let started := if state.sendChainKey.isNone then ((P.startSendChain fresh).run state).2 else state
  started.sendChainKey.map fun ck => (P.hkdfCk ck).2

section Traces

variable (secret : Key)

/-- Where a chain key stands, if there is one. -/
inductive Marks : Option Key → Option Place → Prop where
  | missing : Marks none none
  | running {ck : Key} {place : Place} (chain : P.ChainAt secret ck place) :
      Marks (some ck) (some place)

/-- A message key of an allowed turn, from before the chain's present place. -/
def Past (levels : Set Nat) (now : Option Place) (mk : Key) : Prop :=
  ∃ place current, now = some current ∧ P.MessageAt secret mk place ∧ place.level ∈ levels ∧
    place.Before current

/-- `used` was taken from chains of the turns `levels` up to the present `ck`, whose turn
is at most `turn`. -/
def Used (levels : Set Nat) (turn : Nat) (ck : Option Key) (used : Set Key) : Prop :=
  ∃ now, P.Marks secret ck now ∧ (∀ place ∈ now, place.level ∈ levels ∧ place.level ≤ turn) ∧
    ∀ mk ∈ used, P.Past secret levels now mk

/-- The receiving side: the keys that were given out are on no chain still to come, and
not in the store either. -/
structure Received (levels : Set Nat) (turn : Nat) (spent : Set Key)
    (state : RatchetState Priv Key) : Prop where
  used : P.Used secret levels turn state.recvChainKey (spent ∪ state.storedKeys)
  apart : ∀ mk ∈ spent, mk ∉ state.storedKeys
  once : ∀ name other mk, state.skippedKeys.get? name = some mk →
    state.skippedKeys.get? other = some mk → name = other

/-- Both sides: `turn` root keys were derived, `sent` and `spent` are the message keys that
were used. -/
structure Traced (sends receives : Set Nat) (turn : Nat) (sent spent : Set Key)
    (state : RatchetState Priv Key) : Prop where
  root : ∀ rk, state.rootKey = some rk → P.RootAt secret rk turn
  send : P.Used secret sends turn state.sendChainKey sent
  received : P.Received secret receives turn spent state

end Traces

variable {P} {secret : Key} {levels : Set Nat} {turn : Nat} {ck : Option Key} {used : Set Key}

theorem Used.subset {fewer : Set Key} (trace : P.Used secret levels turn ck used)
    (subset : fewer ⊆ used) : P.Used secret levels turn ck fewer := by
  obtain ⟨now, chain, level, past⟩ := trace
  exact ⟨now, chain, level, fun mk member => past mk (subset member)⟩

theorem Used.later_turn {later : Nat} (trace : P.Used secret levels turn ck used)
    (order : turn ≤ later) : P.Used secret levels later ck used := by
  obtain ⟨now, chain, level, past⟩ := trace
  refine ⟨now, chain, ?_, past⟩
  intro place member
  obtain ⟨allowed, bound⟩ := level place member
  exact ⟨allowed, Nat.le_trans bound order⟩

/-- One message: its key is one that no earlier message had. -/
theorem Used.step {key : Key} (free : (P.keyTree secret).Free)
    (trace : P.Used secret levels turn (some key) used) :
    (P.hkdfCk key).2 ∉ used ∧
      P.Used secret levels turn (some (P.hkdfCk key).1) (insert (P.hkdfCk key).2 used) := by
  obtain ⟨now, chain, level, past⟩ := trace
  cases chain with
  | running chain =>
      rename_i place
      obtain ⟨allowed, bound⟩ := level place rfl
      constructor
      · intro member
        obtain ⟨earlier, current, same, message, _, before⟩ := past _ member
        cases same
        exact before.ne (message.unique free chain.message)
      · refine ⟨some place.next, .running chain.next, ?_, ?_⟩
        · intro next member
          obtain rfl := Option.mem_some_iff.mp member
          exact ⟨allowed, bound⟩
        · rintro mk (rfl | member)
          · exact ⟨place, place.next, rfl, chain.message, allowed, place.before_next⟩
          · obtain ⟨earlier, current, same, message, inside, before⟩ := past mk member
            cases same
            exact ⟨earlier, place.next, rfl, message, inside, before.trans place.before_next⟩

/-- A new chain, on a later turn than all before. -/
theorem Used.restart {key : Key} {later : Nat} (trace : P.Used secret levels turn ck used)
    (chain : P.ChainAt secret key ⟨later, 0⟩) (above : turn < later) (allowed : later ∈ levels) :
    P.Used secret levels later (some key) used := by
  obtain ⟨now, _, level, past⟩ := trace
  refine ⟨some ⟨later, 0⟩, .running chain, ?_, ?_⟩
  · intro place member
    obtain rfl := Option.mem_some_iff.mp member
    exact ⟨allowed, Nat.le_refl _⟩
  · intro mk member
    obtain ⟨earlier, current, same, message, inside, before⟩ := past mk member
    have bound := (level current same).2
    refine ⟨earlier, ⟨later, 0⟩, rfl, message, inside, Or.inl ?_⟩
    unfold Place.Before at before
    show earlier.level < later
    omega

theorem storedKeys_erase_subset (state : RatchetState Priv Key) (name : PubBytes × Nat)
    (order : List (PubBytes × Nat)) :
    RatchetState.storedKeys { state with
      skippedKeys := state.skippedKeys.erase name, skippedKeyOrder := order } ⊆
        state.storedKeys := by
  rintro mk ⟨other, found⟩
  refine ⟨other, ?_⟩
  rw [Dict.get?_erase] at found
  split at found
  · cases found
  · exact found

section Receiving

variable {spent : Set Key} {state : RatchetState Priv Key}

theorem Received.subset {fewer : Set Key} (received : P.Received secret levels turn spent state)
    (subset : fewer ⊆ spent) : P.Received secret levels turn fewer state :=
  ⟨received.used.subset (Set.union_subset_union_left _ subset),
    fun mk member => received.apart mk (subset member), received.once⟩

theorem Received.later_turn {later : Nat} (received : P.Received secret levels turn spent state)
    (order : turn ≤ later) : P.Received secret levels later spent state :=
  ⟨received.used.later_turn order, received.apart, received.once⟩

/-- An eviction. -/
theorem Received.erase (received : P.Received secret levels turn spent state)
    (name : PubBytes × Nat) (order : List (PubBytes × Nat)) :
    P.Received secret levels turn spent { state with
      skippedKeys := state.skippedKeys.erase name, skippedKeyOrder := order } := by
  have fewer := storedKeys_erase_subset state name order
  refine ⟨received.used.subset (Set.union_subset_union_right _ fewer), ?_, ?_⟩
  · intro mk member stored
    exact received.apart mk member (fewer stored)
  · intro name₁ name₂ mk first second
    simp only [Dict.get?_erase] at first second
    split at first
    · cases first
    · split at second
      · cases second
      · exact received.once name₁ name₂ mk first second

/-- A key taken out of the store is one that no earlier message had. -/
theorem Received.take {name : PubBytes × Nat} {mk : Key}
    (received : P.Received secret levels turn spent state)
    (found : state.skippedKeys.get? name = some mk) :
    mk ∉ spent ∧ P.Received secret levels turn (insert mk spent)
      { state with skippedKeys := state.skippedKeys.erase name } := by
  have erased := received.erase name state.skippedKeyOrder
  refine ⟨fun member => received.apart mk member ⟨name, found⟩, ?_, ?_, erased.once⟩
  · refine received.used.subset ?_
    rintro other (member | stored)
    · rcases member with rfl | member
      · exact Or.inr ⟨name, found⟩
      · exact Or.inl member
    · exact Or.inr (storedKeys_erase_subset state name state.skippedKeyOrder stored)
  · rintro other (rfl | member) ⟨place, stored⟩
    · rw [Dict.get?_erase] at stored
      split at stored
      · cases stored
      · rename_i apart
        exact apart (received.once _ _ _ stored found)
    · exact erased.apart other member ⟨place, stored⟩

/-- A key in hand, under a name of its own or in the place of another. -/
theorem Received.store {mk : Key} (received : P.Received secret levels turn (insert mk spent) state)
    (unspent : mk ∉ spent) (name : PubBytes × Nat) (order : List (PubBytes × Nat)) :
    P.Received secret levels turn spent { state with
      skippedKeys := state.skippedKeys.set name mk, skippedKeyOrder := order } := by
  have source : ∀ other found, (state.skippedKeys.set name mk).get? other = some found →
      other = name ∧ found = mk ∨ other ≠ name ∧ state.skippedKeys.get? other = some found := by
    intro other found
    rw [Dict.get?_set]
    split
    · rename_i same
      intro equal
      cases equal
      exact Or.inl ⟨same, rfl⟩
    · rename_i apart
      exact fun present => Or.inr ⟨apart, present⟩
  have absent : mk ∉ state.storedKeys := received.apart mk (Set.mem_insert mk spent)
  refine ⟨received.used.subset ?_, ?_, ?_⟩
  · rintro other (member | ⟨place, found⟩)
    · exact Or.inl (Set.mem_insert_of_mem mk member)
    · rcases source place other found with ⟨_, rfl⟩ | ⟨_, present⟩
      · exact Or.inl (Set.mem_insert _ _)
      · exact Or.inr ⟨place, present⟩
  · rintro other member ⟨place, found⟩
    rcases source place other found with ⟨_, rfl⟩ | ⟨_, present⟩
    · exact unspent member
    · exact received.apart other (Set.mem_insert_of_mem mk member) ⟨place, present⟩
  · intro first second found atFirst atSecond
    rcases source first found atFirst with ⟨rfl, rfl⟩ | ⟨_, here⟩
    · rcases source second _ atSecond with ⟨rfl, _⟩ | ⟨_, there⟩
      · rfl
      · exact absurd ⟨second, there⟩ absent
    · rcases source second found atSecond with ⟨_, rfl⟩ | ⟨_, there⟩
      · exact absurd ⟨first, here⟩ absent
      · exact received.once first second found here there

variable (P)

theorem stepRecvChain_received (free : (P.keyTree secret).Free) (spent : Set Key) :
    P.stepRecvChain.Ensures (P.Received secret levels turn spent)
      (fun mk after => P.Received secret levels turn (insert mk spent) after ∧ mk ∉ spent)
      (P.Received secret levels turn spent) := by
  apply Call.ensures_read_bind
  intro state received
  apply Call.ensures_bind fun ck object => object = state ∧ state.recvChainKey = some ck
  · exact Call.ensures_require (fun ck found object same => ⟨same, found⟩)
      (fun object same => same ▸ received)
  · intro ck
    rintro _ ⟨rfl, chain⟩
    have trace := received.used
    rw [chain] at trace
    obtain ⟨unused, next⟩ := trace.step free
    have unspent : (P.hkdfCk ck).2 ∉ spent := fun member => unused (Or.inl member)
    refine ⟨⟨?_, ?_, received.once⟩, unspent⟩
    · rw [Set.insert_union]
      exact next
    · rintro mk (rfl | member)
      · exact fun stored => unused (Or.inr stored)
      · exact received.apart mk member

theorem storeSkippedKey_received (spent : Set Key) (name : PubBytes × Nat) (mk : Key) :
    (storeSkippedKey name mk).Ensures
      (fun state => P.Received secret levels turn (insert mk spent) state ∧ mk ∉ spent)
      (fun _ => P.Received secret levels turn spent) (P.Received secret levels turn spent) := by
  have store : (Call.modify fun state : RatchetState Priv Key =>
      { state with
        skippedKeys := state.skippedKeys.set name mk,
        skippedKeyOrder := state.skippedKeyOrder ++ [name] } :
      Call Raised (RatchetState Priv Key) Unit).Ensures
      (fun state => P.Received secret levels turn (insert mk spent) state ∧ mk ∉ spent)
      (fun _ => P.Received secret levels turn spent) (P.Received secret levels turn spent) :=
    Call.ensures_modify fun state holds => holds.1.store holds.2 name _
  apply Call.ensures_read_bind
  rintro state ⟨received, unspent⟩
  split
  · cases state.skippedKeyOrder with
    | nil =>
        apply Call.ensures_raise
        rintro _ rfl
        exact received.subset (Set.subset_insert mk spent)
    | cons oldest order =>
        apply Call.ensures_bind _ _ fun _ => store
        apply Call.ensures_modify
        rintro _ rfl
        exact ⟨received.erase oldest order, unspent⟩
  · rintro _ rfl
    exact store _ ⟨received, unspent⟩

theorem skipMessages_received (free : (P.keyTree secret).Free) (spent : Set Key)
    (remotePub : PubBytes) (count : Nat) :
    (P.skipMessages remotePub count).Ensures (P.Received secret levels turn spent)
      (fun _ => P.Received secret levels turn spent) (P.Received secret levels turn spent) := by
  induction count with
  | zero => exact Call.ensures_pure fun _ received => received
  | succ count ih =>
      apply Call.ensures_bind _ (P.stepRecvChain_received free spent)
      intro mk
      apply Call.ensures_read_bind
      intro state holds
      apply Call.ensures_bind fun _ => P.Received secret levels turn spent
      · rintro _ rfl
        exact P.storeSkippedKey_received spent _ mk _ holds
      · intro _
        apply Call.ensures_bind fun _ => P.Received secret levels turn spent
        · exact Call.ensures_modify fun state received =>
            ⟨received.used, received.apart, received.once⟩
        · exact fun _ => ih

theorem skipRecvChain_received (free : (P.keyTree secret).Free) (spent : Set Key)
    (remotePub : Option PubBytes) (bound : Nat) :
    (P.skipRecvChain remotePub bound).Ensures (P.Received secret levels turn spent)
      (fun _ => P.Received secret levels turn spent) (P.Received secret levels turn spent) := by
  apply Call.ensures_read_bind
  intro state received
  split
  · split
    · rintro _ rfl
      exact received
    · rintro _ rfl
      exact P.skipMessages_received free spent _ _ _ received
  · rintro _ rfl
    exact received

/-- From the store or from the chain, the chosen key is one that no earlier message had. -/
theorem selectKey_received (free : (P.keyTree secret).Free) (spent : Set Key)
    (remotePub : PubBytes) (msgNum : Nat) :
    (P.selectKey remotePub msgNum).Ensures (P.Received secret levels turn spent)
      (fun mk after => P.Received secret levels turn (insert mk spent) after ∧ mk ∉ spent)
      (P.Received secret levels turn spent) := by
  apply Call.ensures_read_bind
  intro state received
  cases found : state.skippedKeys.get? (remotePub, msgNum) with
  | some skipKey =>
      rintro _ rfl
      obtain ⟨unspent, taken⟩ := received.take found
      exact ⟨taken, unspent⟩
  | none =>
      simp only
      split
      · rintro _ rfl
        exact received
      · apply Call.ensures_bind fun _ => P.Received secret levels turn spent
        · rintro _ rfl
          exact P.skipMessages_received free spent _ _ _ received
        · intro _
          apply Call.ensures_bind _ (P.stepRecvChain_received free spent)
          intro mk
          rintro after ⟨received, unspent⟩
          exact ⟨⟨received.used, received.apart, received.once⟩, unspent⟩

end Receiving

theorem selectKey_keeps_turn (remotePub : PubBytes) (msgNum : Nat) :
    (P.selectKey remotePub msgNum).Keeps RatchetState.turn := by
  apply Call.keeps_bind Call.keeps_read
  intro state
  cases state.skippedKeys.get? (remotePub, msgNum) with
  | some skipKey =>
      exact Call.keeps_bind (Call.keeps_modify fun _ => rfl) fun _ => Call.keeps_pure _
  | none =>
      apply Call.keeps_ite (Call.keeps_raise _)
      refine Call.keeps_bind (P.skipMessages_keeps_turn _ _) fun _ => ?_
      refine Call.keeps_bind (P.stepRecvChain_keeps _ fun _ _ => rfl) fun mk => ?_
      exact Call.keeps_bind (Call.keeps_modify fun _ => rfl) fun _ => Call.keeps_pure _

section Tracing

variable {sends receives : Set Nat} {sent spent : Set Key} {state : RatchetState Priv Key}

/-- A call on the receiving side leaves what is known of the sending side. -/
theorem Traced.of_turn {after : RatchetState Priv Key} {later : Set Key}
    (traced : P.Traced secret sends receives turn sent spent state)
    (same : after.turn = state.turn)
    (received : P.Received secret receives turn later after) :
    P.Traced secret sends receives turn sent later after := by
  have root : after.rootKey = state.rootKey := congrArg Turn.rootKey same
  have chain : after.sendChainKey = state.sendChainKey := congrArg Turn.sendChainKey same
  refine ⟨?_, ?_, received⟩
  · rw [root]
    exact traced.root
  · rw [chain]
    exact traced.send

theorem selectKey_traced (free : (P.keyTree secret).Free) (remotePub : PubBytes) (msgNum : Nat)
    (traced : P.Traced secret sends receives turn sent spent state) :
    (P.selectKey remotePub msgNum).Ensures (· = state)
      (fun mk after => mk ∉ spent ∧ after.turn = state.turn ∧
        P.Traced secret sends receives turn sent (insert mk spent) after)
      (fun after => after.turn = state.turn ∧
        P.Traced secret sends receives turn sent spent after) := by
  have received : (P.selectKey remotePub msgNum).Ensures (P.Received secret receives turn spent)
      _ _ := P.selectKey_received free spent remotePub msgNum
  apply (received.keeping (P.selectKey_keeps_turn remotePub msgNum) (· = state.turn)).weaken
  · rintro _ rfl
    exact ⟨traced.received, rfl⟩
  · rintro mk after ⟨⟨received, unspent⟩, kept⟩
    exact ⟨unspent, kept, traced.of_turn kept received⟩
  · rintro after ⟨received, kept⟩
    exact ⟨kept, traced.of_turn kept received⟩

theorem skipRecvChain_traced (free : (P.keyTree secret).Free) (remotePub : Option PubBytes)
    (bound : Nat) (traced : P.Traced secret sends receives turn sent spent state) :
    (P.skipRecvChain remotePub bound).Ensures (· = state)
      (fun _ after => after.turn = state.turn ∧
        P.Traced secret sends receives turn sent spent after)
      (fun after => after.turn = state.turn ∧
        P.Traced secret sends receives turn sent spent after) := by
  have received : (P.skipRecvChain remotePub bound).Ensures
      (P.Received secret receives turn spent) _ _ := P.skipRecvChain_received free spent _ _
  apply (received.keeping (P.skipRecvChain_keeps_turn remotePub bound) (· = state.turn)).weaken
  · rintro _ rfl
    exact ⟨traced.received, rfl⟩
  · rintro _ after ⟨received, kept⟩
    exact ⟨kept, traced.of_turn kept received⟩
  · rintro after ⟨received, kept⟩
    exact ⟨kept, traced.of_turn kept received⟩

/-- The counters, the key pairs and the order of the store play no part. -/
theorem Traced.of_keys {after : RatchetState Priv Key}
    (traced : P.Traced secret sends receives turn sent spent state)
    (root : after.rootKey = state.rootKey) (send : after.sendChainKey = state.sendChainKey)
    (receive : after.recvChainKey = state.recvChainKey)
    (stored : after.skippedKeys = state.skippedKeys) :
    P.Traced secret sends receives turn sent spent after := by
  refine ⟨root ▸ traced.root, send ▸ traced.send, ?_, ?_, stored ▸ traced.received.once⟩
  · rw [receive, RatchetState.storedKeys, stored]
    exact traced.received.used
  · rw [RatchetState.storedKeys, stored]
    exact traced.received.apart

/-- A turn of the ratchet: it starts a receiving chain and a sending chain, on the next two
turns of the schedule. It stays half done where the new key pair agrees on nothing. -/
theorem dhRatchetStep_traced (fresh : Priv) (remotePub : PubBytes)
    (receiving : turn + 1 ∈ receives) (sending : turn + 2 ∈ sends)
    (traced : P.Traced secret sends receives turn sent spent state) :
    (P.dhRatchetStep fresh remotePub).Ensures (· = state)
      (fun _ after => P.Traced secret sends receives (turn + 2) sent spent after)
      (fun after => after = state ∨ P.exchange fresh remotePub = none ∧
        P.Traced secret sends receives (turn + 1) sent spent after) := by
  rintro _ rfl
  rename_i state
  rw [dhRatchetStep, Call.run_read_bind]
  cases own : state.dhPriv with
  | none => exact Or.inl rfl
  | some priv =>
      cases agreed : P.exchange priv remotePub with
      | none =>
          simp only [exchangeOn, Call.run_bind, Call.run_require_some, agreed, Call.run_require_none]
          exact Or.inl trivial
      | some dhOut =>
          rw [Call.run_bind_of_ok (P.exchangeOn_run agreed state)]
          cases found : state.rootKey with
          | none => exact Or.inl rfl
          | some rk =>
              have root := traced.root rk found
              have received : P.Received secret receives (turn + 1) spent
                  { state with recvChainKey := some (P.hkdfRk rk dhOut).2 } :=
                ⟨traced.received.used.restart (root.chain dhOut) (Nat.lt_succ_self _) receiving,
                  traced.received.apart, traced.received.once⟩
              rw [Call.run_require_bind, Call.run_modify_bind]
              cases agreed2 : P.exchange fresh remotePub with
              | none =>
                  simp only [exchangeOn, Call.run_bind, Call.run_require_some, agreed2,
                    Call.run_require_none]
                  refine Or.inr ⟨trivial, ?_, traced.send.later_turn (Nat.le_succ _),
                    received.used, received.apart, received.once⟩
                  intro rk' same
                  cases same
                  exact root.root dhOut
              | some dhOut2 =>
                  have next := root.root dhOut
                  rw [Call.run_bind_of_ok (P.exchangeOn_run agreed2 _), Call.run_modify]
                  refine ⟨?_, ?_, ?_⟩
                  · intro rk' same
                    cases same
                    exact next.root dhOut2
                  · exact traced.send.restart (next.chain dhOut2) (by omega) sending
                  · have later := received.later_turn (Nat.le_succ (turn + 1))
                    exact ⟨later.used, later.apart, later.once⟩

/-- The chain that a first answer starts is on the next turn of the schedule. -/
theorem startSendChain_traced (fresh : Priv) (sending : turn + 1 ∈ sends)
    (traced : P.Traced secret sends receives turn sent spent state) :
    (P.startSendChain fresh).Ensures (· = state)
      (fun _ after => P.Traced secret sends receives (turn + 1) sent spent after)
      (fun after => P.Traced secret sends receives turn sent spent after ∧
        after.sendChainKey = state.sendChainKey) := by
  rintro _ rfl
  rename_i state
  rw [startSendChain, Call.run_read_bind]
  cases remote : state.dhPubRemote with
  | none => exact ⟨traced, rfl⟩
  | some pub =>
      rw [Call.run_require_bind, Call.run_modify_bind]
      have received := traced.received
      cases agreed : P.exchange fresh pub with
      | none =>
          simp only [exchangeOn, Call.run_bind, Call.run_require_some, agreed, Call.run_require_none]
          exact ⟨traced.of_keys rfl rfl rfl rfl, trivial⟩
      | some dhOut =>
          rw [Call.run_bind_of_ok (P.exchangeOn_run agreed _)]
          cases found : state.rootKey with
          | none => exact ⟨traced.of_keys found.symm rfl rfl rfl, rfl⟩
          | some rk =>
              have root := traced.root rk found
              have later := received.later_turn (Nat.le_succ turn)
              rw [Call.run_require_bind, Call.run_modify]
              refine ⟨?_, ?_, later.used, later.apart, later.once⟩
              · intro rk' same
                cases same
                exact root.root dhOut
              · exact traced.send.restart (root.chain dhOut) (Nat.lt_succ_self _) sending

/-- One message sent: its key is one that no earlier message had. -/
theorem Traced.step {key : Key} (free : (P.keyTree secret).Free)
    (traced : P.Traced secret sends receives turn sent spent state)
    (chain : state.sendChainKey = some key) :
    (P.hkdfCk key).2 ∉ sent ∧
      P.Traced secret sends receives turn (insert (P.hkdfCk key).2 sent) spent
        { state with sendChainKey := some (P.hkdfCk key).1 } := by
  have trace := traced.send
  rw [chain] at trace
  obtain ⟨unused, next⟩ := trace.step free
  have received := traced.received
  exact ⟨unused, traced.root, next, received.used, received.apart, received.once⟩

theorem Traced.forget {earlier given : Set Key}
    (traced : P.Traced secret sends receives turn sent spent state)
    (fewerSent : earlier ⊆ sent) (fewerSpent : given ⊆ spent) :
    P.Traced secret sends receives turn earlier given state :=
  ⟨traced.root, traced.send.subset fewerSent, traced.received.subset fewerSpent⟩

/-- How a decryption moves one side along the schedule: not at all, or by a whole turn. -/
def Moved (fresh : Priv) (header : Bytes) (turn later : Nat)
    (state after : RatchetState Priv Key) : Prop :=
  later = turn ∧ after.turn = state.turn ∨
    ∃ long : 40 ≤ header.length, state.dhPubRemote ≠ some (headerDhPub header long) ∧
      later = turn + 2 ∧ after.dhPriv = some fresh ∧ after.sendMsgNum = 0 ∧
      after.sendChainKey.isSome

/-- The turn of a decryption that stopped between its two halves. -/
def Halted (fresh : Priv) (header : Bytes) (turn later : Nat) : Prop :=
  later = turn + 1 ∧ ∃ long : 40 ≤ header.length, P.exchange fresh (headerDhPub header long) = none

/-- Every choice of a key: it is one that no earlier message had, also where the packet
turns the ratchet first. -/
theorem decryptKey_traced (free : (P.keyTree secret).Free) (fresh : Priv) (header : Bytes)
    (traced : P.Traced secret sends receives turn sent spent state)
    (turns : (∃ long, state.dhPubRemote ≠ some (headerDhPub header long)) →
      turn + 1 ∈ receives ∧ turn + 2 ∈ sends) :
    (P.decryptKey fresh header).Ensures (· = state)
      (fun mk after => mk ∉ spent ∧ ∃ later, Moved fresh header turn later state after ∧
        P.Traced secret sends receives later sent (insert mk spent) after)
      (fun after => ∃ later, (Moved fresh header turn later state after ∨
          P.Halted fresh header turn later) ∧
        P.Traced secret sends receives later sent spent after) := by
  by_cases short : header.length < 40
  · rw [decryptKey, dif_pos short]
    rintro _ rfl
    exact ⟨turn, Or.inl (Or.inl ⟨rfl, rfl⟩), traced⟩
  have long : 40 ≤ header.length := Nat.le_of_not_lt short
  rw [decryptKey, dif_neg short]
  apply Call.ensures_read_bind
  rintro _ rfl
  rename_i state
  by_cases same : state.dhPubRemote = some (headerDhPub header long)
  · rw [if_pos same]
    apply (P.selectKey_traced free _ _ traced).weaken (fun _ => id)
    · rintro mk after ⟨unspent, kept, traced⟩
      exact ⟨unspent, turn, Or.inl ⟨rfl, kept⟩, traced⟩
    · rintro after ⟨kept, traced⟩
      exact ⟨turn, Or.inl (Or.inl ⟨rfl, kept⟩), traced⟩
  · rw [if_neg same]
    obtain ⟨receiving, sending⟩ := turns ⟨long, same⟩
    apply Call.ensures_bind fun _ middle => middle.turn = state.turn ∧
      P.Traced secret sends receives turn sent spent middle
    · apply (P.skipRecvChain_traced free _ _ traced).weaken (fun _ => id) (fun _ _ => id)
      rintro middle ⟨kept, traced⟩
      exact ⟨turn, Or.inl (Or.inl ⟨rfl, kept⟩), traced⟩
    · intro _
      apply Call.ensures_bind fun _ turned =>
        P.Traced secret sends receives (turn + 2) sent spent turned ∧ turned.dhPriv = some fresh ∧
          turned.sendMsgNum = 0 ∧ turned.sendChainKey.isSome
      · rintro middle ⟨kept, traced⟩
        have step := dhRatchetStep_traced fresh (headerDhPub header long) receiving sending
          traced middle rfl
        cases outcome : (P.dhRatchetStep fresh (headerDhPub header long)).run middle with
        | mk result turned =>
            rw [outcome] at step
            cases result with
            | ok _ =>
                obtain ⟨_, own, counter, chain⟩ := P.dhRatchetStep_ok fresh _ outcome
                exact ⟨step, own, counter, chain⟩
            | error raised =>
                rcases step with rfl | ⟨disagree, halfway⟩
                · exact ⟨turn, Or.inl (Or.inl ⟨rfl, kept⟩), traced⟩
                · exact ⟨turn + 1, Or.inr ⟨rfl, long, disagree⟩, halfway⟩
      · intro _
        rintro turned ⟨traced, own, counter, chain⟩
        have moved : ∀ after : RatchetState Priv Key, after.turn = turned.turn →
            Moved fresh header turn (turn + 2) state after := by
          intro after kept
          have keptOwn : after.dhPriv = turned.dhPriv := congrArg Turn.dhPriv kept
          have keptCounter : after.sendMsgNum = turned.sendMsgNum := congrArg Turn.sendMsgNum kept
          have keptChain : after.sendChainKey = turned.sendChainKey :=
            congrArg Turn.sendChainKey kept
          exact Or.inr ⟨long, same, rfl, keptOwn.trans own, keptCounter.trans counter,
            keptChain ▸ chain⟩
        refine (P.selectKey_traced free _ _ traced).weaken (fun _ => id) ?_ ?_ turned rfl
        · rintro mk after ⟨unspent, kept, traced⟩
          exact ⟨unspent, turn + 2, moved after kept, traced⟩
        · rintro after ⟨kept, traced⟩
          exact ⟨turn + 2, Or.inl (moved after kept), traced⟩

end Tracing

section Sending

variable {fresh : Priv} {nonce plaintext : Bytes} {state after : RatchetState Priv Key}
  {result : Except Raised (Bytes × Bytes)}

/-- What an encryption does on a chain it finds, whether or not the counters fit the header. -/
theorem encryptOnChain_outcome {key : Key} (chain : state.sendChainKey = some key)
    (outcome : (P.encryptOnChain nonce plaintext).run state = (result, after)) :
    (∃ raised, result = .error raised ∧
        after = { state with sendChainKey := some (P.hkdfCk key).1 }) ∨
      ∃ priv header, state.dhPriv = some priv ∧
        packHeader state.sendMsgNum state.prevSendChainLen (P.publicBytes priv) = .ok header ∧
        result = .ok (header, nonce ++ P.aeadEncrypt (P.hkdfCk key).2 nonce plaintext header) ∧
        after = { state with
          sendChainKey := some (P.hkdfCk key).1, sendMsgNum := state.sendMsgNum + 1 } := by
  rw [encryptOnChain, Call.run_read_bind, chain, Call.run_require_bind, Call.run_modify_bind]
    at outcome
  cases own : state.dhPriv with
  | none =>
      rw [own] at outcome
      cases outcome
      exact Or.inl ⟨.attributeError, rfl, rfl⟩
  | some priv =>
      rw [own, Call.run_require_bind] at outcome
      split at outcome
      · rename_i raised packed
        cases outcome
        exact Or.inl ⟨raised, rfl, rfl⟩
      · rename_i header packed
        cases outcome
        exact Or.inr ⟨priv, header, rfl, packed, rfl, rfl⟩

/-- An encryption uses the chain at hand or starts one, or fails to start one. -/
theorem encrypt_outcome (outcome : (P.encrypt fresh nonce plaintext).run state = (result, after)) :
    (∃ middle key, middle.sendChainKey = some key ∧
        P.sendingKey fresh state = some (P.hkdfCk key).2 ∧
        (P.encryptOnChain nonce plaintext).run middle = (result, after) ∧
        (middle = state ∨ state.sendChainKey = none ∧
          (P.startSendChain fresh).run state = (.ok (), middle))) ∨
      ∃ raised, result = .error raised ∧ state.sendChainKey = none ∧
        (P.startSendChain fresh).run state = (.error raised, after) := by
  cases chain : state.sendChainKey with
  | some key =>
      rw [P.encrypt_run_ready fresh nonce plaintext key state chain] at outcome
      refine Or.inl ⟨state, key, chain, ?_, outcome, Or.inl rfl⟩
      simp only [sendingKey, chain, Option.isNone_some, Bool.false_eq_true, ↓reduceIte,
        Option.map_some]
  | none =>
      cases started : (P.startSendChain fresh).run state with
      | mk reply middle =>
          cases reply with
          | ok _ =>
              rw [P.encrypt_run_start fresh nonce plaintext state middle chain started] at outcome
              obtain ⟨_, _, present⟩ := P.startSendChain_ok fresh started
              obtain ⟨key, found⟩ := Option.isSome_iff_exists.mp present
              refine Or.inl ⟨middle, key, found, ?_, outcome, Or.inr ⟨rfl, rfl⟩⟩
              simp only [sendingKey, chain, Option.isNone_none, ↓reduceIte, started, found,
                Option.map_some]
          | error raised =>
              simp only [encrypt, Call.run_read_bind, chain, Option.isNone_none, ↓reduceIte]
                at outcome
              rw [Call.run_bind_of_error started] at outcome
              cases outcome
              exact Or.inr ⟨raised, rfl, rfl, rfl⟩

/-- An encryption stays on its chain or starts one on the next turn, and its key is one
that no earlier message had. -/
theorem encrypt_traced {sends receives : Set Nat} {sent spent : Set Key}
    (free : (P.keyTree secret).Free)
    (traced : P.Traced secret sends receives turn sent spent state)
    (starts : state.sendChainKey = none → turn + 1 ∈ sends)
    (outcome : (P.encrypt fresh nonce plaintext).run state = (result, after)) :
    ∃ later, (later = turn ∧ after.sendChainKey.isSome = state.sendChainKey.isSome ∨
        later = turn + 1 ∧ state.sendChainKey = none ∧ after.sendChainKey.isSome) ∧
      match result with
      | .ok (header, ciphertext) => ∃ mk, P.sendingKey fresh state = some mk ∧ mk ∉ sent ∧
          ciphertext = nonce ++ P.aeadEncrypt mk nonce plaintext header ∧
          P.Traced secret sends receives later (insert mk sent) spent after
      | .error _ => P.Traced secret sends receives later sent spent after := by
  rcases encrypt_outcome outcome with
    ⟨middle, key, chain, selected, onChain, source⟩ | ⟨raised, rfl, missing, failed⟩
  · have begun : ∃ later, (later = turn ∧ state.sendChainKey.isSome ∨
        later = turn + 1 ∧ state.sendChainKey = none) ∧
        P.Traced secret sends receives later sent spent middle := by
      rcases source with rfl | ⟨missing, started⟩
      · exact ⟨turn, Or.inl ⟨rfl, by rw [chain, Option.isSome_some]⟩, traced⟩
      · exact ⟨turn + 1, Or.inr ⟨rfl, missing⟩,
          (startSendChain_traced fresh (starts missing) traced).ok rfl started⟩
    obtain ⟨later, moved, middleTraced⟩ := begun
    obtain ⟨unused, stepped⟩ := middleTraced.step free chain
    have running : after.sendChainKey = some (P.hkdfCk key).1 := by
      rcases encryptOnChain_outcome chain onChain with ⟨_, _, rfl⟩ | ⟨_, _, _, _, _, rfl⟩ <;> rfl
    refine ⟨later, ?_, ?_⟩
    · rw [running, Option.isSome_some]
      rcases moved with ⟨same, present⟩ | ⟨next, missing⟩
      · exact Or.inl ⟨same, present.symm⟩
      · exact Or.inr ⟨next, missing, rfl⟩
    · rcases encryptOnChain_outcome chain onChain with
        ⟨raised, rfl, rfl⟩ | ⟨priv, header, own, packed, rfl, rfl⟩
      · exact (stepped.forget (Set.subset_insert _ _) (Set.Subset.refl _))
      · exact ⟨_, selected, unused, rfl, stepped.of_keys rfl rfl rfl rfl⟩
  · obtain ⟨kept, same⟩ := (startSendChain_traced fresh (starts missing) traced).error rfl failed
    exact ⟨turn, Or.inl ⟨rfl, by rw [same]⟩, kept⟩

end Sending

end Primitives

end UltimateEnigma.DoubleRatchet
