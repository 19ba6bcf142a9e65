import UltimateEnigma.Alternation

set_option autoImplicit false

namespace UltimateEnigma.DoubleRatchet

open Py

variable {Priv Dh Key : Type}

/-- The pair that a header carries. -/
def SentMessage.name (message : SentMessage Key) : Option PubBytes × Nat :=
  (headerPub message.header, headerMsgNum message.header)

namespace Primitives

theorem Used.apart {P : Primitives Priv Dh Key} {secret : Key} {levels others : Set Nat}
    {turn other : Nat} {ck ck' : Option Key} {used used' : Set Key}
    (free : (P.keyTree secret).Free) (disjoint : ∀ level, level ∈ levels → level ∉ others)
    (left : P.Used secret levels turn ck used) (right : P.Used secret others other ck' used') :
    ∀ mk ∈ used, mk ∉ used' := by
  obtain ⟨_, _, _, leftPast⟩ := left
  obtain ⟨_, _, _, rightPast⟩ := right
  intro mk member member'
  obtain ⟨place, _, _, message, inside, _⟩ := leftPast mk member
  obtain ⟨place', _, _, message', inside', _⟩ := rightPast mk member'
  rw [message.unique free message'] at inside
  exact disjoint _ inside inside'

/-- The public key that a side with a sending chain puts in its headers. -/
def sendPub (P : Primitives Priv Dh Key) (state : RatchetState Priv Key) : Option PubBytes :=
  if state.sendChainKey.isSome then state.dhPriv.map P.publicBytes else none

/-- The numbers under each public key: the messages under a side's present key are its own,
and numbered below its counter. -/
structure Numbered (P : Primitives Priv Dh Key) (state : Party → RatchetState Priv Key)
    (held : List PubBytes) (sent : List (SentMessage Key)) : Prop where
  named : ∀ message ∈ sent, ∃ pub ∈ held, headerPub message.header = some pub
  owned (party : Party) (pub : PubBytes) : P.sendPub (state party) = some pub → pub ∈ held
  below (party : Party) (pub : PubBytes) : P.sendPub (state party) = some pub →
    ∀ message ∈ sent, headerPub message.header = some pub →
      message.sender = party ∧ headerMsgNum message.header < (state party).sendMsgNum
  apart (party : Party) (pub : PubBytes) : P.sendPub (state party) = some pub →
    P.sendPub (state party.peer) ≠ some pub

section Numbering

variable {P : Primitives Priv Dh Key} {state : Party → RatchetState Priv Key}
  {held : List PubBytes} {sent : List (SentMessage Key)} {party : Party}
  {after : RatchetState Priv Key}

theorem Numbered.more {pubs : List PubBytes} (numbered : Numbered P state held sent)
    (more : held ⊆ pubs) : Numbered P state pubs sent := by
  refine ⟨?_, ?_, numbered.below, numbered.apart⟩
  · intro message member
    obtain ⟨pub, inside, named⟩ := numbered.named message member
    exact ⟨pub, more inside, named⟩
  · exact fun party pub sending => more (numbered.owned party pub sending)

/-- A property of one side's key and counter, after a call on `party`. -/
theorem forall_update (τ : Party → RatchetState Priv Key → Prop) (self : τ party after)
    (peer : τ party.peer (state party.peer)) (other : Party) :
    τ other (Function.update state party after other) := by
  rcases Party.eq_or_eq_peer party other with rfl | rfl
  · rw [Function.update_self]
    exact self
  · rw [Function.update_of_ne party.peer_ne]
    exact peer

/-- One side's new key is apart from the other's. -/
theorem apart_update
    (self : ∀ pub, P.sendPub after = some pub → P.sendPub (state party.peer) ≠ some pub)
    (other : Party) (pub : PubBytes)
    (sending : P.sendPub (Function.update state party after other) = some pub) :
    P.sendPub (Function.update state party after other.peer) ≠ some pub := by
  rcases Party.eq_or_eq_peer party other with rfl | rfl
  · rw [Function.update_self] at sending
    rw [Function.update_of_ne other.peer_ne]
    exact self pub sending
  · rw [Function.update_of_ne party.peer_ne] at sending
    rw [Party.peer_peer, Function.update_self]
    exact fun same => self pub same sending

/-- A call that keeps the key and the counter, if it leaves a sending chain at all. -/
theorem Numbered.keep (numbered : Numbered P state held sent)
    (same : ∀ pub, P.sendPub after = some pub → P.sendPub (state party) = some pub ∧
      after.sendMsgNum = (state party).sendMsgNum) :
    Numbered P (Function.update state party after) held sent := by
  refine ⟨numbered.named, ?_, ?_, apart_update ?_⟩
  · exact forall_update (fun _ state => ∀ pub, P.sendPub state = some pub → pub ∈ held)
      (fun pub sending => numbered.owned party pub (same pub sending).1)
      (numbered.owned party.peer)
  · refine forall_update (fun party state => ∀ pub, P.sendPub state = some pub →
      ∀ message ∈ sent, headerPub message.header = some pub →
        message.sender = party ∧ headerMsgNum message.header < state.sendMsgNum) ?_
      (numbered.below party.peer)
    intro pub sending
    obtain ⟨sending, counter⟩ := same pub sending
    rw [counter]
    exact numbered.below party pub sending
  · exact fun pub sending => numbered.apart party pub (same pub sending).1

/-- A call that leaves a key pair nobody had. -/
theorem Numbered.refresh {fresh : Priv} (numbered : Numbered P state held sent)
    (own : after.dhPriv = some fresh) (unheld : P.publicBytes fresh ∉ held) :
    Numbered P (Function.update state party after) (P.publicBytes fresh :: held) sent := by
  have only : ∀ pub, P.sendPub after = some pub → pub = P.publicBytes fresh := by
    intro pub sending
    unfold sendPub at sending
    split at sending
    · rw [own] at sending
      exact (Option.some.inj sending).symm
    · cases sending
  refine ⟨?_, ?_, ?_, apart_update ?_⟩
  · intro message member
    obtain ⟨pub, inside, named⟩ := numbered.named message member
    exact ⟨pub, List.mem_cons_of_mem _ inside, named⟩
  · refine forall_update (fun _ state => ∀ pub, P.sendPub state = some pub →
      pub ∈ P.publicBytes fresh :: held) ?_ ?_
    · intro pub sending
      rw [only pub sending]
      exact List.mem_cons_self
    · exact fun pub sending => List.mem_cons_of_mem _ (numbered.owned party.peer pub sending)
  · refine forall_update (fun party state => ∀ pub, P.sendPub state = some pub →
      ∀ message ∈ sent, headerPub message.header = some pub →
        message.sender = party ∧ headerMsgNum message.header < state.sendMsgNum) ?_
      (numbered.below party.peer)
    intro pub sending message member named
    obtain ⟨other, inside, named'⟩ := numbered.named message member
    rw [named] at named'
    cases named'
    exact absurd (only pub sending ▸ inside) unheld
  · intro pub sending peer
    rw [only pub sending] at peer
    exact unheld (numbered.owned party.peer _ peer)

/-- A message under the present key and number. -/
theorem Numbered.send {pub : PubBytes} {message : SentMessage Key}
    (numbered : Numbered P state held sent) (sending : P.sendPub (state party) = some pub)
    (same : P.sendPub after = some pub)
    (counter : after.sendMsgNum = (state party).sendMsgNum + 1)
    (sender : message.sender = party)
    (name : message.name = (some pub, (state party).sendMsgNum)) :
    (∀ earlier ∈ sent, message.name ≠ earlier.name) ∧
      Numbered P (Function.update state party after) held (message :: sent) := by
  obtain ⟨named, number⟩ := Prod.mk.inj name
  constructor
  · intro earlier member equal
    obtain ⟨named', number'⟩ := Prod.mk.inj (equal.symm.trans name)
    have := (numbered.below party pub sending earlier member named').2
    omega
  · have kept : ∀ other, P.sendPub after = some other → P.sendPub (state party) = some other := by
      intro other present
      rw [sending, ← same, present]
    refine ⟨?_, ?_, ?_, apart_update ?_⟩
    · intro found member
      rcases List.mem_cons.mp member with rfl | member
      · exact ⟨pub, numbered.owned party pub sending, named⟩
      · exact numbered.named found member
    · exact forall_update (fun _ state => ∀ pub, P.sendPub state = some pub → pub ∈ held)
        (fun other present => numbered.owned party other (kept other present))
        (numbered.owned party.peer)
    · refine forall_update (fun party state => ∀ pub, P.sendPub state = some pub →
        ∀ message' ∈ message :: sent, headerPub message'.header = some pub →
          message'.sender = party ∧ headerMsgNum message'.header < state.sendMsgNum) ?_ ?_
      · intro other present found member named'
        rcases List.mem_cons.mp member with rfl | member
        · exact ⟨sender, by omega⟩
        · obtain ⟨own, below⟩ := numbered.below party other (kept other present) found member named'
          exact ⟨own, by omega⟩
      · intro other present found member named'
        rcases List.mem_cons.mp member with rfl | member
        · rw [named] at named'
          cases named'
          exact absurd present (numbered.apart party pub sending)
        · exact numbered.below party.peer other present found member named'
    · exact fun other present => numbered.apart party other (kept other present)

theorem startSendChain_error {fresh : Priv} {raised : Raised} {state : RatchetState Priv Key}
    (failed : (P.startSendChain fresh).run state = (.error raised, after)) :
    after.sendChainKey = state.sendChainKey := by
  have kept : (P.startSendChain fresh).Ensures (·.sendChainKey = state.sendChainKey)
      (fun _ _ => True) (·.sendChainKey = state.sendChainKey) := by
    apply Call.ensures_read_bind
    intro start same
    apply Call.ensures_bind fun _ middle => middle.sendChainKey = state.sendChainKey
    · exact Call.ensures_require (fun _ _ _ here => here ▸ same) (fun _ here => here ▸ same)
    · intro remote
      apply Call.ensures_bind fun _ middle => middle.sendChainKey = state.sendChainKey
      · exact Call.ensures_modify fun _ here => here
      · intro _
        apply Call.ensures_bind fun _ middle => middle.sendChainKey = state.sendChainKey
        · apply Call.ensures_bind fun _ middle => middle.sendChainKey = state.sendChainKey
          · exact Call.ensures_require (fun _ _ _ here => here) (fun _ here => here)
          · exact fun _ => Call.ensures_require (fun _ _ _ here => here) (fun _ here => here)
        · intro dhOut
          apply Call.ensures_bind fun _ middle => middle.sendChainKey = state.sendChainKey
          · exact Call.ensures_require (fun _ _ _ here => here) (fun _ here => here)
          · exact fun _ => Call.ensures_modify fun _ _ => trivial
  exact kept.error rfl failed

theorem sendPub_of_begun {state : RatchetState Priv Key} {key : Key}
    (begun : state.sendChainKey = some key) :
    P.sendPub state = state.dhPriv.map P.publicBytes := by
  rw [sendPub, begun, Option.isSome_some, if_pos rfl]

theorem Numbered.encrypt {fresh : Priv} {nonce plaintext : Bytes}
    {result : Except Raised (Bytes × Bytes)} (numbered : Numbered P state held sent)
    (unheld : P.publicBytes fresh ∉ held)
    (outcome : (P.encrypt fresh nonce plaintext).run (state party) = (result, after)) :
    match result with
    | .ok (header, _) => ∀ message : SentMessage Key, message.sender = party →
        message.header = header → (∀ earlier ∈ sent, message.name ≠ earlier.name) ∧
          Numbered P (Function.update state party after)
            ((after.dhPriv.map P.publicBytes).toList ++ held) (message :: sent)
    | .error _ => Numbered P (Function.update state party after)
        ((after.dhPriv.map P.publicBytes).toList ++ held) sent := by
  rcases encrypt_outcome outcome with
    ⟨middle, key, chain, _, onChain, source⟩ | ⟨raised, rfl, missing, failed⟩
  · have begun : Numbered P (Function.update state party middle)
        ((middle.dhPriv.map P.publicBytes).toList ++ held) sent := by
      rcases source with rfl | ⟨_, started⟩
      · rw [Function.update_eq_self]
        exact numbered.more (List.subset_append_right _ _)
      · obtain ⟨own, _, _⟩ := P.startSendChain_ok fresh started
        rw [own]
        exact numbered.refresh own unheld
    have sending : P.sendPub (Function.update state party middle party) =
        middle.dhPriv.map P.publicBytes := by
      rw [Function.update_self]
      exact sendPub_of_begun chain
    rcases encryptOnChain_outcome chain onChain with
      ⟨raised, rfl, rfl⟩ | ⟨priv, header, own, packed, rfl, rfl⟩
    · have kept : Numbered P (Function.update (Function.update state party middle) party
          { middle with sendChainKey := some (P.hkdfCk key).1 })
          ((middle.dhPriv.map P.publicBytes).toList ++ held) sent := by
        apply begun.keep
        intro pub present
        rw [sending, Function.update_self, ← present]
        exact ⟨rfl, rfl⟩
      rw [Function.update_idem] at kept
      exact kept
    · intro message sender written
      have spelled := headerOf_packHeader packed
      have name : message.name = (some (P.publicBytes priv),
          (Function.update state party middle party).sendMsgNum) := by
        rw [SentMessage.name, written, Function.update_self, headerPub, dif_pos spelled.long,
          spelled.pub, spelled.number]
      rw [own, Option.map_some] at sending
      have present : P.sendPub { middle with
          sendChainKey := some (P.hkdfCk key).1, sendMsgNum := middle.sendMsgNum + 1 } =
            some (P.publicBytes priv) := by
        rw [sendPub, own]
        rfl
      obtain ⟨different, next⟩ := begun.send sending present (by rw [Function.update_self])
        sender name
      rw [Function.update_idem] at next
      exact ⟨different, next⟩
  · have silent : P.sendPub after = none := by
      rw [sendPub, startSendChain_error failed, missing]
      rfl
    apply (numbered.keep _).more (List.subset_append_right _ _)
    intro pub present
    rw [silent] at present
    cases present

theorem Numbered.decrypt {fresh : Priv} {header ciphertext plaintext : Bytes}
    (numbered : Numbered P state held sent) (unheld : P.publicBytes fresh ∉ held)
    (success : (P.decrypt fresh header ciphertext).run (state party) = (.ok plaintext, after)) :
    Numbered P (Function.update state party after)
      ((after.dhPriv.map P.publicBytes).toList ++ held) sent := by
  obtain ⟨long, _, ⟨_, kept, _⟩ | ⟨_, own, _⟩⟩ := P.decrypt_ok success
  · apply (numbered.keep _).more (List.subset_append_right _ _)
    intro pub present
    have chain : after.sendChainKey = (state party).sendChainKey := congrArg Turn.sendChainKey kept
    have own : after.dhPriv = (state party).dhPriv := congrArg Turn.dhPriv kept
    rw [sendPub, chain, own] at present
    exact ⟨present, congrArg Turn.sendMsgNum kept⟩
  · rw [own]
    exact numbered.refresh own unheld

end Numbering

section Runs

variable {P : Primitives Priv Dh Key} {setup : Setup Priv Key} {world : Sessions Priv Key}

/-- What keeps the message keys and the names of the messages apart. -/
structure Unreused (P : Primitives Priv Dh Key) (secret : Key) (world : Sessions Priv Key) :
    Prop where
  alternating : Alternating P secret world
  numbered : Numbered P world.state world.held world.sent
  keyed : ∀ message ∈ world.sent, ∃ mk, message.key = some mk ∧ message.ciphertext =
    message.nonce ++ P.aeadEncrypt mk message.nonce message.plaintext message.header
  apart : world.sent.Pairwise fun later earlier =>
    later.key ≠ earlier.key ∧ later.name ≠ earlier.name

theorem numbered_of_initialised (start : P.Initialised setup world) :
    Numbered P world.state world.held world.sent := by
  obtain ⟨⟨_, _, alice⟩, _, _, bob⟩ := start.state
  have silent : P.sendPub (world.state .bob) = none := by rw [bob]; rfl
  rw [start.sent, start.held]
  refine ⟨by simp, ?_, by simp, ?_⟩
  · intro party pub sending
    cases party with
    | alice =>
        rw [alice] at sending
        cases sending
        exact List.mem_cons_self
    | bob =>
        rw [silent] at sending
        cases sending
  · intro party pub sending
    cases party with
    | alice =>
        rw [Party.peer, silent]
        intro impossible
        cases impossible
    | bob =>
        rw [silent] at sending
        cases sending

theorem Unreused.encrypt {secret : Key} (free : (P.keyTree secret).Free)
    (unreused : Unreused P secret world) (sender : Party) {fresh : Priv}
    (unheld : P.publicBytes fresh ∉ world.held) (nonce plaintext : Bytes) :
    Unreused P secret (P.sessionEncrypt world sender fresh nonce plaintext) := by
  have alternating := unreused.alternating.encrypt free sender fresh nonce plaintext
  obtain ⟨turn, stands, traced⟩ := unreused.alternating.sides sender
  obtain ⟨_, _, peer⟩ := unreused.alternating.sides sender.peer
  unfold sessionEncrypt at alternating ⊢
  split
  · rename_i header ciphertext after outcome
    rw [outcome] at alternating
    obtain ⟨later, _, mk, selected, unused, sealed, stepped⟩ :=
      encrypt_traced free traced (fun missing => (stands.starts missing).2.2) outcome
    obtain ⟨different, numbered⟩ := unreused.numbered.encrypt unheld outcome
      ⟨sender, P.sendingKey fresh (world.state sender), nonce, plaintext, header, ciphertext⟩
      rfl rfl
    refine ⟨alternating, numbered, ?_, List.pairwise_cons.mpr ⟨?_, unreused.apart⟩⟩
    · intro message member
      rcases List.mem_cons.mp member with rfl | member
      · exact ⟨mk, selected, sealed⟩
      · exact unreused.keyed message member
    · intro earlier member
      refine ⟨?_, different earlier member⟩
      rw [show SentMessage.key _ = some mk from selected]
      intro same
      rcases Party.eq_or_eq_peer sender earlier.sender with own | other
      · exact unused ⟨earlier, member, own, same.symm⟩
      · exact stepped.send.apart free (fun _ => sendTurns_disjoint sender) peer.send mk
          (Set.mem_insert mk _) ⟨earlier, member, other, same.symm⟩
  · rename_i raised after outcome
    rw [outcome] at alternating
    exact ⟨alternating, unreused.numbered.encrypt unheld outcome, unreused.keyed, unreused.apart⟩

theorem Unreused.decrypt {secret : Key} (free : (P.keyTree secret).Free)
    (unreused : Unreused P secret world) (receiver : Party) {fresh : Priv}
    (unheld : P.publicBytes fresh ∉ world.held) (header ciphertext : Bytes)
    (fromPeer : FromPeer world (.decrypt receiver fresh header ciphertext))
    (returns : P.Decrypts world (.decrypt receiver fresh header ciphertext)) :
    Unreused P secret (P.sessionDecrypt world receiver fresh header ciphertext) := by
  have alternating := unreused.alternating.decrypt free receiver fresh header ciphertext
    ⟨fromPeer, Or.inl returns⟩
  have sent := sessionDecrypt_sent P world receiver fresh header ciphertext
  refine ⟨alternating, ?_, by rw [sent]; exact unreused.keyed, by rw [sent]; exact unreused.apart⟩
  unfold sessionDecrypt
  split
  · rename_i plaintext after outcome
    exact unreused.numbered.decrypt unheld outcome
  · rename_i raised after outcome
    rw [Decrypts, outcome] at returns
    cases returns

/-- Over all runs of two sides that were set up together, no two messages share their key,
and no two the public key and number in their headers. -/
theorem message_keys_never_reused (free : (P.keyTree setup.sharedSecret).Free)
    (reachable : (P.sessions setup).Reachable
      (fun world event => FromPeer world event ∧ P.Decrypts world event) world) :
    (∀ message ∈ world.sent, ∃ mk, message.key = some mk ∧ message.ciphertext =
      message.nonce ++ P.aeadEncrypt mk message.nonce message.plaintext message.header) ∧
    world.sent.Pairwise fun later earlier =>
      later.key ≠ earlier.key ∧ later.name ≠ earlier.name := by
  have unreused : Unreused P setup.sharedSecret world := by
    induction reachable with
    | start initial =>
        refine ⟨alternating_of_initialised initial, numbered_of_initialised initial, ?_, ?_⟩
        · rw [initial.sent]
          exact nofun
        · rw [initial.sent]
          exact List.Pairwise.nil
    | @step world event _ enabled permitted unreused =>
        cases event with
        | encrypt sender fresh nonce plaintext =>
            exact unreused.encrypt free sender enabled.1 nonce plaintext
        | decrypt receiver fresh header ciphertext =>
            exact unreused.decrypt free receiver enabled header ciphertext permitted.1 permitted.2
  exact ⟨unreused.keyed, unreused.apart⟩

end Runs

end Primitives

theorem toyExchanged_unreused : toyExchanged.sent.length = 4 ∧
    toyExchanged.sent.Pairwise fun later earlier =>
      later.key ≠ earlier.key ∧ later.name ≠ earlier.name :=
  ⟨by decide +kernel,
    (Primitives.message_keys_never_reused (toySpelled_free [7])
      (.run (.start toyOpening_initialised) (by decide +kernel) : (toySpelled.sessions
        toyPair).Reachable (fun world event => Primitives.FromPeer world event ∧
          toySpelled.Decrypts world event) toyExchanged)).2⟩

end UltimateEnigma.DoubleRatchet
