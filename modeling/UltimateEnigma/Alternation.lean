import UltimateEnigma.Sessions

set_option autoImplicit false

namespace UltimateEnigma.DoubleRatchet

open Py

/-- The turns of the schedule on which each side sends: alice begins, and every turn of the
ratchet takes a side two further. -/
def sendTurns : Party → Set Nat
  | .alice => { turn | turn % 2 = 1 }
  | .bob => { turn | turn % 2 = 0 }

theorem sendTurns_disjoint (party : Party) {turn : Nat} (own : turn ∈ sendTurns party)
    (peer : turn ∈ sendTurns party.peer) : False := by
  cases party <;> simp only [sendTurns, Party.peer, Set.mem_ofPred_eq] at own peer <;> omega

theorem sendTurns_succ {party : Party} {turn : Nat} (own : turn ∈ sendTurns party) :
    turn + 1 ∈ sendTurns party.peer := by
  cases party <;> simp only [sendTurns, Party.peer, Set.mem_ofPred_eq] at own ⊢ <;> omega

theorem sendTurns_add_two {party : Party} {turn : Nat} (own : turn ∈ sendTurns party) :
    turn + 2 ∈ sendTurns party := by
  cases party <;> simp only [sendTurns, Set.mem_ofPred_eq] at own ⊢ <;> omega

namespace Primitives

variable {Priv Dh Key : Type} {P : Primitives Priv Dh Key}

section Outcomes

variable {fresh : Priv} {nonce plaintext : Bytes} {state after : RatchetState Priv Key}
  {result : Except Raised (Bytes × Bytes)}

/-- On a chain it finds, an encryption leaves the key pair, and names it in its header. -/
theorem encrypt_on_own_chain (begun : state.sendChainKey.isSome)
    (outcome : (P.encrypt fresh nonce plaintext).run state = (result, after)) :
    after.dhPriv = state.dhPriv ∧ after.sendChainKey.isSome ∧
      ∀ header ciphertext, result = .ok (header, ciphertext) →
        headerPub header = state.dhPriv.map P.publicBytes := by
  obtain ⟨key, chain⟩ := Option.isSome_iff_exists.mp begun
  rw [P.encrypt_run_ready fresh nonce plaintext key state chain] at outcome
  rcases encryptOnChain_outcome chain outcome with
    ⟨raised, rfl, rfl⟩ | ⟨priv, header, own, packed, rfl, rfl⟩
  · exact ⟨rfl, rfl, fun header ciphertext impossible => nomatch impossible⟩
  · refine ⟨rfl, rfl, ?_⟩
    intro header' ciphertext same
    cases same
    have written := headerOf_packHeader packed
    rw [headerPub, dif_pos written.long, written.pub, own, Option.map_some]

theorem encrypt_begins {message : Bytes × Bytes}
    (success : (P.encrypt fresh nonce plaintext).run state = (.ok message, after)) :
    after.sendChainKey.isSome := by
  rcases encrypt_outcome success with ⟨middle, key, chain, _, onChain, _⟩ | ⟨raised, failed, _⟩
  · rcases encryptOnChain_outcome chain onChain with ⟨_, _, rfl⟩ | ⟨_, _, _, _, _, rfl⟩ <;> rfl
  · cases failed

end Outcomes

variable {setup : Setup Priv Key} {world : Sessions Priv Key}

/-- Where a side stands: on a turn of its own, or, before its first message, on the turn
that was set up. -/
def OnTurn (world : Sessions Priv Key) (party : Party) (turn : Nat) : Prop :=
  if (world.state party).sendChainKey.isSome then turn ∈ sendTurns party
  else party = .bob ∧ turn = 1

/-- The two sides take turns on one schedule. Until bob has a chain to send on, alice stays
on the chain and the key pair that he was set up with. -/
structure Alternating (P : Primitives Priv Dh Key) (secret : Key) (world : Sessions Priv Key) :
    Prop where
  sides (party : Party) : ∃ turn, OnTurn world party turn ∧
    TracedSide P secret (sendTurns party) (sendTurns party.peer) world party turn
  begun : (world.state .alice).sendChainKey.isSome
  silent : (world.state .bob).sendChainKey = none →
    (world.state .bob).dhPubRemote = (world.state .alice).dhPriv.map P.publicBytes ∧
      ∀ message ∈ world.sent, message.sender = .alice ∧
        headerPub message.header = (world.state .bob).dhPubRemote

theorem OnTurn.of_begun {party : Party} {turn : Nat}
    (begun : (world.state party).sendChainKey.isSome) (own : turn ∈ sendTurns party) :
    OnTurn world party turn := by
  rw [OnTurn, if_pos begun]
  exact own

theorem OnTurn.congr {party : Party} {turn : Nat} {after : Sessions Priv Key}
    (stands : OnTurn world party turn)
    (same : (after.state party).sendChainKey.isSome = (world.state party).sendChainKey.isSome) :
    OnTurn after party turn := by
  rw [OnTurn, same]
  exact stands

theorem OnTurn.starts {party : Party} {turn : Nat} (stands : OnTurn world party turn)
    (missing : (world.state party).sendChainKey = none) :
    party = .bob ∧ turn = 1 ∧ turn + 1 ∈ sendTurns party := by
  rw [OnTurn, missing, Option.isSome_none, if_neg Bool.false_ne_true] at stands
  obtain ⟨rfl, rfl⟩ := stands
  exact ⟨rfl, rfl, rfl⟩

theorem alternating_of_initialised (start : P.Initialised setup world) :
    Alternating P setup.sharedSecret world := by
  obtain ⟨⟨_, _, alice⟩, _, _, bob⟩ := start.state
  have aliceBegun : (world.state .alice).sendChainKey.isSome := by rw [alice]; rfl
  refine ⟨?_, aliceBegun, ?_⟩
  · intro party
    cases party with
    | alice => exact ⟨1, .of_begun aliceBegun rfl, start.traced_alice rfl⟩
    | bob =>
        refine ⟨1, ?_, start.traced_bob rfl⟩
        rw [OnTurn, bob]
        exact ⟨rfl, rfl⟩
  · intro _
    refine ⟨by rw [bob, alice]; rfl, ?_⟩
    rw [start.sent]
    exact nofun

theorem Alternating.encrypt {secret : Key} (free : (P.keyTree secret).Free)
    (alternating : Alternating P secret world) (sender : Party) (fresh : Priv)
    (nonce plaintext : Bytes) :
    Alternating P secret (P.sessionEncrypt world sender fresh nonce plaintext) := by
  have peer := sessionEncrypt_untouched P world sender fresh nonce plaintext
  have sides : ∀ party, ∃ turn,
      OnTurn (P.sessionEncrypt world sender fresh nonce plaintext) party turn ∧
        TracedSide P secret (sendTurns party) (sendTurns party.peer)
          (P.sessionEncrypt world sender fresh nonce plaintext) party turn := by
    intro party
    obtain ⟨turn, stands, traced⟩ := alternating.sides party
    rcases Party.eq_or_eq_peer sender party with rfl | rfl
    · obtain ⟨later, stepped, moved⟩ := traced.encrypt free
        (fun missing => (stands.starts missing).2.2) rfl
      refine ⟨later, ?_, stepped⟩
      rcases moved with ⟨rfl, same⟩ | ⟨rfl, missing, begun⟩
      · exact stands.congr same
      · exact .of_begun begun (stands.starts missing).2.2
    · exact ⟨turn, stands.congr (by rw [peer.state]), traced.untouched peer⟩
  cases sender with
  | alice =>
      have bob : (P.sessionEncrypt world .alice fresh nonce plaintext).state .bob =
          world.state .bob := peer.state
      refine ⟨sides, ?_, ?_⟩
      · unfold sessionEncrypt
        split
        all_goals
          rename_i after outcome
          rw [show _ = after from P.changeState_self world .alice after]
          exact (encrypt_on_own_chain alternating.begun outcome).2.1
      · rw [bob]
        intro missing
        obtain ⟨remote, quiet⟩ := alternating.silent missing
        unfold sessionEncrypt
        split
        · rename_i header ciphertext after outcome
          obtain ⟨own, _, named⟩ := encrypt_on_own_chain alternating.begun outcome
          refine ⟨?_, ?_⟩
          · rw [show _ = after from P.changeState_self world .alice after, own]
            exact remote
          · intro message member
            rcases List.mem_cons.mp member with rfl | member
            · exact ⟨rfl, (named _ _ rfl).trans remote.symm⟩
            · exact quiet message member
        · rename_i raised after outcome
          refine ⟨?_, quiet⟩
          rw [P.changeState_self, (encrypt_on_own_chain alternating.begun outcome).1]
          exact remote
  | bob =>
      have alice : (P.sessionEncrypt world .bob fresh nonce plaintext).state .alice =
          world.state .alice := peer.state
      refine ⟨sides, by rw [alice]; exact alternating.begun, ?_⟩
      rw [alice]
      have remote := P.encrypt_keeps RatchetState.dhPubRemote fresh nonce plaintext
        (fun _ _ _ _ _ _ => rfl) (world.state .bob)
      unfold sessionEncrypt
      split
      · rename_i header ciphertext after outcome
        rw [show _ = after from P.changeState_self world .bob after]
        intro missing
        have begun := encrypt_begins outcome
        rw [missing] at begun
        cases begun
      · rename_i raised after outcome
        rw [outcome] at remote
        rw [P.changeState_self, show after.dhPubRemote = _ from remote]
        intro missing
        apply alternating.silent
        apply Option.not_isSome_iff_eq_none.mp
        intro begun
        have still := (encrypt_on_own_chain begun outcome).2.1
        rw [missing] at still
        cases still

/-- `decrypt` is called on messages of the other side, and its turn is not left half done. -/
def Whole (P : Primitives Priv Dh Key) (world : Sessions Priv Key) (event : SessionEvent Priv) :
    Prop :=
  FromPeer world event ∧ match event with
    | .encrypt _ _ _ _ => True
    | .decrypt _ fresh header _ => P.Decrypts world event ∨
        ∀ long, (P.exchange fresh (headerDhPub header long)).isSome

theorem Alternating.decrypt {secret : Key} (free : (P.keyTree secret).Free)
    (alternating : Alternating P secret world) (receiver : Party) (fresh : Priv)
    (header ciphertext : Bytes)
    (whole : Whole P world (.decrypt receiver fresh header ciphertext)) :
    Alternating P secret (P.sessionDecrypt world receiver fresh header ciphertext) := by
  have peer := sessionDecrypt_untouched P world receiver fresh header ciphertext
  obtain ⟨⟨message, sentBefore, sender, rfl, _⟩, completes⟩ := whole
  have turned : ∀ turn later, ¬ (P.Halted fresh message.header turn later ∧
      ¬ P.Decrypts world (.decrypt receiver fresh message.header ciphertext)) := by
    rintro turn later ⟨⟨_, long, disagree⟩, failed⟩
    rcases completes with returned | agrees
    · exact failed returned
    · have agreed := agrees long
      rw [disagree] at agreed
      cases agreed
  -- Bob without a chain has only ever seen the key he was set up with.
  have quiet : (world.state receiver).sendChainKey = none → ∀ long : 40 ≤ message.header.length,
      (world.state receiver).dhPubRemote = some (headerDhPub message.header long) := by
    intro missing long
    cases receiver with
    | alice =>
        have begun := alternating.begun
        rw [missing] at begun
        cases begun
    | bob =>
        rw [← ((alternating.silent missing).2 message sentBefore).2, headerPub, dif_pos long]
  have side : ∃ turn,
      OnTurn (P.sessionDecrypt world receiver fresh message.header ciphertext) receiver turn ∧
        TracedSide P secret (sendTurns receiver) (sendTurns receiver.peer)
          (P.sessionDecrypt world receiver fresh message.header ciphertext) receiver turn ∧
        (((P.sessionDecrypt world receiver fresh message.header ciphertext).state receiver).turn =
            (world.state receiver).turn ∨
          ((P.sessionDecrypt world receiver fresh message.header ciphertext).state
            receiver).sendChainKey.isSome) := by
    obtain ⟨turn, stands, traced⟩ := alternating.sides receiver
    have own : (∃ long, (world.state receiver).dhPubRemote ≠
        some (headerDhPub message.header long)) → turn ∈ sendTurns receiver := by
      rintro ⟨long, differs⟩
      cases chain : (world.state receiver).sendChainKey with
      | none => exact absurd (quiet chain long) differs
      | some key =>
          rw [OnTurn, chain, Option.isSome_some, if_pos rfl] at stands
          exact stands
    obtain ⟨later, stepped, moved | halted⟩ := traced.decrypt free
      (fun new => ⟨sendTurns_succ (own new), sendTurns_add_two (own new)⟩) rfl
    · rcases moved with ⟨rfl, kept⟩ | ⟨long, differs, rfl, _, _, begun⟩
      · refine ⟨later, stands.congr ?_, stepped, Or.inl kept⟩
        rw [show RatchetState.sendChainKey _ = _ from congrArg Turn.sendChainKey kept]
        rfl
      · exact ⟨turn + 2, .of_begun begun (sendTurns_add_two (own ⟨long, differs⟩)), stepped,
          Or.inr begun⟩
    · exact absurd halted (turned turn later)
  obtain ⟨turn, stands, traced, kept⟩ := side
  have sides : ∀ party, ∃ turn,
      OnTurn (P.sessionDecrypt world receiver fresh message.header ciphertext) party turn ∧
        TracedSide P secret (sendTurns party) (sendTurns party.peer)
          (P.sessionDecrypt world receiver fresh message.header ciphertext) party turn := by
    intro party
    rcases Party.eq_or_eq_peer receiver party with rfl | rfl
    · exact ⟨turn, stands, traced⟩
    · obtain ⟨turn, stands, traced⟩ := alternating.sides receiver.peer
      exact ⟨turn, stands.congr (by rw [peer.state]), traced.untouched peer⟩
  have sent := sessionDecrypt_sent P world receiver fresh message.header ciphertext
  cases receiver with
  | alice =>
      have bob : (P.sessionDecrypt world .alice fresh message.header ciphertext).state .bob =
          world.state .bob := peer.state
      refine ⟨sides, ?_, ?_⟩
      · rcases kept with kept | begun
        · rw [show RatchetState.sendChainKey _ = _ from congrArg Turn.sendChainKey kept]
          exact alternating.begun
        · exact begun
      · rw [bob]
        intro missing
        have fromAlice := ((alternating.silent missing).2 message sentBefore).1
        rw [sender] at fromAlice
        cases fromAlice
  | bob =>
      have alice : (P.sessionDecrypt world .bob fresh message.header ciphertext).state .alice =
          world.state .alice := peer.state
      refine ⟨sides, by rw [alice]; exact alternating.begun, ?_⟩
      intro missing
      rcases kept with kept | begun
      · have remote : ((P.sessionDecrypt world .bob fresh message.header ciphertext).state
            .bob).dhPubRemote = (world.state .bob).dhPubRemote := congrArg Turn.dhPubRemote kept
        have chain : ((P.sessionDecrypt world .bob fresh message.header ciphertext).state
            .bob).sendChainKey = (world.state .bob).sendChainKey := congrArg Turn.sendChainKey kept
        rw [alice, remote, sent]
        exact alternating.silent (chain.symm.trans missing)
      · rw [missing] at begun
        cases begun

theorem alternating_of_reachable (free : (P.keyTree setup.sharedSecret).Free)
    (reachable : (P.sessions setup).Reachable (Whole P) world) :
    Alternating P setup.sharedSecret world := by
  induction reachable with
  | start initial => exact alternating_of_initialised initial
  | @step world event _ _ whole alternating =>
      cases event with
      | encrypt sender fresh nonce plaintext =>
          exact alternating.encrypt free sender fresh nonce plaintext
      | decrypt receiver fresh header ciphertext =>
          exact alternating.decrypt free receiver fresh header ciphertext whole

end Primitives

end UltimateEnigma.DoubleRatchet
