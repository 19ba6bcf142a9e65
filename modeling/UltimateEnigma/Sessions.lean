import UltimateEnigma.Conversation
import UltimateEnigma.KeyTrace

set_option autoImplicit false

namespace UltimateEnigma.DoubleRatchet

open Py

variable {Priv Dh Key : Type}

/-- A call of `encrypt` that returned, with the key that its AEAD was given. -/
structure SentMessage (Key : Type) where
  sender : Party
  key : Option Key
  nonce : Bytes
  plaintext : Bytes
  header : Bytes
  ciphertext : Bytes

/-- A call of `decrypt` that returned, with the key that its AEAD was given. -/
structure OpenedMessage (Key : Type) where
  receiver : Party
  key : Option Key
  header : Bytes
  ciphertext : Bytes

/-- Two sessions and what they have done so far, the last call first. `held` lists the
public keys of every key pair that either side has had. -/
structure Sessions (Priv Key : Type) where
  state : Party → RatchetState Priv Key
  held : List PubBytes
  sent : List (SentMessage Key)
  opened : List (OpenedMessage Key)

/-- `fresh` is the key pair that the call generates where it generates one. -/
inductive SessionEvent (Priv : Type) where
  | encrypt (party : Party) (fresh : Priv) (nonce plaintext : Bytes)
  | decrypt (party : Party) (fresh : Priv) (header ciphertext : Bytes)
deriving DecidableEq

def Sessions.sentKeys (world : Sessions Priv Key) (party : Party) : Set Key :=
  { mk | ∃ message ∈ world.sent, message.sender = party ∧ message.key = some mk }

def Sessions.openedKeys (world : Sessions Priv Key) (party : Party) : Set Key :=
  { mk | ∃ message ∈ world.opened, message.receiver = party ∧ message.key = some mk }

namespace Primitives

variable (P : Primitives Priv Dh Key)

/-- The world with one side's new state, and the key pair it now has. -/
def changeState (world : Sessions Priv Key) (party : Party) (after : RatchetState Priv Key) :
    Sessions Priv Key :=
  { world with
    state := Function.update world.state party after
    held := (after.dhPriv.map P.publicBytes).toList ++ world.held }

def sessionEncrypt (world : Sessions Priv Key) (party : Party) (fresh : Priv)
    (nonce plaintext : Bytes) : Sessions Priv Key :=
  match (P.encrypt fresh nonce plaintext).run (world.state party) with
  | (.ok (header, ciphertext), after) =>
      { P.changeState world party after with
        sent := ⟨party, P.sendingKey fresh (world.state party), nonce, plaintext, header,
          ciphertext⟩ :: world.sent }
  | (.error _, after) => P.changeState world party after

def sessionDecrypt (world : Sessions Priv Key) (party : Party) (fresh : Priv)
    (header ciphertext : Bytes) : Sessions Priv Key :=
  match (P.decrypt fresh header ciphertext).run (world.state party) with
  | (.ok _, after) =>
      { P.changeState world party after with
        opened := ⟨party, ((P.decryptKey fresh header).run (world.state party)).1.toOption,
          header, ciphertext⟩ :: world.opened }
  | (.error _, after) => P.changeState world party after

/-- The two sides, set up with each other's public key and one shared secret. -/
structure Initialised (setup : Setup Priv Key) (world : Sessions Priv Key) : Prop where
  alice : (P.initializeAsAlice setup.aliceFresh (P.publicBytes setup.bobPriv) setup.sharedSecret
    setup.aliceLocal).run {} = (.ok (), world.state .alice)
  bob : (P.initializeAsBob setup.bobFresh (P.publicBytes setup.alicePriv) setup.sharedSecret
    setup.bobLocal).run {} = (.ok (), world.state .bob)
  held : world.held = [P.publicBytes setup.alicePriv, P.publicBytes setup.bobPriv]
  sent : world.sent = []
  opened : world.opened = []

/-- Any calls on the two sides, in any order, `decrypt` on any bytes. A generated key pair
is one that nobody has had. -/
def sessions (setup : Setup Priv Key) : Machine (Sessions Priv Key) (SessionEvent Priv) where
  start := P.Initialised setup
  enabled world
    | .encrypt _ fresh nonce _ =>
        P.publicBytes fresh ∉ world.held ∧ nonce.length = xchacha20NonceSize
    | .decrypt _ fresh _ _ => P.publicBytes fresh ∉ world.held
  apply world
    | .encrypt party fresh nonce plaintext => P.sessionEncrypt world party fresh nonce plaintext
    | .decrypt party fresh header ciphertext => P.sessionDecrypt world party fresh header ciphertext

instance (setup : Setup Priv Key) (world : Sessions Priv Key) :
    (event : SessionEvent Priv) → Decidable ((P.sessions setup).enabled world event)
  | .encrypt _ fresh nonce _ =>
      inferInstanceAs (Decidable
        (P.publicBytes fresh ∉ world.held ∧ nonce.length = xchacha20NonceSize))
  | .decrypt _ fresh _ _ => inferInstanceAs (Decidable (P.publicBytes fresh ∉ world.held))

/-- Whatever the network does: `decrypt` gets messages of the other side only, but may get
each late, again or never. -/
def FromPeer (world : Sessions Priv Key) : SessionEvent Priv → Prop
  | .encrypt _ _ _ _ => True
  | .decrypt party _ header ciphertext =>
      ∃ message ∈ world.sent, message.sender = party.peer ∧ message.header = header ∧
        message.ciphertext = ciphertext

instance (world : Sessions Priv Key) :
    (event : SessionEvent Priv) → Decidable (FromPeer world event)
  | .encrypt _ _ _ _ => inferInstanceAs (Decidable True)
  | .decrypt party _ header ciphertext =>
      inferInstanceAs (Decidable (∃ message ∈ world.sent, message.sender = party.peer ∧
        message.header = header ∧ message.ciphertext = ciphertext))

/-- The call returns, where it is one of `decrypt`. -/
def Decrypts (world : Sessions Priv Key) : SessionEvent Priv → Prop
  | .encrypt _ _ _ _ => True
  | .decrypt party fresh header ciphertext =>
      ((P.decrypt fresh header ciphertext).run (world.state party)).1.isOk = true

instance (world : Sessions Priv Key) :
    (event : SessionEvent Priv) → Decidable (P.Decrypts world event)
  | .encrypt _ _ _ _ => inferInstanceAs (Decidable True)
  | .decrypt party fresh header ciphertext =>
      inferInstanceAs (Decidable
        (((P.decrypt fresh header ciphertext).run (world.state party)).1.isOk = true))

@[simp] theorem changeState_self (world : Sessions Priv Key) (party : Party)
    (after : RatchetState Priv Key) : (P.changeState world party after).state party = after :=
  Function.update_self _ _ _

@[simp] theorem changeState_peer (world : Sessions Priv Key) (party : Party)
    (after : RatchetState Priv Key) :
    (P.changeState world party after).state party.peer = world.state party.peer :=
  Function.update_of_ne party.peer_ne _ _

variable {P} {setup : Setup Priv Key} {world : Sessions Priv Key} {party : Party} {fresh : Priv}
  {nonce plaintext header ciphertext : Bytes}

/-- Nothing of this side is touched. -/
structure Untouched (party : Party) (before after : Sessions Priv Key) : Prop where
  state : after.state party = before.state party
  sentKeys : after.sentKeys party = before.sentKeys party
  openedKeys : after.openedKeys party = before.openedKeys party

theorem sessionEncrypt_untouched (P : Primitives Priv Dh Key) (world : Sessions Priv Key)
    (party : Party) (fresh : Priv) (nonce plaintext : Bytes) :
    Untouched party.peer world (P.sessionEncrypt world party fresh nonce plaintext) := by
  unfold sessionEncrypt
  split
  · refine ⟨P.changeState_peer world party _, ?_, rfl⟩
    ext mk
    constructor
    · rintro ⟨message, member, sender, key⟩
      rcases List.mem_cons.mp member with rfl | member
      · exact absurd sender.symm party.peer_ne
      · exact ⟨message, member, sender, key⟩
    · rintro ⟨message, member, sender, key⟩
      exact ⟨message, List.mem_cons_of_mem _ member, sender, key⟩
  · exact ⟨P.changeState_peer world party _, rfl, rfl⟩

theorem sessionDecrypt_untouched (P : Primitives Priv Dh Key) (world : Sessions Priv Key)
    (party : Party) (fresh : Priv) (header ciphertext : Bytes) :
    Untouched party.peer world (P.sessionDecrypt world party fresh header ciphertext) := by
  unfold sessionDecrypt
  split
  · refine ⟨P.changeState_peer world party _, rfl, ?_⟩
    ext mk
    constructor
    · rintro ⟨message, member, receiver, key⟩
      rcases List.mem_cons.mp member with rfl | member
      · exact absurd receiver.symm party.peer_ne
      · exact ⟨message, member, receiver, key⟩
    · rintro ⟨message, member, receiver, key⟩
      exact ⟨message, List.mem_cons_of_mem _ member, receiver, key⟩
  · exact ⟨P.changeState_peer world party _, rfl, rfl⟩

theorem sessionDecrypt_sent (P : Primitives Priv Dh Key) (world : Sessions Priv Key)
    (party : Party) (fresh : Priv) (header ciphertext : Bytes) :
    (P.sessionDecrypt world party fresh header ciphertext).sent = world.sent := by
  unfold sessionDecrypt
  split <;> rfl

/-- One side of the world, as far along the schedule of keys as `turn` says. -/
def TracedSide (P : Primitives Priv Dh Key) (secret : Key) (sends receives : Set Nat)
    (world : Sessions Priv Key) (party : Party) (turn : Nat) : Prop :=
  P.Traced secret sends receives turn (world.sentKeys party) (world.openedKeys party)
    (world.state party)

theorem TracedSide.untouched {secret : Key} {sends receives : Set Nat} {turn : Nat}
    {after : Sessions Priv Key} (traced : TracedSide P secret sends receives world party turn)
    (same : Untouched party world after) :
    TracedSide P secret sends receives after party turn := by
  rw [TracedSide, same.state, same.sentKeys, same.openedKeys]
  exact traced

theorem sentKeys_cons_subset (world : Sessions Priv Key) (message : SentMessage Key)
    {mk : Key} (key : message.key = some mk) (state : Party → RatchetState Priv Key)
    (held : List PubBytes) (party : Party) :
    Sessions.sentKeys
        { world with state := state, held := held, sent := message :: world.sent } party ⊆
      insert mk (world.sentKeys party) := by
  rintro other ⟨found, member, sender, equal⟩
  rcases List.mem_cons.mp member with rfl | member
  · exact Or.inl (Option.some.inj (equal.symm.trans key))
  · exact Or.inr ⟨found, member, sender, equal⟩

theorem openedKeys_cons_subset (world : Sessions Priv Key) (message : OpenedMessage Key)
    {mk : Key} (key : message.key = some mk) (state : Party → RatchetState Priv Key)
    (held : List PubBytes) (party : Party) :
    Sessions.openedKeys
        { world with state := state, held := held, opened := message :: world.opened } party ⊆
      insert mk (world.openedKeys party) := by
  rintro other ⟨found, member, receiver, equal⟩
  rcases List.mem_cons.mp member with rfl | member
  · exact Or.inl (Option.some.inj (equal.symm.trans key))
  · exact Or.inr ⟨found, member, receiver, equal⟩

section Steps

variable {secret : Key} {sends receives : Set Nat} {turn : Nat}

/-- A call of `encrypt` stays on its chain, or starts one on the next turn. -/
theorem TracedSide.encrypt (free : (P.keyTree secret).Free)
    (traced : TracedSide P secret sends receives world party turn)
    (starts : (world.state party).sendChainKey = none → turn + 1 ∈ sends)
    {after : Sessions Priv Key}
    (result : P.sessionEncrypt world party fresh nonce plaintext = after) :
    ∃ later, TracedSide P secret sends receives after party later ∧
      (later = turn ∧ (after.state party).sendChainKey.isSome =
          (world.state party).sendChainKey.isSome ∨
        later = turn + 1 ∧ (world.state party).sendChainKey = none ∧
          (after.state party).sendChainKey.isSome) := by
  unfold sessionEncrypt at result
  split at result
  · rename_i header ciphertext state outcome
    subst result
    obtain ⟨later, moved, mk, selected, _, _, stepped⟩ := encrypt_traced free traced starts outcome
    refine ⟨later, ?_, ?_⟩
    · have keys := sentKeys_cons_subset world
        ⟨party, P.sendingKey fresh (world.state party), nonce, plaintext, header, ciphertext⟩
        selected (P.changeState world party state).state (P.changeState world party state).held party
      rw [TracedSide, show _ = state from P.changeState_self world party state]
      exact stepped.forget keys (Set.Subset.refl _)
    · rw [show _ = state from P.changeState_self world party state]
      exact moved
  · rename_i raised state outcome
    subst result
    obtain ⟨later, moved, stepped⟩ := encrypt_traced free traced starts outcome
    refine ⟨later, ?_, ?_⟩
    · rw [TracedSide, P.changeState_self]
      exact stepped
    · rw [P.changeState_self]
      exact moved

/-- A call of `decrypt` stays on its turn or moves to the one after next; it stops between
the two only where the generated key pair agrees on nothing. -/
theorem TracedSide.decrypt (free : (P.keyTree secret).Free)
    (traced : TracedSide P secret sends receives world party turn)
    (turns : (∃ long, (world.state party).dhPubRemote ≠ some (headerDhPub header long)) →
      turn + 1 ∈ receives ∧ turn + 2 ∈ sends)
    {after : Sessions Priv Key}
    (result : P.sessionDecrypt world party fresh header ciphertext = after) :
    ∃ later, TracedSide P secret sends receives after party later ∧
      (Moved fresh header turn later (world.state party) (after.state party) ∨
        P.Halted fresh header turn later ∧
          ¬ P.Decrypts world (.decrypt party fresh header ciphertext)) := by
  have select := decryptKey_traced free fresh header traced turns _ rfl
  unfold sessionDecrypt at result
  cases chosen : (P.decryptKey fresh header).run (world.state party) with
  | mk reply state =>
      rw [chosen] at select
      cases reply with
      | ok mk =>
          obtain ⟨unspent, later, moved, stepped⟩ := select
          have opening : (P.decrypt fresh header ciphertext).run (world.state party) =
              (P.decryptWithKey mk ciphertext header).run state := by
            rw [decrypt_eq, Call.run_bind_of_ok chosen]
          have kept := P.decryptWithKey_keeps id mk ciphertext header state
          split at result
          · rename_i plaintext final outcome
            rw [← opening, outcome] at kept
            have kept : final = state := kept
            subst result kept
            refine ⟨later, ?_, Or.inl ?_⟩
            · have keys := openedKeys_cons_subset world
                ⟨party, ((P.decryptKey fresh header).run (world.state party)).1.toOption, header,
                  ciphertext⟩ (by rw [chosen]; rfl) (P.changeState world party final).state
                (P.changeState world party final).held party
              rw [TracedSide, show _ = final from P.changeState_self world party final]
              exact stepped.forget (Set.Subset.refl _) keys
            · rw [show _ = final from P.changeState_self world party final]
              exact moved
          · rename_i raised final outcome
            rw [← opening, outcome] at kept
            have kept : final = state := kept
            subst result kept
            refine ⟨later, ?_, Or.inl ?_⟩
            · rw [TracedSide, P.changeState_self]
              exact stepped.forget (Set.Subset.refl _) (Set.subset_insert _ _)
            · rw [P.changeState_self]
              exact moved
      | error raised =>
          obtain ⟨later, moved, stepped⟩ := select
          have failing : (P.decrypt fresh header ciphertext).run (world.state party) =
              (.error raised, state) := by
            rw [decrypt_eq, Call.run_bind_of_error chosen]
          rw [failing] at result
          subst result
          refine ⟨later, ?_, ?_⟩
          · rw [TracedSide, P.changeState_self]
            exact stepped
          · rw [P.changeState_self]
            refine moved.imp id fun halted => ⟨halted, ?_⟩
            rw [Decrypts, failing]
            exact Bool.false_ne_true

end Steps

section Start

variable {sends receives : Set Nat}

theorem Initialised.sentKeys (start : P.Initialised setup world) (party : Party) :
    world.sentKeys party = ∅ := by
  apply Set.eq_empty_of_forall_notMem
  rintro mk ⟨message, member, _⟩
  rw [start.sent] at member
  cases member

theorem Initialised.openedKeys (start : P.Initialised setup world) (party : Party) :
    world.openedKeys party = ∅ := by
  apply Set.eq_empty_of_forall_notMem
  rintro mk ⟨message, member, _⟩
  rw [start.opened] at member
  cases member

/-- The two sides as the initialisations leave them: one turn of the schedule, on which
alice sends and bob receives. -/
theorem Initialised.state (start : P.Initialised setup world) :
    (∃ dhOut, P.exchange setup.alicePriv (P.publicBytes setup.bobPriv) = some dhOut ∧
      world.state .alice = {
        dhPriv := some setup.alicePriv, dhPubRemote := some (P.publicBytes setup.bobPriv),
        rootKey := some (P.hkdfRk setup.sharedSecret dhOut).1,
        sendChainKey := some (P.hkdfRk setup.sharedSecret dhOut).2 }) ∧
    ∃ dhOut, P.exchange setup.bobPriv (P.publicBytes setup.alicePriv) = some dhOut ∧
      world.state .bob = {
        dhPriv := some setup.bobPriv, dhPubRemote := some (P.publicBytes setup.alicePriv),
        rootKey := some (P.hkdfRk setup.sharedSecret dhOut).1,
        recvChainKey := some (P.hkdfRk setup.sharedSecret dhOut).2 } := by
  have alice := start.alice
  have bob := start.bob
  constructor
  · cases agreed : P.exchange setup.alicePriv (P.publicBytes setup.bobPriv) with
    | none =>
        rw [initializeAsAlice, Call.run_modify_bind] at alice
        simp only [exchangeOn, Call.run_bind, Call.run_require_some] at alice
        rw [show P.exchange (setup.aliceLocal.getD setup.aliceFresh) _ = none from agreed] at alice
        cases alice
    | some dhOut =>
        rw [P.initializeAsAlice_run _ _ _ _ dhOut _ agreed] at alice
        exact ⟨dhOut, rfl, (congrArg Prod.snd alice).symm⟩
  · cases agreed : P.exchange setup.bobPriv (P.publicBytes setup.alicePriv) with
    | none =>
        rw [initializeAsBob, Call.run_modify_bind] at bob
        simp only [exchangeOn, Call.run_bind, Call.run_require_some] at bob
        rw [show P.exchange (setup.bobLocal.getD setup.bobFresh) _ = none from agreed] at bob
        cases bob
    | some dhOut =>
        rw [P.initializeAsBob_run _ _ _ _ dhOut _ agreed] at bob
        exact ⟨dhOut, rfl, (congrArg Prod.snd bob).symm⟩

theorem used_missing {secret : Key} {levels : Set Nat} {turn : Nat} :
    P.Used secret levels turn none ∅ :=
  ⟨none, .missing, nofun, nofun⟩

theorem used_begun {secret ck : Key} {levels : Set Nat} {turn : Nat}
    (chain : P.ChainAt secret ck ⟨turn, 0⟩) (allowed : turn ∈ levels) :
    P.Used secret levels turn (some ck) ∅ := by
  refine ⟨some ⟨turn, 0⟩, .running chain, ?_, nofun⟩
  intro place member
  obtain rfl := Option.mem_some_iff.mp member
  exact ⟨allowed, Nat.le_refl _⟩

theorem received_of_empty_store {secret : Key} {levels : Set Nat} {turn : Nat}
    {state : RatchetState Priv Key} (empty : state.skippedKeys = .empty)
    (used : P.Used secret levels turn state.recvChainKey ∅) :
    P.Received secret levels turn ∅ state := by
  have stored : state.storedKeys = ∅ := by
    apply Set.eq_empty_of_forall_notMem
    rintro mk ⟨name, found⟩
    rw [empty] at found
    cases found
  refine ⟨?_, nofun, ?_⟩
  · rw [stored, Set.union_empty]
    exact used
  · intro name other mk found
    rw [empty] at found
    cases found

theorem Initialised.traced_alice (start : P.Initialised setup world) (sending : 1 ∈ sends) :
    TracedSide P setup.sharedSecret sends receives world .alice 1 := by
  obtain ⟨⟨dhOut, _, state⟩, _⟩ := start.state
  have root : P.RootAt setup.sharedSecret setup.sharedSecret 0 := rootAt_secret
  rw [TracedSide, start.sentKeys, start.openedKeys, state]
  refine ⟨?_, used_begun (root.chain dhOut) sending, received_of_empty_store rfl used_missing⟩
  intro rk same
  cases same
  exact root.root dhOut

theorem Initialised.traced_bob (start : P.Initialised setup world) (receiving : 1 ∈ receives) :
    TracedSide P setup.sharedSecret sends receives world .bob 1 := by
  obtain ⟨_, dhOut, _, state⟩ := start.state
  have root : P.RootAt setup.sharedSecret setup.sharedSecret 0 := rootAt_secret
  rw [TracedSide, start.sentKeys, start.openedKeys, state]
  refine ⟨?_, used_missing, received_of_empty_store rfl (used_begun (root.chain dhOut) receiving)⟩
  intro rk same
  cases same
  exact root.root dhOut

end Start

end Primitives

def toyLabel : Derivation UInt8 → Bytes
  | .root dhOut => [0, dhOut]
  | .chain dhOut => [1, dhOut]
  | .hmac byte => [2, byte]

/-- Primitives small enough to run, whose keys spell out how they were derived and whose
ciphertexts carry their key, with its length in front. -/
def toySpelled : Primitives UInt8 UInt8 Bytes where
  publicBytes priv := Vector.replicate 32 priv
  exchange priv pub := some (priv + pub[0])
  hkdf rk dhOut := (rk ++ toyLabel (.root dhOut), rk ++ toyLabel (.chain dhOut))
  hmac key message := key ++ toyLabel (.hmac message)
  aeadEncrypt key nonce plaintext header :=
    List.replicate key.length 1 ++ 0 :: key ++ (nonce ++ header) ++ plaintext
  aeadDecrypt key nonce ciphertext header :=
    let size := (ciphertext.takeWhile (· == 1)).length
    let sealed := ciphertext.drop (size + 1)
    if sealed.take size = key ∧ (nonce ++ header).isPrefixOf (sealed.drop size) then
      some (sealed.drop (size + (nonce ++ header).length))
    else
      none

theorem toySpelled_key (secret : Bytes) (path : List (Derivation UInt8)) :
    (toySpelled.keyTree secret).key path = secret ++ path.flatMap toyLabel := by
  induction path using List.reverseRecOn with
  | nil => exact (List.append_nil secret).symm
  | append_singleton path label ih =>
      rw [KeyTree.key_append_singleton, ih, List.flatMap_append, List.flatMap_singleton,
        ← List.append_assoc]
      cases label <;> rfl

theorem toyLabel_injective : Function.Injective toyLabel := by
  intro left right same
  cases left <;> cases right <;> simp_all [toyLabel]

theorem toySpelled_free (secret : Bytes) : (toySpelled.keyTree secret).Free := by
  intro left right same
  rw [toySpelled_key, toySpelled_key] at same
  have spelled := List.append_cancel_left same
  clear same
  induction left generalizing right with
  | nil =>
      cases right with
      | nil => rfl
      | cons label right => cases label <;> cases spelled
  | cons label left ih =>
      cases right with
      | nil => cases label <;> cases spelled
      | cons other right =>
          rw [List.flatMap_cons, List.flatMap_cons] at spelled
          have sizes : (toyLabel label).length = (toyLabel other).length := by
            cases label <;> cases other <;> rfl
          obtain ⟨head, tail⟩ := List.append_inj spelled sizes
          rw [toyLabel_injective head, ih tail]

def toyPair : Setup UInt8 Bytes where
  sharedSecret := [7]
  aliceLocal := some 1
  aliceFresh := 2
  bobLocal := none
  bobFresh := 3

def toyMoment : Bytes := List.replicate 24 9

def toyOpening : Sessions UInt8 Bytes where
  state
    | .alice => ((toySpelled.initializeAsAlice 2 (toySpelled.publicBytes 3) [7] (some 1)).run {}).2
    | .bob => ((toySpelled.initializeAsBob 3 (toySpelled.publicBytes 1) [7] none).run {}).2
  held := [toySpelled.publicBytes 1, toySpelled.publicBytes 3]
  sent := []
  opened := []

theorem toyOpening_initialised : toySpelled.Initialised toyPair toyOpening :=
  ⟨rfl, rfl, rfl, rfl, rfl⟩

/-- What the network has for the other side, the latest message first. -/
def Sessions.packet {Priv Key : Type} (world : Sessions Priv Key) (index : Nat) : Bytes × Bytes :=
  ((world.sent[index]?).map fun message => (message.header, message.ciphertext)).getD ([], [])

/-- Alice sends twice, the second message overtakes the first, Bob replies, Alice answers. -/
def toyExchange : List (Sessions UInt8 Bytes → SessionEvent UInt8) :=
  [fun _ => .encrypt .alice 10 toyMoment [1],
   fun _ => .encrypt .alice 11 toyMoment [2],
   fun world => .decrypt .bob 12 (world.packet 0).1 (world.packet 0).2,
   fun world => .decrypt .bob 13 (world.packet 1).1 (world.packet 1).2,
   fun _ => .encrypt .bob 14 toyMoment [3],
   fun world => .decrypt .alice 15 (world.packet 0).1 (world.packet 0).2,
   fun _ => .encrypt .alice 16 toyMoment [4]]

def toyExchanged : Sessions UInt8 Bytes :=
  (toySpelled.sessions toyPair).run toyOpening toyExchange

end UltimateEnigma.DoubleRatchet
