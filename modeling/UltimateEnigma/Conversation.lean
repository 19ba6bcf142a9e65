import UltimateEnigma.DoubleRatchetSteps
import UltimateEnigma.Machine
import Mathlib.Logic.Function.Basic

set_option autoImplicit false

namespace UltimateEnigma.DoubleRatchet

open Py

inductive Party where
  | alice
  | bob
deriving DecidableEq, Repr, Inhabited

def Party.peer : Party → Party
  | .alice => .bob
  | .bob => .alice

theorem Party.peer_ne (party : Party) : party.peer ≠ party := by cases party <;> decide

theorem Party.eq_or_eq_peer (party other : Party) : other = party ∨ other = party.peer := by
  cases party <;> cases other <;> decide

@[simp] theorem Party.peer_peer (party : Party) : party.peer.peer = party := by
  cases party <;> rfl

/-- A message on the network, with its place among all messages sent and the plaintext
that went into it. -/
structure Packet where
  sender : Party
  position : Nat
  header : Bytes
  ciphertext : Bytes
  plaintext : Bytes
deriving DecidableEq, Inhabited

def headerPub (header : Bytes) : Option PubBytes :=
  if long : 40 ≤ header.length then some (headerDhPub header long) else none

/-- Two sessions and the network between them. `held` lists the public keys of every
key pair that either side has had. -/
structure Conversation (Priv Key : Type) where
  state : Party → RatchetState Priv Key
  held : List PubBytes
  sent : Nat
  inFlight : List Packet
  delivered : List Packet

/-- `fresh` is the key pair that the call generates where it generates one. -/
inductive Event (Priv : Type) where
  | encrypt (party : Party) (fresh : Priv) (nonce plaintext : Bytes)
  | deliver (packet : Packet) (fresh : Priv)
  | lose (packet : Packet)
deriving DecidableEq

/-- What the two initialisations are given: a key pair that was made before, or none
and then the pair that is generated inside. -/
structure Setup (Priv Key : Type) where
  sharedSecret : Key
  aliceLocal : Option Priv
  aliceFresh : Priv
  bobLocal : Option Priv
  bobFresh : Priv

def Setup.alicePriv {Priv Key : Type} (setup : Setup Priv Key) : Priv :=
  setup.aliceLocal.getD setup.aliceFresh

def Setup.bobPriv {Priv Key : Type} (setup : Setup Priv Key) : Priv :=
  setup.bobLocal.getD setup.bobFresh

section Allowed

variable {Priv Key : Type}

/-- The receiver has already taken a message of a newer chain of the same sender. -/
def Late (world : Conversation Priv Key) (packet : Packet) : Prop :=
  ∃ newer ∈ world.delivered, newer.sender = packet.sender ∧
    packet.position < newer.position ∧ headerPub newer.header ≠ headerPub packet.header

instance (world : Conversation Priv Key) (packet : Packet) : Decidable (Late world packet) :=
  inferInstanceAs (Decidable (∃ newer ∈ world.delivered, _))

/-- How many keys `prev_chain_len` makes the receiver step over. -/
def closingSkips (state : RatchetState Priv Key) (header : Bytes) : Nat :=
  if state.dhPubRemote = headerPub header ∨ state.recvChainKey.isNone then 0
  else headerPrevChainLen header - state.recvMsgNum

/-- How many keys `msg_num` makes the receiver step over. -/
def openingSkips (state : RatchetState Priv Key) (header : Bytes) : Nat :=
  if state.dhPubRemote = headerPub header then headerMsgNum header - state.recvMsgNum
  else headerMsgNum header

/-- The delivery stays within both limits of the receiver. -/
structure WithinLimits (state : RatchetState Priv Key) (header : Bytes) : Prop where
  closing : closingSkips state header ≤ maxSkipDistance
  opening : openingSkips state header ≤ maxSkipDistance
  room : state.skippedKeys.size + closingSkips state header + openingSkips state header ≤
    maxSkippedKeys

instance (state : RatchetState Priv Key) (header : Bytes) :
    Decidable (WithinLimits state header) :=
  decidable_of_iff (_ ∧ _ ∧ _)
    ⟨fun all => ⟨all.1, all.2.1, all.2.2⟩, fun limits => ⟨limits.1, limits.2, limits.3⟩⟩

def CountersFit (state : RatchetState Priv Key) : Prop :=
  state.sendMsgNum < 2 ^ 32 ∧ state.recvMsgNum < 2 ^ 32 ∧ state.prevSendChainLen < 2 ^ 32

instance (state : RatchetState Priv Key) : Decidable (CountersFit state) :=
  inferInstanceAs (Decidable (_ ∧ _ ∧ _))

/-- No late message, no limit exceeded, no counter worn out. -/
def Orderly (world : Conversation Priv Key) : Event Priv → Prop
  | .encrypt party _ _ _ => CountersFit (world.state party)
  | .deliver packet _ =>
      ¬ Late world packet ∧ WithinLimits (world.state packet.sender.peer) packet.header
  | .lose _ => True

instance (world : Conversation Priv Key) : (event : Event Priv) →
    Decidable (Orderly world event)
  | .encrypt party _ _ _ => inferInstanceAs (Decidable (CountersFit (world.state party)))
  | .deliver packet _ =>
      inferInstanceAs (Decidable (¬ Late world packet ∧
        WithinLimits (world.state packet.sender.peer) packet.header))
  | .lose _ => inferInstanceAs (Decidable True)

end Allowed

/-- What the ratchet relies on. -/
structure Primitives.Lawful {Priv Dh Key : Type} (P : Primitives Priv Dh Key) : Prop where
  commutes (left right : Priv) :
    P.exchange left (P.publicBytes right) = P.exchange right (P.publicBytes left)
  agrees (left right : Priv) : (P.exchange left (P.publicBytes right)).isSome
  opens (key : Key) (nonce plaintext header : Bytes) :
    P.aeadDecrypt key nonce (P.aeadEncrypt key nonce plaintext header) header = some plaintext

namespace Primitives

variable {Priv Dh Key : Type} (P : Primitives Priv Dh Key)

def startConversation (setup : Setup Priv Key) : Conversation Priv Key where
  state
    | .alice => ((P.initializeAsAlice setup.aliceFresh (P.publicBytes setup.bobPriv)
        setup.sharedSecret setup.aliceLocal).run {}).2
    | .bob => ((P.initializeAsBob setup.bobFresh (P.publicBytes setup.alicePriv)
        setup.sharedSecret setup.bobLocal).run {}).2
  held := [P.publicBytes setup.alicePriv, P.publicBytes setup.bobPriv]
  sent := 0
  inFlight := []
  delivered := []

/-- The world with one side's new state, and the key pair it now has. -/
def updateState (world : Conversation Priv Key) (party : Party)
    (after : RatchetState Priv Key) : Conversation Priv Key :=
  { world with
    state := Function.update world.state party after
    held := (after.dhPriv.map P.publicBytes).toList ++ world.held }

@[simp] theorem updateState_self (world : Conversation Priv Key) (party : Party)
    (after : RatchetState Priv Key) : (P.updateState world party after).state party = after :=
  Function.update_self _ _ _

@[simp] theorem updateState_peer (world : Conversation Priv Key) (party : Party)
    (after : RatchetState Priv Key) :
    (P.updateState world party after).state party.peer = world.state party.peer :=
  Function.update_of_ne party.peer_ne _ _

def applyEncrypt (world : Conversation Priv Key) (party : Party) (fresh : Priv)
    (nonce plaintext : Bytes) : Conversation Priv Key :=
  match (P.encrypt fresh nonce plaintext).run (world.state party) with
  | (.ok (header, ciphertext), after) =>
      { P.updateState world party after with
        sent := world.sent + 1
        inFlight := world.inFlight ++ [⟨party, world.sent, header, ciphertext, plaintext⟩] }
  | (.error _, after) => P.updateState world party after

def applyDeliver (world : Conversation Priv Key) (packet : Packet) (fresh : Priv) :
    Conversation Priv Key :=
  { P.updateState world packet.sender.peer
      ((P.decrypt fresh packet.header packet.ciphertext).run
        (world.state packet.sender.peer)).2 with
    inFlight := world.inFlight.erase packet
    delivered := packet :: world.delivered }

/-- Two sessions with matching keys over a network that delays, reorders and loses
messages but delivers each at most once. A generated key is one nobody has had. -/
def conversation (setup : Setup Priv Key) : Machine (Conversation Priv Key) (Event Priv) where
  start world := world = P.startConversation setup
  enabled world
    | .encrypt _ fresh nonce _ =>
        P.publicBytes fresh ∉ world.held ∧ nonce.length = xchacha20NonceSize
    | .deliver packet fresh => packet ∈ world.inFlight ∧ P.publicBytes fresh ∉ world.held
    | .lose packet => packet ∈ world.inFlight
  apply world
    | .encrypt party fresh nonce plaintext => P.applyEncrypt world party fresh nonce plaintext
    | .deliver packet fresh => P.applyDeliver world packet fresh
    | .lose packet => { world with inFlight := world.inFlight.erase packet }

instance (setup : Setup Priv Key) (world : Conversation Priv Key) :
    (event : Event Priv) → Decidable ((P.conversation setup).enabled world event)
  | .encrypt _ fresh nonce _ =>
      inferInstanceAs (Decidable
        (P.publicBytes fresh ∉ world.held ∧ nonce.length = xchacha20NonceSize))
  | .deliver packet fresh =>
      inferInstanceAs (Decidable
        (packet ∈ world.inFlight ∧ P.publicBytes fresh ∉ world.held))
  | .lose packet => inferInstanceAs (Decidable (packet ∈ world.inFlight))

end Primitives

end UltimateEnigma.DoubleRatchet
