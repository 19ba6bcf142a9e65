import UltimateEnigma.RatchetView

set_option autoImplicit false

namespace UltimateEnigma.DoubleRatchet

open Py Ladder

variable {Priv Dh Key : Type}

namespace Primitives

variable (P : Primitives Priv Dh Key) (secret : Key) (ladder : Ladder Priv)

/-- A packet is the message its place on the ladder says. -/
structure Genuine (packet : Packet) : Prop where
  sender : owner (ladder.place packet.position).1 = packet.sender
  header : HeaderOf packet.header (ladder.place packet.position).2
    (ladder.count ((ladder.place packet.position).1 - 2))
    (P.pubAt ladder (ladder.place packet.position).1)
  body : ∃ nonce, nonce.length = xchacha20NonceSize ∧
    packet.ciphertext = nonce ++ P.aeadEncrypt
      (P.messageKey (P.chainAt secret ladder (ladder.place packet.position).1)
        (ladder.place packet.position).2) nonce packet.plaintext packet.header

/-- A message of this number on this rung is still in flight. -/
def InFlightAt (world : Conversation Priv Key) (rung number : Nat) : Prop :=
  ∃ packet ∈ world.inFlight, ladder.place packet.position = (rung, number)

/-- Both states and the network, all on one ladder. -/
structure Synced (world : Conversation Priv Key) : Prop where
  balanced : ladder.Balanced
  view : ∀ party, P.View secret ladder party (world.state party)
  apart : ∀ low high, low < high → 2 ≤ high → high ≤ ladder.top →
    P.pubAt ladder low ≠ P.pubAt ladder high
  held : ∀ rung ≤ ladder.top, P.pubAt ladder rung ∈ world.held
  footUnsent : ladder.count 0 = 0
  unsent : ∀ rung, ladder.top < rung → ladder.count rung = 0
  placed : ∀ position < world.sent, 1 ≤ (ladder.place position).1 ∧
    (ladder.place position).1 ≤ ladder.level (owner (ladder.place position).1) ∧
    (ladder.place position).2 < ladder.count (ladder.place position).1
  ordered : ∀ early late, early < late → late < world.sent →
    owner (ladder.place early).1 = owner (ladder.place late).1 →
    (ladder.place early).1 < (ladder.place late).1 ∨
      (ladder.place early).1 = (ladder.place late).1 ∧
        (ladder.place early).2 < (ladder.place late).2
  packets : ∀ packet ∈ world.inFlight, packet.position < world.sent ∧
    P.Genuine secret ladder packet
  distinct : (world.inFlight.map Packet.position).Nodup
  reached : ∀ party, (world.state party).recvMsgNum ≤
    ladder.count (remoteLevel (ladder.level party))
  kept : ∀ party, Kept (P.pubAt ladder (remoteLevel (ladder.level party)))
    (InFlightAt ladder world (remoteLevel (ladder.level party))) (world.state party)

variable {P secret ladder} {world : Conversation Priv Key}

/-- Only the membership of the held keys matters. -/
theorem Synced.regrow {other : Conversation Priv Key} (synced : P.Synced secret ladder world)
    (state : other.state = world.state) (sent : other.sent = world.sent)
    (inFlight : other.inFlight = world.inFlight)
    (held : ∀ pub ∈ world.held, pub ∈ other.held) : P.Synced secret ladder other := by
  constructor
  · exact synced.balanced
  · rw [state]
    exact synced.view
  · exact synced.apart
  · exact fun rung inside => held _ (synced.held rung inside)
  · exact synced.footUnsent
  · exact synced.unsent
  · rw [sent]
    exact synced.placed
  · rw [sent]
    exact synced.ordered
  · rw [sent, inFlight]
    exact synced.packets
  · rw [inFlight]
    exact synced.distinct
  · rw [state]
    exact synced.reached
  · rw [state]
    intro party number wanted
    obtain ⟨packet, member, place⟩ := wanted
    rw [inFlight] at member
    exact synced.kept party number ⟨packet, member, place⟩

theorem Synced.apart_remote (synced : P.Synced secret ladder world) (party : Party) :
    ∀ rung, 1 ≤ rung → rung < remoteLevel (ladder.level party) →
      P.pubAt ladder rung ≠ P.pubAt ladder (remoteLevel (ladder.level party)) := by
  intro rung positive below
  have bounded := synced.balanced.remoteLevel_le party
  have top := ladder.level_le_top party.peer
  exact synced.apart rung _ below (by omega) (by omega)

/-- The side behind turns its ratchet. -/
theorem Synced.climb (synced : P.Synced secret ladder world) {party : Party} {fresh : Priv}
    {after : RatchetState Priv Key} (behind : ladder.level party.peer = ladder.level party + 1)
    (new : P.publicBytes fresh ∉ world.held)
    (view : P.View secret (ladder.climb party fresh) party after)
    (reached : after.recvMsgNum ≤ ladder.count (remoteLevel (ladder.level party + 2)))
    (kept : Kept (P.pubAt ladder (remoteLevel (ladder.level party + 2)))
      (InFlightAt ladder world (remoteLevel (ladder.level party + 2))) after) :
    P.Synced secret (ladder.climb party fresh) (P.updateState world party after) := by
  have oldTop : ladder.top = ladder.level party + 1 := by
    rw [top_eq_max party, behind]
    omega
  have samePub : ∀ rung ≤ ladder.top,
      P.pubAt (ladder.climb party fresh) rung = P.pubAt ladder rung :=
    fun rung inside => pubAt_climb fresh (by omega)
  have topPub : P.pubAt (ladder.climb party fresh) (ladder.level party + 2) =
      P.publicBytes fresh := by
    rw [pubAt, climb_priv_top]
  have ownRemote : remoteLevel (ladder.level party + 2) ≤ ladder.top := by
    rw [remoteLevel_of_ne (by omega)]
    omega
  have peerRemote : remoteLevel (ladder.level party.peer) ≤ ladder.top := by
    rw [behind, remoteLevel_of_ne (by omega)]
    omega
  constructor
  · exact synced.balanced.climb fresh behind
  · intro other
    rcases party.eq_or_eq_peer other with rfl | rfl
    · rw [updateState_self]
      exact view
    · rw [updateState_peer]
      refine (synced.view party.peer).congr (fun index inside => climb_priv_of_lt (by omega))
        (climb_level_peer party fresh) rfl rfl
  · intro low high below two inside
    rw [climb_top fresh behind] at inside
    rw [samePub low (by omega)]
    by_cases last : high = ladder.level party + 2
    · intro same
      rw [last, topPub] at same
      exact new (same ▸ synced.held low (by omega))
    · rw [samePub high (by omega)]
      exact synced.apart low high below two (by omega)
  · intro rung inside
    rw [climb_top fresh behind] at inside
    by_cases last : rung = ladder.level party + 2
    · rw [last, topPub]
      have own := view.own
      rw [climb_level, climb_priv_top] at own
      simp [updateState, own]
    · rw [samePub rung (by omega)]
      exact List.mem_append_right _ (synced.held rung (by omega))
  · exact synced.footUnsent
  · intro rung above
    rw [climb_top fresh behind] at above
    exact synced.unsent rung (by omega)
  · intro position before
    obtain ⟨positive, bounded, counted⟩ := synced.placed position before
    refine ⟨positive, ?_, counted⟩
    rcases party.eq_or_eq_peer (owner (ladder.place position).1) with own | own
    · rw [climb_place, own, climb_level]
      rw [own] at bounded
      omega
    · rw [climb_place, own, climb_level_peer]
      rwa [own] at bounded
  · exact synced.ordered
  · intro packet member
    obtain ⟨sent, genuine⟩ := synced.packets packet member
    obtain ⟨positive, bounded, counted⟩ := synced.placed packet.position sent
    have top := ladder.level_le_top (owner (ladder.place packet.position).1)
    have below : ∀ index ≤ (ladder.place packet.position).1,
        ladder.priv index = (ladder.climb party fresh).priv index :=
      fun index inside => climb_priv_of_lt (by omega)
    refine ⟨sent, genuine.sender, ?_, ?_⟩
    · rw [climb_place, climb_count, samePub _ (by omega)]
      exact genuine.header
    · rw [climb_place, ← chainAt_congr below]
      exact genuine.body
  · exact synced.distinct
  · intro other
    rcases party.eq_or_eq_peer other with rfl | rfl
    · rw [updateState_self, climb_level]
      exact reached
    · rw [updateState_peer, climb_level_peer]
      exact synced.reached party.peer
  · intro other
    rcases party.eq_or_eq_peer other with rfl | rfl
    · rw [updateState_self, climb_level, samePub _ ownRemote]
      exact kept
    · rw [updateState_peer, climb_level_peer,
        samePub _ peerRemote]
      exact synced.kept party.peer

/-- A rung two above a side's own is above all its messages. -/
theorem Synced.place_sub_ne (synced : P.Synced secret ladder world) {party : Party}
    (climbed : ladder.level party ≠ 0) {position : Nat} (before : position < world.sent) :
    (ladder.place position).1 - 2 ≠ ladder.level party := by
  intro same
  obtain ⟨_, bounded, _⟩ := synced.placed position before
  have mine : owner (ladder.place position).1 = party := by
    rw [← synced.balanced.owner_level party, owner_eq_iff]
    omega
  rw [mine] at bounded
  omega

/-- One side sends a message of its current chain. -/
theorem Synced.send (synced : P.Synced secret ladder world) {party : Party}
    {after : RatchetState Priv Key} (climbed : ladder.level party ≠ 0) {packet : Packet}
    (sender : packet.sender = party) (position : packet.position = world.sent)
    (named : HeaderOf packet.header (ladder.count (ladder.level party))
      (ladder.count (ladder.level party - 2)) (P.pubAt ladder (ladder.level party)))
    (body : ∃ nonce, nonce.length = xchacha20NonceSize ∧
      packet.ciphertext = nonce ++ P.aeadEncrypt
        (P.messageKey (P.chainAt secret ladder (ladder.level party))
          (ladder.count (ladder.level party))) nonce packet.plaintext packet.header)
    (view : P.View secret (ladder.send party world.sent) party after)
    (store : after.skippedKeys = (world.state party).skippedKeys)
    (counter : after.recvMsgNum = (world.state party).recvMsgNum) :
    P.Synced secret (ladder.send party world.sent)
      { P.updateState world party after with
        sent := world.sent + 1
        inFlight := world.inFlight ++ [packet] } := by
  have owners := synced.balanced.owner_level
  have alice := synced.balanced.alice
  have bob := synced.balanced.bob
  have earlier : ∀ old < world.sent,
      (ladder.send party world.sent).place old = ladder.place old :=
    fun old before => send_place_of_ne (Nat.ne_of_lt before)
  have peerOwn : ladder.level party.peer ≠ ladder.level party := by
    intro same
    have clash := owners party.peer
    rw [same, owners party] at clash
    exact party.peer_ne clash.symm
  have peerOld : ladder.level party.peer - 2 ≠ ladder.level party := by
    have parity := owner_eq_iff.not.mp ((owners party.peer).trans_ne
      (party.peer_ne.trans_eq (owners party).symm))
    omega
  constructor
  · exact ⟨alice, bob, synced.balanced.ahead, synced.balanced.behind⟩
  · intro other
    rcases party.eq_or_eq_peer other with rfl | rfl
    · rw [updateState_self]
      exact view
    · rw [updateState_peer]
      exact (synced.view party.peer).congr (fun _ _ => rfl) rfl (send_count_of_ne peerOwn)
        (send_count_of_ne peerOld)
  · exact synced.apart
  · exact fun rung inside => List.mem_append_right _ (synced.held rung inside)
  · rw [send_count_of_ne (Ne.symm climbed)]
    exact synced.footUnsent
  · intro rung above
    have above : ladder.top < rung := above
    have own := ladder.level_le_top party
    rw [send_count_of_ne (by omega)]
    exact synced.unsent rung above
  · intro old before
    by_cases last : old = world.sent
    · rw [last, send_place_self, send_level, owners, send_count_self]
      exact ⟨by omega, Nat.le_refl _, Nat.lt_succ_self _⟩
    · have before : old < world.sent := by
        have before : old < world.sent + 1 := before
        omega
      obtain ⟨positive, bounded, counted⟩ := synced.placed old before
      rw [earlier old before]
      exact ⟨positive, bounded, Nat.lt_of_lt_of_le counted (le_send_count _ _ _)⟩
  · intro early late before inside sameOwner
    have inside : late < world.sent + 1 := inside
    rw [earlier early (by omega)] at sameOwner ⊢
    by_cases last : late = world.sent
    · rw [last, send_place_self] at sameOwner ⊢
      rw [owners] at sameOwner
      obtain ⟨_, bounded, counted⟩ := synced.placed early (by omega)
      rw [sameOwner] at bounded
      by_cases same : (ladder.place early).1 = ladder.level party
      · rw [same] at counted
        exact Or.inr ⟨same, counted⟩
      · exact Or.inl (by omega)
    · rw [earlier late (by omega)] at sameOwner ⊢
      exact synced.ordered early late before (by omega) sameOwner
  · intro other member
    rcases List.mem_append.mp member with old | new
    · obtain ⟨before, genuine⟩ := synced.packets other old
      refine ⟨Nat.lt_succ_of_lt before, ?_, ?_, ?_⟩
      · rw [earlier _ before]
        exact genuine.sender
      · rw [earlier _ before, send_count_of_ne (synced.place_sub_ne climbed before)]
        exact genuine.header
      · rw [earlier _ before]
        exact genuine.body
    · rw [List.mem_singleton] at new
      subst new
      refine ⟨by rw [position]; exact Nat.lt_succ_self _, ?_, ?_, ?_⟩
      · rw [position, send_place_self, owners, sender]
      · rw [position, send_place_self, send_count_of_ne (by omega)]
        exact named
      · rw [position, send_place_self]
        exact body
  · rw [List.map_append]
    refine List.nodup_append.mpr ⟨synced.distinct, List.nodup_singleton _, ?_⟩
    intro old member last new same
    obtain ⟨other, inside, rfl⟩ := List.mem_map.mp member
    rw [List.map_singleton, List.mem_singleton] at new
    have before := (synced.packets other inside).1
    omega
  · intro other
    rcases party.eq_or_eq_peer other with rfl | rfl
    · rw [updateState_self, counter]
      exact Nat.le_trans (synced.reached _) (le_send_count _ _ _)
    · rw [updateState_peer]
      exact Nat.le_trans (synced.reached _) (le_send_count _ _ _)
  · intro other number wanted below
    obtain ⟨flying, member, place⟩ := wanted
    have current : number < (world.state other).recvMsgNum := by
      rcases party.eq_or_eq_peer other with rfl | rfl
      · rwa [updateState_self, counter] at below
      · rwa [updateState_peer] at below
    have found : ((world.state other).skippedKeys.get?
        (P.pubAt ladder (remoteLevel (ladder.level other)), number)).isSome := by
      rcases List.mem_append.mp member with old | new
      · rw [earlier _ (synced.packets flying old).1] at place
        exact synced.kept other number ⟨flying, old, place⟩ current
      · rw [List.mem_singleton] at new
        rw [new, position, send_place_self, send_level, Prod.mk.injEq] at place
        have counted := synced.reached other
        rw [← place.1, place.2] at counted
        omega
    rcases party.eq_or_eq_peer other with rfl | rfl
    · rw [updateState_self, store]
      exact found
    · rw [updateState_peer]
      exact found

/-- Losing a packet loses nothing else. -/
theorem Synced.lose (synced : P.Synced secret ladder world) (packet : Packet) :
    P.Synced secret ladder { world with inFlight := world.inFlight.erase packet } := by
  refine ⟨synced.balanced, synced.view, synced.apart, synced.held, synced.footUnsent,
    synced.unsent, synced.placed, synced.ordered, ?_, ?_, synced.reached, ?_⟩
  · intro other member
    exact synced.packets other (List.mem_of_mem_erase member)
  · exact synced.distinct.sublist ((List.erase_sublist).map Packet.position)
  · intro party number wanted
    obtain ⟨flying, member, place⟩ := wanted
    exact synced.kept party number ⟨flying, List.mem_of_mem_erase member, place⟩

/-- Two messages of one place are the same packet. -/
theorem Synced.eq_of_place (synced : P.Synced secret ladder world) {left right : Packet}
    (leftInside : left ∈ world.inFlight) (rightInside : right ∈ world.inFlight)
    (same : ladder.place left.position = ladder.place right.position) : left = right := by
  have leftSent := (synced.packets left leftInside).1
  have rightSent := (synced.packets right rightInside).1
  have position : left.position = right.position := by
    rcases Nat.lt_trichotomy left.position right.position with before | equal | after
    · have order := synced.ordered _ _ before rightSent (by rw [same])
      rw [same] at order
      omega
    · exact equal
    · have order := synced.ordered _ _ after leftSent (by rw [same])
      rw [same] at order
      omega
  exact List.inj_on_of_nodup_map synced.distinct leftInside rightInside position

/-- A packet of the chain that its receiver stands on opens. -/
theorem Synced.receive (lawful : P.Lawful) (synced : P.Synced secret ladder world)
    {packet : Packet} (arrives : packet ∈ world.inFlight)
    (current : (ladder.place packet.position).1 =
      remoteLevel (ladder.level packet.sender.peer))
    (near : (ladder.place packet.position).2 -
      (world.state packet.sender.peer).recvMsgNum ≤ maxSkipDistance)
    (room : (world.state packet.sender.peer).recvMsgNum ≤ (ladder.place packet.position).2 →
      (world.state packet.sender.peer).skippedKeys.size +
        ((ladder.place packet.position).2 -
          (world.state packet.sender.peer).recvMsgNum) ≤ maxSkippedKeys)
    (delivered : List Packet) :
    ∃ after,
      (P.decryptOnChain (P.pubAt ladder (ladder.place packet.position).1)
        (ladder.place packet.position).2 packet.header packet.ciphertext).run
          (world.state packet.sender.peer) = (.ok packet.plaintext, after) ∧
      after.dhPriv = (world.state packet.sender.peer).dhPriv ∧
      P.Synced secret ladder
        { P.updateState world packet.sender.peer after with
          inFlight := world.inFlight.erase packet
          delivered := delivered } := by
  obtain ⟨sent, genuine⟩ := synced.packets packet arrives
  obtain ⟨positive, _, counted⟩ := synced.placed packet.position sent
  obtain ⟨nonce, size, body⟩ := genuine.body
  have lost := synced.lose packet
  have chained : remoteLevel (ladder.level packet.sender.peer) ≠ 0 := by omega
  have long : xchacha20NonceSize ≤ packet.ciphertext.length := by
    rw [body, List.length_append]
    omega
  have opens : P.aeadDecrypt
      (P.messageKey (P.chainAt secret ladder (remoteLevel (ladder.level packet.sender.peer)))
        (ladder.place packet.position).2)
      (packet.ciphertext.take xchacha20NonceSize) (packet.ciphertext.drop xchacha20NonceSize)
      packet.header = some packet.plaintext := by
    rw [body, ← size, List.take_left, List.drop_left, ← current]
    exact lawful.opens _ _ _ _
  obtain ⟨after, opened, view, own, reached, kept⟩ :=
    (synced.view packet.sender.peer).decryptOnChain chained (synced.apart_remote _) long opens
      (synced.kept packet.sender.peer) ⟨packet, arrives, by rw [← current]⟩ near room
  rw [current]
  refine ⟨after, opened, own, synced.balanced, ?_, synced.apart, ?_, synced.footUnsent,
    synced.unsent, synced.placed, synced.ordered, lost.packets, lost.distinct, ?_, ?_⟩
  · intro other
    rcases packet.sender.peer.eq_or_eq_peer other with rfl | rfl
    · rw [updateState_self]
      exact view
    · rw [updateState_peer]
      exact synced.view _
  · exact fun rung inside => List.mem_append_right _ (synced.held rung inside)
  · intro other
    rcases packet.sender.peer.eq_or_eq_peer other with rfl | rfl
    · have before := synced.reached packet.sender.peer
      rw [updateState_self]
      rw [current] at counted
      omega
    · rw [updateState_peer]
      exact synced.reached _
  · intro other number wanted below
    obtain ⟨flying, member, place⟩ := wanted
    rcases packet.sender.peer.eq_or_eq_peer other with rfl | rfl
    · rw [updateState_self] at below ⊢
      refine kept number ⟨⟨flying, List.mem_of_mem_erase member, place⟩, ?_⟩ below
      intro same
      have again : flying = packet := by
        apply synced.eq_of_place (List.mem_of_mem_erase member) arrives
        rw [place, same, ← current]
      rw [again] at member
      exact (List.Nodup.mem_erase_iff (List.Nodup.of_map _ synced.distinct)).mp member |>.1 rfl
    · rw [updateState_peer] at below ⊢
      exact lost.kept _ number ⟨flying, member, place⟩ below

end Primitives

end UltimateEnigma.DoubleRatchet
