import UltimateEnigma.Conversation

set_option autoImplicit false

namespace UltimateEnigma.DoubleRatchet

open Py

/-- What both sides derive in turn: Bob's first key pair is at the foot, Alice's on the
first rung, and every later one belongs to the side whose turn it was. -/
structure Ladder (Priv : Type) where
  priv : Nat → Priv
  /-- messages sent on the chain of each rung -/
  count : Nat → Nat
  /-- rung and message number of each message sent -/
  place : Nat → Nat × Nat
  level : Party → Nat

/-- Whose sending chain a rung is. -/
def owner (rung : Nat) : Party := if rung % 2 = 1 then .alice else .bob

/-- The rung whose public key the side at this level holds as the remote one. -/
def remoteLevel (level : Nat) : Nat := if level = 0 then 1 else level - 1

theorem remoteLevel_of_ne {level : Nat} (climbed : level ≠ 0) : remoteLevel level = level - 1 :=
  if_neg climbed

namespace Ladder

variable {Priv : Type} (ladder : Ladder Priv)

def top : Nat := max (ladder.level .alice) (ladder.level .bob)

/-- One side turns its ratchet: its new key pair is the new top rung. -/
def climb (party : Party) (fresh : Priv) : Ladder Priv :=
  { ladder with
    priv := Function.update ladder.priv (ladder.level party + 2) fresh
    level := Function.update ladder.level party (ladder.level party + 2) }

/-- One side sends the next message of its chain. -/
def send (party : Party) (position : Nat) : Ladder Priv :=
  { ladder with
    count := Function.update ladder.count (ladder.level party)
      (ladder.count (ladder.level party) + 1)
    place := Function.update ladder.place position
      (ladder.level party, ladder.count (ladder.level party)) }

theorem level_le_top (party : Party) : ladder.level party ≤ ladder.top := by
  cases party with
  | alice => exact Nat.le_max_left _ _
  | bob => exact Nat.le_max_right _ _

/-- The levels are where the two sides' turns leave them. -/
structure Balanced : Prop where
  alice : ladder.level .alice % 2 = 1
  bob : ladder.level .bob % 2 = 0
  ahead : ladder.level .alice ≤ ladder.level .bob + 1
  behind : ladder.level .bob ≤ ladder.level .alice + 1

variable {ladder}

theorem Balanced.owner_level (balanced : ladder.Balanced) (party : Party) :
    owner (ladder.level party) = party := by
  have alice := balanced.alice
  have bob := balanced.bob
  cases party with
  | alice => simp only [owner, alice, ↓reduceIte]
  | bob => simp only [owner, bob, Nat.zero_ne_one, ↓reduceIte]

/-- Two rungs of one side are an even distance apart. -/
theorem owner_eq_iff {low high : Nat} : owner low = owner high ↔ low % 2 = high % 2 := by
  unfold owner
  constructor
  · intro same
    split at same <;> split at same <;> first | omega | cases same
  · intro same
    simp only [same]

theorem Balanced.remoteLevel_le (balanced : ladder.Balanced) (party : Party) :
    remoteLevel (ladder.level party) ≤ ladder.level party.peer := by
  have alice := balanced.alice
  have bob := balanced.bob
  have ahead := balanced.ahead
  have behind := balanced.behind
  unfold remoteLevel
  cases party with
  | alice =>
      simp only [Party.peer]
      split <;> omega
  | bob =>
      simp only [Party.peer]
      split <;> omega

/-- A packet of the peer that is ahead of the receiver is on the peer's own level. -/
theorem Balanced.next_of_remote_lt (balanced : ladder.Balanced) {party : Party} {rung : Nat}
    (from_peer : owner rung = party.peer) (reached : rung ≤ ladder.level party.peer)
    (newer : remoteLevel (ladder.level party) < rung) :
    ladder.level party ≠ 0 ∧ rung = ladder.level party + 1 ∧
      ladder.level party.peer = ladder.level party + 1 := by
  have alice := balanced.alice
  have bob := balanced.bob
  have ahead := balanced.ahead
  have behind := balanced.behind
  rw [← balanced.owner_level party.peer, owner_eq_iff] at from_peer
  unfold remoteLevel at newer
  cases party with
  | alice =>
      simp only [Party.peer] at reached from_peer ⊢
      split at newer <;> omega
  | bob =>
      simp only [Party.peer] at reached from_peer ⊢
      split at newer <;> omega

theorem top_eq_max (party : Party) :
    ladder.top = max (ladder.level party) (ladder.level party.peer) := by
  cases party with
  | alice => rfl
  | bob => exact Nat.max_comm _ _

theorem climb_priv_of_lt {party : Party} {fresh : Priv} {index : Nat}
    (below : index < ladder.level party + 2) :
    ladder.priv index = (ladder.climb party fresh).priv index :=
  (Function.update_of_ne (Nat.ne_of_lt below) _ _).symm

@[simp] theorem climb_level (party : Party) (fresh : Priv) :
    (ladder.climb party fresh).level party = ladder.level party + 2 :=
  Function.update_self _ _ _

@[simp] theorem climb_level_peer (party : Party) (fresh : Priv) :
    (ladder.climb party fresh).level party.peer = ladder.level party.peer :=
  Function.update_of_ne (Party.peer_ne party) _ _

@[simp] theorem climb_priv_top (party : Party) (fresh : Priv) :
    (ladder.climb party fresh).priv (ladder.level party + 2) = fresh :=
  Function.update_self _ _ _

@[simp] theorem climb_count (party : Party) (fresh : Priv) :
    (ladder.climb party fresh).count = ladder.count := rfl

@[simp] theorem climb_place (party : Party) (fresh : Priv) :
    (ladder.climb party fresh).place = ladder.place := rfl

@[simp] theorem send_priv (party : Party) (position : Nat) :
    (ladder.send party position).priv = ladder.priv := rfl

@[simp] theorem send_level (party : Party) (position : Nat) :
    (ladder.send party position).level = ladder.level := rfl

theorem send_count_self (party : Party) (position : Nat) :
    (ladder.send party position).count (ladder.level party) =
      ladder.count (ladder.level party) + 1 := Function.update_self _ _ _

theorem send_count_of_ne {party : Party} {position rung : Nat}
    (apart : rung ≠ ladder.level party) :
    (ladder.send party position).count rung = ladder.count rung :=
  Function.update_of_ne apart _ _

theorem le_send_count (party : Party) (position rung : Nat) :
    ladder.count rung ≤ (ladder.send party position).count rung := by
  by_cases own : rung = ladder.level party
  · rw [own, send_count_self]
    omega
  · rw [send_count_of_ne own]

@[simp] theorem send_place_self (party : Party) (position : Nat) :
    (ladder.send party position).place position =
      (ladder.level party, ladder.count (ladder.level party)) := Function.update_self _ _ _

theorem send_place_of_ne {party : Party} {position other : Nat} (apart : other ≠ position) :
    (ladder.send party position).place other = ladder.place other :=
  Function.update_of_ne apart _ _

/-- The side that is behind climbs past its peer. -/
theorem climb_top {party : Party} (fresh : Priv)
    (behind : ladder.level party.peer = ladder.level party + 1) :
    (ladder.climb party fresh).top = ladder.level party + 2 := by
  rw [top_eq_max party, climb_level, climb_level_peer, behind]
  omega

theorem Balanced.climb (balanced : ladder.Balanced) {party : Party} (fresh : Priv)
    (behind : ladder.level party.peer = ladder.level party + 1) :
    (ladder.climb party fresh).Balanced := by
  have alice := balanced.alice
  have bob := balanced.bob
  have own : (ladder.climb party fresh).level party = ladder.level party + 2 :=
    climb_level party fresh
  have peer : (ladder.climb party fresh).level party.peer = ladder.level party.peer :=
    climb_level_peer party fresh
  cases party with
  | alice =>
      simp only [Party.peer] at behind peer
      constructor <;> omega
  | bob =>
      simp only [Party.peer] at behind peer
      constructor <;> omega

end Ladder

namespace Primitives

variable {Priv Dh Key : Type} (P : Primitives Priv Dh Key)

/-- Root key and chain key of each rung: the shared secret at the foot, then one KDF
step for each pair of neighbouring keys. -/
def rung (secret : Key) (priv : Nat → Priv) : Nat → Key × Key
  | 0 => (secret, secret)
  | below + 1 =>
      match P.exchange (priv (below + 1)) (P.publicBytes (priv below)) with
      | some dhOut => P.hkdfRk (rung secret priv below).1 dhOut
      | none => rung secret priv below

theorem rung_succ (secret : Key) (priv : Nat → Priv) (below : Nat) {dhOut : Dh}
    (agreed : P.exchange (priv (below + 1)) (P.publicBytes (priv below)) = some dhOut) :
    P.rung secret priv (below + 1) = P.hkdfRk (P.rung secret priv below).1 dhOut := by
  rw [rung, agreed]

theorem rung_congr (secret : Key) {priv other : Nat → Priv} (bound : Nat)
    (same : ∀ index ≤ bound, priv index = other index) :
    P.rung secret priv bound = P.rung secret other bound := by
  induction bound with
  | zero => rfl
  | succ below ih =>
      rw [rung, rung, ih (fun index inside => same index (by omega)), same _ (Nat.le_refl _),
        same below (by omega)]

variable {P}

theorem Lawful.exchange_some (lawful : P.Lawful) (left right : Priv) :
    ∃ dhOut, P.exchange left (P.publicBytes right) = some dhOut ∧
      P.exchange right (P.publicBytes left) = some dhOut := by
  obtain ⟨dhOut, agreed⟩ := Option.isSome_iff_exists.mp (lawful.agrees left right)
  exact ⟨dhOut, agreed, (lawful.commutes left right).symm.trans agreed⟩

end Primitives

end UltimateEnigma.DoubleRatchet
