import UltimateEnigma.Agreement
import UltimateEnigma.DoubleRatchetFrames

set_option autoImplicit false

namespace UltimateEnigma.DoubleRatchet

open Py Ladder

variable {Priv Dh Key : Type}

namespace Primitives

variable (P : Primitives Priv Dh Key)

theorem headerOf_headerPub {header : Bytes} {pub : PubBytes}
    (named : headerPub header = some pub) :
    HeaderOf header (headerMsgNum header) (headerPrevChainLen header) pub := by
  unfold headerPub at named
  split at named
  · rename_i long
    exact ⟨long, rfl, rfl, Option.some.inj named⟩
  · cases named

/-- A decryption that returns has made the header's key the remote one. -/
theorem decrypt_remote (fresh : Priv) {header ciphertext plaintext : Bytes} {pub : PubBytes}
    (named : headerPub header = some pub) {state after : RatchetState Priv Key}
    (success : (P.decrypt fresh header ciphertext).run state = (.ok plaintext, after)) :
    after.dhPubRemote = some pub := by
  obtain ⟨long, remote, _⟩ := P.decrypt_ok success
  rw [headerPub, dif_pos long] at named
  rw [remote, named]

/-- The receiver still has the key that opens this message among its skipped keys. -/
structure KeyKept (state : RatchetState Priv Key) (packet : Packet) (pub : PubBytes) (key : Key) :
    Prop where
  named : headerPub packet.header = some pub
  long : xchacha20NonceSize ≤ packet.ciphertext.length
  stored : state.skippedKeys.get? (pub, headerMsgNum packet.header) = some key
  opens : P.aeadDecrypt key (packet.ciphertext.take xchacha20NonceSize)
    (packet.ciphertext.drop xchacha20NonceSize) packet.header = some packet.plaintext

/-- The message decrypts, and its skipped key is all that the receiver's state loses. -/
def OpensAside (state : RatchetState Priv Key) (packet : Packet) (pub : PubBytes)
    (fresh : Priv) : Prop :=
  (P.decrypt fresh packet.header packet.ciphertext).run state =
    (.ok packet.plaintext,
      { state with
        skippedKeys := state.skippedKeys.erase (pub, headerMsgNum packet.header) })

variable {P}

theorem KeyKept.opensAside_iff {state : RatchetState Priv Key} {packet : Packet}
    {pub : PubBytes} {key : Key} (kept : P.KeyKept state packet pub key) (fresh : Priv) :
    P.OpensAside state packet pub fresh ↔ state.dhPubRemote = some pub := by
  constructor
  · intro aside
    have remote := P.decrypt_remote fresh kept.named aside
    exact remote
  · intro same
    rw [OpensAside,
      P.decrypt_run_same fresh (headerOf_headerPub kept.named) packet.ciphertext state same]
    simp only [decryptOnChain, Call.run_read_bind, kept.stored, Call.run_modify_bind]
    exact P.decryptWithKey_run kept.long kept.opens _

/-- A late message belongs to a chain below the one its receiver stands on. -/
theorem Synced.late_below {secret : Key} {ladder : Ladder Priv}
    {world : Conversation Priv Key} (synced : P.Synced secret ladder world)
    (landed : P.Landed ladder world) {packet : Packet} (arrives : packet ∈ world.inFlight)
    (late : Late world packet) :
    (ladder.place packet.position).1 < remoteLevel (ladder.level packet.sender.peer) := by
  obtain ⟨newer, member, sender, after, differs⟩ := late
  obtain ⟨sent, owned, below, named⟩ := landed newer member
  obtain ⟨_, genuine⟩ := synced.packets packet arrives
  rw [sender] at owned below
  rw [named, headerPub_of_headerOf genuine.header] at differs
  have order := synced.ordered _ _ after sent (by rw [genuine.sender, owned])
  rcases order with lower | ⟨same, _⟩
  · omega
  · rw [same] at differs
    exact absurd rfl differs

/-- A message whose key was kept is of no chain above the one its receiver stands on. -/
theorem Synced.kept_below {secret : Key} {ladder : Ladder Priv}
    {world : Conversation Priv Key} (synced : P.Synced secret ladder world)
    {packet : Packet} (arrives : packet ∈ world.inFlight) {pub : PubBytes} {key : Key}
    (kept : P.KeyKept (world.state packet.sender.peer) packet pub key) :
    (ladder.place packet.position).1 ≤ remoteLevel (ladder.level packet.sender.peer) := by
  by_contra above
  obtain ⟨sent, genuine⟩ := synced.packets packet arrives
  obtain ⟨_, bounded, _⟩ := synced.placed packet.position sent
  rw [genuine.sender] at bounded
  have top := ladder.level_le_top packet.sender
  obtain ⟨rung, positive, reached, named, _⟩ :=
    (synced.view packet.sender.peer).stored pub _ key kept.stored
  have own := kept.named
  rw [headerPub_of_headerOf genuine.header, Option.some.injEq, named] at own
  exact synced.apart rung _ (by omega) (by omega) (by omega) own.symm

/-- Where the remote key is still the message's own, the message is one that the current
chain has stepped over. -/
theorem Synced.kept_place {secret : Key} {ladder : Ladder Priv}
    {world : Conversation Priv Key} (synced : P.Synced secret ladder world)
    {packet : Packet} (arrives : packet ∈ world.inFlight) {pub : PubBytes} {key : Key}
    (kept : P.KeyKept (world.state packet.sender.peer) packet pub key)
    (same : (world.state packet.sender.peer).dhPubRemote = some pub) :
    (ladder.place packet.position).1 = remoteLevel (ladder.level packet.sender.peer) ∧
      (ladder.place packet.position).2 < (world.state packet.sender.peer).recvMsgNum := by
  obtain ⟨sent, genuine⟩ := synced.packets packet arrives
  obtain ⟨positive, _, _⟩ := synced.placed packet.position sent
  have below := synced.kept_below arrives kept
  have remote := (synced.view packet.sender.peer).remote
  rw [same, Option.some.injEq] at remote
  have own := kept.named
  rw [headerPub_of_headerOf genuine.header, Option.some.injEq, remote] at own
  have current : (ladder.place packet.position).1 =
      remoteLevel (ladder.level packet.sender.peer) := by
    by_contra differs
    exact synced.apart_remote packet.sender.peer _ positive (by omega) own
  refine ⟨current, ?_⟩
  obtain ⟨rung, low, reached, named, _, before⟩ :=
    (synced.view packet.sender.peer).stored pub _ key kept.stored
  rw [genuine.header.number] at before
  apply before
  by_contra differs
  exact synced.apart_remote packet.sender.peer rung low (by omega) (named.symm.trans remote)

theorem Agrees.late_remote {secret : Key} {world : Conversation Priv Key}
    (agrees : P.Agrees secret world) {packet : Packet} (arrives : packet ∈ world.inFlight)
    (late : Late world packet) {pub : PubBytes} (named : headerPub packet.header = some pub) :
    (world.state packet.sender.peer).dhPubRemote ≠ some pub := by
  obtain ⟨ladder, synced, _, landed⟩ := agrees
  have below := synced.late_below landed arrives late
  obtain ⟨sent, genuine⟩ := synced.packets packet arrives
  obtain ⟨positive, _, _⟩ := synced.placed packet.position sent
  rw [← named, headerPub_of_headerOf genuine.header, (synced.view packet.sender.peer).remote]
  intro same
  exact synced.apart_remote packet.sender.peer _ positive below (Option.some.inj same).symm

/-- In an orderly run the remote key has moved on exactly when the message is late. -/
theorem Agrees.remote_iff {secret : Key} {world : Conversation Priv Key}
    (agrees : P.Agrees secret world) {packet : Packet} (arrives : packet ∈ world.inFlight)
    {pub : PubBytes} {key : Key}
    (kept : P.KeyKept (world.state packet.sender.peer) packet pub key) :
    (world.state packet.sender.peer).dhPubRemote = some pub ↔ ¬ Late world packet := by
  constructor
  · intro same late
    exact agrees.late_remote arrives late kept.named same
  · intro timely
    obtain ⟨ladder, synced, passed, _⟩ := agrees
    obtain ⟨_, genuine⟩ := synced.packets packet arrives
    have current := Nat.le_antisymm (synced.kept_below arrives kept)
      (synced.timely passed arrives timely)
    rw [(synced.view packet.sender.peer).remote, ← current, ← kept.named,
      headerPub_of_headerOf genuine.header]

/-- A kept message of the current chain leaves both sides on their ladder: it steps over no
key, so it needs no room for any. -/
theorem Agrees.deliver_kept (lawful : P.Lawful) {secret : Key} {world : Conversation Priv Key}
    (agrees : P.Agrees secret world) {packet : Packet} (arrives : packet ∈ world.inFlight)
    {pub : PubBytes} {key : Key}
    (kept : P.KeyKept (world.state packet.sender.peer) packet pub key)
    (same : (world.state packet.sender.peer).dhPubRemote = some pub) (fresh : Priv) :
    P.Agrees secret (P.applyDeliver world packet fresh) := by
  obtain ⟨ladder, synced, passed, landed⟩ := agrees
  obtain ⟨current, reached⟩ := synced.kept_place arrives kept same
  have near : (ladder.place packet.position).2 -
      (world.state packet.sender.peer).recvMsgNum ≤ maxSkipDistance := by
    rw [Nat.sub_eq_zero_of_le (Nat.le_of_lt reached)]
    exact Nat.zero_le _
  exact (synced.deliverCurrent lawful passed landed arrives current near
    (fun ahead => absurd reached (Nat.not_lt_of_le ahead)) fresh).2

/-- Whatever an orderly run delivers from here on, in either direction, decrypts. -/
def LaterDecrypt (P : Primitives Priv Dh Key) (setup : Setup Priv Key)
    (world : Conversation Priv Key) : Prop :=
  ∀ later, (P.conversation setup).Follows Orderly world later → ∀ packet fresh,
    (P.conversation setup).enabled later (.deliver packet fresh) →
      Orderly later (.deliver packet fresh) →
        ((P.decrypt fresh packet.header packet.ciphertext).run
          (later.state packet.sender.peer)).1 = .ok packet.plaintext

theorem Agrees.laterDecrypt (lawful : P.Lawful) (setup : Setup Priv Key) {secret : Key}
    {world : Conversation Priv Key} (agrees : P.Agrees secret world) :
    P.LaterDecrypt setup world := by
  intro later follows packet fresh enabled orderly
  have still : P.Agrees secret later := by
    refine Machine.Follows.relation (P.Agrees secret) agrees ?_ follows
    intro middle event _ agrees enabled orderly
    exact agrees.step lawful setup enabled orderly
  exact (still.deliver lawful enabled.1 enabled.2 orderly.1 orderly.2).1

end Primitives

/-- A message whose key was kept is opened aside exactly when the receiver's remote key
still is the message's own. After an orderly run everything that follows then decrypts as
well, and this is so exactly as long as the message is not late: the header's key is compared
before the skipped keys are looked at. -/
theorem late_message_opens_aside_iff (P : Primitives Priv Dh Key) (lawful : P.Lawful)
    (setup : Setup Priv Key) (world : Conversation Priv Key)
    (_reachable : (P.conversation setup).Reachable (fun _ _ => True) world)
    (packet : Packet) (fresh : Priv)
    (enabled : (P.conversation setup).enabled world (.deliver packet fresh))
    (pub : PubBytes) (key : Key)
    (kept : P.KeyKept (world.state packet.sender.peer) packet pub key) :
    (P.OpensAside (world.state packet.sender.peer) packet pub fresh ↔
      (world.state packet.sender.peer).dhPubRemote = some pub) ∧
    ((P.conversation setup).Reachable Orderly world →
      ((P.OpensAside (world.state packet.sender.peer) packet pub fresh ∧
          P.LaterDecrypt setup (P.applyDeliver world packet fresh)) ↔
        (world.state packet.sender.peer).dhPubRemote = some pub) ∧
      ((world.state packet.sender.peer).dhPubRemote = some pub ↔ ¬ Late world packet)) := by
  refine ⟨kept.opensAside_iff fresh, ?_⟩
  intro orderly
  have agrees := Primitives.agrees_of_reachable lawful setup orderly
  refine ⟨⟨?_, ?_⟩, agrees.remote_iff enabled.1 kept⟩
  · rintro ⟨aside, _⟩
    exact (kept.opensAside_iff fresh).mp aside
  · intro same
    have after := agrees.deliver_kept lawful enabled.1 kept same fresh
    exact ⟨(kept.opensAside_iff fresh).mpr same, after.laterDecrypt lawful setup⟩

/-- Bob has stepped over Alice's first message when it comes, and Alice has gone on to a new
key pair that he has not seen. -/
def toyEarly : Packet := toyWorld.flying 0

theorem toyEarly_opens_aside_iff :
    (toyPrimitives.OpensAside (toyWorld.state toyEarly.sender.peer) toyEarly
        (Vector.replicate 32 1) 15 ↔
      (toyWorld.state toyEarly.sender.peer).dhPubRemote = some (Vector.replicate 32 1)) ∧
    ((toyPrimitives.conversation toySetup).Reachable Orderly toyWorld →
      ((toyPrimitives.OpensAside (toyWorld.state toyEarly.sender.peer) toyEarly
            (Vector.replicate 32 1) 15 ∧
          toyPrimitives.LaterDecrypt toySetup
            (toyPrimitives.applyDeliver toyWorld toyEarly 15)) ↔
        (toyWorld.state toyEarly.sender.peer).dhPubRemote = some (Vector.replicate 32 1)) ∧
      ((toyWorld.state toyEarly.sender.peer).dhPubRemote = some (Vector.replicate 32 1) ↔
        ¬ Late toyWorld toyEarly)) :=
  late_message_opens_aside_iff toyPrimitives toyPrimitives_lawful toySetup toyWorld
    (.run (.start rfl) (by decide +kernel)) toyEarly 15 (by decide +kernel)
    (Vector.replicate 32 1) [1, 1, 4, 7]
    ⟨by decide +kernel, by decide +kernel, by decide +kernel, by decide +kernel⟩

/-- Bob misses Alice's first message while both sides turn their ratchets. -/
def toyMissed : List (Conversation UInt8 Bytes → Event UInt8) :=
  [fun _ => .encrypt .alice 10 toyNonce [1],
   fun _ => .encrypt .alice 11 toyNonce [2],
   fun world => .deliver (world.flying 1) 12,
   fun _ => .encrypt .bob 13 toyNonce [3],
   fun world => .deliver (world.flying 1) 14,
   fun _ => .encrypt .alice 15 toyNonce [4],
   fun _ => .encrypt .alice 16 toyNonce [5],
   fun world => .deliver (world.flying 1) 17]

def toyMissedWorld : Conversation UInt8 Bytes :=
  (toyPrimitives.conversation toySetup).run (toyPrimitives.startConversation toySetup) toyMissed

def toyLate : Packet := toyMissedWorld.flying 0

def toyLateKey : Bytes := [1, 1, 4, 7]

theorem toyLate_kept :
    toyPrimitives.KeyKept (toyMissedWorld.state toyLate.sender.peer) toyLate
      (Vector.replicate 32 1) toyLateKey :=
  ⟨by decide +kernel, by decide +kernel, by decide +kernel, by decide +kernel⟩

/-- The late message decrypts, but it turns Bob's ratchet back, and the next message of
Alice's current chain no longer opens. -/
theorem toyLate_desynchronises :
    (toyPrimitives.conversation toySetup).Reachable Orderly toyMissedWorld ∧
    (toyPrimitives.conversation toySetup).enabled toyMissedWorld (.deliver toyLate 18) ∧
    Late toyMissedWorld toyLate ∧
    toyPrimitives.KeyKept (toyMissedWorld.state toyLate.sender.peer) toyLate
      (Vector.replicate 32 1) toyLateKey ∧
    ¬ toyPrimitives.OpensAside (toyMissedWorld.state toyLate.sender.peer) toyLate
      (Vector.replicate 32 1) 18 ∧
    ¬ toyPrimitives.LaterDecrypt toySetup
      (toyPrimitives.applyDeliver toyMissedWorld toyLate 18) := by
  refine ⟨.run (.start rfl) (by decide +kernel), by decide +kernel, by decide +kernel,
    toyLate_kept, ?_, ?_⟩
  · rw [toyLate_kept.opensAside_iff]
    decide +kernel
  · intro later
    have opened := later _ (.refl _) (toyMissedWorld.flying 1) 19 (by decide +kernel)
      (by decide +kernel)
    have fails : ((toyPrimitives.decrypt 19 (toyMissedWorld.flying 1).header
        (toyMissedWorld.flying 1).ciphertext).run
          ((toyPrimitives.applyDeliver toyMissedWorld toyLate 18).state
            (toyMissedWorld.flying 1).sender.peer)).1 = .error .invalidTag := by
      decide +kernel
    rw [fails] at opened
    cases opened

end UltimateEnigma.DoubleRatchet
