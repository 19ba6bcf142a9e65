import UltimateEnigma.Synced

set_option autoImplicit false

namespace UltimateEnigma.DoubleRatchet

open Py Ladder

variable {Priv Dh Key : Type}

namespace Primitives

variable (P : Primitives Priv Dh Key)

/-- A side that has climbed did so on a message that came after everything still in
flight from the chains below. -/
def Passed (ladder : Ladder Priv) (world : Conversation Priv Key) : Prop :=
  ∀ party, 2 ≤ remoteLevel (ladder.level party) →
    ∃ newest ∈ world.delivered, newest.sender = party.peer ∧
      headerPub newest.header = some (P.pubAt ladder (remoteLevel (ladder.level party))) ∧
      ∀ packet ∈ world.inFlight, packet.sender = party.peer →
        (ladder.place packet.position).1 < remoteLevel (ladder.level party) →
          packet.position < newest.position

/-- What has been delivered came from chains its receiver has reached. -/
def Landed (ladder : Ladder Priv) (world : Conversation Priv Key) : Prop :=
  ∀ packet ∈ world.delivered, packet.position < world.sent ∧
    owner (ladder.place packet.position).1 = packet.sender ∧
    (ladder.place packet.position).1 ≤ remoteLevel (ladder.level packet.sender.peer) ∧
    headerPub packet.header = some (P.pubAt ladder (ladder.place packet.position).1)

def Agrees (secret : Key) (world : Conversation Priv Key) : Prop :=
  ∃ ladder, P.Synced secret ladder world ∧ P.Passed ladder world ∧ P.Landed ladder world

variable {P} {secret : Key} {ladder : Ladder Priv} {world : Conversation Priv Key}

theorem headerPub_of_headerOf {header : Bytes} {number previous : Nat} {pub : PubBytes}
    (named : HeaderOf header number previous pub) : headerPub header = some pub := by
  rw [headerPub, dif_pos named.long, named.pub]

def firstLadder (setup : Setup Priv Key) : Ladder Priv where
  priv rung := if rung = 0 then setup.bobPriv else setup.alicePriv
  count _ := 0
  place _ := (0, 0)
  level
    | .alice => 1
    | .bob => 0

theorem start_synced (lawful : P.Lawful) (setup : Setup Priv Key) :
    P.Synced setup.sharedSecret (firstLadder setup) (P.startConversation setup) := by
  obtain ⟨dhOut, alice, bob⟩ := lawful.exchange_some setup.alicePriv setup.bobPriv
  have aliceRun := P.initializeAsAlice_run setup.aliceFresh (P.publicBytes setup.bobPriv)
    setup.sharedSecret setup.aliceLocal dhOut {} alice
  have bobRun := P.initializeAsBob_run setup.bobFresh (P.publicBytes setup.alicePriv)
    setup.sharedSecret setup.bobLocal dhOut {} bob
  have first : P.exchange ((firstLadder setup).priv (0 + 1)) (P.pubAt (firstLadder setup) 0) =
      some dhOut := alice
  have derived : P.hkdfRk setup.sharedSecret dhOut =
      (P.rootAt setup.sharedSecret (firstLadder setup) 1,
        P.chainAt setup.sharedSecret (firstLadder setup) 1) :=
    rung_step setup.sharedSecret first
  rw [derived] at aliceRun bobRun
  have aliceState : (P.startConversation setup).state .alice = _ := congrArg Prod.snd aliceRun
  have bobState : (P.startConversation setup).state .bob = _ := congrArg Prod.snd bobRun
  constructor
  · exact ⟨rfl, rfl, Nat.le_refl 1, Nat.zero_le _⟩
  · intro party
    cases party with
    | alice =>
        rw [aliceState]
        refine ⟨rfl, rfl, rfl, rfl, rfl, rfl, rfl, ?_⟩
        intro pub number mk found
        cases found
    | bob =>
        rw [bobState]
        refine ⟨rfl, rfl, rfl, rfl, rfl, rfl, rfl, ?_⟩
        intro pub number mk found
        cases found
  · intro low high below two inside
    have inside : high ≤ 1 := inside
    omega
  · intro rung inside
    have inside : rung ≤ 1 := inside
    by_cases foot : rung = 0
    · subst foot
      exact List.mem_cons_of_mem _ (List.mem_singleton.mpr rfl)
    · have first : rung = 1 := by omega
      subst first
      exact List.mem_cons_self
  · rfl
  · exact fun _ _ => rfl
  · exact fun position before => absurd before (Nat.not_lt_zero position)
  · exact fun _ late _ inside => absurd inside (Nat.not_lt_zero late)
  · exact fun packet member => absurd member List.not_mem_nil
  · exact List.nodup_nil
  · intro party
    cases party with
    | alice =>
        rw [aliceState]
        exact Nat.le_refl _
    | bob =>
        rw [bobState]
        exact Nat.le_refl _
  · intro party number wanted
    obtain ⟨packet, member, _⟩ := wanted
    cases member

theorem start_agrees (lawful : P.Lawful) (setup : Setup Priv Key) :
    P.Agrees setup.sharedSecret (P.startConversation setup) := by
  refine ⟨firstLadder setup, start_synced lawful setup, ?_,
    fun packet member => absurd member List.not_mem_nil⟩
  intro party two
  cases party with
  | alice =>
      have two : 2 ≤ 0 := two
      omega
  | bob =>
      have two : 2 ≤ 1 := two
      omega

theorem Passed.send (passed : P.Passed ladder world) (synced : P.Synced secret ladder world)
    (packet : Packet) (position : packet.position = world.sent)
    {other : Conversation Priv Key} (delivered : other.delivered = world.delivered)
    (inFlight : other.inFlight = world.inFlight ++ [packet]) :
    P.Passed (ladder.send packet.sender world.sent) other := by
  intro party two
  obtain ⟨newest, member, sender, named, before⟩ := passed party two
  refine ⟨newest, by rwa [delivered], sender, named, ?_⟩
  intro flying inside from_peer below
  rw [inFlight] at inside
  rcases List.mem_append.mp inside with old | new
  · rw [send_place_of_ne (Nat.ne_of_lt (synced.packets flying old).1)] at below
    exact before flying old from_peer below
  · rw [List.mem_singleton] at new
    have above := synced.balanced.remoteLevel_le party
    rw [new, position, send_place_self, send_level, ← new, from_peer] at below
    exact absurd below (Nat.not_lt_of_le above)

theorem Landed.send (landed : P.Landed ladder world) (party : Party)
    {other : Conversation Priv Key} (delivered : other.delivered = world.delivered)
    (sent : other.sent = world.sent + 1) : P.Landed (ladder.send party world.sent) other := by
  intro packet member
  rw [delivered] at member
  obtain ⟨before, sender, below, named⟩ := landed packet member
  rw [send_place_of_ne (Nat.ne_of_lt before), sent]
  exact ⟨Nat.lt_succ_of_lt before, sender, below, named⟩

theorem Landed.climb (landed : P.Landed ladder world) (synced : P.Synced secret ladder world)
    {party : Party} (fresh : Priv) {other : Conversation Priv Key}
    (delivered : other.delivered = world.delivered) (sent : other.sent = world.sent) :
    P.Landed (ladder.climb party fresh) other := by
  intro packet member
  rw [delivered] at member
  obtain ⟨before, sender, below, named⟩ := landed packet member
  have own : remoteLevel (ladder.level party) ≤ ladder.level party + 1 := by
    unfold remoteLevel
    split <;> omega
  have next : remoteLevel (ladder.level party + 2) = ladder.level party + 1 := rfl
  rw [climb_place, sent]
  rcases party.eq_or_eq_peer packet.sender.peer with same | same
  · rw [same] at below ⊢
    rw [climb_level, next, pubAt_climb fresh (by omega)]
    exact ⟨before, sender, by omega, named⟩
  · have bounded := synced.balanced.remoteLevel_le party.peer
    rw [Party.peer_peer] at bounded
    rw [same] at below ⊢
    rw [climb_level_peer, pubAt_climb fresh (by omega)]
    exact ⟨before, sender, below, named⟩

theorem Landed.receive (landed : P.Landed ladder world) (synced : P.Synced secret ladder world)
    {packet : Packet} (arrives : packet ∈ world.inFlight)
    (current : (ladder.place packet.position).1 =
      remoteLevel (ladder.level packet.sender.peer))
    {other : Conversation Priv Key} (delivered : other.delivered = packet :: world.delivered)
    (sent : other.sent = world.sent) : P.Landed ladder other := by
  intro landing member
  rw [delivered] at member
  rw [sent]
  rcases List.mem_cons.mp member with same | old
  · obtain ⟨before, genuine⟩ := synced.packets packet arrives
    rw [same]
    exact ⟨before, genuine.sender, Nat.le_of_eq current, headerPub_of_headerOf genuine.header⟩
  · exact landed landing old

/-- The next message of a chain keeps everything on the ladder. -/
theorem Synced.encryptOnChain (synced : P.Synced secret ladder world) {party : Party}
    (climbed : ladder.level party ≠ 0) (fits : CountersFit (world.state party))
    {nonce : Bytes} (size : nonce.length = xchacha20NonceSize) (plaintext : Bytes) :
    ∃ header ciphertext after,
      (P.encryptOnChain nonce plaintext).run (world.state party) =
        (.ok (header, ciphertext), after) ∧
      after.dhPriv = (world.state party).dhPriv ∧
      P.Synced secret (ladder.send party world.sent)
        { P.updateState world party after with
          sent := world.sent + 1
          inFlight := world.inFlight ++ [⟨party, world.sent, header, ciphertext, plaintext⟩] } := by
  have view := synced.view party
  obtain ⟨header, after, made, named, seen, store, counter, own⟩ :=
    view.encryptOnChain climbed fits world.sent nonce plaintext
  rw [view.sent, view.previous] at named
  rw [view.sent] at made
  refine ⟨header, _, after, made, own, ?_⟩
  exact synced.send climbed rfl rfl named ⟨nonce, size, rfl⟩ seen store counter

/-- The first sending chain of the side that started without one. -/
theorem Synced.startSendChain (lawful : P.Lawful) (synced : P.Synced secret ladder world)
    {party : Party} (foot : ladder.level party = 0) {fresh : Priv}
    (new : P.publicBytes fresh ∉ world.held) (fits : CountersFit (world.state party)) :
    ∃ middle, (P.startSendChain fresh).run (world.state party) = (.ok (), middle) ∧
      CountersFit middle ∧
      P.Synced secret (ladder.climb party fresh) (P.updateState world party middle) := by
  have behind : ladder.level party.peer = ladder.level party + 1 := by
    have alice := synced.balanced.alice
    have ahead := synced.balanced.ahead
    cases party with
    | alice => omega
    | bob =>
        simp only [Party.peer]
        omega
  have unsent : ladder.count 2 = 0 := by
    apply synced.unsent
    rw [top_eq_max party]
    omega
  have remotes : remoteLevel (ladder.level party + 2) = remoteLevel (ladder.level party) := by
    rw [foot]
    rfl
  obtain ⟨middle, started, seen, store, counter, own⟩ :=
    (synced.view party).startSendChain lawful foot ⟨synced.footUnsent, unsent⟩ fresh
  have reached := synced.reached party
  have kept := synced.kept party
  rw [← remotes] at reached kept
  refine ⟨middle, started, ⟨?_, ?_, ?_⟩, synced.climb behind new seen ?_ ?_⟩
  · rw [seen.sent, climb_level, foot, climb_count, unsent]
    decide
  · rw [counter]
    exact fits.2.1
  · rw [seen.previous, climb_level, foot, climb_count, synced.footUnsent]
    decide
  · rw [counter]
    exact reached
  · intro number wanted below
    rw [store]
    rw [counter] at below
    exact kept number wanted below

theorem passed_startSendChain {party : Party} (foot : ladder.level party = 0) (fresh : Priv)
    (peer : ladder.level party.peer ≤ 1) (after : RatchetState Priv Key) :
    P.Passed (ladder.climb party fresh) (P.updateState world party after) := by
  intro other two
  rcases party.eq_or_eq_peer other with rfl | rfl
  · rw [climb_level, foot] at two
    have two : 2 ≤ 1 := two
    omega
  · rw [climb_level_peer] at two
    unfold remoteLevel at two
    split at two <;> omega

theorem Agrees.encrypt (lawful : P.Lawful) (agrees : P.Agrees secret world) {party : Party}
    {fresh : Priv} (new : P.publicBytes fresh ∉ world.held) {nonce : Bytes}
    (size : nonce.length = xchacha20NonceSize) (fits : CountersFit (world.state party))
    (plaintext : Bytes) :
    P.Agrees secret (P.applyEncrypt world party fresh nonce plaintext) := by
  obtain ⟨ladder, synced, passed, landed⟩ := agrees
  have sending := (synced.view party).sending
  by_cases foot : ladder.level party = 0
  · rw [if_pos foot] at sending
    obtain ⟨middle, started, middleFits, climbed⟩ :=
      synced.startSendChain lawful foot new fits
    have peer : ladder.level party.peer ≤ 1 := by
      have ahead := synced.balanced.ahead
      have behind := synced.balanced.behind
      cases party with
      | alice =>
          simp only [Party.peer]
          omega
      | bob =>
          simp only [Party.peer]
          omega
    have level : (ladder.climb party fresh).level party ≠ 0 := by
      rw [climb_level]
      omega
    obtain ⟨header, ciphertext, after, made, own, sent⟩ := climbed.encryptOnChain level
      (by rwa [updateState_self]) size plaintext
    rw [updateState_self] at made own
    have applied := P.encrypt_run_start fresh nonce plaintext _ middle sending started
    rw [made] at applied
    refine ⟨(ladder.climb party fresh).send party world.sent, ?_, ?_, ?_⟩
    · rw [applyEncrypt, applied]
      refine sent.regrow ?_ rfl rfl ?_
      · simp only [updateState, Function.update_idem]
      · intro pub member
        simp only [updateState, own, List.mem_append] at member ⊢
        rcases member with same | same | old
        · exact Or.inl same
        · exact Or.inl same
        · exact Or.inr old
    · rw [applyEncrypt, applied]
      exact (passed_startSendChain foot fresh peer middle).send climbed
        ⟨party, world.sent, header, ciphertext, plaintext⟩ rfl rfl rfl
    · rw [applyEncrypt, applied]
      have climbing : P.Landed (ladder.climb party fresh) (P.updateState world party middle) :=
        landed.climb synced fresh rfl rfl
      exact climbing.send party rfl rfl
  · rw [if_neg foot] at sending
    obtain ⟨header, ciphertext, after, made, own, sent⟩ :=
      synced.encryptOnChain foot fits size plaintext
    have applied := P.encrypt_run_ready fresh nonce plaintext _ _ sending
    rw [made] at applied
    refine ⟨ladder.send party world.sent, ?_, ?_, ?_⟩
    · rw [applyEncrypt, applied]
      exact sent
    · rw [applyEncrypt, applied]
      exact passed.send synced ⟨party, world.sent, header, ciphertext, plaintext⟩ rfl rfl rfl
    · rw [applyEncrypt, applied]
      exact landed.send party rfl rfl

/-- A message that is not late is of the chain its receiver stands on, or of the next. -/
theorem Synced.timely (synced : P.Synced secret ladder world) (passed : P.Passed ladder world)
    {packet : Packet} (arrives : packet ∈ world.inFlight) (timely : ¬ Late world packet) :
    remoteLevel (ladder.level packet.sender.peer) ≤ (ladder.place packet.position).1 := by
  by_contra below
  obtain ⟨sent, genuine⟩ := synced.packets packet arrives
  obtain ⟨positive, _, _⟩ := synced.placed packet.position sent
  obtain ⟨newest, member, sender, named, before⟩ :=
    passed packet.sender.peer (by omega)
  apply timely
  rw [Party.peer_peer] at sender before
  refine ⟨newest, member, sender, before packet arrives rfl (by omega), ?_⟩
  rw [named, headerPub_of_headerOf genuine.header]
  intro same
  have bounded := synced.balanced.remoteLevel_le packet.sender.peer
  have top := ladder.level_le_top packet.sender.peer.peer
  exact synced.apart _ _ (by omega) (by omega) (by omega) (Option.some.inj same).symm

theorem Passed.receive (passed : P.Passed ladder world) (packet : Packet)
    {other : Conversation Priv Key} (delivered : other.delivered = packet :: world.delivered)
    (inFlight : other.inFlight = world.inFlight.erase packet) : P.Passed ladder other := by
  intro party two
  obtain ⟨newest, member, sender, named, before⟩ := passed party two
  refine ⟨newest, by rw [delivered]; exact List.mem_cons_of_mem _ member, sender, named, ?_⟩
  intro flying inside from_peer below
  rw [inFlight] at inside
  exact before flying (List.mem_of_mem_erase inside) from_peer below

/-- The message that turned the ratchet is the one everything older came before. -/
theorem Passed.climb (passed : P.Passed ladder world) (synced : P.Synced secret ladder world)
    {packet : Packet} (arrives : packet ∈ world.inFlight) (fresh : Priv)
    (next : (ladder.place packet.position).1 = ladder.level packet.sender.peer + 1)
    {other : Conversation Priv Key} (delivered : other.delivered = packet :: world.delivered)
    (inFlight : other.inFlight = world.inFlight.erase packet) :
    P.Passed (ladder.climb packet.sender.peer fresh) other := by
  obtain ⟨sent, genuine⟩ := synced.packets packet arrives
  intro party two
  rcases packet.sender.peer.eq_or_eq_peer party with rfl | rfl
  · have remote : remoteLevel (ladder.level packet.sender.peer + 2) =
        ladder.level packet.sender.peer + 1 := rfl
    refine ⟨packet, by rw [delivered]; exact List.mem_cons_self, (Party.peer_peer _).symm, ?_, ?_⟩
    · rw [headerPub_of_headerOf genuine.header, climb_level, remote, next,
        pubAt_climb fresh (by omega)]
    · intro flying inside from_peer below
      rw [inFlight] at inside
      have member := List.mem_of_mem_erase inside
      obtain ⟨flyingSent, flyingGenuine⟩ := synced.packets flying member
      rw [climb_level, remote, climb_place, ← next] at below
      by_contra after
      have apart : flying.position ≠ packet.position := by
        intro same
        rw [same] at below
        omega
      have owners : owner (ladder.place packet.position).1 =
          owner (ladder.place flying.position).1 := by
        rw [genuine.sender, flyingGenuine.sender, from_peer, Party.peer_peer]
      have order := synced.ordered packet.position flying.position (by omega) flyingSent owners
      omega
  · rw [climb_level_peer] at two ⊢
    obtain ⟨newest, member, sender, named, before⟩ := passed packet.sender.peer.peer two
    refine ⟨newest, by rw [delivered]; exact List.mem_cons_of_mem _ member, sender, ?_, ?_⟩
    · have bounded := synced.balanced.remoteLevel_le packet.sender.peer.peer
      rw [Party.peer_peer packet.sender] at bounded
      rw [named, pubAt_climb fresh (by rw [Party.peer_peer]; omega)]
    · intro flying inside from_peer below
      rw [inFlight] at inside
      exact before flying (List.mem_of_mem_erase inside) from_peer below

/-- A message of the current chain is delivered. Only one that is ahead of the chain needs
room for the keys it steps over. -/
theorem Synced.deliverCurrent (lawful : P.Lawful) (synced : P.Synced secret ladder world)
    (passed : P.Passed ladder world) (landed : P.Landed ladder world) {packet : Packet}
    (arrives : packet ∈ world.inFlight)
    (current : (ladder.place packet.position).1 =
      remoteLevel (ladder.level packet.sender.peer))
    (near : (ladder.place packet.position).2 -
      (world.state packet.sender.peer).recvMsgNum ≤ maxSkipDistance)
    (room : (world.state packet.sender.peer).recvMsgNum ≤ (ladder.place packet.position).2 →
      (world.state packet.sender.peer).skippedKeys.size +
        ((ladder.place packet.position).2 -
          (world.state packet.sender.peer).recvMsgNum) ≤ maxSkippedKeys)
    (fresh : Priv) :
    ((P.decrypt fresh packet.header packet.ciphertext).run
        (world.state packet.sender.peer)).1 = .ok packet.plaintext ∧
      P.Agrees secret (P.applyDeliver world packet fresh) := by
  obtain ⟨_, genuine⟩ := synced.packets packet arrives
  have named := genuine.header
  have remote := (synced.view packet.sender.peer).remote
  rw [← current] at remote
  obtain ⟨after, opened, _, received⟩ :=
    synced.receive lawful arrives current near room (packet :: world.delivered)
  rw [← P.decrypt_run_same fresh named packet.ciphertext _ remote] at opened
  rw [applyDeliver, opened]
  exact ⟨rfl, ladder, received, passed.receive packet rfl rfl,
    landed.receive synced arrives current rfl rfl⟩

theorem Synced.deliverSame (lawful : P.Lawful) (synced : P.Synced secret ladder world)
    (passed : P.Passed ladder world) (landed : P.Landed ladder world) {packet : Packet}
    (arrives : packet ∈ world.inFlight)
    (current : (ladder.place packet.position).1 =
      remoteLevel (ladder.level packet.sender.peer))
    (limits : WithinLimits (world.state packet.sender.peer) packet.header) (fresh : Priv) :
    ((P.decrypt fresh packet.header packet.ciphertext).run
        (world.state packet.sender.peer)).1 = .ok packet.plaintext ∧
      P.Agrees secret (P.applyDeliver world packet fresh) := by
  obtain ⟨_, genuine⟩ := synced.packets packet arrives
  have same : (world.state packet.sender.peer).dhPubRemote = headerPub packet.header := by
    rw [(synced.view packet.sender.peer).remote, ← current, headerPub_of_headerOf genuine.header]
  have closing : closingSkips (world.state packet.sender.peer) packet.header = 0 := by
    rw [closingSkips, if_pos (Or.inl same)]
  have opening : openingSkips (world.state packet.sender.peer) packet.header =
      (ladder.place packet.position).2 - (world.state packet.sender.peer).recvMsgNum := by
    rw [openingSkips, if_pos same, genuine.header.number]
  have near := limits.opening
  have room := limits.room
  rw [opening] at near room
  rw [closing] at room
  exact synced.deliverCurrent lawful passed landed arrives current near (fun _ => by omega) fresh

/-- The first message of the peer's next chain turns the ratchet, then opens. -/
theorem Synced.deliverNext (lawful : P.Lawful) (synced : P.Synced secret ladder world)
    (passed : P.Passed ladder world) (landed : P.Landed ladder world) {packet : Packet}
    (arrives : packet ∈ world.inFlight)
    (newer : remoteLevel (ladder.level packet.sender.peer) <
      (ladder.place packet.position).1)
    (limits : WithinLimits (world.state packet.sender.peer) packet.header) {fresh : Priv}
    (new : P.publicBytes fresh ∉ world.held) :
    ((P.decrypt fresh packet.header packet.ciphertext).run
        (world.state packet.sender.peer)).1 = .ok packet.plaintext ∧
      P.Agrees secret (P.applyDeliver world packet fresh) := by
  obtain ⟨sent, genuine⟩ := synced.packets packet arrives
  obtain ⟨_, bounded, _⟩ := synced.placed packet.position sent
  rw [genuine.sender] at bounded
  have named := genuine.header
  have view := synced.view packet.sender.peer
  obtain ⟨climbed, next, behind⟩ := synced.balanced.next_of_remote_lt
    (by rw [genuine.sender, Party.peer_peer]) (by rwa [Party.peer_peer]) newer
  have top : ladder.top = ladder.level packet.sender.peer + 1 := by
    rw [top_eq_max packet.sender.peer]
    omega
  have differs : (world.state packet.sender.peer).dhPubRemote ≠
      some (P.pubAt ladder (ladder.place packet.position).1) := by
    rw [view.remote]
    intro same
    exact synced.apart _ _ newer (by omega) (by omega) (Option.some.inj same)
  have headerDiffers : (world.state packet.sender.peer).dhPubRemote ≠
      headerPub packet.header := by
    rwa [headerPub_of_headerOf named]
  have closing : closingSkips (world.state packet.sender.peer) packet.header =
      if (world.state packet.sender.peer).recvChainKey.isNone then 0 else
        headerPrevChainLen packet.header -
          (world.state packet.sender.peer).recvMsgNum := by
    simp only [closingSkips, headerDiffers, false_or]
  have opening : openingSkips (world.state packet.sender.peer) packet.header =
      (ladder.place packet.position).2 := by
    rw [openingSkips, if_neg headerDiffers, named.number]
  have near := limits.closing
  have nearOpening := limits.opening
  have room := limits.room
  rw [opening] at nearOpening room
  rw [closing] at near room
  obtain ⟨middle, closed, seen, size⟩ := view.closeChain (headerPrevChainLen packet.header)
    (by
      split at near
      · rename_i none
        exact Or.inl none
      · exact Or.inr near)
    (by
      split at room
      · rename_i none
        exact Or.inl none
      · exact Or.inr (by omega))
  have unsent : ladder.count (ladder.level packet.sender.peer + 2) = 0 :=
    synced.unsent _ (by omega)
  obtain ⟨turned, step, turnedView, store, counter, own⟩ :=
    seen.dhRatchetStep lawful climbed unsent fresh
  have climb := synced.climb behind new turnedView (by rw [counter]; exact Nat.zero_le _)
    (by
      intro number _ below
      rw [counter] at below
      exact absurd below (Nat.not_lt_zero _))
  obtain ⟨after, opened, keeps, received⟩ := climb.receive lawful arrives
    (by rw [climb_level]; exact next)
    (by rw [updateState_self, counter]; exact nearOpening)
    (by intro _; rw [updateState_self, counter, store, climb_place]; omega)
    (packet :: world.delivered)
  rw [updateState_self] at opened keeps
  have ran : (P.decrypt fresh packet.header packet.ciphertext).run
      (world.state packet.sender.peer) = (.ok packet.plaintext, after) := by
    rw [P.decrypt_run_new fresh named packet.ciphertext _ differs,
      Call.run_bind_of_ok (by rw [← named.previous]; exact closed), next,
      Call.run_bind_of_ok step]
    rw [climb_place, pubAt_climb fresh (by omega), next] at opened
    exact opened
  rw [applyDeliver, ran]
  refine ⟨rfl, ladder.climb packet.sender.peer fresh, ?_, ?_, ?_⟩
  · refine received.regrow ?_ rfl rfl ?_
    · simp only [updateState, Function.update_idem]
    · intro pub member
      simp only [updateState, keeps, List.mem_append] at member ⊢
      rcases member with same | same | old
      · exact Or.inl same
      · exact Or.inl same
      · exact Or.inr old
  · exact passed.climb synced arrives fresh next rfl rfl
  · have climbing : P.Landed (ladder.climb packet.sender.peer fresh)
        (P.updateState world packet.sender.peer turned) := landed.climb synced fresh rfl rfl
    exact climbing.receive climb arrives (by rw [climb_level]; exact next) rfl rfl

theorem Agrees.deliver (lawful : P.Lawful) (agrees : P.Agrees secret world) {packet : Packet}
    (arrives : packet ∈ world.inFlight) {fresh : Priv} (new : P.publicBytes fresh ∉ world.held)
    (timely : ¬ Late world packet)
    (limits : WithinLimits (world.state packet.sender.peer) packet.header) :
    ((P.decrypt fresh packet.header packet.ciphertext).run
        (world.state packet.sender.peer)).1 = .ok packet.plaintext ∧
      P.Agrees secret (P.applyDeliver world packet fresh) := by
  obtain ⟨ladder, synced, passed, landed⟩ := agrees
  rcases Nat.eq_or_lt_of_le (synced.timely passed arrives timely) with current | newer
  · exact synced.deliverSame lawful passed landed arrives current.symm limits fresh
  · exact synced.deliverNext lawful passed landed arrives newer limits new

theorem Agrees.lose (agrees : P.Agrees secret world) (packet : Packet) :
    P.Agrees secret { world with inFlight := world.inFlight.erase packet } := by
  obtain ⟨ladder, synced, passed, landed⟩ := agrees
  refine ⟨ladder, synced.lose packet, ?_, landed⟩
  intro party two
  obtain ⟨newest, member, sender, named, before⟩ := passed party two
  exact ⟨newest, member, sender, named, fun flying inside =>
    before flying (List.mem_of_mem_erase inside)⟩

theorem Agrees.step (lawful : P.Lawful) (setup : Setup Priv Key) (agrees : P.Agrees secret world)
    {event : Event Priv} (enabled : (P.conversation setup).enabled world event)
    (orderly : Orderly world event) :
    P.Agrees secret ((P.conversation setup).apply world event) := by
  cases event with
  | encrypt party fresh nonce plaintext =>
      exact agrees.encrypt lawful enabled.1 enabled.2 orderly plaintext
  | deliver packet fresh =>
      exact (agrees.deliver lawful enabled.1 enabled.2 orderly.1 orderly.2).2
  | lose packet => exact agrees.lose packet

/-- Every orderly run keeps both sides on one ladder. -/
theorem agrees_of_reachable (lawful : P.Lawful) (setup : Setup Priv Key)
    (reachable : (P.conversation setup).Reachable Orderly world) :
    P.Agrees setup.sharedSecret world := by
  refine Machine.Reachable.invariant _ _ ?_ ?_ reachable
  · intro state initial
    rw [initial]
    exact start_agrees lawful setup
  · intro state event _ agrees enabled orderly
    exact agrees.step lawful setup enabled orderly

end Primitives

/-- In every orderly run, whatever is delivered decrypts to what was encrypted. -/
theorem delivered_decrypts (P : Primitives Priv Dh Key) (lawful : P.Lawful)
    (setup : Setup Priv Key) (world : Conversation Priv Key)
    (reachable : (P.conversation setup).Reachable Orderly world) (packet : Packet) (fresh : Priv)
    (enabled : (P.conversation setup).enabled world (.deliver packet fresh))
    (orderly : Orderly world (.deliver packet fresh)) :
    ((P.decrypt fresh packet.header packet.ciphertext).run
      (world.state packet.sender.peer)).1 = .ok packet.plaintext :=
  ((Primitives.agrees_of_reachable lawful setup reachable).deliver lawful enabled.1 enabled.2
    orderly.1 orderly.2).1

/-- Primitives small enough to run: key derivation writes down what went in, and the tag
is everything the ciphertext was made from. -/
def toyPrimitives : Primitives UInt8 UInt8 Bytes where
  publicBytes priv := Vector.replicate 32 priv
  exchange priv pub := some (priv + pub.toList.headD 0)
  hkdf rk dhOut := (0 :: dhOut :: rk, 1 :: dhOut :: rk)
  hmac key message := message :: key
  aeadEncrypt key nonce plaintext header := key ++ nonce ++ header ++ plaintext
  aeadDecrypt key nonce ciphertext header :=
    if (key ++ nonce ++ header).isPrefixOf ciphertext then
      some (ciphertext.drop (key ++ nonce ++ header).length)
    else
      none

theorem toyPrimitives_lawful : toyPrimitives.Lawful where
  commutes left right := by
    show some (left + right) = some (right + left)
    rw [UInt8.add_comm]
  agrees _ _ := rfl
  opens key nonce plaintext header := by
    have inside : (key ++ nonce ++ header).isPrefixOf (key ++ nonce ++ header ++ plaintext) :=
      List.isPrefixOf_iff_prefix.mpr (List.prefix_append _ _)
    simp only [toyPrimitives, inside, ↓reduceIte, List.drop_left]

def toySetup : Setup UInt8 Bytes where
  sharedSecret := [7]
  aliceLocal := some 1
  aliceFresh := 2
  bobLocal := none
  bobFresh := 3

def toyNonce : Bytes := List.replicate 24 9

def Conversation.flying {Priv Key : Type} (world : Conversation Priv Key) (index : Nat) :
    Packet :=
  world.inFlight.getD index default

/-- Alice sends two messages, the second overtakes the first, and Bob replies. -/
def toyOvertaken : List (Conversation UInt8 Bytes → Event UInt8) :=
  [fun _ => .encrypt .alice 10 toyNonce [1],
   fun _ => .encrypt .alice 11 toyNonce [2],
   fun world => .deliver (world.flying 1) 12,
   fun _ => .encrypt .bob 13 toyNonce [3],
   fun world => .deliver (world.flying 1) 14]

def toyWorld : Conversation UInt8 Bytes :=
  (toyPrimitives.conversation toySetup).run (toyPrimitives.startConversation toySetup) toyOvertaken

theorem toyWorld_decrypts :
    ((toyPrimitives.decrypt 15 (toyWorld.flying 0).header (toyWorld.flying 0).ciphertext).run
      (toyWorld.state (toyWorld.flying 0).sender.peer)).1 = .ok (toyWorld.flying 0).plaintext :=
  delivered_decrypts toyPrimitives toyPrimitives_lawful toySetup toyWorld
    (.run (.start rfl) (by decide +kernel)) (toyWorld.flying 0) 15 (by decide +kernel)
    (by decide +kernel)

end UltimateEnigma.DoubleRatchet
