import UltimateEnigma.DeferredState
import UltimateEnigma.EndToEnd
import UltimateEnigma.EnvelopeCodec

set_option autoImplicit false

namespace UltimateEnigma

open Py

namespace DoubleRatchet

open Ladder

variable {Priv Dh Key : Type}

/-- Both states as they come back from where they were stored. -/
def Conversation.restored (world : Conversation Priv Key) : Conversation Priv Key :=
  { world with state := fun party => (world.state party).serialize.deserialize }

namespace Primitives

variable {P : Primitives Priv Dh Key} {secret : Key} {ladder : Ladder Priv}
variable {world : Conversation Priv Key}

theorem View.restored {party : Party} {state : RatchetState Priv Key}
    (view : P.View secret ladder party state) :
    P.View secret ladder party state.serialize.deserialize :=
  ⟨view.own, view.remote, view.root, view.sending, view.receiving, view.sent, view.previous,
    view.stored⟩

/-- The ladder does not see the eviction queue. -/
theorem Agrees.restored (agrees : P.Agrees secret world) : P.Agrees secret world.restored := by
  obtain ⟨ladder, synced, passed, landed⟩ := agrees
  refine ⟨ladder, ?_, passed, landed⟩
  exact ⟨synced.balanced, fun party => (synced.view party).restored, synced.apart, synced.held,
    synced.footUnsent, synced.unsent, synced.placed, synced.ordered, synced.packets,
    synced.distinct, synced.reached, synced.kept⟩

/-- A side in step with its peer can encrypt while its counters fit. -/
theorem Agrees.encrypt_run (lawful : P.Lawful) (agrees : P.Agrees secret world) {party : Party}
    {fresh : Priv} (new : P.publicBytes fresh ∉ world.held) {nonce : Bytes}
    (size : nonce.length = xchacha20NonceSize) (fits : CountersFit (world.state party))
    (plaintext : Bytes) :
    ∃ header ciphertext after, (P.encrypt fresh nonce plaintext).run (world.state party) =
      (.ok (header, ciphertext), after) := by
  obtain ⟨ladder, synced, _, _⟩ := agrees
  have sending := (synced.view party).sending
  by_cases foot : ladder.level party = 0
  · rw [if_pos foot] at sending
    obtain ⟨middle, started, middleFits, climbed⟩ :=
      synced.startSendChain lawful foot new fits
    have level : (ladder.climb party fresh).level party ≠ 0 := by
      rw [climb_level]
      omega
    obtain ⟨header, ciphertext, after, made, _⟩ := climbed.encryptOnChain level
      (by rwa [updateState_self]) size plaintext
    rw [updateState_self] at made
    exact ⟨header, ciphertext, after,
      (P.encrypt_run_start fresh nonce plaintext _ middle sending started).trans made⟩
  · rw [if_neg foot] at sending
    obtain ⟨header, ciphertext, after, made, _⟩ :=
      synced.encryptOnChain foot fits size plaintext
    exact ⟨header, ciphertext, after,
      (P.encrypt_run_ready fresh nonce plaintext _ _ sending).trans made⟩

variable (P) in
/-- The header is two counters and a public key. -/
theorem encrypt_header_length {fresh : Priv} {nonce plaintext header ciphertext : Bytes}
    {state after : RatchetState Priv Key}
    (sent : (P.encrypt fresh nonce plaintext).run state = (.ok (header, ciphertext), after)) :
    header.length = 40 := by
  obtain ⟨middle, onChain, _⟩ := P.encrypt_ok sent
  obtain ⟨priv, _, _, _, packed, _⟩ := P.encryptOnChain_ok onChain
  unfold packHeader at packed
  split at packed
  · cases packed
    have size : (P.publicBytes priv).toList.length = 32 := Vector.length_toList
    simp [size]
  · cases packed

theorem applyEncrypt_of_ok {party : Party} {fresh : Priv}
    {nonce plaintext header ciphertext : Bytes} {after : RatchetState Priv Key}
    (sent : (P.encrypt fresh nonce plaintext).run (world.state party) =
      (.ok (header, ciphertext), after)) :
    P.applyEncrypt world party fresh nonce plaintext =
      { P.updateState world party after with
        sent := world.sent + 1
        inFlight := world.inFlight ++ [⟨party, world.sent, header, ciphertext, plaintext⟩] } := by
  rw [applyEncrypt, sent]

/-- No two messages in flight have one place. -/
theorem Agrees.nodup (agrees : P.Agrees secret world) : world.inFlight.Nodup := by
  obtain ⟨ladder, synced, _, _⟩ := agrees
  exact List.Nodup.of_map _ synced.distinct

end Primitives

end DoubleRatchet

namespace RatchetService

open DoubleRatchet

variable {Priv Dh Key StorageKey Box : Type}
variable (P : Primitives Priv Dh Key) (cipher : StorageCipher Priv Key StorageKey Box)

/-- Neither the key nor the rows change, and of the buffer only what is held for one friend. -/
structure Touches (service after : Service Priv Key StorageKey Box) (friend : String) : Prop where
  storageKey : after.storageKey = service.storageKey
  rows : after.rows = service.rows
  others : ∀ other, other ≠ friend → after.dirty.get? other = service.dirty.get? other

theorem Touches.refl (service : Service Priv Key StorageKey Box) (friend : String) :
    Touches service service friend := ⟨rfl, rfl, fun _ _ => rfl⟩

theorem Touches.marked (service : Service Priv Key StorageKey Box) (friend : String)
    (state : RatchetState Priv Key) :
    Touches service { service with dirty := service.dirty.set friend state } friend :=
  ⟨rfl, rfl, fun _ apart => Dict.get?_set_of_ne _ _ apart⟩

theorem encryptMessage_touches (friend : String) (fresh : Priv) (nonce plaintext : Bytes)
    (service : Service Priv Key StorageKey Box) :
    Touches service ((encryptMessage P cipher friend fresh nonce plaintext).run service).2
      friend := by
  have load := getRatchetState_run cipher service friend
  cases loaded : loadedState cipher service friend with
  | error raised =>
      rw [loaded] at load
      rw [encryptMessage, Call.run_bind_of_error load]
      exact .refl service friend
  | ok start =>
      rw [loaded] at load
      rw [encryptMessage, Call.run_bind_of_ok load]
      rcases (P.encrypt fresh nonce plaintext).run start with ⟨outcome, after⟩
      cases outcome with
      | ok packet => exact .marked service friend after
      | error raised => cases raised <;> exact .refl service friend

theorem decryptMessage_touches (friend : String) (fresh : Priv) (header ciphertext : Bytes)
    (service : Service Priv Key StorageKey Box) :
    Touches service ((decryptMessage P cipher friend fresh header ciphertext).run service).2
      friend := by
  have load := getRatchetState_run cipher service friend
  cases loaded : loadedState cipher service friend with
  | error raised =>
      rw [loaded] at load
      rw [decryptMessage, Call.run_bind_of_error load]
      exact .refl service friend
  | ok start =>
      rw [loaded] at load
      rw [decryptMessage, Call.run_bind_of_ok load]
      rcases (P.decrypt fresh header ciphertext).run start with ⟨outcome, after⟩
      cases outcome with
      | ok plaintext => exact .marked service friend after
      | error raised => exact .refl service friend

/-- A decryption that raised has buffered nothing. -/
theorem decryptMessage_of_error {friend : String} {fresh : Priv} {header ciphertext : Bytes}
    {service : Service Priv Key StorageKey Box}
    (refused : ((decryptMessage P cipher friend fresh header ciphertext).run
      service).1.toOption = none) :
    ((decryptMessage P cipher friend fresh header ciphertext).run service).2 = service := by
  have load := getRatchetState_run cipher service friend
  cases loaded : loadedState cipher service friend with
  | error raised =>
      rw [loaded] at load
      rw [decryptMessage, Call.run_bind_of_error load]
  | ok start =>
      rw [loaded] at load
      rw [decryptMessage, Call.run_bind_of_ok load] at refused ⊢
      rcases opened : (P.decrypt fresh header ciphertext).run start with ⟨outcome, after⟩
      cases outcome with
      | ok plaintext =>
          rw [opened] at refused
          cases refused
      | error raised => rfl

variable {P cipher}

theorem encryptMessage_run_ok {friend : String} {fresh : Priv}
    {nonce plaintext header ciphertext : Bytes} {service : Service Priv Key StorageKey Box}
    {state after : RatchetState Priv Key} (loaded : loadedState cipher service friend = .ok state)
    (sent : (P.encrypt fresh nonce plaintext).run state = (.ok (header, ciphertext), after)) :
    (encryptMessage P cipher friend fresh nonce plaintext).run service =
      (.ok (header, ciphertext), { service with dirty := service.dirty.set friend after }) := by
  have load := getRatchetState_run cipher service friend
  rw [loaded] at load
  rw [encryptMessage, Call.run_bind_of_ok load, sent]
  rfl

theorem decryptMessage_run_ok {friend : String} {fresh : Priv}
    {header ciphertext plaintext : Bytes} {service : Service Priv Key StorageKey Box}
    {state after : RatchetState Priv Key} (loaded : loadedState cipher service friend = .ok state)
    (opened : (P.decrypt fresh header ciphertext).run state = (.ok plaintext, after)) :
    (decryptMessage P cipher friend fresh header ciphertext).run service =
      (.ok plaintext, { service with dirty := service.dirty.set friend after }) := by
  have load := getRatchetState_run cipher service friend
  rw [loaded] at load
  rw [decryptMessage, Call.run_bind_of_ok load, opened]
  rfl

/-- Where the session with a friend is: in the row, or in the buffer until a flush. -/
structure Holds (cipher : StorageCipher Priv Key StorageKey Box)
    (service : Service Priv Key StorageKey Box) (friend : String)
    (data : SerializedState Priv Key) : Prop where
  session : ∃ state, loadedState cipher service friend = .ok state
  settled : service.dirty.get? friend = none →
    loadedState cipher service friend = .ok data.deserialize
  buffered : ∀ state, service.dirty.get? friend = some state → state.serialize = data

theorem Holds.congr {service after : Service Priv Key StorageKey Box} {friend : String}
    {data : SerializedState Priv Key} (holds : Holds cipher service friend data)
    (key : after.storageKey = service.storageKey)
    (row : after.rows.get? friend = service.rows.get? friend)
    (buffer : after.dirty.get? friend = service.dirty.get? friend) :
    Holds cipher after friend data := by
  have same := loadedState_congr cipher key row
  refine ⟨?_, ?_, ?_⟩
  · rw [same]
    exact holds.session
  · rw [same, buffer]
    exact holds.settled
  · rw [buffer]
    exact holds.buffered

theorem Holds.of_touches {service after : Service Priv Key StorageKey Box} {friend other : String}
    {data : SerializedState Priv Key} (holds : Holds cipher service friend data)
    (touches : Touches service after other) (apart : friend ≠ other) :
    Holds cipher after friend data := by
  apply holds.congr touches.storageKey ?_ (touches.others friend apart)
  rw [touches.rows]

theorem Holds.marked {service : Service Priv Key StorageKey Box} {friend : String}
    {data : SerializedState Priv Key} (holds : Holds cipher service friend data)
    (state : RatchetState Priv Key) :
    Holds cipher { service with dirty := service.dirty.set friend state } friend
      state.serialize := by
  have stored : (service.dirty.set friend state).get? friend = some state :=
    (Dict.get?_set _ _ _ _).trans (if_pos rfl)
  refine ⟨?_, ?_, ?_⟩
  · obtain ⟨before, loaded⟩ := holds.session
    have same : loadedState cipher { service with dirty := service.dirty.set friend state } friend =
        loadedState cipher service friend := loadedState_congr cipher rfl rfl
    exact ⟨before, same.trans loaded⟩
  · intro absent
    rw [stored] at absent
    cases absent
  · intro left found
    rw [stored] at found
    cases found
    rfl

/-- A flush moves the session from the buffer to the row, or leaves it where it is. -/
theorem Holds.flush (lawful : cipher.Lawful) {service : Service Priv Key StorageKey Box}
    {friend : String} {data : SerializedState Priv Key}
    (holds : Holds cipher service friend data) (nonce : String → Bytes) (fails : String → Bool) :
    Holds cipher ((flushDirtyStates cipher nonce fails).run service).2 friend data := by
  have key := flushDirtyStates_storageKey cipher nonce fails service
  have dirty := flushDirtyStates_dirty cipher nonce fails service friend
  obtain ⟨before, loaded⟩ := holds.session
  have row := row_of_loadedState cipher loaded
  cases stored : service.dirty.get? friend with
  | none =>
      apply holds.congr key
      · exact flushDirtyStates_rows_of_absent cipher nonce fails service friend stored
      · rw [dirty, stored, ite_self]
  | some state =>
      have kept := holds.buffered state stored
      cases goes : saves service fails friend with
      | false =>
          apply holds.congr key
          · exact flushDirtyStates_rows_of_blocked cipher nonce fails service friend goes row
          · rw [dirty, goes, if_neg Bool.false_ne_true]
      | true =>
          have written := flushDirtyStates_loaded cipher nonce fails lawful service friend state
            stored goes row
          rw [kept] at written
          rw [goes, if_pos rfl] at dirty
          refine ⟨⟨_, written⟩, fun _ => written, ?_⟩
          intro left found
          rw [dirty] at found
          cases found

variable (P) in
/-- What the two initialisations leave, whichever side it is. -/
def opened (role : Party) (fresh : Priv) (dhPub : PubBytes) (sharedSecret : Key)
    (localDhPriv : Option Priv) : Except Raised Unit × RatchetState Priv Key :=
  match role with
  | .alice => (P.initializeAsAlice fresh dhPub sharedSecret localDhPriv).run {}
  | .bob => (P.initializeAsBob fresh dhPub sharedSecret localDhPriv).run {}

theorem initRatchet_run_ok {role : Party} {friend : String} {fresh : Priv} {dhPub : PubBytes}
    {sharedSecret : Key} {localDhPriv : Option Priv} {state : RatchetState Priv Key}
    (initialized : opened P role fresh dhPub sharedSecret localDhPriv = (.ok (), state))
    (nonce : Bytes) {service : Service Priv Key StorageKey Box} {key : StorageKey}
    (present : service.storageKey = some key) :
    (initRatchet P cipher role friend fresh dhPub sharedSecret localDhPriv nonce false).run
      service = (.ok state, { service with
        rows := updateRow service.rows friend
          (some (.encrypted (cipher.encrypt key nonce state.serialize))) }) := by
  have saved := saveRatchetState_run_ok cipher friend state nonce present
  cases role with
  | alice =>
      have ran : (P.initializeAsAlice fresh dhPub sharedSecret localDhPriv).run {} =
          (.ok (), state) := initialized
      simp only [initRatchet, ran]
      rw [Call.run_bind_of_ok saved, Call.run_pure]
  | bob =>
      have ran : (P.initializeAsBob fresh dhPub sharedSecret localDhPriv).run {} =
          (.ok (), state) := initialized
      simp only [initRatchet, ran]
      rw [Call.run_bind_of_ok saved, Call.run_pure]

/-- A session that was just opened. -/
theorem Holds.init (lawful : cipher.Lawful) {service : Service Priv Key StorageKey Box}
    {role : Party} {friend : String} {fresh : Priv} {dhPub : PubBytes} {sharedSecret : Key}
    {localDhPriv : Option Priv} {state : RatchetState Priv Key}
    (initialized : opened P role fresh dhPub sharedSecret localDhPriv = (.ok (), state))
    (nonce : Bytes) (row : (service.rows.get? friend).isSome)
    (unlocked : service.storageKey.isSome) (settled : service.dirty.get? friend = none) :
    Holds cipher ((initRatchet P cipher role friend fresh dhPub sharedSecret localDhPriv nonce
      false).run service).2 friend state.serialize := by
  obtain ⟨key, present⟩ := Option.isSome_iff_exists.mp unlocked
  rw [initRatchet_run_ok initialized nonce present]
  have written : (updateRow service.rows friend (some (.encrypted
      (cipher.encrypt key nonce state.serialize)))).get? friend =
        some (some (.encrypted (cipher.encrypt key nonce state.serialize))) := by
    rw [get?_updateRow, if_pos ⟨rfl, row⟩]
  refine ⟨⟨_, loadedState_encrypted lawful present written⟩,
    fun _ => loadedState_encrypted lawful present written, ?_⟩
  intro left found
  have absent := settled.symm.trans found
  cases absent

end RatchetService

namespace Encryption

open Crypto Envelope
open DoubleRatchet (Party PubBytes Packet Conversation Setup)
open RatchetService (Service ServiceError StorageCipher Holds Touches loadedState decryptMessage)

/-- A ratchet envelope on the network, the text that went into it, and its place among all that
were sent. -/
structure Wire where
  sender : Party
  position : Nat
  packet : Bytes
  text : String
deriving DecidableEq, Inhabited

/-- The ratchet message that the envelope carries. -/
def Wire.message (wire : Wire) : Packet :=
  let carried := (RatchetEnvelope.parse wire.packet).toOption
  { sender := wire.sender
    position := wire.position
    header := (carried.map RatchetEnvelope.header).getD []
    ciphertext := (carried.map RatchetEnvelope.ciphertext).getD []
    plaintext := encodeUtf8 wire.text }

/-- Two devices and the network between them. -/
structure Channel (Priv Pub DhPriv Key StorageKey Box : Type) where
  device : Party → Device Priv Pub DhPriv Key StorageKey Box
  held : List PubBytes
  sent : Nat
  inFlight : List Wire
  delivered : List Wire

/-- One call of `EncryptionService.encrypt`, with the time and the draws it meets. -/
structure Sending (DhPriv : Type) where
  clocks : Clocks
  draws : Draws DhPriv
  timesOut : Bool
  text : String
  friendName : Option String
  mode : Mode
  sign : Bool
  selfDestructSeconds : Option Int

/-- One call of `EncryptionService.decrypt`, but for the text it is given. -/
structure Receiving (DhPriv : Type) where
  clocks : Clocks
  fresh : DhPriv
  timesOut : Bool

/-- `inject` is any other text that reaches a device, and `flush` a call of
`flush_dirty_states`. -/
inductive ChannelEvent (DhPriv : Type) where
  | encrypt (party : Party) (sending : Sending DhPriv)
  | deliver (wire : Wire) (receiving : Receiving DhPriv)
  | inject (party : Party) (b64Text : String) (receiving : Receiving DhPriv)
  | lose (wire : Wire)
  | flush (party : Party) (nonce : String → Bytes) (fails : String → Bool)

section Channel

variable {Priv Pub DhPriv Dh Key StorageKey Box : Type}
variable (L : MessageLibrary Priv Pub) (K : KemLibrary)
variable (P : DoubleRatchet.Primitives DhPriv Dh Key)
variable (cipher : StorageCipher DhPriv Key StorageKey Box)
variable (contact : Party → String)

/-- The conversation that the devices would resume from their rows. -/
def Channel.view (world : Channel Priv Pub DhPriv Key StorageKey Box) :
    Conversation DhPriv Key where
  state party :=
    (loadedState cipher (world.device party).ratchet (contact party)).toOption.getD {}
  held := world.held
  sent := world.sent
  inFlight := world.inFlight.map Wire.message
  delivered := world.delivered.map Wire.message

/-- The public key of the session that a call has just buffered. -/
def bufferedPub (device : Device Priv Pub DhPriv Key StorageKey Box) (friend : String) :
    List PubBytes :=
  (((device.ratchet.dirty.get? friend).bind DoubleRatchet.RatchetState.dhPriv).map
    P.publicBytes).toList

/-- The world with one device after a call. -/
def Channel.withDevice (world : Channel Priv Pub DhPriv Key StorageKey Box) (party : Party)
    (after : Device Priv Pub DhPriv Key StorageKey Box) :
    Channel Priv Pub DhPriv Key StorageKey Box :=
  { world with device := Function.update world.device party after }

@[simp] theorem Channel.withDevice_self (world : Channel Priv Pub DhPriv Key StorageKey Box)
    (party : Party) (after : Device Priv Pub DhPriv Key StorageKey Box) :
    (world.withDevice party after).device party = after := Function.update_self _ _ _

theorem Channel.withDevice_of_ne (world : Channel Priv Pub DhPriv Key StorageKey Box)
    {party other : Party} (after : Device Priv Pub DhPriv Key StorageKey Box)
    (apart : other ≠ party) : (world.withDevice party after).device other = world.device other :=
  Function.update_of_ne apart _ _

def Sending.call (sending : Sending DhPriv) :
    DeviceCall Priv Pub DhPriv Key StorageKey Box (Bytes × Int) :=
  encrypt L K P cipher sending.clocks sending.draws sending.timesOut sending.text
    sending.friendName sending.mode sending.sign sending.selfDestructSeconds

def Receiving.call (receiving : Receiving DhPriv) (b64Text : String) :
    DeviceCall Priv Pub DhPriv Key StorageKey Box String :=
  decrypt L K P cipher receiving.clocks receiving.fresh receiving.timesOut b64Text

/-- The call goes to the session with the contact. -/
def OnChannel (device : Device Priv Pub DhPriv Key StorageKey Box) (friend : String)
    (sending : Sending DhPriv) : Prop :=
  dispatch device sending.friendName sending.mode = .ratchet friend

instance (device : Device Priv Pub DhPriv Key StorageKey Box) (friend : String)
    (sending : Sending DhPriv) : Decidable (OnChannel device friend sending) :=
  inferInstanceAs (Decidable (_ = _))

def applySending (world : Channel Priv Pub DhPriv Key StorageKey Box) (party : Party)
    (sending : Sending DhPriv) : Channel Priv Pub DhPriv Key StorageKey Box :=
  let result := (sending.call L K P cipher).run (world.device party)
  if OnChannel (world.device party) (contact party) sending then
    match result.1 with
    | .ok (packet, _) =>
        { world.withDevice party result.2 with
          held := bufferedPub P result.2 (contact party) ++ world.held
          sent := world.sent + 1
          inFlight := world.inFlight ++ [⟨party, world.sent, packet, sending.text⟩] }
    | .error _ => world.withDevice party result.2
  else
    world.withDevice party result.2

def applyDelivery (world : Channel Priv Pub DhPriv Key StorageKey Box) (wire : Wire)
    (receiving : Receiving DhPriv) : Channel Priv Pub DhPriv Key StorageKey Box :=
  let party := wire.sender.peer
  let after := ((receiving.call L K P cipher (b64encode wire.packet)).run (world.device party)).2
  { world.withDevice party after with
    held := bufferedPub P after (contact party) ++ world.held
    inFlight := world.inFlight.erase wire
    delivered := wire :: world.delivered }

/-- The devices at the moment both have opened their sessions. -/
def startChannel (setup : Setup DhPriv Key) (nonce : Party → Bytes)
    (device : Party → Device Priv Pub DhPriv Key StorageKey Box) :
    Channel Priv Pub DhPriv Key StorageKey Box where
  device
    | .alice => { device .alice with
        ratchet := ((RatchetService.initRatchet P cipher .alice (contact .alice) setup.aliceFresh
          (P.publicBytes setup.bobPriv) setup.sharedSecret setup.aliceLocal (nonce .alice)
          false).run (device .alice).ratchet).2 }
    | .bob => { device .bob with
        ratchet := ((RatchetService.initRatchet P cipher .bob (contact .bob) setup.bobFresh
          (P.publicBytes setup.alicePriv) setup.sharedSecret setup.bobLocal (nonce .bob)
          false).run (device .bob).ratchet).2 }
  held := [P.publicBytes setup.alicePriv, P.publicBytes setup.bobPriv]
  sent := 0
  inFlight := []
  delivered := []

/-- `EncryptionService` on two devices over a network that delays, reorders and loses messages
and brings any others, but delivers each at most once. -/
def channel (start : Channel Priv Pub DhPriv Key StorageKey Box) :
    Machine (Channel Priv Pub DhPriv Key StorageKey Box) (ChannelEvent DhPriv) where
  start world := world = start
  enabled world
    | .encrypt party sending =>
        OnChannel (world.device party) (contact party) sending →
          P.publicBytes sending.draws.ratchetPriv ∉ world.held ∧
            sending.draws.ratchetNonce.length = DoubleRatchet.xchacha20NonceSize
    | .deliver wire receiving =>
        wire ∈ world.inFlight ∧ P.publicBytes receiving.fresh ∉ world.held
    | .inject _ _ _ => True
    | .lose wire => wire ∈ world.inFlight
    | .flush _ _ _ => True
  apply world
    | .encrypt party sending => applySending L K P cipher contact world party sending
    | .deliver wire receiving => applyDelivery L K P cipher contact world wire receiving
    | .inject party b64Text receiving =>
        world.withDevice party
          ((receiving.call L K P cipher b64Text).run (world.device party)).2
    | .lose wire => { world with inFlight := world.inFlight.erase wire }
    | .flush party nonce fails =>
        world.withDevice party { world.device party with
          ratchet := ((RatchetService.flushDirtyStates cipher nonce fails).run
            (world.device party).ratchet).2 }

/-- The session with this friend does not open what the text carries. -/
def Unopened (device : Device Priv Pub DhPriv Key StorageKey Box) (friend b64Text : String)
    (fresh : DhPriv) : Prop :=
  ∀ packet ∈ (b64decode b64Text).toOption, ∀ envelope ∈ (RatchetEnvelope.parse packet).toOption,
    envelope.senderName = friend →
      ((decryptMessage P cipher friend fresh envelope.header envelope.ciphertext).run
        device.ratchet).1.toOption = none

/-- Every call on the session finds nothing buffered and is orderly, and nothing else opens
on it. -/
def Undisturbed (world : Channel Priv Pub DhPriv Key StorageKey Box) :
    ChannelEvent DhPriv → Prop
  | .encrypt party sending =>
      OnChannel (world.device party) (contact party) sending →
        (world.device party).ratchet.dirty.get? (contact party) = none ∧
          DoubleRatchet.CountersFit ((world.view cipher contact).state party)
  | .deliver wire _ =>
      (world.device wire.sender.peer).ratchet.dirty.get? (contact wire.sender.peer) = none ∧
        ¬ DoubleRatchet.Late (world.view cipher contact) wire.message ∧
        DoubleRatchet.WithinLimits ((world.view cipher contact).state wire.sender.peer)
          wire.message.header
  | .inject party b64Text receiving =>
      Unopened P cipher (world.device party) (contact party) b64Text receiving.fresh
  | .lose _ => True
  | .flush _ _ _ => True

instance (start world : Channel Priv Pub DhPriv Key StorageKey Box) :
    (event : ChannelEvent DhPriv) →
      Decidable ((channel L K P cipher contact start).enabled world event)
  | .encrypt party sending =>
      inferInstanceAs (Decidable (OnChannel (world.device party) (contact party) sending →
        P.publicBytes sending.draws.ratchetPriv ∉ world.held ∧
          sending.draws.ratchetNonce.length = DoubleRatchet.xchacha20NonceSize))
  | .deliver wire receiving =>
      inferInstanceAs (Decidable
        (wire ∈ world.inFlight ∧ P.publicBytes receiving.fresh ∉ world.held))
  | .lose wire => inferInstanceAs (Decidable (wire ∈ world.inFlight))
  | .inject _ _ _ | .flush _ _ _ => inferInstanceAs (Decidable True)

instance [DecidableEq DhPriv] [DecidableEq Key]
    (world : Channel Priv Pub DhPriv Key StorageKey Box) : (event : ChannelEvent DhPriv) →
      Decidable (Undisturbed P cipher contact world event)
  | .encrypt party sending =>
      inferInstanceAs (Decidable (OnChannel (world.device party) (contact party) sending →
        (world.device party).ratchet.dirty.get? (contact party) = none ∧
          DoubleRatchet.CountersFit ((world.view cipher contact).state party)))
  | .deliver wire _ =>
      inferInstanceAs (Decidable
        ((world.device wire.sender.peer).ratchet.dirty.get? (contact wire.sender.peer) = none ∧
          ¬ DoubleRatchet.Late (world.view cipher contact) wire.message ∧
          DoubleRatchet.WithinLimits ((world.view cipher contact).state wire.sender.peer)
            wire.message.header))
  | .inject party b64Text receiving =>
      inferInstanceAs (Decidable
        (∀ packet ∈ (b64decode b64Text).toOption,
          ∀ envelope ∈ (RatchetEnvelope.parse packet).toOption,
            envelope.senderName = contact party →
              ((decryptMessage P cipher (contact party) receiving.fresh envelope.header
                envelope.ciphertext).run (world.device party).ratchet).1.toOption = none))
  | .lose _ | .flush _ _ _ => inferInstanceAs (Decidable True)

variable {L K P cipher}

/-- A device whose own name is `own`, and where its session with a friend stands. -/
structure Carries (L : MessageLibrary Priv Pub) (cipher : StorageCipher DhPriv Key StorageKey Box)
    (device : Device Priv Pub DhPriv Key StorageKey Box) (friend own : String)
    (data : DoubleRatchet.SerializedState DhPriv Key) : Prop where
  named : myName L device = own
  holds : Holds cipher device.ratchet friend data

theorem myName_congr {device after : Device Priv Pub DhPriv Key StorageKey Box}
    (store : after.store = device.store) (setting : after.myNameSetting = device.myNameSetting) :
    myName L after = myName L device := by
  unfold myName
  rw [store, setting]

theorem Carries.withRatchet {device : Device Priv Pub DhPriv Key StorageKey Box}
    {friend own : String} {data other : DoubleRatchet.SerializedState DhPriv Key}
    (carries : Carries L cipher device friend own data)
    {service : Service DhPriv Key StorageKey Box} (holds : Holds cipher service friend other) :
    Carries L cipher { device with ratchet := service } friend own other :=
  ⟨(myName_congr rfl rfl).trans carries.named, holds⟩

/-- A session whose state loads is active. -/
theorem Carries.supported {device : Device Priv Pub DhPriv Key StorageKey Box}
    {friend own : String} {data : DoubleRatchet.SerializedState DhPriv Key}
    (carries : Carries L cipher device friend own data) :
    friendSupportsRatchet device friend = true := by
  obtain ⟨state, loaded⟩ := carries.holds.session
  have active : hasActiveRatchet device.ratchet friend = true := by
    unfold hasActiveRatchet
    cases row : device.ratchet.rows.get? friend with
    | none =>
        simp only [loadedState, RatchetService.getRatchetState, Call.run_read_bind, row] at loaded
        cases loaded
    | some blob =>
        cases blob with
        | none =>
            simp only [loadedState, RatchetService.getRatchetState, Call.run_read_bind, row]
              at loaded
            cases loaded
        | some blob => rfl
  rw [friendSupportsRatchet, active, Bool.true_or]

theorem onChannel_of_shared {device : Device Priv Pub DhPriv Key StorageKey Box}
    {friend own : String} {data : DoubleRatchet.SerializedState DhPriv Key}
    (carries : Carries L cipher device friend own data) (present : friend ≠ "")
    {sending : Sending DhPriv} (addressed : sending.friendName = some friend)
    (shared : sending.mode = .shared) : OnChannel device friend sending := by
  have given : givenName (some friend) = some friend := by
    simp [givenName, present]
  unfold OnChannel dispatch
  rw [addressed, shared, given]
  simp only [carries.supported, ↓reduceIte]

theorem ratchetEncrypt_carries {device : Device Priv Pub DhPriv Key StorageKey Box}
    {friend own name : String} {data : DoubleRatchet.SerializedState DhPriv Key}
    (carries : Carries L cipher device friend own data) (apart : friend ≠ name)
    (clocks : Clocks) (draws : Draws DhPriv) (text : String) :
    Carries L cipher ((ratchetEncrypt L P cipher clocks draws text name).run device).2 friend own
      data := by
  have touches := RatchetService.encryptMessage_touches P cipher name draws.ratchetPriv
    draws.ratchetNonce (encodeUtf8 text) device.ratchet
  rcases called : (RatchetService.encryptMessage P cipher name draws.ratchetPriv
    draws.ratchetNonce (encodeUtf8 text)).run device.ratchet with ⟨outcome, service⟩
  rw [called] at touches
  have kept := carries.withRatchet (carries.holds.of_touches touches apart)
  rw [ratchetEncrypt, Call.run_bind, onRatchet_run, called]
  cases outcome with
  | error raised => exact kept
  | ok made =>
      simp only [Call.run_read_bind]
      rw [Call.run_bind, Call.run_lift]
      split
      · rename_i packet after lifted
        have same : { device with ratchet := service } = after := congrArg Prod.snd lifted
        rw [← same]
        exact kept
      · rename_i raised after lifted
        have same : { device with ratchet := service } = after := congrArg Prod.snd lifted
        rw [← same]
        exact kept

/-- A call that does not go to the session leaves it where it was. -/
theorem Carries.elsewhere {device : Device Priv Pub DhPriv Key StorageKey Box}
    {friend own : String} {data : DoubleRatchet.SerializedState DhPriv Key}
    (carries : Carries L cipher device friend own data) {sending : Sending DhPriv}
    (other : ¬ OnChannel device friend sending) :
    Carries L cipher ((sending.call L K P cipher).run device).2 friend own data := by
  rw [Sending.call, encrypt, Call.run_read_bind]
  cases chosen : dispatch device sending.friendName sending.mode with
  | pqc name =>
      simp only [Call.run_lift]
      exact carries
  | legacy =>
      simp only [Call.run_lift]
      exact carries
  | ratchet name =>
      apply ratchetEncrypt_carries carries
      intro same
      rw [← same] at chosen
      exact other chosen

/-- So does a text that the session does not open. -/
theorem Carries.inject {device : Device Priv Pub DhPriv Key StorageKey Box}
    {friend own : String} {data : DoubleRatchet.SerializedState DhPriv Key}
    (carries : Carries L cipher device friend own data) {b64Text : String}
    {receiving : Receiving DhPriv}
    (unopened : Unopened P cipher device friend b64Text receiving.fresh) :
    Carries L cipher ((receiving.call L K P cipher b64Text).run device).2 friend own data := by
  rw [Receiving.call, decrypt, Call.run_read_bind]
  cases decoded : b64decode b64Text with
  | error raised => exact carries
  | ok packet =>
      dsimp only
      cases identifyEnvelopeType packet with
      | none =>
          simp only [Call.run_lift]
          exact carries
      | some kind =>
          cases kind with
          | pqc =>
              simp only [Call.run_lift]
              exact carries
          | ratchet =>
              rw [ratchetDecrypt]
              cases parsed : RatchetEnvelope.parse packet with
              | error raised => exact carries
              | ok envelope =>
                  simp only [Call.run_read_bind]
                  split
                  · have touches := RatchetService.decryptMessage_touches P cipher
                      envelope.senderName receiving.fresh envelope.header envelope.ciphertext
                      device.ratchet
                    have refused := unopened packet (by rw [decoded]; rfl) envelope
                      (by rw [parsed]; rfl)
                    rcases called : (decryptMessage P cipher envelope.senderName receiving.fresh
                      envelope.header envelope.ciphertext).run device.ratchet with
                      ⟨outcome, service⟩
                    rw [called] at touches
                    have kept : Carries L cipher { device with ratchet := service } friend own
                        data := by
                      by_cases same : envelope.senderName = friend
                      · have nothing := RatchetService.decryptMessage_of_error P cipher
                          (refused same)
                        rw [← same, called] at nothing
                        rw [show service = device.ratchet from nothing]
                        exact carries
                      · exact carries.withRatchet
                          (carries.holds.of_touches touches (Ne.symm same))
                    rw [Call.run_bind, onRatchet_run, called]
                    cases outcome with
                    | error raised => exact kept
                    | ok plaintext =>
                        simp only [Call.run_lift]
                        exact kept
                  · exact carries

/-- What encryption makes of a state that encrypts: an envelope of its message. -/
theorem Carries.send {device : Device Priv Pub DhPriv Key StorageKey Box}
    {friend own : String} {data : DoubleRatchet.SerializedState DhPriv Key}
    (carries : Carries L cipher device friend own data)
    (settled : device.ratchet.dirty.get? friend = none) (present : own ≠ "")
    (short : (encodeUtf8 own).length ≤ 255) {sending : Sending DhPriv}
    (chosen : OnChannel device friend sending)
    (size : sending.draws.ratchetNonce.length = DoubleRatchet.xchacha20NonceSize)
    {header ciphertext : Bytes} {after : DoubleRatchet.RatchetState DhPriv Key}
    (sent : (P.encrypt sending.draws.ratchetPriv sending.draws.ratchetNonce
      (encodeUtf8 sending.text)).run data.deserialize = (.ok (header, ciphertext), after)) :
    ∃ packet, (sending.call L K P cipher).run device =
        (.ok (packet, toInt sending.clocks.stamp), { device with
          ratchet := { device.ratchet with dirty := device.ratchet.dirty.set friend after } }) ∧
      RatchetEnvelope.parse packet = .ok ⟨own, header, ciphertext⟩ := by
  have called := RatchetService.encryptMessage_run_ok (carries.holds.settled settled) sent
  have long := P.encrypt_header_length sent
  obtain ⟨rest, filled⟩ := ratchet_ciphertext sent
  have content : ciphertext ≠ [] := by
    intro empty
    have length := congrArg List.length filled
    rw [empty, List.length_append, size] at length
    simp [DoubleRatchet.xchacha20NonceSize] at length
    omega
  have letters : 1 ≤ (encodeUtf8 own).length := by
    by_contra none_left
    have blank : encodeUtf8 own = encodeUtf8 "" :=
      List.length_eq_zero_iff.mp (by omega : (encodeUtf8 own).length = 0)
    have same := congrArg decodeUtf8 blank
    rw [decodeUtf8_encodeUtf8, decodeUtf8_encodeUtf8] at same
    exact present (Option.some.inj same)
  have encodable : RatchetEnvelope.Encodable ⟨own, header, ciphertext⟩ :=
    ⟨letters, short, by simp only [long]; omega, content⟩
  have built := RatchetEnvelope.build_of_encodable encodable
  refine ⟨_, ?_, RatchetEnvelope.parse_build built present content⟩
  rw [Sending.call, encrypt, Call.run_read_bind, show dispatch device sending.friendName
    sending.mode = .ratchet friend from chosen]
  dsimp only
  rw [ratchetEncrypt, Call.run_bind, onRatchet_run, called]
  dsimp only
  have named : myName L { device with
      ratchet := { device.ratchet with dirty := device.ratchet.dirty.set friend after } } =
        own := (myName_congr rfl rfl).trans carries.named
  simp only [Call.run_read_bind, named, present, ↓reduceIte, built, orEncryptionError]
  rfl

/-- What decryption makes of an envelope whose message the state opens. -/
theorem Carries.receive {device : Device Priv Pub DhPriv Key StorageKey Box}
    {friend own : String} {data : DoubleRatchet.SerializedState DhPriv Key}
    (carries : Carries L cipher device friend own data)
    (settled : device.ratchet.dirty.get? friend = none) {receiving : Receiving DhPriv}
    {packet header ciphertext : Bytes} {text : String}
    (parsed : RatchetEnvelope.parse packet = .ok ⟨friend, header, ciphertext⟩)
    {after : DoubleRatchet.RatchetState DhPriv Key}
    (opened : (P.decrypt receiving.fresh header ciphertext).run data.deserialize =
      (.ok (encodeUtf8 text), after)) :
    (receiving.call L K P cipher (b64encode packet)).run device =
      (.ok text, { device with
        ratchet := { device.ratchet with dirty := device.ratchet.dirty.set friend after } }) := by
  have called := RatchetService.decryptMessage_run_ok (carries.holds.settled settled) opened
  obtain ⟨_, built⟩ := RatchetEnvelope.parse_ok parsed
  rw [Receiving.call, decrypt, Call.run_read_bind, b64decode_b64encode]
  simp only [identifyEnvelopeType_ratchet built]
  rw [ratchetDecrypt, parsed]
  simp only [Call.run_read_bind, carries.supported, ↓reduceIte]
  rw [Call.run_bind, onRatchet_run, called]
  simp only [Call.run_lift, decodeStrict_encodeUtf8]

/-- The conversation that two devices are in, whatever of it is still buffered. -/
structure Tracks (L : MessageLibrary Priv Pub) (P : DoubleRatchet.Primitives DhPriv Dh Key)
    (cipher : StorageCipher DhPriv Key StorageKey Box) (contact : Party → String) (secret : Key)
    (world : Channel Priv Pub DhPriv Key StorageKey Box) (talk : Conversation DhPriv Key) :
    Prop where
  agrees : P.Agrees secret talk
  held : talk.held = world.held
  sent : talk.sent = world.sent
  inFlight : talk.inFlight = world.inFlight.map Wire.message
  delivered : talk.delivered = world.delivered.map Wire.message
  carries : ∀ party, Carries L cipher (world.device party) (contact party) (contact party.peer)
    (talk.state party).serialize
  sealed : ∀ wire ∈ world.inFlight, RatchetEnvelope.parse wire.packet =
    .ok ⟨contact wire.sender.peer, wire.message.header, wire.message.ciphertext⟩

variable {contact} {secret : Key} {world : Channel Priv Pub DhPriv Key StorageKey Box}
variable {talk : Conversation DhPriv Key}

theorem Tracks.view_state (tracks : Tracks L P cipher contact secret world talk) {party : Party}
    (settled : (world.device party).ratchet.dirty.get? (contact party) = none) :
    (world.view cipher contact).state party = talk.restored.state party := by
  have loaded := (tracks.carries party).holds.settled settled
  unfold Channel.view
  simp only [loaded]
  rfl

theorem Tracks.view_late (tracks : Tracks L P cipher contact secret world talk) (packet : Packet) :
    DoubleRatchet.Late (world.view cipher contact) packet ↔
      DoubleRatchet.Late talk.restored packet := by
  unfold DoubleRatchet.Late
  have same : talk.restored.delivered = (world.view cipher contact).delivered := tracks.delivered
  rw [same]

/-- Only what one device does to its own session is left to see. -/
theorem Tracks.withDevice (tracks : Tracks L P cipher contact secret world talk) {party : Party}
    {after : Device Priv Pub DhPriv Key StorageKey Box}
    (carries : Carries L cipher after (contact party) (contact party.peer)
      (talk.state party).serialize) :
    Tracks L P cipher contact secret (world.withDevice party after) talk := by
  refine ⟨tracks.agrees, tracks.held, tracks.sent, tracks.inFlight, tracks.delivered, ?_,
    tracks.sealed⟩
  intro other
  by_cases same : other = party
  · rw [same, Channel.withDevice_self]
    exact carries
  · rw [Channel.withDevice_of_ne _ _ same]
    exact tracks.carries other

/-- The devices after one of them has buffered what a call left. -/
theorem Tracks.carries_marked (tracks : Tracks L P cipher contact secret world talk)
    {party : Party} (after : DoubleRatchet.RatchetState DhPriv Key) (other : Party) :
    Carries L cipher
      ((world.withDevice party { world.device party with
        ratchet := { (world.device party).ratchet with
          dirty := (world.device party).ratchet.dirty.set (contact party) after } }).device other)
      (contact other) (contact other.peer)
      ((P.updateState talk.restored party after).state other).serialize := by
  by_cases same : other = party
  · rw [same, Channel.withDevice_self, DoubleRatchet.Primitives.updateState_self]
    exact (tracks.carries party).withRatchet ((tracks.carries party).holds.marked after)
  · have kept : (P.updateState talk.restored party after).state other =
        talk.restored.state other := Function.update_of_ne same _ _
    rw [Channel.withDevice_of_ne _ _ same, kept]
    exact tracks.carries other

theorem bufferedPub_marked (device : Device Priv Pub DhPriv Key StorageKey Box) (friend : String)
    (after : DoubleRatchet.RatchetState DhPriv Key) :
    bufferedPub P { device with
      ratchet := { device.ratchet with dirty := device.ratchet.dirty.set friend after } } friend =
        (after.dhPriv.map P.publicBytes).toList := by
  unfold bufferedPub
  rw [Dict.get?_set, if_pos rfl, Option.bind_some]

theorem map_erase_of_nodup {α β : Type} [DecidableEq α] [DecidableEq β] (f : α → β) {items : List α}
    (distinct : (items.map f).Nodup) {item : α} (member : item ∈ items) :
    (items.erase item).map f = (items.map f).erase (f item) := by
  induction items with
  | nil => cases member
  | cons head rest ih =>
      rw [List.map_cons, List.nodup_cons] at distinct
      by_cases same : head = item
      · rw [same, List.erase_cons_head, List.map_cons, List.erase_cons_head]
      · have inside : item ∈ rest := by
          rcases List.mem_cons.mp member with first | later
          · exact absurd first.symm same
          · exact later
        have apart : f head ≠ f item := by
          intro equal
          rw [equal] at distinct
          exact distinct.1 (List.mem_map_of_mem inside)
        rw [List.erase_cons_tail (by simpa using same), List.map_cons, List.map_cons,
          List.erase_cons_tail (by simpa using apart), ih distinct.2 inside]

theorem Tracks.lose (tracks : Tracks L P cipher contact secret world talk) {wire : Wire}
    (arrives : wire ∈ world.inFlight) :
    (world.inFlight.erase wire).map Wire.message = talk.inFlight.erase wire.message := by
  have distinct := tracks.agrees.nodup
  rw [tracks.inFlight] at distinct ⊢
  exact map_erase_of_nodup Wire.message distinct arrives

/-- An encryption on the session returns, and takes the conversation one message further. -/
theorem Tracks.encrypt (lawful : P.Lawful)
    (tracks : Tracks L P cipher contact secret world talk) {party : Party}
    (present : contact party.peer ≠ "") (short : (encodeUtf8 (contact party.peer)).length ≤ 255)
    {sending : Sending DhPriv} (chosen : OnChannel (world.device party) (contact party) sending)
    (new : P.publicBytes sending.draws.ratchetPriv ∉ world.held)
    (size : sending.draws.ratchetNonce.length = DoubleRatchet.xchacha20NonceSize)
    (settled : (world.device party).ratchet.dirty.get? (contact party) = none)
    (fits : DoubleRatchet.CountersFit ((world.view cipher contact).state party)) :
    (∃ packet, ((sending.call L K P cipher).run (world.device party)).1 =
      .ok (packet, toInt sending.clocks.stamp)) ∧
    Tracks L P cipher contact secret (applySending L K P cipher contact world party sending)
      (P.applyEncrypt talk.restored party sending.draws.ratchetPriv sending.draws.ratchetNonce
        (encodeUtf8 sending.text)) := by
  have restored := tracks.agrees.restored
  have unused : P.publicBytes sending.draws.ratchetPriv ∉ talk.restored.held := by
    rw [show talk.restored.held = world.held from tracks.held]
    exact new
  rw [tracks.view_state settled] at fits
  obtain ⟨header, ciphertext, after, sent⟩ :=
    restored.encrypt_run lawful unused size fits (encodeUtf8 sending.text)
  obtain ⟨packet, called, parsed⟩ :=
    (tracks.carries party).send settled present short chosen size sent
  have agrees := restored.encrypt lawful unused size fits (encodeUtf8 sending.text)
  have applied := DoubleRatchet.Primitives.applyEncrypt_of_ok sent
  have message : (Wire.mk party world.sent packet sending.text).message =
      ⟨party, world.sent, header, ciphertext, encodeUtf8 sending.text⟩ := by
    unfold Wire.message
    rw [parsed]
    rfl
  refine ⟨⟨packet, by rw [called]⟩, ?_⟩
  rw [applied] at agrees ⊢
  unfold applySending
  simp only [chosen, ↓reduceIte, called]
  refine ⟨agrees, ?_, ?_, ?_, tracks.delivered, tracks.carries_marked after, ?_⟩
  · rw [bufferedPub_marked, ← tracks.held]
    rfl
  · exact congrArg (· + 1) tracks.sent
  · rw [List.map_append, List.map_singleton, message, ← tracks.inFlight, ← tracks.sent]
    rfl
  · intro wire member
    rcases List.mem_append.mp member with old | last
    · exact tracks.sealed wire old
    · rw [List.mem_singleton] at last
      rw [last, message, parsed]

/-- A delivery on the session returns the text that was sent. -/
theorem Tracks.deliver (lawful : P.Lawful)
    (tracks : Tracks L P cipher contact secret world talk) {wire : Wire}
    {receiving : Receiving DhPriv} (arrives : wire ∈ world.inFlight)
    (new : P.publicBytes receiving.fresh ∉ world.held)
    (settled : (world.device wire.sender.peer).ratchet.dirty.get? (contact wire.sender.peer) = none)
    (timely : ¬ DoubleRatchet.Late (world.view cipher contact) wire.message)
    (limits : DoubleRatchet.WithinLimits ((world.view cipher contact).state wire.sender.peer)
      wire.message.header) :
    ((receiving.call L K P cipher (b64encode wire.packet)).run
        (world.device wire.sender.peer)).1 = .ok wire.text ∧
    Tracks L P cipher contact secret (applyDelivery L K P cipher contact world wire receiving)
      (P.applyDeliver talk.restored wire.message receiving.fresh) := by
  have restored := tracks.agrees.restored
  have unused : P.publicBytes receiving.fresh ∉ talk.restored.held := by
    rw [show talk.restored.held = world.held from tracks.held]
    exact new
  have inside : wire.message ∈ talk.restored.inFlight := by
    rw [show talk.restored.inFlight = world.inFlight.map Wire.message from tracks.inFlight]
    exact List.mem_map_of_mem arrives
  rw [tracks.view_late] at timely
  rw [tracks.view_state settled] at limits
  obtain ⟨opened, agrees⟩ := restored.deliver lawful inside unused timely limits
  rcases ran : (P.decrypt receiving.fresh wire.message.header wire.message.ciphertext).run
    (talk.restored.state wire.sender.peer) with ⟨outcome, after⟩
  have returned : (P.decrypt receiving.fresh wire.message.header wire.message.ciphertext).run
      (talk.state wire.sender.peer).serialize.deserialize =
        (.ok (encodeUtf8 wire.text), after) := by
    rw [show outcome = _ from (congrArg Prod.fst ran).symm.trans opened] at ran
    exact ran
  have called : (receiving.call L K P cipher (b64encode wire.packet)).run
      (world.device wire.sender.peer) = _ :=
    (tracks.carries wire.sender.peer).receive settled (tracks.sealed wire arrives) returned
  have applied : P.applyDeliver talk.restored wire.message receiving.fresh =
      { P.updateState talk.restored wire.sender.peer after with
        inFlight := talk.inFlight.erase wire.message
        delivered := wire.message :: talk.delivered } := by
    unfold DoubleRatchet.Primitives.applyDeliver
    rw [show wire.message.sender = wire.sender from rfl, ran]
    rfl
  refine ⟨by rw [called], ?_⟩
  rw [applied] at agrees ⊢
  unfold applyDelivery
  simp only [called]
  refine ⟨agrees, ?_, tracks.sent, (tracks.lose arrives).symm, ?_, tracks.carries_marked after, ?_⟩
  · rw [bufferedPub_marked, ← tracks.held]
    rfl
  · exact congrArg (wire.message :: ·) tracks.delivered
  · intro other member
    exact tracks.sealed other (List.mem_of_mem_erase member)

/-- Both devices list the other under the name it gives itself, and have no session yet in the
buffer. -/
structure Introduced (L : MessageLibrary Priv Pub) (contact : Party → String)
    (device : Party → Device Priv Pub DhPriv Key StorageKey Box) : Prop where
  named : ∀ party, myName L (device party) = contact party.peer
  present : ∀ party, contact party ≠ ""
  short : ∀ party, (encodeUtf8 (contact party)).length ≤ 255
  friend : ∀ party, ((device party).ratchet.rows.get? (contact party)).isSome
  unlocked : ∀ party, (device party).ratchet.storageKey.isSome
  settled : ∀ party, (device party).ratchet.dirty.get? (contact party) = none

theorem start_tracks (lawful : P.Lawful) (cipherLawful : cipher.Lawful)
    {device : Party → Device Priv Pub DhPriv Key StorageKey Box}
    (introduced : Introduced L contact device) (setup : Setup DhPriv Key)
    (nonce : Party → Bytes) :
    Tracks L P cipher contact setup.sharedSecret
      (startChannel P cipher contact setup nonce device) (P.startConversation setup) := by
  obtain ⟨dhOut, alice, bob⟩ := lawful.exchange_some setup.alicePriv setup.bobPriv
  have aliceRun := P.initializeAsAlice_run setup.aliceFresh (P.publicBytes setup.bobPriv)
    setup.sharedSecret setup.aliceLocal dhOut {} alice
  have bobRun := P.initializeAsBob_run setup.bobFresh (P.publicBytes setup.alicePriv)
    setup.sharedSecret setup.bobLocal dhOut {} bob
  refine ⟨DoubleRatchet.Primitives.start_agrees lawful setup, rfl, rfl, rfl, rfl, ?_,
    fun wire member => absurd member List.not_mem_nil⟩
  intro party
  cases party with
  | alice =>
      have opened : RatchetService.opened P .alice setup.aliceFresh
          (P.publicBytes setup.bobPriv) setup.sharedSecret setup.aliceLocal =
            (.ok (), (P.startConversation setup).state .alice) :=
        aliceRun.trans (congrArg (Prod.mk _) (congrArg Prod.snd aliceRun).symm)
      exact ⟨(myName_congr rfl rfl).trans (introduced.named .alice),
        Holds.init cipherLawful opened _ (introduced.friend .alice) (introduced.unlocked .alice)
          (introduced.settled .alice)⟩
  | bob =>
      have opened : RatchetService.opened P .bob setup.bobFresh
          (P.publicBytes setup.alicePriv) setup.sharedSecret setup.bobLocal =
            (.ok (), (P.startConversation setup).state .bob) :=
        bobRun.trans (congrArg (Prod.mk _) (congrArg Prod.snd bobRun).symm)
      exact ⟨(myName_congr rfl rfl).trans (introduced.named .bob),
        Holds.init cipherLawful opened _ (introduced.friend .bob) (introduced.unlocked .bob)
          (introduced.settled .bob)⟩

/-- Every undisturbed run of the two services is an orderly conversation. -/
theorem tracks_of_reachable (lawful : P.Lawful) (cipherLawful : cipher.Lawful)
    {device : Party → Device Priv Pub DhPriv Key StorageKey Box}
    (introduced : Introduced L contact device) {setup : Setup DhPriv Key} {nonce : Party → Bytes}
    (reachable : (channel L K P cipher contact
      (startChannel P cipher contact setup nonce device)).Reachable
        (Undisturbed P cipher contact) world) :
    ∃ talk, Tracks L P cipher contact setup.sharedSecret world talk := by
  refine Machine.Reachable.invariant _
    (fun world => ∃ talk, Tracks L P cipher contact setup.sharedSecret world talk) ?_ ?_ reachable
  · intro start initial
    rw [initial]
    exact ⟨_, start_tracks lawful cipherLawful introduced setup nonce⟩
  · intro before event _ tracked enabled undisturbed
    obtain ⟨talk, tracks⟩ := tracked
    cases event with
    | encrypt party sending =>
        by_cases chosen : OnChannel (before.device party) (contact party) sending
        · obtain ⟨new, size⟩ := enabled chosen
          obtain ⟨settled, fits⟩ := undisturbed chosen
          exact ⟨_, (tracks.encrypt lawful (introduced.present _) (introduced.short _) chosen new
            size settled fits).2⟩
        · refine ⟨talk, ?_⟩
          show Tracks L P cipher contact setup.sharedSecret
            (applySending L K P cipher contact before party sending) talk
          unfold applySending
          simp only [chosen, ↓reduceIte]
          exact tracks.withDevice ((tracks.carries party).elsewhere chosen)
    | deliver wire receiving =>
        exact ⟨_, (tracks.deliver lawful enabled.1 enabled.2 undisturbed.1 undisturbed.2.1
          undisturbed.2.2).2⟩
    | inject party b64Text receiving =>
        exact ⟨talk, tracks.withDevice ((tracks.carries party).inject undisturbed)⟩
    | lose wire =>
        exact ⟨{ talk with inFlight := talk.inFlight.erase wire.message },
          tracks.agrees.lose wire.message, tracks.held, tracks.sent, (tracks.lose enabled).symm,
          tracks.delivered, tracks.carries,
          fun other member => tracks.sealed other (List.mem_of_mem_erase member)⟩
    | flush party nonce fails =>
        exact ⟨talk, tracks.withDevice ((tracks.carries party).withRatchet
          ((tracks.carries party).holds.flush cipherLawful nonce fails))⟩

end Channel

/-- Two devices that have opened their sessions with each other exchange shared-mode messages
through `EncryptionService`: in every run whose calls on the session find nothing buffered and are
orderly, whatever else the devices send, receive, lose or flush, each encryption returns an
envelope and each delivery returns the text that went in. -/
theorem channel_delivers {Priv Pub DhPriv Dh Key StorageKey Box : Type}
    (L : MessageLibrary Priv Pub) (K : KemLibrary) (P : DoubleRatchet.Primitives DhPriv Dh Key)
    (lawful : P.Lawful) (cipher : StorageCipher DhPriv Key StorageKey Box)
    (cipherLawful : cipher.Lawful) (contact : Party → String)
    (device : Party → Device Priv Pub DhPriv Key StorageKey Box)
    (introduced : Introduced L contact device) (setup : Setup DhPriv Key)
    (nonce : Party → Bytes) (world : Channel Priv Pub DhPriv Key StorageKey Box)
    (reachable : (channel L K P cipher contact
      (startChannel P cipher contact setup nonce device)).Reachable
        (Undisturbed P cipher contact) world) :
    (∀ party sending, sending.friendName = some (contact party) → sending.mode = .shared →
      (channel L K P cipher contact
        (startChannel P cipher contact setup nonce device)).enabled world
          (.encrypt party sending) →
      Undisturbed P cipher contact world (.encrypt party sending) →
      ∃ packet, ((sending.call L K P cipher).run (world.device party)).1 =
        .ok (packet, toInt sending.clocks.stamp)) ∧
    (∀ wire receiving,
      (channel L K P cipher contact
        (startChannel P cipher contact setup nonce device)).enabled world
          (.deliver wire receiving) →
      Undisturbed P cipher contact world (.deliver wire receiving) →
      ((receiving.call L K P cipher (b64encode wire.packet)).run
        (world.device wire.sender.peer)).1 = .ok wire.text) := by
  obtain ⟨talk, tracks⟩ := tracks_of_reachable lawful cipherLawful introduced reachable
  constructor
  · intro party sending addressed shared enabled undisturbed
    have chosen := onChannel_of_shared (tracks.carries party) (introduced.present party)
      addressed shared
    obtain ⟨new, size⟩ := enabled chosen
    obtain ⟨settled, fits⟩ := undisturbed chosen
    exact (tracks.encrypt lawful (introduced.present _) (introduced.short _) chosen new size
      settled fits).1
  · intro wire receiving enabled undisturbed
    exact (tracks.deliver lawful enabled.1 enabled.2 undisturbed.1 undisturbed.2.1
      undisturbed.2.2).1

section Example

def toyContact : Party → String
  | .alice => "bob"
  | .bob => "alice"

/-- A device that lists the other and has no session with it yet. -/
def toyPeer (party : Party) : Device Bytes Bytes UInt8 Bytes Nat
    (Nat × Bytes × DoubleRatchet.SerializedState UInt8 Bytes) :=
  { toyDevice with
    myNameSetting := some (toyContact party.peer)
    ratchet := { storageKey := some 5
                 rows := Dict.empty.set (toyContact party) none
                 dirty := .empty } }

theorem toyPeer_introduced : Introduced toyMessages toyContact toyPeer := by
  refine ⟨?_, ?_, ?_, ?_, ?_, ?_⟩ <;> intro party <;> cases party <;> decide

def toySending (fresh : UInt8) (party : Party) (text : String) : Sending UInt8 where
  clocks := ⟨none, 100⟩
  draws := { toyMessageDraws with ratchetPriv := fresh }
  timesOut := false
  text := text
  friendName := some (toyContact party)
  mode := .shared
  sign := false
  selfDestructSeconds := none

def toyReceiving (fresh : UInt8) : Receiving UInt8 := ⟨⟨none, 110⟩, fresh, false⟩

def Channel.flying {Priv Pub DhPriv Key StorageKey Box : Type}
    (world : Channel Priv Pub DhPriv Key StorageKey Box) (index : Nat) : Wire :=
  world.inFlight.getD index default

abbrev ToyChannel : Type := Channel Bytes Bytes UInt8 Bytes Nat
  (Nat × Bytes × DoubleRatchet.SerializedState UInt8 Bytes)

def toyChannelStart : ToyChannel :=
  startChannel DoubleRatchet.toyPrimitives RatchetService.toyCipher toyContact
    DoubleRatchet.toySetup (fun _ => []) toyPeer

/-- Alice's first message, flushed, while garbage reaches Bob. -/
def toyExchange : List (ToyChannel → ChannelEvent UInt8) :=
  [fun _ => .encrypt .alice (toySending 10 .alice "one"),
   fun _ => .inject .bob "no" (toyReceiving 11),
   fun _ => .flush .alice (fun _ => []) (fun _ => false)]

def toyExchanged : ToyChannel :=
  (channel toyMessages toyKem DoubleRatchet.toyPrimitives RatchetService.toyCipher toyContact
    toyChannelStart).run toyChannelStart toyExchange

theorem toyExchanged_delivers :
    (∃ packet, ((((toySending 12 .alice "two").call toyMessages toyKem DoubleRatchet.toyPrimitives
      RatchetService.toyCipher).run (toyExchanged.device .alice)).1 =
        .ok (packet, toInt (toySending 12 .alice "two").clocks.stamp))) ∧
    ((((toyReceiving 13).call toyMessages toyKem DoubleRatchet.toyPrimitives
      RatchetService.toyCipher (b64encode (toyExchanged.flying 0).packet)).run
        (toyExchanged.device (toyExchanged.flying 0).sender.peer)).1 =
          .ok (toyExchanged.flying 0).text) := by
  obtain ⟨sends, delivers⟩ := channel_delivers toyMessages toyKem DoubleRatchet.toyPrimitives
    DoubleRatchet.toyPrimitives_lawful RatchetService.toyCipher RatchetService.toyCipher_lawful
    toyContact toyPeer toyPeer_introduced DoubleRatchet.toySetup (fun _ => []) toyExchanged
    (.run (.start rfl) (by decide +kernel))
  exact ⟨sends .alice (toySending 12 .alice "two") rfl rfl (by decide +kernel) (by decide +kernel),
    delivers (toyExchanged.flying 0) (toyReceiving 13) (by decide +kernel) (by decide +kernel)⟩

end Example

end Encryption

end UltimateEnigma
