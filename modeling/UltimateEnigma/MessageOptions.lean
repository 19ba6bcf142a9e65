import UltimateEnigma.ClockTracking
import UltimateEnigma.DeferredState
import UltimateEnigma.EncryptionService
import UltimateEnigma.KeyHint
import UltimateEnigma.SealedMessage

set_option autoImplicit false

namespace UltimateEnigma.Encryption

open Py Crypto Envelope
open RatchetService (Service ServiceError StorageCipher)
open ClockTracking (toyStore)

/-- `now`, as `decrypt_message` works with it. -/
def Clocks.present (clocks : Clocks) : Int := clocks.checkNow.getD (toInt clocks.clock)

section Legacy

variable {Priv Pub : Type} (L : MessageLibrary Priv Pub)

/-- There are keys that a signature can be made with. -/
def SigningKeysLoaded (store : KeyStore Priv Pub) : Prop :=
  ((legacyOptions store none true none).hybridKeys L).isSome = true ∨ store.myPriv.isSome = true

/-- The text stands behind a line that names an entry of the peer's lists, under whose key the
sender's signature over the message verifies. -/
def ReportsSender (sender peer : KeyStore Priv Pub) (draws : EncryptDraws) (sign : Bool)
    (selfDestructSeconds : Option Int) (time : Nat) (plaintext text : String) : Prop :=
  let options := legacyOptions sender none sign selfDestructSeconds
  ∃ line signature, line ≠ "" ∧ text = line ++ plaintext ∧
    signInner L options draws (innerOf time options.seconds (encodeUtf8 plaintext)) =
      .ok signature ∧
    BannerFor L options (friendsForCrypto peer) (friendsHybridList peer)
      (innerOf time options.seconds (encodeUtf8 plaintext)) signature line

/-- The sender's public keys are in the peer's lists. -/
structure ListsSender (sender peer : KeyStore Priv Pub) : Prop where
  hybrid {edPriv dilPriv : Bytes}
    (used : (legacyOptions sender none true none).hybridKeys L = some (edPriv, dilPriv)) :
    ∃ name, (name, L.signatures.edPublic edPriv, L.signatures.dilPublic dilPriv) ∈
      friendsHybridList peer
  rsa {priv : Priv} (loaded : sender.myPriv = some priv) :
    ∃ name, (name, L.publicKey priv) ∈ friendsForCrypto peer

/-- The peer has the key of a legacy message. -/
def HasKey (peer : KeyStore Priv Pub) (constKey : Bytes) : Option Pub → Prop
  | some pub => ∃ priv, (peer.myPriv = some priv ∨ peer.legacyPriv = some priv) ∧
      L.publicKey priv = pub
  | none => constKey ∈ secretsToTry peer

variable {L}

theorem findSome?_of_agree {α β : Type} {items : List α} {find : α → Option β} {value : β}
    (agree : ∀ item ∈ items, find item = none ∨ find item = some value) {item : α}
    (member : item ∈ items) (found : find item = some value) : items.findSome? find = some value := by
  cases result : items.findSome? find with
  | none =>
      have missing := List.findSome?_eq_none_iff.mp result item member
      rw [found] at missing
      cases missing
  | some other =>
      obtain ⟨first, inside, chosen⟩ := List.exists_of_findSome?_eq_some result
      rcases agree first inside with none | same
      · rw [none] at chosen
        cases chosen
      · exact chosen.symm.trans same

section Sealing

variable {options : EncryptOptions Priv Pub} {draws : EncryptDraws}
variable {plaintext : String} {constKey packet aesKey signature : Bytes} {time : Nat}

theorem packet_eq_cons
    (sealing : Sealed L options draws constKey (encodeUtf8 plaintext) time packet aesKey signature) :
    ∃ rest, packet = UInt8.ofNat (options.flags L) :: rest := by
  rw [sealing.packet_eq, headerOf]
  exact ⟨_, rfl⟩

/-- Under any key the packet is read as what was sealed, and only in its time. -/
theorem decryptMessage_sealed (authentic : L.Authentic) (lawful : L.Lawful)
    (sealing : Sealed L options draws constKey (encodeUtf8 plaintext) time packet aesKey signature)
    (nonceLength : draws.nonce.length = 12) (timeFits : time < 2 ^ 62) (peer : KeyStore Priv Pub)
    (clocks : Clocks) (openKey : Bytes) (receiver : Option Priv) :
    let attempt := (decryptMessage L packet openKey receiver (friendsForCrypto peer)
      clocks.checkNow (toInt clocks.clock) (friendsHybridList peer)).toOption
    attempt = none ∨
      checkTime clocks.present time options.seconds = .ok () ∧
        attempt = some (banner L (friendsForCrypto peer) (friendsHybridList peer)
          (openedOf L options time (encodeUtf8 plaintext) signature) ++ plaintext) := by
  intro attempt
  cases result : decryptMessage L packet openKey receiver (friendsForCrypto peer)
      clocks.checkNow (toInt clocks.clock) (friendsHybridList peer) with
  | error raised =>
      left
      show Except.toOption _ = none
      rw [result]
      rfl
  | ok text =>
      right
      obtain ⟨opened, reading, assembled⟩ := ok_of_bind result
      obtain ⟨same, passes⟩ := sealing.onlyOpens authentic lawful nonceLength timeFits reading
      cases assembled
      refine ⟨passes, ?_⟩
      show Except.toOption _ = _
      rw [result, same]
      show some (_ ++ decodeText (encodeUtf8 plaintext)) = _
      rw [decodeText_encodeUtf8]

/-- After its time a packet is refused by every peer. -/
theorem legacyDecrypt_late (authentic : L.Authentic) (lawful : L.Lawful)
    (sealing : Sealed L options draws constKey (encodeUtf8 plaintext) time packet aesKey signature)
    (nonceLength : draws.nonce.length = 12) (timeFits : time < 2 ^ 62) (peer : KeyStore Priv Pub)
    {clocks : Clocks} (late : checkTime clocks.present time options.seconds ≠ .ok ()) :
    ∃ failure, legacyDecrypt L peer clocks packet = .error failure := by
  cases result : legacyDecrypt L peer clocks packet with
  | error failure => exact ⟨failure, rfl⟩
  | ok text =>
      obtain ⟨openKey, receiver, _, _, decrypted⟩ := legacyDecrypt_ok result
      rcases decryptMessage_sealed authentic lawful sealing nonceLength timeFits peer clocks openKey
        receiver with none | ⟨passes, _⟩
      · rw [decrypted] at none
        cases none
      · exact absurd passes late

theorem hintAllows_sealed
    (sealing : Sealed L options draws constKey (encodeUtf8 plaintext) time packet aesKey signature)
    (lawful : L.Lawful) (shared : options.encryptForFriendPub = none) :
    hintAllows L packet constKey = true := by
  have hint : hintPart L options constKey = (L.sha256 constKey).take 2 := by
    rw [hintPart, shared, Option.isSome_none, if_neg Bool.false_ne_true]
  have size : (hintPart L options constKey).length = 2 := by
    rw [hintPart_length lawful, shared, Option.isSome_none, if_neg Bool.false_ne_true]
  have found : extractKeyHint packet = some (hintPart L options constKey) := by
    rw [sealing.packet_eq, List.append_assoc, List.append_assoc]
    exact extractKeyHint_packet time _ shared size
  rw [hintAllows, found, hint]
  exact beq_self_eq_true _

/-- A peer with the key reads the packet in its time. -/
theorem legacyDecrypt_timely (authentic : L.Authentic) (lawful : L.Lawful)
    (sealing : Sealed L options draws constKey (encodeUtf8 plaintext) time packet aesKey signature)
    (nonceLength : draws.nonce.length = 12) (timeFits : time < 2 ^ 62) {peer : KeyStore Priv Pub}
    (keyed : HasKey L peer constKey options.encryptForFriendPub) {clocks : Clocks}
    (late : 60 ≤ clocks.present) (nowFits : clocks.present < 2 ^ 62)
    (timely : checkTime clocks.present time options.seconds = .ok ()) :
    legacyDecrypt L peer clocks packet =
      .ok (banner L (friendsForCrypto peer) (friendsHybridList peer)
        (openedOf L options time (encodeUtf8 plaintext) signature) ++ plaintext) := by
  obtain ⟨now, present⟩ := Int.eq_ofNat_of_zero_le (by omega : 0 ≤ clocks.present)
  have opens {receiver : Option Priv} {openKey : Bytes}
      (matching : options.encryptForFriendPub = receiver.map L.publicKey)
      (sameKey : receiver = none → openKey = constKey) :
      (decryptMessage L packet openKey receiver (friendsForCrypto peer) clocks.checkNow
        (toInt clocks.clock) (friendsHybridList peer)).toOption =
          some (banner L (friendsForCrypto peer) (friendsHybridList peer)
            (openedOf L options time (encodeUtf8 plaintext) signature) ++ plaintext) := by
    have reading := sealing.opens lawful nonceLength timeFits 0 matching sameKey
      (by omega : now < 2 ^ 62) (by omega)
    have same : openPacket L packet openKey receiver clocks.checkNow (toInt clocks.clock) =
        openPacket L packet openKey receiver (some (now : Int)) 0 := by
      unfold openPacket
      rw [← present]
      rfl
    rw [← present, timely, ok_bind] at reading
    rw [decryptMessage, same, ← present, reading, ok_bind]
    show some (_ ++ decodeText (encodeUtf8 plaintext)) = _
    rw [decodeText_encodeUtf8]
  have agree : ∀ key ∈ candidateKeys L peer packet options.encryptForFriendPub.isSome,
      (decryptMessage L packet key.1 key.2 (friendsForCrypto peer) clocks.checkNow
        (toInt clocks.clock) (friendsHybridList peer)).toOption = none ∨
      (decryptMessage L packet key.1 key.2 (friendsForCrypto peer) clocks.checkNow
        (toInt clocks.clock) (friendsHybridList peer)).toOption =
          some (banner L (friendsForCrypto peer) (friendsHybridList peer)
            (openedOf L options time (encodeUtf8 plaintext) signature) ++ plaintext) := by
    intro key _
    rcases decryptMessage_sealed authentic lawful sealing nonceLength timeFits peer clocks key.1
      key.2 with none | ⟨_, found⟩
    · exact .inl none
    · exact .inr found
  have found : firstDecrypted L peer clocks packet
      (candidateKeys L peer packet options.encryptForFriendPub.isSome) =
        some (banner L (friendsForCrypto peer) (friendsHybridList peer)
          (openedOf L options time (encodeUtf8 plaintext) signature) ++ plaintext) := by
    cases friend : options.encryptForFriendPub with
    | none =>
        rw [friend] at keyed agree
        have member : (constKey, none) ∈ candidateKeys L peer packet (none : Option Pub).isSome := by
          rw [candidateKeys, Option.isSome_none, if_neg Bool.false_ne_true]
          exact List.mem_map.mpr ⟨constKey,
            List.mem_filter.mpr ⟨keyed, hintAllows_sealed sealing lawful friend⟩, rfl⟩
        exact findSome?_of_agree agree member (opens friend fun _ => rfl)
    | some pub =>
        rw [friend] at keyed agree
        obtain ⟨priv, loaded, rfl⟩ := keyed
        have listed : priv ∈ peer.myPriv.toList ++ peer.legacyPriv.toList := by
          rw [List.mem_append, Option.mem_toList, Option.mem_toList]
          exact loaded
        have member : (([] : Bytes), some priv) ∈
            candidateKeys L peer packet (some (L.publicKey priv)).isSome := by
          rw [candidateKeys, Option.isSome_some, if_pos rfl]
          exact List.mem_map.mpr ⟨priv, listed, rfl⟩
        exact findSome?_of_agree agree member (opens friend fun missing => by cases missing)
  have usable : (options.encryptForFriendPub.isSome && peer.myPriv.isNone &&
      peer.legacyPriv.isNone) = false := by
    cases friend : options.encryptForFriendPub with
    | none => rfl
    | some pub =>
        rw [friend] at keyed
        obtain ⟨priv, loaded | loaded, _⟩ := keyed
        · rw [loaded]
          rfl
        · rw [loaded]
          cases peer.myPriv <;> rfl
  obtain ⟨rest, whole⟩ := packet_eq_cons sealing
  have friendFlagged : hasFlag (options.flags L) friendFlag = options.encryptForFriendPub.isSome := by
    rw [flags_eq, hasFlag_friend]
  rw [whole] at found ⊢
  rw [legacyDecrypt, flags_toNat, friendFlagged, usable, found]
  rfl

end Sealing

end Legacy

section Service

variable {Priv Pub DhPriv Dh Key StorageKey Box : Type}
variable (L : MessageLibrary Priv Pub) (K : KemLibrary)
variable (P : DoubleRatchet.Primitives DhPriv Dh Key)
variable (cipher : StorageCipher DhPriv Key StorageKey Box)

/-- The name that a ratchet envelope carries. -/
def envelopeName (sender : Device Priv Pub DhPriv Key StorageKey Box) (friendName : String) :
    String :=
  if myName L sender = "" then friendName else myName L sender

/-- The peer is set up to read what the sender sends: it has the key, or the bundle, or a session
in step with the sender's. -/
structure Receives (sender peer : Device Priv Pub DhPriv Key StorageKey Box)
    (draws : Draws DhPriv) (plaintext : String) (friendName : Option String) (mode : Mode) :
    Prop where
  lists : ListsSender L sender.store peer.store
  legacy {constKey : Bytes} {friendPub : Option Pub}
    (resolved : resolveEncryptionKey sender.store friendName mode = .ok (constKey, friendPub)) :
    HasKey L peer.store constKey friendPub
  pqc {name : String} (chosen : dispatch sender friendName mode = .pqc name) :
    ∃ bundle, peer.store.cachedPqcBundle = some bundle ∧
      sender.store.friendsPqcCombinedPub.get? name =
        some (HybridSigner.combine (K.x25519Public bundle.x25519Priv)
          (K.kyberPublic bundle.kyberPriv))
  supports {name : String} (chosen : dispatch sender friendName mode = .ratchet name) :
    friendSupportsRatchet peer (envelopeName L sender name) = true
  inStep {name : String} (chosen : dispatch sender friendName mode = .ratchet name)
    {header ciphertext : Bytes}
    (sent : ((RatchetService.encryptMessage P cipher name draws.ratchetPriv draws.ratchetNonce
      (encodeUtf8 plaintext)).run sender.ratchet).1 = .ok (header, ciphertext)) (fresh : DhPriv) :
    ((RatchetService.decryptMessage P cipher (envelopeName L sender name) fresh header
      ciphertext).run peer.ratchet).1 = .ok (encodeUtf8 plaintext)

/-- What becomes of the options of one message at its receiver. -/
structure OptionsHonoured (sender peer : Device Priv Pub DhPriv Key StorageKey Box)
    (draws : Draws DhPriv) (plaintext : String) (sign : Bool) (selfDestructSeconds : Option Int)
    (packet : Bytes) (time : Nat) : Prop where
  expires {seconds : Int} (given : selfDestructSeconds = some seconds) (positive : 0 < seconds)
    (clocks : Clocks) (fresh : DhPriv) (timesOut : Bool) (after : time + seconds < clocks.present) :
    ∃ failure, ((decrypt L K P cipher clocks fresh timesOut (b64encode packet)).run peer).1 =
      .error failure
  reported (signed : sign = true) (loaded : SigningKeysLoaded L sender.store) (clocks : Clocks)
    (fresh : DhPriv) (late : 60 ≤ clocks.present) (fits : clocks.present < 2 ^ 62)
    (timely : checkTime clocks.present time
      (legacyOptions sender.store none sign selfDestructSeconds).seconds = .ok ()) :
    ∃ text, ((decrypt L K P cipher clocks fresh false (b64encode packet)).run peer).1 = .ok text ∧
      ReportsSender L sender.store peer.store draws.legacy sign selfDestructSeconds time plaintext
        text

/-- There is an option to honour. -/
def OptionsAsked (sender : KeyStore Priv Pub) (sign : Bool) (selfDestructSeconds : Option Int) :
    Prop :=
  (∃ seconds, selfDestructSeconds = some seconds ∧ 0 < seconds) ∨
    sign = true ∧ SigningKeysLoaded L sender

variable {L K P cipher}

theorem decrypt_legacy {packet : Bytes} (unmarked : identifyEnvelopeType packet = none)
    (clocks : Clocks) (fresh : DhPriv) (timesOut : Bool)
    (peer : Device Priv Pub DhPriv Key StorageKey Box) :
    ((decrypt L K P cipher clocks fresh timesOut (b64encode packet)).run peer).1 =
      legacyDecrypt L peer.store clocks packet := by
  rw [decrypt, Call.run_read_bind, b64decode_b64encode]
  simp only [unmarked, Call.run_lift]

theorem onRatchet_run {α : Type} (refuse : ServiceError → Failure)
    (call : Call ServiceError (Service DhPriv Key StorageKey Box) α)
    (device : Device Priv Pub DhPriv Key StorageKey Box) :
    (onRatchet refuse call).run device =
      match call.run device.ratchet with
      | (.ok value, after) => (.ok value, { device with ratchet := after })
      | (.error raised, after) => (.error (refuse raised), { device with ratchet := after }) := rfl

theorem onRatchet_ok {α : Type} {refuse : ServiceError → Failure}
    {call : Call ServiceError (Service DhPriv Key StorageKey Box) α} {value : α}
    {device after : Device Priv Pub DhPriv Key StorageKey Box}
    (success : (onRatchet refuse call).run device = (.ok value, after)) :
    (call.run device.ratchet).1 = .ok value ∧ after.store = device.store ∧
      after.myNameSetting = device.myNameSetting := by
  rw [onRatchet_run] at success
  split at success
  · rename_i result ratchet called
    cases success
    rw [called]
    exact ⟨rfl, rfl, rfl⟩
  · cases success

theorem onRatchet_run_ok {α : Type} (refuse : ServiceError → Failure)
    {call : Call ServiceError (Service DhPriv Key StorageKey Box) α} {value : α}
    {device : Device Priv Pub DhPriv Key StorageKey Box}
    (success : (call.run device.ratchet).1 = .ok value) :
    ∃ after, (onRatchet refuse call).run device = (.ok value, after) := by
  rw [onRatchet_run]
  split
  · rename_i result ratchet called
    rw [called] at success
    cases success
    exact ⟨_, rfl⟩
  · rename_i raised ratchet called
    rw [called] at success
    cases success

/-- A ratchet ciphertext starts with its nonce. -/
theorem ratchet_ciphertext {state after : DoubleRatchet.RatchetState DhPriv Key} {fresh : DhPriv}
    {nonce plaintext header ciphertext : Bytes}
    (sent : (P.encrypt fresh nonce plaintext).run state = (.ok (header, ciphertext), after)) :
    ∃ rest, ciphertext = nonce ++ rest := by
  unfold DoubleRatchet.Primitives.encrypt at sent
  rw [Call.run_read_bind] at sent
  have chained : ∃ middle, (P.encryptOnChain nonce plaintext).run middle =
      (.ok (header, ciphertext), after) := by
    by_cases missing : state.sendChainKey.isNone = true
    · rw [if_pos missing] at sent
      obtain ⟨_, middle, _, made⟩ := Call.ok_of_run_bind sent
      exact ⟨middle, made⟩
    · rw [if_neg missing] at sent
      exact ⟨state, sent⟩
  obtain ⟨middle, made⟩ := chained
  unfold DoubleRatchet.Primitives.encryptOnChain at made
  rw [Call.run_read_bind] at made
  obtain ⟨_, _, _, made⟩ := Call.ok_of_run_bind made
  rw [Call.run_modify_bind] at made
  obtain ⟨_, _, _, made⟩ := Call.ok_of_run_bind made
  split at made
  · cases made
  · rw [Call.run_modify_bind] at made
    cases made
    exact ⟨_, rfl⟩

theorem encryptMessage_ciphertext {service : Service DhPriv Key StorageKey Box} {friendName : String}
    {fresh : DhPriv} {nonce plaintext header ciphertext : Bytes}
    (sent : ((RatchetService.encryptMessage P cipher friendName fresh nonce plaintext).run
      service).1 = .ok (header, ciphertext)) : ∃ rest, ciphertext = nonce ++ rest := by
  cases run : (RatchetService.encryptMessage P cipher friendName fresh nonce plaintext).run
      service with
  | mk result after =>
      rw [run] at sent
      cases sent
      unfold RatchetService.encryptMessage at run
      obtain ⟨state, _, _, run⟩ := Call.ok_of_run_bind run
      cases encrypted : (P.encrypt fresh nonce plaintext).run state with
      | mk outcome later =>
          simp only [encrypted] at run
          cases outcome with
          | error raised => cases raised <;> cases run
          | ok packet =>
              obtain ⟨_, _, _, returned⟩ := Call.ok_of_run_bind run
              cases returned
              exact ratchet_ciphertext encrypted

theorem orEncryptionError_ok {built : Except Raised Bytes} {packet : Bytes}
    (success : orEncryptionError built = .ok packet) : built = .ok packet := by
  unfold orEncryptionError at success
  split at success
  · cases success
    rfl
  · cases success
  · cases success

theorem decodeStrict_encodeUtf8 (text : String) : decodeStrict (encodeUtf8 text) = .ok text := by
  rw [decodeStrict, decodeUtf8_encodeUtf8]

/-- What `RatchetEncryptionStrategy.encrypt` has built. -/
theorem ratchetEncrypt_ok {sender after : Device Priv Pub DhPriv Key StorageKey Box}
    {draws : Draws DhPriv} {clocks : Clocks} {plaintext name : String} {packet : Bytes} {time : Int}
    (sent : (ratchetEncrypt L P cipher clocks draws plaintext name).run sender =
      (.ok (packet, time), after)) :
    ∃ header ciphertext,
      ((RatchetService.encryptMessage P cipher name draws.ratchetPriv draws.ratchetNonce
        (encodeUtf8 plaintext)).run sender.ratchet).1 = .ok (header, ciphertext) ∧
      RatchetEnvelope.build { senderName := envelopeName L sender name, header, ciphertext } =
        .ok packet := by
  unfold ratchetEncrypt at sent
  obtain ⟨⟨header, ciphertext⟩, middle, encrypted, sent⟩ := Call.ok_of_run_bind sent
  obtain ⟨device, last, reading, sent⟩ := Call.ok_of_run_bind sent
  cases reading
  obtain ⟨envelope, last, wrapped, returned⟩ := Call.ok_of_run_bind sent
  obtain ⟨made, _⟩ := Call.ok_of_run_lift wrapped
  cases returned
  obtain ⟨serviceSent, sameStore, sameSetting⟩ := onRatchet_ok encrypted
  have sameName : (if myName L middle = "" then name else myName L middle) =
      envelopeName L sender name := by
    unfold envelopeName myName
    rw [sameStore, sameSetting]
  rw [sameName] at made
  exact ⟨header, ciphertext, serviceSent, orEncryptionError_ok made⟩

/-- What a ratchet session in step makes of a message: the text, at any time. -/
theorem decrypt_ratchet {sender peer after : Device Priv Pub DhPriv Key StorageKey Box}
    {draws : Draws DhPriv} {clocks : Clocks} {plaintext : String} {friendName : Option String}
    {mode : Mode} {name : String} {packet : Bytes} {time : Int}
    (receives : Receives L K P cipher sender peer draws plaintext friendName mode)
    (chosen : dispatch sender friendName mode = .ratchet name) (named : name ≠ "")
    (nonceLength : draws.ratchetNonce.length = 24)
    (sent : (ratchetEncrypt L P cipher clocks draws plaintext name).run sender =
      (.ok (packet, time), after)) (later : Clocks) (fresh : DhPriv) (timesOut : Bool) :
    ((decrypt L K P cipher later fresh timesOut (b64encode packet)).run peer).1 =
      .ok plaintext := by
  obtain ⟨header, ciphertext, serviceSent, built⟩ := ratchetEncrypt_ok sent
  have envelopeNamed : envelopeName L sender name ≠ "" := by
    unfold envelopeName
    split
    · exact named
    · assumption
  obtain ⟨rest, filled⟩ := encryptMessage_ciphertext serviceSent
  have present : ciphertext ≠ [] := by
    rintro rfl
    have size := congrArg List.length filled
    rw [List.length_append, nonceLength, List.length_nil] at size
    omega
  obtain ⟨final, decrypted⟩ := onRatchet_run_ok
    (refuseRatchetDecryption (envelopeName L sender name)) (receives.inStep chosen serviceSent fresh)
  rw [decrypt, Call.run_read_bind, b64decode_b64encode]
  simp only [identifyEnvelopeType_ratchet built]
  rw [ratchetDecrypt, RatchetEnvelope.parse_build built envelopeNamed present]
  simp only [Call.run_read_bind, receives.supports chosen, if_true]
  rw [Call.run_bind_of_ok decrypted, decodeStrict_encodeUtf8]
  rfl

/-- What `PqcEncryptionStrategy.encrypt` has built. -/
theorem pqcEncrypt_ok {store : KeyStore Priv Pub} {draws : Draws DhPriv} {clocks : Clocks}
    {plaintext name : String} {packet : Bytes} {time : Int} {slow : Bool}
    (sent : pqcEncrypt L K store clocks draws slow plaintext name = .ok (packet, time)) :
    ∃ combinedPub kemCiphertext sharedSecret, K.pqcAvailable = true ∧
      store.friendsPqcCombinedPub.get? name = some combinedPub ∧
      HybridKem.encapsulate K draws.kemPriv draws.kemDraw combinedPub =
        .ok (kemCiphertext, sharedSecret) ∧
      PqcEnvelope.build {
        kemCiphertext
        nonce := draws.pqcNonce
        aesCiphertext := L.aesEncrypt sharedSecret draws.pqcNonce (encodeUtf8 plaintext) [] } =
          .ok packet := by
  unfold pqcEncrypt at sent
  split at sent
  · cases sent
  rename_i available
  split at sent
  · cases sent
  rename_i combinedPub given
  obtain ⟨stored, _⟩ := Option.filter_eq_some_iff.mp given
  split at sent
  · cases sent
  split at sent
  · cases sent
  rename_i kemCiphertext sharedSecret encapsulated
  obtain ⟨envelope, wrapped, sent⟩ := ok_of_bind sent
  cases sent
  have there : K.pqcAvailable = true := by
    cases found : K.pqcAvailable with
    | true => rfl
    | false =>
        rw [found] at available
        exact absurd rfl available
  exact ⟨combinedPub, kemCiphertext, sharedSecret, there, stored, encapsulated,
    orEncryptionError_ok wrapped⟩

/-- What the owner of the bundle makes of a message: the text, at any time. -/
theorem pqcDecrypt_encrypted (lawful : L.Lawful) (kemLawful : K.Lawful)
    {store peer : KeyStore Priv Pub} {draws : Draws DhPriv} {clocks : Clocks}
    {plaintext name : String} {packet : Bytes} {time : Int} {slow : Bool}
    {bundle : KeyStore.PqcBundle} (loaded : peer.cachedPqcBundle = some bundle)
    (stored : store.friendsPqcCombinedPub.get? name =
      some (HybridSigner.combine (K.x25519Public bundle.x25519Priv)
        (K.kyberPublic bundle.kyberPriv)))
    (sent : pqcEncrypt L K store clocks draws slow plaintext name = .ok (packet, time)) :
    pqcDecrypt L K peer false packet = .ok plaintext := by
  obtain ⟨combinedPub, kemCiphertext, sharedSecret, available, found, encapsulated, built⟩ :=
    pqcEncrypt_ok sent
  rw [stored] at found
  cases found
  have tag := lawful.aes_tag sharedSecret draws.pqcNonce (encodeUtf8 plaintext) []
  rw [pqcDecrypt, available, loaded]
  simp only [PqcEnvelope.parse_build built tag,
    HybridKem.decapsulate_encapsulate kemLawful encapsulated, lawful.aes_opens,
    decodeStrict_encodeUtf8, Bool.false_eq_true, Bool.not_true, if_false]

theorem decrypt_pqc (lawful : L.Lawful) (kemLawful : K.Lawful)
    {sender peer : Device Priv Pub DhPriv Key StorageKey Box}
    {draws : Draws DhPriv} {clocks : Clocks} {plaintext : String} {friendName : Option String}
    {mode : Mode} {name : String} {packet : Bytes} {time : Int} {slow : Bool}
    (receives : Receives L K P cipher sender peer draws plaintext friendName mode)
    (chosen : dispatch sender friendName mode = .pqc name)
    (sent : pqcEncrypt L K sender.store clocks draws slow plaintext name = .ok (packet, time))
    (later : Clocks) (fresh : DhPriv) :
    ((decrypt L K P cipher later fresh false (b64encode packet)).run peer).1 = .ok plaintext := by
  obtain ⟨bundle, loaded, stored⟩ := receives.pqc chosen
  obtain ⟨_, _, _, _, _, _, built⟩ := pqcEncrypt_ok sent
  rw [decrypt, Call.run_read_bind, b64decode_b64encode]
  simp only [identifyEnvelopeType_pqc built, Call.run_lift]
  exact pqcDecrypt_encrypted lawful kemLawful loaded stored sent

theorem named_of_dispatch {device : Device Priv Pub DhPriv Key StorageKey Box}
    {friendName : Option String} {mode : Mode} {name : String}
    (chosen : dispatch device friendName mode = .ratchet name) : name ≠ "" := by
  unfold dispatch at chosen
  split at chosen
  · cases chosen
  · rename_i given
    split at chosen
    · cases chosen
      exact of_decide_eq_true (Option.filter_eq_some_iff.mp given).2
    · cases chosen
  · cases chosen

/-- Whatever is not a legacy message is read at any time, and as the bare text. -/
theorem decrypt_bare (lawful : L.Lawful) (kemLawful : K.Lawful)
    {sender peer after : Device Priv Pub DhPriv Key StorageKey Box} {draws : Draws DhPriv}
    {clocks : Clocks} {slow : Bool} {plaintext : String} {friendName : Option String} {mode : Mode}
    {sign : Bool} {selfDestructSeconds : Option Int} {packet : Bytes} {time : Int}
    (receives : Receives L K P cipher sender peer draws plaintext friendName mode)
    (nonceLength : draws.ratchetNonce.length = 24)
    (sent : (encrypt L K P cipher clocks draws slow plaintext friendName mode sign
      selfDestructSeconds).run sender = (.ok (packet, time), after))
    (elsewhere : dispatch sender friendName mode ≠ .legacy) (later : Clocks) (fresh : DhPriv) :
    ((decrypt L K P cipher later fresh false (b64encode packet)).run peer).1 = .ok plaintext := by
  rw [encrypt, Call.run_read_bind] at sent
  cases chosen : dispatch sender friendName mode with
  | pqc name =>
      simp only [chosen] at sent
      obtain ⟨made, _⟩ := Call.ok_of_run_lift sent
      exact decrypt_pqc lawful kemLawful receives chosen made later fresh
  | ratchet name =>
      simp only [chosen] at sent
      exact decrypt_ratchet receives chosen (named_of_dispatch chosen) nonceLength sent later fresh
        false
  | legacy => exact absurd chosen elsewhere

/-- A clock that nothing corrects. -/
theorem present_of_clock (time : Int) : (Clocks.mk none time).present = time := by
  show toInt (time : Rat) = time
  rw [toInt_intCast]

theorem append_newline_ne_empty (line : String) : line ++ "\n" ≠ "" := by
  intro empty
  have size := congrArg (fun text : String => text.toList.length) empty
  have lineBreak : "\n".toList.length = 1 := rfl
  simp only [String.toList_append, List.length_append, lineBreak, String.toList_empty,
    List.length_nil] at size
  omega

theorem hybridVerified_ne_empty (signer : String) : hybridVerified signer ≠ "" := by
  unfold hybridVerified
  exact append_newline_ne_empty _

theorem rsaVerified_ne_empty (signer print : String) : rsaVerified signer print ≠ "" := by
  unfold rsaVerified
  exact append_newline_ne_empty _

/-- The line of a verified signature is not empty. -/
theorem line_ne_empty {store : KeyStore Priv Pub} {friends : List (String × Pub)}
    {friendsHybrid : List (String × Bytes × Bytes)} {selfDestructSeconds : Option Int}
    {signed signature : Bytes} {line : String}
    (shown : BannerFor L (legacyOptions store none true selfDestructSeconds) friends friendsHybrid
      signed signature line) : line ≠ "" := by
  rintro rfl
  unfold BannerFor at shown
  split at shown
  · obtain ⟨entry, _, _, empty⟩ := shown
    exact hybridVerified_ne_empty entry.1 empty.symm
  · have signing : (legacyOptions store none true selfDestructSeconds).sign = true := rfl
    rw [if_pos signing] at shown
    obtain ⟨entry, _, _, empty⟩ := shown
    exact rsaVerified_ne_empty entry.1 _ empty.symm

/-- A legacy message keeps its options. -/
theorem optionsHonoured_legacy (lawful : L.Lawful) (authentic : L.Authentic)
    {sender peer : Device Priv Pub DhPriv Key StorageKey Box} {draws : Draws DhPriv}
    {clocks : Clocks} {plaintext : String} {friendName : Option String} {mode : Mode}
    {sign : Bool} {selfDestructSeconds : Option Int} {packet : Bytes} {time : Nat}
    (receives : Receives L K P cipher sender peer draws plaintext friendName mode)
    (aesDrawn : draws.legacy.aesKey.length = 32) (nonceDrawn : draws.legacy.nonce.length = 12)
    (timeFits : time < 2 ^ 62)
    (sent : legacyEncrypt L sender.store clocks draws.legacy plaintext friendName mode sign
      selfDestructSeconds = .ok (packet, (time : Int))) :
    OptionsHonoured L K P cipher sender peer draws plaintext sign selfDestructSeconds packet time := by
  obtain ⟨constKey, friendPub, resolved, made⟩ := legacyEncrypt_ok sent
  have stamped : toInt clocks.stamp = time := (encryptMessage_time made).symm
  rw [encryptMessage_toInt, stamped] at made
  obtain ⟨_, aesKey, signature, sealing⟩ :=
    sealed_of_encryptMessage lawful aesDrawn timeFits made
  have unmarked : identifyEnvelopeType packet = none := by
    obtain ⟨rest, whole⟩ := packet_eq_cons sealing
    rw [whole, flags_eq]
    exact identifyEnvelopeType_flags rest
  constructor
  · intro seconds given positive later fresh timesOut after
    rw [decrypt_legacy unmarked]
    apply legacyDecrypt_late authentic lawful sealing nonceDrawn timeFits
    have kept : (legacyOptions sender.store friendPub sign selfDestructSeconds).seconds =
        some seconds.toNat := by
      show (selfDestructSeconds.filter fun seconds => 0 < seconds).map Int.toNat = _
      rw [given, Option.filter_some, if_pos (decide_eq_true positive)]
      rfl
    rw [kept, checkTime, if_pos (by omega)]
    intro impossible
    cases impossible
  · rintro rfl loaded later fresh late fits timely
    rw [decrypt_legacy unmarked]
    refine ⟨_, legacyDecrypt_timely authentic lawful sealing nonceDrawn timeFits
      (receives.legacy resolved) late fits timely, ?_⟩
    have rsaListed : (legacyOptions sender.store none true selfDestructSeconds).hybridKeys L = none →
        (legacyOptions sender.store none true selfDestructSeconds).sign = true →
        ∃ priv, (legacyOptions sender.store none true selfDestructSeconds).myPriv = some priv ∧
          ∃ name, (name, L.publicKey priv) ∈ friendsForCrypto peer.store := by
      intro unused _
      rcases loaded with used | present
      · have none : (legacyOptions sender.store none true none).hybridKeys L = none := unused
        rw [none] at used
        cases used
      · obtain ⟨priv, found⟩ := Option.isSome_iff_exists.mp present
        exact ⟨priv, found, receives.lists.rsa found⟩
    have signed : signInner L (legacyOptions sender.store none true selfDestructSeconds) draws.legacy
        (innerOf time (legacyOptions sender.store none true selfDestructSeconds).seconds
          (encodeUtf8 plaintext)) = .ok signature := sealing.signed
    have shown := bannerFor_banner lawful receives.lists.hybrid rsaListed signed
    exact ⟨_, signature, line_ne_empty shown, rfl, sealing.signed, shown⟩

/-- The options of a message are honoured by a peer that can read it exactly if there are none, or
the message is a legacy one. -/
theorem optionsHonoured_iff (lawful : L.Lawful) (authentic : L.Authentic) (kemLawful : K.Lawful)
    {sender peer after : Device Priv Pub DhPriv Key StorageKey Box}
    {draws : Draws DhPriv}
    {clocks : Clocks} {slow : Bool} {plaintext : String} {friendName : Option String} {mode : Mode}
    {sign : Bool} {selfDestructSeconds : Option Int} {packet : Bytes} {time : Nat}
    (receives : Receives L K P cipher sender peer draws plaintext friendName mode)
    (aesDrawn : draws.legacy.aesKey.length = 32) (nonceDrawn : draws.legacy.nonce.length = 12)
    (ratchetNonceDrawn : draws.ratchetNonce.length = 24) (late : 60 ≤ time) (timeFits : time < 2 ^ 62)
    (sent : (encrypt L K P cipher clocks draws slow plaintext friendName mode sign
      selfDestructSeconds).run sender = (.ok (packet, (time : Int)), after)) :
    OptionsHonoured L K P cipher sender peer draws plaintext sign selfDestructSeconds packet time ↔
      (OptionsAsked L sender.store sign selfDestructSeconds →
        dispatch sender friendName mode = .legacy) := by
  constructor
  · intro honoured asked
    by_contra elsewhere
    have bare := decrypt_bare lawful kemLawful receives ratchetNonceDrawn sent elsewhere
    rcases asked with ⟨seconds, given, positive⟩ | ⟨signed, loaded⟩
    · have past : (time : Int) + seconds <
          (Clocks.mk none ((time + seconds + 1 : Int) : Rat)).present := by
        rw [present_of_clock]
        omega
      obtain ⟨failure, refused⟩ := honoured.expires given positive _ draws.ratchetPriv false past
      rw [bare] at refused
      cases refused
    · have present := present_of_clock (time : Int)
      have fresh : Fresh time time
          ((legacyOptions sender.store none sign selfDestructSeconds).seconds.map Nat.cast) := by
        cases (legacyOptions sender.store none sign selfDestructSeconds).seconds with
        | none =>
            show (((time : Int) - time).natAbs : Int) ≤ timeStep * windowSize
            rw [Int.sub_self]
            decide
        | some seconds =>
            show (time : Int) ≤ time + (seconds : Int)
            omega
      have timely := checkTime_of_fresh fresh
      rw [← present] at timely
      have afterMinute : 60 ≤ (Clocks.mk none ((time : Int) : Rat)).present := by
        rw [present]
        omega
      have fits : (Clocks.mk none ((time : Int) : Rat)).present < 2 ^ 62 := by
        rw [present]
        omega
      obtain ⟨text, read, line, _, nonempty, behind, _⟩ :=
        honoured.reported signed loaded _ draws.ratchetPriv afterMinute fits timely
      rw [bare] at read
      cases read
      have size := congrArg (fun text : String => text.toList.length) behind
      simp only [String.toList_append, List.length_append] at size
      have empty : line.toList = [] := List.length_eq_zero_iff.mp (by omega)
      exact nonempty (String.toList_eq_nil_iff.mp empty)
  · intro condition
    by_cases asked : OptionsAsked L sender.store sign selfDestructSeconds
    · have chosen := condition asked
      rw [encrypt, Call.run_read_bind] at sent
      simp only [chosen] at sent
      obtain ⟨made, _⟩ := Call.ok_of_run_lift sent
      exact optionsHonoured_legacy lawful authentic receives aesDrawn nonceDrawn timeFits made
    · constructor
      · intro seconds given positive
        exact absurd (.inl ⟨seconds, given, positive⟩) asked
      · intro signed loaded
        exact absurd (.inr ⟨signed, loaded⟩) asked

end Service

section Example

theorem toyMessages_authentic : toyMessages.Authentic := by
  intro key other nonce plaintext aad otherAad opened decrypted
  have starts : toySeal other otherAad <+: toySeal key aad ++ plaintext := by
    by_contra apart
    have refused : toyMessages.aesDecrypt other nonce (toyMessages.aesEncrypt key nonce plaintext aad)
        otherAad = none := if_neg apart
    rw [refused] at decrypted
    cases decrypted
  obtain ⟨rest, same⟩ := starts
  simp only [toySeal, List.append_assoc, List.append_cancel_left_eq] at same
  have sameKey := KeyStore.eq_of_toyMark_append same
  rw [sameKey, List.append_cancel_left_eq] at same
  have sameAad := KeyStore.eq_of_toyMark_append same
  rw [sameKey, sameAad, toyMessages_lawful.aes_opens] at decrypted
  exact (Option.some.inj decrypted).symm

/-- Someone who lists their own keys as a friend's. -/
def toyDevice : Device Bytes Bytes UInt8 Bytes Nat
    (Nat × Bytes × DoubleRatchet.SerializedState UInt8 Bytes) where
  store :=
    { toyStore with
      friendsPqcCombinedPub := Dict.empty.set "bob"
        (HybridSigner.combine (toyKem.x25519Public [8]) (toyKem.kyberPublic [9]))
      cachedPqcBundle := some ⟨[8], [9], []⟩ }
  myNameSetting := some "bob"
  ratchet := { storageKey := some 5, rows := .empty, dirty := .empty }

def toyMessageDraws : Draws UInt8 where
  legacy := toyDraws
  ratchetPriv := 1
  ratchetNonce := DoubleRatchet.toyNonce
  kemPriv := [3]
  kemDraw := [6]
  pqcNonce := List.replicate 12 2

theorem toyDevice_lists : ListsSender toyMessages toyDevice.store toyDevice.store where
  hybrid used := nomatch used
  rsa loaded := by
    cases loaded
    exact ⟨"bob", List.mem_singleton.mpr rfl⟩

theorem toyDevice_receives (plaintext : String) {mode : Mode} (other : mode ≠ .shared) :
    Receives toyMessages toyKem DoubleRatchet.toyPrimitives RatchetService.toyCipher toyDevice
      toyDevice toyMessageDraws plaintext (some "bob") mode where
  lists := toyDevice_lists
  legacy {constKey friendPub} resolved := by
    cases mode with
    | shared => exact absurd rfl other
    | rsa =>
        have found : resolveEncryptionKey toyDevice.store (some "bob") .rsa =
            .ok (List.replicate aesKeySize 0, some [4]) := by decide
        rw [found] at resolved
        cases resolved
        exact ⟨[4], .inl rfl, rfl⟩
    | pqc =>
        have found : resolveEncryptionKey toyDevice.store (some "bob") .pqc =
            .ok (List.replicate aesKeySize 0, some [4]) := by decide
        rw [found] at resolved
        cases resolved
        exact ⟨[4], .inl rfl, rfl⟩
  pqc {name} chosen := by
    cases mode with
    | shared => exact absurd rfl other
    | rsa => cases chosen
    | pqc =>
        cases chosen
        exact ⟨_, rfl, rfl⟩
  supports {name} chosen := by
    cases mode with
    | shared => exact absurd rfl other
    | rsa => cases chosen
    | pqc => cases chosen
  inStep {name} chosen := by
    cases mode with
    | shared => exact absurd rfl other
    | rsa => cases chosen
    | pqc => cases chosen

/-- What `toyDevice` sends to itself, stamped 100. -/
theorem toyDevice_sends (mode : Mode) (other : mode ≠ .shared) :
    ∃ packet after, (encrypt toyMessages toyKem DoubleRatchet.toyPrimitives RatchetService.toyCipher
      ⟨none, 100⟩ toyMessageDraws false "hi" (some "bob") mode true (some 10)).run toyDevice =
        (.ok (packet, (100 : Nat)), after) := by
  have time : ((encrypt toyMessages toyKem DoubleRatchet.toyPrimitives RatchetService.toyCipher
      ⟨none, 100⟩ toyMessageDraws false "hi" (some "bob") mode true (some 10)).run
        toyDevice).1.toOption.map Prod.snd = some ((100 : Nat) : Int) := by
    cases mode with
    | shared => exact absurd rfl other
    | rsa => decide +kernel
    | pqc => decide +kernel
  revert time
  generalize (encrypt toyMessages toyKem DoubleRatchet.toyPrimitives RatchetService.toyCipher
    ⟨none, 100⟩ toyMessageDraws false "hi" (some "bob") mode true (some 10)).run toyDevice = outcome
  intro time
  obtain ⟨sent | ⟨packet, stamp⟩, after⟩ := outcome
  · cases time
  · cases time
    exact ⟨packet, after, rfl⟩

/-- Under the RSA key the options of the message are honoured. -/
theorem toyDevice_honours :
    ∃ packet after, (encrypt toyMessages toyKem DoubleRatchet.toyPrimitives RatchetService.toyCipher
      ⟨none, 100⟩ toyMessageDraws false "hi" (some "bob") .rsa true (some 10)).run toyDevice =
        (.ok (packet, (100 : Nat)), after) ∧
      OptionsHonoured toyMessages toyKem DoubleRatchet.toyPrimitives RatchetService.toyCipher
        toyDevice toyDevice toyMessageDraws "hi" true (some 10) packet 100 := by
  obtain ⟨packet, after, sent⟩ := toyDevice_sends .rsa (by decide)
  have honoured := optionsHonoured_iff toyMessages_lawful toyMessages_authentic toyKem_lawful
    (toyDevice_receives "hi" (by decide)) rfl rfl rfl (by omega : 60 ≤ 100)
    (by omega : 100 < 2 ^ 62) sent
  exact ⟨packet, after, sent, honoured.mpr fun _ => rfl⟩

/-- A post-quantum message with ten seconds to live and a signature asked for is read a thousand
seconds later, as the bare text. -/
theorem toyDevice_drops_options :
    ∃ packet after, (encrypt toyMessages toyKem DoubleRatchet.toyPrimitives RatchetService.toyCipher
      ⟨none, 100⟩ toyMessageDraws false "hi" (some "bob") .pqc true (some 10)).run toyDevice =
        (.ok (packet, (100 : Nat)), after) ∧
      Receives toyMessages toyKem DoubleRatchet.toyPrimitives RatchetService.toyCipher toyDevice
        toyDevice toyMessageDraws "hi" (some "bob") .pqc ∧
      SigningKeysLoaded toyMessages toyDevice.store ∧
      ((decrypt toyMessages toyKem DoubleRatchet.toyPrimitives RatchetService.toyCipher ⟨none, 1100⟩
        1 false (b64encode packet)).run toyDevice).1 = .ok "hi" ∧
      ¬ OptionsHonoured toyMessages toyKem DoubleRatchet.toyPrimitives RatchetService.toyCipher
        toyDevice toyDevice toyMessageDraws "hi" true (some 10) packet 100 := by
  obtain ⟨packet, after, sent⟩ := toyDevice_sends .pqc (by decide)
  have receives := toyDevice_receives "hi" (by decide : Mode.pqc ≠ .shared)
  have bare := decrypt_bare toyMessages_lawful toyKem_lawful receives rfl sent nofun ⟨none, 1100⟩ 1
  refine ⟨packet, after, sent, receives, .inr rfl, bare, ?_⟩
  intro honoured
  have past : ((100 : Nat) : Int) + 10 < (Clocks.mk none 1100).present := by
    have present := present_of_clock 1100
    push_cast at present
    rw [present]
    decide
  obtain ⟨failure, refused⟩ := honoured.expires rfl (by decide) ⟨none, 1100⟩ 1 false past
  rw [bare] at refused
  cases refused

end Example

end UltimateEnigma.Encryption
