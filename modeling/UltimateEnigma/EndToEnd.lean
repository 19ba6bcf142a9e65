import UltimateEnigma.MessageOptions

set_option autoImplicit false

namespace UltimateEnigma.Encryption

open Py Crypto Envelope
open RatchetService (StorageCipher)

/-- The three strategies of `EncryptionService`. -/
inductive Strategy where
  | legacy
  | ratchet
  | pqc
deriving DecidableEq, Repr

/-- The strategy that `EncryptionService.decrypt` chooses. -/
def strategyFor (packet : Bytes) : Strategy :=
  match identifyEnvelopeType packet with
  | some .pqc => .pqc
  | some .ratchet => .ratchet
  | none => .legacy

section Dispatch

variable {Priv Pub DhPriv Dh Key StorageKey Box : Type}
variable (L : MessageLibrary Priv Pub) (K : KemLibrary)
variable (P : DoubleRatchet.Primitives DhPriv Dh Key)
variable (cipher : StorageCipher DhPriv Key StorageKey Box)

/-- The packets of each strategy. -/
inductive ProducedBy : Strategy → Bytes → Prop where
  | legacy {store : KeyStore Priv Pub} {clocks : Clocks} {draws : EncryptDraws} {plaintext : String}
      {friendName : Option String} {mode : Mode} {sign : Bool} {selfDestructSeconds : Option Int}
      {packet : Bytes} {time : Int}
      (sent : legacyEncrypt L store clocks draws plaintext friendName mode sign
        selfDestructSeconds = .ok (packet, time)) : ProducedBy .legacy packet
  | ratchet {sender after : Device Priv Pub DhPriv Key StorageKey Box} {clocks : Clocks}
      {draws : Draws DhPriv} {plaintext friendName : String} {packet : Bytes} {time : Int}
      (sent : (ratchetEncrypt L P cipher clocks draws plaintext friendName).run sender =
        (.ok (packet, time), after)) : ProducedBy .ratchet packet
  | pqc {store : KeyStore Priv Pub} {clocks : Clocks} {draws : Draws DhPriv} {timesOut : Bool}
      {plaintext friendName : String} {packet : Bytes} {time : Int}
      (sent : pqcEncrypt L K store clocks draws timesOut plaintext friendName =
        .ok (packet, time)) : ProducedBy .pqc packet

/-- The `decrypt` of a strategy. -/
def handTo (clocks : Clocks) (fresh : DhPriv) (timesOut : Bool) (packet : Bytes) :
    Strategy → DeviceCall Priv Pub DhPriv Key StorageKey Box String
  | .legacy => fun device => (legacyDecrypt L device.store clocks packet, device)
  | .ratchet => ratchetDecrypt P cipher fresh packet
  | .pqc => fun device => (pqcDecrypt L K device.store timesOut packet, device)

variable {L K P cipher}

/-- `EncryptionService.decrypt` hands the packet to the strategy of its first byte. -/
theorem decrypt_eq_handTo (clocks : Clocks) (fresh : DhPriv) (timesOut : Bool) (packet : Bytes)
    (peer : Device Priv Pub DhPriv Key StorageKey Box) :
    (decrypt L K P cipher clocks fresh timesOut (b64encode packet)).run peer =
      (handTo L K P cipher clocks fresh timesOut packet (strategyFor packet)).run peer := by
  rw [decrypt, Call.run_read_bind, b64decode_b64encode, strategyFor]
  dsimp only
  cases identifyEnvelopeType packet with
  | none => exact Call.run_lift _ peer
  | some kind =>
      cases kind with
      | ratchet => rfl
      | pqc => exact Call.run_lift _ peer

/-- The first byte of a packet tells its strategy. -/
theorem strategyFor_produced {strategy : Strategy} {packet : Bytes}
    (produced : ProducedBy L K P cipher strategy packet) : strategyFor packet = strategy := by
  cases produced with
  | legacy sent =>
      obtain ⟨constKey, friendPub, _, made⟩ := legacyEncrypt_ok sent
      obtain ⟨rest, front⟩ := encryptMessage_front made
      cases front
      rw [strategyFor, flags_eq, identifyEnvelopeType_flags]
  | ratchet sent =>
      obtain ⟨header, ciphertext, _, built⟩ := ratchetEncrypt_ok sent
      rw [strategyFor, identifyEnvelopeType_ratchet built]
  | pqc sent =>
      obtain ⟨_, _, _, _, _, _, built⟩ := pqcEncrypt_ok sent
      rw [strategyFor, identifyEnvelopeType_pqc built]

/-- Without a signature there is no line in front of the text. -/
theorem banner_unsigned {store : KeyStore Priv Pub} {friendPub : Option Pub}
    {selfDestructSeconds : Option Int} (friends : List (String × Pub))
    (friendsHybrid : List (String × Bytes × Bytes)) (time : Nat) (plaintext signature : Bytes) :
    banner L friends friendsHybrid (openedOf L
      (legacyOptions store friendPub false selfDestructSeconds) time plaintext signature) = "" := by
  have hybrid : ((legacyOptions store friendPub false selfDestructSeconds).hybridKeys L).isSome =
      false := rfl
  rw [banner, openedOf, hybrid]
  rfl

/-- An unsigned message under a listed secret is read in its time, as the bare text. -/
theorem legacyDecrypt_unsigned (lawful : L.Lawful) (authentic : L.Authentic)
    {store peer : KeyStore Priv Pub} {clocks later : Clocks} {draws : EncryptDraws}
    {plaintext : String} {friendName : Option String} {selfDestructSeconds : Option Int}
    {constKey packet : Bytes} {time : Nat}
    (resolved : resolveEncryptionKey store friendName .shared = .ok (constKey, none))
    (sent : legacyEncrypt L store clocks draws plaintext friendName .shared false
      selfDestructSeconds = .ok (packet, (time : Int)))
    (aesDrawn : draws.aesKey.length = 32) (nonceDrawn : draws.nonce.length = 12)
    (timeFits : time < 2 ^ 62) (listed : constKey ∈ secretsToTry peer)
    (late : 60 ≤ later.present) (nowFits : later.present < 2 ^ 62)
    (timely : checkTime later.present time
      (legacyOptions store none false selfDestructSeconds).seconds = .ok ()) :
    legacyDecrypt L peer later packet = .ok plaintext := by
  obtain ⟨key, friendPub, found, made⟩ := legacyEncrypt_ok sent
  rw [resolved] at found
  cases found
  have stamped : toInt clocks.stamp = time := (encryptMessage_time made).symm
  rw [encryptMessage_toInt, stamped] at made
  obtain ⟨_, aesKey, signature, sealing⟩ := sealed_of_encryptMessage lawful aesDrawn timeFits made
  rw [legacyDecrypt_timely authentic lawful sealing nonceDrawn timeFits listed late nowFits timely,
    banner_unsigned, String.empty_append]

variable (P cipher) in
/-- Every packet goes back to the strategy that produced it, the owner of a bundle reads what was
encrypted to its combined public key, and the owner of a secret the unsigned messages under it. -/
theorem decrypt_produced (lawful : L.Lawful) (authentic : L.Authentic) (kemLawful : K.Lawful) :
    (∀ {strategy packet}, ProducedBy L K P cipher strategy packet →
      strategyFor packet = strategy ∧
      ∀ clocks fresh timesOut (peer : Device Priv Pub DhPriv Key StorageKey Box),
        (decrypt L K P cipher clocks fresh timesOut (b64encode packet)).run peer =
          (handTo L K P cipher clocks fresh timesOut packet strategy).run peer) ∧
    (∀ {store : KeyStore Priv Pub} {clocks draws slow plaintext friendName packet time},
      pqcEncrypt L K store clocks (draws : Draws DhPriv) slow plaintext friendName =
        .ok (packet, time) →
      ∀ (peer : Device Priv Pub DhPriv Key StorageKey Box) {bundle},
        peer.store.cachedPqcBundle = some bundle →
        store.friendsPqcCombinedPub.get? friendName =
          some (HybridSigner.combine (K.x25519Public bundle.x25519Priv)
            (K.kyberPublic bundle.kyberPriv)) →
        ∀ later fresh, (decrypt L K P cipher later fresh false (b64encode packet)).run peer =
          (.ok plaintext, peer)) ∧
    (∀ {store : KeyStore Priv Pub} {clocks : Clocks} {draws plaintext friendName
        selfDestructSeconds constKey packet} {time : Nat},
      resolveEncryptionKey store friendName .shared = .ok (constKey, none) →
      legacyEncrypt L store clocks draws plaintext friendName .shared false selfDestructSeconds =
        .ok (packet, (time : Int)) →
      draws.aesKey.length = 32 → draws.nonce.length = 12 → time < 2 ^ 62 →
      ∀ (peer : Device Priv Pub DhPriv Key StorageKey Box), constKey ∈ secretsToTry peer.store →
        ∀ later : Clocks, 60 ≤ later.present → later.present < 2 ^ 62 →
          checkTime later.present time
            (legacyOptions store none false selfDestructSeconds).seconds = .ok () →
          ∀ fresh timesOut,
            (decrypt L K P cipher later fresh timesOut (b64encode packet)).run peer =
              (.ok plaintext, peer)) := by
  have handed {strategy packet} (produced : ProducedBy L K P cipher strategy packet) clocks fresh
      timesOut (peer : Device Priv Pub DhPriv Key StorageKey Box) :
      (decrypt L K P cipher clocks fresh timesOut (b64encode packet)).run peer =
        (handTo L K P cipher clocks fresh timesOut packet strategy).run peer := by
    rw [decrypt_eq_handTo, strategyFor_produced produced]
  refine ⟨fun produced => ⟨strategyFor_produced produced, handed produced⟩, ?_, ?_⟩
  · intro store clocks draws slow plaintext friendName packet time sent peer bundle loaded stored
      later fresh
    rw [handed (.pqc sent)]
    exact Prod.ext (pqcDecrypt_encrypted lawful kemLawful loaded stored sent) rfl
  · intro store clocks draws plaintext friendName selfDestructSeconds constKey packet time resolved
      sent aesDrawn nonceDrawn timeFits peer listed later late nowFits timely fresh timesOut
    rw [handed (.legacy sent)]
    exact Prod.ext (legacyDecrypt_unsigned lawful authentic resolved sent aesDrawn nonceDrawn
      timeFits listed late nowFits timely) rfl

end Dispatch

section Example

/-- `toyDevice` with a global secret. -/
def toyOwner : Device Bytes Bytes UInt8 Bytes Nat
    (Nat × Bytes × DoubleRatchet.SerializedState UInt8 Bytes) :=
  { toyDevice with store := { toyDevice.store with globalSecret := some (List.replicate 32 7) } }

theorem sent_of_stamp {sending : Except Failure (Bytes × Int)} {time : Int}
    (stamped : sending.toOption.map Prod.snd = some time) :
    ∃ packet, sending = .ok (packet, time) := by
  cases sending with
  | error failure => cases stamped
  | ok sent =>
      obtain ⟨packet, stamp⟩ := sent
      cases stamped
      exact ⟨packet, rfl⟩

/-- `toyOwner` reads what it encrypts to itself, to its bundle or under its secret. -/
theorem toyOwner_reads :
    ∃ sealed unsigned,
      pqcEncrypt toyMessages toyKem toyOwner.store ⟨none, 100⟩ toyMessageDraws false "hi" "bob" =
        .ok (sealed, 100) ∧ strategyFor sealed = .pqc ∧
      legacyEncrypt toyMessages toyOwner.store ⟨none, 100⟩ toyDraws "hi" none .shared false none =
        .ok (unsigned, (100 : Nat)) ∧ strategyFor unsigned = .legacy ∧
      ∀ packet ∈ [sealed, unsigned],
        (decrypt toyMessages toyKem DoubleRatchet.toyPrimitives RatchetService.toyCipher ⟨none, 110⟩
          1 false (b64encode packet)).run toyOwner = (.ok "hi", toyOwner) := by
  obtain ⟨sealed, sealing⟩ : ∃ packet, pqcEncrypt toyMessages toyKem toyOwner.store ⟨none, 100⟩
      toyMessageDraws false "hi" "bob" = .ok (packet, 100) := sent_of_stamp (by decide +kernel)
  obtain ⟨unsigned, sending⟩ : ∃ packet, legacyEncrypt toyMessages toyOwner.store ⟨none, 100⟩
      toyDraws "hi" none .shared false none = .ok (packet, ((100 : Nat) : Int)) :=
    sent_of_stamp (by decide +kernel)
  have present : (Clocks.mk none 110).present = 110 := present_of_clock 110
  obtain ⟨dispatched, opened, read⟩ := decrypt_produced DoubleRatchet.toyPrimitives
    RatchetService.toyCipher toyMessages_lawful toyMessages_authentic toyKem_lawful
  have resolved : resolveEncryptionKey toyOwner.store none .shared =
      .ok (List.replicate 32 7, none) := by decide
  refine ⟨sealed, unsigned, sealing, (dispatched (.pqc sealing)).1, sending,
    (dispatched (.legacy sending)).1, List.forall_mem_cons.mpr ⟨?_, List.forall_mem_singleton.mpr ?_⟩⟩
  · exact opened sealing toyOwner rfl rfl ⟨none, 110⟩ 1
  · refine read resolved sending rfl rfl (by omega) toyOwner (by decide) ⟨none, 110⟩ (by omega)
      (by omega) ?_ 1 false
    rw [present]
    decide

end Example

end UltimateEnigma.Encryption
