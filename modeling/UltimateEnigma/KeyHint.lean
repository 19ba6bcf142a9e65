import UltimateEnigma.HeaderAuthentication
import UltimateEnigma.LegacyStrategy

set_option autoImplicit false

namespace UltimateEnigma.Crypto

open Py

variable {Priv Pub : Type} {L : MessageLibrary Priv Pub}

/-- AES-GCM refuses every key but the one that sealed. -/
def MessageLibrary.RefusesOtherKeys (L : MessageLibrary Priv Pub) : Prop :=
  ∀ {key other : Bytes} (nonce plaintext aad : Bytes), other ≠ key →
    L.aesDecrypt other nonce (L.aesEncrypt key nonce plaintext aad) aad = none

/-- HKDF derives no message key of the sender's secret from another of these secrets. -/
def HkdfApart (L : MessageLibrary Priv Pub) (sender : Bytes) (secrets : List Bytes) : Prop :=
  ∀ secret ∈ secrets, secret ≠ sender → ∀ ownTime otherTime message : Bytes,
    L.hkdf (L.hkdf secret otherTime) message ≠ L.hkdf (L.hkdf sender ownTime) message

section Sealing

variable {message : SharedMessage Priv Pub} {parts : SealedParts} {secret : Bytes}

theorem signInner_unsigned {options : EncryptOptions Priv Pub} {draws : EncryptDraws}
    {inner signature : Bytes} (unsigned : options.sign = false)
    (made : signInner L options draws inner = .ok signature) : signature = [] := by
  have noKeys : options.hybridKeys L = none := by
    cases keys : options.hybridKeys L with
    | none => rfl
    | some pair =>
        have signed := sign_of_hybridKeys keys
        rw [unsigned] at signed
        cases signed
  unfold signInner at made
  simp only [noKeys, unsigned] at made
  cases made
  rfl

/-- The key, the nonce and the associated data of what is sealed. -/
theorem SharedMessage.sealed_parts (made : message.sealed L secret = .ok parts) :
    ∃ (time : Nat) (signature timeKey inner : Bytes), time < 256 ^ 8 ∧
      (message.options.sign = false → signature = []) ∧ signature.length < 65536 ∧
      deriveTimeKey L secret (toInt message.timestamp) = .ok timeKey ∧
      parts.key = deriveMsgKey L timeKey message.draws.nonce ∧
      parts.nonce = message.draws.nonce ∧
      parts.aad = headerOf L message.options time ++ signaturePart message.options signature ∧
      parts.ct = L.aesEncrypt parts.key parts.nonce inner parts.aad := by
  obtain ⟨timeKey, derived, made⟩ := ok_of_bind made
  obtain ⟨inner, _, made⟩ := ok_of_bind made
  obtain ⟨signature, signed, made⟩ := ok_of_bind made
  obtain ⟨outerTime, packed, made⟩ := ok_of_bind made
  obtain ⟨time, fits, rfl⟩ : ∃ time : Nat, time < 256 ^ 8 ∧ packBE 8 time = outerTime := by
    unfold packUnsigned at packed
    split at packed
    · rename_i bounds
      cases packed
      exact ⟨(toInt message.timestamp).toNat, by omega, rfl⟩
    · cases packed
  cases signing : message.options.sign with
  | false =>
      rw [signing, if_neg Bool.false_ne_true] at made
      obtain ⟨_, blank, made⟩ := ok_of_bind made
      cases blank
      obtain ⟨_, _, made⟩ := ok_of_bind made
      obtain ⟨_, _, made⟩ := ok_of_bind made
      cases made
      have blank := signInner_unsigned signing signed
      refine ⟨time, signature, timeKey, inner, fits, fun _ => blank, ?_, derived, rfl, rfl, ?_, rfl⟩
      · rw [blank]
        decide
      · rw [signaturePart, signing]
        rfl
  | true =>
      rw [signing, if_pos rfl] at made
      obtain ⟨packedSignature, framing, made⟩ := ok_of_bind made
      obtain ⟨_, _, made⟩ := ok_of_bind made
      obtain ⟨_, _, made⟩ := ok_of_bind made
      cases made
      unfold packBytes at framing
      split at framing
      · rename_i short
        cases framing
        refine ⟨time, signature, timeKey, inner, fits, by simp, short, derived, rfl, rfl, ?_, rfl⟩
        rw [signaturePart, signing]
        rfl
      · cases framing

/-- The hint is found behind the flags and the timestamp. -/
theorem extractKeyHint_packet {options : EncryptOptions Priv Pub} (time : Nat) {hint : Bytes}
    (rest : Bytes) (shared : options.encryptForFriendPub = none) (size : hint.length = 2) :
    Encryption.extractKeyHint (headerOf L options time ++ hint ++ rest) = some hint := by
  have flagged : hasFlag (options.flags L) keyHintFlag = true := by
    rw [flags_eq, hasFlag_keyHint, shared]
    rfl
  simp only [headerOf, List.cons_append, List.append_assoc, Encryption.extractKeyHint, flags_toNat,
    flagged, Bool.not_true, Bool.false_eq_true, if_false]
  rw [if_neg (by
    simp only [List.length_append, packBE_length, size]
    omega), List.drop_left' (packBE_length 8 _), List.take_left' size]

/-- How the packet of a shared message is read, up to its ciphertext. -/
theorem SharedMessage.packet_reads (lawful : ∀ data, (L.sha256 data).length = 32)
    {packet : Bytes} {stamp : Int} (made : message.encrypt L secret = .ok (packet, stamp)) :
    ∃ (flags time : Nat) (signature aad timeKey inner : Bytes),
      readHeader packet = .ok (flags, time, signature, message.draws.nonce ++
        L.aesEncrypt (deriveMsgKey L timeKey message.draws.nonce) message.draws.nonce inner aad) ∧
      headerAad flags time signature = .ok aad ∧ hasFlag flags friendFlag = false ∧
      deriveTimeKey L secret (toInt message.timestamp) = .ok timeKey ∧
      Encryption.extractKeyHint packet = some (keyHint L secret) := by
  rw [message.encrypt_eq] at made
  obtain ⟨parts, sealed', made⟩ := ok_of_bind made
  cases made
  obtain ⟨time, signature, timeKey, inner, fits, unsigned, short, derived, key, nonce, aad, ct⟩ :=
    message.sealed_parts sealed'
  have size : (headerOf L message.options time).length = 9 := by
    rw [headerOf, List.length_cons, packBE_length]
  have front : parts.aad.take 9 = headerOf L message.options time := by
    rw [aad]
    exact List.take_left' size
  have back : parts.aad.drop 9 = signaturePart message.options signature := by
    rw [aad]
    exact List.drop_left' size
  have hint : (keyHint L secret).length = 2 := by
    rw [keyHint, List.length_take, lawful]
    rfl
  have packet : parts.packet (keyHint L secret) =
      headerOf L message.options time ++ keyHint L secret ++
        signaturePart message.options signature ++ (message.draws.nonce ++ parts.ct) := by
    rw [SealedParts.packet, front, back, nonce]
    simp only [List.append_assoc]
  have behind : (keyHint L secret).length =
      if message.options.encryptForFriendPub.isSome then 0 else 2 := by
    rw [message.shared]
    exact hint
  refine ⟨message.options.flags L, time, signature, parts.aad, timeKey, inner, ?_, ?_, ?_, derived,
    ?_⟩
  · rw [packet, readHeader_packet _ fits behind short unsigned, ct, key, nonce]
  · rw [headerAad_eq time short, aad]
  · rw [flags_eq, hasFlag_friend, message.shared]
    rfl
  · rw [packet, List.append_assoc]
    exact extractKeyHint_packet time _ message.shared hint

/-- A secret under which the packet opens is the sender's. -/
theorem SharedMessage.opens_only_for_sender (lawful : ∀ data, (L.sha256 data).length = 32)
    (refuses : L.RefusesOtherKeys) (nonceDrawn : message.draws.nonce.length = 12) {sender : Bytes}
    {secrets : List Bytes} (apart : HkdfApart L sender secrets) {packet : Bytes} {stamp : Int}
    (made : message.encrypt L sender = .ok (packet, stamp)) (listed : secret ∈ secrets)
    {myPriv : Option Priv} {friends : List (String × Pub)} {now : Option Int} {clock : Int}
    {friendsHybrid : List (String × Bytes × Bytes)} {text : String}
    (accepted : decryptMessage L packet secret myPriv friends now clock friendsHybrid = .ok text) :
    secret = sender := by
  by_contra other
  obtain ⟨flags, time, signature, aad, timeKey, inner, read, authenticated, shared, derived, _⟩ :=
    message.packet_reads lawful made
  obtain ⟨opened, accepted, _⟩ := ok_of_bind accepted
  rw [openPacket, read, ok_bind] at accepted
  obtain ⟨found, decrypted, _⟩ := ok_of_bind accepted
  rw [readInner, authenticated, ok_bind, shared, if_neg Bool.false_ne_true] at decrypted
  obtain ⟨tried, attempted, decrypted⟩ := ok_of_bind decrypted
  cases tried with
  | none => cases decrypted
  | some candidate =>
      rcases tryCandidates_ok attempted with impossible | ⟨otherTime, otherKey, otherDerived, opens⟩
      · cases impossible
      have opens := (aesGcmDecrypt_ok opens).2
      have front (rest : Bytes) : (message.draws.nonce ++ rest).take nonceSize =
          message.draws.nonce := List.take_left' nonceDrawn
      have back (rest : Bytes) : (message.draws.nonce ++ rest).drop nonceSize = rest :=
        List.drop_left' nonceDrawn
      rw [front, back] at opens
      obtain ⟨ownPacked, _, ownKey⟩ := ok_of_bind derived
      obtain ⟨otherPacked, _, otherKey⟩ := ok_of_bind otherDerived
      cases ownKey
      cases otherKey
      have refused := refuses message.draws.nonce inner aad (apart secret listed other
        (encodeUtf8 "enigma-time-key:" ++ ownPacked) (encodeUtf8 "enigma-time-key:" ++ otherPacked)
        (encodeUtf8 "enigma-aes-gcm-msg-key-v1:" ++ message.draws.nonce))
      rw [← deriveMsgKey, ← deriveMsgKey, opens] at refused
      cases refused

end Sealing

end UltimateEnigma.Crypto

namespace UltimateEnigma.Encryption

open Py Crypto

variable {Priv Pub : Type} (L : MessageLibrary Priv Pub) (store : KeyStore Priv Pub)
variable (clocks : Clocks) (packet : Bytes) (friends : List (String × Pub))

/-- One attempt of `_decrypt_with_shared_secrets`; what it raises is swallowed. -/
def attemptSecret (secret : Bytes) : Option String :=
  (decryptMessage L packet secret none friends clocks.checkNow (toInt clocks.clock)
    (friendsHybridList store)).toOption

/-- `_decrypt_with_shared_secrets`. -/
def decryptWithSharedSecrets : List Bytes → Option String
  | [] => none
  | secret :: rest =>
      if hintAllows L packet secret then
        match attemptSecret L store clocks packet friends secret with
        | some plaintext => some plaintext
        | none => decryptWithSharedSecrets rest
      else decryptWithSharedSecrets rest

/-- The loop without the test of the hint. -/
def decryptWithEverySecret : List Bytes → Option String
  | [] => none
  | secret :: rest =>
      match attemptSecret L store clocks packet friends secret with
      | some plaintext => some plaintext
      | none => decryptWithEverySecret rest

variable {L store clocks packet friends}

/-- A filter that drops only what fails does not matter. -/
theorem decryptWithSharedSecrets_of_sound {secrets : List Bytes}
    (sound : ∀ secret ∈ secrets, hintAllows L packet secret = false →
      attemptSecret L store clocks packet friends secret = none) :
    decryptWithSharedSecrets L store clocks packet friends secrets =
      decryptWithEverySecret L store clocks packet friends secrets := by
  induction secrets with
  | nil => rfl
  | cons secret rest ih =>
      have tail := ih fun later member => sound later (List.mem_cons_of_mem secret member)
      rw [decryptWithSharedSecrets, decryptWithEverySecret, tail]
      cases allowed : hintAllows L packet secret with
      | false => rw [sound secret List.mem_cons_self allowed, if_neg Bool.false_ne_true]
      | true => rw [if_pos rfl]

/-- For a packet of `encrypt_message` the hint rules out no secret that could open it. -/
theorem key_hint_agrees_with_every_secret (digest : ∀ data, (L.sha256 data).length = 32)
    (refuses : L.RefusesOtherKeys) {message : SharedMessage Priv Pub} {sender : Bytes}
    (nonceDrawn : message.draws.nonce.length = 12) {stamp : Int}
    (made : message.encrypt L sender = .ok (packet, stamp)) {secrets : List Bytes}
    (apart : HkdfApart L sender secrets) (store : KeyStore Priv Pub) (clocks : Clocks)
    (friends : List (String × Pub)) :
    decryptWithSharedSecrets L store clocks packet friends secrets =
      decryptWithEverySecret L store clocks packet friends secrets := by
  apply decryptWithSharedSecrets_of_sound
  intro secret listed dropped
  rw [attemptSecret]
  cases attempt : decryptMessage L packet secret none friends clocks.checkNow (toInt clocks.clock)
      (friendsHybridList store) with
  | error raised => rfl
  | ok text =>
      have own := message.opens_only_for_sender digest refuses nonceDrawn apart made listed attempt
      obtain ⟨_, _, _, _, _, _, _, _, _, _, hint⟩ := message.packet_reads digest made
      rw [hintAllows, hint, own] at dropped
      exact absurd (beq_self_eq_true _) (ne_true_of_eq_false dropped)

section Example

theorem toyMessages_refuses : toyMessages.RefusesOtherKeys := by
  intro key other nonce plaintext aad apart
  have unsealed : ¬ toySeal other aad <+: toySeal key aad ++ plaintext := by
    rintro ⟨rest, same⟩
    simp only [toySeal, List.append_assoc, List.append_cancel_left_eq] at same
    exact apart (KeyStore.eq_of_toyMark_append same)
  exact if_neg unsealed

/-- A wrong secret, one whose hint collides with the sender's, and the sender's twice. -/
def toySecrets : List Bytes :=
  [List.replicate 32 8, 9 :: 9 :: List.replicate 30 7, toySecret, toySecret]

theorem toySecrets_apart : HkdfApart toyMessages toySecret toySecrets := by
  have long : ∀ secret ∈ toySecrets, secret.length = 32 := by decide
  have first (secret info : Bytes) (size : secret.length = 32) :
      toyMessages.hkdf secret info = secret := by
    show (secret ++ info ++ List.replicate 32 0).take 32 = secret
    rw [List.append_assoc]
    exact List.take_left' size
  intro secret member other ownTime otherTime nonce
  have size := long secret member
  have own : toySecret.length = 32 := rfl
  rw [first secret otherTime size, first toySecret ownTime own, first secret nonce size,
    first toySecret nonce own]
  exact other

theorem toySecrets_agree :
    ∃ packet stamp, toyNote.encrypt toyMessages toySecret = .ok (packet, stamp) ∧
      decryptWithSharedSecrets toyMessages {} ⟨some 110, 0⟩ packet [("alice", [3])] toySecrets =
        decryptWithEverySecret toyMessages {} ⟨some 110, 0⟩ packet [("alice", [3])] toySecrets ∧
      (decryptWithSharedSecrets toyMessages {} ⟨some 110, 0⟩ packet [("alice", [3])]
        toySecrets).isSome := by
  have made : toyNote.encrypt toyMessages toySecret =
      .ok (toyNoteParts.packet (keyHint toyMessages toySecret), 100) := by decide +kernel
  exact ⟨_, _, made, key_hint_agrees_with_every_secret toyMessages_lawful.sha256_length
    toyMessages_refuses rfl made toySecrets_apart _ _ _, by decide +kernel⟩

end Example

end UltimateEnigma.Encryption
