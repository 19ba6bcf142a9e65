import UltimateEnigma.LegacyMessage

set_option autoImplicit false

namespace UltimateEnigma.Crypto

open Py

/-- What the messages rely on of the libraries. -/
structure MessageLibrary.Lawful {Priv Pub : Type} (L : MessageLibrary Priv Pub) : Prop where
  hkdf_length (secret info : Bytes) : (L.hkdf secret info).length = 32
  sha256_length (data : Bytes) : (L.sha256 data).length = 32
  aes_opens (key nonce plaintext aad : Bytes) :
    L.aesDecrypt key nonce (L.aesEncrypt key nonce plaintext aad) aad = some plaintext
  aes_tag (key nonce plaintext aad : Bytes) : 16 ≤ (L.aesEncrypt key nonce plaintext aad).length
  rsa_opens (priv : Priv) {message : Bytes} (seed : Bytes) (size : message.length = aesKeySize) :
    L.rsaDecrypt priv (L.rsaEncrypt (L.publicKey priv) message seed) = some message
  rsa_short (pub : Pub) (message seed : Bytes) : (L.rsaEncrypt pub message seed).length < 65536
  rsa_verifies (priv : Priv) (data salt : Bytes) :
    L.rsaVerify (L.publicKey priv) data (L.rsaSign priv data salt) = true
  rsaSign_short (priv : Priv) (data salt : Bytes) : (L.rsaSign priv data salt).length < 65536
  signatures : L.signatures.Lawful
  hybridSign_short {message edPriv dilPriv draw signature : Bytes}
    (made : HybridSigner.sign L.signatures message edPriv dilPriv draw = some signature) :
    signature.length < 65536

theorem packUnsigned_natCast {width value : Nat} (fits : value < 256 ^ width) :
    packUnsigned width value = .ok (packBE width value) := by
  have bounds : (0 : Int) ≤ value ∧ (value : Int) < 256 ^ width := by
    refine ⟨Int.natCast_nonneg value, ?_⟩
    exact_mod_cast fits
  rw [packUnsigned, if_pos bounds]
  rfl

/-- Data behind its length. -/
def framed (data : Bytes) : Bytes := packBE 2 data.length ++ data

theorem packBytes_short {data : Bytes} (short : data.length < 65536) :
    packBytes data = .ok (framed data) := by
  rw [packBytes, if_pos short, framed]

theorem unpackBytes_framed (data rest : Bytes) (short : data.length < 65536) :
    unpackBytes (framed data ++ rest) = .ok (data, rest) := by
  have fits : data.length < 256 ^ 2 := by omega
  have front : (packBE 2 data.length ++ data ++ rest).take 2 = packBE 2 data.length := by
    rw [List.append_assoc]
    exact List.take_left' (packBE_length 2 _)
  have back : (packBE 2 data.length ++ data ++ rest).drop 2 = data ++ rest := by
    rw [List.append_assoc]
    exact List.drop_left' (packBE_length 2 _)
  unfold unpackBytes framed
  simp only [front, back, unpackBE_packBE 2 _ fits, List.length_append, packBE_length]
  rw [if_neg (by omega), if_neg (by omega), List.take_left, List.drop_left]

/-- Bytes behind their length, taken apart and put together again. -/
theorem framed_take (rest : Bytes) (long : 2 ≤ rest.length)
    (enough : unpackBE (rest.take 2) ≤ (rest.drop 2).length) :
    rest = framed ((rest.drop 2).take (unpackBE (rest.take 2))) ++
        (rest.drop 2).drop (unpackBE (rest.take 2)) ∧
      ((rest.drop 2).take (unpackBE (rest.take 2))).length < 65536 := by
  have two : (rest.take 2).length = 2 := by
    rw [List.length_take]
    omega
  have size : ((rest.drop 2).take (unpackBE (rest.take 2))).length = unpackBE (rest.take 2) := by
    rw [List.length_take]
    omega
  have written := packBE_unpackBE (rest.take 2)
  have below := unpackBE_lt (rest.take 2)
  rw [two] at written below
  constructor
  · rw [framed, size, written, List.append_assoc, List.take_append_drop, List.take_append_drop]
  · rw [size]
    exact below

section Flags

/-- The flags of a message by what they stand for. -/
def flagBits (hybrid sign friend selfDestruct : Bool) : Nat :=
  (if hybrid then hybridSigFlag else if sign then signFlag else 0) |||
    (if friend then friendFlag else keyHintFlag) |||
    (if selfDestruct then selfDestructFlag else 0)

variable (hybrid sign friend selfDestruct : Bool)

theorem flagBits_lt : flagBits hybrid sign friend selfDestruct < 256 := by
  cases hybrid <;> cases sign <;> cases friend <;> cases selfDestruct <;> decide

theorem hasFlag_hybrid :
    hasFlag (flagBits hybrid sign friend selfDestruct) hybridSigFlag = hybrid := by
  cases hybrid <;> cases sign <;> cases friend <;> cases selfDestruct <;> decide

theorem hasFlag_sign :
    hasFlag (flagBits hybrid sign friend selfDestruct) signFlag = (sign && !hybrid) := by
  cases hybrid <;> cases sign <;> cases friend <;> cases selfDestruct <;> decide

theorem hasFlag_friend :
    hasFlag (flagBits hybrid sign friend selfDestruct) friendFlag = friend := by
  cases hybrid <;> cases sign <;> cases friend <;> cases selfDestruct <;> decide

theorem hasFlag_keyHint :
    hasFlag (flagBits hybrid sign friend selfDestruct) keyHintFlag = !friend := by
  cases hybrid <;> cases sign <;> cases friend <;> cases selfDestruct <;> decide

theorem hasFlag_selfDestruct :
    hasFlag (flagBits hybrid sign friend selfDestruct) selfDestructFlag = selfDestruct := by
  cases hybrid <;> cases sign <;> cases friend <;> cases selfDestruct <;> decide

end Flags

section Sealing

variable {Priv Pub : Type} {L : MessageLibrary Priv Pub}

theorem flags_eq (options : EncryptOptions Priv Pub) :
    options.flags L = flagBits (options.hybridKeys L).isSome options.sign
      options.encryptForFriendPub.isSome options.duration.isSome := rfl

/-- Hybrid keys are used by messages that are to be signed. -/
theorem sign_of_hybridKeys {options : EncryptOptions Priv Pub} {keys : Bytes × Bytes}
    (used : options.hybridKeys L = some keys) : options.sign = true := by
  unfold EncryptOptions.hybridKeys at used
  split at used
  · rename_i signed _ _
    exact (Bool.and_eq_true_iff.mp signed).1
  · cases used

/-- One flag or the other stands for a signature. -/
theorem signed_flags (options : EncryptOptions Priv Pub) :
    (hasFlag (options.flags L) signFlag || hasFlag (options.flags L) hybridSigFlag) =
      options.sign := by
  rw [flags_eq, hasFlag_sign, hasFlag_hybrid]
  cases keys : options.hybridKeys L with
  | none => rw [Option.isSome_none, Bool.not_false, Bool.and_true, Bool.or_false]
  | some found =>
      rw [sign_of_hybridKeys keys, Option.isSome_some]
      rfl

theorem flags_toNat (options : EncryptOptions Priv Pub) :
    (UInt8.ofNat (options.flags L)).toNat = options.flags L := by
  rw [UInt8.toNat_ofNat']
  exact Nat.mod_eq_of_lt (flagBits_lt _ _ _ _)

/-- The inner bytes, and what is signed. -/
def innerOf (time : Nat) (duration : Option Nat) (plaintext : Bytes) : Bytes :=
  packBE 8 time ++ duration.elim [] (packBE 4) ++ plaintext

theorem splitInner_innerOf (flags time : Nat) (duration : Option Nat) (plaintext : Bytes)
    (flagged : hasFlag flags selfDestructFlag = duration.isSome) (timeFits : time < 256 ^ 8)
    (durationFits : ∀ seconds, duration = some seconds → seconds < 256 ^ 4) :
    splitInner flags (innerOf time duration plaintext) = .ok (time, duration, plaintext) := by
  have front (rest : Bytes) : (packBE 8 time ++ rest).take 8 = packBE 8 time :=
    List.take_left' (packBE_length 8 _)
  have back (rest : Bytes) : (packBE 8 time ++ rest).drop 8 = rest :=
    List.drop_left' (packBE_length 8 _)
  unfold splitInner innerOf
  rw [flagged]
  cases duration with
  | none =>
      simp only [Option.elim_none, List.append_nil, Option.isSome_none, List.length_append,
        packBE_length, front, back, unpackBE_packBE 8 _ timeFits]
      rw [if_neg (by omega), if_neg Bool.false_ne_true]
  | some seconds =>
      have seconds_front : (packBE 4 seconds ++ plaintext).take 4 = packBE 4 seconds :=
        List.take_left' (packBE_length 4 _)
      have behind : (packBE 8 time ++ (packBE 4 seconds ++ plaintext)).drop 12 = plaintext := by
        rw [← List.append_assoc]
        refine List.drop_left' ?_
        rw [List.length_append, packBE_length, packBE_length]
      simp only [Option.elim_some, Option.isSome_some, List.append_assoc, List.length_append,
        packBE_length, front, back, behind, seconds_front, unpackBE_packBE 8 _ timeFits,
        unpackBE_packBE 4 _ (durationFits seconds rfl)]
      rw [if_neg (by omega), if_pos trivial, if_neg (by omega)]

theorem deriveTimeKey_natCast (secret : Bytes) {time : Nat} (fits : time < 2 ^ 63) :
    deriveTimeKey L secret time =
      .ok (L.hkdf secret (encodeUtf8 "enigma-time-key:" ++ packBE 8 (time / 30 * 30))) := by
  have rounded : (time : Int) / timeStep * timeStep = ((time / 30 * 30 : Nat) : Int) := by
    unfold timeStep
    omega
  have small : time / 30 * 30 < 256 ^ 8 := by omega
  rw [deriveTimeKey, rounded, packUnsigned_natCast small]
  rfl

theorem checkAesKey_hkdf (lawful : L.Lawful) (secret info : Bytes) :
    checkAesKey (L.hkdf secret info) = .ok () := by
  rw [checkAesKey, if_pos (.inr (.inr (lawful.hkdf_length secret info)))]

theorem aesGcmEncrypt_eq (lawful : L.Lawful) {key : Bytes} (keyLength : key.length = 32)
    (plaintext aad nonce : Bytes) :
    aesGcmEncrypt L key plaintext aad nonce =
      .ok (nonce ++ L.aesEncrypt (deriveMsgKey L key nonce) nonce plaintext aad) := by
  have derived : checkAesKey (deriveMsgKey L key nonce) = .ok () := checkAesKey_hkdf lawful _ _
  unfold aesGcmEncrypt
  rw [checkAesKey, if_pos (.inr (.inr keyLength))]
  show (checkAesKey (deriveMsgKey L key nonce) >>= fun _ => _) = _
  rw [derived]
  rfl

theorem aesGcmDecrypt_seal (lawful : L.Lawful) (key plaintext aad nonce : Bytes)
    (nonceLength : nonce.length = 12) :
    aesGcmDecrypt L key (nonce ++ L.aesEncrypt (deriveMsgKey L key nonce) nonce plaintext aad) aad =
      .ok plaintext := by
  have tag := lawful.aes_tag (deriveMsgKey L key nonce) nonce plaintext aad
  have derived : checkAesKey (deriveMsgKey L key nonce) = .ok () := checkAesKey_hkdf lawful _ _
  have front : (nonce ++ L.aesEncrypt (deriveMsgKey L key nonce) nonce plaintext aad).take
      nonceSize = nonce := List.take_left' nonceLength
  have back : (nonce ++ L.aesEncrypt (deriveMsgKey L key nonce) nonce plaintext aad).drop
      nonceSize = L.aesEncrypt (deriveMsgKey L key nonce) nonce plaintext aad :=
    List.drop_left' nonceLength
  unfold aesGcmDecrypt
  rw [if_neg (by
    rw [List.length_append, nonceLength, nonceSize]
    omega), front, back]
  simp only [derived, ok_bind, lawful.aes_opens]

/-- The first candidate that opens is kept. -/
theorem tryCandidates_found (constKey ciphertext aad inner : Bytes) (times : List Nat)
    (fits : ∀ time ∈ times, time < 2 ^ 63) :
    tryCandidates L constKey ciphertext aad (times.map fun time : Nat => (time : Int)) (some inner) =
      .ok (some inner) := by
  induction times with
  | nil => rfl
  | cons time rest ih =>
      have tail := ih fun later member => fits later (List.mem_cons_of_mem time member)
      rw [List.map_cons, tryCandidates,
        deriveTimeKey_natCast constKey (fits time List.mem_cons_self)]
      rw [ok_bind]
      cases aesGcmDecrypt L _ ciphertext aad with
      | ok found => exact tail
      | error raised => exact tail

/-- The window around a present after the first minute. -/
theorem candidates_natCast {time now : Nat} (late : 60 ≤ now) :
    candidates time now =
      [time, now - 60, now - 30, now, now + 30, now + 60].map fun time : Nat => (time : Int) := by
  have steps : List.range (2 * windowSize + 1) = [0, 1, 2, 3, 4] := rfl
  rw [candidates, steps]
  simp only [List.map_cons, List.map_nil, List.cons.injEq, and_true, true_and, windowSize, timeStep]
  omega

theorem decryptWithWindow_seal (lawful : L.Lawful) {constKey plaintext aad nonce key : Bytes}
    {time now : Nat} (nowFits : now < 2 ^ 62) (late : 60 ≤ now)
    (nonceLength : nonce.length = 12) (keyed : deriveTimeKey L constKey time = .ok key) :
    decryptWithWindow L constKey
      (nonce ++ L.aesEncrypt (deriveMsgKey L key nonce) nonce plaintext aad) time now aad =
      .ok plaintext := by
  have rest := tryCandidates_found (L := L) constKey
    (nonce ++ L.aesEncrypt (deriveMsgKey L key nonce) nonce plaintext aad) aad plaintext
    [now - 60, now - 30, now, now + 30, now + 60] (by
      intro candidate member
      simp only [List.mem_cons, List.not_mem_nil, or_false] at member
      omega)
  unfold decryptWithWindow
  rw [candidates_natCast late, List.map_cons, tryCandidates, keyed]
  rw [ok_bind, aesGcmDecrypt_seal lawful key plaintext aad nonce nonceLength]
  show tryCandidates L constKey _ aad _ (some plaintext) >>= _ = _
  rw [rest]
  rfl

/-- The authenticated front of a packet. -/
def headerOf (L : MessageLibrary Priv Pub) (options : EncryptOptions Priv Pub) (time : Nat) : Bytes :=
  UInt8.ofNat (options.flags L) :: packBE 8 time

def signaturePart (options : EncryptOptions Priv Pub) (signature : Bytes) : Bytes :=
  if options.sign then framed signature else []

def keyPart (L : MessageLibrary Priv Pub) (options : EncryptOptions Priv Pub)
    (aesKey oaepSeed : Bytes) : Bytes :=
  options.encryptForFriendPub.elim [] fun pub => framed (L.rsaEncrypt pub aesKey oaepSeed)

theorem encryptMessage_eq (lawful : L.Lawful) {options : EncryptOptions Priv Pub}
    {draws : EncryptDraws} {plaintext constKey aesKey keyHint inner signature : Bytes} {time : Nat}
    (timeFits : time < 256 ^ 8)
    (keyed : messageKey L options draws constKey time = .ok (aesKey, keyHint))
    (keyLength : aesKey.length = 32) (made : innerBytes time options.duration plaintext = .ok inner)
    (signed : signInner L options draws inner = .ok signature) (short : signature.length < 65536) :
    encryptMessage L options plaintext constKey (time : Int) draws =
      .ok (headerOf L options time ++ keyHint ++ signaturePart options signature ++
        keyPart L options aesKey draws.oaepSeed ++
        (draws.nonce ++ L.aesEncrypt (deriveMsgKey L aesKey draws.nonce) draws.nonce inner
          (headerOf L options time ++ signaturePart options signature ++
            keyPart L options aesKey draws.oaepSeed)), time) := by
  unfold encryptMessage headerOf signaturePart keyPart
  simp only [toInt_intCast, keyed, ok_bind, made, signed, packUnsigned_natCast timeFits]
  cases options.sign with
  | false =>
      cases options.encryptForFriendPub with
      | none =>
          simp only [Bool.false_eq_true, if_false, Option.elim_none, ok_bind,
            aesGcmEncrypt_eq lawful keyLength]
          rfl
      | some pub =>
          simp only [Bool.false_eq_true, if_false, Option.elim_some, ok_bind,
            packBytes_short (lawful.rsa_short pub aesKey draws.oaepSeed),
            aesGcmEncrypt_eq lawful keyLength]
          rfl
  | true =>
      cases options.encryptForFriendPub with
      | none =>
          simp only [if_true, Option.elim_none, ok_bind, packBytes_short short,
            aesGcmEncrypt_eq lawful keyLength]
          rfl
      | some pub =>
          simp only [if_true, Option.elim_some, ok_bind, packBytes_short short,
            packBytes_short (lawful.rsa_short pub aesKey draws.oaepSeed),
            aesGcmEncrypt_eq lawful keyLength]
          rfl

theorem readHeader_packet {options : EncryptOptions Priv Pub} {time : Nat}
    {keyHint signature : Bytes} (rest : Bytes) (timeFits : time < 256 ^ 8)
    (hint : keyHint.length = if options.encryptForFriendPub.isSome then 0 else 2)
    (short : signature.length < 65536) (unsigned : options.sign = false → signature = []) :
    readHeader (headerOf L options time ++ keyHint ++ signaturePart options signature ++ rest) =
      .ok (options.flags L, time, signature, rest) := by
  have front (tail : Bytes) : (packBE 8 time ++ tail).take 8 = packBE 8 time :=
    List.take_left' (packBE_length 8 _)
  have back (tail : Bytes) : (packBE 8 time ++ tail).drop 8 = tail :=
    List.drop_left' (packBE_length 8 _)
  have behindHint (tail : Bytes) :
      (if hasFlag (options.flags L) keyHintFlag then (keyHint ++ tail).drop 2
        else keyHint ++ tail) = tail := by
    rw [flags_eq, hasFlag_keyHint]
    cases friend : options.encryptForFriendPub with
    | none =>
        rw [friend] at hint
        exact List.drop_left' hint
    | some pub =>
        rw [friend] at hint
        rw [List.eq_nil_of_length_eq_zero hint]
        rfl
  have packet : headerOf L options time ++ keyHint ++ signaturePart options signature ++ rest =
      UInt8.ofNat (options.flags L) ::
        (packBE 8 time ++ (keyHint ++ (signaturePart options signature ++ rest))) := by
    simp only [headerOf, List.cons_append, List.append_assoc]
  have long : ¬ (packBE 8 time ++ (keyHint ++ (signaturePart options signature ++ rest))).length <
      8 := by
    rw [List.length_append, packBE_length]
    omega
  rw [packet, readHeader, if_neg long]
  simp only [flags_toNat, signed_flags, front, back, behindHint, unpackBE_packBE 8 _ timeFits]
  cases signing : options.sign with
  | false =>
      simp only [signaturePart, signing, Bool.false_eq_true, if_false, ok_bind, List.nil_append,
        unsigned signing]
      rfl
  | true =>
      simp only [signaturePart, signing, if_true, unpackBytes_framed signature rest short, ok_bind]
      rfl

theorem headerAad_eq {options : EncryptOptions Priv Pub} (time : Nat) {signature : Bytes}
    (short : signature.length < 65536) :
    headerAad (options.flags L) time signature =
      .ok (headerOf L options time ++ signaturePart options signature) := by
  unfold headerAad headerOf signaturePart
  rw [signed_flags]
  cases options.sign with
  | false => rfl
  | true =>
      rw [if_pos rfl, if_pos rfl, packBytes_short short]
      rfl

/-- Either key of a message finds its inner bytes again. -/
theorem readInner_packet (inner : Bytes) (lawful : L.Lawful) {options : EncryptOptions Priv Pub}
    {draws : EncryptDraws} {constKey openKey aesKey keyHint signature : Bytes}
    {receiver : Option Priv} {time now : Nat}
    (matching : options.encryptForFriendPub = receiver.map L.publicKey)
    (sameKey : receiver = none → openKey = constKey)
    (keyed : messageKey L options draws constKey time = .ok (aesKey, keyHint))
    (keyLength : aesKey.length = 32) (short : signature.length < 65536)
    (nonceLength : draws.nonce.length = 12) (nowFits : now < 2 ^ 62) (late : 60 ≤ now) :
    readInner L openKey receiver now (options.flags L) time signature
      (keyPart L options aesKey draws.oaepSeed ++
        (draws.nonce ++ L.aesEncrypt (deriveMsgKey L aesKey draws.nonce) draws.nonce inner
          (headerOf L options time ++ signaturePart options signature ++
            keyPart L options aesKey draws.oaepSeed))) = .ok inner := by
  unfold readInner
  rw [headerAad_eq time short, ok_bind, flags_eq, hasFlag_friend]
  cases receiver with
  | none =>
      have shared : options.encryptForFriendPub = none := matching
      have noKey : keyPart L options aesKey draws.oaepSeed = [] := by
        rw [keyPart, shared]
        rfl
      rw [noKey, List.nil_append, List.append_nil, shared]
      rw [messageKey, shared] at keyed
      obtain ⟨key, derived, made⟩ := ok_of_bind keyed
      cases made
      rw [sameKey rfl]
      exact decryptWithWindow_seal lawful nowFits late nonceLength derived
  | some priv =>
      have pub : options.encryptForFriendPub = some (L.publicKey priv) := matching
      have framedKey : keyPart L options aesKey draws.oaepSeed =
          framed (L.rsaEncrypt (L.publicKey priv) aesKey draws.oaepSeed) := by
        rw [keyPart, pub]
        rfl
      have keyShort := lawful.rsa_short (L.publicKey priv) aesKey draws.oaepSeed
      rw [framedKey, pub, Option.isSome_some, if_pos rfl]
      simp only [unpackBytes_framed _ _ keyShort, ok_bind, packBytes_short keyShort,
        lawful.rsa_opens priv draws.oaepSeed keyLength]
      exact aesGcmDecrypt_seal lawful aesKey inner _ draws.nonce nonceLength

theorem openPacket_packet (plaintext : Bytes) (lawful : L.Lawful)
    {options : EncryptOptions Priv Pub} {draws : EncryptDraws}
    {constKey openKey aesKey keyHint signature : Bytes}
    {receiver : Option Priv} {time now : Nat} {duration : Option Nat}
    (clock : Int) (matching : options.encryptForFriendPub = receiver.map L.publicKey)
    (sameKey : receiver = none → openKey = constKey)
    (keyed : messageKey L options draws constKey time = .ok (aesKey, keyHint))
    (keyLength : aesKey.length = 32)
    (hint : keyHint.length = if options.encryptForFriendPub.isSome then 0 else 2)
    (short : signature.length < 65536) (unsigned : options.sign = false → signature = [])
    (nonceLength : draws.nonce.length = 12) (timeFits : time < 256 ^ 8)
    (flagged : options.duration.isSome = duration.isSome)
    (durationFits : ∀ seconds, duration = some seconds → seconds < 256 ^ 4)
    (nowFits : now < 2 ^ 62) (late : 60 ≤ now) :
    openPacket L
        (headerOf L options time ++ keyHint ++ signaturePart options signature ++
          keyPart L options aesKey draws.oaepSeed ++
          (draws.nonce ++ L.aesEncrypt (deriveMsgKey L aesKey draws.nonce) draws.nonce
            (innerOf time duration plaintext)
            (headerOf L options time ++ signaturePart options signature ++
              keyPart L options aesKey draws.oaepSeed)))
        openKey receiver (some (now : Int)) clock =
      (checkTime now time duration >>= fun _ => .ok
        { hybridSigned := (options.hybridKeys L).isSome
          rsaSigned := options.sign && !(options.hybridKeys L).isSome
          signature, time, duration, plaintext }) := by
  have selfDestruct : hasFlag (options.flags L) selfDestructFlag = duration.isSome := by
    rw [flags_eq, hasFlag_selfDestruct, flagged]
  have split := splitInner_innerOf (options.flags L) time duration plaintext selfDestruct timeFits
    durationFits
  have inner := readInner_packet (innerOf time duration plaintext) lawful matching sameKey keyed
    keyLength short nonceLength nowFits late
  unfold openPacket
  rw [List.append_assoc (headerOf L options time ++ keyHint ++ signaturePart options signature),
    readHeader_packet _ timeFits hint short unsigned]
  simp only [ok_bind, Option.getD_some, inner, split]
  rw [flags_eq, hasFlag_hybrid, hasFlag_sign]
  rfl

/-- The message may be read: before its end, or within the window. -/
def Fresh (time now : Nat) : Option Int → Prop
  | some seconds => (now : Int) ≤ time + seconds
  | none => ((now - time : Int).natAbs : Int) ≤ timeStep * windowSize

theorem checkTime_of_fresh {time now : Nat} {duration : Option Nat}
    (fresh : Fresh time now (duration.map Nat.cast)) : checkTime now time duration = .ok () := by
  cases duration with
  | none =>
      have near : ((now - time : Int).natAbs : Int) ≤ timeStep * windowSize := fresh
      rw [checkTime, if_neg (by omega)]
  | some seconds =>
      have before : (now : Int) ≤ time + (seconds : Int) := fresh
      rw [checkTime, if_neg (by omega)]

theorem checkTime_of_not_fresh {time now : Nat} {duration : Option Nat}
    (stale : ¬ Fresh time now (duration.map Nat.cast)) :
    ∃ message, checkTime now time duration = .error (.valueError message) := by
  cases duration with
  | none =>
      have far : ¬ ((now - time : Int).natAbs : Int) ≤ timeStep * windowSize := stale
      rw [checkTime, if_pos (by omega)]
      exact ⟨_, rfl⟩
  | some seconds =>
      have after : ¬ (now : Int) ≤ time + (seconds : Int) := stale
      rw [checkTime, if_pos (by omega)]
      exact ⟨_, rfl⟩

theorem innerBytes_eq {time : Nat} {duration : Option Nat} (plaintext : Bytes)
    (timeFits : time < 256 ^ 8) (durationFits : ∀ seconds, duration = some seconds → seconds < 256 ^ 4) :
    innerBytes time (duration.map Nat.cast) plaintext = .ok (innerOf time duration plaintext) := by
  unfold innerBytes innerOf
  rw [packUnsigned_natCast timeFits, ok_bind]
  cases duration with
  | none =>
      rw [Option.elim_none, List.append_nil]
      rfl
  | some seconds =>
      show (packUnsigned 4 ((seconds : Nat) : Int) >>= fun _ => _) = _
      rw [packUnsigned_natCast (durationFits seconds rfl)]
      rfl

/-- The duration that is packed, as the receiver reads it. -/
def EncryptOptions.seconds (options : EncryptOptions Priv Pub) : Option Nat :=
  options.duration.map Int.toNat

theorem duration_eq_seconds (options : EncryptOptions Priv Pub) :
    options.duration = options.seconds.map Nat.cast := by
  unfold EncryptOptions.seconds EncryptOptions.duration
  cases options.selfDestructSeconds with
  | none => rfl
  | some seconds =>
      by_cases positive : 0 < seconds
      · rw [Option.filter_some, if_pos (decide_eq_true positive), Option.map_some, Option.map_some]
        exact congrArg some (Int.toNat_of_nonneg (by omega)).symm
      · rw [Option.filter_some, if_neg (fun holds => positive (of_decide_eq_true holds))]
        rfl

theorem seconds_lt {options : EncryptOptions Priv Pub}
    (short : ∀ seconds, options.selfDestructSeconds = some seconds → seconds < 2 ^ 32) :
    ∀ seconds, options.seconds = some seconds → seconds < 256 ^ 4 := by
  intro seconds found
  obtain ⟨given, inside, rfl⟩ := Option.map_eq_some_iff.mp found
  obtain ⟨present, positive⟩ := Option.filter_eq_some_iff.mp inside
  have bound := short given present
  omega

/-- The hint of a packet under a shared secret. -/
def hintPart (L : MessageLibrary Priv Pub) (options : EncryptOptions Priv Pub) (constKey : Bytes) :
    Bytes :=
  if options.encryptForFriendPub.isSome then [] else (L.sha256 constKey).take 2

theorem messageKey_ok (lawful : L.Lawful) (options : EncryptOptions Priv Pub) {draws : EncryptDraws}
    (constKey : Bytes) {time : Nat} (timeFits : time < 2 ^ 63) (drawn : draws.aesKey.length = 32) :
    ∃ aesKey, messageKey L options draws constKey time = .ok (aesKey, hintPart L options constKey) ∧
      aesKey.length = 32 := by
  unfold messageKey hintPart
  cases options.encryptForFriendPub with
  | some pub => exact ⟨draws.aesKey, rfl, drawn⟩
  | none =>
      refine ⟨L.hkdf constKey (encodeUtf8 "enigma-time-key:" ++ packBE 8 (time / 30 * 30)), ?_,
        lawful.hkdf_length _ _⟩
      show (deriveTimeKey L constKey time >>= fun key => _) = _
      rw [deriveTimeKey_natCast constKey timeFits]
      rfl

theorem hintPart_length (lawful : L.Lawful) (options : EncryptOptions Priv Pub) (constKey : Bytes) :
    (hintPart L options constKey).length =
      if options.encryptForFriendPub.isSome then 0 else 2 := by
  unfold hintPart
  cases options.encryptForFriendPub with
  | some pub => rfl
  | none =>
      rw [Option.isSome_none, if_neg Bool.false_ne_true, if_neg Bool.false_ne_true,
        List.length_take, lawful.sha256_length]
      rfl

end Sealing

section Signing

variable {Priv Pub : Type} {L : MessageLibrary Priv Pub}

/-- The keys that a message is to be signed with are there, and the receiver has their public
parts. -/
structure Listed (L : MessageLibrary Priv Pub) (options : EncryptOptions Priv Pub)
    (draws : EncryptDraws) (friends : List (String × Pub))
    (friendsHybrid : List (String × Bytes × Bytes)) : Prop where
  hybrid {edPriv dilPriv : Bytes} (used : options.hybridKeys L = some (edPriv, dilPriv)) :
    ∃ name, (name, L.signatures.edPublic edPriv, L.signatures.dilPublic dilPriv) ∈ friendsHybrid
  signable {edPriv dilPriv : Bytes} (used : options.hybridKeys L = some (edPriv, dilPriv))
    (message : Bytes) :
    (HybridSigner.sign L.signatures message edPriv dilPriv draws.dilDraw).isSome = true
  rsa (unused : options.hybridKeys L = none) (signed : options.sign = true) :
    ∃ priv, options.myPriv = some priv ∧ ∃ name, (name, L.publicKey priv) ∈ friends

/-- The line that belongs to a message signed like this: it names an entry of the list under whose
key the signature verifies. -/
def BannerFor (L : MessageLibrary Priv Pub) (options : EncryptOptions Priv Pub)
    (friends : List (String × Pub)) (friendsHybrid : List (String × Bytes × Bytes))
    (signed signature : Bytes) (line : String) : Prop :=
  if (options.hybridKeys L).isSome then
    ∃ entry ∈ friendsHybrid, hybridVerify L signed signature entry.2.1 entry.2.2 = true ∧
      line = hybridVerified entry.1
  else if options.sign then
    ∃ entry ∈ friends, L.rsaVerify entry.2 signed signature = true ∧
      line = rsaVerified entry.1 (fingerprint L (encodeUtf8 (L.pubkeyToPem entry.2)))
  else line = ""

theorem exists_find?_of_mem {α : Type} {items : List α} (test : α → Bool) {item : α}
    (member : item ∈ items) (passes : test item = true) :
    ∃ found ∈ items, test found = true ∧ items.find? test = some found := by
  have some_found : (items.find? test).isSome = true :=
    List.find?_isSome.mpr ⟨item, member, passes⟩
  obtain ⟨found, lookup⟩ := Option.isSome_iff_exists.mp some_found
  exact ⟨found, List.mem_of_find?_eq_some lookup, List.find?_some lookup, lookup⟩

theorem available_of_hybridKeys {options : EncryptOptions Priv Pub} {keys : Bytes × Bytes}
    (used : options.hybridKeys L = some keys) : L.hybridSigAvailable = true := by
  unfold EncryptOptions.hybridKeys at used
  split at used
  · rename_i signed _ _
    exact (Bool.and_eq_true_iff.mp signed).2
  · cases used

theorem signInner_short (lawful : L.Lawful) {options : EncryptOptions Priv Pub}
    {draws : EncryptDraws} {inner signature : Bytes}
    (signed : signInner L options draws inner = .ok signature) :
    signature.length < 65536 ∧ (options.sign = false → signature = []) := by
  unfold signInner at signed
  cases keys : options.hybridKeys L with
  | some pair =>
      simp only [keys] at signed
      cases made : HybridSigner.sign L.signatures inner pair.1 pair.2 draws.dilDraw with
      | none =>
          simp only [made] at signed
          cases signed
      | some value =>
          simp only [made] at signed
          cases signed
          refine ⟨lawful.hybridSign_short made, ?_⟩
          intro unsigned
          rw [sign_of_hybridKeys keys] at unsigned
          cases unsigned
  | none =>
      simp only [keys] at signed
      cases signing : options.sign with
      | false =>
          simp only [signing] at signed
          cases signed
          exact ⟨by decide, fun _ => rfl⟩
      | true =>
          cases loaded : options.myPriv with
          | none =>
              simp only [signing, loaded] at signed
              cases signed
              exact ⟨by decide, fun _ => rfl⟩
          | some priv =>
              simp only [signing, loaded] at signed
              cases signed
              exact ⟨lawful.rsaSign_short _ _ _, fun unsigned => nomatch unsigned⟩

/-- The banner that the receiver makes of a signature. -/
theorem bannerFor_banner (lawful : L.Lawful) {options : EncryptOptions Priv Pub}
    {draws : EncryptDraws} {friends : List (String × Pub)}
    {friendsHybrid : List (String × Bytes × Bytes)}
    (hybrid : ∀ {edPriv dilPriv : Bytes}, options.hybridKeys L = some (edPriv, dilPriv) →
      ∃ name, (name, L.signatures.edPublic edPriv, L.signatures.dilPublic dilPriv) ∈ friendsHybrid)
    (rsa : options.hybridKeys L = none → options.sign = true →
      ∃ priv, options.myPriv = some priv ∧ ∃ name, (name, L.publicKey priv) ∈ friends)
    {time : Nat} {duration : Option Nat} {plaintext signature : Bytes}
    (signed : signInner L options draws (innerOf time duration plaintext) = .ok signature) :
    BannerFor L options friends friendsHybrid (innerOf time duration plaintext) signature
      (banner L friends friendsHybrid
        { hybridSigned := (options.hybridKeys L).isSome
          rsaSigned := options.sign && !(options.hybridKeys L).isSome
          signature, time, duration, plaintext }) := by
  unfold signInner at signed
  unfold BannerFor banner
  cases keys : options.hybridKeys L with
  | some pair =>
      obtain ⟨edPriv, dilPriv⟩ := pair
      simp only [keys] at signed
      cases made : HybridSigner.sign L.signatures (innerOf time duration plaintext) edPriv dilPriv
        draws.dilDraw with
      | none =>
          simp only [made] at signed
          cases signed
      | some value =>
          simp only [made] at signed
          cases signed
          obtain ⟨name, member⟩ := hybrid keys
          have verified : hybridVerify L (innerOf time duration plaintext) signature
              (L.signatures.edPublic edPriv) (L.signatures.dilPublic dilPriv) = true := by
            rw [hybridVerify, available_of_hybridKeys keys, lawful.signatures.edPublic_length,
              HybridSigner.verify_sign lawful.signatures made]
            rfl
          obtain ⟨entry, inside, passes, lookup⟩ := exists_find?_of_mem
            (fun entry : String × Bytes × Bytes =>
              hybridVerify L (innerOf time duration plaintext) signature entry.2.1 entry.2.2)
            member verified
          refine ⟨entry, inside, passes, ?_⟩
          unfold innerOf at lookup
          simp only [Option.isSome_some, if_true, Opened.signedData, lookup]
  | none =>
      simp only [keys] at signed
      cases signing : options.sign with
      | false => rfl
      | true =>
          obtain ⟨priv, present, name, member⟩ := rsa keys signing
          simp only [signing, present] at signed
          cases signed
          obtain ⟨entry, inside, passes, lookup⟩ := exists_find?_of_mem
            (fun entry : String × Pub => L.rsaVerify entry.2
              (innerOf time duration plaintext)
              (L.rsaSign priv (innerOf time duration plaintext) draws.pssSalt))
            member (lawful.rsa_verifies priv _ _)
          refine ⟨entry, inside, passes, ?_⟩
          unfold innerOf at lookup ⊢
          simp only [Option.isSome_none, Bool.false_eq_true, if_false, Bool.not_false, Bool.and_true,
            if_true, Opened.signedData, lookup]

/-- What signing gives, and the banner that the receiver makes of it. -/
theorem signInner_ok (lawful : L.Lawful) {options : EncryptOptions Priv Pub} {draws : EncryptDraws}
    {friends : List (String × Pub)} {friendsHybrid : List (String × Bytes × Bytes)}
    (listed : Listed L options draws friends friendsHybrid) (time : Nat) (duration : Option Nat)
    (plaintext : Bytes) :
    ∃ signature, signInner L options draws (innerOf time duration plaintext) = .ok signature ∧
      signature.length < 65536 ∧ (options.sign = false → signature = []) ∧
      BannerFor L options friends friendsHybrid (innerOf time duration plaintext) signature
        (banner L friends friendsHybrid
          { hybridSigned := (options.hybridKeys L).isSome
            rsaSigned := options.sign && !(options.hybridKeys L).isSome
            signature, time, duration, plaintext }) := by
  have made : ∃ signature, signInner L options draws (innerOf time duration plaintext) =
      .ok signature := by
    unfold signInner
    cases keys : options.hybridKeys L with
    | some pair =>
        obtain ⟨signature, produced⟩ := Option.isSome_iff_exists.mp
          (listed.signable keys (innerOf time duration plaintext))
        exact ⟨signature, by simp only [produced]⟩
    | none =>
        cases options.sign with
        | false => exact ⟨[], rfl⟩
        | true =>
            cases options.myPriv with
            | none => exact ⟨[], rfl⟩
            | some priv => exact ⟨_, rfl⟩
  obtain ⟨signature, signed⟩ := made
  obtain ⟨short, unsigned⟩ := signInner_short lawful signed
  exact ⟨signature, signed, short, unsigned,
    bannerFor_banner lawful listed.hybrid listed.rsa signed⟩

theorem decodeText_encodeUtf8 (text : String) : decodeText (encodeUtf8 text) = text := by
  rw [decodeText, decodeUtf8_encodeUtf8, Option.getD_some]

/-- What encryption gives, and how far it can be read. -/
theorem openPacket_encryptMessage (lawful : L.Lawful) {options : EncryptOptions Priv Pub}
    {draws : EncryptDraws} {receiver : Option Priv} {friends : List (String × Pub)}
    {friendsHybrid : List (String × Bytes × Bytes)} {time now : Nat} {constKey openKey : Bytes}
    (plaintext : Bytes) (clock : Int)
    (matching : options.encryptForFriendPub = receiver.map L.publicKey)
    (sameKey : receiver = none → openKey = constKey)
    (keyDrawn : draws.aesKey.length = 32) (nonceDrawn : draws.nonce.length = 12)
    (secondsFit : ∀ seconds, options.selfDestructSeconds = some seconds → seconds < 2 ^ 32)
    (listed : Listed L options draws friends friendsHybrid) (timeFits : time < 2 ^ 62)
    (late : 60 ≤ now) (nowFits : now < 2 ^ 62) :
    ∃ rest packet opened, packet = headerOf L options time ++ hintPart L options constKey ++ rest ∧
      encryptMessage L options plaintext constKey (time : Int) draws = .ok (packet, time) ∧
      signInner L options draws opened.signedData = .ok opened.signature ∧
      BannerFor L options friends friendsHybrid opened.signedData opened.signature
        (banner L friends friendsHybrid opened) ∧
      opened.time = time ∧ opened.duration = options.seconds ∧ opened.plaintext = plaintext ∧
      opened.hybridSigned = (options.hybridKeys L).isSome ∧
      opened.rsaSigned = (options.sign && !(options.hybridKeys L).isSome) ∧
      openPacket L packet openKey receiver (some (now : Int)) clock =
        (checkTime now time options.seconds >>= fun _ => .ok opened) := by
  have wide : time < 256 ^ 8 := by omega
  have given := duration_eq_seconds options
  have durationFits := seconds_lt secondsFit
  obtain ⟨aesKey, keyed, keyLength⟩ :=
    messageKey_ok lawful options constKey (by omega : time < 2 ^ 63) keyDrawn
  have hint := hintPart_length lawful options constKey
  have made := innerBytes_eq plaintext wide durationFits
  rw [← given] at made
  obtain ⟨signature, signed, short, unsigned, line⟩ :=
    signInner_ok lawful listed time options.seconds plaintext
  have flagged : options.duration.isSome = options.seconds.isSome := by
    rw [given, Option.isSome_map]
  have reading := openPacket_packet plaintext lawful clock matching sameKey keyed keyLength hint
    short unsigned nonceDrawn wide flagged durationFits nowFits late
  have encrypted := encryptMessage_eq lawful wide keyed keyLength made signed short
  have front : headerOf L options time ++ hintPart L options constKey ++
      signaturePart options signature ++ keyPart L options aesKey draws.oaepSeed ++
        (draws.nonce ++ L.aesEncrypt (deriveMsgKey L aesKey draws.nonce) draws.nonce
          (innerOf time options.seconds plaintext)
          (headerOf L options time ++ signaturePart options signature ++
            keyPart L options aesKey draws.oaepSeed)) =
      headerOf L options time ++ hintPart L options constKey ++ (signaturePart options signature ++
        keyPart L options aesKey draws.oaepSeed ++
          (draws.nonce ++ L.aesEncrypt (deriveMsgKey L aesKey draws.nonce) draws.nonce
            (innerOf time options.seconds plaintext)
            (headerOf L options time ++ signaturePart options signature ++
              keyPart L options aesKey draws.oaepSeed))) := by
    simp only [List.append_assoc]
  exact ⟨_, _, {
    hybridSigned := (options.hybridKeys L).isSome
    rsaSigned := options.sign && !(options.hybridKeys L).isSome
    signature
    time
    duration := options.seconds
    plaintext }, front, encrypted, signed, line, rfl, rfl, rfl, rfl, rfl, reading⟩

/-- A message is read as it was written, behind the line of its signature, while it is fresh, and
is refused otherwise. -/
theorem decryptMessage_encryptMessage (lawful : L.Lawful) {options : EncryptOptions Priv Pub}
    {draws : EncryptDraws} {receiver : Option Priv} {friends : List (String × Pub)}
    {friendsHybrid : List (String × Bytes × Bytes)} {time now : Nat} (text : String)
    (constKey : Bytes) (clock : Int)
    (matching : options.encryptForFriendPub = receiver.map L.publicKey)
    (keyDrawn : draws.aesKey.length = 32) (nonceDrawn : draws.nonce.length = 12)
    (secondsFit : ∀ seconds, options.selfDestructSeconds = some seconds → seconds < 2 ^ 32)
    (listed : Listed L options draws friends friendsHybrid) (timeFits : time < 2 ^ 62)
    (late : 60 ≤ now) (nowFits : now < 2 ^ 62) :
    ∃ packet signature,
      encryptMessage L options (encodeUtf8 text) constKey (time : Int) draws =
        .ok (packet, time) ∧
      signInner L options draws (innerOf time options.seconds (encodeUtf8 text)) = .ok signature ∧
      (Fresh time now options.duration →
        ∃ line, BannerFor L options friends friendsHybrid
            (innerOf time options.seconds (encodeUtf8 text)) signature line ∧
          decryptMessage L packet constKey receiver friends (some (now : Int)) clock friendsHybrid =
            .ok (line ++ text)) ∧
      (¬ Fresh time now options.duration →
        ∃ message,
          decryptMessage L packet constKey receiver friends (some (now : Int)) clock friendsHybrid =
            .error (.valueError message)) := by
  obtain ⟨_, packet, opened, _, encrypted, signed, line, sameTime, sameDuration, samePlaintext,
    _, _, reading⟩ := openPacket_encryptMessage lawful (encodeUtf8 text) clock matching
      (fun _ => rfl) keyDrawn nonceDrawn secondsFit listed timeFits late nowFits
  have bytes : opened.signedData = innerOf time options.seconds (encodeUtf8 text) := by
    rw [Opened.signedData, sameTime, sameDuration, samePlaintext, innerOf]
  rw [bytes] at signed line
  rw [duration_eq_seconds options]
  refine ⟨packet, opened.signature, encrypted, signed, ?_, ?_⟩
  · intro fresh
    refine ⟨banner L friends friendsHybrid opened, line, ?_⟩
    rw [decryptMessage, reading, checkTime_of_fresh fresh, ok_bind, ok_bind, samePlaintext,
      decodeText_encodeUtf8]
    rfl
  · intro stale
    obtain ⟨message, refused⟩ := checkTime_of_not_fresh stale
    refine ⟨message, ?_⟩
    rw [decryptMessage, reading, refused]
    rfl

end Signing

section Example

/-- The front of a toy ciphertext, which the key and the associated data have to match. -/
def toySeal (key aad : Bytes) : Bytes :=
  List.replicate 16 0 ++ KeyStore.toyMark key ++ KeyStore.toyMark aad

/-- Libraries small enough to run; a public key is the front of its private key. -/
def toyMessages : MessageLibrary Bytes Bytes where
  hkdf secret info := (secret ++ info ++ List.replicate 32 0).take 32
  sha256 data := (data ++ List.replicate 32 0).take 32
  aesEncrypt key _ plaintext aad := toySeal key aad ++ plaintext
  aesDecrypt key _ ct aad :=
    if toySeal key aad <+: ct then some (ct.drop (toySeal key aad).length) else none
  publicKey priv := priv.take 100
  rsaEncrypt pub message _ := (pub ++ message).take 1000
  rsaDecrypt priv ct :=
    if priv.take 100 <+: ct then some (ct.drop (priv.take 100).length) else none
  rsaSign priv data _ := (priv.take 100 ++ data).take 1000
  rsaVerify pub data signature := signature = (pub ++ data).take 1000
  pubkeyToPem _ := "pem"
  hybridSigAvailable := true
  signatures := toySignatures

theorem toyMessages_lawful : toyMessages.Lawful where
  hkdf_length secret info := by
    show ((secret ++ info ++ List.replicate 32 0).take 32).length = 32
    rw [List.length_take, List.length_append, List.length_replicate]
    omega
  sha256_length data := by
    show ((data ++ List.replicate 32 0).take 32).length = 32
    rw [List.length_take, List.length_append, List.length_replicate]
    omega
  aes_opens key nonce plaintext aad := by
    show (if toySeal key aad <+: toySeal key aad ++ plaintext then
      some ((toySeal key aad ++ plaintext).drop (toySeal key aad).length) else none) = _
    rw [if_pos (List.prefix_append _ _), List.drop_left]
  aes_tag key nonce plaintext aad := by
    show 16 ≤ (List.replicate 16 0 ++ KeyStore.toyMark key ++ KeyStore.toyMark aad ++
      plaintext).length
    simp only [List.length_append, List.length_replicate]
    omega
  rsa_opens priv message seed size := by
    have short : (priv.take 100 ++ message).length ≤ 1000 := by
      have front := List.length_take_le 100 priv
      rw [List.length_append, size, aesKeySize]
      omega
    show (if priv.take 100 <+: (priv.take 100 ++ message).take 1000 then
      some (((priv.take 100 ++ message).take 1000).drop (priv.take 100).length) else none) = _
    rw [List.take_of_length_le short, if_pos (List.prefix_append _ _), List.drop_left]
  rsa_short pub message seed :=
    Nat.lt_of_le_of_lt (List.length_take_le 1000 (pub ++ message)) (by omega)
  rsa_verifies priv data salt := decide_eq_true rfl
  rsaSign_short priv data salt :=
    Nat.lt_of_le_of_lt (List.length_take_le 1000 (priv.take 100 ++ data)) (by omega)
  signatures := toySignatures_lawful
  hybridSign_short made := toySignatures_short made

/-- A message for a friend's RSA key with a hybrid signature and ten seconds to live. -/
def toyOptions : EncryptOptions Bytes Bytes where
  sign := true
  myPriv := some [3]
  encryptForFriendPub := some [4]
  selfDestructSeconds := some 10
  hybridEdPriv := some [5]
  hybridDilPriv := some [6]

def toyDraws : EncryptDraws where
  aesKey := List.replicate 32 1
  nonce := List.replicate 12 2
  oaepSeed := []
  pssSalt := []
  dilDraw := []

theorem toyOptions_listed :
    Listed toyMessages toyOptions toyDraws [("alice", [3])]
      [("alice", toySignatures.edPublic [5], toySignatures.dilPublic [6])] where
  hybrid used := by
    cases used
    exact ⟨"alice", List.mem_singleton.mpr rfl⟩
  signable used message := by
    cases used
    rfl
  rsa unused := by cases unused

/-- It is read at its last moment. -/
theorem toyOptions_roundTrip :
    ∃ packet line, encryptMessage toyMessages toyOptions (encodeUtf8 "hi") [] (100 : Nat) toyDraws =
        .ok (packet, (100 : Nat)) ∧
      decryptMessage toyMessages packet [] (some [4]) [("alice", [3])] (some (110 : Nat)) 0
        [("alice", toySignatures.edPublic [5], toySignatures.dilPublic [6])] =
        .ok (line ++ "hi") := by
  have seconds : ∀ seconds, toyOptions.selfDestructSeconds = some seconds → seconds < 2 ^ 32 := by
    intro seconds given
    cases given
    omega
  have matching : toyOptions.encryptForFriendPub =
      (some ([4] : Bytes)).map toyMessages.publicKey := rfl
  obtain ⟨packet, signature, encrypted, _, read, _⟩ :=
    decryptMessage_encryptMessage toyMessages_lawful "hi" [] 0 matching rfl rfl seconds
      toyOptions_listed (by omega : 100 < 2 ^ 62) (by omega : 60 ≤ 110) (by omega)
  have fresh : Fresh 100 110 toyOptions.duration := by
    show ((110 : Nat) : Int) ≤ (100 : Nat) + 10
    omega
  obtain ⟨line, _, decrypted⟩ := read fresh
  exact ⟨packet, line, encrypted, decrypted⟩

end Example

end UltimateEnigma.Crypto
