import UltimateEnigma.LegacyRoundTrip

set_option autoImplicit false

namespace UltimateEnigma.Crypto

open Py

variable {Priv Pub : Type} {L : MessageLibrary Priv Pub}

/-- A ciphertext opens to nothing but what was sealed in it, whichever key and header are tried. -/
def MessageLibrary.Authentic (L : MessageLibrary Priv Pub) : Prop :=
  ∀ {key other nonce plaintext aad otherAad opened : Bytes},
    L.aesDecrypt other nonce (L.aesEncrypt key nonce plaintext aad) otherAad = some opened →
      opened = plaintext

/-- The attempt failed, or it gave this value. -/
def OnlyOpens {α : Type} (attempt : Except Raised α) (value : α) : Prop :=
  ∀ found, attempt = .ok found → found = value

theorem OnlyOpens.bind {α β : Type} {attempt : Except Raised α} {value : α}
    (only : OnlyOpens attempt value) {next : α → Except Raised β} {result : β}
    (success : attempt >>= next = .ok result) : next value = .ok result := by
  obtain ⟨found, opened, rest⟩ := ok_of_bind success
  rw [only found opened] at rest
  exact rest

theorem aesGcmDecrypt_onlyOpens (authentic : L.Authentic) (key other plaintext aad otherAad : Bytes)
    {nonce : Bytes} (nonceLength : nonce.length = 12) :
    OnlyOpens (aesGcmDecrypt L other
      (nonce ++ L.aesEncrypt (deriveMsgKey L key nonce) nonce plaintext aad) otherAad)
        plaintext := by
  intro found opened
  have front : (nonce ++ L.aesEncrypt (deriveMsgKey L key nonce) nonce plaintext aad).take
      nonceSize = nonce := List.take_left' nonceLength
  have back : (nonce ++ L.aesEncrypt (deriveMsgKey L key nonce) nonce plaintext aad).drop
      nonceSize = L.aesEncrypt (deriveMsgKey L key nonce) nonce plaintext aad :=
    List.drop_left' nonceLength
  unfold aesGcmDecrypt at opened
  rw [front, back] at opened
  split at opened
  · cases opened
  obtain ⟨_, _, opened⟩ := ok_of_bind opened
  split at opened
  · rename_i decrypted
    cases opened
    exact authentic decrypted
  · cases opened

/-- Every candidate that opens finds the same bytes. -/
theorem tryCandidates_onlyOpens (authentic : L.Authentic)
    (constKey key plaintext aad otherAad : Bytes) {nonce : Bytes} (nonceLength : nonce.length = 12)
    (times : List Int) {found : Option Bytes}
    (before : ∀ inner, found = some inner → inner = plaintext) {inner : Bytes}
    (tried : tryCandidates L constKey
      (nonce ++ L.aesEncrypt (deriveMsgKey L key nonce) nonce plaintext aad) otherAad times found =
        .ok (some inner)) : inner = plaintext := by
  induction times generalizing found with
  | nil =>
      cases tried
      exact before inner rfl
  | cons time rest ih =>
      rw [tryCandidates] at tried
      obtain ⟨timeKey, _, tried⟩ := ok_of_bind tried
      split at tried
      · rename_i opened decrypted
        refine ih ?_ tried
        intro other chosen
        cases found with
        | some first =>
            cases chosen
            exact before other rfl
        | none =>
            cases chosen
            exact aesGcmDecrypt_onlyOpens authentic key _ plaintext aad otherAad nonceLength opened
              decrypted
      · exact ih before tried

theorem readInner_onlyOpens (authentic : L.Authentic) (lawful : L.Lawful)
    (options : EncryptOptions Priv Pub) (draws : EncryptDraws) (openKey aesKey inner : Bytes)
    {signature : Bytes} (receiver : Option Priv) (time : Nat) (now : Int)
    (short : signature.length < 65536) (nonceLength : draws.nonce.length = 12) :
    OnlyOpens (readInner L openKey receiver now (options.flags L) time signature
      (keyPart L options aesKey draws.oaepSeed ++
        (draws.nonce ++ L.aesEncrypt (deriveMsgKey L aesKey draws.nonce) draws.nonce inner
          (headerOf L options time ++ signaturePart options signature ++
            keyPart L options aesKey draws.oaepSeed)))) inner := by
  intro found opened
  unfold readInner at opened
  rw [headerAad_eq time short, ok_bind, flags_eq, hasFlag_friend] at opened
  cases friend : options.encryptForFriendPub with
  | none =>
      have noKey : keyPart L options aesKey draws.oaepSeed = [] := by
        rw [keyPart, friend]
        rfl
      rw [noKey, List.nil_append, List.append_nil, friend, Option.isSome_none,
        if_neg Bool.false_ne_true] at opened
      unfold decryptWithWindow at opened
      obtain ⟨tried, attempt, opened⟩ := ok_of_bind opened
      cases tried with
      | none => cases opened
      | some chosen =>
          cases opened
          have nothing : ∀ first, (none : Option Bytes) = some first → first = inner := by
            intro first impossible
            cases impossible
          exact tryCandidates_onlyOpens authentic openKey aesKey inner _ _ nonceLength _ nothing
            attempt
  | some pub =>
      have framedKey : keyPart L options aesKey draws.oaepSeed =
          framed (L.rsaEncrypt pub aesKey draws.oaepSeed) := by
        rw [keyPart, friend]
        rfl
      have keyShort := lawful.rsa_short pub aesKey draws.oaepSeed
      rw [framedKey, friend, Option.isSome_some, if_pos rfl] at opened
      cases receiver with
      | none => cases opened
      | some priv =>
          simp only [unpackBytes_framed _ _ keyShort, ok_bind, packBytes_short keyShort] at opened
          split at opened
          · cases opened
          · exact aesGcmDecrypt_onlyOpens authentic aesKey _ inner _ _ nonceLength found opened

/-- What a packet is made of. -/
structure Sealed (L : MessageLibrary Priv Pub) (options : EncryptOptions Priv Pub)
    (draws : EncryptDraws) (constKey plaintext : Bytes) (time : Nat) (packet aesKey signature : Bytes) :
    Prop where
  keyed : messageKey L options draws constKey time = .ok (aesKey, hintPart L options constKey)
  keyLength : aesKey.length = 32
  signed : signInner L options draws (innerOf time options.seconds plaintext) = .ok signature
  short : signature.length < 65536
  unsigned : options.sign = false → signature = []
  secondsFit : ∀ seconds, options.seconds = some seconds → seconds < 256 ^ 4
  packet_eq : packet = headerOf L options time ++ hintPart L options constKey ++
    signaturePart options signature ++ keyPart L options aesKey draws.oaepSeed ++
      (draws.nonce ++ L.aesEncrypt (deriveMsgKey L aesKey draws.nonce) draws.nonce
        (innerOf time options.seconds plaintext)
        (headerOf L options time ++ signaturePart options signature ++
          keyPart L options aesKey draws.oaepSeed))

theorem packUnsigned_ok {width : Nat} {value : Int} {packed : Bytes}
    (success : packUnsigned width value = .ok packed) : 0 ≤ value ∧ value < 256 ^ width := by
  unfold packUnsigned at success
  split at success
  · assumption
  · cases success

/-- A duration that was packed fits. -/
theorem seconds_fit {options : EncryptOptions Priv Pub} {time : Nat} {plaintext inner : Bytes}
    (timeFits : time < 256 ^ 8) (made : innerBytes time options.duration plaintext = .ok inner) :
    ∀ seconds, options.seconds = some seconds → seconds < 256 ^ 4 := by
  intro seconds found
  rw [duration_eq_seconds, found] at made
  unfold innerBytes at made
  rw [packUnsigned_natCast timeFits, ok_bind, Option.map_some] at made
  obtain ⟨packed, success, _⟩ := ok_of_bind made
  have bounds := packUnsigned_ok success
  exact_mod_cast bounds.2

/-- Encryption looks at the whole seconds alone. -/
theorem encryptMessage_toInt (options : EncryptOptions Priv Pub) (plaintext constKey : Bytes)
    (timestamp : Rat) (draws : EncryptDraws) :
    encryptMessage L options plaintext constKey timestamp draws =
      encryptMessage L options plaintext constKey ((toInt timestamp : Int) : Rat) draws := by
  rw [encryptMessage, encryptMessage, toInt_intCast]

theorem returned_front {sealing : Except Raised Bytes} {header : Bytes → Bytes} {first : UInt8}
    {time : Int} {sent : Bytes × Int}
    (made : (do
      let ciphertext ← sealing
      return (first :: header ciphertext, time)) = .ok sent) : ∃ rest, sent = (first :: rest, time) := by
  obtain ⟨ciphertext, _, made⟩ := ok_of_bind made
  cases made
  exact ⟨header ciphertext, rfl⟩

/-- A message begins with its flags, and is stamped with the whole seconds of the reading. -/
theorem encryptMessage_front {options : EncryptOptions Priv Pub} {plaintext constKey : Bytes}
    {timestamp : Rat} {draws : EncryptDraws} {sent : Bytes × Int}
    (made : encryptMessage L options plaintext constKey timestamp draws = .ok sent) :
    ∃ rest, sent = (UInt8.ofNat (options.flags L) :: rest, toInt timestamp) := by
  unfold encryptMessage at made
  obtain ⟨⟨aesKey, keyHint⟩, _, made⟩ := ok_of_bind made
  obtain ⟨inner, _, made⟩ := ok_of_bind made
  obtain ⟨signature, _, made⟩ := ok_of_bind made
  obtain ⟨outerTime, _, made⟩ := ok_of_bind made
  -- Signed or not, and for a friend or not, the packet is returned with the same front.
  dsimp only at made
  split at made
  · obtain ⟨packedSignature, _, made⟩ := ok_of_bind made
    split at made
    · obtain ⟨packedKey, _, made⟩ := ok_of_bind made
      exact returned_front made
    · exact returned_front made
  · rw [ok_bind] at made
    split at made
    · obtain ⟨packedKey, _, made⟩ := ok_of_bind made
      exact returned_front made
    · exact returned_front made

theorem encryptMessage_time {options : EncryptOptions Priv Pub} {plaintext constKey : Bytes}
    {timestamp : Rat} {draws : EncryptDraws} {sent : Bytes × Int}
    (made : encryptMessage L options plaintext constKey timestamp draws = .ok sent) :
    sent.2 = toInt timestamp := by
  obtain ⟨rest, same⟩ := encryptMessage_front made
  rw [same]

/-- A message that was encrypted is sealed. -/
theorem sealed_of_encryptMessage (lawful : L.Lawful) {options : EncryptOptions Priv Pub}
    {draws : EncryptDraws} {plaintext constKey packet : Bytes} {time : Nat} {stamped : Int}
    (drawn : draws.aesKey.length = 32) (timeFits : time < 2 ^ 62)
    (made : encryptMessage L options plaintext constKey ((time : Nat) : Int) draws =
      .ok (packet, stamped)) :
    stamped = time ∧ ∃ aesKey signature,
      Sealed L options draws constKey plaintext time packet aesKey signature := by
  have wide : time < 256 ^ 8 := by omega
  obtain ⟨aesKey, keyed, keyLength⟩ :=
    messageKey_ok lawful options constKey (by omega : time < 2 ^ 63) drawn
  have parts := made
  unfold encryptMessage at parts
  rw [toInt_intCast, keyed, ok_bind] at parts
  obtain ⟨inner, packed, parts⟩ := ok_of_bind parts
  obtain ⟨signature, signed, _⟩ := ok_of_bind parts
  have fits := seconds_fit wide packed
  have whole := innerBytes_eq plaintext wide fits
  rw [← duration_eq_seconds, packed] at whole
  cases whole
  obtain ⟨short, unsigned⟩ := signInner_short lawful signed
  rw [encryptMessage_eq lawful wide keyed keyLength packed signed short] at made
  cases made
  exact ⟨rfl, aesKey, signature, keyed, keyLength, signed, short, unsigned, fits, rfl⟩

section Opening

variable {options : EncryptOptions Priv Pub} {draws : EncryptDraws}
variable {constKey plaintext packet aesKey signature : Bytes} {time : Nat}

/-- What reading a sealed packet finds. -/
def openedOf (L : MessageLibrary Priv Pub) (options : EncryptOptions Priv Pub) (time : Nat)
    (plaintext signature : Bytes) : Opened where
  hybridSigned := (options.hybridKeys L).isSome
  rsaSigned := options.sign && !(options.hybridKeys L).isSome
  signature := signature
  time := time
  duration := options.seconds
  plaintext := plaintext

/-- With the right key a sealed packet opens, as far as its time allows. -/
theorem Sealed.opens (lawful : L.Lawful)
    (sealing : Sealed L options draws constKey plaintext time packet aesKey signature)
    (nonceLength : draws.nonce.length = 12) (timeFits : time < 2 ^ 62) {receiver : Option Priv}
    {openKey : Bytes} {now : Nat} (clock : Int)
    (matching : options.encryptForFriendPub = receiver.map L.publicKey)
    (sameKey : receiver = none → openKey = constKey) (nowFits : now < 2 ^ 62) (late : 60 ≤ now) :
    openPacket L packet openKey receiver (some (now : Int)) clock =
      (checkTime now time options.seconds >>= fun _ =>
        .ok (openedOf L options time plaintext signature)) := by
  have flagged : options.duration.isSome = options.seconds.isSome := by
    rw [duration_eq_seconds options, Option.isSome_map]
  rw [sealing.packet_eq]
  exact openPacket_packet plaintext lawful clock matching sameKey sealing.keyed sealing.keyLength
    (hintPart_length lawful options constKey) sealing.short sealing.unsigned nonceLength (by omega)
    flagged sealing.secondsFit nowFits late

/-- With any key whatever it opens to nothing else, and only while its time allows. -/
theorem Sealed.onlyOpens (authentic : L.Authentic) (lawful : L.Lawful)
    (sealing : Sealed L options draws constKey plaintext time packet aesKey signature)
    (nonceLength : draws.nonce.length = 12) (timeFits : time < 2 ^ 62) {receiver : Option Priv}
    {openKey : Bytes} {now : Option Int} {clock : Int} {opened : Opened}
    (success : openPacket L packet openKey receiver now clock = .ok opened) :
    opened = openedOf L options time plaintext signature ∧
      checkTime (now.getD clock) time options.seconds = .ok () := by
  have wide : time < 256 ^ 8 := by omega
  have selfDestruct : hasFlag (options.flags L) selfDestructFlag = options.seconds.isSome := by
    rw [flags_eq, hasFlag_selfDestruct, duration_eq_seconds options, Option.isSome_map]
  rw [sealing.packet_eq] at success
  unfold openPacket at success
  rw [List.append_assoc (headerOf L options time ++ hintPart L options constKey ++
    signaturePart options signature), readHeader_packet _ wide
    (hintPart_length lawful options constKey) sealing.short sealing.unsigned] at success
  have only := readInner_onlyOpens authentic lawful options draws openKey aesKey
    (innerOf time options.seconds plaintext) receiver time (now.getD clock) sealing.short nonceLength
  rw [ok_bind] at success
  have behind := only.bind success
  rw [splitInner_innerOf (options.flags L) time options.seconds plaintext selfDestruct wide
    sealing.secondsFit, ok_bind] at behind
  obtain ⟨_, passes, made⟩ := ok_of_bind behind
  cases made
  refine ⟨?_, passes⟩
  rw [openedOf, flags_eq, hasFlag_hybrid, hasFlag_sign]

end Opening

end UltimateEnigma.Crypto
