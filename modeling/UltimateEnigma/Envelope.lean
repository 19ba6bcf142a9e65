import UltimateEnigma.LegacyRoundTrip

set_option autoImplicit false

namespace UltimateEnigma.Envelope

open Py Crypto

def ratchetEnvelopeMagic : UInt8 := 0xD0

def pqcEnvelopeMagic : UInt8 := 0x50

/-- `0x` and two upper-case digits. -/
def formatByte (byte : UInt8) : String :=
  "0x" ++ String.ofList [digit (byte.toNat / 16), digit (byte.toNat % 16)]
where
  digit (value : Nat) : Char := "0123456789ABCDEF".toList.getD value '0'

/-- `0xD0 | name_len | name | hdr_len | header | ciphertext`. -/
structure RatchetEnvelope where
  senderName : String
  header : Bytes
  ciphertext : Bytes
deriving DecidableEq, Repr

/-- `0x50 | kem_ct_len | kem_ciphertext | nonce | aes_ciphertext`. -/
structure PqcEnvelope where
  kemCiphertext : Bytes
  nonce : Bytes
  aesCiphertext : Bytes
deriving DecidableEq, Repr

namespace RatchetEnvelope

def build (envelope : RatchetEnvelope) : Except Raised Bytes :=
  let nameBytes := encodeUtf8 envelope.senderName
  if 255 < nameBytes.length then
    .error (.valueError ("Sender name too long for ratchet envelope (" ++
      toString nameBytes.length ++ " bytes, max 255)."))
  else do
    let packedHeader ← packBytes envelope.header
    return ratchetEnvelopeMagic :: UInt8.ofNat nameBytes.length ::
      (nameBytes ++ packedHeader ++ envelope.ciphertext)

/-- What follows the name. -/
def parseBody (senderName : String) (rest : Bytes) : Except Raised RatchetEnvelope :=
  let headerLen := unpackBE (rest.take 2)
  let body := rest.drop 2
  if rest.length < 2 then
    .error (.valueError "Ratchet envelope truncated at header length.")
  else if body.length < headerLen then
    .error (.valueError "Ratchet envelope truncated at header.")
  else if (body.drop headerLen).isEmpty then
    .error (.valueError "Ratchet envelope contains empty ciphertext.")
  else .ok { senderName, header := body.take headerLen, ciphertext := body.drop headerLen }

def parse (packet : Bytes) : Except Raised RatchetEnvelope :=
  match packet with
  | magic :: nameLen :: rest =>
      if packet.length < 4 then .error (.valueError "Ratchet envelope too short.")
      else if magic ≠ ratchetEnvelopeMagic then
        .error (.valueError ("Invalid ratchet envelope magic: expected 0xD0, got " ++
          formatByte magic ++ "."))
      else if rest.length < nameLen.toNat then
        .error (.valueError "Ratchet envelope truncated at sender name.")
      else
        match decodeUtf8 (rest.take nameLen.toNat) with
        | none =>
            .error (.valueError "Ratchet envelope contains invalid UTF-8 sender name.")
        | some senderName =>
            if senderName = "" then
              .error (.valueError "Ratchet envelope contains empty sender name.")
            else parseBody senderName (rest.drop nameLen.toNat)
  | _ => .error (.valueError "Ratchet envelope too short.")

theorem build_ok {envelope : RatchetEnvelope} {packet : Bytes}
    (built : envelope.build = .ok packet) :
    (encodeUtf8 envelope.senderName).length ≤ 255 ∧ envelope.header.length < 65536 ∧
      packet = ratchetEnvelopeMagic :: UInt8.ofNat (encodeUtf8 envelope.senderName).length ::
        (encodeUtf8 envelope.senderName ++ (framed envelope.header ++ envelope.ciphertext)) := by
  unfold build packBytes at built
  by_cases long : 255 < (encodeUtf8 envelope.senderName).length
  · rw [if_pos long] at built
    cases built
  by_cases short : envelope.header.length < 65536
  · rw [if_neg long, if_pos short] at built
    cases built
    refine ⟨by omega, short, ?_⟩
    simp only [framed, List.append_assoc]
  · rw [if_neg long, if_neg short] at built
    cases built

/-- A packet that was built is parsed to what it was built from. -/
theorem parse_build {envelope : RatchetEnvelope} {packet : Bytes}
    (built : envelope.build = .ok packet) (named : envelope.senderName ≠ "")
    (filled : envelope.ciphertext ≠ []) : parse packet = .ok envelope := by
  obtain ⟨short, headerShort, rfl⟩ := build_ok built
  unfold framed
  have nameSize : (UInt8.ofNat (encodeUtf8 envelope.senderName).length).toNat =
      (encodeUtf8 envelope.senderName).length := by
    rw [UInt8.toNat_ofNat']
    exact Nat.mod_eq_of_lt (by omega)
  have headerFits : envelope.header.length < 256 ^ 2 := by omega
  have behindName (rest : Bytes) :
      (encodeUtf8 envelope.senderName ++ rest).drop (encodeUtf8 envelope.senderName).length =
        rest := List.drop_left
  have front (rest : Bytes) : (packBE 2 envelope.header.length ++ rest).take 2 =
      packBE 2 envelope.header.length := List.take_left' (packBE_length 2 _)
  have back (rest : Bytes) : (packBE 2 envelope.header.length ++ rest).drop 2 = rest :=
    List.drop_left' (packBE_length 2 _)
  have present : envelope.ciphertext.isEmpty = false := by
    cases content : envelope.ciphertext with
    | nil => exact absurd content filled
    | cons => rfl
  have long : ¬ (ratchetEnvelopeMagic :: UInt8.ofNat (encodeUtf8 envelope.senderName).length ::
      (encodeUtf8 envelope.senderName ++ (packBE 2 envelope.header.length ++
        (envelope.header ++ envelope.ciphertext)))).length < 4 := by
    simp only [List.length_cons, List.length_append, packBE_length]
    omega
  have enough : ¬ (encodeUtf8 envelope.senderName ++ (packBE 2 envelope.header.length ++
      (envelope.header ++ envelope.ciphertext))).length <
        (encodeUtf8 envelope.senderName).length := by
    rw [List.length_append]
    omega
  have name : (encodeUtf8 envelope.senderName ++ (packBE 2 envelope.header.length ++
      (envelope.header ++ envelope.ciphertext))).take (encodeUtf8 envelope.senderName).length =
        encodeUtf8 envelope.senderName := List.take_left
  simp only [List.append_assoc]
  rw [parse, if_neg long, if_neg (fun differ => differ rfl), nameSize, if_neg enough, name,
    decodeUtf8_encodeUtf8]
  simp only [if_neg named, behindName, parseBody, front, back,
    unpackBE_packBE 2 _ headerFits, List.drop_left, List.take_left, present,
    List.length_append, packBE_length]
  rw [if_neg (by omega), if_neg (by omega), if_neg Bool.false_ne_true]

end RatchetEnvelope

namespace PqcEnvelope

def nonceLength : Nat := 12

def build (envelope : PqcEnvelope) : Except Raised Bytes :=
  if envelope.nonce.length ≠ nonceLength then
    .error (.valueError ("PQC envelope nonce must be 12 bytes, got " ++
      toString envelope.nonce.length ++ "."))
  else do
    let packedKem ← packBytes envelope.kemCiphertext
    return pqcEnvelopeMagic :: (packedKem ++ envelope.nonce ++ envelope.aesCiphertext)

/-- What follows the magic byte. -/
def parseBody (rest : Bytes) : Except Raised PqcEnvelope :=
  let kemLen := unpackBE (rest.take 2)
  let body := rest.drop 2
  let tail := body.drop kemLen
  if body.length < kemLen then
    .error (.valueError "PQC envelope truncated at KEM ciphertext.")
  else if tail.length < nonceLength then
    .error (.valueError "PQC envelope truncated at nonce.")
  else if (tail.drop nonceLength).length < 16 then
    .error (.valueError "PQC envelope AES ciphertext too short (missing tag?).")
  else .ok {
    kemCiphertext := body.take kemLen
    nonce := tail.take nonceLength
    aesCiphertext := tail.drop nonceLength }

def parse (packet : Bytes) : Except Raised PqcEnvelope :=
  match packet with
  | [] => .error (.valueError "PQC envelope too short.")
  | magic :: rest =>
      if packet.length < 3 then .error (.valueError "PQC envelope too short.")
      else if magic ≠ pqcEnvelopeMagic then
        .error (.valueError ("Invalid PQC envelope magic: expected 0x50, got " ++
          formatByte magic ++ "."))
      else parseBody rest

theorem build_ok {envelope : PqcEnvelope} {packet : Bytes}
    (built : envelope.build = .ok packet) :
    envelope.nonce.length = nonceLength ∧ envelope.kemCiphertext.length < 65536 ∧
      packet = pqcEnvelopeMagic ::
        (framed envelope.kemCiphertext ++ (envelope.nonce ++ envelope.aesCiphertext)) := by
  unfold build packBytes at built
  by_cases sized : envelope.nonce.length = nonceLength
  · by_cases short : envelope.kemCiphertext.length < 65536
    · rw [if_neg (not_not.mpr sized), if_pos short] at built
      cases built
      refine ⟨sized, short, ?_⟩
      simp only [framed, List.append_assoc]
    · rw [if_neg (not_not.mpr sized), if_neg short] at built
      cases built
  · rw [if_pos sized] at built
    cases built

theorem parse_build {envelope : PqcEnvelope} {packet : Bytes}
    (built : envelope.build = .ok packet) (tagged : 16 ≤ envelope.aesCiphertext.length) :
    parse packet = .ok envelope := by
  obtain ⟨nonceSize, kemShort, rfl⟩ := build_ok built
  unfold framed
  have kemFits : envelope.kemCiphertext.length < 256 ^ 2 := by omega
  have front (rest : Bytes) : (packBE 2 envelope.kemCiphertext.length ++ rest).take 2 =
      packBE 2 envelope.kemCiphertext.length := List.take_left' (packBE_length 2 _)
  have back (rest : Bytes) : (packBE 2 envelope.kemCiphertext.length ++ rest).drop 2 = rest :=
    List.drop_left' (packBE_length 2 _)
  have nonceFront : (envelope.nonce ++ envelope.aesCiphertext).take nonceLength =
      envelope.nonce := List.take_left' nonceSize
  have nonceBack : (envelope.nonce ++ envelope.aesCiphertext).drop nonceLength =
      envelope.aesCiphertext := List.drop_left' nonceSize
  have long : ¬ (pqcEnvelopeMagic :: (packBE 2 envelope.kemCiphertext.length ++
      (envelope.kemCiphertext ++ (envelope.nonce ++ envelope.aesCiphertext)))).length < 3 := by
    simp only [List.length_cons, List.length_append, packBE_length]
    omega
  simp only [List.append_assoc]
  rw [parse, if_neg long, if_neg (fun differ => differ rfl)]
  simp only [parseBody, front, back, unpackBE_packBE 2 _ kemFits, List.drop_left, List.take_left,
    nonceFront, nonceBack]
  rw [if_neg (by
    rw [List.length_append]
    omega), if_neg (by
    rw [List.length_append, nonceSize]
    omega), if_neg (by omega)]

end PqcEnvelope

inductive EnvelopeType where
  | ratchet
  | pqc
deriving DecidableEq, Repr

def identifyEnvelopeType : Bytes → Option EnvelopeType
  | [] => none
  | magic :: _ =>
      if magic = ratchetEnvelopeMagic then some .ratchet
      else if magic = pqcEnvelopeMagic then some .pqc
      else none

theorem identifyEnvelopeType_ratchet {envelope : RatchetEnvelope} {packet : Bytes}
    (built : envelope.build = .ok packet) : identifyEnvelopeType packet = some .ratchet := by
  obtain ⟨_, _, rfl⟩ := RatchetEnvelope.build_ok built
  rfl

theorem identifyEnvelopeType_pqc {envelope : PqcEnvelope} {packet : Bytes}
    (built : envelope.build = .ok packet) : identifyEnvelopeType packet = some .pqc := by
  obtain ⟨_, _, rfl⟩ := PqcEnvelope.build_ok built
  rfl

/-- The flags of `encrypt_message` are below either magic byte. -/
theorem identifyEnvelopeType_flags {hybrid sign friend selfDestruct : Bool} (rest : Bytes) :
    identifyEnvelopeType (UInt8.ofNat (flagBits hybrid sign friend selfDestruct) :: rest) =
      none := by
  cases hybrid <;> cases sign <;> cases friend <;> cases selfDestruct <;> rfl

end UltimateEnigma.Envelope
