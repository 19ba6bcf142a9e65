import UltimateEnigma.LegacyRoundTrip

set_option autoImplicit false

namespace UltimateEnigma.Crypto

open Py

/-- What AES-GCM seals and opens, with its key. -/
structure SealedParts where
  key : Bytes
  nonce : Bytes
  aad : Bytes
  ct : Bytes
deriving DecidableEq

/-- The packet that carries the parts: the hint stands behind the flags and the timestamp, which
begin the associated data. -/
def SealedParts.packet (parts : SealedParts) (hint : Bytes) : Bytes :=
  parts.aad.take 9 ++ hint ++ (parts.aad.drop 9 ++ parts.nonce ++ parts.ct)

/-- The arguments of `encrypt_message` in the shared mode. -/
structure SharedMessage (Priv Pub : Type) where
  options : EncryptOptions Priv Pub
  shared : options.encryptForFriendPub = none
  plaintext : Bytes
  timestamp : Rat
  draws : EncryptDraws

section Authentication

variable {Priv Pub : Type} (L : MessageLibrary Priv Pub)

def keyHint (secret : Bytes) : Bytes := (L.sha256 secret).take 2

def SharedMessage.encrypt (message : SharedMessage Priv Pub) (secret : Bytes) :
    Except Raised (Bytes × Int) :=
  encryptMessage L message.options message.plaintext secret message.timestamp message.draws

/-- What `encrypt_message` has AES-GCM seal for the message. -/
def SharedMessage.sealed (message : SharedMessage Priv Pub) (secret : Bytes) :
    Except Raised SealedParts := do
  let timeKey ← deriveTimeKey L secret (toInt message.timestamp)
  let inner ← innerBytes (toInt message.timestamp) message.options.duration message.plaintext
  let signature ← signInner L message.options message.draws inner
  let outerTime ← packUnsigned 8 (toInt message.timestamp)
  let packedSignature ← if message.options.sign then packBytes signature else .ok []
  let nonce := message.draws.nonce
  let key := deriveMsgKey L timeKey nonce
  checkAesKey timeKey
  checkAesKey key
  let aad := UInt8.ofNat (message.options.flags L) :: outerTime ++ packedSignature
  return { key, nonce, aad, ct := L.aesEncrypt key nonce inner aad }

/-- Under the keys that are derived from the secret, AES-GCM opens nothing that the packet can
be taken to carry but what it sealed for one of the messages. -/
def Unforged (secret : Bytes) (sent : Set (SharedMessage Priv Pub)) (packet : Bytes) : Prop :=
  ∀ (parts : SealedParts) (hint : Bytes) (time : Int) (timeKey inner : Bytes),
    packet = parts.packet hint → deriveTimeKey L secret time = .ok timeKey →
    parts.key = deriveMsgKey L timeKey parts.nonce →
    L.aesDecrypt parts.key parts.nonce parts.ct parts.aad = some inner →
    ∃ message ∈ sent, message.sealed L secret = .ok parts

/-- `friend_encrypted` is off. -/
def InSharedMode : Bytes → Prop
  | [] => True
  | flags :: _ => hasFlag flags.toNat friendFlag = false

instance : (packet : Bytes) → Decidable (InSharedMode packet)
  | [] => isTrue trivial
  | flags :: _ => inferInstanceAs (Decidable (hasFlag flags.toNat friendFlag = false))

/-- The packets are the same but for two bytes in the place of the key hint. -/
def SameButHint (packet produced hint : Bytes) : Prop :=
  ∃ front other back, front.length = 9 ∧ other.length = 2 ∧
    packet = front ++ other ++ back ∧ produced = front ++ hint ++ back

variable {L} {secret packet : Bytes}

theorem packUnsigned_length {width : Nat} {value : Int} {packed : Bytes}
    (made : packUnsigned width value = .ok packed) : packed.length = width := by
  unfold packUnsigned at made
  split at made
  · cases made
    exact packBE_length width _
  · cases made

/-- The end of `encrypt_message`, from the signature on. -/
theorem packet_of_parts (timeKey inner outerTime packedSignature nonce hint : Bytes) (flags : UInt8)
    (time : Int) (size : outerTime.length = 8) :
    (do
      let ciphertext ← aesGcmEncrypt L timeKey inner (flags :: outerTime ++ packedSignature ++ [])
        nonce
      return (flags :: outerTime ++ hint ++ packedSignature ++ [] ++ ciphertext, time)) =
    (do
      checkAesKey timeKey
      checkAesKey (deriveMsgKey L timeKey nonce)
      let aad := flags :: outerTime ++ packedSignature
      let parts : SealedParts :=
        { key := deriveMsgKey L timeKey nonce, nonce, aad
          ct := L.aesEncrypt (deriveMsgKey L timeKey nonce) nonce inner aad }
      return (parts.packet hint, time) : Except Raised (Bytes × Int)) := by
  have front : (flags :: outerTime ++ packedSignature).take 9 = flags :: outerTime :=
    List.take_left' (by rw [List.length_cons, size])
  have back : (flags :: outerTime ++ packedSignature).drop 9 = packedSignature :=
    List.drop_left' (by rw [List.length_cons, size])
  unfold aesGcmEncrypt SealedParts.packet
  simp only [bind_assoc, pure_bind, List.append_nil, front, back]
  simp only [List.append_assoc]

/-- The packet that `encrypt_message` makes is the one that carries what is sealed. -/
theorem SharedMessage.encrypt_eq (message : SharedMessage Priv Pub) :
    message.encrypt L secret = (do
      let parts ← message.sealed L secret
      return (parts.packet (keyHint L secret), toInt message.timestamp)) := by
  unfold encrypt encryptMessage sealed messageKey
  rw [message.shared]
  dsimp only
  simp only [bind_assoc, pure_bind]
  apply bind_congr
  intro timeKey
  apply bind_congr
  intro inner
  apply bind_congr
  intro signature
  cases packed : packUnsigned 8 (toInt message.timestamp) with
  | error raised => rfl
  | ok outerTime =>
      have size := packUnsigned_length packed
      simp only [ok_bind]
      split
      · simp only [bind_assoc, pure_bind]
        apply bind_congr
        intro packedSignature
        exact packet_of_parts timeKey inner outerTime packedSignature _ _ _ _ size
      · simp only [bind_assoc, pure_bind]
        exact packet_of_parts timeKey inner outerTime [] _ _ _ _ size

theorem unpackBytes_ok {rest data remaining : Bytes}
    (read : unpackBytes rest = .ok (data, remaining)) : rest = framed data ++ remaining := by
  unfold unpackBytes at read
  dsimp only at read
  split at read
  · cases read
  split at read
  · cases read
  rename_i long fits
  cases read
  exact (framed_take _ (by omega) (by omega)).1

/-- A key of the window that opened the ciphertext. -/
theorem tryCandidates_ok {ciphertext aad inner : Bytes} {times : List Int} {found : Option Bytes}
    (tried : tryCandidates L secret ciphertext aad times found = .ok (some inner)) :
    found = some inner ∨ ∃ time timeKey, deriveTimeKey L secret time = .ok timeKey ∧
      aesGcmDecrypt L timeKey ciphertext aad = .ok inner := by
  induction times generalizing found with
  | nil =>
      cases tried
      exact .inl rfl
  | cons time rest ih =>
      obtain ⟨timeKey, derived, tried⟩ := ok_of_bind tried
      split at tried
      · rename_i opened decrypted
        rcases ih tried with kept | later
        · cases found with
          | none =>
              cases kept
              exact .inr ⟨time, timeKey, derived, decrypted⟩
          | some first => exact .inl kept
        · exact .inr later
      · exact ih tried

theorem aesGcmDecrypt_ok {timeKey ciphertext aad inner : Bytes}
    (opened : aesGcmDecrypt L timeKey ciphertext aad = .ok inner) :
    ciphertext ≠ [] ∧
      L.aesDecrypt (deriveMsgKey L timeKey (ciphertext.take nonceSize)) (ciphertext.take nonceSize)
        (ciphertext.drop nonceSize) aad = some inner := by
  unfold aesGcmDecrypt at opened
  split at opened
  · cases opened
  rename_i long
  obtain ⟨_, _, opened⟩ := ok_of_bind opened
  split at opened
  · rename_i decrypted
    cases opened
    refine ⟨?_, decrypted⟩
    rintro rfl
    exact long (by decide)
  · cases opened

/-- The signature, if any, is framed in the associated data as it is in the packet. -/
theorem headerAad_ok {flags outerTime : Nat} {signature afterHint rest aad : Bytes}
    (unpacked : (if hasFlag flags signFlag || hasFlag flags hybridSigFlag then
      unpackBytes afterHint else .ok ([], afterHint)) = .ok (signature, rest))
    (authenticated : headerAad flags outerTime signature = .ok aad) :
    ∃ packedSignature, afterHint = packedSignature ++ rest ∧
      aad = UInt8.ofNat flags :: packBE 8 outerTime ++ packedSignature := by
  unfold headerAad at authenticated
  by_cases signed : (hasFlag flags signFlag || hasFlag flags hybridSigFlag) = true
  · rw [if_pos signed] at unpacked authenticated
    unfold packBytes at authenticated
    split at authenticated
    · cases authenticated
      exact ⟨framed signature, unpackBytes_ok unpacked, rfl⟩
    · cases authenticated
  · rw [if_neg signed] at unpacked authenticated
    cases unpacked
    cases authenticated
    exact ⟨[], rfl, rfl⟩

theorem readHeader_flags {first : UInt8} {afterFlags signature rest : Bytes} {flags outerTime : Nat}
    (read : readHeader (first :: afterFlags) = .ok (flags, outerTime, signature, rest)) :
    flags = first.toNat := by
  unfold readHeader at read
  dsimp only at read
  split at read
  · cases read
  split at read
  · obtain ⟨unpacked, _, read⟩ := ok_of_bind read
    cases read
    rfl
  · cases read
    rfl

/-- What the header is read from, put together again. -/
theorem readHeader_ok {flags outerTime : Nat} {signature rest aad : Bytes}
    (read : readHeader packet = .ok (flags, outerTime, signature, rest))
    (authenticated : headerAad flags outerTime signature = .ok aad) (filled : rest ≠ []) :
    ∃ first hint, flags = first.toNat ∧ packet.head? = some first ∧ aad.head? = some first ∧
      (hasFlag flags keyHintFlag = true → hint.length = 2) ∧
      packet = aad.take 9 ++ hint ++ (aad.drop 9 ++ rest) := by
  unfold readHeader at read
  split at read
  · cases read
  rename_i first afterFlags
  split at read
  · cases read
  rename_i long
  have joined : ((if hasFlag first.toNat signFlag || hasFlag first.toNat hybridSigFlag then
      unpackBytes (if hasFlag first.toNat keyHintFlag then (afterFlags.drop 8).drop 2
        else afterFlags.drop 8)
      else .ok ([], if hasFlag first.toNat keyHintFlag then (afterFlags.drop 8).drop 2
        else afterFlags.drop 8)) >>= fun unpacked =>
      .ok (first.toNat, unpackBE (afterFlags.take 8), unpacked.1, unpacked.2)) =
        .ok (flags, outerTime, signature, rest) := by
    rw [← read]
    dsimp only
    split <;> rfl
  obtain ⟨⟨signed, remaining⟩, unpacked, joined⟩ := ok_of_bind joined
  cases joined
  obtain ⟨packedSignature, behind, rfl⟩ := headerAad_ok unpacked authenticated
  have size : (afterFlags.take 8).length = 8 := by
    rw [List.length_take]
    omega
  have time := packBE_unpackBE (afterFlags.take 8)
  rw [size] at time
  rw [time, UInt8.ofNat_toNat]
  have front : (first :: afterFlags.take 8 ++ packedSignature).take 9 =
      first :: afterFlags.take 8 := List.take_left' (by rw [List.length_cons, size])
  have back : (first :: afterFlags.take 8 ++ packedSignature).drop 9 = packedSignature :=
    List.drop_left' (by rw [List.length_cons, size])
  refine ⟨first, if hasFlag first.toNat keyHintFlag then (afterFlags.drop 8).take 2 else [], rfl,
    rfl, rfl, ?_, ?_⟩
  · intro hinted
    rw [if_pos hinted] at behind ⊢
    have some_left : (afterFlags.drop 8).drop 2 ≠ [] := by
      rw [behind]
      exact List.append_ne_nil_of_right_ne_nil _ filled
    rw [ne_eq, List.drop_eq_nil_iff] at some_left
    rw [List.length_take]
    omega
  · have hinted : (if hasFlag first.toNat keyHintFlag then (afterFlags.drop 8).take 2 else []) ++
        (packedSignature ++ remaining) = afterFlags.drop 8 := by
      rw [← behind]
      split
      · exact List.take_append_drop _ _
      · rfl
    rw [front, back, List.append_assoc, hinted, List.cons_append, List.take_append_drop]

/-- What a packet that is accepted carries, AES-GCM opens under a key derived from the secret. -/
theorem openPacket_carries {myPriv : Option Priv} {now : Option Int} {clock : Int}
    {opened : Opened} (accepted : openPacket L packet secret myPriv now clock = .ok opened)
    (shared : InSharedMode packet) :
    ∃ (parts : SealedParts) (hint : Bytes) (time : Int) (timeKey inner : Bytes),
      packet = parts.packet hint ∧ deriveTimeKey L secret time = .ok timeKey ∧
      parts.key = deriveMsgKey L timeKey parts.nonce ∧
      L.aesDecrypt parts.key parts.nonce parts.ct parts.aad = some inner ∧
      ∀ first, parts.aad.head? = some first → hasFlag first.toNat keyHintFlag = true →
        hint.length = 2 := by
  obtain ⟨⟨flags, outerTime, signature, rest⟩, read, accepted⟩ := ok_of_bind accepted
  obtain ⟨inner, decrypted, _⟩ := ok_of_bind accepted
  obtain ⟨aad, authenticated, decrypted⟩ := ok_of_bind decrypted
  have unencrypted : hasFlag flags friendFlag = false := by
    cases packet with
    | nil => cases read
    | cons first afterFlags =>
        rw [readHeader_flags read]
        exact shared
  rw [unencrypted, if_neg Bool.false_ne_true] at decrypted
  obtain ⟨tried, attempted, decrypted⟩ := ok_of_bind decrypted
  cases tried with
  | none => cases decrypted
  | some found =>
      cases decrypted
      rcases tryCandidates_ok attempted with impossible | ⟨time, timeKey, derived, opened⟩
      · cases impossible
      · obtain ⟨filled, opened⟩ := aesGcmDecrypt_ok opened
        obtain ⟨first, hint, rfl, _, begins, hinted, packed⟩ :=
          readHeader_ok read authenticated filled
        refine ⟨⟨deriveMsgKey L timeKey (rest.take nonceSize), rest.take nonceSize, aad,
          rest.drop nonceSize⟩, hint, time, timeKey, inner, ?_, derived, rfl, opened, ?_⟩
        · rw [packed, SealedParts.packet]
          dsimp only
          rw [List.append_assoc (aad.drop 9), List.take_append_drop]
        · intro other begins_other flagged
          rw [begins] at begins_other
          cases begins_other
          exact hinted flagged

/-- The front of what `encrypt_message` seals in the shared mode: nine bytes, with the flag of
a key hint. -/
theorem SharedMessage.sealed_ok {message : SharedMessage Priv Pub} {parts : SealedParts}
    (made : message.sealed L secret = .ok parts) :
    (parts.aad.take 9).length = 9 ∧
      ∃ first, parts.aad.head? = some first ∧ hasFlag first.toNat keyHintFlag = true := by
  obtain ⟨timeKey, _, made⟩ := ok_of_bind made
  obtain ⟨inner, _, made⟩ := ok_of_bind made
  obtain ⟨signature, _, made⟩ := ok_of_bind made
  obtain ⟨outerTime, packed, made⟩ := ok_of_bind made
  have size := packUnsigned_length packed
  have flagged : hasFlag (UInt8.ofNat (message.options.flags L)).toNat keyHintFlag = true := by
    rw [flags_toNat, flags_eq, hasFlag_keyHint, message.shared]
    rfl
  have front (packedSignature : Bytes) : ((UInt8.ofNat (message.options.flags L) :: outerTime ++
      packedSignature).take 9).length = 9 := by
    rw [List.length_take, List.length_append, List.length_cons, size]
    omega
  split at made
  · obtain ⟨packedSignature, _, made⟩ := ok_of_bind made
    obtain ⟨_, _, made⟩ := ok_of_bind made
    obtain ⟨_, _, made⟩ := ok_of_bind made
    cases made
    exact ⟨front _, _, rfl, flagged⟩
  · obtain ⟨packedSignature, _, made⟩ := ok_of_bind made
    obtain ⟨_, _, made⟩ := ok_of_bind made
    obtain ⟨_, _, made⟩ := ok_of_bind made
    cases made
    exact ⟨front _, _, rfl, flagged⟩

/-- A packet that is accepted in the shared mode was sent, but for its key hint. -/
theorem shared_packet_authentic {sent : Set (SharedMessage Priv Pub)}
    (unforged : Unforged L secret sent packet) (shared : InSharedMode packet)
    {myPriv : Option Priv} {friends : List (String × Pub)} {now : Option Int} {clock : Int}
    {friendsHybrid : List (String × Bytes × Bytes)} {text : String}
    (accepted : decryptMessage L packet secret myPriv friends now clock friendsHybrid = .ok text) :
    ∃ message ∈ sent, ∃ produced,
      message.encrypt L secret = .ok (produced, toInt message.timestamp) ∧
      SameButHint packet produced (keyHint L secret) := by
  obtain ⟨opened, accepted, _⟩ := ok_of_bind accepted
  obtain ⟨parts, hint, time, timeKey, inner, carried, derived, key, opens, hinted⟩ :=
    openPacket_carries accepted shared
  obtain ⟨message, listed, made⟩ := unforged parts hint time timeKey inner carried derived key opens
  obtain ⟨size, first, begins, flagged⟩ := message.sealed_ok made
  refine ⟨message, listed, parts.packet (keyHint L secret), ?_, parts.aad.take 9, hint,
    parts.aad.drop 9 ++ parts.nonce ++ parts.ct, size, hinted first begins flagged, carried, rfl⟩
  rw [message.encrypt_eq, made]
  rfl

end Authentication

section Example

def toySecret : Bytes := List.replicate 32 9

/-- A signed message for ten seconds. -/
def toyNote : SharedMessage Bytes Bytes where
  options := { toyOptions with encryptForFriendPub := none, hybridEdPriv := none }
  shared := rfl
  plaintext := encodeUtf8 "hi"
  timestamp := 100
  draws := toyDraws

def toyNoteParts : SealedParts :=
  match toyNote.sealed toyMessages toySecret with
  | .ok parts => parts
  | .error _ => ⟨[], [], [], []⟩

/-- AES-GCM that opens what was sealed for the note, and nothing else. -/
def toyNoteLibrary : MessageLibrary Bytes Bytes :=
  { toyMessages with
    aesDecrypt := fun key nonce ct aad =>
      if (⟨key, nonce, aad, ct⟩ : SealedParts) = toyNoteParts then
        toyMessages.aesDecrypt key nonce ct aad
      else none }

theorem toyNote_sealed : toyNote.sealed toyNoteLibrary toySecret = .ok toyNoteParts := by
  decide +kernel

theorem toyNote_unforged (packet : Bytes) :
    Unforged toyNoteLibrary toySecret {toyNote} packet := by
  intro parts hint time timeKey inner _ _ _ opens
  have same : parts = toyNoteParts := by
    by_contra apart
    have refused : toyNoteLibrary.aesDecrypt parts.key parts.nonce parts.ct parts.aad = none :=
      if_neg apart
    rw [refused] at opens
    cases opens
  rw [same]
  exact ⟨toyNote, rfl, toyNote_sealed⟩

/-- The note with another key hint is accepted. -/
theorem toyNote_authentic :
    ∃ message ∈ ({toyNote} : Set (SharedMessage Bytes Bytes)), ∃ produced,
      message.encrypt toyNoteLibrary toySecret = .ok (produced, toInt message.timestamp) ∧
      SameButHint (toyNoteParts.packet [0, 1]) produced (keyHint toyNoteLibrary toySecret) := by
  have accepted : decryptMessage toyNoteLibrary (toyNoteParts.packet [0, 1]) toySecret none
      [("alice", [3])] (some 110) 0 [] =
        .ok "✅ Signature verified from alice (key fingerprint: 70656d0000000000)\nhi" := by
    decide +kernel
  exact shared_packet_authentic (toyNote_unforged _) (by decide +kernel) accepted

end Example

end UltimateEnigma.Crypto
