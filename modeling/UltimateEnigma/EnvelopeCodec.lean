import UltimateEnigma.Envelope
import UltimateEnigma.Py.Codec

set_option autoImplicit false

namespace Py

theorem encodeUtf8_of_decodeUtf8 {bytes : Bytes} {text : String}
    (decoded : decodeUtf8 bytes = some text) : encodeUtf8 text = bytes := by
  unfold decodeUtf8 String.fromUTF8? at decoded
  split at decoded
  · cases decoded
    rfl
  · cases decoded

end Py

namespace UltimateEnigma.Envelope

open Py Crypto

def IsValueError (raised : Raised) : Prop := ∃ message, raised = .valueError message

theorem isValueError (message : String) : IsValueError (.valueError message) := ⟨message, rfl⟩

namespace RatchetEnvelope

/-- A name of 1 to 255 bytes, a header of at most 65535 bytes, and some ciphertext. -/
structure Encodable (envelope : RatchetEnvelope) : Prop where
  named : 1 ≤ (encodeUtf8 envelope.senderName).length
  nameShort : (encodeUtf8 envelope.senderName).length ≤ 255
  headerShort : envelope.header.length ≤ 65535
  filled : envelope.ciphertext ≠ []

theorem parseBody_ok {senderName : String} {rest : Bytes} {envelope : RatchetEnvelope}
    (parsed : parseBody senderName rest = .ok envelope) :
    envelope.senderName = senderName ∧ envelope.header.length < 65536 ∧ envelope.ciphertext ≠ [] ∧
      rest = framed envelope.header ++ envelope.ciphertext := by
  unfold parseBody at parsed
  dsimp only at parsed
  split at parsed
  · cases parsed
  split at parsed
  · cases parsed
  split at parsed
  · cases parsed
  rename_i long enough filled
  cases parsed
  obtain ⟨whole, short⟩ := framed_take rest (by omega) (by omega)
  refine ⟨rfl, short, ?_, whole⟩
  intro empty
  exact filled (List.isEmpty_iff.mpr empty)

theorem build_of_encodable {envelope : RatchetEnvelope} (encodable : envelope.Encodable) :
    envelope.build = .ok (ratchetEnvelopeMagic ::
      UInt8.ofNat (encodeUtf8 envelope.senderName).length ::
        (encodeUtf8 envelope.senderName ++ framed envelope.header ++ envelope.ciphertext)) := by
  have nameShort := encodable.nameShort
  have headerShort := encodable.headerShort
  unfold build
  dsimp only
  rw [if_neg (by omega), packBytes_short (by omega)]
  rfl

/-- What `parse` accepts is the one packet that `build` makes of it. -/
theorem parse_ok {packet : Bytes} {envelope : RatchetEnvelope}
    (parsed : parse packet = .ok envelope) :
    envelope.Encodable ∧ envelope.build = .ok packet := by
  unfold parse at parsed
  split at parsed
  · rename_i magic nameLen rest
    split at parsed
    · cases parsed
    split at parsed
    · cases parsed
    split at parsed
    · cases parsed
    rename_i known enough
    split at parsed
    · cases parsed
    rename_i senderName decoded
    split at parsed
    · cases parsed
    rename_i named
    obtain ⟨same, headerShort, filled, behind⟩ := parseBody_ok parsed
    have name : encodeUtf8 envelope.senderName = rest.take nameLen.toNat := by
      rw [same, encodeUtf8_of_decodeUtf8 decoded]
    have size : (encodeUtf8 envelope.senderName).length = nameLen.toNat := by
      rw [name, List.length_take]
      omega
    have below := nameLen.toNat_lt
    have encodable : envelope.Encodable := by
      refine ⟨?_, by omega, by omega, filled⟩
      rw [Nat.one_le_iff_ne_zero]
      intro empty
      have blank : rest.take nameLen.toNat = [] := by
        rw [← name]
        exact List.length_eq_zero_iff.mp empty
      rw [blank] at decoded
      exact named (Option.some.inj decoded).symm
    refine ⟨encodable, ?_⟩
    rw [build_of_encodable encodable, size, UInt8.ofNat_toNat, name, List.append_assoc, ← behind,
      List.take_append_drop, not_not.mp known]
  · cases parsed

theorem parse_error {packet : Bytes} {raised : Raised} (failed : parse packet = .error raised) :
    IsValueError raised := by
  unfold parse parseBody at failed
  dsimp only at failed
  repeat' split at failed
  all_goals
    cases failed
    try exact isValueError _

theorem exactCodec : ExactCodec Encodable IsValueError build parse where
  read_write envelope encodable := by
    refine ⟨_, build_of_encodable encodable, ?_⟩
    apply parse_build (build_of_encodable encodable) ?_ encodable.filled
    intro unnamed
    have named := encodable.named
    rw [unnamed] at named
    exact absurd named (by decide)
  write_read _ _ parsed := parse_ok parsed
  refuses _ _ failed := parse_error failed

end RatchetEnvelope

namespace PqcEnvelope

/-- A KEM ciphertext of at most 65535 bytes, a nonce, and room for the tag. -/
structure Encodable (envelope : PqcEnvelope) : Prop where
  kemShort : envelope.kemCiphertext.length ≤ 65535
  nonceSize : envelope.nonce.length = nonceLength
  tagged : 16 ≤ envelope.aesCiphertext.length

theorem build_of_encodable {envelope : PqcEnvelope} (encodable : envelope.Encodable) :
    envelope.build = .ok (pqcEnvelopeMagic ::
      (framed envelope.kemCiphertext ++ envelope.nonce ++ envelope.aesCiphertext)) := by
  have kemShort := encodable.kemShort
  unfold build
  rw [if_neg (not_not.mpr encodable.nonceSize), packBytes_short (by omega)]
  rfl

theorem parseBody_ok {rest : Bytes} {envelope : PqcEnvelope} (long : 2 ≤ rest.length)
    (parsed : parseBody rest = .ok envelope) :
    envelope.Encodable ∧
      rest = framed envelope.kemCiphertext ++ envelope.nonce ++ envelope.aesCiphertext := by
  unfold parseBody at parsed
  dsimp only at parsed
  split at parsed
  · cases parsed
  split at parsed
  · cases parsed
  split at parsed
  · cases parsed
  rename_i enough nonced tagged
  cases parsed
  obtain ⟨whole, short⟩ := framed_take rest long (by omega)
  refine ⟨⟨Nat.le_of_lt_succ short, ?_, Nat.le_of_not_lt tagged⟩, ?_⟩
  · show (List.take nonceLength _).length = nonceLength
    rw [List.length_take]
    omega
  · show rest = framed _ ++ List.take nonceLength _ ++ List.drop nonceLength _
    rw [List.append_assoc, List.take_append_drop]
    exact whole

theorem parse_ok {packet : Bytes} {envelope : PqcEnvelope}
    (parsed : parse packet = .ok envelope) :
    envelope.Encodable ∧ envelope.build = .ok packet := by
  unfold parse at parsed
  split at parsed
  · cases parsed
  rename_i magic rest
  split at parsed
  · cases parsed
  split at parsed
  · cases parsed
  rename_i long known
  rw [List.length_cons] at long
  obtain ⟨encodable, whole⟩ := parseBody_ok (by omega) parsed
  refine ⟨encodable, ?_⟩
  rw [build_of_encodable encodable, ← whole, not_not.mp known]

theorem parse_error {packet : Bytes} {raised : Raised} (failed : parse packet = .error raised) :
    IsValueError raised := by
  unfold parse parseBody at failed
  dsimp only at failed
  repeat' split at failed
  all_goals
    cases failed
    try exact isValueError _

theorem exactCodec : ExactCodec Encodable IsValueError build parse where
  read_write _ encodable :=
    ⟨_, build_of_encodable encodable, parse_build (build_of_encodable encodable) encodable.tagged⟩
  write_read _ _ parsed := parse_ok parsed
  refuses _ _ failed := parse_error failed

end PqcEnvelope

theorem envelope_codecs_exact :
    ExactCodec RatchetEnvelope.Encodable IsValueError RatchetEnvelope.build RatchetEnvelope.parse ∧
      ExactCodec PqcEnvelope.Encodable IsValueError PqcEnvelope.build PqcEnvelope.parse :=
  ⟨RatchetEnvelope.exactCodec, PqcEnvelope.exactCodec⟩

end UltimateEnigma.Envelope
