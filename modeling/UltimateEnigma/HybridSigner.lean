import UltimateEnigma.KeyStoreState

set_option autoImplicit false

namespace UltimateEnigma

open Py

/-- Ed25519 and the post-quantum scheme of liboqs, by the bytes of their keys. A signature of the
latter takes fresh randomness and is missing where the library refuses. -/
structure SignatureLibrary where
  edPublic : Bytes → Bytes
  edSign : Bytes → Bytes → Bytes
  edVerify : Bytes → Bytes → Bytes → Bool
  dilPublic : Bytes → Bytes
  dilSign : Bytes → Bytes → Bytes → Option Bytes
  dilVerify : Bytes → Bytes → Bytes → Bool

/-- A signature verifies under the public key of the key that made it. -/
structure SignatureLibrary.Lawful (S : SignatureLibrary) : Prop where
  edPublic_length (priv : Bytes) : (S.edPublic priv).length = 32
  edSign_short (priv message : Bytes) : (S.edSign priv message).length < 65536
  edVerify_edSign (priv message : Bytes) :
    S.edVerify (S.edPublic priv) (S.edSign priv message) message = true
  dilPublic_short (priv : Bytes) : (S.dilPublic priv).length < 65536
  dilSign_nonempty {priv message draw signature : Bytes}
    (made : S.dilSign priv message draw = some signature) : signature ≠ []
  dilVerify_dilSign {priv message draw signature : Bytes}
    (made : S.dilSign priv message draw = some signature) :
    S.dilVerify (S.dilPublic priv) signature message = true

namespace HybridSigner

/-- `[ed_pub_len(2) | ed_pub | dil_pub_len(2) | dil_pub]`. -/
def combine (edPub dilPub : Bytes) : Bytes :=
  packBE 2 edPub.length ++ edPub ++ packBE 2 dilPub.length ++ dilPub

/-- `struct.unpack(">H", signature[:2])[0]`, with what follows. -/
def splitSignature (signature : Bytes) : Option (Bytes × Bytes) :=
  let edLength := unpackBE (signature.take 2)
  if signature.length < 2 then none
  else if signature.length < 2 + edLength then none
  else if ((signature.drop 2).drop edLength).isEmpty then none
  else some ((signature.drop 2).take edLength, (signature.drop 2).drop edLength)

section Signing

variable (S : SignatureLibrary)

/-- `HybridSigner.sign`; `none` where it raises a `RuntimeError`. -/
def sign (message edPriv dilPriv draw : Bytes) : Option Bytes :=
  let edSig := S.edSign edPriv message
  (S.dilSign dilPriv message draw).map fun dilSig => packBE 2 edSig.length ++ edSig ++ dilSig

/-- `HybridSigner.verify`: both signatures have to verify. -/
def verify (message signature edPub dilPub : Bytes) : Bool :=
  match splitSignature signature with
  | none => false
  | some (edSig, dilSig) => S.edVerify edPub edSig message && S.dilVerify dilPub dilSig message

end Signing

theorem splitSignature_append (edSig dilSig : Bytes) (short : edSig.length < 65536)
    (present : dilSig ≠ []) :
    splitSignature (packBE 2 edSig.length ++ edSig ++ dilSig) = some (edSig, dilSig) := by
  have front : (packBE 2 edSig.length ++ edSig ++ dilSig).take 2 = packBE 2 edSig.length := by
    rw [List.append_assoc]
    exact List.take_left' (packBE_length 2 _)
  have back : (packBE 2 edSig.length ++ edSig ++ dilSig).drop 2 = edSig ++ dilSig := by
    rw [List.append_assoc]
    exact List.drop_left' (packBE_length 2 _)
  have fits : edSig.length < 256 ^ 2 := by omega
  have filled : dilSig.isEmpty = false := by
    cases dilSig with
    | nil => exact absurd rfl present
    | cons => rfl
  unfold splitSignature
  simp only [front, back, unpackBE_packBE 2 _ fits, List.length_append, packBE_length,
    List.drop_left, List.take_left, filled]
  rw [if_neg (by omega), if_neg (by omega), if_neg Bool.false_ne_true]

theorem verify_sign {S : SignatureLibrary} (lawful : S.Lawful)
    {message edPriv dilPriv draw signature : Bytes}
    (made : sign S message edPriv dilPriv draw = some signature) :
    verify S message signature (S.edPublic edPriv) (S.dilPublic dilPriv) = true := by
  obtain ⟨dilSig, dilMade, rfl⟩ := Option.map_eq_some_iff.mp made
  unfold verify
  simp only [splitSignature_append _ _ (lawful.edSign_short edPriv message)
    (lawful.dilSign_nonempty dilMade)]
  rw [lawful.edVerify_edSign, lawful.dilVerify_dilSign dilMade]
  rfl

theorem sign_ne_nil {S : SignatureLibrary} {message edPriv dilPriv draw signature : Bytes}
    (made : sign S message edPriv dilPriv draw = some signature) : signature ≠ [] := by
  obtain ⟨dilSig, _, rfl⟩ := Option.map_eq_some_iff.mp made
  intro empty
  have length := congrArg List.length empty
  simp only [List.length_append, packBE_length, List.length_nil] at length
  omega

/-- What `parse_combined_pub` finds in a combined key. -/
theorem parseCombinedPub_combine (edPub dilPub : Bytes) (edShort : edPub.length < 65536)
    (dilShort : dilPub.length < 65536) :
    KeyStore.parseCombinedPub (combine edPub dilPub) = .ok (edPub, dilPub) := by
  have edFits : edPub.length < 256 ^ 2 := by omega
  have dilFits : dilPub.length < 256 ^ 2 := by omega
  have unpacked (length : Nat) (rest : Bytes) (fits : length < 256 ^ 2) :
      KeyStore.unpackLength (packBE 2 length ++ rest) = .ok length := by
    unfold KeyStore.unpackLength
    rw [List.take_left' (packBE_length 2 _), if_pos (packBE_length 2 _), unpackBE_packBE 2 _ fits]
  have behind (length : Nat) (rest : Bytes) : (packBE 2 length ++ rest).drop 2 = rest :=
    List.drop_left' (packBE_length 2 _)
  unfold KeyStore.parseCombinedPub combine
  simp only [List.append_assoc, unpacked _ _ edFits, behind]
  show (do
    let dilLength ← KeyStore.unpackLength
      ((edPub ++ (packBE 2 dilPub.length ++ dilPub)).drop edPub.length)
    pure ((edPub ++ (packBE 2 dilPub.length ++ dilPub)).take edPub.length,
      (((edPub ++ (packBE 2 dilPub.length ++ dilPub)).drop edPub.length).drop 2).take
        dilLength)) = _
  rw [List.drop_left, List.take_left, unpacked _ _ dilFits, behind]
  show Except.ok (edPub, dilPub.take dilPub.length) = _
  rw [List.take_length]

end HybridSigner

section Toy

/-- A library whose post-quantum signature is the front of the message after the signer's mark. -/
def toySignatures : SignatureLibrary where
  edPublic _ := List.replicate 32 0
  edSign _ _ := []
  edVerify _ _ _ := true
  dilPublic priv := priv.take 8
  dilSign priv message _ := some (1 :: (priv.take 8 ++ message).take 1000)
  dilVerify pub signature message := signature = 1 :: (pub ++ message).take 1000

theorem toySignatures_lawful : toySignatures.Lawful where
  edPublic_length _ := rfl
  edSign_short _ _ := by
    show 0 < 65536
    omega
  edVerify_edSign _ _ := rfl
  dilPublic_short priv := by
    have short : (priv.take 8).length ≤ 8 := List.length_take_le 8 priv
    exact Nat.lt_of_le_of_lt short (by omega)
  dilSign_nonempty made := by
    cases made
    exact List.cons_ne_nil _ _
  dilVerify_dilSign made := by
    cases made
    exact decide_eq_true rfl

theorem toySignatures_short {message edPriv dilPriv draw signature : Bytes}
    (made : HybridSigner.sign toySignatures message edPriv dilPriv draw = some signature) :
    signature.length < 65536 := by
  cases made
  have front := List.length_take_le 1000 (dilPriv.take 8 ++ message)
  show (packBE 2 0 ++ [] ++ 1 :: (dilPriv.take 8 ++ message).take 1000).length < 65536
  simp only [List.append_nil, List.length_append, packBE_length, List.length_cons]
  omega

end Toy

end UltimateEnigma
