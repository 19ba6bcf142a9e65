import UltimateEnigma.Envelope

set_option autoImplicit false

namespace UltimateEnigma

open Py Crypto

/-- X25519, Kyber768 of liboqs and HKDF-SHA256 with the info of `HybridKEM`. An exchange or an
encapsulation that the library refuses is missing. -/
structure KemLibrary where
  pqcAvailable : Bool
  x25519Public : Bytes → Bytes
  x25519Exchange : Bytes → Bytes → Option Bytes
  kyberPublic : Bytes → Bytes
  encapSecret : Bytes → Bytes → Option (Bytes × Bytes)
  decapSecret : Bytes → Bytes → Option Bytes
  hkdf : Bytes → Bytes

/-- Both sides of an exchange and of an encapsulation find one secret. -/
structure KemLibrary.Lawful (K : KemLibrary) : Prop where
  x25519Public_length (priv : Bytes) : (K.x25519Public priv).length = 32
  exchange_comm (priv other : Bytes) :
    K.x25519Exchange priv (K.x25519Public other) = K.x25519Exchange other (K.x25519Public priv)
  kyberPublic_length (priv : Bytes) :
    0 < (K.kyberPublic priv).length ∧ (K.kyberPublic priv).length < 65536
  decap_encap {priv draw ciphertext secret : Bytes}
    (made : K.encapSecret (K.kyberPublic priv) draw = some (ciphertext, secret)) :
    K.decapSecret priv ciphertext = some secret
  encap_nonempty {pub draw ciphertext secret : Bytes}
    (made : K.encapSecret pub draw = some (ciphertext, secret)) : ciphertext ≠ []
  hkdf_length (input : Bytes) : (K.hkdf input).length = 32

namespace HybridKem

def x25519PubKeyLen : Nat := 32

def minCombinedPubLen : Nat := 2 + x25519PubKeyLen + 2

def noLiboqs : Raised := .runtimeError

def exchangeFailed : Raised := .valueError "Error computing shared key."

/-- `HybridKEM._parse_combined_pub`. Behind the first two tests the key of 32 bytes and the length of
the second are there, so their tests cannot fail. -/
def parseCombinedPub (combinedPub : Bytes) : Except Raised (Bytes × Bytes) :=
  let total := toString combinedPub.length
  let xLen := unpackBE (combinedPub.take 2)
  let rest := (combinedPub.drop 2).drop xLen
  let kyLen := unpackBE (rest.take 2)
  if combinedPub.length < minCombinedPubLen then
    .error (.valueError ("Combined public key too short: " ++ total ++ " bytes (minimum 36)"))
  else if xLen ≠ x25519PubKeyLen then
    .error (.valueError ("Unexpected X25519 key length in combined pub: " ++ toString xLen ++
      " (expected 32)"))
  else if (rest.drop 2).length < kyLen then
    .error (.valueError ("Combined pub truncated: need " ++ toString kyLen ++
      " bytes at offset 36, have " ++ total))
  else if ((rest.drop 2).take kyLen).isEmpty then
    .error (.valueError "Kyber public key is empty in combined pub")
  else .ok ((combinedPub.drop 2).take xLen, (rest.drop 2).take kyLen)

section Kem

variable (K : KemLibrary)

/-- `HybridKEM.encapsulate` where liboqs is there, with the key pair and the randomness that it
draws: the ciphertext and the shared secret. -/
def encapsulate (xPriv draw remoteCombinedPub : Bytes) : Except Raised (Bytes × Bytes) := do
  let (remoteXPub, remoteKyPub) ← parseCombinedPub remoteCombinedPub
  match K.x25519Exchange xPriv remoteXPub with
  | none => .error exchangeFailed
  | some xShared =>
      match K.encapSecret remoteKyPub draw with
      | none => .error noLiboqs
      | some (ct, pqShared) => .ok (K.x25519Public xPriv ++ ct, K.hkdf (xShared ++ pqShared))

/-- `HybridKEM.decapsulate`. -/
def decapsulate (keys : KeyStore.PqcBundle) (ciphertext : Bytes) : Except Raised Bytes :=
  if ciphertext.length < x25519PubKeyLen + 1 then
    .error (.valueError ("Ciphertext too short for decapsulation: " ++
      toString ciphertext.length ++ " bytes (minimum 33)"))
  else
    match K.x25519Exchange keys.x25519Priv (ciphertext.take x25519PubKeyLen) with
    | none => .error exchangeFailed
    | some xShared =>
        match K.decapSecret keys.kyberPriv (ciphertext.drop x25519PubKeyLen) with
        | none => .error noLiboqs
        | some pqShared => .ok (K.hkdf (xShared ++ pqShared))

end Kem

/-- Nothing looks at what stands behind the second key. -/
theorem parseCombinedPub_append {xPub kyPub : Bytes} (surplus : Bytes) (xLength : xPub.length = 32)
    (kyLength : 0 < kyPub.length ∧ kyPub.length < 65536) :
    parseCombinedPub (HybridSigner.combine xPub kyPub ++ surplus) = .ok (xPub, kyPub) := by
  have kyFits : kyPub.length < 256 ^ 2 := by omega
  have combined : HybridSigner.combine xPub kyPub ++ surplus =
      packBE 2 32 ++ (xPub ++ (packBE 2 kyPub.length ++ (kyPub ++ surplus))) := by
    simp only [HybridSigner.combine, xLength, List.append_assoc]
  have front (rest : Bytes) : (packBE 2 32 ++ rest).take 2 = packBE 2 32 :=
    List.take_left' (packBE_length 2 _)
  have back (rest : Bytes) : (packBE 2 32 ++ rest).drop 2 = rest :=
    List.drop_left' (packBE_length 2 _)
  have xFront (rest : Bytes) : (xPub ++ rest).take 32 = xPub := List.take_left' xLength
  have xBack (rest : Bytes) : (xPub ++ rest).drop 32 = rest := List.drop_left' xLength
  have kyFront (rest : Bytes) : (packBE 2 kyPub.length ++ rest).take 2 = packBE 2 kyPub.length :=
    List.take_left' (packBE_length 2 _)
  have kyBack (rest : Bytes) : (packBE 2 kyPub.length ++ rest).drop 2 = rest :=
    List.drop_left' (packBE_length 2 _)
  have present : kyPub.isEmpty = false := by
    cases content : kyPub with
    | nil =>
        rw [content] at kyLength
        exact absurd kyLength.1 (by decide)
    | cons => rfl
  have xLen : unpackBE (packBE 2 32) = 32 := unpackBE_packBE 2 32 (by omega)
  unfold parseCombinedPub
  rw [combined]
  simp only [front, back, xLen, xFront, xBack, kyFront, kyBack, unpackBE_packBE 2 _ kyFits,
    List.take_left, present, List.length_append, packBE_length, minCombinedPubLen,
    x25519PubKeyLen]
  rw [if_neg (by omega), if_neg (by omega), if_neg (by omega), if_neg Bool.false_ne_true]

/-- The key that `generate_keys` combines is taken apart again. -/
theorem parseCombinedPub_combine {xPub kyPub : Bytes} (xLength : xPub.length = 32)
    (kyLength : 0 < kyPub.length ∧ kyPub.length < 65536) :
    parseCombinedPub (HybridSigner.combine xPub kyPub) = .ok (xPub, kyPub) := by
  have parsed := parseCombinedPub_append [] xLength kyLength
  rwa [List.append_nil] at parsed

/-- What is encapsulated for a bundle's combined key is found again with the bundle. -/
theorem decapsulate_encapsulate {K : KemLibrary} (lawful : K.Lawful) {keys : KeyStore.PqcBundle}
    {xPriv draw ciphertext secret : Bytes}
    (made : encapsulate K xPriv draw
      (HybridSigner.combine (K.x25519Public keys.x25519Priv) (K.kyberPublic keys.kyberPriv)) =
        .ok (ciphertext, secret)) :
    decapsulate K keys ciphertext = .ok secret := by
  unfold encapsulate at made
  rw [parseCombinedPub_combine (lawful.x25519Public_length _) (lawful.kyberPublic_length _),
    ok_bind] at made
  cases exchanged : K.x25519Exchange xPriv (K.x25519Public keys.x25519Priv) with
  | none => simp only [exchanged] at made; cases made
  | some xShared =>
      cases encapsulated : K.encapSecret (K.kyberPublic keys.kyberPriv) draw with
      | none => simp only [exchanged, encapsulated] at made; cases made
      | some pair =>
          obtain ⟨ct, pqShared⟩ := pair
          simp only [exchanged, encapsulated] at made
          cases made
          have xSize := lawful.x25519Public_length xPriv
          have front : (K.x25519Public xPriv ++ ct).take x25519PubKeyLen = K.x25519Public xPriv :=
            List.take_left' xSize
          have back : (K.x25519Public xPriv ++ ct).drop x25519PubKeyLen = ct :=
            List.drop_left' xSize
          have long : ¬ (K.x25519Public xPriv ++ ct).length < x25519PubKeyLen + 1 := by
            have filled := List.length_pos_iff.mpr (lawful.encap_nonempty encapsulated)
            rw [List.length_append, xSize, x25519PubKeyLen]
            omega
          rw [decapsulate, if_neg long, front, back, lawful.exchange_comm, exchanged,
            lawful.decap_encap encapsulated]

end HybridKem

section Toy

def toyFill (priv : Bytes) : Bytes := (priv ++ List.replicate 32 0).take 32

theorem toyFill_length (priv : Bytes) : (toyFill priv).length = 32 := by
  rw [toyFill, List.length_take, List.length_append, List.length_replicate]
  omega

/-- An exchange adds the two keys; a capsule is the secret behind the key it is made for. -/
def toyKem : KemLibrary where
  pqcAvailable := true
  x25519Public := toyFill
  x25519Exchange priv pub := some (List.zipWith (· + ·) (toyFill priv) pub)
  kyberPublic priv := 1 :: priv.take 100
  encapSecret pub draw := some (KeyStore.toyMark pub ++ draw, draw)
  decapSecret priv ciphertext :=
    if KeyStore.toyMark (1 :: priv.take 100) <+: ciphertext then
      some (ciphertext.drop (KeyStore.toyMark (1 :: priv.take 100)).length)
    else none
  hkdf := toyFill

theorem toyMark_ne_nil (key : Bytes) : KeyStore.toyMark key ≠ [] := by
  cases key <;> exact List.cons_ne_nil _ _

theorem toyKem_lawful : toyKem.Lawful where
  x25519Public_length := toyFill_length
  exchange_comm priv other := by
    show some (List.zipWith (· + ·) (toyFill priv) (toyFill other)) =
      some (List.zipWith (· + ·) (toyFill other) (toyFill priv))
    rw [List.zipWith_comm_of_comm UInt8.add_comm]
  kyberPublic_length priv := by
    have front := List.length_take_le 100 priv
    show 0 < (priv.take 100).length + 1 ∧ (priv.take 100).length + 1 < 65536
    omega
  decap_encap {priv draw _ _} made := by
    cases made
    show (if KeyStore.toyMark (1 :: priv.take 100) <+: KeyStore.toyMark (1 :: priv.take 100) ++ draw
      then some ((KeyStore.toyMark (1 :: priv.take 100) ++ draw).drop
        (KeyStore.toyMark (1 :: priv.take 100)).length) else none) = some draw
    rw [if_pos (List.prefix_append _ _), List.drop_left]
  encap_nonempty {pub _ _ _} made := by
    cases made
    exact List.append_ne_nil_of_left_ne_nil (toyMark_ne_nil pub) _
  hkdf_length := toyFill_length

end Toy

end UltimateEnigma
