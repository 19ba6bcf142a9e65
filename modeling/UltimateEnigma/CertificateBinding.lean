import UltimateEnigma.TrustChainRuns

set_option autoImplicit false

namespace UltimateEnigma

open Py

/-- A hybrid signature verifies for at most one message under a key. -/
def SignatureLibrary.Binding (S : SignatureLibrary) : Prop :=
  ∀ edPub dilPub signature message other,
    HybridSigner.verify S message signature edPub dilPub = true →
    HybridSigner.verify S other signature edPub dilPub = true → message = other

namespace TrustChain

/-- What a certificate says. -/
structure SameContent (first second : TrustCertificate) : Prop where
  subjectName : first.subjectName = second.subjectName
  subjectPub : first.subjectPub = second.subjectPub
  certType : first.certType = second.certType
  notBefore : first.notBefore = second.notBefore
  notAfter : first.notAfter = second.notAfter

/-- Every message that verifies under the key is that of a certificate its owner signed. -/
def Unforgeable (S : SignatureLibrary) (issuerPub : Bytes) (issued : List TrustCertificate) : Prop :=
  ∀ edPub dilPub signature message, parseIssuerPub issuerPub = .ok (edPub, dilPub) →
    HybridSigner.verify S message signature edPub dilPub = true →
    ∃ cert ∈ issued, cert.signedData = message

theorem certType_bytes (certType : CertificateType) :
    encodeUtf8 certType.value =
      match certType with
      | .identity => [105, 100, 101, 110, 116, 105, 116, 121]
      | .recovery => [114, 101, 99, 111, 118, 101, 114, 121]
      | .delegation => [100, 101, 108, 101, 103, 97, 116, 105, 111, 110] := by
  cases certType <;> decide +kernel

/-- No name of a type is the end of another. -/
theorem certType_suffix {left right : Bytes} {first second : CertificateType}
    (same : left ++ encodeUtf8 first.value = right ++ encodeUtf8 second.value) :
    left = right ∧ first = second := by
  have ends := congrArg (fun bytes => bytes.reverse.take 2) same
  simp only [List.reverse_append, certType_bytes] at ends
  have types : first = second := by
    cases first <;> cases second <;> first | rfl | exact absurd ends (by simp)
  rw [types] at same
  exact ⟨List.append_cancel_right same, types⟩

/-- The signed bytes determine the four fields that are signed. -/
theorem signedData_injective {first second : TrustCertificate}
    (same : first.signedData = second.signedData) :
    first.subjectPub = second.subjectPub ∧ first.certType = second.certType ∧
      first.notBefore = second.notBefore ∧ first.notAfter = second.notAfter := by
  unfold TrustCertificate.signedData signedData at same
  have ⟨front, notAfter⟩ := List.append_inj' same (by simp only [Binary64.pack_length])
  have ⟨head, notBefore⟩ := List.append_inj' front (by simp only [Binary64.pack_length])
  have ⟨subjectPub, certType⟩ := certType_suffix head
  exact ⟨subjectPub, certType, Binary64.pack_injective notBefore, Binary64.pack_injective notAfter⟩

theorem sameContent_iff {first second : TrustCertificate}
    (same : first.signedData = second.signedData) :
    SameContent first second ↔ first.subjectName = second.subjectName := by
  have ⟨subjectPub, certType, notBefore, notAfter⟩ := signedData_injective same
  exact ⟨SameContent.subjectName,
    fun subjectName => ⟨subjectName, subjectPub, certType, notBefore, notAfter⟩⟩

section Binding

variable {Priv Pub : Type} {S : SignatureLibrary} {R : Conversions}
  {firstContext secondContext : Context Priv Pub} {first second : TrustCertificate}

/-- Two accepted certificates with one signature are over the same bytes. -/
theorem signedData_eq_of_signature (binding : S.Binding)
    (firstAccepted : verifyCertObject S R firstContext first = .ok ())
    (secondAccepted : verifyCertObject S R secondContext second = .ok ())
    (pinned : expectedIssuerPub firstContext first.issuerName =
      expectedIssuerPub secondContext second.issuerName)
    (signature : first.signature = second.signature) : first.signedData = second.signedData := by
  obtain ⟨edPub, dilPub, firstExpected, firstParsed, _, firstVerified⟩ :=
    verifyCertObject_ok_iff.mp firstAccepted
  obtain ⟨otherEd, otherDil, secondExpected, secondParsed, _, secondVerified⟩ :=
    verifyCertObject_ok_iff.mp secondAccepted
  have keys : first.issuerPub = second.issuerPub := by
    rw [firstExpected, secondExpected] at pinned
    exact Option.some.inj (Except.ok.inj pinned)
  rw [keys, secondParsed] at firstParsed
  cases firstParsed
  rw [signature] at firstVerified
  exact binding _ _ _ _ _ firstVerified secondVerified

/-- An accepted certificate is over the bytes of one that the issuer signed. -/
theorem exists_issued {issued : List TrustCertificate}
    (accepted : verifyCertObject S R firstContext first = .ok ())
    (unforgeable : Unforgeable S first.issuerPub issued) :
    ∃ cert ∈ issued, cert.signedData = first.signedData := by
  obtain ⟨edPub, dilPub, _, parsed, _, verified⟩ := verifyCertObject_ok_iff.mp accepted
  exact unforgeable edPub dilPub first.signature first.signedData parsed verified

/-- Of two accepted certificates with one issuer key and one signature, key, type and period are
the same, and all is the same exactly when the subject names are; and what is accepted was signed
by the issuer exactly when the issuer signed these bytes for that name. -/
theorem certificates_bound_iff (binding : S.Binding)
    (firstAccepted : verifyCertObject S R firstContext first = .ok ())
    (secondAccepted : verifyCertObject S R secondContext second = .ok ())
    (pinned : expectedIssuerPub firstContext first.issuerName =
      expectedIssuerPub secondContext second.issuerName)
    (signature : first.signature = second.signature) (issued : List TrustCertificate)
    (unforgeable : Unforgeable S first.issuerPub issued) :
    (SameContent first second ↔ first.subjectName = second.subjectName) ∧
      ((∃ cert ∈ issued, SameContent cert first) ↔
        ∃ cert ∈ issued, cert.signedData = first.signedData ∧
          cert.subjectName = first.subjectName) ∧
      ∃ cert ∈ issued, cert.subjectPub = first.subjectPub ∧ cert.certType = first.certType ∧
        cert.notBefore = first.notBefore ∧ cert.notAfter = first.notAfter := by
  refine ⟨sameContent_iff
    (signedData_eq_of_signature binding firstAccepted secondAccepted pinned signature), ?_, ?_⟩
  · constructor
    · rintro ⟨cert, member, content⟩
      refine ⟨cert, member, ?_, content.subjectName⟩
      unfold TrustCertificate.signedData
      rw [content.subjectPub, content.certType, content.notBefore, content.notAfter]
    · rintro ⟨cert, member, data, name⟩
      exact ⟨cert, member, (sameContent_iff data).mpr name⟩
  · obtain ⟨cert, member, data⟩ := exists_issued firstAccepted unforgeable
    exact ⟨cert, member, signedData_injective data⟩

end Binding

section Example

/-- Signatures by owners who have signed one certificate only. -/
def toyOneMessage : SignatureLibrary :=
  { toySignatures with
    dilVerify pub signature message :=
      signature = 1 :: pub ++ message && message = signedData [5] .identity 0 1000 }

theorem toyOneMessage_only {message signature edPub dilPub : Bytes}
    (verified : HybridSigner.verify toyOneMessage message signature edPub dilPub = true) :
    message = signedData [5] .identity 0 1000 := by
  unfold HybridSigner.verify at verified
  split at verified
  · cases verified
  · have both := (Bool.and_eq_true_iff.mp verified).2
    exact of_decide_eq_true (Bool.and_eq_true_iff.mp both).2

theorem toyOneMessage_binding : toyOneMessage.Binding := by
  intro edPub dilPub signature message other verified otherVerified
  rw [toyOneMessage_only verified, toyOneMessage_only otherVerified]

theorem toyCertificate_accepted (certId subjectName : String) :
    verifyCertObject toyOneMessage toyConversions toyWorld.context
      (toyCertificate certId subjectName false) = .ok () := by
  have verified : HybridSigner.verify toyOneMessage (signedData [5] .identity 0 1000)
      (toySignature [5]) (toySignatures.edPublic [7]) (toySignatures.dilPublic [7]) = true := by
    decide +kernel
  exact verifyCertObject_ok_iff.mpr
    ⟨_, _, expectedIssuerPub_alice, parseIssuerPub_toyCombined, rfl, verified⟩

/-- The certificate alice signed is accepted twice. -/
theorem toyCertificates_bound :
    SameContent (toyCertificate "c1" "bob" false) (toyCertificate "c2" "bob" false) := by
  have unforgeable : Unforgeable toyOneMessage (toyCombined [7]) [toyCertificate "c1" "bob" false] := by
    intro edPub dilPub signature message _ verified
    exact ⟨_, List.mem_singleton.mpr rfl, (toyOneMessage_only verified).symm⟩
  exact (certificates_bound_iff toyOneMessage_binding (toyCertificate_accepted "c1" "bob")
    (toyCertificate_accepted "c2" "bob") rfl rfl [toyCertificate "c1" "bob" false] unforgeable).1.mpr rfl

/-- A certificate for bob, renamed: both are accepted, with the same signature. -/
theorem toyCertificate_renamed :
    toyOneMessage.Binding ∧
      verifyCertObject toyOneMessage toyConversions toyWorld.context
        (toyCertificate "c1" "bob" false) = .ok () ∧
      verifyCertObject toyOneMessage toyConversions toyWorld.context
        (toyCertificate "c1" "carol" false) = .ok () ∧
      (toyCertificate "c1" "bob" false).issuerName = (toyCertificate "c1" "carol" false).issuerName ∧
      (toyCertificate "c1" "bob" false).signature = (toyCertificate "c1" "carol" false).signature ∧
      (toyCertificate "c1" "bob" false).subjectName ≠
        (toyCertificate "c1" "carol" false).subjectName := by
  refine ⟨toyOneMessage_binding, toyCertificate_accepted "c1" "bob",
    toyCertificate_accepted "c1" "carol", rfl, rfl, ?_⟩
  intro same
  exact absurd (Json.str.inj same) (by decide)

end Example

end TrustChain

end UltimateEnigma
