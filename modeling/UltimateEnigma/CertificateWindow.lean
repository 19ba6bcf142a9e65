import UltimateEnigma.TrustChainRuns

set_option autoImplicit false

namespace Py.Binary64

/-- `left <= right`. -/
def le (left right : Binary64) : Bool :=
  !left.isNaN && !right.isNaN && decide (left.place ≤ right.place)

theorem le_eq_true_iff {left right : Binary64} : left.le right = true ↔
    left.isNaN = false ∧ right.isNaN = false ∧ left.place ≤ right.place := by
  simp only [le, Bool.and_eq_true, Bool.not_eq_true', decide_eq_true_eq, and_assoc]

/-- Only for numbers is one order the negation of the other. -/
theorem le_of_lt_eq_false {left right : Binary64} (leftNumber : left.isNaN = false)
    (rightNumber : right.isNaN = false) (notBelow : right.lt left = false) :
    left.le right = true := by
  simp only [lt, leftNumber, rightNumber, Bool.not_false, Bool.true_and,
    decide_eq_false_iff_not] at notBelow
  exact le_eq_true_iff.mpr ⟨leftNumber, rightNumber, by omega⟩

end Py.Binary64

namespace UltimateEnigma.TrustChain

open Py

/-- Not revoked, and `not_before <= now <= not_after`. -/
def TrustCertificate.InWindow (now : Binary64) (cert : TrustCertificate) : Prop :=
  cert.revoked = false ∧ cert.notBefore.le now = true ∧ now.le cert.notAfter = true

/-- The certificate makes a difference to the level of some list. -/
def TrustCertificate.Counts (now : Binary64) (cert : TrustCertificate) : Prop :=
  ∃ others, computeTrustLevel now (cert :: others) ≠ computeTrustLevel now others

section Consumers

variable {Priv Pub : Type} (S : SignatureLibrary) (R : Conversions) (context : Context Priv Pub)
variable (table : CertificateTable)

/-- `verify_certificate` loads the certificate and returns `True`. -/
def TrustCertificate.Verified (cert : TrustCertificate) : Prop :=
  ∃ certId, loadCertificate R table certId = .ok cert ∧
    verifyCertificate S R context table certId = .ok true

/-- The delegated operations find the certificate among those that the user holds. -/
def TrustCertificate.ReliedOn (cert : TrustCertificate) : Prop :=
  ∃ certs, getDelegationCertsHeldByMe R context.now context.myName table = .ok certs ∧ cert ∈ certs

/-- Whatever consults the certificate accepts it inside its window only. -/
structure UsedInWindow (cert : TrustCertificate) : Prop where
  status : cert.status context.now = .valid → cert.InWindow context.now
  verified : cert.Verified S R context table → cert.InWindow context.now
  counts : cert.Counts context.now → cert.InWindow context.now
  reliedOn : cert.ReliedOn R context table → cert.InWindow context.now

end Consumers

/-- Revoked, expired, or with a `not_before` that has passed and a `not_after` that is a number. -/
def TrustCertificate.Begun (now : Binary64) (cert : TrustCertificate) : Prop :=
  cert.revoked = true ∨ cert.isExpired now = true ∨
    (cert.notBefore.le now = true ∧ cert.notAfter.isNaN = false)

section Window

variable {Priv Pub : Type} {S : SignatureLibrary} {R : Conversions} {context : Context Priv Pub}
variable {table : CertificateTable} {cert : TrustCertificate} {now : Binary64}

theorem TrustCertificate.Begun.inWindow (begun : cert.Begun now) (valid : cert.status now = .valid) :
    cert.InWindow now := by
  obtain ⟨unrevoked, unexpired⟩ := (cert.status_eq_valid_iff now).mp valid
  obtain revoked | expired | ⟨passed, number⟩ := begun
  · rw [unrevoked] at revoked
    cases revoked
  · rw [unexpired] at expired
    cases expired
  · have clock := (Binary64.le_eq_true_iff.mp passed).2.1
    exact ⟨unrevoked, passed, Binary64.le_of_lt_eq_false clock number unexpired⟩

theorem TrustCertificate.InWindow.begun (inside : cert.InWindow now) : cert.Begun now :=
  .inr (.inr ⟨inside.2.1, (Binary64.le_eq_true_iff.mp inside.2.2).2.1⟩)

theorem TrustCertificate.begun_of_status (status : cert.status now = .valid → cert.InWindow now) :
    cert.Begun now := by
  by_cases valid : cert.status now = .valid
  · exact (status valid).begun
  · rw [cert.status_eq_valid_iff now, not_and_or] at valid
    obtain revoked | expired := valid
    · exact .inl (Bool.not_eq_false _ ▸ revoked)
    · exact .inr (.inl (Bool.not_eq_false _ ▸ expired))

/-- A certificate that is not valid changes no level. -/
theorem TrustCertificate.Counts.valid (counts : cert.Counts now) : cert.status now = .valid := by
  obtain ⟨others, differs⟩ := counts
  by_contra invalid
  apply differs
  unfold computeTrustLevel
  rw [List.filter_cons_of_neg (by simpa using invalid)]

theorem TrustCertificate.Verified.valid (verified : cert.Verified S R context table) :
    cert.status context.now = .valid := by
  obtain ⟨certId, loaded, accepted⟩ := verified
  unfold verifyCertificate at accepted
  rw [loaded] at accepted
  refine (cert.status_eq_valid_iff context.now).mpr ?_
  by_cases revoked : cert.revoked
  · simp [bind, Except.bind, revoked] at accepted
  · by_cases expired : cert.isExpired context.now
    · simp [bind, Except.bind, revoked, expired] at accepted
    · exact ⟨eq_false_of_ne_true revoked, eq_false_of_ne_true expired⟩

theorem TrustCertificate.ReliedOn.valid (reliedOn : cert.ReliedOn R context table) :
    cert.status context.now = .valid := by
  obtain ⟨certs, held, member⟩ := reliedOn
  unfold getDelegationCertsHeldByMe at held
  obtain ⟨all, -, returned⟩ := ok_of_bind held
  cases returned
  exact (of_decide_eq_true (List.mem_filter.mp member).2).2

theorem certificates_used_in_window_iff {Priv Pub : Type} (S : SignatureLibrary) (R : Conversions)
    (context : Context Priv Pub) (table : CertificateTable) (cert : TrustCertificate) :
    UsedInWindow S R context table cert ↔ cert.Begun context.now := by
  constructor
  · intro used
    exact cert.begun_of_status used.status
  · intro begun
    exact ⟨begun.inWindow, fun verified => begun.inWindow verified.valid,
      fun counts => begun.inWindow counts.valid, fun reliedOn => begun.inWindow reliedOn.valid⟩

/-- Alice's signature for the window from 500 to 1000. -/
def postDatedSignature : Bytes :=
  (HybridSigner.sign toySignatures (signedData [5] .identity 500 1000) [7] [7] []).getD []

def postDated : TrustCertificate :=
  { toyCertificate "c1" "bob" false with notBefore := 500, signature := postDatedSignature }

def postDatedRow : CertificateRow :=
  { toyRow "c1" "bob" false with
    notBefore := 500
    signatureB64 := b64encode postDatedSignature }

/-- The table after the import of a certificate that begins at 500. -/
def postDatedTable : CertificateTable := CertificateTable.empty.insertOrReplace postDatedRow

def endless : TrustCertificate :=
  { toyCertificate "c2" "bob" false with notAfter := 0x7ff8000000000000 }

/-- What a peer sends of a certificate whose `not_after` is NaN. -/
def endlessEntry : JsonDict :=
  { toyRow "c2" "bob" false with notAfter := 0x7ff8000000000000 : CertificateRow }.toDict

theorem postDated_read : fromDict toyConversions postDatedRow.toDict = .ok postDated := by
  unfold postDatedRow toyRow
  rw [fromDict_toDict, certificateType_value, decodeB64_b64encode, decodeB64_b64encode,
    decodeB64_b64encode]
  rfl

theorem endless_read : fromDict toyConversions endlessEntry = .ok endless := by
  unfold endlessEntry toyRow
  rw [fromDict_toDict, certificateType_value, decodeB64_b64encode, decodeB64_b64encode,
    decodeB64_b64encode]
  rfl

theorem postDated_loaded : loadCertificate toyConversions postDatedTable "c1" = .ok postDated :=
  postDated_read

theorem postDated_verified :
    postDated.Verified toySignatures toyConversions toyWorld.context postDatedTable := by
  refine ⟨"c1", postDated_loaded, ?_⟩
  have signed : HybridSigner.sign toySignatures (signedData [5] .identity 500 1000) [7] [7] [] =
      some postDatedSignature := rfl
  have verified : HybridSigner.verify toySignatures (signedData [5] .identity 500 1000)
      postDatedSignature (toySignatures.edPublic [7]) (toySignatures.dilPublic [7]) = true :=
    HybridSigner.verify_sign toySignatures_lawful signed
  have accepted : verifyCertObject toySignatures toyConversions toyWorld.context postDated = .ok () :=
    verifyCertObject_ok_iff.mpr
      ⟨_, _, expectedIssuerPub_alice, parseIssuerPub_toyCombined, rfl, verified⟩
  unfold verifyCertificate
  rw [postDated_loaded]
  show (verifyCertObject toySignatures toyConversions toyWorld.context postDated >>= fun _ =>
    (.ok true : Except Raised Bool)) = .ok true
  rw [accepted]
  rfl

theorem post_dated_and_endless_certificates_used :
    (∃ cert, fromDict toyConversions postDatedRow.toDict = .ok cert ∧
      cert.Verified toySignatures toyConversions toyWorld.context postDatedTable ∧
      ¬ UsedInWindow toySignatures toyConversions toyWorld.context postDatedTable cert) ∧
    ∃ cert, fromDict toyConversions endlessEntry = .ok cert ∧
      ¬ UsedInWindow toySignatures toyConversions toyWorld.context .empty cert := by
  refine ⟨⟨postDated, postDated_read, postDated_verified, ?_⟩, ⟨endless, endless_read, ?_⟩⟩
  · intro used
    obtain ⟨-, begins, -⟩ := used.verified postDated_verified
    exact absurd begins (by decide +kernel)
  · intro used
    obtain ⟨-, -, ends⟩ := used.status (by decide +kernel)
    exact absurd ends (by decide +kernel)

end Window

end UltimateEnigma.TrustChain
