import UltimateEnigma.TrustChainRuns

set_option autoImplicit false

namespace UltimateEnigma.TrustChain

open Py

def CertificateTable.Revoked (table : CertificateTable) (id : String) : Prop :=
  ∃ row ∈ table.rows, row.certId = some id ∧ row.revoked = true

/-- A row under a revoked id is itself marked revoked. -/
def KeepsRevoked (table : CertificateTable) (row : CertificateRow) : Prop :=
  ∀ id, row.certId = some id → table.Revoked id → row.revoked = true

def TrustCertificate.hasId (cert : TrustCertificate) (id : String) : Bool :=
  match cert.certId with
  | .str text => text = id
  | _ => false

/-- The certificate under this id counts for no trust level and for no delegation. -/
structure Uncounted (R : Conversions) (now : Binary64) (myName : String) (table : CertificateTable)
    (id : String) : Prop where
  level (friendName : String) :
    getTrustLevel R now table friendName = (do
      let certs ← getCertsForFriend R table friendName
      return computeTrustLevel now (certs.filter fun cert => !cert.hasId id))
  delegation {certs : List TrustCertificate}
    (held : getDelegationCertsHeldByMe R now myName table = .ok certs) :
    ∀ cert ∈ certs, cert.hasId id = false

theorem revoked_insertOrReplace {table : CertificateTable} {row : CertificateRow} {id : String}
    (keeps : KeepsRevoked table row) (revoked : table.Revoked id) :
    (table.insertOrReplace row).Revoked id := by
  have ⟨old, present, oldId, oldRevoked⟩ := revoked
  by_cases same : row.certId = some id
  · exact ⟨row, CertificateTable.mem_insertOrReplace_iff.mpr (.inl rfl), same,
      keeps id same revoked⟩
  · have differs : old.certId ≠ row.certId := by
      rw [oldId]
      exact fun equal => same equal.symm
    exact ⟨old, CertificateTable.mem_insertOrReplace_iff.mpr (.inr ⟨present, .inr differs⟩), oldId,
      oldRevoked⟩

section Counting

variable {R : Conversions} {now : Binary64} {table : CertificateTable} {id : String}

theorem certId_of_hasId {row : CertificateRow} {cert : TrustCertificate} (reads : row.Reads cert)
    (named : cert.hasId id = true) : row.certId = some id := by
  unfold TrustCertificate.hasId at named
  rw [reads.certId] at named
  cases column : row.certId with
  | none =>
      rw [column] at named
      cases named
  | some text =>
      rw [column] at named
      exact congrArg some (of_decide_eq_true named)

/-- The row under a revoked id is the revoked one, so no certificate read under it is valid. -/
theorem not_valid_of_hasId (now : Binary64) (revoked : table.Revoked id) {rows : List CertificateRow}
    (inside : ∀ row ∈ rows, row ∈ table.rows) {certs : List TrustCertificate}
    (loaded : certificatesOf R rows = .ok certs) {cert : TrustCertificate} (member : cert ∈ certs)
    (named : cert.hasId id = true) : cert.status now ≠ .valid := by
  obtain ⟨row, selected, read⟩ := mem_mapM_ok loaded member
  have reads := reads_of_fromDict read
  obtain ⟨old, present, oldId, oldRevoked⟩ := revoked
  have same : row = old := CertificateTable.eq_of_certId (inside row selected) present
    (certId_of_hasId reads named) oldId
  intro valid
  have unrevoked := ((cert.status_eq_valid_iff now).mp valid).1
  rw [reads.revoked, same, oldRevoked] at unrevoked
  cases unrevoked

theorem computeTrustLevel_filter (certs : List TrustCertificate) (keep : TrustCertificate → Bool)
    (dropped : ∀ cert ∈ certs, keep cert = false → cert.status now ≠ .valid) :
    computeTrustLevel now (certs.filter keep) = computeTrustLevel now certs := by
  have same : (certs.filter keep).filter (fun cert => decide (cert.status now = .valid)) =
      certs.filter fun cert => decide (cert.status now = .valid) := by
    rw [List.filter_filter]
    refine List.filter_congr fun cert member => ?_
    cases kept : keep cert with
    | true => rw [Bool.and_true]
    | false => rw [decide_eq_false (dropped cert member kept), Bool.false_and]
  unfold computeTrustLevel
  rw [same]

theorem uncounted_of_revoked (myName : String) (revoked : table.Revoked id) :
    Uncounted R now myName table id where
  level friendName := by
    unfold getTrustLevel
    cases loaded : getCertsForFriend R table friendName with
    | error raised => rfl
    | ok certs =>
        have inside (row : CertificateRow)
            (selected : row ∈ table.certificatesFor none (some friendName)) : row ∈ table.rows :=
          (CertificateTable.mem_certificatesFor_subject.mp selected).1
        have same := computeTrustLevel_filter certs (fun cert => !cert.hasId id)
          fun cert member dropped => not_valid_of_hasId now revoked inside loaded member
            (by simpa using dropped)
        exact congrArg Except.ok same.symm
  delegation {certs} held cert member := by
    obtain ⟨loaded, loaded_ok, returned⟩ := ok_of_bind held
    cases returned
    have inside (row : CertificateRow)
        (selected : row ∈ table.certificatesFor none (some myName)) : row ∈ table.rows :=
      (CertificateTable.mem_certificatesFor_subject.mp selected).1
    have ⟨kept, wanted⟩ := List.mem_filter.mp member
    cases named : cert.hasId id with
    | false => rfl
    | true =>
        exact absurd (of_decide_eq_true wanted).2
          (not_valid_of_hasId now revoked inside loaded_ok kept named)

end Counting

section Runs

variable {Priv Pub Pem : Type} {E : Libraries Priv Pub Pem}

/-- Every import saves a revoked id as revoked. -/
def RespectsRevocations (E : Libraries Priv Pub Pem) :
    World Priv Pub Pem → Event → Prop := ImportsPermitted E fun _ => KeepsRevoked

theorem keepsRevoked_of_origin {world : World Priv Pub Pem} {event : Event}
    {table : CertificateTable} {row : CertificateRow} (allowed : enabled world event)
    (origin : Origin E world (fun _ => KeepsRevoked) event table row) :
    KeepsRevoked table row := by
  intro id named revoked
  cases origin with
  | issued made stored =>
      obtain ⟨old, present, oldId, _⟩ := revoked
      rw [certId_of_issued made stored] at named
      exact absurd (oldId.trans named.symm) (allowed old present)
  | received permitted accepted => exact permitted id named revoked
  | revoked present read stored => exact revoked_of_revokedCopy stored

theorem revoked_step {start : World Priv Pub Pem → Prop} {world : World Priv Pub Pem}
    {event : Event} {id : String} (allowed : enabled world event)
    (respects : RespectsRevocations E world event) (revoked : world.certificates.Revoked id) :
    ((machine E start).apply world event).certificates.Revoked id :=
  (tableAfter_grows world event respects).invariant revoked fun _ _ still origin =>
    revoked_insertOrReplace (keepsRevoked_of_origin allowed origin) still

/-- In every run whose imports leave revoked ids revoked, a revoked certificate stays revoked and
is never counted again. -/
theorem revocation_permanent (start : World Priv Pub Pem → Prop) {before after : World Priv Pub Pem}
    {id : String} (later : (machine E start).Follows (RespectsRevocations E) before after)
    (revoked : before.certificates.Revoked id) :
    after.certificates.Revoked id ∧
      Uncounted E.conversions after.now after.myName after.certificates id := by
  have still : after.certificates.Revoked id := by
    refine later.relation (fun world => world.certificates.Revoked id) revoked ?_
    intro world event _ held allowed respects
    exact revoked_step allowed respects held
  exact ⟨still, uncounted_of_revoked after.myName still⟩

end Runs

section Example

/-- A certificate for bob that has been revoked. -/
def toyRevoked : World String String (String × Bytes) :=
  { toyWorld with
    certificates := CertificateTable.empty.insertOrReplace (toyRow "c1" "bob" true) }

theorem toyRevoked_revoked : toyRevoked.certificates.Revoked "c1" :=
  ⟨toyRow "c1" "bob" true, CertificateTable.mem_insertOrReplace_iff.mpr (.inl rfl), rfl, rfl⟩

/-- The same certificate comes again, revoked by its sender. -/
theorem toyRevoked_stays :
    ∃ after, (machine toyTrustLibraries (· = toyRevoked)).Follows
      (RespectsRevocations toyTrustLibraries) toyRevoked after ∧ after.certificates.Revoked "c1" := by
  have respects : ImportPermitted toySignatures toyConversions toyWorld.context
      (fun _ => KeepsRevoked) [toyEntry "c1" "bob" true] toyRevoked.certificates :=
    importPermitted_singleton (receivedRow_toyEntry "c1" true rfl) fun _ _ _ => rfl
  have later : (machine toyTrustLibraries (· = toyRevoked)).Follows
      (RespectsRevocations toyTrustLibraries) toyRevoked
      ((machine toyTrustLibraries (· = toyRevoked)).apply toyRevoked
        (.importCerts [toyEntry "c1" "bob" true])) :=
    .step (Event.importCerts [toyEntry "c1" "bob" true]) (.refl toyRevoked) trivial respects
  exact ⟨_, later, (revocation_permanent (· = toyRevoked) later toyRevoked_revoked).1⟩

/-- The same certificate comes again as its issuer made it: it is no longer revoked, and it counts
for bob's trust level. -/
theorem toyRevoked_restored :
    toyRevoked.certificates.Revoked "c1" ∧
      ∃ after, (machine toyTrustLibraries (· = toyRevoked)).Follows (fun _ _ => True) toyRevoked
          after ∧
        ¬ after.certificates.Revoked "c1" ∧
        getTrustLevel toyConversions toyRevoked.now toyRevoked.certificates "bob" = .ok .none ∧
        getTrustLevel toyConversions after.now after.certificates "bob" = .ok .basic := by
  have saved : ((machine toyTrustLibraries (· = toyRevoked)).apply toyRevoked
      (.importCerts [toyEntry "c1" "bob" false])).certificates =
      toyRevoked.certificates.insertOrReplace (toyRow "c1" "bob" false) :=
    tableAfter_toyEntry "c1" "bob" false rfl toyRevoked.certificates
  refine ⟨toyRevoked_revoked,
    (machine toyTrustLibraries (· = toyRevoked)).apply toyRevoked
      (.importCerts [toyEntry "c1" "bob" false]),
    .step (Event.importCerts [toyEntry "c1" "bob" false]) (.refl _) trivial trivial, ?_, ?_, ?_⟩
  · rw [saved]
    rintro ⟨row, member, named, revoked⟩
    rcases CertificateTable.mem_insertOrReplace_iff.mp member with rfl | ⟨_, missing | differs⟩
    · cases revoked
    · cases missing
    · exact differs named
  · decide +kernel
  · rw [saved]
    decide +kernel

end Example

end UltimateEnigma.TrustChain
