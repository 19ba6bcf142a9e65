import UltimateEnigma.TrustChain

set_option autoImplicit false

namespace UltimateEnigma.TrustChain

open Py

theorem mem_mapM_ok {α β : Type} {read : α → Except Raised β} {items : List α} {results : List β}
    (success : items.mapM read = .ok results) {result : β} (member : result ∈ results) :
    ∃ item ∈ items, read item = .ok result := by
  induction items generalizing results with
  | nil =>
      rw [List.mapM_nil] at success
      cases success
      cases member
  | cons item rest ih =>
      rw [List.mapM_cons] at success
      obtain ⟨first, read_ok, remaining⟩ := ok_of_bind success
      obtain ⟨others, rest_ok, returned⟩ := ok_of_bind remaining
      cases returned
      rcases List.mem_cons.mp member with rfl | later
      · exact ⟨item, List.mem_cons_self, read_ok⟩
      · obtain ⟨found, inside, found_ok⟩ := ih rest_ok later
        exact ⟨found, List.mem_cons_of_mem item inside, found_ok⟩

section Columns

variable {R : Conversions}

/-- How a certificate and a row it was read from agree. -/
structure CertificateRow.Reads (row : CertificateRow) (cert : TrustCertificate) : Prop where
  certId : cert.certId = row.certId.elim .null .str
  subjectName : cert.subjectName = .str row.subjectName
  subjectPub : decodeB64 (.str row.subjectPubB64) = .ok cert.subjectPub
  issuerName : cert.issuerName = .str row.issuerName
  issuerPub : decodeB64 (.str row.issuerPubB64) = .ok cert.issuerPub
  certType : certificateType (.str row.certType) = .ok cert.certType
  notBefore : cert.notBefore = row.notBefore
  notAfter : cert.notAfter = row.notAfter
  signature : decodeB64 (.str row.signatureB64) = .ok cert.signature
  revoked : cert.revoked = row.revoked

theorem fromDict_toDict (row : CertificateRow) :
    fromDict R row.toDict = (do
      let certType ← certificateType (.str row.certType)
      let subjectPub ← decodeB64 (.str row.subjectPubB64)
      let issuerPub ← decodeB64 (.str row.issuerPubB64)
      let signature ← decodeB64 (.str row.signatureB64)
      return {
        certId := row.certId.elim .null .str
        subjectName := .str row.subjectName
        subjectPub
        issuerName := .str row.issuerName
        issuerPub
        certType
        notBefore := row.notBefore
        notAfter := row.notAfter
        signature
        revoked := (Json.int row.revoked.toNat).truthy
        revocationReason := R.str (.str row.revocationReason)
        receivedFrom := R.str (.str row.receivedFrom)
        createdAt := row.createdAt }) := by
  rfl

theorem reads_of_fromDict {row : CertificateRow} {cert : TrustCertificate}
    (read : fromDict R row.toDict = .ok cert) : row.Reads cert := by
  rw [fromDict_toDict] at read
  obtain ⟨certType, certType_ok, afterType⟩ := ok_of_bind read
  obtain ⟨subjectPub, subjectPub_ok, afterSubject⟩ := ok_of_bind afterType
  obtain ⟨issuerPub, issuerPub_ok, afterIssuer⟩ := ok_of_bind afterSubject
  obtain ⟨signature, signature_ok, returned⟩ := ok_of_bind afterIssuer
  cases returned
  refine ⟨rfl, rfl, subjectPub_ok, rfl, issuerPub_ok, certType_ok, rfl, rfl, signature_ok, ?_⟩
  cases row.revoked <;> rfl

end Columns

theorem certificateType_value (certType : CertificateType) :
    certificateType (.str certType.value) = .ok certType := by
  cases certType <;> rfl

theorem decodeB64_b64encode (bytes : Bytes) : decodeB64 (.str (b64encode bytes)) = .ok bytes := by
  rw [decodeB64, b64decode_b64encode]

/-- What `rowOf` writes of a certificate. -/
structure CertificateRow.Stores (R : Conversions) (row : CertificateRow)
    (cert : TrustCertificate) : Prop where
  certId : textColumn R cert.certId = .ok row.certId
  subjectName : textColumn R cert.subjectName = .ok (some row.subjectName)
  issuerName : textColumn R cert.issuerName = .ok (some row.issuerName)
  notBefore : realColumn cert.notBefore = some row.notBefore
  notAfter : realColumn cert.notAfter = some row.notAfter
  subjectPub : row.subjectPubB64 = b64encode cert.subjectPub
  issuerPub : row.issuerPubB64 = b64encode cert.issuerPub
  certType : row.certType = cert.certType.value
  signature : row.signatureB64 = b64encode cert.signature
  revoked : row.revoked = cert.revoked

theorem ok_of_notNull {α : Type} {value : Option α} {found : α}
    (success : notNull value = .ok found) : value = some found := by
  cases value with
  | none => cases success
  | some value =>
      cases success
      rfl

theorem stores_of_rowOf {R : Conversions} {cert : TrustCertificate} {row : CertificateRow}
    (made : rowOf R cert = .ok row) : row.Stores R cert := by
  unfold rowOf at made
  obtain ⟨certId, certId_ok, made⟩ := ok_of_bind made
  obtain ⟨subjectName, subject_ok, made⟩ := ok_of_bind made
  obtain ⟨subjectText, subjectText_ok, subject_ok⟩ := ok_of_bind subject_ok
  obtain ⟨issuerName, issuer_ok, made⟩ := ok_of_bind made
  obtain ⟨issuerText, issuerText_ok, issuer_ok⟩ := ok_of_bind issuer_ok
  obtain ⟨notBefore, notBefore_ok, made⟩ := ok_of_bind made
  obtain ⟨notAfter, notAfter_ok, made⟩ := ok_of_bind made
  obtain ⟨createdAt, createdAt_ok, made⟩ := ok_of_bind made
  cases made
  rw [ok_of_notNull subject_ok] at subjectText_ok
  rw [ok_of_notNull issuer_ok] at issuerText_ok
  exact ⟨certId_ok, subjectText_ok, issuerText_ok, ok_of_notNull notBefore_ok,
    ok_of_notNull notAfter_ok, rfl, rfl, rfl, rfl, rfl⟩

namespace CertificateTable

/-- From one table to another by saving rows, each permitted by the table it is saved into. -/
inductive Grows (permitted : CertificateTable → CertificateRow → Prop) :
    CertificateTable → CertificateTable → Prop where
  | refl (table : CertificateTable) : Grows permitted table table
  | save {before middle : CertificateTable} {row : CertificateRow}
      (earlier : Grows permitted before middle) (allowed : permitted middle row) :
      Grows permitted before (middle.insertOrReplace row)

namespace Grows

variable {permitted : CertificateTable → CertificateRow → Prop}
  {before middle after : CertificateTable}

theorem trans (first : Grows permitted before middle) (second : Grows permitted middle after) :
    Grows permitted before after := by
  induction second with
  | refl => exact first
  | save _ allowed ih => exact .save ih allowed

theorem single {row : CertificateRow} (allowed : permitted before row) :
    Grows permitted before (before.insertOrReplace row) := .save (.refl before) allowed

theorem mono {loose : CertificateTable → CertificateRow → Prop}
    (grows : Grows permitted before after)
    (weaker : ∀ table row, permitted table row → loose table row) : Grows loose before after := by
  induction grows with
  | refl => exact .refl _
  | save _ allowed ih => exact .save ih (weaker _ _ allowed)

/-- What every permitted save preserves, the whole growth preserves. -/
theorem invariant {property : CertificateTable → Prop} (grows : Grows permitted before after)
    (initial : property before)
    (saved : ∀ table row, property table → permitted table row →
      property (table.insertOrReplace row)) : property after := by
  induction grows with
  | refl => exact initial
  | save _ allowed ih => exact saved _ _ ih allowed

end Grows

end CertificateTable

section Service

variable {Priv Pub : Type} {S : SignatureLibrary} {R : Conversions} {context : Context Priv Pub}

/-- What it takes to be accepted. -/
theorem verifyCertObject_ok_iff {cert : TrustCertificate} :
    verifyCertObject S R context cert = .ok () ↔
      ∃ edPub dilPub, expectedIssuerPub context cert.issuerName = .ok (some cert.issuerPub) ∧
        parseIssuerPub cert.issuerPub = .ok (edPub, dilPub) ∧ edPub.length = 32 ∧
        HybridSigner.verify S cert.signedData cert.signature edPub dilPub = true := by
  unfold verifyCertObject
  constructor
  · intro success
    obtain ⟨found, expected, rest⟩ := ok_of_bind success
    cases found with
    | none => cases rest
    | some pinned =>
        simp only at rest
        split at rest
        · cases rest
        · rename_i same
          obtain ⟨⟨edPub, dilPub⟩, parsed, rest⟩ := ok_of_bind rest
          simp only at rest
          split at rest
          · cases rest
          · rename_i long
            split at rest
            · rename_i verified
              rw [← Decidable.not_not.mp same] at expected
              exact ⟨edPub, dilPub, expected, parsed, Decidable.not_not.mp long, verified⟩
            · cases rest
  · rintro ⟨edPub, dilPub, expected, parsed, long, verified⟩
    rw [expected]
    show (if cert.issuerPub ≠ cert.issuerPub then _ else _) = _
    rw [if_neg (fun differs => differs rfl), parsed]
    show (if edPub.length ≠ 32 then _ else _) = _
    rw [if_neg (fun differs => differs long), if_pos verified]

/-- What an accepted dictionary is read as. -/
theorem checkReceived_of_accepted {dict : JsonDict} {cert : TrustCertificate}
    (read : fromDict R dict = .ok cert) (subject : cert.subjectName.truthy = true)
    (issuer : cert.issuerName.truthy = true) (signed : cert.signature ≠ [])
    (accepted : verifyCertObject S R context cert = .ok ()) :
    checkReceived S R context dict =
      .ok (some (if cert.receivedFrom = "" then { cert with receivedFrom := context.myName }
        else cert)) := by
  unfold checkReceived
  rw [read]
  show (if cert.subjectName.truthy = false ∨ cert.issuerName.truthy = false then _ else _) = _
  rw [subject, issuer, if_neg (by decide), if_neg signed, accepted]
  rfl

theorem newCertificate_certId {subjectName subjectPubB64 certType certId : String}
    {validityDays : Int} {draw : Bytes} {cert : TrustCertificate}
    (made : newCertificate S R context subjectName subjectPubB64 certType validityDays certId draw =
      .ok cert) : cert.certId = .str certId := by
  unfold newCertificate at made
  split at made
  · split at made
    · cases made
    · split at made
      · cases made
      · split at made
        · cases made
        · split at made
          · cases made
          · obtain ⟨subjectPub, _, made⟩ := ok_of_bind made
            simp only at made
            split at made
            · cases made
            · cases made
            · cases made
              rfl
  · cases made

theorem run_persist (message : String) (cert : TrustCertificate) (table : CertificateTable) :
    ((persist R message cert).run table).2 =
      match rowOf R cert with
      | .ok row => table.insertOrReplace row
      | .error _ => table := by
  unfold persist
  cases rowOf R cert <;> rfl

theorem issueCertificate_table (subjectName subjectPubB64 certType certId : String)
    (validityDays : Int) (draw : Bytes) (table : CertificateTable) :
    ((issueCertificate S R context subjectName subjectPubB64 certType validityDays certId
      draw).run table).2 = table ∨
      ∃ cert row, newCertificate S R context subjectName subjectPubB64 certType validityDays certId
        draw = .ok cert ∧ rowOf R cert = .ok row ∧
        ((issueCertificate S R context subjectName subjectPubB64 certType validityDays certId
          draw).run table).2 = table.insertOrReplace row := by
  unfold issueCertificate
  cases made : newCertificate S R context subjectName subjectPubB64 certType validityDays certId
    draw with
  | error raised => exact .inl rfl
  | ok cert =>
      cases stored : rowOf R cert with
      | error raised =>
          refine .inl ?_
          simp only [Call.run_lift_ok_bind, persist, stored]
          rfl
      | ok row =>
          refine .inr ⟨cert, row, rfl, stored, ?_⟩
          simp only [Call.run_lift_ok_bind, persist, stored]
          rfl

theorem revokeCertificate_table (certId reason : String) (table : CertificateTable) :
    ((revokeCertificate R certId reason).run table).2 = table ∨
      ∃ old ∈ table.rows, ∃ cert text row, fromDict R old.toDict = .ok cert ∧
        rowOf R (revokedCopy cert text) = .ok row ∧
        ((revokeCertificate R certId reason).run table).2 = table.insertOrReplace row := by
  unfold revokeCertificate
  simp only [Call.run_read_bind]
  cases found : loadCertificate R table certId with
  | error raised => exact .inl rfl
  | ok cert =>
      simp only [Call.run_lift_ok_bind, run_persist]
      cases stored : rowOf R (revokedCopy cert (if reason = "" then "unspecified" else reason)) with
      | error raised => exact .inl rfl
      | ok row =>
          unfold loadCertificate at found
          split at found
          · rename_i old lookup
            exact .inr ⟨old, List.mem_of_find?_eq_some lookup, cert, _, row, found, stored, rfl⟩
          · cases found

theorem revokeEach_grows (reason : String) (certs : List TrustCertificate) (count : Nat)
    (table : CertificateTable) :
    CertificateTable.Grows
      (fun _ row => ∃ cert ∈ certs, rowOf R (revokedCopy cert reason) = .ok row) table
      ((revokeEach R reason certs count).run table).2 := by
  have within : ∀ rest : List TrustCertificate, (∀ cert ∈ rest, cert ∈ certs) → ∀ count table,
      CertificateTable.Grows
        (fun _ row => ∃ cert ∈ certs, rowOf R (revokedCopy cert reason) = .ok row) table
        ((revokeEach R reason rest count).run table).2 := by
    intro rest
    induction rest with
    | nil => exact fun _ _ table => .refl table
    | cons cert rest ih =>
        intro inside count table
        have next := ih fun other member => inside other (List.mem_cons_of_mem cert member)
        unfold revokeEach
        split
        · rename_i row _ stored
          exact (CertificateTable.Grows.single ⟨cert, inside cert List.mem_cons_self, stored⟩).trans
            (next _ _)
        · exact next count table
        · exact .refl table
  exact within certs (fun _ member => member) count table

theorem revokeAll_grows (delegatorName : String) (table : CertificateTable) :
    CertificateTable.Grows
      (fun _ row => ∃ old ∈ table.rows, ∃ cert text, fromDict R old.toDict = .ok cert ∧
        rowOf R (revokedCopy cert text) = .ok row) table
      ((revokeAllCertsForDelegator R context delegatorName).run table).2 := by
  unfold revokeAllCertsForDelegator
  simp only [Call.run_read_bind]
  cases getDelegationCertsHeldByMe R context.now context.myName table with
  | error raised => exact .refl table
  | ok delegations =>
      simp only [Call.run_lift_ok_bind, Call.run_ite]
      split
      · cases loaded : getCertsForFriend R table delegatorName with
        | error raised => exact .refl table
        | ok certs =>
            simp only [Call.run_lift_ok_bind]
            refine (revokeEach_grows _ _ _ table).mono ?_
            rintro middle row ⟨cert, member, stored⟩
            obtain ⟨old, selected, read⟩ := mem_mapM_ok loaded (List.mem_of_mem_filter member)
            exact ⟨old, (CertificateTable.mem_certificatesFor_subject.mp selected).1, cert, _, read,
              stored⟩
      · exact .refl table

/-- Every row of an import is permitted by the table it is saved into. -/
def ImportPermitted (S : SignatureLibrary) (R : Conversions) (context : Context Priv Pub)
    (permitted : JsonDict → CertificateTable → CertificateRow → Prop) :
    List JsonDict → CertificateTable → Prop
  | [], _ => True
  | dict :: rest, table =>
      match receivedRow S R context dict with
      | .error _ => True
      | .ok none => ImportPermitted S R context permitted rest table
      | .ok (some row) =>
          permitted dict table row ∧
            ImportPermitted S R context permitted rest (table.insertOrReplace row)

section Import

variable {permitted : JsonDict → CertificateTable → CertificateRow → Prop}

theorem importPermitted_singleton {dict : JsonDict} {row : CertificateRow}
    {table : CertificateTable} (received : receivedRow S R context dict = .ok (some row))
    (allowed : permitted dict table row) :
    ImportPermitted S R context permitted [dict] table := by
  rw [ImportPermitted, received]
  exact ⟨allowed, trivial⟩

theorem importReceivedCerts_grows (dicts : List JsonDict) (imported : Nat)
    (table : CertificateTable) (conditions : ImportPermitted S R context permitted dicts table) :
    CertificateTable.Grows
      (fun middle row => ∃ dict, permitted dict middle row ∧
        receivedRow S R context dict = .ok (some row)) table
      ((importReceivedCerts S R context dicts imported).run table).2 := by
  induction dicts generalizing imported table with
  | nil => exact .refl table
  | cons dict rest ih =>
      unfold importReceivedCerts
      unfold ImportPermitted at conditions
      cases received : receivedRow S R context dict with
      | error raised => exact .refl table
      | ok found =>
          rw [received] at conditions
          cases found with
          | none => exact ih imported table conditions
          | some row =>
              exact (CertificateTable.Grows.single ⟨dict, conditions.1, received⟩).trans
                (ih (imported + 1) _ conditions.2)

end Import

end Service

section Runs

variable {Priv Pub Pem : Type} {E : Libraries Priv Pub Pem}

/-- Where a row that an event saves comes from. -/
inductive Origin (E : Libraries Priv Pub Pem) (world : World Priv Pub Pem)
    (permitted : JsonDict → CertificateTable → CertificateRow → Prop) :
    Event → CertificateTable → CertificateRow → Prop where
  | issued {subjectName subjectPubB64 certType certId : String} {validityDays : Int} {draw : Bytes}
      {cert : TrustCertificate} {row : CertificateRow}
      (made : newCertificate E.signatures E.conversions world.context subjectName subjectPubB64
        certType validityDays certId draw = .ok cert)
      (stored : rowOf E.conversions cert = .ok row) :
      Origin E world permitted (.issue subjectName subjectPubB64 certType validityDays certId draw)
        world.certificates row
  | received {dicts : List JsonDict} {dict : JsonDict} {table : CertificateTable}
      {row : CertificateRow} (allowed : permitted dict table row)
      (accepted : receivedRow E.signatures E.conversions world.context dict = .ok (some row)) :
      Origin E world permitted (.importCerts dicts) table row
  | revoked {event : Event} {old : CertificateRow} {cert : TrustCertificate} {text : String}
      {table : CertificateTable} {row : CertificateRow} (present : old ∈ world.certificates.rows)
      (read : fromDict E.conversions old.toDict = .ok cert)
      (stored : rowOf E.conversions (revokedCopy cert text) = .ok row) :
      Origin E world permitted event table row

/-- The condition on an event's imports; every other event is free. -/
def ImportsPermitted (E : Libraries Priv Pub Pem)
    (permitted : JsonDict → CertificateTable → CertificateRow → Prop)
    (world : World Priv Pub Pem) : Event → Prop
  | .importCerts dicts =>
      ImportPermitted E.signatures E.conversions world.context permitted dicts world.certificates
  | _ => True

/-- All that an event does to the certificates. -/
theorem tableAfter_grows {permitted : JsonDict → CertificateTable → CertificateRow → Prop}
    (world : World Priv Pub Pem) (event : Event)
    (conditions : ImportsPermitted E permitted world event) :
    CertificateTable.Grows (Origin E world permitted event) world.certificates
      (tableAfter E world event) := by
  cases event with
  | issue subjectName subjectPubB64 certType validityDays certId draw =>
      rw [tableAfter]
      rcases issueCertificate_table subjectName subjectPubB64 certType certId validityDays draw
        world.certificates with same | ⟨cert, row, made, stored, saved⟩
      · rw [same]
        exact .refl _
      · rw [saved]
        exact .single (.issued made stored)
  | importCerts dicts =>
      refine (importReceivedCerts_grows dicts 0 world.certificates conditions).mono ?_
      rintro table row ⟨dict, allowed, accepted⟩
      exact .received allowed accepted
  | revoke certId reason =>
      rw [tableAfter]
      rcases revokeCertificate_table certId reason world.certificates with
        same | ⟨old, present, cert, text, row, read, stored, saved⟩
      · rw [same]
        exact .refl _
      · rw [saved]
        exact .single (.revoked present read stored)
  | revokeAll delegatorName =>
      refine (revokeAll_grows delegatorName world.certificates).mono ?_
      rintro table row ⟨old, present, cert, text, read, stored⟩
      exact .revoked present read stored
  | updateFriend name update password draws => exact .refl _
  | removeFriend name => exact .refl _
  | advance now => exact .refl _

/-- A new certificate's row is under the new id. -/
theorem certId_of_issued {context : Context Priv Pub} {S : SignatureLibrary} {R : Conversions}
    {subjectName subjectPubB64 certType certId : String} {validityDays : Int} {draw : Bytes}
    {cert : TrustCertificate} {row : CertificateRow}
    (made : newCertificate S R context subjectName subjectPubB64 certType validityDays certId draw =
      .ok cert) (stored : rowOf R cert = .ok row) : row.certId = some certId := by
  have column := (stores_of_rowOf stored).certId
  rw [newCertificate_certId made] at column
  exact (Except.ok.inj column).symm

theorem revoked_of_revokedCopy {R : Conversions} {cert : TrustCertificate} {text : String}
    {row : CertificateRow} (stored : rowOf R (revokedCopy cert text) = .ok row) :
    row.revoked = true := (stores_of_rowOf stored).revoked

end Runs

section Toy

theorem fromDict_toyEntry (certId subjectName : String) (revoked : Bool) :
    fromDict toyConversions (toyEntry certId subjectName revoked) =
      .ok (toyCertificate certId subjectName revoked) := by
  unfold toyEntry toyRow
  rw [fromDict_toDict, certificateType_value, decodeB64_b64encode, decodeB64_b64encode,
    decodeB64_b64encode]
  cases revoked <;> rfl

theorem expectedIssuerPub_alice :
    expectedIssuerPub toyWorld.context (.str "alice") = .ok (some (toyCombined [7])) := by
  decide +kernel

theorem parseIssuerPub_toyCombined :
    parseIssuerPub (toyCombined [7]) =
      .ok (toySignatures.edPublic [7], toySignatures.dilPublic [7]) := by
  decide +kernel

theorem toyCertificate_verified (certId subjectName : String) (revoked : Bool) :
    verifyCertObject toySignatures toyConversions toyWorld.context
      (toyCertificate certId subjectName revoked) = .ok () := by
  have signed : HybridSigner.sign toySignatures (signedData [5] .identity 0 1000) [7] [7] [] =
      some (toySignature [5]) := rfl
  have verified : HybridSigner.verify toySignatures (signedData [5] .identity 0 1000)
      (toySignature [5]) (toySignatures.edPublic [7]) (toySignatures.dilPublic [7]) = true :=
    HybridSigner.verify_sign toySignatures_lawful signed
  exact verifyCertObject_ok_iff.mpr
    ⟨_, _, expectedIssuerPub_alice, parseIssuerPub_toyCombined, rfl, verified⟩

theorem receivedRow_toyEntry (certId : String) {subjectName : String} (revoked : Bool)
    (named : (Json.str subjectName).truthy = true) :
    receivedRow toySignatures toyConversions toyWorld.context
      (toyEntry certId subjectName revoked) = .ok (some (toyRow certId subjectName revoked)) := by
  have signed : (toyCertificate certId subjectName revoked).signature ≠ [] := by
    show toySignature [5] ≠ []
    decide +kernel
  have checked := checkReceived_of_accepted (fromDict_toyEntry certId subjectName revoked) named
    (rfl : (Json.str "alice").truthy = true) signed
    (toyCertificate_verified certId subjectName revoked)
  unfold receivedRow
  rw [checked]
  rfl

/-- An import of such entries saves their rows, in any world with the same keys. -/
theorem tableAfter_toyEntry (certId subjectName : String) (revoked : Bool)
    (named : (Json.str subjectName).truthy = true) (table : CertificateTable) :
    tableAfter toyTrustLibraries { toyWorld with certificates := table }
      (.importCerts [toyEntry certId subjectName revoked]) =
      table.insertOrReplace (toyRow certId subjectName revoked) := by
  have received : receivedRow toyTrustLibraries.signatures toyTrustLibraries.conversions
      (World.context { toyWorld with certificates := table })
      (toyEntry certId subjectName revoked) = .ok (some (toyRow certId subjectName revoked)) :=
    receivedRow_toyEntry certId revoked named
  rw [tableAfter, importReceivedCerts, received]
  rfl

end Toy

end UltimateEnigma.TrustChain
