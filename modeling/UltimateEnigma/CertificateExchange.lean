import UltimateEnigma.TrustLevels
import Mathlib.Data.List.Perm.Basic
import Mathlib.Logic.Function.Basic

set_option autoImplicit false

namespace UltimateEnigma.TrustChain

open Py

/-- `to_dict`. -/
def TrustCertificate.toDict (cert : TrustCertificate) : JsonDict :=
  [("cert_id", cert.certId),
    ("subject_name", cert.subjectName),
    ("subject_pub_b64", .str (b64encode cert.subjectPub)),
    ("issuer_name", cert.issuerName),
    ("issuer_pub_b64", .str (b64encode cert.issuerPub)),
    ("cert_type", .str cert.certType.value),
    ("not_before", .float cert.notBefore),
    ("not_after", .float cert.notAfter),
    ("signature_b64", .str (b64encode cert.signature)),
    ("revoked", .bool cert.revoked),
    ("revocation_reason", .str cert.revocationReason),
    ("received_from", .str cert.receivedFrom),
    ("created_at", .float cert.createdAt)]

section Exports

variable (R : Conversions)

/-- `get_all_certificates`. -/
def getAllCertificates (table : CertificateTable) : Except Raised (List TrustCertificate) :=
  certificatesOf R (table.certificatesFor none none)

/-- `get_certs_issued_by_me`. -/
def getCertsIssuedByMe (myName : String) (table : CertificateTable) :
    Except Raised (List TrustCertificate) :=
  certificatesOf R (table.certificatesFor (some myName) none)

def getPendingCertsForExchange (myName : String) (table : CertificateTable) :
    Except Raised (List JsonDict) := do
  let myCerts ← getCertsIssuedByMe R myName table
  return myCerts.map fun cert => cert.toDict ++ [("_exchange_flag", .bool true)]

/-- The certificates of `export_trust_bundle`. -/
def exportTrustBundle (table : CertificateTable) : Except Raised (List JsonDict) := do
  let allCerts ← getAllCertificates R table
  return allCerts.map TrustCertificate.toDict

/-- The certificates of `export_delegation_certificates`. -/
def exportDelegationCertificates (table : CertificateTable) : Except Raised (List JsonDict) := do
  let allCerts ← getAllCertificates R table
  return (allCerts.filter fun cert => cert.certType = .delegation).map TrustCertificate.toDict

def exportSingleCertificate (table : CertificateTable) (certId : String) :
    Except Raised JsonDict := do
  let cert ← loadCertificate R table certId
  return cert.toDict

/-- What can be passed on. -/
inductive Selection where
  | pending
  | bundle
  | delegations
  | single (certId : String)
deriving DecidableEq

def exported (myName : String) (table : CertificateTable) :
    Selection → Except Raised (List JsonDict)
  | .pending => getPendingCertsForExchange R myName table
  | .bundle => exportTrustBundle R table
  | .delegations => exportDelegationCertificates R table
  | .single certId => (exportSingleCertificate R table certId).map fun dict => [dict]

end Exports

/-- People who exchange certificates, and the files that they pass on. `issued` is kept for the
statements below only. -/
structure Network (Person Priv Pub Pem : Type) where
  member : Person → World Priv Pub Pem
  files : List (List JsonDict)
  issued : List TrustCertificate

inductive Exchange (Person : Type) where
  | act (person : Person) (event : Event)
  | share (person : Person) (selection : Selection)
  | deliver (person : Person) (file : List JsonDict)

section Exchanges

variable {Person Priv Pub Pem : Type} [DecidableEq Person] (E : Libraries Priv Pub Pem)

/-- The certificate that an event issues. -/
def issuedBy (world : World Priv Pub Pem) : Event → Option TrustCertificate
  | .issue subjectName subjectPubB64 certType validityDays certId draw =>
      ((issueCertificate E.signatures E.conversions world.context subjectName subjectPubB64 certType
        validityDays certId draw).run world.certificates).1.toOption
  | _ => none

def Network.after (network : Network Person Priv Pub Pem) (person : Person) (event : Event) :
    Network Person Priv Pub Pem :=
  { network with
    member := Function.update network.member person
      ((machine E fun _ => True).apply (network.member person) event) }

/-- What `uuid.uuid4()` gives is the id of no certificate that anybody issued. -/
def exchanges : Machine (Network Person Priv Pub Pem) (Exchange Person) where
  start network :=
    network.files = [] ∧ network.issued = [] ∧
      ∀ person, Fresh E (network.member person) ∧ (network.member person).myName ≠ ""
  enabled network
    | .act person event =>
        (machine E fun _ => True).enabled (network.member person) event ∧
          ∀ subjectName subjectPubB64 certType validityDays certId draw,
            event = .issue subjectName subjectPubB64 certType validityDays certId draw →
              ∀ cert ∈ network.issued, cert.certId ≠ .str certId
    | .share _ _ => True
    | .deliver _ file => file ∈ network.files
  apply network
    | .act person event =>
        { network.after E person event with
          issued := network.issued ++ (issuedBy E (network.member person) event).toList }
    | .share person selection =>
        { network with
          files := network.files ++ (exported E.conversions (network.member person).myName
            (network.member person).certificates selection).toOption.toList }
    | .deliver person file => network.after E person (.importCerts file)

/-- Nobody revokes a certificate or makes one up, a subject has a name, and no time is a negative
zero. -/
def Honest (network : Network Person Priv Pub Pem) : Exchange Person → Prop
  | .act person (.issue subjectName _ _ validityDays _ _) =>
      subjectName ≠ "" ∧ PlainTime (network.member person).now ∧
        PlainTime (E.conversions.plus (network.member person).now (validityDays * 86400))
  | .act _ (.importCerts _) | .act _ (.revoke _ _) | .act _ (.revokeAll _) => False
  | _ => True

end Exchanges

/-- A certificate as its issuer makes it. -/
structure Signed where
  certId : String
  subjectName : String
  subjectPub : Bytes
  issuerName : String
  issuerPub : Bytes
  certType : CertificateType
  notBefore : Binary64
  notAfter : Binary64
  signature : Bytes
  createdAt : Binary64

namespace Signed

/-- As it is held by someone who received it there. -/
def cert (signed : Signed) (receivedFrom : String) : TrustCertificate where
  certId := .str signed.certId
  subjectName := .str signed.subjectName
  subjectPub := signed.subjectPub
  issuerName := .str signed.issuerName
  issuerPub := signed.issuerPub
  certType := signed.certType
  notBefore := signed.notBefore
  notAfter := signed.notAfter
  signature := signed.signature
  revoked := false
  revocationReason := ""
  receivedFrom := receivedFrom
  createdAt := signed.createdAt

def row (signed : Signed) (receivedFrom : String) : CertificateRow where
  certId := some signed.certId
  subjectName := signed.subjectName
  subjectPubB64 := b64encode signed.subjectPub
  issuerName := signed.issuerName
  issuerPubB64 := b64encode signed.issuerPub
  certType := signed.certType.value
  notBefore := signed.notBefore
  notAfter := signed.notAfter
  signatureB64 := b64encode signed.signature
  revoked := false
  revocationReason := ""
  receivedFrom := receivedFrom
  createdAt := signed.createdAt

/-- A time that the table takes and keeps. -/
def Ordinary (time : Binary64) : Prop := time.isNaN = false ∧ PlainTime time

/-- Whoever knows the issuer's key accepts the certificate. -/
structure Valid (S : SignatureLibrary) (signed : Signed) : Prop where
  subject : signed.subjectName ≠ ""
  issuer : signed.issuerName ≠ ""
  filled : signed.signature ≠ []
  notBefore : Ordinary signed.notBefore
  notAfter : Ordinary signed.notAfter
  createdAt : Ordinary signed.createdAt
  verifies : ∃ edPub dilPub, parseIssuerPub signed.issuerPub = .ok (edPub, dilPub) ∧
    edPub.length = 32 ∧
    HybridSigner.verify S (signed.cert "").signedData signed.signature edPub dilPub = true

end Signed

section Codec

variable {R : Conversions} {S : SignatureLibrary}

theorem fromDict_cert_toDict (cert : TrustCertificate) (extra : JsonDict) :
    fromDict R (cert.toDict ++ extra) = (do
      let certType ← certificateType (.str cert.certType.value)
      let subjectPub ← decodeB64 (.str (b64encode cert.subjectPub))
      let issuerPub ← decodeB64 (.str (b64encode cert.issuerPub))
      let signature ← decodeB64 (.str (b64encode cert.signature))
      return {
        certId := cert.certId
        subjectName := cert.subjectName
        subjectPub
        issuerName := cert.issuerName
        issuerPub
        certType
        notBefore := cert.notBefore
        notAfter := cert.notAfter
        signature
        revoked := cert.revoked
        revocationReason := R.str (.str cert.revocationReason)
        receivedFrom := R.str (.str cert.receivedFrom)
        createdAt := cert.createdAt }) := by
  rfl

variable (plainText : ∀ text, R.str (.str text) = text)
include plainText

/-- A certificate is read from its dictionary as it is. -/
theorem fromDict_toDict_append (cert : TrustCertificate) (extra : JsonDict) :
    fromDict R (cert.toDict ++ extra) = .ok cert := by
  rw [fromDict_cert_toDict, certificateType_value, decodeB64_b64encode, decodeB64_b64encode,
    decodeB64_b64encode, plainText, plainText]
  rfl

theorem fromDict_signed_row (signed : Signed) (receivedFrom : String) :
    fromDict R (signed.row receivedFrom).toDict = .ok (signed.cert receivedFrom) := by
  have read := fromDict_toDict (R := R) (signed.row receivedFrom)
  dsimp only [Signed.row] at read
  rw [certificateType_value, decodeB64_b64encode, decodeB64_b64encode, decodeB64_b64encode,
    plainText, plainText] at read
  exact read

end Codec

section Accepting

variable {Priv Pub : Type} {S : SignatureLibrary} {R : Conversions} {context : Context Priv Pub}

theorem realColumn_ordinary {time : Binary64} (ordinary : Signed.Ordinary time) :
    realColumn time = some time := by
  unfold realColumn
  rw [ordinary.1, if_neg (by decide), if_neg ordinary.2]

theorem rowOf_signed {signed : Signed} (valid : signed.Valid S) (receivedFrom : String) :
    rowOf R (signed.cert receivedFrom) = .ok (signed.row receivedFrom) := by
  unfold rowOf
  dsimp only [Signed.cert]
  rw [realColumn_ordinary valid.notBefore, realColumn_ordinary valid.notAfter,
    realColumn_ordinary valid.createdAt]
  rfl

/-- The issuer's key is known, and it is the one in the certificate. -/
def Knows (context : Context Priv Pub) (row : CertificateRow) : Prop :=
  ∃ pinned, expectedIssuerPub context (.str row.issuerName) = .ok (some pinned) ∧
    row.issuerPubB64 = b64encode pinned

theorem verified_iff {signed : Signed} (valid : signed.Valid S) (receivedFrom : String) :
    verifyCertObject S R context (signed.cert receivedFrom) = .ok () ↔
      expectedIssuerPub context (.str signed.issuerName) = .ok (some signed.issuerPub) := by
  rw [verifyCertObject_ok_iff]
  constructor
  · rintro ⟨edPub, dilPub, expected, _⟩
    exact expected
  · intro expected
    obtain ⟨edPub, dilPub, parsed, long, verified⟩ := valid.verifies
    exact ⟨edPub, dilPub, expected, parsed, long, verified⟩

/-- Whom an importer notes as the sender. -/
def kept (context : Context Priv Pub) (receivedFrom : String) : String :=
  if receivedFrom = "" then context.myName else receivedFrom

theorem receivedRow_of_known {signed : Signed} (valid : signed.Valid S) {receivedFrom : String}
    {dict : JsonDict} (read : fromDict R dict = .ok (signed.cert receivedFrom))
    (expected : expectedIssuerPub context (.str signed.issuerName) =
      .ok (some signed.issuerPub)) :
    receivedRow S R context dict = .ok (some (signed.row (kept context receivedFrom))) := by
  have subject : (signed.cert receivedFrom).subjectName.truthy = true := by
    show (signed.subjectName != "") = true
    rw [bne_iff_ne]
    exact valid.subject
  have issuer : (signed.cert receivedFrom).issuerName.truthy = true := by
    show (signed.issuerName != "") = true
    rw [bne_iff_ne]
    exact valid.issuer
  have checked := checkReceived_of_accepted read subject issuer valid.filled
    ((verified_iff valid receivedFrom).mpr expected)
  have stored : (if (signed.cert receivedFrom).receivedFrom = "" then
      { signed.cert receivedFrom with receivedFrom := context.myName }
      else signed.cert receivedFrom) = signed.cert (kept context receivedFrom) := by
    by_cases empty : receivedFrom = ""
    · rw [kept, if_pos empty]
      exact if_pos empty
    · rw [kept, if_neg empty]
      exact if_neg empty
  rw [stored] at checked
  unfold receivedRow
  rw [checked]
  show orContinue (rowOf R (signed.cert (kept context receivedFrom)) >>= fun row =>
    pure (some row)) = _
  rw [rowOf_signed valid]
  rfl

/-- What an importer saves of a certificate is the certificate. -/
theorem eq_row_of_received {signed : Signed} (valid : signed.Valid S) {receivedFrom : String}
    {dict : JsonDict} (read : fromDict R dict = .ok (signed.cert receivedFrom))
    {row : CertificateRow} (received : receivedRow S R context dict = .ok (some row)) :
    row = signed.row (kept context receivedFrom) := by
  obtain ⟨sent, again, verified, _⟩ := receivedRow_some received
  rw [read] at again
  cases again
  have known := receivedRow_of_known valid read ((verified_iff valid receivedFrom).mp verified)
  rw [received] at known
  cases known
  rfl

end Accepting

section Importing

variable {Priv Pub : Type} {S : SignatureLibrary} {R : Conversions} {context : Context Priv Pub}

/-- What every saved row preserves, an import does. -/
theorem importReceivedCerts_invariant (property : CertificateTable → Prop) {file : List JsonDict}
    (saved : ∀ table, ∀ dict ∈ file, ∀ row, property table →
      receivedRow S R context dict = .ok (some row) → property (table.insertOrReplace row))
    (imported : Nat) {table : CertificateTable} (before : property table) :
    property ((importReceivedCerts S R context file imported).run table).2 := by
  induction file generalizing imported table with
  | nil => exact before
  | cons dict rest ih =>
      have later := fun other inside => saved other inside
      rw [importReceivedCerts]
      cases received : receivedRow S R context dict with
      | error raised => exact before
      | ok found =>
          rw [Call.run_lift_ok_bind]
          cases found with
          | none =>
              exact ih (fun table other member => saved table other
                (List.mem_cons_of_mem dict member)) imported before
          | some row =>
              rw [Call.run_modify_bind]
              exact ih (fun table other member => saved table other
                (List.mem_cons_of_mem dict member)) (imported + 1)
                (saved table dict List.mem_cons_self row before received)

/-- The table has a certificate with this id. -/
def Has (table : CertificateTable) (certId : String) : Prop :=
  ∃ row ∈ table.rows, row.certId = some certId

theorem has_insertOrReplace {table : CertificateTable} {signed : Signed} {receivedFrom : String}
    {certId : String} : Has (table.insertOrReplace (signed.row receivedFrom)) certId ↔
      certId = signed.certId ∨ Has table certId := by
  constructor
  · rintro ⟨row, member, named⟩
    rcases CertificateTable.mem_insertOrReplace_iff.mp member with same | ⟨old, _⟩
    · rw [same] at named
      exact Or.inl (Option.some.inj named).symm
    · exact Or.inr ⟨row, old, named⟩
  · intro either
    by_cases same : certId = signed.certId
    · exact ⟨_, CertificateTable.mem_insertOrReplace_iff.mpr (Or.inl rfl), by rw [same]; rfl⟩
    · obtain ⟨row, member, named⟩ := either.resolve_left same
      refine ⟨row, CertificateTable.mem_insertOrReplace_iff.mpr
        (Or.inr ⟨member, Or.inr fun equal => same ?_⟩), named⟩
      rw [named] at equal
      exact Option.some.inj equal

/-- The dictionary is that of a certificate whose issuer is known. -/
def Acceptable (S : SignatureLibrary) (R : Conversions) (context : Context Priv Pub)
    (dict : JsonDict) (certId : String) : Prop :=
  ∃ signed receivedFrom, Signed.Valid S signed ∧ fromDict R dict = .ok (signed.cert receivedFrom) ∧
    expectedIssuerPub context (.str signed.issuerName) = .ok (some signed.issuerPub) ∧
    signed.certId = certId

/-- A file of certificates whose issuers are known is imported as a whole. -/
theorem importReceivedCerts_acceptable {file : List JsonDict} {name : JsonDict → String}
    (acceptable : ∀ dict ∈ file, Acceptable S R context dict (name dict)) (imported : Nat)
    (table : CertificateTable) :
    ((importReceivedCerts S R context file imported).run table).1 = .ok (imported + file.length) ∧
      ∀ certId, Has ((importReceivedCerts S R context file imported).run table).2 certId ↔
        Has table certId ∨ certId ∈ file.map name := by
  induction file generalizing imported table with
  | nil => exact ⟨rfl, fun certId => by simp [importReceivedCerts]⟩
  | cons dict rest ih =>
      obtain ⟨signed, receivedFrom, valid, read, expected, named⟩ :=
        acceptable dict List.mem_cons_self
      have received := receivedRow_of_known valid read expected
      obtain ⟨counted, has⟩ := ih (fun other member => acceptable other
        (List.mem_cons_of_mem dict member)) (imported + 1)
        (table.insertOrReplace (signed.row (kept context receivedFrom)))
      rw [importReceivedCerts, received, Call.run_lift_ok_bind]
      dsimp only
      rw [Call.run_modify_bind]
      refine ⟨?_, ?_⟩
      · rw [counted, List.length_cons, Nat.add_assoc, Nat.add_comm 1]
      · intro certId
        rw [has, has_insertOrReplace, List.map_cons, List.mem_cons, named, or_assoc, or_left_comm]

end Importing

section Copies

/-- The row holds a certificate that somebody issued. -/
def Copy (S : SignatureLibrary) (issued : List TrustCertificate) (row : CertificateRow) : Prop :=
  ∃ signed receivedFrom, Signed.Valid S signed ∧ signed.cert "" ∈ issued ∧
    row = signed.row receivedFrom

/-- The dictionary is read as a certificate that somebody issued. -/
def Sent (S : SignatureLibrary) (R : Conversions) (issued : List TrustCertificate)
    (dict : JsonDict) : Prop :=
  ∃ signed receivedFrom, Signed.Valid S signed ∧ signed.cert "" ∈ issued ∧
    fromDict R dict = .ok (signed.cert receivedFrom)

variable {S : SignatureLibrary} {R : Conversions} {issued more : List TrustCertificate}

theorem Copy.append {row : CertificateRow} (copy : Copy S issued row) :
    Copy S (issued ++ more) row := by
  obtain ⟨signed, receivedFrom, valid, member, same⟩ := copy
  exact ⟨signed, receivedFrom, valid, List.mem_append_left more member, same⟩

theorem Sent.append {dict : JsonDict} (sent : Sent S R issued dict) :
    Sent S R (issued ++ more) dict := by
  obtain ⟨signed, receivedFrom, valid, member, read⟩ := sent
  exact ⟨signed, receivedFrom, valid, List.mem_append_left more member, read⟩

theorem Copy.certId {row : CertificateRow} (copy : Copy S issued row) :
    ∃ certId, row.certId = some certId := by
  obtain ⟨signed, receivedFrom, _, _, same⟩ := copy
  exact ⟨signed.certId, by rw [same]; rfl⟩

theorem exists_mapM_ok {α β : Type} {read : α → Except Raised β} {items : List α}
    (each : ∀ item ∈ items, ∃ result, read item = .ok result) :
    ∃ results, items.mapM read = .ok results ∧
      ∀ item ∈ items, ∃ result ∈ results, read item = .ok result := by
  induction items with
  | nil =>
      refine ⟨[], rfl, ?_⟩
      intro item member
      cases member
  | cons item rest ih =>
      obtain ⟨result, read_ok⟩ := each item List.mem_cons_self
      obtain ⟨results, rest_ok, found⟩ := ih fun other member =>
        each other (List.mem_cons_of_mem item member)
      refine ⟨result :: results, ?_, ?_⟩
      · rw [List.mapM_cons, read_ok, rest_ok]
        rfl
      · intro other member
        rcases List.mem_cons.mp member with same | member
        · rw [same]
          exact ⟨result, List.mem_cons_self, read_ok⟩
        · obtain ⟨found_result, inside, found_ok⟩ := found other member
          exact ⟨found_result, List.mem_cons_of_mem result inside, found_ok⟩

variable (plainText : ∀ text, R.str (.str text) = text)
include plainText

/-- Copies are read as the certificates that they are copies of. -/
theorem certificatesOf_copies {rows : List CertificateRow}
    (copies : ∀ row ∈ rows, Copy S issued row) :
    ∃ certs, certificatesOf R rows = .ok certs ∧
      (∀ cert ∈ certs, ∃ row ∈ rows, ∃ signed receivedFrom, Signed.Valid S signed ∧
        signed.cert "" ∈ issued ∧ row = signed.row receivedFrom ∧
        cert = signed.cert receivedFrom) ∧
      ∀ row ∈ rows, ∃ cert ∈ certs, ∃ (signed : Signed) (receivedFrom : String),
        row = signed.row receivedFrom ∧ cert = signed.cert receivedFrom := by
  have each : ∀ row ∈ rows, ∃ cert, fromDict R row.toDict = .ok cert := by
    intro row member
    obtain ⟨signed, receivedFrom, _, _, same⟩ := copies row member
    exact ⟨_, by rw [same, fromDict_signed_row plainText]⟩
  obtain ⟨certs, read, found⟩ := exists_mapM_ok each
  refine ⟨certs, read, ?_, ?_⟩
  · intro cert member
    obtain ⟨row, inside, read_ok⟩ := mem_mapM_ok read member
    obtain ⟨signed, receivedFrom, valid, known, same⟩ := copies row inside
    rw [same, fromDict_signed_row plainText] at read_ok
    cases read_ok
    exact ⟨row, inside, signed, receivedFrom, valid, known, same, rfl⟩
  · intro row member
    obtain ⟨cert, inside, read_ok⟩ := found row member
    obtain ⟨signed, receivedFrom, _, _, same⟩ := copies row member
    rw [same, fromDict_signed_row plainText] at read_ok
    cases read_ok
    exact ⟨_, inside, signed, receivedFrom, same, rfl⟩

/-- Whatever is passed on is what somebody issued. -/
theorem exported_sent {myName : String} {table : CertificateTable}
    (copies : ∀ row ∈ table.rows, Copy S issued row) {selection : Selection}
    {file : List JsonDict} (written : exported R myName table selection = .ok file) :
    ∀ dict ∈ file, Sent S R issued dict := by
  have selected : ∀ issuer subject, ∀ row ∈ table.certificatesFor issuer subject,
      Copy S issued row := fun issuer subject row member =>
    copies row (List.mem_filter.mp member).1
  have of_rows : ∀ issuer subject certs,
      certificatesOf R (table.certificatesFor issuer subject) = .ok certs →
      ∀ cert ∈ certs, ∀ extra, Sent S R issued (cert.toDict ++ extra) := by
    intro issuer subject certs read cert member extra
    obtain ⟨found, again, each, _⟩ := certificatesOf_copies plainText (selected issuer subject)
    rw [read] at again
    cases again
    obtain ⟨_, _, signed, receivedFrom, valid, known, _, same⟩ := each cert member
    exact ⟨signed, receivedFrom, valid, known, by
      rw [same, fromDict_toDict_append plainText]⟩
  intro dict member
  cases selection with
  | pending =>
      obtain ⟨certs, read, made⟩ := ok_of_bind written
      cases made
      obtain ⟨cert, inside, same⟩ := List.mem_map.mp member
      rw [← same]
      exact of_rows _ _ certs read cert inside _
  | bundle =>
      obtain ⟨certs, read, made⟩ := ok_of_bind written
      cases made
      obtain ⟨cert, inside, same⟩ := List.mem_map.mp member
      rw [← same, ← List.append_nil cert.toDict]
      exact of_rows _ _ certs read cert inside _
  | delegations =>
      obtain ⟨certs, read, made⟩ := ok_of_bind written
      cases made
      obtain ⟨cert, inside, same⟩ := List.mem_map.mp member
      rw [← same, ← List.append_nil cert.toDict]
      exact of_rows _ _ certs read cert (List.mem_filter.mp inside).1 _
  | single certId =>
      cases one : exportSingleCertificate R table certId with
      | error raised =>
          rw [exported, one] at written
          cases written
      | ok only =>
          rw [exported, one] at written
          cases written
          rw [List.mem_singleton] at member
          obtain ⟨cert, read, made⟩ := ok_of_bind one
          cases made
          unfold loadCertificate at read
          split at read
          · rename_i row found
            obtain ⟨signed, receivedFrom, valid, known, same⟩ :=
              copies row (List.mem_of_find?_eq_some found)
            rw [same, fromDict_signed_row plainText] at read
            cases read
            refine ⟨signed, receivedFrom, valid, known, ?_⟩
            rw [member, ← List.append_nil (signed.cert receivedFrom).toDict]
            exact fromDict_toDict_append plainText _ _
          · cases read

end Copies

section Issuing

variable {Priv Pub : Type} {S : SignatureLibrary} {R : Conversions} {context : Context Priv Pub}

/-- What `issue_certificate` makes. -/
theorem newCertificate_signed {subjectName subjectPubB64 certType certId : String}
    {validityDays : Int} {draw : Bytes} {cert : TrustCertificate}
    (made : newCertificate S R context subjectName subjectPubB64 certType validityDays certId draw =
      .ok cert) :
    ∃ signed : Signed, cert = signed.cert "" ∧ signed.certId = certId ∧
      signed.subjectName = subjectName ∧ signed.issuerName = context.myName ∧
      signed.notBefore = context.now ∧
      signed.notAfter = R.plus context.now (validityDays * 86400) ∧
      signed.createdAt = context.now ∧ signed.signature ≠ [] := by
  unfold newCertificate at made
  split at made
  · split at made
    · cases made
    · split at made
      · cases made
      · split at made
        · cases made
        · rename_i ct _
          split at made
          · cases made
          · obtain ⟨subjectPub, _, made⟩ := ok_of_bind made
            simp only at made
            split at made
            · cases made
            · cases made
            · rename_i signature issuerPub made_signature _
              cases made
              exact ⟨⟨certId, subjectName, subjectPub, context.myName, issuerPub, ct, context.now,
                R.plus context.now (validityDays * 86400), signature, context.now⟩,
                rfl, rfl, rfl, rfl, rfl, rfl, rfl, HybridSigner.sign_ne_nil made_signature⟩
  · cases made

theorem isNaN_of_realColumn {time stored : Binary64} (column : realColumn time = some stored) :
    time.isNaN = false := by
  unfold realColumn at column
  cases number : time.isNaN with
  | false => rfl
  | true =>
      rw [number, if_pos rfl] at column
      cases column

/-- A certificate that was issued and stored, at an ordinary time, is valid. -/
theorem valid_of_issued (lawful : S.Lawful) (own : OwnKeys S context.store)
    (named : context.myName ≠ "") {subjectName subjectPubB64 certType certId : String}
    {validityDays : Int} {draw : Bytes} {cert : TrustCertificate} {row : CertificateRow}
    (made : newCertificate S R context subjectName subjectPubB64 certType validityDays certId draw =
      .ok cert) (stored : rowOf R cert = .ok row) (subject : subjectName ≠ "")
    (plain : PlainTime context.now)
    (later : PlainTime (R.plus context.now (validityDays * 86400))) :
    ∃ signed : Signed, cert = signed.cert "" ∧ signed.certId = certId ∧ signed.Valid S := by
  obtain ⟨signed, same, id, subjectName_eq, issuerName_eq, notBefore_eq, notAfter_eq, createdAt_eq,
    filled⟩ := newCertificate_signed made
  obtain ⟨accepted, _, _⟩ := newCertificate_accepted lawful own made
  have stores := stores_of_rowOf stored
  rw [same] at accepted stores
  obtain ⟨edPub, dilPub, _, parsed, long, verified⟩ := verifyCertObject_ok_iff.mp accepted
  have notBefore := isNaN_of_realColumn stores.notBefore
  have notAfter := isNaN_of_realColumn stores.notAfter
  refine ⟨signed, same, id, ?_, ?_, filled, ⟨notBefore, ?_⟩, ⟨notAfter, ?_⟩, ⟨?_, ?_⟩,
    edPub, dilPub, parsed, long, verified⟩
  · rw [subjectName_eq]
    exact subject
  · rw [issuerName_eq]
    exact named
  · rw [notBefore_eq]
    exact plain
  · rw [notAfter_eq]
    exact later
  · rw [createdAt_eq, ← notBefore_eq]
    exact notBefore
  · rw [createdAt_eq]
    exact plain

/-- Either nothing is issued, or the certificate that is returned is stored. -/
theorem issueCertificate_cases (S : SignatureLibrary) (R : Conversions)
    (context : Context Priv Pub) (subjectName subjectPubB64 certType certId : String)
    (validityDays : Int) (draw : Bytes) (table : CertificateTable) :
    (∃ raised, (issueCertificate S R context subjectName subjectPubB64 certType validityDays certId
      draw).run table = (.error raised, table)) ∨
    ∃ cert row, newCertificate S R context subjectName subjectPubB64 certType validityDays certId
        draw = .ok cert ∧ rowOf R cert = .ok row ∧
      (issueCertificate S R context subjectName subjectPubB64 certType validityDays certId
        draw).run table = (.ok cert, table.insertOrReplace row) := by
  unfold issueCertificate
  cases made : newCertificate S R context subjectName subjectPubB64 certType validityDays certId
    draw with
  | error raised => exact Or.inl ⟨raised, rfl⟩
  | ok cert =>
      cases stored : rowOf R cert with
      | error raised =>
          refine Or.inl ⟨.certificateError "Failed to persist certificate", ?_⟩
          simp only [Call.run_lift_ok_bind, persist, stored]
          rfl
      | ok row =>
          refine Or.inr ⟨cert, row, rfl, stored, ?_⟩
          simp only [Call.run_lift_ok_bind, persist, stored]
          rfl

end Issuing

section Invariant

variable {Person Priv Pub Pem : Type} [DecidableEq Person] {E : Libraries Priv Pub Pem}
variable {network : Network Person Priv Pub Pem}

/-- Nothing is anywhere but copies of what was issued. -/
structure Exchanged (E : Libraries Priv Pub Pem) (network : Network Person Priv Pub Pem) :
    Prop where
  own : ∀ person, OwnKeys E.signatures (network.member person).session.store
  named : ∀ person, (network.member person).myName ≠ ""
  ids : ∀ first ∈ network.issued, ∀ second ∈ network.issued,
    first.certId = second.certId → first = second
  rows : ∀ person, ∀ row ∈ (network.member person).certificates.rows,
    Copy E.signatures network.issued row
  files : ∀ file ∈ network.files, ∀ dict ∈ file,
    Sent E.signatures E.conversions network.issued dict

/-- One member's keys, name and table are as they have to be. -/
structure Member (E : Libraries Priv Pub Pem) (issued : List TrustCertificate)
    (world : World Priv Pub Pem) : Prop where
  own : OwnKeys E.signatures world.session.store
  named : world.myName ≠ ""
  rows : ∀ row ∈ world.certificates.rows, Copy E.signatures issued row

omit [DecidableEq Person] in
theorem Exchanged.member (exchanged : Exchanged E network) (person : Person) :
    Member E network.issued (network.member person) :=
  ⟨exchanged.own person, exchanged.named person, exchanged.rows person⟩

theorem Member.append {issued : List TrustCertificate} {world : World Priv Pub Pem}
    (member : Member E issued world) (more : List TrustCertificate) :
    Member E (issued ++ more) world :=
  ⟨member.own, member.named, fun row inside => (member.rows row inside).append⟩

/-- One member changes, and certificates are issued that have ids of their own. -/
theorem Exchanged.update (exchanged : Exchanged E network) (person : Person)
    {after : World Priv Pub Pem} {more : List TrustCertificate}
    (member : Member E (network.issued ++ more) after)
    (ids : ∀ first ∈ network.issued ++ more, ∀ second ∈ network.issued ++ more,
      first.certId = second.certId → first = second) :
    Exchanged E { network with
      member := Function.update network.member person after
      issued := network.issued ++ more } := by
  have all : ∀ other, Member E (network.issued ++ more)
      (Function.update network.member person after other) := by
    intro other
    by_cases same : other = person
    · rw [same, Function.update_self]
      exact member
    · rw [Function.update_of_ne same]
      exact (exchanged.member other).append more
  exact ⟨fun other => (all other).own, fun other => (all other).named, ids,
    fun other => (all other).rows,
    fun file inside dict listed => (exchanged.files file inside dict listed).append⟩

theorem Exchanged.changed (exchanged : Exchanged E network) (person : Person)
    {after : World Priv Pub Pem} (member : Member E network.issued after) :
    Exchanged E { network with member := Function.update network.member person after } := by
  have updated : Exchanged E { network with
      member := Function.update network.member person after
      issued := network.issued ++ [] } := by
    apply exchanged.update person
    · rw [List.append_nil]
      exact member
    · rw [List.append_nil]
      exact exchanged.ids
  rw [List.append_nil] at updated
  exact updated

theorem copies_insertOrReplace {issued : List TrustCertificate} {table : CertificateTable}
    (copies : ∀ row ∈ table.rows, Copy E.signatures issued row) {row : CertificateRow}
    (copy : Copy E.signatures issued row) :
    ∀ other ∈ (table.insertOrReplace row).rows, Copy E.signatures issued other := by
  intro other member
  rcases CertificateTable.mem_insertOrReplace_iff.mp member with same | ⟨old, _⟩
  · rw [same]
    exact copy
  · exact copies other old

theorem ids_concat {issued : List TrustCertificate}
    (ids : ∀ first ∈ issued, ∀ second ∈ issued, first.certId = second.certId → first = second)
    {cert : TrustCertificate} (fresh : ∀ old ∈ issued, old.certId ≠ cert.certId) :
    ∀ first ∈ issued ++ [cert], ∀ second ∈ issued ++ [cert],
      first.certId = second.certId → first = second := by
  intro first firstMember second secondMember same
  rcases List.mem_append.mp firstMember with old | new
  · rcases List.mem_append.mp secondMember with other | last
    · exact ids first old second other same
    · rw [List.mem_singleton.mp last] at same
      exact absurd same (fresh first old)
  · rw [List.mem_singleton.mp new] at same ⊢
    rcases List.mem_append.mp secondMember with other | last
    · exact absurd same.symm (fresh second other)
    · exact (List.mem_singleton.mp last).symm

theorem ownKeys_congr {before after : KeyStore.Session Priv Pub Pem}
    (own : OwnKeys E.signatures before.store) (same : ownKeys after = ownKeys before) :
    OwnKeys E.signatures after.store := by
  intro edPriv dilPriv edKey dilKey
  have edSame := congrArg Prod.fst same
  have dilSame := congrArg (fun keys => keys.2.1) same
  have combined := congrArg (fun keys => keys.2.2) same
  exact combined.trans (own edPriv dilPriv (edSame.symm.trans edKey) (dilSame.symm.trans dilKey))

theorem exchanged_issue (lawful : E.signatures.Lawful) (exchanged : Exchanged E network)
    (person : Person) {subjectName subjectPubB64 certType certId : String} {validityDays : Int}
    {draw : Bytes} (fresh : ∀ cert ∈ network.issued, cert.certId ≠ .str certId)
    (subject : subjectName ≠ "") (plain : PlainTime (network.member person).now)
    (later : PlainTime
      (E.conversions.plus (network.member person).now (validityDays * 86400))) :
    Exchanged E ((exchanges E).apply network
      (.act person (.issue subjectName subjectPubB64 certType validityDays certId draw))) := by
  let event : Event := .issue subjectName subjectPubB64 certType validityDays certId draw
  have before := exchanged.member person
  rcases issueCertificate_cases E.signatures E.conversions (network.member person).context
    subjectName subjectPubB64 certType certId validityDays draw
    (network.member person).certificates with ⟨raised, ran⟩ | ⟨cert, row, made, stored, ran⟩
  · have none : issuedBy E (network.member person) event = .none := by
      show ((issueCertificate _ _ _ _ _ _ _ _ _).run _).1.toOption = .none
      rw [ran]
      rfl
    have table : tableAfter E (network.member person) event =
        (network.member person).certificates := congrArg Prod.snd ran
    apply exchanged.update person
    · rw [none]
      refine ⟨before.own, before.named, ?_⟩
      show ∀ row ∈ (tableAfter E (network.member person) event).rows, _
      rw [table]
      exact (before.append []).rows
    · rw [none, Option.toList_none, List.append_nil]
      exact exchanged.ids
  · have some : issuedBy E (network.member person) event = .some cert := by
      show ((issueCertificate _ _ _ _ _ _ _ _ _).run _).1.toOption = .some cert
      rw [ran]
      rfl
    have table : tableAfter E (network.member person) event =
        (network.member person).certificates.insertOrReplace row := congrArg Prod.snd ran
    obtain ⟨signed, same, id, valid⟩ := valid_of_issued lawful before.own before.named made stored
      subject plain later
    apply exchanged.update person
    · rw [some]
      refine ⟨before.own, before.named, ?_⟩
      show ∀ row ∈ (tableAfter E (network.member person) event).rows, _
      rw [table]
      apply copies_insertOrReplace (before.append [cert]).rows
      rw [same, rowOf_signed valid] at stored
      cases stored
      exact ⟨signed, "", valid, by rw [same]; exact List.mem_append_right _ (by simp), rfl⟩
    · rw [some, Option.toList_some]
      apply ids_concat exchanged.ids
      intro old member
      rw [same]
      show old.certId ≠ .str signed.certId
      rw [id]
      exact fresh old member

theorem exchanged_deliver (exchanged : Exchanged E network) (person : Person) {file : List JsonDict}
    (listed : file ∈ network.files) :
    Exchanged E ((exchanges E).apply network (.deliver person file)) := by
  have before := exchanged.member person
  have rows : ∀ row ∈ (tableAfter E (network.member person) (.importCerts file)).rows,
      Copy E.signatures network.issued row := by
    apply importReceivedCerts_invariant
      (fun table => ∀ row ∈ table.rows, Copy E.signatures network.issued row)
    · intro table dict member row copies received
      obtain ⟨signed, receivedFrom, valid, known, read⟩ :=
        exchanged.files file listed dict member
      apply copies_insertOrReplace copies
      exact ⟨signed, _, valid, known, eq_row_of_received valid read received⟩
    · exact before.rows
  exact exchanged.changed person ⟨before.own, before.named, rows⟩

/-- Every honest step keeps the invariant. -/
theorem exchanged_step (lawful : E.signatures.Lawful)
    (plainText : ∀ text, E.conversions.str (.str text) = text) (exchanged : Exchanged E network)
    {event : Exchange Person} (enabled : (exchanges E).enabled network event)
    (honest : Honest E network event) : Exchanged E ((exchanges E).apply network event) := by
  cases event with
  | deliver person file => exact exchanged_deliver exchanged person enabled
  | share person selection =>
      refine ⟨exchanged.own, exchanged.named, exchanged.ids, exchanged.rows, ?_⟩
      intro file member
      rcases List.mem_append.mp member with old | new
      · exact exchanged.files file old
      · cases written : exported E.conversions (network.member person).myName
            (network.member person).certificates selection with
        | error raised =>
            rw [written] at new
            cases new
        | ok written_file =>
            rw [written] at new
            rw [List.mem_singleton.mp new]
            exact exported_sent plainText (exchanged.rows person) written
  | act person event =>
      have before := exchanged.member person
      have idle : ∀ after : World Priv Pub Pem, Member E network.issued after →
          Exchanged E { network with
            member := Function.update network.member person after
            issued := network.issued ++ [] } := by
        intro after member
        rw [List.append_nil]
        exact exchanged.changed person member
      cases event with
      | issue subjectName subjectPubB64 certType validityDays certId draw =>
          exact exchanged_issue lawful exchanged person
            (enabled.2 _ _ _ _ _ _ rfl) honest.1 honest.2.1 honest.2.2
      | importCerts dicts => exact honest.elim
      | revoke certId reason => exact honest.elim
      | revokeAll delegatorName => exact honest.elim
      | updateFriend name update password draws =>
          exact idle _ ⟨ownKeys_congr before.own
            (saveFriend_keeps_ownKeys name update password draws _), before.named, before.rows⟩
      | removeFriend name => exact idle _ ⟨before.own, before.named, before.rows⟩
      | advance now => exact idle _ ⟨before.own, before.named, before.rows⟩

theorem exchanged_of_reachable (lawful : E.signatures.Lawful)
    (plainText : ∀ text, E.conversions.str (.str text) = text)
    (reachable : (exchanges E).Reachable (Honest E) network) : Exchanged E network := by
  refine Machine.Reachable.invariant _ (Exchanged E) ?_ ?_ reachable
  · intro start initial
    obtain ⟨files, issued, fresh⟩ := initial
    refine ⟨fun person => (fresh person).1.2, fun person => (fresh person).2, ?_, ?_, ?_⟩
    · intro first member
      rw [issued] at member
      cases member
    · intro person row member
      rw [(fresh person).1.1] at member
      cases member
    · intro file member
      rw [files] at member
      cases member
  · intro before event _ exchanged enabled honest
    exact exchanged_step lawful plainText exchanged enabled honest

end Invariant

section Levels

variable {S : SignatureLibrary} {R : Conversions} {issued : List TrustCertificate}

/-- A row without the note of where it came from. -/
def CertificateRow.bare (row : CertificateRow) : CertificateRow := { row with receivedFrom := "" }

theorem Signed.cert_injective {first second : Signed} (same : first.cert "" = second.cert "") :
    first = second := by
  cases first
  cases second
  simp only [Signed.cert, TrustCertificate.mk.injEq, Json.str.injEq] at same
  obtain ⟨rfl, rfl, rfl, rfl, rfl, rfl, rfl, rfl, rfl, -, -, -, rfl⟩ := same
  rfl

/-- Copies with one id are the same but for where they came from. -/
theorem copies_agree
    (ids : ∀ first ∈ issued, ∀ second ∈ issued, first.certId = second.certId → first = second)
    {first second : CertificateRow} (left : Copy S issued first) (right : Copy S issued second)
    (same : first.certId = second.certId) : second.bare = first.bare := by
  obtain ⟨signed, receivedFrom, _, known, rfl⟩ := left
  obtain ⟨other, otherFrom, _, otherKnown, rfl⟩ := right
  have equal := ids _ known _ otherKnown (congrArg Json.str (Option.some.inj same))
  rw [Signed.cert_injective equal]
  rfl

theorem nodup_bare {table : CertificateTable} (copies : ∀ row ∈ table.rows, Copy S issued row) :
    (table.rows.map CertificateRow.bare).Nodup := by
  have names : table.rows.filterMap CertificateRow.certId =
      table.rows.map fun row => row.certId.getD "" := by
    rw [← List.filterMap_eq_map]
    apply List.filterMap_congr
    intro row member
    obtain ⟨certId, named⟩ := (copies row member).certId
    rw [Function.comp_apply, named]
    rfl
  have unique := table.unique
  rw [names] at unique
  have through : (table.rows.map fun row => row.certId.getD "") =
      (table.rows.map CertificateRow.bare).map fun row => row.certId.getD "" := by
    rw [List.map_map]
    rfl
  rw [through] at unique
  exact unique.of_map

/-- Tables with the same ids hold the same certificates. -/
theorem bare_perm
    (ids : ∀ first ∈ issued, ∀ second ∈ issued, first.certId = second.certId → first = second)
    {left right : CertificateTable} (leftCopies : ∀ row ∈ left.rows, Copy S issued row)
    (rightCopies : ∀ row ∈ right.rows, Copy S issued row)
    (same : ∀ certId, Has left certId ↔ Has right certId) :
    (left.rows.map CertificateRow.bare).Perm (right.rows.map CertificateRow.bare) := by
  have among : ∀ {first second : CertificateTable},
      (∀ row ∈ first.rows, Copy S issued row) → (∀ row ∈ second.rows, Copy S issued row) →
      (∀ certId, Has first certId → Has second certId) →
      ∀ row ∈ first.rows.map CertificateRow.bare, row ∈ second.rows.map CertificateRow.bare := by
    intro first second firstCopies secondCopies has row member
    obtain ⟨held, inside, rfl⟩ := List.mem_map.mp member
    obtain ⟨certId, named⟩ := (firstCopies held inside).certId
    obtain ⟨other, otherInside, otherNamed⟩ := has certId ⟨held, inside, named⟩
    rw [← copies_agree ids (firstCopies held inside) (secondCopies other otherInside)
      (named.trans otherNamed.symm)]
    exact List.mem_map_of_mem otherInside
  rw [List.perm_ext_iff_of_nodup (nodup_bare leftCopies) (nodup_bare rightCopies)]
  intro row
  exact ⟨among leftCopies rightCopies (fun certId => (same certId).mp) row,
    among rightCopies leftCopies (fun certId => (same certId).mpr) row⟩

variable (plainText : ∀ text, R.str (.str text) = text)
include plainText

/-- The level is a count over the bare rows. -/
theorem getTrustLevel_copies {table : CertificateTable}
    (copies : ∀ row ∈ table.rows, Copy S issued row) (now : Binary64) (friendName : String) :
    ∃ certs, getTrustLevel R now table friendName = .ok (computeTrustLevel now certs) ∧
      (certs.filter fun cert => cert.status now = .valid).length =
        (table.rows.map CertificateRow.bare).countP fun row =>
          row.live now && CertificateTable.selects (some friendName) row.subjectName := by
  have selected : ∀ row ∈ table.certificatesFor none (some friendName), Copy S issued row :=
    fun row member => copies row (List.mem_filter.mp member).1
  obtain ⟨certs, read, _⟩ := certificatesOf_copies plainText selected
  refine ⟨certs, ?_, ?_⟩
  · unfold getTrustLevel getCertsForFriend
    rw [read]
    rfl
  · rw [valid_length read, CertificateTable.certificatesFor, List.filter_filter,
      ← List.countP_eq_length_filter, List.countP_map]
    rfl

theorem levels_agree
    (ids : ∀ first ∈ issued, ∀ second ∈ issued, first.certId = second.certId → first = second)
    {left right : CertificateTable} (leftCopies : ∀ row ∈ left.rows, Copy S issued row)
    (rightCopies : ∀ row ∈ right.rows, Copy S issued row)
    (same : ∀ certId, Has left certId ↔ Has right certId) (now : Binary64) (friendName : String) :
    ∃ level, getTrustLevel R now left friendName = .ok level ∧
      getTrustLevel R now right friendName = .ok level := by
  obtain ⟨leftCerts, leftLevel, leftCount⟩ :=
    getTrustLevel_copies plainText leftCopies now friendName
  obtain ⟨rightCerts, rightLevel, rightCount⟩ :=
    getTrustLevel_copies plainText rightCopies now friendName
  refine ⟨_, leftLevel, ?_⟩
  rw [rightLevel]
  have counts : (rightCerts.filter fun cert => cert.status now = .valid).length =
      (leftCerts.filter fun cert => cert.status now = .valid).length := by
    rw [leftCount, rightCount, (bare_perm ids leftCopies rightCopies same).countP_eq]
  unfold computeTrustLevel
  rw [counts]

end Levels

section Passing

variable {Person Priv Pub Pem : Type} [DecidableEq Person] {E : Libraries Priv Pub Pem}
variable {network : Network Person Priv Pub Pem}

/-- The id that a dictionary gives. -/
def idOf (dict : JsonDict) : String :=
  match dict.lookup "cert_id" with
  | some (.str certId) => certId
  | _ => ""

/-- One member passes everything on to another. -/
def pass (sender receiver : Person) :
    List (Network Person Priv Pub Pem → Exchange Person) :=
  [fun _ => .share sender .bundle, fun network => .deliver receiver (network.files.getLastD [])]

/-- Two members pass everything on to each other. -/
def swap (first second : Person) : List (Network Person Priv Pub Pem → Exchange Person) :=
  pass first second ++ pass second first

omit [DecidableEq Person] in
/-- The bundle has every certificate of the table and no other. -/
theorem bundle_written (plainText : ∀ text, E.conversions.str (.str text) = text)
    (exchanged : Exchanged E network) (sender : Person) :
    ∃ file, exported E.conversions (network.member sender).myName
        (network.member sender).certificates .bundle = .ok file ∧
      (∀ dict ∈ file, ∃ row ∈ (network.member sender).certificates.rows,
        ∃ signed receivedFrom, Signed.Valid E.signatures signed ∧ row = signed.row receivedFrom ∧
          fromDict E.conversions dict = .ok (signed.cert receivedFrom) ∧
          signed.certId = idOf dict) ∧
      ∀ certId, certId ∈ file.map idOf ↔ Has (network.member sender).certificates certId := by
  have all : (network.member sender).certificates.certificatesFor none none =
      (network.member sender).certificates.rows := by
    apply List.filter_eq_self.mpr
    intro row _
    rfl
  have copies := exchanged.rows sender
  rw [← all] at copies
  obtain ⟨certs, read, each, every⟩ := certificatesOf_copies plainText copies
  rw [all] at each every
  refine ⟨certs.map TrustCertificate.toDict, ?_, ?_, ?_⟩
  · unfold exported exportTrustBundle getAllCertificates
    rw [read]
    rfl
  · intro dict member
    obtain ⟨cert, inside, rfl⟩ := List.mem_map.mp member
    obtain ⟨row, present, signed, receivedFrom, valid, _, same, rfl⟩ := each cert inside
    refine ⟨row, present, signed, receivedFrom, valid, same, ?_, rfl⟩
    rw [← List.append_nil (signed.cert receivedFrom).toDict]
    exact fromDict_toDict_append plainText _ _
  · intro certId
    constructor
    · intro member
      obtain ⟨dict, listed, named⟩ := List.mem_map.mp member
      obtain ⟨cert, inside, rfl⟩ := List.mem_map.mp listed
      obtain ⟨row, present, signed, receivedFrom, _, _, same, rfl⟩ := each cert inside
      exact ⟨row, present, by rw [same, ← named]; rfl⟩
    · rintro ⟨row, present, named⟩
      obtain ⟨cert, inside, signed, receivedFrom, same, rfl⟩ := every row present
      rw [same] at named
      refine List.mem_map.mpr ⟨_, List.mem_map_of_mem inside, ?_⟩
      exact Option.some.inj named

/-- Whoever knows the issuers of all that the sender has, has it afterwards too. -/
theorem pass_run (plainText : ∀ text, E.conversions.str (.str text) = text)
    (exchanged : Exchanged E network) {sender receiver : Person}
    (knows : ∀ row ∈ (network.member sender).certificates.rows,
      Knows (network.member receiver).context row) :
    (exchanges E).Admits (Honest E) network (pass sender receiver) ∧
      (∀ person, (((exchanges E).run network (pass sender receiver)).member person).context =
        (network.member person).context) ∧
      (∀ person, person ≠ receiver →
        (((exchanges E).run network (pass sender receiver)).member person).certificates =
          (network.member person).certificates) ∧
      ∀ certId,
        Has (((exchanges E).run network (pass sender receiver)).member receiver).certificates
          certId ↔ Has (network.member receiver).certificates certId ∨
            Has (network.member sender).certificates certId := by
  obtain ⟨file, written, each, ids⟩ := bundle_written plainText exchanged sender
  have shared : (exchanges E).apply network (.share sender .bundle) =
      { network with files := network.files ++ [file] } := by
    show { network with files := network.files ++ (exported _ _ _ _).toOption.toList } = _
    rw [written]
    rfl
  have last : (network.files ++ [file]).getLastD [] = file := List.getLastD_concat
  have ran : (exchanges E).run network (pass sender receiver) =
      Network.after E { network with files := network.files ++ [file] } receiver
        (.importCerts file) := by
    show (exchanges E).apply ((exchanges E).apply network (.share sender .bundle))
      (.deliver receiver (((exchanges E).apply network (.share sender .bundle)).files.getLastD
        [])) = _
    rw [shared]
    dsimp only
    rw [last]
    rfl
  have acceptable : ∀ dict ∈ file, Acceptable E.signatures E.conversions
      (network.member receiver).context dict (idOf dict) := by
    intro dict member
    obtain ⟨row, present, signed, receivedFrom, valid, same, read, named⟩ := each dict member
    obtain ⟨pinned, expected, known⟩ := knows row present
    rw [same] at expected known
    have equal : signed.issuerPub = pinned := by
      have decoded := congrArg b64decode known
      simp only [Signed.row, b64decode_b64encode] at decoded
      exact Except.ok.inj decoded
    rw [← equal] at expected
    exact ⟨signed, receivedFrom, valid, read, expected, named⟩
  have imported := (importReceivedCerts_acceptable acceptable 0
    (network.member receiver).certificates).2
  refine ⟨⟨trivial, trivial, ?_, trivial, trivial⟩, ?_, ?_, ?_⟩
  · rw [shared]
    show (network.files ++ [file]).getLastD [] ∈ network.files ++ [file]
    rw [last]
    exact List.mem_append_right _ (List.mem_singleton_self file)
  · intro person
    rw [ran]
    show (Function.update network.member receiver _ person).context = _
    by_cases same : person = receiver
    · rw [same, Function.update_self]
      rfl
    · rw [Function.update_of_ne same]
  · intro person apart
    rw [ran]
    show (Function.update network.member receiver _ person).certificates = _
    rw [Function.update_of_ne apart]
  · intro certId
    rw [ran]
    show Has (Function.update network.member receiver _ receiver).certificates certId ↔ _
    rw [Function.update_self, ← ids]
    exact imported certId

/-- Members who exchange certificates never disagree about one, and two members who pass
everything on to each other and know the issuers then have the same certificates and give everybody
the same level. -/
theorem exchange_converges (lawful : E.signatures.Lawful)
    (plainText : ∀ text, E.conversions.str (.str text) = text)
    (reachable : (exchanges E).Reachable (Honest E) network) :
    (∀ first second, ∀ row ∈ (network.member first).certificates.rows,
      ∀ other ∈ (network.member second).certificates.rows, row.certId = other.certId →
        other.bare = row.bare) ∧
    ∀ first second, first ≠ second →
      (∀ person, person = first ∨ person = second → ∀ row,
        row ∈ (network.member first).certificates.rows ∨
          row ∈ (network.member second).certificates.rows →
            Knows (network.member person).context row) →
      (exchanges E).Admits (Honest E) network (swap first second) ∧
      (∀ person, person = first ∨ person = second → ∀ certId,
        Has (((exchanges E).run network (swap first second)).member person).certificates certId ↔
          Has (network.member first).certificates certId ∨
            Has (network.member second).certificates certId) ∧
      ∀ now friendName, ∃ level,
        getTrustLevel E.conversions now
          (((exchanges E).run network (swap first second)).member first).certificates friendName =
            .ok level ∧
        getTrustLevel E.conversions now
          (((exchanges E).run network (swap first second)).member second).certificates
            friendName = .ok level := by
  have exchanged := exchanged_of_reachable lawful plainText reachable
  refine ⟨fun first second row member other otherMember same =>
    copies_agree exchanged.ids (exchanged.rows first row member)
      (exchanged.rows second other otherMember) same, ?_⟩
  intro first second apart knows
  obtain ⟨admits, contexts, rest, has⟩ := pass_run plainText exchanged
    fun row member => knows second (Or.inr rfl) row (Or.inl member)
  let middle := (exchanges E).run network (pass first second)
  have middleReachable : (exchanges E).Reachable (Honest E) middle := reachable.run admits
  have middleExchanged := exchanged_of_reachable lawful plainText middleReachable
  have firstSame : (middle.member first).certificates = (network.member first).certificates :=
    rest first apart
  -- a row that came over is the copy of one that was there before
  have known : ∀ row ∈ (middle.member second).certificates.rows,
      Knows (middle.member first).context row := by
    intro row member
    obtain ⟨certId, named⟩ := (middleExchanged.rows second row member).certId
    have original : ∃ old, (old ∈ (network.member first).certificates.rows ∨
        old ∈ (network.member second).certificates.rows) ∧ old.certId = some certId := by
      rcases (has certId).mp ⟨row, member, named⟩ with held | came
      · obtain ⟨old, inside, oldNamed⟩ := held
        exact ⟨old, Or.inr inside, oldNamed⟩
      · obtain ⟨old, inside, oldNamed⟩ := came
        exact ⟨old, Or.inl inside, oldNamed⟩
    obtain ⟨old, inside, oldNamed⟩ := original
    have copy : Copy E.signatures middle.issued old := by
      rcases inside with one | other
      · exact exchanged.rows first old one
      · exact exchanged.rows second old other
    have bare := copies_agree middleExchanged.ids copy (middleExchanged.rows second row member)
      (oldNamed.trans named.symm)
    obtain ⟨pinned, expected, key⟩ := knows first (Or.inl rfl) old inside
    have issuer : row.issuerName = old.issuerName := by
      show row.bare.issuerName = old.bare.issuerName
      rw [bare]
    have issuerPub : row.issuerPubB64 = old.issuerPubB64 := by
      show row.bare.issuerPubB64 = old.bare.issuerPubB64
      rw [bare]
    refine ⟨pinned, ?_, issuerPub.trans key⟩
    rw [contexts first, issuer]
    exact expected
  obtain ⟨back, _, stays, both⟩ := pass_run plainText middleExchanged known
  have final : (exchanges E).run network (swap first second) =
      (exchanges E).run middle (pass second first) := Machine.run_append _ _ _ _
  have secondSame : (((exchanges E).run network (swap first second)).member second).certificates =
      (middle.member second).certificates := by
    rw [final]
    exact stays second fun same => apart same.symm
  have ids : ∀ person, person = first ∨ person = second → ∀ certId,
      Has (((exchanges E).run network (swap first second)).member person).certificates certId ↔
        Has (network.member first).certificates certId ∨
          Has (network.member second).certificates certId := by
    intro person either certId
    rcases either with same | same
    · rw [same, final, both, firstSame, has]
      tauto
    · rw [same, secondSame, has, or_comm]
  have after := exchanged_of_reachable lawful plainText
    (reachable.run (admits.append back))
  refine ⟨admits.append back, ids, fun now friendName => ?_⟩
  refine levels_agree plainText after.ids (after.rows first) (after.rows second) ?_ now friendName
  intro certId
  exact (ids first (Or.inl rfl) certId).trans (ids second (Or.inr rfl) certId).symm

end Passing

section Toy

def toyMember (name : String) (priv : Bytes) (friend : String) (friendPriv : Bytes) :
    World String String (String × Bytes) where
  session :=
    { store :=
        { myEdPriv := some priv
          myDilPriv := some priv
          myHybridSigCombinedPub := some (toyCombined priv)
          friends := [(friend, "pem", none)]
          friendsHybridSigPubs :=
            Dict.empty.set friend (toySignatures.edPublic friendPriv,
              toySignatures.dilPublic friendPriv) }
      db := .empty }
  myName := name
  now := 0
  certificates := .empty

/-- Two members who have pinned each other. -/
def toyMembers : Bool → World String String (String × Bytes)
  | true => toyMember "alice" [7] "bob" [1]
  | false => toyMember "bob" [1] "alice" [7]

theorem knows_of_columns {rows : List CertificateRow} {certId : Option String} {issuer : String}
    {pinned : Bytes} {context : Context String String}
    (columns : rows.map (fun row => (row.certId, row.issuerName, row.issuerPubB64)) =
      [(certId, issuer, b64encode pinned)])
    (expected : expectedIssuerPub context (.str issuer) = .ok (some pinned))
    {row : CertificateRow} (member : row ∈ rows) : Knows context row := by
  have listed := List.mem_map_of_mem
    (f := fun row : CertificateRow => (row.certId, row.issuerName, row.issuerPubB64)) member
  rw [columns] at listed
  simp only [List.mem_singleton, Prod.mk.injEq] at listed
  refine ⟨pinned, ?_, listed.2.2⟩
  rw [listed.2.1]
  exact expected

def toyIssued : List (Network Bool String String (String × Bytes) → Exchange Bool) :=
  [fun _ => .act true (.issue "bob" (b64encode (toyCombined [1])) "identity" 1 "c1" []),
    fun _ => .act false (.issue "alice" (b64encode (toyCombined [7])) "identity" 1 "c2" [])]

/-- Each has issued a certificate for the other. -/
def toyNetwork : Network Bool String String (String × Bytes) :=
  (exchanges toyTrustLibraries).run ⟨toyMembers, [], []⟩ toyIssued

theorem toyNetwork_rows :
    (toyNetwork.member true).certificates.rows.map
        (fun row => (row.certId, row.issuerName, row.issuerPubB64)) =
      [(some "c1", "alice", b64encode (toyCombined [7]))] ∧
    (toyNetwork.member false).certificates.rows.map
        (fun row => (row.certId, row.issuerName, row.issuerPubB64)) =
      [(some "c2", "bob", b64encode (toyCombined [1]))] := by
  decide +kernel

theorem toyMembers_know : ∀ person,
    expectedIssuerPub (toyNetwork.member person).context (.str "alice") =
      .ok (some (toyCombined [7])) ∧
    expectedIssuerPub (toyNetwork.member person).context (.str "bob") =
      .ok (some (toyCombined [1])) := by
  decide +kernel

theorem toyNetwork_reachable :
    (exchanges toyTrustLibraries).Reachable (Honest toyTrustLibraries) toyNetwork := by
  apply Machine.Reachable.run
  · apply Machine.Reachable.start
    refine ⟨rfl, rfl, fun person => ?_⟩
    cases person with
    | false =>
        refine ⟨⟨rfl, fun edPriv dilPriv edKey dilKey => ?_⟩, by decide⟩
        cases edKey
        cases dilKey
        rfl
    | true =>
        refine ⟨⟨rfl, fun edPriv dilPriv edKey dilKey => ?_⟩, by decide⟩
        cases edKey
        cases dilKey
        rfl
  · refine ⟨⟨?_, ?_⟩, ⟨by decide, by decide, by decide⟩, ⟨?_, ?_⟩,
      ⟨by decide, by decide, by decide⟩, trivial⟩
    · intro row member
      cases member
    · intro _ _ _ _ _ _ _ cert member
      cases member
    · intro row member
      cases member
    · intro _ _ _ _ certId _ same cert member
      cases same
      have issued : ((exchanges toyTrustLibraries).apply ⟨toyMembers, [], []⟩
          (.act true (.issue "bob" (b64encode (toyCombined [1])) "identity" 1 "c1" []))).issued.map
          (fun cert => toyConversions.str cert.certId) = ["c1"] := by
        decide +kernel
      have named := List.mem_map_of_mem (f := fun cert => toyConversions.str cert.certId) member
      rw [issued] at named
      intro same
      rw [same] at named
      exact absurd (List.mem_singleton.mp named) (by decide)

theorem toyNetwork_converges :
    (toyNetwork.member true).certificates.rows.map CertificateRow.certId = [some "c1"] ∧
    (toyNetwork.member false).certificates.rows.map CertificateRow.certId = [some "c2"] ∧
    ∀ person, ∀ certId, Has (((exchanges toyTrustLibraries).run toyNetwork
      (swap true false)).member person).certificates certId ↔
        Has (toyNetwork.member true).certificates certId ∨
          Has (toyNetwork.member false).certificates certId := by
  have knows : ∀ person : Bool, person = true ∨ person = false → ∀ row,
      row ∈ (toyNetwork.member true).certificates.rows ∨
        row ∈ (toyNetwork.member false).certificates.rows →
          Knows (toyNetwork.member person).context row := by
    intro person _ row member
    rcases member with held | held
    · exact knows_of_columns toyNetwork_rows.1 (toyMembers_know person).1 held
    · exact knows_of_columns toyNetwork_rows.2 (toyMembers_know person).2 held
  have both := ((exchange_converges toySignatures_lawful (fun _ => rfl)
    toyNetwork_reachable).2 true false (by decide) knows).2.1
  refine ⟨by decide +kernel, by decide +kernel, fun person => both person ?_⟩
  cases person with
  | false => exact Or.inr rfl
  | true => exact Or.inl rfl

end Toy

end UltimateEnigma.TrustChain
