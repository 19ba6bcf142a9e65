import UltimateEnigma.Py.Base64
import UltimateEnigma.Py.Json
import Mathlib.Data.List.Nodup

set_option autoImplicit false

namespace UltimateEnigma.TrustChain

open Py

/-- Exceptions by the classes that the `except` clauses tell apart. -/
inductive Raised where
  | keyError (key : String)
  | valueError
  | typeError
  | attributeError
  | overflowError
  | structError
  | databaseError
  | certificateError (message : String)
  | certificateRevokedError (message : String)
  | certificateExpiredError (certId : String)
  | certificateSignatureError (message : String)
deriving DecidableEq, Repr

inductive CertificateType where
  | identity
  | recovery
  | delegation
deriving DecidableEq, Repr

def CertificateType.value : CertificateType → String
  | .identity => "identity"
  | .recovery => "recovery"
  | .delegation => "delegation"

inductive TrustLevel where
  | none
  | basic
  | verified
  | trusted
deriving DecidableEq, Repr

/-- How many certificates the level needs. -/
def TrustLevel.needs : TrustLevel → Nat
  | .none => 0
  | .basic => 1
  | .verified => 2
  | .trusted => 3

inductive RevocationStatus where
  | valid
  | revoked
  | expired
deriving DecidableEq, Repr

/-- The names and the id are whatever the dictionary held. -/
structure TrustCertificate where
  certId : Json
  subjectName : Json
  subjectPub : Bytes
  issuerName : Json
  issuerPub : Bytes
  certType : CertificateType
  notBefore : Binary64
  notAfter : Binary64
  signature : Bytes
  revoked : Bool
  revocationReason : String
  receivedFrom : String
  createdAt : Binary64

namespace TrustCertificate

def isExpired (now : Binary64) (cert : TrustCertificate) : Bool := cert.notAfter.lt now

def status (now : Binary64) (cert : TrustCertificate) : RevocationStatus :=
  if cert.revoked then .revoked
  else if cert.isExpired now then .expired
  else .valid

theorem status_eq_valid_iff (now : Binary64) (cert : TrustCertificate) :
    cert.status now = .valid ↔ cert.revoked = false ∧ cert.isExpired now = false := by
  unfold status
  cases cert.revoked <;> cases cert.isExpired now <;> decide

end TrustCertificate

/-- `d[key]`. -/
def field (dict : JsonDict) (key : String) : Except Raised Json :=
  match dict.lookup key with
  | some value => .ok value
  | none => .error (.keyError key)

/-- `d.get(key, default)`. -/
def fieldOr (dict : JsonDict) (key : String) (default : Json) : Json :=
  (dict.lookup key).getD default

/-- `CertificateType(value)`. -/
def certificateType : Json → Except Raised CertificateType
  | .str text =>
      if text = "identity" then .ok .identity
      else if text = "recovery" then .ok .recovery
      else if text = "delegation" then .ok .delegation
      else .error .valueError
  | _ => .error .valueError

/-- `_b64_decode`: only text has an `encode`. -/
def decodeB64 : Json → Except Raised Bytes
  | .str text =>
      match b64decode text with
      | .ok bytes => .ok bytes
      | .error _ => .error .valueError
  | _ => .error .attributeError

section Reading

variable (R : Conversions)

/-- `float(value)`. -/
def toFloat : Json → Except Raised Binary64
  | .float value => .ok value
  | .int value =>
      match R.floatOfInt value with
      | some number => .ok number
      | none => .error .overflowError
  | .bool value =>
      match R.floatOfInt value.toNat with
      | some number => .ok number
      | none => .error .overflowError
  | .str text =>
      match R.floatOfText text with
      | some number => .ok number
      | none => .error .valueError
  | _ => .error .typeError

/-- `TrustCertificate.from_dict`. -/
def fromDict (dict : JsonDict) : Except Raised TrustCertificate := do
  let certType ← field dict "cert_type" >>= certificateType
  let certId ← field dict "cert_id"
  let subjectName ← field dict "subject_name"
  let subjectPub ← field dict "subject_pub_b64" >>= decodeB64
  let issuerName ← field dict "issuer_name"
  let issuerPub ← field dict "issuer_pub_b64" >>= decodeB64
  let notBefore ← field dict "not_before" >>= toFloat R
  let notAfter ← field dict "not_after" >>= toFloat R
  let signature ← field dict "signature_b64" >>= decodeB64
  let createdAt ← toFloat R (fieldOr dict "created_at" (.float 0))
  return {
    certId, subjectName, subjectPub, issuerName, issuerPub, certType, notBefore, notAfter
    signature
    revoked := (fieldOr dict "revoked" (.bool false)).truthy
    revocationReason := R.str (fieldOr dict "revocation_reason" (.str ""))
    receivedFrom := R.str (fieldOr dict "received_from" (.str ""))
    createdAt }

/-- Binding a value to a column of text affinity; `none` is `NULL`. -/
def textColumn : Json → Except Raised (Option String)
  | .null => .ok none
  | .bool value => .ok (some (if value then "1" else "0"))
  | .int value =>
      if -(2 ^ 63) ≤ value ∧ value < 2 ^ 63 then .ok (some (toString value))
      else .error .overflowError
  | .float value => .ok (if value.isNaN then none else some (R.realText value))
  | .str text => .ok (some text)
  | .list _ | .dict _ => .error .databaseError

end Reading

/-- A column declared `NOT NULL`. -/
def notNull {α : Type} : Option α → Except Raised α
  | some value => .ok value
  | none => .error .databaseError

/-- A float in a column of real affinity: NaN becomes `NULL`, a negative zero loses its sign. -/
def realColumn (value : Binary64) : Option Binary64 :=
  if value.isNaN then none
  else if value = BitVec.ofNat 64 (2 ^ 63) then some 0
  else some value

/-- A row of `trust_certificates`. -/
structure CertificateRow where
  certId : Option String
  subjectName : String
  subjectPubB64 : String
  issuerName : String
  issuerPubB64 : String
  certType : String
  notBefore : Binary64
  notAfter : Binary64
  signatureB64 : String
  revoked : Bool
  revocationReason : String
  receivedFrom : String
  createdAt : Binary64
deriving DecidableEq, Repr

/-- `dict(zip(cols, row))`. -/
def CertificateRow.toDict (row : CertificateRow) : JsonDict :=
  [("cert_id", row.certId.elim .null .str),
    ("subject_name", .str row.subjectName),
    ("subject_pub_b64", .str row.subjectPubB64),
    ("issuer_name", .str row.issuerName),
    ("issuer_pub_b64", .str row.issuerPubB64),
    ("cert_type", .str row.certType),
    ("not_before", .float row.notBefore),
    ("not_after", .float row.notAfter),
    ("signature_b64", .str row.signatureB64),
    ("revoked", .int row.revoked.toNat),
    ("revocation_reason", .str row.revocationReason),
    ("received_from", .str row.receivedFrom),
    ("created_at", .float row.createdAt)]

/-- The row that `save_trust_certificate(cert.to_dict())` writes. -/
def rowOf (R : Conversions) (cert : TrustCertificate) : Except Raised CertificateRow := do
  let certId ← textColumn R cert.certId
  let subjectName ← textColumn R cert.subjectName >>= notNull
  let issuerName ← textColumn R cert.issuerName >>= notNull
  let notBefore ← notNull (realColumn cert.notBefore)
  let notAfter ← notNull (realColumn cert.notAfter)
  let createdAt ← notNull (realColumn cert.createdAt)
  return {
    certId, subjectName, issuerName, notBefore, notAfter, createdAt
    subjectPubB64 := b64encode cert.subjectPub
    issuerPubB64 := b64encode cert.issuerPub
    certType := cert.certType.value
    signatureB64 := b64encode cert.signature
    revoked := cert.revoked
    revocationReason := cert.revocationReason
    receivedFrom := cert.receivedFrom }

/-- The table, in the order of its row ids. `cert_id` is its primary key, which as text may
be `NULL` any number of times. -/
structure CertificateTable where
  rows : List CertificateRow
  unique : (rows.filterMap CertificateRow.certId).Nodup

namespace CertificateTable

def empty : CertificateTable := ⟨[], List.nodup_nil⟩

/-- The rows that `INSERT OR REPLACE` leaves for another id. -/
def others (rows : List CertificateRow) (certId : Option String) : List CertificateRow :=
  rows.filter fun old => certId.isNone || old.certId != certId

theorem mem_others_iff {rows : List CertificateRow} {certId : Option String}
    {old : CertificateRow} :
    old ∈ others rows certId ↔ old ∈ rows ∧ (certId = none ∨ old.certId ≠ certId) := by
  simp only [others, List.mem_filter, Bool.or_eq_true, Option.isNone_iff_eq_none, bne_iff_ne]

def insertOrReplace (table : CertificateTable) (row : CertificateRow) : CertificateTable where
  rows := others table.rows row.certId ++ [row]
  unique := by
    have sub : ((others table.rows row.certId).filterMap CertificateRow.certId).Nodup :=
      table.unique.sublist (List.filter_sublist.filterMap _)
    rw [List.filterMap_append]
    cases certId : row.certId with
    | none =>
        rw [certId] at sub
        simp only [List.filterMap_cons, certId, List.filterMap_nil, List.append_nil]
        exact sub
    | some id =>
        rw [certId] at sub
        simp only [List.filterMap_cons, certId, List.filterMap_nil]
        refine List.nodup_append.mpr ⟨sub, List.nodup_singleton id, ?_⟩
        intro left inside right last same
        obtain ⟨old, member, named⟩ := List.mem_filterMap.mp inside
        rw [List.mem_singleton] at last
        rcases (mem_others_iff.mp member).2 with missing | differs
        · cases missing
        · exact differs (named.trans (congrArg some (same.trans last)))

theorem mem_insertOrReplace_iff {table : CertificateTable} {row old : CertificateRow} :
    old ∈ (table.insertOrReplace row).rows ↔
      old = row ∨ (old ∈ table.rows ∧ (row.certId = none ∨ old.certId ≠ row.certId)) := by
  simp only [insertOrReplace, List.mem_append, List.mem_singleton, mem_others_iff]
  exact or_comm

/-- An id names at most one row. -/
theorem eq_of_certId {table : CertificateTable} {left right : CertificateRow} {id : String}
    (leftMember : left ∈ table.rows) (rightMember : right ∈ table.rows)
    (leftId : left.certId = some id) (rightId : right.certId = some id) : left = right := by
  obtain ⟨rows, unique⟩ := table
  simp only at leftMember rightMember
  induction rows with
  | nil => cases leftMember
  | cons row rest ih =>
      have tail : (rest.filterMap CertificateRow.certId).Nodup :=
        unique.sublist ((List.sublist_cons_self row rest).filterMap _)
      have apart (other : CertificateRow) (member : other ∈ rest)
          (named : other.certId = some id) (first : row.certId = some id) : False := by
        rw [List.filterMap_cons, first] at unique
        exact (List.nodup_cons.mp unique).1 (List.mem_filterMap.mpr ⟨other, member, named⟩)
      rcases List.mem_cons.mp leftMember with rfl | leftRest
      · rcases List.mem_cons.mp rightMember with rfl | rightRest
        · rfl
        · exact (apart right rightRest rightId leftId).elim
      · rcases List.mem_cons.mp rightMember with rfl | rightRest
        · exact (apart left leftRest leftId rightId).elim
        · exact ih tail leftRest rightRest

/-- `if value: query += " AND column = ?"`. -/
def selects (wanted : Option String) (found : String) : Bool :=
  match wanted with
  | none => true
  | some text => text == "" || found == text

/-- `get_trust_certificates_for`. -/
def certificatesFor (table : CertificateTable) (issuerName subjectName : Option String) :
    List CertificateRow :=
  table.rows.filter fun row =>
    selects issuerName row.issuerName && selects subjectName row.subjectName

theorem mem_certificatesFor_subject {table : CertificateTable} {subject : String}
    {row : CertificateRow} :
    row ∈ table.certificatesFor none (some subject) ↔
      row ∈ table.rows ∧ (subject = "" ∨ row.subjectName = subject) := by
  simp only [certificatesFor, selects, List.mem_filter, Bool.true_and, Bool.or_eq_true, beq_iff_eq]

end CertificateTable

/-- `compute_trust_level`. -/
def computeTrustLevel (now : Binary64) (certs : List TrustCertificate) : TrustLevel :=
  let validCount := (certs.filter fun cert => cert.status now = .valid).length
  if 3 ≤ validCount then .trusted
  else if validCount = 2 then .verified
  else if validCount = 1 then .basic
  else .none

/-- The level needs no more certificates than there are valid ones. -/
theorem computeTrustLevel_needs_le (now : Binary64) (certs : List TrustCertificate) :
    (computeTrustLevel now certs).needs ≤
      (certs.filter fun cert => cert.status now = .valid).length := by
  unfold computeTrustLevel
  simp only
  split
  · assumption
  · split
    · rename_i two
      exact Nat.le_of_eq two.symm
    · split
      · rename_i one
        exact Nat.le_of_eq one.symm
      · exact Nat.zero_le _

end UltimateEnigma.TrustChain
