import UltimateEnigma.Py.Faults
import UltimateEnigma.TrustLevels
import Mathlib.Data.List.Perm.Basic

set_option autoImplicit false

namespace UltimateEnigma.TrustChain

open Py

namespace CertificateTable

/-- Rows of which neither replaces the other. -/
def Apart (first second : CertificateRow) : Prop :=
  first.certId = none ∨ first.certId ≠ second.certId

theorem Apart.symm {first second : CertificateRow} (apart : Apart first second) :
    Apart second first := by
  cases missing : second.certId with
  | none => exact .inl missing
  | some id =>
      refine .inr fun same => ?_
      obtain absent | differs := apart
      · rw [absent, missing] at same
        cases same
      · exact differs same.symm

/-- `INSERT OR REPLACE` of one row after the other. -/
def saveAll (table : CertificateTable) (rows : List CertificateRow) : CertificateTable :=
  rows.foldl insertOrReplace table

/-- The old rows that none of the new ones replaces. -/
def unreplaced (table : CertificateTable) (rows : List CertificateRow) : List CertificateRow :=
  table.rows.filter fun old => ∀ row ∈ rows, row.certId = none ∨ old.certId ≠ row.certId

theorem saveAll_rows {rows : List CertificateRow} (distinct : rows.Pairwise Apart)
    (table : CertificateTable) : (table.saveAll rows).rows = table.unreplaced rows ++ rows := by
  induction rows generalizing table with
  | nil =>
      simp only [saveAll, List.foldl_nil, unreplaced, List.not_mem_nil, false_implies, implies_true,
        decide_true, List.filter_true, List.append_nil]
  | cons row rest ih =>
      obtain ⟨apart, distinctRest⟩ := List.pairwise_cons.mp distinct
      have keepsRow : ∀ later ∈ rest, later.certId = none ∨ row.certId ≠ later.certId := by
        intro later member
        obtain missing | differs := (apart later member).symm
        · exact .inl missing
        · exact .inr differs.symm
      have unreplaced_eq : (table.insertOrReplace row).unreplaced rest =
          table.unreplaced (row :: rest) ++ [row] := by
        unfold unreplaced insertOrReplace
        rw [List.filter_append, List.filter_singleton, decide_eq_true keepsRow]
        congr 1
        rw [others, List.filter_filter]
        refine List.filter_congr fun old _ => ?_
        rw [Bool.eq_iff_iff]
        simp only [Bool.and_eq_true, decide_eq_true_eq, Bool.or_eq_true, Option.isNone_iff_eq_none,
          bne_iff_ne, List.forall_mem_cons]
        exact and_comm
      show ((table.insertOrReplace row).saveAll rest).rows = _
      rw [ih distinctRest, unreplaced_eq, List.append_assoc]
      rfl

/-- The order of rows with different ids makes no difference but to the order of the table. -/
theorem saveAll_perm {rows others : List CertificateRow} (permuted : others.Perm rows)
    (distinct : rows.Pairwise Apart) (table : CertificateTable) :
    (table.saveAll others).rows.Perm (table.saveAll rows).rows := by
  have othersDistinct : others.Pairwise Apart :=
    permuted.symm.pairwise distinct fun apart => apart.symm
  rw [saveAll_rows distinct, saveAll_rows othersDistinct]
  have same : table.unreplaced others = table.unreplaced rows := by
    refine List.filter_congr fun old _ => ?_
    rw [decide_eq_decide]
    exact forall_congr' fun row => imp_congr_left permuted.mem_iff
  rw [same]
  exact permuted.append_left _

end CertificateTable

/-- SQLite has a type for the value. -/
def bindable : Json → Prop
  | .int value => -(2 ^ 63) ≤ value ∧ value < 2 ^ 63
  | .list _ | .dict _ => False
  | .null | .bool _ | .float _ | .str _ => True

def isNaN : Json → Prop
  | .float value => value.isNaN = true
  | _ => False

/-- The certificates table takes the certificate. -/
structure TrustCertificate.Storable (cert : TrustCertificate) : Prop where
  certId : bindable cert.certId
  subjectName : bindable cert.subjectName ∧ ¬ isNaN cert.subjectName
  notBefore : cert.notBefore.isNaN = false
  notAfter : cert.notAfter.isNaN = false
  createdAt : cert.createdAt.isNaN = false

section Storing

variable {R : Conversions}

theorem textColumn_ok_iff {value : Json} :
    (∃ text, textColumn R value = .ok text) ↔ bindable value := by
  cases value with
  | null => exact ⟨fun _ => trivial, fun _ => ⟨_, rfl⟩⟩
  | bool value => exact ⟨fun _ => trivial, fun _ => ⟨_, rfl⟩⟩
  | float value => exact ⟨fun _ => trivial, fun _ => ⟨_, rfl⟩⟩
  | str value => exact ⟨fun _ => trivial, fun _ => ⟨_, rfl⟩⟩
  | list items => exact ⟨fun ⟨_, bound⟩ => (nomatch bound), False.elim⟩
  | dict items => exact ⟨fun ⟨_, bound⟩ => (nomatch bound), False.elim⟩
  | int value =>
      simp only [textColumn, bindable]
      split
      · next fits => exact ⟨fun _ => fits, fun _ => ⟨_, rfl⟩⟩
      · next large => exact ⟨fun ⟨_, bound⟩ => (nomatch bound), fun fits => (large fits).elim⟩

/-- A named value is stored as a text, unless it is NaN. -/
theorem namedColumn_ok_iff {value : Json} (named : value.truthy = true) :
    (∃ text, textColumn R value >>= notNull = .ok text) ↔ bindable value ∧ ¬ isNaN value := by
  cases value with
  | null => cases named
  | bool value => exact ⟨fun _ => ⟨trivial, id⟩, fun _ => ⟨_, rfl⟩⟩
  | str value => exact ⟨fun _ => ⟨trivial, id⟩, fun _ => ⟨_, rfl⟩⟩
  | list items => exact ⟨fun ⟨_, bound⟩ => (nomatch bound), fun bound => bound.1.elim⟩
  | dict items => exact ⟨fun ⟨_, bound⟩ => (nomatch bound), fun bound => bound.1.elim⟩
  | float value =>
      simp only [textColumn, bindable, isNaN, true_and]
      cases number : value.isNaN with
      | true => exact ⟨fun ⟨_, bound⟩ => (nomatch bound), fun isNumber => (isNumber rfl).elim⟩
      | false => exact ⟨fun _ => nofun, fun _ => ⟨_, rfl⟩⟩
  | int value =>
      simp only [textColumn, bindable, isNaN, not_false_eq_true, and_true]
      split
      · next fits => exact ⟨fun _ => fits, fun _ => ⟨_, rfl⟩⟩
      · next large => exact ⟨fun ⟨_, bound⟩ => (nomatch bound), fun fits => (large fits).elim⟩

theorem realColumn_ok_iff {value : Binary64} :
    (∃ stored, notNull (realColumn value) = .ok stored) ↔ value.isNaN = false := by
  unfold realColumn
  cases number : value.isNaN with
  | true => exact ⟨fun ⟨_, stored⟩ => (nomatch stored), nofun⟩
  | false =>
      refine ⟨fun _ => rfl, fun _ => ?_⟩
      simp only [Bool.false_eq_true, if_false]
      split
      · exact ⟨_, rfl⟩
      · exact ⟨_, rfl⟩

theorem rowOf_ok_iff {cert : TrustCertificate} {issuer : String}
    (issuerName : cert.issuerName = .str issuer)
    (named : cert.subjectName.truthy = true) :
    (∃ row, rowOf R cert = .ok row) ↔ cert.Storable := by
  constructor
  · rintro ⟨row, made⟩
    unfold rowOf at made
    obtain ⟨certId, certId_ok, made⟩ := ok_of_bind made
    obtain ⟨subjectName, subject_ok, made⟩ := ok_of_bind made
    obtain ⟨issuerName', -, made⟩ := ok_of_bind made
    obtain ⟨notBefore, notBefore_ok, made⟩ := ok_of_bind made
    obtain ⟨notAfter, notAfter_ok, made⟩ := ok_of_bind made
    obtain ⟨createdAt, createdAt_ok, -⟩ := ok_of_bind made
    exact ⟨textColumn_ok_iff.mp ⟨_, certId_ok⟩, (namedColumn_ok_iff named).mp ⟨_, subject_ok⟩,
      realColumn_ok_iff.mp ⟨_, notBefore_ok⟩, realColumn_ok_iff.mp ⟨_, notAfter_ok⟩,
      realColumn_ok_iff.mp ⟨_, createdAt_ok⟩⟩
  · rintro ⟨certId, subjectName, notBefore, notAfter, createdAt⟩
    obtain ⟨certId', certId_ok⟩ := textColumn_ok_iff.mpr certId
    obtain ⟨subjectName', subject_ok⟩ := (namedColumn_ok_iff named).mpr subjectName
    obtain ⟨notBefore', notBefore_ok⟩ := realColumn_ok_iff.mpr notBefore
    obtain ⟨notAfter', notAfter_ok⟩ := realColumn_ok_iff.mpr notAfter
    obtain ⟨createdAt', createdAt_ok⟩ := realColumn_ok_iff.mpr createdAt
    unfold rowOf
    rw [certId_ok, subject_ok, issuerName, notBefore_ok, notAfter_ok, createdAt_ok]
    exact ⟨_, rfl⟩

theorem textColumn_error {value : Json} {raised : Raised} (failed : textColumn R value = .error raised) :
    raised.isKeyValueOrType = false := by
  unfold textColumn at failed
  split at failed
  · cases failed
  · cases failed
  · split at failed
    · cases failed
    · cases failed
      rfl
  · cases failed
  · cases failed
  · cases failed
    rfl
  · cases failed
    rfl

theorem notNull_error {α : Type} {value : Option α} {raised : Raised}
    (failed : notNull value = .error raised) : raised.isKeyValueOrType = false := by
  cases value with
  | none =>
      cases failed
      rfl
  | some value => cases failed

/-- Nothing that the database raises is caught by the loop. -/
theorem rowOf_error {cert : TrustCertificate} {raised : Raised}
    (failed : rowOf R cert = .error raised) : raised.isKeyValueOrType = false := by
  unfold rowOf at failed
  obtain failed | ⟨certId, -, failed⟩ := error_of_bind failed
  · exact textColumn_error failed
  obtain failed | ⟨subjectName, -, failed⟩ := error_of_bind failed
  · obtain failed | ⟨text, -, failed⟩ := error_of_bind failed
    · exact textColumn_error failed
    · exact notNull_error failed
  obtain failed | ⟨issuerName, -, failed⟩ := error_of_bind failed
  · obtain failed | ⟨text, -, failed⟩ := error_of_bind failed
    · exact textColumn_error failed
    · exact notNull_error failed
  obtain failed | ⟨notBefore, -, failed⟩ := error_of_bind failed
  · exact notNull_error failed
  obtain failed | ⟨notAfter, -, failed⟩ := error_of_bind failed
  · exact notNull_error failed
  obtain failed | ⟨createdAt, -, failed⟩ := error_of_bind failed
  · exact notNull_error failed
  cases failed

end Storing

section Entries

variable {Priv Pub : Type} (S : SignatureLibrary) (R : Conversions) (context : Context Priv Pub)

/-- Both names are there, and a signature. -/
def TrustCertificate.Complete (cert : TrustCertificate) : Prop :=
  cert.subjectName.truthy = true ∧ cert.issuerName.truthy = true ∧ cert.signature ≠ []

instance (cert : TrustCertificate) : Decidable cert.Complete :=
  inferInstanceAs (Decidable (_ ∧ _ ∧ _))

/-- The certificate as the importer keeps it. -/
def TrustCertificate.received (cert : TrustCertificate) : TrustCertificate :=
  if cert.receivedFrom = "" then { cert with receivedFrom := context.myName } else cert

/-- What an entry is accepted as, looked at on its own: it parses, has its names and a signature,
and verifies against the key that is pinned for its issuer. -/
def accepted? (dict : JsonDict) : Option TrustCertificate :=
  match fromDict R dict with
  | .error _ => none
  | .ok cert =>
      match verifyCertObject S R context cert with
      | .ok () => if cert.Complete then some (cert.received context) else none
      | .error _ => none

/-- The row that an accepted entry is stored as. -/
def savedRow (dict : JsonDict) : Option CertificateRow :=
  (accepted? S R context dict).bind fun cert => (rowOf R cert).toOption

/-- The entry raises nothing that the loop does not catch. -/
structure Harmless (dict : JsonDict) : Prop where
  parsed : fromDict R dict ≠ .error .attributeError ∧ fromDict R dict ≠ .error .overflowError
  verified : ∀ cert, fromDict R dict = .ok cert → cert.Complete →
    verifyCertObject S R context cert ≠ .error .structError
  stored : ∀ cert, accepted? S R context dict = some cert → cert.Storable

end Entries

section Errors

variable {Priv Pub : Type} {S : SignatureLibrary} {R : Conversions} {context : Context Priv Pub}

theorem field_error {dict : JsonDict} {key : String} {raised : Raised}
    (failed : field dict key = .error raised) : raised.isKeyValueOrType = true := by
  unfold field at failed
  split at failed
  · cases failed
  · cases failed
    rfl

theorem certificateType_error {value : Json} {raised : Raised}
    (failed : certificateType value = .error raised) : raised.isKeyValueOrType = true := by
  unfold certificateType at failed
  repeat' split at failed
  all_goals cases failed
  all_goals rfl

theorem decodeB64_error {value : Json} {raised : Raised} (failed : decodeB64 value = .error raised) :
    raised.isKeyValueOrType = true ∨ raised = .attributeError := by
  unfold decodeB64 at failed
  split at failed
  · split at failed
    · cases failed
    · cases failed
      exact .inl rfl
  · cases failed
    exact .inr rfl

theorem toFloat_error {value : Json} {raised : Raised} (failed : toFloat R value = .error raised) :
    raised.isKeyValueOrType = true ∨ raised = .overflowError := by
  unfold toFloat at failed
  split at failed
  · cases failed
  · split at failed
    · cases failed
    · cases failed
      exact .inr rfl
  · split at failed
    · cases failed
    · cases failed
      exact .inr rfl
  · split at failed
    · cases failed
    · cases failed
      exact .inl rfl
  · cases failed
    exact .inl rfl

/-- What `from_dict` raises that the loop does not catch. -/
theorem fromDict_error {dict : JsonDict} {raised : Raised} (failed : fromDict R dict = .error raised) :
    raised.isKeyValueOrType = true ∨ raised = .attributeError ∨ raised = .overflowError := by
  have text {key : String} (failed : field dict key >>= decodeB64 = .error raised) :
      raised.isKeyValueOrType = true ∨ raised = .attributeError ∨ raised = .overflowError := by
    obtain missing | ⟨value, -, undecodable⟩ := error_of_bind failed
    · exact .inl (field_error missing)
    · exact (decodeB64_error undecodable).imp_right .inl
  have number {key : String} (failed : field dict key >>= toFloat R = .error raised) :
      raised.isKeyValueOrType = true ∨ raised = .attributeError ∨ raised = .overflowError := by
    obtain missing | ⟨value, -, unreadable⟩ := error_of_bind failed
    · exact .inl (field_error missing)
    · exact (toFloat_error unreadable).imp_right .inr
  unfold fromDict at failed
  obtain failed | ⟨certType, -, failed⟩ := error_of_bind failed
  · obtain missing | ⟨value, -, unknown⟩ := error_of_bind failed
    · exact .inl (field_error missing)
    · exact .inl (certificateType_error unknown)
  obtain failed | ⟨certId, -, failed⟩ := error_of_bind failed
  · exact .inl (field_error failed)
  obtain failed | ⟨subjectName, -, failed⟩ := error_of_bind failed
  · exact .inl (field_error failed)
  obtain failed | ⟨subjectPub, -, failed⟩ := error_of_bind failed
  · exact text failed
  obtain failed | ⟨issuerName, -, failed⟩ := error_of_bind failed
  · exact .inl (field_error failed)
  obtain failed | ⟨issuerPub, -, failed⟩ := error_of_bind failed
  · exact text failed
  obtain failed | ⟨notBefore, -, failed⟩ := error_of_bind failed
  · exact number failed
  obtain failed | ⟨notAfter, -, failed⟩ := error_of_bind failed
  · exact number failed
  obtain failed | ⟨signature, -, failed⟩ := error_of_bind failed
  · exact text failed
  obtain failed | ⟨createdAt, -, failed⟩ := error_of_bind failed
  · exact (toFloat_error failed).imp_right .inr
  cases failed

theorem packKey_error {key : Bytes} {raised : Raised} (failed : packKey key = .error raised) :
    raised = .structError := by
  unfold packKey at failed
  split at failed
  · cases failed
  · cases failed
    rfl

theorem expectedIssuerPub_error {issuerName : Json} {raised : Raised}
    (failed : expectedIssuerPub context issuerName = .error raised) :
    raised = .typeError ∨ raised = .structError := by
  unfold expectedIssuerPub at failed
  split at failed
  · split at failed
    · cases failed
    · split at failed
      · cases failed
      · obtain failed | ⟨ed, -, failed⟩ := error_of_bind failed
        · exact .inr (packKey_error failed)
        obtain failed | ⟨dil, -, failed⟩ := error_of_bind failed
        · exact .inr (packKey_error failed)
        cases failed
  · cases failed
    exact .inl rfl
  · cases failed
    exact .inl rfl
  · cases failed

/-- What `_verify_cert_object` raises that the loop does not catch. -/
theorem verifyCertObject_error {cert : TrustCertificate} {raised : Raised}
    (failed : verifyCertObject S R context cert = .error raised) :
    raised.isKeyValueOrType = true ∨ raised = .structError ∨
      ∃ message, raised = .certificateSignatureError message := by
  unfold verifyCertObject at failed
  obtain failed | ⟨found, -, failed⟩ := error_of_bind failed
  · obtain rfl | rfl := expectedIssuerPub_error failed
    · exact .inl rfl
    · exact .inr (.inl rfl)
  cases found with
  | none =>
      cases failed
      exact .inr (.inr ⟨_, rfl⟩)
  | some expected =>
      simp only at failed
      split at failed
      · cases failed
        exact .inr (.inr ⟨_, rfl⟩)
      obtain failed | ⟨⟨edPub, dilPub⟩, -, failed⟩ := error_of_bind failed
      · unfold parseIssuerPub at failed
        split at failed
        · cases failed
        · cases failed
          exact .inr (.inl rfl)
      simp only at failed
      split at failed
      · cases failed
        exact .inl rfl
      · split at failed
        · cases failed
        · cases failed
          exact .inr (.inr ⟨_, rfl⟩)

end Errors

section Import

variable {Priv Pub : Type} {S : SignatureLibrary} {R : Conversions} {context : Context Priv Pub}
variable {dict : JsonDict} {cert : TrustCertificate}

theorem accepted?_eq_some_iff : accepted? S R context dict = some cert ↔
    ∃ sent, fromDict R dict = .ok sent ∧ sent.Complete ∧
      verifyCertObject S R context sent = .ok () ∧ cert = sent.received context := by
  unfold accepted?
  constructor
  · intro accepted
    split at accepted
    · cases accepted
    · next sent read =>
        split at accepted
        · next verified =>
            split at accepted
            · next complete =>
                exact ⟨sent, read, complete, verified, (Option.some.inj accepted).symm⟩
            · cases accepted
        · cases accepted
  · rintro ⟨sent, read, complete, verified, rfl⟩
    simp only [read, verified, if_pos complete]

theorem received_subjectName : (cert.received context).subjectName = cert.subjectName := by
  unfold TrustCertificate.received
  split <;> rfl

theorem received_issuerName : (cert.received context).issuerName = cert.issuerName := by
  unfold TrustCertificate.received
  split <;> rfl

/-- The loop's body before it saves, for an entry that parses. -/
theorem checkReceived_of_read (read : fromDict R dict = .ok cert) :
    checkReceived S R context dict =
      if cert.Complete then
        match verifyCertObject S R context cert with
        | .error (.certificateSignatureError _) => .ok none
        | .error raised => .error raised
        | .ok () => .ok (some (cert.received context))
      else .ok none := by
  unfold checkReceived
  rw [read]
  show (if cert.subjectName.truthy = false ∨ cert.issuerName.truthy = false then _ else _) = _
  by_cases complete : cert.Complete
  · have named : ¬ (cert.subjectName.truthy = false ∨ cert.issuerName.truthy = false) := by
      rw [complete.1, complete.2.1]
      decide
    rw [if_pos complete, if_neg named, if_neg complete.2.2]
    rfl
  · rw [if_neg complete]
    split
    · rfl
    · next named =>
        rw [not_or, Bool.not_eq_false, Bool.not_eq_false] at named
        have unsigned : cert.signature = [] := by
          by_contra signed
          exact complete ⟨named.1, named.2, signed⟩
        rw [if_pos unsigned]
        rfl

theorem orContinue_caught {α : Type} {raised : Raised} (caught : raised.isKeyValueOrType = true) :
    orContinue (.error raised : Except Raised (Option α)) = .ok none := by
  rw [orContinue, if_pos caught]

theorem orContinue_escapes {α : Type} {raised : Raised} (escapes : raised.isKeyValueOrType = false) :
    orContinue (.error raised : Except Raised (Option α)) = .error raised := by
  rw [orContinue, escapes]
  rfl

theorem rowOf_received_iff (complete : cert.Complete)
    (verified : verifyCertObject S R context cert = .ok ()) :
    (∃ row, rowOf R (cert.received context) = .ok row) ↔ (cert.received context).Storable := by
  obtain ⟨edPub, dilPub, expected, -⟩ := verifyCertObject_ok_iff.mp verified
  obtain ⟨name, issuerName⟩ := issuerName_of_expected expected
  have issuer : (cert.received context).issuerName = .str name := by
    rw [received_issuerName]
    exact issuerName
  have subject : (cert.received context).subjectName.truthy = true := by
    rw [received_subjectName]
    exact complete.1
  exact rowOf_ok_iff issuer subject

/-- A harmless entry is stored as it is accepted on its own, or passed over. -/
theorem Harmless.receivedRow_eq (harmless : Harmless S R context dict) :
    receivedRow S R context dict = .ok (savedRow S R context dict) := by
  unfold receivedRow savedRow
  cases read : fromDict R dict with
  | error raised =>
      have failed : checkReceived S R context dict = .error raised := by
        unfold checkReceived
        rw [read]
        rfl
      have caught : raised.isKeyValueOrType = true := by
        obtain caught | rfl | rfl := fromDict_error read
        · exact caught
        · exact (harmless.parsed.1 read).elim
        · exact (harmless.parsed.2 read).elim
      rw [failed]
      show orContinue (.error raised) = _
      rw [orContinue_caught caught]
      simp only [accepted?, read, Option.bind_none]
  | ok sent =>
      rw [checkReceived_of_read read]
      by_cases complete : sent.Complete
      · rw [if_pos complete]
        cases verified : verifyCertObject S R context sent with
        | ok _ =>
            have accepted : accepted? S R context dict = some (sent.received context) :=
              accepted?_eq_some_iff.mpr ⟨sent, read, complete, verified, rfl⟩
            obtain ⟨row, stored⟩ := (rowOf_received_iff complete verified).mpr
              (harmless.stored _ accepted)
            rw [accepted]
            show orContinue (rowOf R (sent.received context) >>= fun row => .ok (some row)) = _
            rw [stored]
            simp only [Option.bind_some, stored, Except.toOption]
            rfl
        | error raised =>
            have unaccepted : accepted? S R context dict = none := by
              simp only [accepted?, read, verified]
            rw [unaccepted]
            obtain caught | rfl | ⟨message, rfl⟩ := verifyCertObject_error verified
            · cases raised with
              | keyError | valueError | typeError => rfl
              | _ => cases caught
            · exact (harmless.verified sent read complete verified).elim
            · rfl
      · have unaccepted : accepted? S R context dict = none := by
          simp only [accepted?, read, if_neg complete]
          split <;> rfl
        rw [if_neg complete, unaccepted]
        rfl

/-- What is not harmless ends the loop. -/
theorem harmless_of_receivedRow {found : Option CertificateRow}
    (received : receivedRow S R context dict = .ok found) : Harmless S R context dict := by
  have unparsed {raised : Raised} (escapes : raised.isKeyValueOrType = false) :
      fromDict R dict ≠ .error raised := by
    intro failed
    have raises : checkReceived S R context dict = .error raised := by
      unfold checkReceived
      rw [failed]
      rfl
    unfold receivedRow at received
    rw [raises] at received
    change orContinue (.error raised) = _ at received
    rw [orContinue_escapes escapes] at received
    cases received
  refine ⟨⟨unparsed rfl, unparsed rfl⟩, ?_, ?_⟩
  · intro cert read complete failed
    unfold receivedRow at received
    rw [checkReceived_of_read read, if_pos complete, failed] at received
    cases received
  · intro cert accepted
    obtain ⟨sent, read, complete, verified, rfl⟩ := accepted?_eq_some_iff.mp accepted
    unfold receivedRow at received
    rw [checkReceived_of_read read, if_pos complete, verified] at received
    change orContinue (rowOf R (sent.received context) >>= fun row => .ok (some row)) = _ at received
    cases stored : rowOf R (sent.received context) with
    | ok row => exact (rowOf_received_iff complete verified).mp ⟨row, stored⟩
    | error raised =>
        rw [stored] at received
        change orContinue (.error raised) = _ at received
        rw [orContinue_escapes (rowOf_error stored)] at received
        cases received

theorem Harmless.savedRow_isSome (harmless : Harmless S R context dict) :
    (savedRow S R context dict).isSome = (accepted? S R context dict).isSome := by
  unfold savedRow
  cases accepted : accepted? S R context dict with
  | none => rfl
  | some cert =>
      obtain ⟨sent, read, complete, verified, rfl⟩ := accepted?_eq_some_iff.mp accepted
      obtain ⟨row, stored⟩ := (rowOf_received_iff complete verified).mpr
        (harmless.stored _ accepted)
      simp only [Option.bind_some, stored, Except.toOption, Option.isSome_some]

theorem import_run {dicts : List JsonDict} (harmless : ∀ dict ∈ dicts, Harmless S R context dict)
    (imported : Nat) (table : CertificateTable) :
    (importReceivedCerts S R context dicts imported).run table =
      (.ok (imported + (dicts.filterMap (savedRow S R context)).length),
        table.saveAll (dicts.filterMap (savedRow S R context))) := by
  induction dicts generalizing imported table with
  | nil => rfl
  | cons dict rest ih =>
      obtain ⟨first, others⟩ := List.forall_mem_cons.mp harmless
      unfold importReceivedCerts
      rw [first.receivedRow_eq]
      cases saved : savedRow S R context dict with
      | none =>
          rw [List.filterMap_cons_none saved]
          exact ih others imported table
      | some row =>
          have counted : imported + ((rest.filterMap (savedRow S R context)).length + 1) =
              imported + 1 + (rest.filterMap (savedRow S R context)).length := by omega
          rw [List.filterMap_cons_some saved, List.length_cons, counted]
          exact ih others (imported + 1) (table.insertOrReplace row)

/-- An import that returns has passed over or stored every entry. -/
theorem harmless_of_import {dicts : List JsonDict} {imported count : Nat} {table : CertificateTable}
    (returned : ((importReceivedCerts S R context dicts imported).run table).1 = .ok count) :
    ∀ dict ∈ dicts, Harmless S R context dict := by
  induction dicts generalizing imported table with
  | nil => exact fun dict member => (List.not_mem_nil member).elim
  | cons dict rest ih =>
      unfold importReceivedCerts at returned
      cases received : receivedRow S R context dict with
      | error raised =>
          rw [received] at returned
          cases returned
      | ok found =>
          rw [received] at returned
          refine List.forall_mem_cons.mpr ⟨harmless_of_receivedRow received, ?_⟩
          cases found with
          | none => exact ih returned
          | some row => exact ih returned

/-- The import treats every entry as it would on its own. -/
structure Isolates (S : SignatureLibrary) (R : Conversions) (context : Context Priv Pub)
    (table : CertificateTable) (dicts : List JsonDict) : Prop where
  /-- It returns, and counts the entries that are acceptable. -/
  counted : ((importReceivedCerts S R context dicts 0).run table).1 =
    .ok (dicts.countP fun dict => (accepted? S R context dict).isSome)
  /-- Every acceptable entry has a row. -/
  kept : ∀ dict ∈ dicts, (accepted? S R context dict).isSome = true →
    (savedRow S R context dict).isSome = true
  /-- It stores the rows of the acceptable entries and nothing else. -/
  stored : ((importReceivedCerts S R context dicts 0).run table).2 =
    table.saveAll (dicts.filterMap (savedRow S R context))
  /-- Where their ids are distinct, the order of the entries makes no difference. -/
  unordered : ∀ others : List JsonDict, others.Perm dicts →
    (dicts.filterMap (savedRow S R context)).Pairwise CertificateTable.Apart →
    ((importReceivedCerts S R context others 0).run table).1 =
        ((importReceivedCerts S R context dicts 0).run table).1 ∧
      ((importReceivedCerts S R context others 0).run table).2.rows.Perm
        ((importReceivedCerts S R context dicts 0).run table).2.rows

theorem length_savedRows {dicts : List JsonDict}
    (harmless : ∀ dict ∈ dicts, Harmless S R context dict) :
    (dicts.filterMap (savedRow S R context)).length =
      dicts.countP fun dict => (accepted? S R context dict).isSome := by
  rw [List.length_filterMap_eq_countP]
  exact List.countP_congr fun dict member => by rw [(harmless dict member).savedRow_isSome]

end Import

theorem import_isolates_iff {Priv Pub : Type} (S : SignatureLibrary) (R : Conversions)
    (context : Context Priv Pub) (table : CertificateTable) (dicts : List JsonDict) :
    Isolates S R context table dicts ↔ ∀ dict ∈ dicts, Harmless S R context dict := by
  constructor
  · intro isolates
    exact harmless_of_import isolates.counted
  · intro harmless
    have ran := import_run harmless 0 table
    refine ⟨?_, ?_, ?_, ?_⟩
    · rw [ran, Nat.zero_add, length_savedRows harmless]
    · intro dict member accepted
      rw [(harmless dict member).savedRow_isSome]
      exact accepted
    · rw [ran]
    · intro others permuted distinct
      have othersHarmless : ∀ dict ∈ others, Harmless S R context dict :=
        fun dict member => harmless dict (permuted.mem_iff.mp member)
      have rows := permuted.filterMap (savedRow S R context)
      rw [ran, import_run othersHarmless 0 table, rows.length_eq]
      exact ⟨rfl, CertificateTable.saveAll_perm rows distinct table⟩

/-- A dictionary whose key is not text, before one that is acceptable. -/
def brokenEntry : JsonDict :=
  [("cert_type", .str "identity"), ("cert_id", .str "c0"), ("subject_name", .str "bob"),
    ("subject_pub_b64", .null)]

theorem toyEntry_accepted :
    accepted? toySignatures toyConversions toyWorld.context (toyEntry "c1" "bob" false) =
      some (toyCertificate "c1" "bob" false) := by
  refine accepted?_eq_some_iff.mpr ⟨_, fromDict_toyEntry "c1" "bob" false, ⟨rfl, rfl, ?_⟩,
    toyCertificate_verified "c1" "bob" false, rfl⟩
  show toySignature [5] ≠ []
  decide +kernel

theorem broken_entry_ends_the_import :
    ¬ Isolates toySignatures toyConversions toyWorld.context .empty
        [brokenEntry, toyEntry "c1" "bob" false] ∧
      (importReceivedCerts toySignatures toyConversions toyWorld.context
          [brokenEntry, toyEntry "c1" "bob" false] 0).run .empty =
        (.error .attributeError, .empty) ∧
      (accepted? toySignatures toyConversions toyWorld.context (toyEntry "c1" "bob" false)).isSome =
        true := by
  have ended : (importReceivedCerts toySignatures toyConversions toyWorld.context
      [brokenEntry, toyEntry "c1" "bob" false] 0).run .empty =
      (.error .attributeError, .empty) := rfl
  refine ⟨?_, ended, ?_⟩
  · intro isolates
    have counted := isolates.counted
    rw [ended] at counted
    cases counted
  · rw [toyEntry_accepted]
    rfl

end UltimateEnigma.TrustChain
