import UltimateEnigma.TrustLevels

set_option autoImplicit false

namespace UltimateEnigma.TrustChain

open Py

variable {R : Conversions}

/-- A row that cannot be read back has a type or Base64 that is none. -/
theorem valueError_of_fromDict {row : CertificateRow} {raised : Raised}
    (failed : fromDict R row.toDict = .error raised) : raised = .valueError := by
  have decodes (text : String) : decodeB64 (.str text) = .error .valueError ∨
      ∃ bytes, decodeB64 (.str text) = .ok bytes := by
    unfold decodeB64
    dsimp only
    cases b64decode text with
    | error _ => exact .inl rfl
    | ok bytes => exact .inr ⟨bytes, rfl⟩
  have types : certificateType (.str row.certType) = .error .valueError ∨
      ∃ certType, certificateType (.str row.certType) = .ok certType := by
    unfold certificateType
    dsimp only
    split
    · exact .inr ⟨_, rfl⟩
    · split
      · exact .inr ⟨_, rfl⟩
      · split
        · exact .inr ⟨_, rfl⟩
        · exact .inl rfl
  rw [fromDict_toDict] at failed
  obtain wrong | ⟨certType, typed⟩ := types
  · rw [wrong] at failed
    cases failed
    rfl
  rw [typed, ok_bind] at failed
  obtain wrong | ⟨subjectPub, subject⟩ := decodes row.subjectPubB64
  · rw [wrong] at failed
    cases failed
    rfl
  rw [subject, ok_bind] at failed
  obtain wrong | ⟨issuerPub, issuer⟩ := decodes row.issuerPubB64
  · rw [wrong] at failed
    cases failed
    rfl
  rw [issuer, ok_bind] at failed
  obtain wrong | ⟨signature, signed⟩ := decodes row.signatureB64
  · rw [wrong] at failed
    cases failed
    rfl
  rw [signed] at failed
  cases failed

/-- Which certificate was read from which row. -/
abbrev ReadFrom (R : Conversions) : List CertificateRow → List TrustCertificate → Prop :=
  List.Forall₂ fun row cert => fromDict R row.toDict = .ok cert

theorem readFrom_of_certificatesOf {rows : List CertificateRow} {certs : List TrustCertificate}
    (loaded : certificatesOf R rows = .ok certs) : ReadFrom R rows certs := by
  induction rows generalizing certs with
  | nil =>
      cases loaded
      exact .nil
  | cons row rest ih =>
      unfold certificatesOf at loaded
      rw [List.mapM_cons] at loaded
      obtain ⟨cert, read, remaining⟩ := ok_of_bind loaded
      obtain ⟨others, rest_ok, returned⟩ := ok_of_bind remaining
      cases returned
      exact .cons read (ih rest_ok)

theorem valueError_of_certificatesOf {rows : List CertificateRow} {raised : Raised}
    (failed : certificatesOf R rows = .error raised) :
    raised = .valueError ∧ ∃ row ∈ rows, ∀ cert, fromDict R row.toDict ≠ .ok cert := by
  induction rows with
  | nil => cases failed
  | cons row rest ih =>
      unfold certificatesOf at failed
      rw [List.mapM_cons] at failed
      cases read : fromDict R row.toDict with
      | error other =>
          rw [read] at failed
          cases failed
          refine ⟨valueError_of_fromDict read, row, List.mem_cons_self, ?_⟩
          rw [read]
          exact fun _ => nofun
      | ok cert =>
          rw [read, ok_bind] at failed
          cases remaining : rest.mapM fun row => fromDict R row.toDict with
          | ok certs =>
              rw [remaining] at failed
              cases failed
          | error other =>
              rw [remaining] at failed
              cases failed
              obtain ⟨same, found, member, unread⟩ := ih remaining
              exact ⟨same, found, List.mem_cons_of_mem row member, unread⟩

theorem ReadFrom.exists_right {rows : List CertificateRow} {certs : List TrustCertificate}
    (readFrom : ReadFrom R rows certs) {row : CertificateRow} (member : row ∈ rows) :
    ∃ cert ∈ certs, fromDict R row.toDict = .ok cert := by
  induction readFrom with
  | nil => cases member
  | cons read _ ih =>
      rcases List.mem_cons.mp member with rfl | later
      · exact ⟨_, List.mem_cons_self, read⟩
      · obtain ⟨cert, inside, found⟩ := ih later
        exact ⟨cert, List.mem_cons_of_mem _ inside, found⟩

/-- Rows that count are read as certificates that count, in their order. -/
theorem ReadFrom.filter {rows : List CertificateRow} {certs : List TrustCertificate}
    (readFrom : ReadFrom R rows certs) {keepRow : CertificateRow → Bool}
    {keepCert : TrustCertificate → Bool}
    (same : ∀ row cert, row.Reads cert → keepCert cert = keepRow row) :
    ReadFrom R (rows.filter keepRow) (certs.filter keepCert) := by
  induction readFrom with
  | nil => exact .nil
  | @cons row cert _ _ read _ ih =>
      rw [List.filter_cons, List.filter_cons, same row cert (reads_of_fromDict read)]
      split
      · exact .cons read ih
      · exact ih

theorem certificateType_delegation {text : String} {certType : CertificateType}
    (typed : certificateType (.str text) = .ok certType) :
    certType = .delegation ↔ text = "delegation" := by
  unfold certificateType at typed
  dsimp only at typed
  split at typed
  · rename_i identity
    cases typed
    rw [identity]
    decide
  · split at typed
    · rename_i recovery
      cases typed
      rw [recovery]
      decide
    · split at typed
      · rename_i delegation
        cases typed
        exact iff_of_true rfl delegation
      · cases typed

theorem issuedBy_of_reads {row : CertificateRow} {cert : TrustCertificate} (reads : row.Reads cert)
    (name : String) : cert.issuedBy name = true ↔ row.issuerName = name := by
  rw [TrustCertificate.issuedBy, reads.issuerName]
  exact decide_eq_true_iff

/-- The dates of a row are numbers. A column that is `NOT NULL` holds nothing else. -/
def CertificateRow.Dated (row : CertificateRow) : Prop :=
  row.notBefore.isNaN = false ∧ row.notAfter.isNaN = false ∧ row.createdAt.isNaN = false

theorem createdAt_of_fromDict {row : CertificateRow} {cert : TrustCertificate}
    (read : fromDict R row.toDict = .ok cert) : cert.createdAt = row.createdAt := by
  rw [fromDict_toDict] at read
  obtain ⟨certType, -, afterType⟩ := ok_of_bind read
  obtain ⟨subjectPub, -, afterSubject⟩ := ok_of_bind afterType
  obtain ⟨issuerPub, -, afterIssuer⟩ := ok_of_bind afterSubject
  obtain ⟨signature, -, returned⟩ := ok_of_bind afterIssuer
  cases returned
  rfl

theorem realColumn_isNaN {value : Binary64} (number : value.isNaN = true) :
    realColumn value = none := if_pos number

theorem exists_realColumn {value : Binary64} (number : value.isNaN = false) :
    ∃ stored, realColumn value = some stored := by
  unfold realColumn
  rw [number]
  split
  · rename_i impossible
    cases impossible
  · split <;> exact ⟨_, rfl⟩

/-- A certificate that was read from a row is saved again if its dates are numbers. -/
theorem rowOf_revokedCopy {row : CertificateRow} {cert : TrustCertificate} (reason : String)
    (read : fromDict R row.toDict = .ok cert) (dated : row.Dated) :
    ∃ new, rowOf R (revokedCopy cert reason) = .ok new ∧ new.certId = row.certId ∧
      new.subjectName = row.subjectName ∧ new.revoked = true := by
  have reads := reads_of_fromDict read
  have id : textColumn R (revokedCopy cert reason).certId = .ok row.certId := by
    show textColumn R cert.certId = _
    rw [reads.certId]
    cases row.certId <;> rfl
  obtain ⟨notBefore, before⟩ := exists_realColumn dated.1
  obtain ⟨notAfter, after⟩ := exists_realColumn dated.2.1
  obtain ⟨createdAt, created⟩ := exists_realColumn dated.2.2
  rw [← reads.notBefore] at before
  rw [← reads.notAfter] at after
  rw [← createdAt_of_fromDict read] at created
  unfold rowOf
  rw [id]
  simp only [revokedCopy, reads.subjectName, reads.issuerName, before, after, created, textColumn,
    notNull, ok_bind]
  exact ⟨_, rfl, rfl, rfl, rfl⟩

theorem rowOf_undated {row : CertificateRow} {cert : TrustCertificate} (reason : String)
    (read : fromDict R row.toDict = .ok cert) (undated : ¬ row.Dated) :
    ∃ raised, rowOf R (revokedCopy cert reason) = .error raised := by
  cases saved : rowOf R (revokedCopy cert reason) with
  | error raised => exact ⟨raised, rfl⟩
  | ok new =>
      have reads := reads_of_fromDict read
      have number {value : Binary64} {stored : Binary64}
          (column : realColumn value = some stored) : value.isNaN = false := by
        cases nan : value.isNaN with
        | false => rfl
        | true =>
            rw [realColumn_isNaN nan] at column
            cases column
      unfold rowOf at saved
      obtain ⟨_, _, saved⟩ := ok_of_bind saved
      obtain ⟨_, _, saved⟩ := ok_of_bind saved
      obtain ⟨_, _, saved⟩ := ok_of_bind saved
      obtain ⟨_, before, saved⟩ := ok_of_bind saved
      obtain ⟨_, after, saved⟩ := ok_of_bind saved
      obtain ⟨_, created, -⟩ := ok_of_bind saved
      refine absurd ⟨?_, ?_, ?_⟩ undated
      · rw [← reads.notBefore]
        exact number (ok_of_notNull before)
      · rw [← reads.notAfter]
        exact number (ok_of_notNull after)
      · rw [← createdAt_of_fromDict read]
        exact number (ok_of_notNull created)

section Loop

variable {row : CertificateRow} {cert : TrustCertificate} {rest : List TrustCertificate}
variable {reason : String} {count : Nat} {table : CertificateTable}

/-- A row is saved as revoked and counted. -/
theorem revokeEach_dated (reason : String) (read : fromDict R row.toDict = .ok cert)
    (dated : row.Dated) :
    ∃ new, new.certId = row.certId ∧ new.subjectName = row.subjectName ∧ new.revoked = true ∧
      ∀ rest count (table : CertificateTable),
        (revokeEach R reason (cert :: rest) count).run table =
          (revokeEach R reason rest (count + 1)).run (table.insertOrReplace new) := by
  obtain ⟨new, saved, id, subject, revoked⟩ := rowOf_revokedCopy reason read dated
  refine ⟨new, id, subject, revoked, ?_⟩
  intro rest count table
  rw [revokeEach, saved]
  rfl

/-- A row that cannot be saved is passed over, if it has an id for the warning. -/
theorem revokeEach_undated (read : fromDict R row.toDict = .ok cert) (undated : ¬ row.Dated) :
    (revokeEach R reason (cert :: rest) count).run table =
      if row.certId = none then (.error .typeError, table)
      else (revokeEach R reason rest count).run table := by
  obtain ⟨raised, failed⟩ := rowOf_undated reason read undated
  rw [revokeEach, failed, (reads_of_fromDict read).certId]
  cases row.certId <;> rfl

end Loop

/-- The rows that are not revoked. -/
def unrevoked (table : CertificateTable) : Nat :=
  (table.rows.filter fun row => !row.revoked).length

section Saves

variable {table : CertificateTable} {row new other : CertificateRow}

theorem mem_insertOrReplace_of_apart (id : new.certId = row.certId)
    (apart : row.certId = none ∨ other.certId ≠ row.certId) (member : other ∈ table.rows) :
    other ∈ (table.insertOrReplace new).rows :=
  CertificateTable.mem_insertOrReplace_iff.mpr (.inr ⟨member, id ▸ apart⟩)

/-- What is not revoked does not come back. -/
theorem not_mem_insertOrReplace (revoked : new.revoked = true) (unrevoked : other.revoked = false)
    (absent : other ∉ table.rows) : other ∉ (table.insertOrReplace new).rows := by
  intro member
  rcases CertificateTable.mem_insertOrReplace_iff.mp member with rfl | ⟨old, -⟩
  · rw [unrevoked] at revoked
    cases revoked
  · exact absent old

theorem replaced_not_mem (id : new.certId = row.certId) (named : row.certId ≠ none)
    (revoked : new.revoked = true) (unrevoked : row.revoked = false) :
    row ∉ (table.insertOrReplace new).rows := by
  intro member
  rcases CertificateTable.mem_insertOrReplace_iff.mp member with rfl | ⟨-, missing | differs⟩
  · rw [unrevoked] at revoked
    cases revoked
  · exact named (id ▸ missing)
  · exact differs id.symm

theorem filter_others {keep : CertificateRow → Bool} (member : row ∈ table.rows)
    (dropped : keep row = false) :
    (CertificateTable.others table.rows row.certId).filter keep = table.rows.filter keep := by
  unfold CertificateTable.others
  rw [List.filter_filter]
  apply List.filter_congr
  intro old inside
  cases kept : keep old with
  | false => rfl
  | true =>
      cases named : row.certId with
      | none => rfl
      | some id =>
          have apart : old.certId ≠ some id := by
            intro same
            rw [CertificateTable.eq_of_certId inside member same named, dropped] at kept
            cases kept
          simpa using apart

/-- Saving a row of the same subject leaves the rows of other subjects. -/
theorem filter_insertOrReplace {keep : CertificateRow → Bool} (member : row ∈ table.rows)
    (id : new.certId = row.certId) (dropped : keep row = false) (newDropped : keep new = false) :
    (table.insertOrReplace new).rows.filter keep = table.rows.filter keep := by
  show (CertificateTable.others table.rows new.certId ++ [new]).filter keep = _
  rw [List.filter_append, id, filter_others member dropped]
  simp [newDropped]

/-- Of the rows that are kept, one goes with its id. -/
theorem length_filter_others {rows : List CertificateRow} {keep : CertificateRow → Bool}
    {id : String} (unique : (rows.filterMap CertificateRow.certId).Nodup) (member : row ∈ rows)
    (named : row.certId = some id) (kept : keep row = true) :
    (rows.filter keep).length =
      ((CertificateTable.others rows (some id)).filter keep).length + 1 := by
  induction rows with
  | nil => cases member
  | cons first rest ih =>
      have tail : (rest.filterMap CertificateRow.certId).Nodup :=
        unique.sublist ((List.sublist_cons_self first rest).filterMap _)
      have apart (firstNamed : first.certId = some id) : ∀ old ∈ rest, old.certId ≠ some id := by
        intro old later same
        rw [List.filterMap_cons, firstNamed] at unique
        exact (List.nodup_cons.mp unique).1 (List.mem_filterMap.mpr ⟨old, later, same⟩)
      by_cases here : first.certId = some id
      · have same : row = first := by
          rcases List.mem_cons.mp member with equal | later
          · exact equal
          · exact absurd named (apart here row later)
        have others : CertificateTable.others (first :: rest) (some id) = rest := by
          unfold CertificateTable.others
          rw [List.filter_cons_of_neg (by simp [here])]
          apply List.filter_eq_self.mpr
          intro old later
          simpa using apart here old later
        rw [others, List.filter_cons_of_pos (same ▸ kept), List.length_cons]
      · have later : row ∈ rest := by
          rcases List.mem_cons.mp member with rfl | later
          · exact absurd named here
          · exact later
        have others : CertificateTable.others (first :: rest) (some id) =
            first :: CertificateTable.others rest (some id) := by
          unfold CertificateTable.others
          rw [List.filter_cons_of_pos (by simpa using here)]
        rw [others, List.filter_cons, List.filter_cons]
        split
        · rw [List.length_cons, List.length_cons, ih tail later]
        · exact ih tail later

/-- A row with an id is marked; a row without one stays, and a revoked copy joins it. -/
theorem unrevoked_insertOrReplace (member : row ∈ table.rows) (id : new.certId = row.certId)
    (unmarked : row.revoked = false) (revoked : new.revoked = true) :
    unrevoked table = unrevoked (table.insertOrReplace new) +
      if row.certId = none then 0 else 1 := by
  have appended : unrevoked (table.insertOrReplace new) =
      ((CertificateTable.others table.rows row.certId).filter fun old => !old.revoked).length := by
    show ((CertificateTable.others table.rows new.certId ++ [new]).filter fun old =>
      !old.revoked).length = _
    rw [List.filter_append, id]
    simp [revoked]
  rw [appended, unrevoked]
  cases named : row.certId with
  | none => simp [CertificateTable.others]
  | some text =>
      rw [if_neg (by simp)]
      exact length_filter_others table.unique member named (by rw [unmarked]; rfl)

end Saves

section Runs

variable {rows : List CertificateRow} {certs : List TrustCertificate}
variable {table : CertificateTable}

/-- The rows that are to be revoked: stored, unrevoked, and named at most once. -/
structure ToRevoke (rows : List CertificateRow) (table : CertificateTable) : Prop where
  stored : ∀ row ∈ rows, row ∈ table.rows
  unmarked : ∀ row ∈ rows, row.revoked = false
  unique : (rows.filterMap CertificateRow.certId).Nodup

theorem ToRevoke.tail {row : CertificateRow} (toRevoke : ToRevoke (row :: rows) table) :
    ToRevoke rows table where
  stored other member := toRevoke.stored other (List.mem_cons_of_mem row member)
  unmarked other member := toRevoke.unmarked other (List.mem_cons_of_mem row member)
  unique := toRevoke.unique.sublist ((List.sublist_cons_self row rows).filterMap _)

theorem ToRevoke.saved {row new : CertificateRow} (toRevoke : ToRevoke (row :: rows) table)
    (id : new.certId = row.certId) : ToRevoke rows (table.insertOrReplace new) where
  stored other member := by
    refine mem_insertOrReplace_of_apart id ?_ (toRevoke.tail.stored other member)
    cases named : row.certId with
    | none => exact .inl rfl
    | some text =>
        refine .inr fun same => ?_
        have unique := toRevoke.unique
        rw [List.filterMap_cons, named] at unique
        exact (List.nodup_cons.mp unique).1 (List.mem_filterMap.mpr ⟨other, member, same⟩)
  unmarked := toRevoke.tail.unmarked
  unique := toRevoke.tail.unique

variable (reason : String) (count : Nat)

/-- What is counted is what is marked, and the rows without an id, which are not. -/
theorem revokeEach_counts (readFrom : ReadFrom R rows certs) (toRevoke : ToRevoke rows table) :
    (∃ raised after, (revokeEach R reason certs count).run table = (.error raised, after) ∧
        ∃ row ∈ rows, row.certId = none) ∨
      ∃ total after, (revokeEach R reason certs count).run table = (.ok total, after) ∧
        unrevoked table + count + (rows.filter fun row => row.certId.isNone).length =
          unrevoked after + total := by
  induction readFrom generalizing table count with
  | nil => exact .inr ⟨count, table, rfl, by simp⟩
  | @cons row cert rows certs read _ ih =>
      by_cases dated : row.Dated
      · obtain ⟨new, id, -, revoked, step⟩ := revokeEach_dated reason read dated
        rw [step]
        have marked := unrevoked_insertOrReplace (toRevoke.stored row List.mem_cons_self) id
          (toRevoke.unmarked row List.mem_cons_self) revoked
        obtain ⟨raised, after, ran, other, member, missing⟩ | ⟨total, after, ran, counted⟩ :=
          ih (count + 1) (toRevoke.saved id)
        · exact .inl ⟨raised, after, ran, other, List.mem_cons_of_mem row member, missing⟩
        · refine .inr ⟨total, after, ran, ?_⟩
          cases named : row.certId with
          | none =>
              rw [List.filter_cons_of_pos (by rw [named]; rfl), List.length_cons]
              simp only [named, if_true] at marked
              omega
          | some text =>
              rw [List.filter_cons_of_neg (by rw [named]; simp)]
              simp only [named, reduceCtorEq, if_false] at marked
              omega
      · rw [revokeEach_undated read dated]
        split
        · rename_i missing
          exact .inl ⟨.typeError, table, rfl, row, List.mem_cons_self, missing⟩
        · rename_i named
          obtain ⟨raised, after, ran, other, member, missing⟩ | ⟨total, after, ran, counted⟩ :=
            ih count toRevoke.tail
          · exact .inl ⟨raised, after, ran, other, List.mem_cons_of_mem row member, missing⟩
          · refine .inr ⟨total, after, ran, ?_⟩
            rwa [List.filter_cons_of_neg (by simpa [Option.isNone_iff_eq_none] using named)]

/-- Rows of other subjects are left if every row that can be saved is of this subject. -/
theorem revokeEach_filter (keep : CertificateRow → Bool) {subject : String}
    (dropped : ∀ row : CertificateRow, row.subjectName = subject → keep row = false)
    (readFrom : ReadFrom R rows certs) (toRevoke : ToRevoke rows table)
    (subjects : ∀ row ∈ rows, row.Dated → row.subjectName = subject) :
    ((revokeEach R reason certs count).run table).2.rows.filter keep = table.rows.filter keep := by
  induction readFrom generalizing table count with
  | nil => rfl
  | @cons row cert rows certs read _ ih =>
      have later : ∀ row ∈ rows, row.Dated → row.subjectName = subject :=
        fun other member => subjects other (List.mem_cons_of_mem row member)
      by_cases dated : row.Dated
      · obtain ⟨new, id, same, -, step⟩ := revokeEach_dated reason read dated
        have mine := subjects row List.mem_cons_self dated
        rw [step, ih _ (toRevoke.saved id) later]
        exact filter_insertOrReplace (toRevoke.stored row List.mem_cons_self) id
          (dropped row mine) (dropped new (same.trans mine))
      · rw [revokeEach_undated read dated]
        split
        · rfl
        · exact ih _ toRevoke.tail later

/-- An unrevoked row that is not there does not come. -/
theorem revokeEach_not_mem {other : CertificateRow} (readFrom : ReadFrom R rows certs)
    (unmarked : other.revoked = false) (absent : other ∉ table.rows) :
    other ∉ ((revokeEach R reason certs count).run table).2.rows := by
  induction readFrom generalizing table count with
  | nil => exact absent
  | @cons row cert rows certs read _ ih =>
      by_cases dated : row.Dated
      · obtain ⟨new, -, -, revoked, step⟩ := revokeEach_dated reason read dated
        rw [step]
        exact ih _ (not_mem_insertOrReplace revoked unmarked absent)
      · rw [revokeEach_undated read dated]
        split
        · exact absent
        · exact ih _ absent

/-- A row with an id that can be saved is gone, if no row without an id stops the loop. -/
theorem revokeEach_marks (readFrom : ReadFrom R rows certs) (toRevoke : ToRevoke rows table)
    (named : ∀ row ∈ rows, row.certId ≠ none) {other : CertificateRow} (member : other ∈ rows)
    (dated : other.Dated) :
    other ∉ ((revokeEach R reason certs count).run table).2.rows := by
  induction readFrom generalizing table count with
  | nil => cases member
  | @cons row cert rows certs read rest ih =>
      have laterNamed : ∀ row ∈ rows, row.certId ≠ none :=
        fun later inside => named later (List.mem_cons_of_mem row inside)
      by_cases firstDated : row.Dated
      · obtain ⟨new, id, -, revoked, step⟩ := revokeEach_dated reason read firstDated
        rw [step]
        rcases List.mem_cons.mp member with rfl | later
        · have unmarked := toRevoke.unmarked other List.mem_cons_self
          exact revokeEach_not_mem _ _ rest unmarked
            (replaced_not_mem id (named other List.mem_cons_self) revoked unmarked)
        · exact ih _ (toRevoke.saved id) laterNamed later
      · rw [revokeEach_undated read firstDated, if_neg (named row List.mem_cons_self)]
        rcases List.mem_cons.mp member with rfl | later
        · exact absurd dated firstDated
        · exact ih _ toRevoke.tail laterNamed later

end Runs

end UltimateEnigma.TrustChain
