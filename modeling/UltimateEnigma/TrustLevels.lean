import UltimateEnigma.TrustChainRuns

set_option autoImplicit false

namespace UltimateEnigma.TrustChain

open Py

/-- Neither revoked nor expired. -/
def CertificateRow.live (now : Binary64) (row : CertificateRow) : Bool :=
  !row.revoked && !row.notAfter.lt now

/-- The certificate in the row verifies against the key that its issuer is pinned with. -/
def Backed {Priv Pub : Type} (S : SignatureLibrary) (R : Conversions) (context : Context Priv Pub)
    (row : CertificateRow) : Prop :=
  ∃ cert, fromDict R row.toDict = .ok cert ∧ verifyCertObject S R context cert = .ok ()

/-- The level is justified by that many issuers. -/
def Justified {Priv Pub Pem : Type} (E : Libraries Priv Pub Pem) (world : World Priv Pub Pem)
    (friendName : String) (level : TrustLevel) : Prop :=
  ∃ issuers : List String, issuers.Nodup ∧ level.needs ≤ issuers.length ∧
    ∀ issuer ∈ issuers, ∃ row ∈ world.certificates.rows, row.issuerName = issuer ∧
      row.subjectName = friendName ∧ row.live world.now = true ∧
      Backed E.signatures E.conversions world.context row

/-- Who vouches for whom, of the rows that count. -/
def vouchers (now : Binary64) (rows : List CertificateRow) : List (String × String) :=
  (rows.filter (CertificateRow.live now)).map fun row => (row.subjectName, row.issuerName)

section Counting

variable {R : Conversions} {now : Binary64}

theorem status_of_reads {row : CertificateRow} {cert : TrustCertificate} (reads : row.Reads cert) :
    cert.status now = .valid ↔ row.live now = true := by
  rw [cert.status_eq_valid_iff now, TrustCertificate.isExpired, reads.revoked, reads.notAfter]
  simp only [CertificateRow.live, Bool.and_eq_true, Bool.not_eq_true']

/-- As many certificates count as rows do. -/
theorem valid_length {rows : List CertificateRow} {certs : List TrustCertificate}
    (loaded : certificatesOf R rows = .ok certs) :
    (certs.filter fun cert => cert.status now = .valid).length =
      (rows.filter (CertificateRow.live now)).length := by
  induction rows generalizing certs with
  | nil =>
      cases loaded
      rfl
  | cons row rest ih =>
      unfold certificatesOf at loaded
      rw [List.mapM_cons] at loaded
      obtain ⟨cert, read, remaining⟩ := ok_of_bind loaded
      obtain ⟨others, rest_ok, returned⟩ := ok_of_bind remaining
      cases returned
      have status : decide (cert.status now = .valid) = row.live now := by
        rw [Bool.eq_iff_iff, decide_eq_true_iff]
        exact status_of_reads (reads_of_fromDict read)
      have tail := ih rest_ok
      rw [List.filter_cons, List.filter_cons, status]
      split
      · rw [List.length_cons, List.length_cons, tail]
      · exact tail

/-- Where nobody vouches twice for the same friend, the rows that count have different issuers. -/
theorem issuers_nodup {rows : List CertificateRow} (friendName : String)
    (once : (vouchers now rows).Nodup) :
    (((rows.filter fun row => row.subjectName = friendName).filter
      (CertificateRow.live now)).map CertificateRow.issuerName).Nodup := by
  have selected : ((rows.filter fun row => row.subjectName = friendName).filter
      (CertificateRow.live now)).Sublist (rows.filter (CertificateRow.live now)) :=
    List.filter_sublist.filter _
  have pairs : (((rows.filter fun row => row.subjectName = friendName).filter
      (CertificateRow.live now)).map fun row => (row.subjectName, row.issuerName)).Nodup :=
    once.sublist (selected.map _)
  have same : ((rows.filter fun row => row.subjectName = friendName).filter
      (CertificateRow.live now)).map (fun row => (row.subjectName, row.issuerName)) =
      (((rows.filter fun row => row.subjectName = friendName).filter
        (CertificateRow.live now)).map CertificateRow.issuerName).map (Prod.mk friendName) := by
    rw [List.map_map]
    refine List.map_congr_left fun row member => ?_
    have named := (List.mem_filter.mp (List.mem_filter.mp member).1).2
    simp only [Function.comp_apply, of_decide_eq_true named]
  rw [same] at pairs
  exact pairs.of_map

theorem certificatesFor_subject {table : CertificateTable} {friendName : String}
    (named : friendName ≠ "") :
    table.certificatesFor none (some friendName) =
      table.rows.filter fun row => row.subjectName = friendName := by
  unfold CertificateTable.certificatesFor CertificateTable.selects
  refine List.filter_congr fun row _ => ?_
  have filled : (friendName == "") = false := beq_eq_false_iff_ne.mpr named
  simp only [Bool.true_and, filled, Bool.false_or]
  rfl

end Counting

/-- The time is stored as it is: only a negative zero is not. -/
def PlainTime (time : Binary64) : Prop := time ≠ BitVec.ofNat 64 (2 ^ 63)

instance (time : Binary64) : Decidable (PlainTime time) := inferInstanceAs (Decidable (_ ≠ _))

theorem realColumn_plain {time stored : Binary64} (plain : PlainTime time)
    (column : realColumn time = some stored) : stored = time := by
  unfold realColumn at column
  split at column
  · cases column
  · rw [if_neg plain] at column
    exact (Option.some.inj column).symm

section Storing

variable {Priv Pub : Type} {S : SignatureLibrary} {R : Conversions} {context : Context Priv Pub}

/-- Who issued it is text, where the issuer is known. -/
theorem issuerName_of_expected {issuerName : Json} {pinned : Bytes}
    (expected : expectedIssuerPub context issuerName = .ok (some pinned)) :
    ∃ name, issuerName = .str name := by
  cases issuerName with
  | str name => exact ⟨name, rfl⟩
  | null => cases expected
  | bool value => cases expected
  | int value => cases expected
  | float value => cases expected
  | list items => cases expected
  | dict items => cases expected

/-- What was accepted is accepted again when it is read back from its row. -/
theorem backed_of_stores {cert : TrustCertificate} {row : CertificateRow}
    (accepted : verifyCertObject S R context cert = .ok ()) (stores : row.Stores R cert)
    (notBefore : PlainTime cert.notBefore) (notAfter : PlainTime cert.notAfter) :
    Backed S R context row := by
  obtain ⟨edPub, dilPub, expected, parsed, long, verified⟩ := verifyCertObject_ok_iff.mp accepted
  obtain ⟨issuer, issuerName⟩ := issuerName_of_expected expected
  have issuerColumn : row.issuerName = issuer := by
    have column := stores.issuerName
    rw [issuerName] at column
    exact (Option.some.inj (Except.ok.inj column)).symm
  have read := fromDict_toDict (R := R) row
  rw [stores.certType, stores.subjectPub, stores.issuerPub, stores.signature, certificateType_value,
    decodeB64_b64encode, decodeB64_b64encode, decodeB64_b64encode] at read
  refine ⟨_, read, verifyCertObject_ok_iff.mpr ⟨edPub, dilPub, ?_, parsed, long, ?_⟩⟩
  · rw [issuerName] at expected
    rw [issuerColumn]
    exact expected
  · unfold TrustCertificate.signedData at verified ⊢
    rw [realColumn_plain notBefore stores.notBefore, realColumn_plain notAfter stores.notAfter]
    exact verified

theorem checkReceived_some {dict : JsonDict} {cert : TrustCertificate}
    (checked : checkReceived S R context dict = .ok (some cert)) :
    ∃ sent, fromDict R dict = .ok sent ∧ verifyCertObject S R context sent = .ok () ∧
      ∃ receivedFrom, cert = { sent with receivedFrom := receivedFrom } := by
  unfold checkReceived at checked
  obtain ⟨sent, read, checked⟩ := ok_of_bind checked
  split at checked
  · cases checked
  · split at checked
    · cases checked
    · split at checked
      · cases checked
      · cases checked
      · rename_i verified
        cases checked
        refine ⟨sent, read, verified, if sent.receivedFrom = "" then context.myName
          else sent.receivedFrom, ?_⟩
        split <;> rfl

theorem ok_of_orContinue {α : Type} {computed : Except Raised (Option α)} {found : α}
    (success : orContinue computed = .ok (some found)) : computed = .ok (some found) := by
  cases computed with
  | ok value => exact success
  | error raised =>
      rw [orContinue] at success
      split at success <;> cases success

theorem receivedRow_some {dict : JsonDict} {row : CertificateRow}
    (received : receivedRow S R context dict = .ok (some row)) :
    ∃ sent, fromDict R dict = .ok sent ∧ verifyCertObject S R context sent = .ok () ∧
      row.Stores R sent := by
  unfold receivedRow at received
  obtain ⟨found, checked, rest⟩ := ok_of_bind (ok_of_orContinue received)
  cases found with
  | none => cases rest
  | some cert =>
      obtain ⟨stored, row_ok, returned⟩ := ok_of_bind rest
      cases returned
      obtain ⟨sent, read, verified, receivedFrom, rfl⟩ := checkReceived_some checked
      have stores := stores_of_rowOf row_ok
      exact ⟨sent, read, verified, stores.certId, stores.subjectName, stores.issuerName,
        stores.notBefore, stores.notAfter, stores.subjectPub, stores.issuerPub, stores.certType,
        stores.signature, stores.revoked⟩

/-- The signing keys of the application and its own combined key belong together. -/
def OwnKeys (S : SignatureLibrary) (store : KeyStore Priv Pub) : Prop :=
  ∀ edPriv dilPriv, store.myEdPriv = some edPriv → store.myDilPriv = some dilPriv →
    store.myHybridSigCombinedPub =
      some (HybridSigner.combine (S.edPublic edPriv) (S.dilPublic dilPriv))

/-- What is issued is accepted. -/
theorem newCertificate_accepted (lawful : S.Lawful) (own : OwnKeys S context.store)
    {subjectName subjectPubB64 certType certId : String} {validityDays : Int} {draw : Bytes}
    {cert : TrustCertificate}
    (made : newCertificate S R context subjectName subjectPubB64 certType validityDays certId draw =
      .ok cert) :
    verifyCertObject S R context cert = .ok () ∧ cert.subjectName = .str subjectName ∧
      cert.issuerName = .str context.myName := by
  unfold newCertificate at made
  split at made
  · rename_i edPriv dilPriv edKey dilKey
    split at made
    · cases made
    · split at made
      · cases made
      · split at made
        · cases made
        · split at made
          · cases made
          · obtain ⟨subjectPub, _, made⟩ := ok_of_bind made
            simp only at made
            split at made
            · cases made
            · cases made
            · rename_i signature issuerPub signed pinned
              cases made
              have combined := own edPriv dilPriv edKey dilKey
              rw [pinned] at combined
              have issuer := Option.some.inj combined
              have filled : KeyStore.truthy context.store.myHybridSigCombinedPub = true := by
                rw [pinned, issuer]
                rfl
              have short : (S.edPublic edPriv).length < 65536 := by
                rw [lawful.edPublic_length]
                omega
              have parsed : parseIssuerPub issuerPub =
                  .ok (S.edPublic edPriv, S.dilPublic dilPriv) := by
                rw [parseIssuerPub, issuer, HybridSigner.parseCombinedPub_combine _ _ short
                  (lawful.dilPublic_short dilPriv)]
              have expected : expectedIssuerPub context (.str context.myName) =
                  .ok (some issuerPub) := by
                rw [expectedIssuerPub, if_pos ⟨rfl, filled⟩, pinned]
              exact ⟨verifyCertObject_ok_iff.mpr ⟨_, _, expected, parsed, lawful.edPublic_length _,
                HybridSigner.verify_sign lawful signed⟩, rfl, rfl⟩
  · cases made

end Storing

section Pins

variable {Priv Pub Pem : Type} {P : KeyStore.Primitives Priv Pub Pem} {platform : KeyStore.Platform}

/-- The signing keys that an update of a friend pins. -/
def pinsOf (platform : KeyStore.Platform) (update : KeyStore.FriendUpdate) :
    Except KeyStore.Raised (Option (Bytes × Bytes)) :=
  KeyStore.attemptColumn
    (if platform.hybridSigAvailable then KeyStore.nonempty update.hybridSigPubB64 else none)
    fun text => KeyStore.decodeBase64 text >>= KeyStore.parseCombinedPub

/-- The application's own signing keys. -/
def ownKeys (session : KeyStore.Session Priv Pub Pem) :
    Option Bytes × Option Bytes × Option Bytes :=
  (session.store.myEdPriv, session.store.myDilPriv, session.store.myHybridSigCombinedPub)

theorem saveFriend_keeps_ownKeys (name : String) (update : KeyStore.FriendUpdate) (password : Bytes)
    (draws : KeyStore.Draws) :
    (KeyStore.saveFriend P platform name update password draws).Keeps ownKeys := by
  unfold KeyStore.saveFriend
  refine Call.keeps_bind (Call.keeps_lift _) fun secretColumn => ?_
  refine Call.keeps_bind (Call.keeps_lift _) fun ecdhColumn => ?_
  refine Call.keeps_bind (Call.keeps_modify fun _ => rfl) fun _ => ?_
  refine Call.keeps_bind (Call.keeps_lift _) fun pub => ?_
  refine Call.keeps_bind (Call.keeps_lift _) fun pqcCombinedPub => ?_
  refine Call.keeps_bind (Call.keeps_modify fun _ => rfl) fun _ => ?_
  exact Call.keeps_bind (Call.keeps_lift _) fun hybridSigPubs => Call.keeps_modify fun _ => rfl

/-- An update leaves the pinned keys as they are, or pins its friend. -/
theorem saveFriend_pins (name : String) (update : KeyStore.FriendUpdate) (password : Bytes)
    (draws : KeyStore.Draws) (session : KeyStore.Session Priv Pub Pem) :
    ((KeyStore.saveFriend P platform name update password draws).run
        session).2.store.friendsHybridSigPubs = session.store.friendsHybridSigPubs ∨
      ∃ pins, pinsOf platform update = .ok pins ∧
        ((KeyStore.saveFriend P platform name update password draws).run
          session).2.store.friendsHybridSigPubs =
          KeyStore.setOrPop session.store.friendsHybridSigPubs name pins := by
  unfold KeyStore.saveFriend
  simp only
  cases KeyStore.wrapColumn P password (draws.sharedSecret name)
    (KeyStore.nonemptyBytes update.sharedSecret) with
  | error raised => exact .inl rfl
  | ok secretColumn =>
      simp only [Call.run_lift_ok_bind]
      cases KeyStore.wrapColumn P password (draws.ecdhPriv name) update.ecdhPrivBytes with
      | error raised => exact .inl rfl
      | ok ecdhColumn =>
          simp only [Call.run_lift_ok_bind, KeyStore.run_commit_bind]
          cases P.pemToPubkey update.pem with
          | error raised => exact .inl rfl
          | ok pub =>
              simp only [Call.run_lift_ok_bind]
              cases KeyStore.attemptColumn (KeyStore.nonempty update.pqcCombinedPubB64)
                KeyStore.decodeBase64 with
              | error raised => exact .inl rfl
              | ok pqcCombinedPub =>
                  simp only [Call.run_lift_ok_bind, KeyStore.run_assign_bind]
                  cases pinned : pinsOf platform update with
                  | error raised =>
                      unfold pinsOf at pinned
                      rw [pinned]
                      exact .inl rfl
                  | ok pins =>
                      unfold pinsOf at pinned
                      rw [pinned]
                      exact .inr ⟨pins, rfl, rfl⟩

end Pins

section Saving

variable {Priv Pub : Type} {S : SignatureLibrary} {R : Conversions} {context : Context Priv Pub}

/-- What every row that counts has to be for the levels to be right. -/
structure Evidence (S : SignatureLibrary) (R : Conversions) (context : Context Priv Pub)
    (now : Binary64) (table : CertificateTable) : Prop where
  backed : ∀ row ∈ table.rows, row.live now = true → Backed S R context row
  once : (vouchers now table.rows).Nodup

/-- No other certificate that counts has the same subject and the same issuer. -/
def SoleVoucher (now : Binary64) (rows : List CertificateRow) (row : CertificateRow) : Prop :=
  ∀ old ∈ rows, old.live now = true → old.subjectName = row.subjectName →
    old.issuerName ≠ row.issuerName

theorem evidence_insertOrReplace {now : Binary64} {table : CertificateTable} {row : CertificateRow}
    (evidence : Evidence S R context now table)
    (backed : row.live now = true → Backed S R context row)
    (sole : row.live now = true →
      SoleVoucher now (CertificateTable.others table.rows row.certId) row) :
    Evidence S R context now (table.insertOrReplace row) where
  backed found member live := by
    rcases CertificateTable.mem_insertOrReplace_iff.mp member with rfl | ⟨present, _⟩
    · exact backed live
    · exact evidence.backed found present live
  once := by
    have kept : (vouchers now (CertificateTable.others table.rows row.certId)).Nodup :=
      evidence.once.sublist ((List.filter_sublist.filter _).map _)
    unfold vouchers CertificateTable.insertOrReplace
    rw [List.filter_append, List.map_append]
    cases live : row.live now with
    | false =>
        rw [List.filter_cons_of_neg (by rw [live]; exact Bool.false_ne_true), List.filter_nil,
          List.map_nil, List.append_nil]
        exact kept
    | true =>
        rw [List.filter_cons_of_pos live, List.filter_nil, List.map_singleton]
        refine List.nodup_append.mpr ⟨kept, List.nodup_singleton _, ?_⟩
        intro left inside right last same
        obtain ⟨old, counted, pair⟩ := List.mem_map.mp inside
        have ⟨member, oldLive⟩ := List.mem_filter.mp counted
        rw [same, List.mem_singleton.mp last] at pair
        exact sole live old member oldLive (Prod.mk.inj pair).1 (Prod.mk.inj pair).2

theorem evidence_insert_revoked {now : Binary64} {table : CertificateTable} {row : CertificateRow}
    (evidence : Evidence S R context now table) (revoked : row.revoked = true) :
    Evidence S R context now (table.insertOrReplace row) := by
  have dead : row.live now = false := by
    rw [CertificateRow.live, revoked]
    rfl
  refine evidence_insertOrReplace evidence (fun live => ?_) (fun live => ?_)
  · rw [dead] at live
    cases live
  · rw [dead] at live
    cases live

theorem expectedIssuerPub_congr {other : Context Priv Pub} {name : String}
    (sameName : other.myName = context.myName)
    (sameOwn : other.store.myHybridSigCombinedPub = context.store.myHybridSigCombinedPub)
    (pins : other.store.friendsHybridSigPubs.get? name =
        context.store.friendsHybridSigPubs.get? name ∨
      (name = context.myName ∧ KeyStore.truthy context.store.myHybridSigCombinedPub = true)) :
    expectedIssuerPub other (.str name) = expectedIssuerPub context (.str name) := by
  rw [expectedIssuerPub, expectedIssuerPub, sameName, sameOwn]
  rcases pins with same | own
  · rw [same]
  · rw [if_pos own, if_pos own]

theorem backed_congr {other : Context Priv Pub} {row : CertificateRow}
    (backed : Backed S R context row)
    (same : expectedIssuerPub other (.str row.issuerName) =
      expectedIssuerPub context (.str row.issuerName)) : Backed S R other row := by
  obtain ⟨cert, read, accepted⟩ := backed
  obtain ⟨edPub, dilPub, expected, rest⟩ := verifyCertObject_ok_iff.mp accepted
  refine ⟨cert, read, verifyCertObject_ok_iff.mpr ⟨edPub, dilPub, ?_, rest⟩⟩
  rw [(reads_of_fromDict read).issuerName] at expected ⊢
  rw [same]
  exact expected

end Saving

section Runs

variable {Priv Pub Pem : Type} {E : Libraries Priv Pub Pem}

def PlainTimes (R : Conversions) (dict : JsonDict) : Prop :=
  ∀ cert, fromDict R dict = .ok cert → PlainTime cert.notBefore ∧ PlainTime cert.notAfter

/-- The friend's pinned keys stay, or none of the certificates that count rests on them. -/
def Repinnable (world : World Priv Pub Pem) (name : String) (pins : Option (Bytes × Bytes)) : Prop :=
  pins = world.session.store.friendsHybridSigPubs.get? name ∨
    (name = world.myName ∧
      KeyStore.truthy world.session.store.myHybridSigCombinedPub = true) ∨
    ∀ row ∈ world.certificates.rows, row.live world.now = true → row.issuerName ≠ name

/-- No issuer gets a second certificate for one subject to count, and no issuer's keys change while
a certificate of theirs counts. -/
def KeepsEvidence (E : Libraries Priv Pub Pem) (world : World Priv Pub Pem) : Event → Prop
  | .issue subjectName subjectPubB64 certType validityDays certId draw =>
      ∀ cert, newCertificate E.signatures E.conversions world.context subjectName subjectPubB64
          certType validityDays certId draw = .ok cert →
        (PlainTime cert.notBefore ∧ PlainTime cert.notAfter) ∧
        ∀ row ∈ world.certificates.rows, row.live world.now = true →
          row.subjectName = subjectName → row.issuerName ≠ world.myName
  | .importCerts dicts =>
      ImportPermitted E.signatures E.conversions world.context
        (fun dict table row => row.live world.now = true →
          PlainTimes E.conversions dict ∧
            SoleVoucher world.now (CertificateTable.others table.rows row.certId) row)
        dicts world.certificates
  | .updateFriend name update _ _ =>
      ∀ pins, pinsOf E.platform update = .ok pins → Repinnable world name pins
  | .removeFriend name => Repinnable world name none
  | .revoke _ _ | .revokeAll _ | .advance _ => True

/-- The invariant of these runs. -/
structure Sound (E : Libraries Priv Pub Pem) (world : World Priv Pub Pem) : Prop where
  evidence : Evidence E.signatures E.conversions world.context world.now world.certificates
  own : OwnKeys E.signatures world.session.store

/-- A fresh certificates table. -/
def Fresh (E : Libraries Priv Pub Pem) (world : World Priv Pub Pem) : Prop :=
  world.certificates.rows = [] ∧ OwnKeys E.signatures world.session.store

theorem sound_of_fresh {world : World Priv Pub Pem} (fresh : Fresh E world) : Sound E world where
  evidence := by
    refine ⟨?_, ?_⟩
    · intro row member
      rw [fresh.1] at member
      cases member
    · rw [fresh.1]
      exact List.nodup_nil
  own := fresh.2

/-- The certificates keep their evidence, before keys and clock change. -/
theorem evidence_tableAfter (lawful : E.signatures.Lawful) {world : World Priv Pub Pem}
    (event : Event) (sound : Sound E world) (keeps : KeepsEvidence E world event) :
    Evidence E.signatures E.conversions world.context world.now (tableAfter E world event) := by
  have conditions : ImportsPermitted E (fun dict table row => row.live world.now = true →
      PlainTimes E.conversions dict ∧
        SoleVoucher world.now (CertificateTable.others table.rows row.certId) row) world event := by
    cases event with
    | importCerts dicts => exact keeps
    | _ => exact trivial
  refine (tableAfter_grows world event conditions).invariant sound.evidence ?_
  intro table row evidence origin
  cases origin with
  | issued made stored =>
      obtain ⟨⟨notBefore, notAfter⟩, sole⟩ := keeps _ made
      obtain ⟨accepted, subjectName, issuerName⟩ := newCertificate_accepted lawful sound.own made
      have stores := stores_of_rowOf stored
      have subjectColumn := stores.subjectName
      have issuerColumn := stores.issuerName
      rw [subjectName] at subjectColumn
      rw [issuerName] at issuerColumn
      refine evidence_insertOrReplace evidence
        (fun _ => backed_of_stores accepted stores notBefore notAfter) fun _ old member live same => ?_
      have subject := Option.some.inj (Except.ok.inj subjectColumn)
      have issuer := Option.some.inj (Except.ok.inj issuerColumn)
      rw [← issuer]
      exact sole old (CertificateTable.mem_others_iff.mp member).1 live (same.trans subject.symm)
  | received allowed accepted =>
      obtain ⟨sent, read, verified, stores⟩ := receivedRow_some accepted
      refine evidence_insertOrReplace evidence (fun live => ?_) fun live => (allowed live).2
      have ⟨notBefore, notAfter⟩ := (allowed live).1 sent read
      exact backed_of_stores verified stores notBefore notAfter
  | revoked present read stored =>
      exact evidence_insert_revoked evidence (revoked_of_revokedCopy stored)

/-- A change of one friend's pins that the certificates can take. -/
theorem evidence_of_repinned {world : World Priv Pub Pem}
    {after : KeyStore.Session Priv Pub Pem} {name : String} {pins : Option (Bytes × Bytes)}
    (evidence : Evidence E.signatures E.conversions world.context world.now world.certificates)
    (sameOwn : after.store.myHybridSigCombinedPub = world.session.store.myHybridSigCombinedPub)
    (repinned : after.store.friendsHybridSigPubs =
      KeyStore.setOrPop world.session.store.friendsHybridSigPubs name pins)
    (repinnable : Repinnable world name pins) :
    Evidence E.signatures E.conversions ⟨after.store, world.myName, world.now⟩ world.now
      world.certificates := by
  refine ⟨fun row member live => ?_, evidence.once⟩
  refine backed_congr (evidence.backed row member live) (expectedIssuerPub_congr rfl sameOwn ?_)
  by_cases here : row.issuerName = name
  · rcases repinnable with same | own | unused
    · refine .inl ?_
      show after.store.friendsHybridSigPubs.get? _ = _
      rw [repinned, here, KeyStore.get?_setOrPop, if_pos rfl, same]
      rfl
    · rw [here]
      exact .inr own
    · exact absurd here (unused row member live)
  · refine .inl ?_
    show after.store.friendsHybridSigPubs.get? _ = _
    rw [repinned, KeyStore.get?_setOrPop, if_neg here]
    rfl

theorem evidence_updateFriend {world : World Priv Pub Pem} {name : String}
    {update : KeyStore.FriendUpdate} (password : Bytes) (draws : KeyStore.Draws)
    (evidence : Evidence E.signatures E.conversions world.context world.now world.certificates)
    (keeps : ∀ pins, pinsOf E.platform update = .ok pins → Repinnable world name pins) :
    Evidence E.signatures E.conversions
      ⟨((KeyStore.saveFriend E.keyStore E.platform name update password draws).run
        world.session).2.store, world.myName, world.now⟩ world.now world.certificates := by
  have own : ownKeys ((KeyStore.saveFriend E.keyStore E.platform name update password draws).run
      world.session).2 = ownKeys world.session :=
    saveFriend_keeps_ownKeys name update password draws world.session
  have combined := congrArg (fun keys => keys.2.2) own
  rcases saveFriend_pins (P := E.keyStore) name update password draws world.session with
    same | ⟨pins, pinned, repinned⟩
  · refine ⟨fun row member live => ?_, evidence.once⟩
    exact backed_congr (evidence.backed row member live) (expectedIssuerPub_congr rfl combined
      (.inl (congrArg (fun pubs => pubs.get? row.issuerName) same)))
  · exact evidence_of_repinned evidence combined repinned (keeps pins pinned)

theorem evidence_removeFriend {world : World Priv Pub Pem} {name : String}
    (evidence : Evidence E.signatures E.conversions world.context world.now world.certificates)
    (keeps : Repinnable world name none) :
    Evidence E.signatures E.conversions
      ⟨((KeyStore.removeFriend name).run world.session).2.store, world.myName, world.now⟩ world.now
      world.certificates := by
  have repinned : ((KeyStore.removeFriend name).run world.session).2.store.friendsHybridSigPubs =
      KeyStore.setOrPop world.session.store.friendsHybridSigPubs name none := rfl
  exact evidence_of_repinned evidence rfl repinned keeps

theorem live_of_later {now later : Binary64} {row : CertificateRow} (number : later.isNaN = false)
    (onward : later.lt now = false) (live : row.live later = true) : row.live now = true := by
  simp only [CertificateRow.live, Bool.and_eq_true, Bool.not_eq_true'] at live ⊢
  refine ⟨live.1, ?_⟩
  cases expired : row.notAfter.lt now with
  | false => rfl
  | true =>
      rw [Binary64.lt_of_lt_of_not_lt expired number onward] at live
      cases live.2

theorem evidence_advance {world : World Priv Pub Pem} {now : Binary64}
    (allowed : enabled world (.advance now))
    (evidence : Evidence E.signatures E.conversions world.context world.now world.certificates) :
    Evidence E.signatures E.conversions ⟨world.session.store, world.myName, now⟩ now
      world.certificates where
  backed row member live :=
    evidence.backed row member (live_of_later allowed.1 allowed.2 live)
  once := by
    refine evidence.once.sublist (List.Sublist.map _ ?_)
    refine List.monotone_filter_right _ fun row live => ?_
    exact live_of_later allowed.1 allowed.2 live

theorem sound_step (lawful : E.signatures.Lawful) {start : World Priv Pub Pem → Prop}
    {world : World Priv Pub Pem} {event : Event} (sound : Sound E world)
    (allowed : enabled world event) (keeps : KeepsEvidence E world event) :
    Sound E ((machine E start).apply world event) := by
  have certificates := evidence_tableAfter lawful event sound keeps
  cases event with
  | updateFriend name update password draws =>
      refine ⟨evidence_updateFriend password draws sound.evidence keeps, ?_⟩
      have own : ownKeys ((KeyStore.saveFriend E.keyStore E.platform name update password
          draws).run world.session).2 = ownKeys world.session :=
        saveFriend_keeps_ownKeys name update password draws world.session
      intro edPriv dilPriv edKey dilKey
      have edSame := congrArg Prod.fst own
      have dilSame := congrArg (fun keys => keys.2.1) own
      have combined := congrArg (fun keys => keys.2.2) own
      exact combined.trans (sound.own edPriv dilPriv (edSame.symm.trans edKey)
        (dilSame.symm.trans dilKey))
  | removeFriend name => exact ⟨evidence_removeFriend sound.evidence keeps, sound.own⟩
  | advance now =>
      have advanced := evidence_advance allowed sound.evidence
      exact ⟨advanced, sound.own⟩
  | _ => exact ⟨certificates, sound.own⟩

/-- Evidence that is kept justifies the level. -/
theorem justified_of_sound {world : World Priv Pub Pem} {friendName : String} {level : TrustLevel}
    (sound : Sound E world) (named : friendName ≠ "")
    (returned : getTrustLevel E.conversions world.now world.certificates friendName = .ok level) :
    Justified E world friendName level := by
  obtain ⟨certs, loaded, counted⟩ := ok_of_bind returned
  cases counted
  have needed := computeTrustLevel_needs_le world.now certs
  rw [valid_length loaded, certificatesFor_subject named] at needed
  refine ⟨_, issuers_nodup friendName sound.evidence.once, ?_, ?_⟩
  · rw [List.length_map]
    exact needed
  · intro issuer member
    obtain ⟨row, counted, issued⟩ := List.mem_map.mp member
    have ⟨selected, live⟩ := List.mem_filter.mp counted
    have ⟨present, subject⟩ := List.mem_filter.mp selected
    exact ⟨row, present, issued, of_decide_eq_true subject, live,
      sound.evidence.backed row present live⟩

/-- One issuer alone justifies the first level and no other. -/
theorem needs_le_one_of_justified {world : World Priv Pub Pem} {friendName issuer : String}
    {level : TrustLevel} (justified : Justified E world friendName level)
    (alone : ∀ row ∈ world.certificates.rows, row.subjectName = friendName →
      row.live world.now = true → row.issuerName = issuer) : level.needs ≤ 1 := by
  obtain ⟨issuers, nodup, needed, each⟩ := justified
  have same : ∀ found ∈ issuers, found = issuer := by
    intro found member
    obtain ⟨row, present, issued, subject, live, _⟩ := each found member
    rw [← issued]
    exact alone row present subject live
  rw [List.eq_replicate_of_mem same] at nodup
  have single := List.nodup_replicate.mp nodup
  omega

/-- In every run from a fresh table that keeps the evidence, a trust level is justified by as many
issuers as it needs certificates, and one issuer alone does not raise it above the first. -/
theorem trust_level_sound (lawful : E.signatures.Lawful) {world : World Priv Pub Pem}
    (reachable : (machine E (Fresh E)).Reachable (KeepsEvidence E) world) {friendName : String}
    (named : friendName ≠ "") {level : TrustLevel}
    (returned : getTrustLevel E.conversions world.now world.certificates friendName = .ok level) :
    Justified E world friendName level ∧
      ∀ issuer, (∀ row ∈ world.certificates.rows, row.subjectName = friendName →
        row.live world.now = true → row.issuerName = issuer) → level.needs ≤ 1 := by
  have sound : Sound E world := by
    refine reachable.invariant (machine E (Fresh E)) (Sound E) ?_ ?_
    · intro state fresh
      exact sound_of_fresh fresh
    · intro state event _ sound allowed keeps
      exact sound_step lawful sound allowed keeps
  have justified := justified_of_sound sound named returned
  exact ⟨justified, fun issuer alone => needs_le_one_of_justified justified alone⟩

end Runs

section Example

theorem toyWorld_fresh : Fresh toyTrustLibraries toyWorld := by
  refine ⟨rfl, ?_⟩
  intro edPriv dilPriv edKey dilKey
  cases edKey
  cases dilKey
  rfl

/-- One certificate for bob, by one issuer: the first level. -/
theorem toyWorld_basic :
    ∃ world, (machine toyTrustLibraries (Fresh toyTrustLibraries)).Reachable
        (KeepsEvidence toyTrustLibraries) world ∧ Justified toyTrustLibraries world "bob" .basic := by
  have plain : PlainTimes toyConversions (toyEntry "c1" "bob" false) := by
    intro cert read
    rw [fromDict_toyEntry] at read
    cases read
    exact ⟨by decide, by decide⟩
  have keeps : ImportPermitted toySignatures toyConversions toyWorld.context
      (fun dict table row => row.live toyWorld.now = true → PlainTimes toyConversions dict ∧
        SoleVoucher toyWorld.now (CertificateTable.others table.rows row.certId) row)
      [toyEntry "c1" "bob" false] toyWorld.certificates := by
    refine importPermitted_singleton (receivedRow_toyEntry "c1" false rfl) fun _ => ⟨plain, ?_⟩
    intro old member
    cases member
  have reachable : (machine toyTrustLibraries (Fresh toyTrustLibraries)).Reachable
      (KeepsEvidence toyTrustLibraries)
      ((machine toyTrustLibraries (Fresh toyTrustLibraries)).apply toyWorld
        (.importCerts [toyEntry "c1" "bob" false])) :=
    .step (Event.importCerts [toyEntry "c1" "bob" false]) (.start toyWorld_fresh) trivial keeps
  have saved : ((machine toyTrustLibraries (Fresh toyTrustLibraries)).apply toyWorld
      (.importCerts [toyEntry "c1" "bob" false])).certificates =
      CertificateTable.empty.insertOrReplace (toyRow "c1" "bob" false) :=
    tableAfter_toyEntry "c1" "bob" false rfl .empty
  refine ⟨_, reachable, (trust_level_sound toySignatures_lawful reachable (by decide) ?_).1⟩
  rw [saved]
  decide +kernel

/-- Alice's certificate for bob, imported twice under two ids: the second level, with one issuer. -/
theorem toyWorld_inflated :
    ∃ world, (machine toyTrustLibraries (Fresh toyTrustLibraries)).Reachable (fun _ _ => True)
        world ∧
      getTrustLevel toyConversions world.now world.certificates "bob" = .ok .verified ∧
      ∀ row ∈ world.certificates.rows, row.issuerName = "alice" := by
  have first : (machine toyTrustLibraries (Fresh toyTrustLibraries)).Reachable (fun _ _ => True)
      ((machine toyTrustLibraries (Fresh toyTrustLibraries)).apply toyWorld
        (.importCerts [toyEntry "c1" "bob" false])) :=
    .step (Event.importCerts [toyEntry "c1" "bob" false]) (.start toyWorld_fresh) trivial trivial
  have same : (machine toyTrustLibraries (Fresh toyTrustLibraries)).apply toyWorld
      (.importCerts [toyEntry "c1" "bob" false]) =
      { toyWorld with
        certificates := CertificateTable.empty.insertOrReplace (toyRow "c1" "bob" false) } := by
    show World.mk toyWorld.session toyWorld.myName toyWorld.now _ = _
    rw [← tableAfter_toyEntry "c1" "bob" false rfl .empty]
    rfl
  rw [same] at first
  have second := Machine.Reachable.step
    (Event.importCerts [toyEntry "c2" "bob" false]) first trivial trivial
  have saved := tableAfter_toyEntry "c2" "bob" false rfl
    (CertificateTable.empty.insertOrReplace (toyRow "c1" "bob" false))
  refine ⟨_, second, ?_, ?_⟩
  · show getTrustLevel toyConversions _ (tableAfter toyTrustLibraries _ _) "bob" = _
    rw [saved]
    decide +kernel
  · show ∀ row ∈ (tableAfter toyTrustLibraries _ _).rows, row.issuerName = "alice"
    rw [saved]
    decide

end Example

end UltimateEnigma.TrustChain
