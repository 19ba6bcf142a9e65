import UltimateEnigma.HybridSigner
import UltimateEnigma.KeyStoreOperations
import UltimateEnigma.Machine
import UltimateEnigma.Py.Text
import UltimateEnigma.TrustCertificate

set_option autoImplicit false

namespace UltimateEnigma.TrustChain

open Py

/-- Caught by `except (KeyError, ValueError, TypeError)`. -/
def Raised.isKeyValueOrType : Raised → Bool
  | .keyError _ | .valueError | .typeError => true
  | _ => false

/-- What the service reads of the key store and of the clock during one call. -/
structure Context (Priv Pub : Type) where
  store : KeyStore Priv Pub
  myName : String
  now : Binary64

/-- A call of the service, on the certificates table. -/
abbrev TableCall (α : Type) : Type := Call Raised CertificateTable α

def minCertValidityDays : Int := 1

def maxCertValidityDays : Int := 3650

/-- The bytes that a certificate's signature is over. -/
def signedData (subjectPub : Bytes) (certType : CertificateType) (notBefore notAfter : Binary64) :
    Bytes :=
  subjectPub ++ encodeUtf8 certType.value ++ notBefore.pack ++ notAfter.pack

def TrustCertificate.signedData (cert : TrustCertificate) : Bytes :=
  TrustChain.signedData cert.subjectPub cert.certType cert.notBefore cert.notAfter

/-- `struct.pack(">H", len(key)) + key`. -/
def packKey (key : Bytes) : Except Raised Bytes :=
  if key.length < 65536 then .ok (packBE 2 key.length ++ key) else .error .structError

def parseIssuerPub (combined : Bytes) : Except Raised (Bytes × Bytes) :=
  match KeyStore.parseCombinedPub combined with
  | .ok pair => .ok pair
  | .error _ => .error .structError

section Verification

variable {Priv Pub : Type} (S : SignatureLibrary) (R : Conversions) (context : Context Priv Pub)

/-- `_expected_issuer_pub`. Lists and dictionaries have no hash. -/
def expectedIssuerPub : Json → Except Raised (Option Bytes)
  | .str name =>
      if name = context.myName ∧ KeyStore.truthy context.store.myHybridSigCombinedPub = true then
        .ok context.store.myHybridSigCombinedPub
      else
        match context.store.friendsHybridSigPubs.get? name with
        | none => .ok none
        | some (edPub, dilPub) => do
            let ed ← packKey edPub
            let dil ← packKey dilPub
            return some (ed ++ dil)
  | .list _ | .dict _ => .error .typeError
  | _ => .ok none

/-- `_verify_cert_object`. -/
def verifyCertObject (cert : TrustCertificate) : Except Raised Unit := do
  match ← expectedIssuerPub context cert.issuerName with
  | none => .error (.certificateSignatureError ("Unknown issuer '" ++ R.str cert.issuerName ++
      "' — no pinned hybrid signing key to validate against"))
  | some expected =>
      if cert.issuerPub ≠ expected then
        .error (.certificateSignatureError ("Issuer key mismatch for '" ++ R.str cert.issuerName ++
          "': embedded public key does not match the pinned key"))
      else do
        let (edPub, dilPub) ← parseIssuerPub cert.issuerPub
        if edPub.length ≠ 32 then .error .valueError
        else if HybridSigner.verify S cert.signedData cert.signature edPub dilPub then .ok ()
        else .error (.certificateSignatureError
          ("Certificate " ++ R.str cert.certId ++ " signature is invalid"))

/-- The body of the loop of `import_received_certs` before it saves; `none` is `continue`. -/
def checkReceived (dict : JsonDict) : Except Raised (Option TrustCertificate) := do
  let cert ← fromDict R dict
  if cert.subjectName.truthy = false ∨ cert.issuerName.truthy = false then return none
  else if cert.signature = [] then return none
  else
    match verifyCertObject S R context cert with
    | .error (.certificateSignatureError _) => return none
    | .error raised => .error raised
    | .ok () =>
        return some (if cert.receivedFrom = "" then { cert with receivedFrom := context.myName }
          else cert)

/-- `except (KeyError, ValueError, TypeError): continue`. -/
def orContinue {α : Type} : Except Raised (Option α) → Except Raised (Option α)
  | .ok found => .ok found
  | .error raised => if raised.isKeyValueOrType then .ok none else .error raised

/-- The row that one received dictionary is saved as. -/
def receivedRow (dict : JsonDict) : Except Raised (Option CertificateRow) :=
  orContinue do
    match ← checkReceived S R context dict with
    | none => return none
    | some cert => do
        let row ← rowOf R cert
        return some row

end Verification

section Reading

variable (R : Conversions)

/-- `[TrustCertificate.from_dict(row) for row in rows]`. -/
def certificatesOf (rows : List CertificateRow) : Except Raised (List TrustCertificate) :=
  rows.mapM fun row => fromDict R row.toDict

def getCertsForFriend (table : CertificateTable) (friendName : String) :
    Except Raised (List TrustCertificate) :=
  certificatesOf R (table.certificatesFor none (some friendName))

def getTrustLevel (now : Binary64) (table : CertificateTable) (friendName : String) :
    Except Raised TrustLevel := do
  let certs ← getCertsForFriend R table friendName
  return computeTrustLevel now certs

def getDelegationCertsHeldByMe (now : Binary64) (myName : String) (table : CertificateTable) :
    Except Raised (List TrustCertificate) := do
  let certs ← certificatesOf R (table.certificatesFor none (some myName))
  return certs.filter fun cert => cert.certType = .delegation ∧ cert.status now = .valid

/-- `_load_certificate`. -/
def loadCertificate (table : CertificateTable) (certId : String) :
    Except Raised TrustCertificate :=
  match table.rows.find? fun row => row.certId = some certId with
  | some row => fromDict R row.toDict
  | none => .error (.certificateError ("Certificate " ++ certId ++ " not found"))

end Reading

/-- `issuer_name == delegator_name`. -/
def TrustCertificate.issuedBy (cert : TrustCertificate) (name : String) : Bool :=
  match cert.issuerName with
  | .str issuer => issuer = name
  | _ => false

section Service

variable {Priv Pub : Type} (S : SignatureLibrary) (R : Conversions) (context : Context Priv Pub)

/-- `except Exception as e: raise CertificateError(…) from e`. -/
def persist (message : String) (cert : TrustCertificate) : TableCall Unit :=
  match rowOf R cert with
  | .ok row => Call.modify fun table => table.insertOrReplace row
  | .error _ => Call.raise (.certificateError message)

/-- What `issue_certificate` checks, and the certificate that it makes. -/
def newCertificate (subjectName subjectPubB64 certType : String) (validityDays : Int)
    (certId : String) (draw : Bytes) : Except Raised TrustCertificate :=
  match context.store.myEdPriv, context.store.myDilPriv with
  | some edPriv, some dilPriv => do
      if dilPriv = [] then
        .error (.certificateError "Hybrid signing keys not loaded. Generate keys first.")
      else if subjectName ∉ context.store.friends.map Prod.fst then
        .error (.certificateError ("Subject '" ++ subjectName ++ "' not found in friends list"))
      else
        match certificateType (.str certType) with
        | .error _ => .error (.certificateError ("Invalid certificate type: " ++ certType))
        | .ok ct =>
            if validityDays < minCertValidityDays ∨ maxCertValidityDays < validityDays then
              .error (.certificateError ("Validity days must be between " ++
                toString minCertValidityDays ++ " and " ++ toString maxCertValidityDays ++
                ", got " ++ toString validityDays))
            else do
              let subjectPub ← decodeB64 (.str subjectPubB64)
              let notAfter := R.plus context.now (validityDays * 86400)
              match HybridSigner.sign S (signedData subjectPub ct context.now notAfter) edPriv dilPriv
                draw, context.store.myHybridSigCombinedPub with
              | none, _ => .error (.certificateError "Hybrid signing failed")
              | some _, none => .error .typeError
              | some signature, some issuerPub =>
                  return {
                    certId := .str certId
                    subjectName := .str subjectName
                    subjectPub
                    issuerName := .str context.myName
                    issuerPub
                    certType := ct
                    notBefore := context.now
                    notAfter
                    signature
                    revoked := false
                    revocationReason := ""
                    receivedFrom := ""
                    createdAt := context.now }
  | _, _ => .error (.certificateError "Hybrid signing keys not loaded. Generate keys first.")

/-- `certId` is what `uuid.uuid4()` gives. -/
def issueCertificate (subjectName subjectPubB64 certType : String) (validityDays : Int)
    (certId : String) (draw : Bytes) : TableCall TrustCertificate := do
  let cert ← Call.lift (newCertificate S R context subjectName subjectPubB64 certType validityDays
    certId draw)
  persist R "Failed to persist certificate" cert
  return cert

/-- `verify_certificate`. -/
def verifyCertificate (table : CertificateTable) (certId : String) : Except Raised Bool := do
  let cert ← loadCertificate R table certId
  if cert.revoked then
    .error (.certificateRevokedError ("Certificate " ++ certId ++ " has been revoked: " ++
      if cert.revocationReason = "" then "no reason given" else cert.revocationReason))
  else if cert.isExpired context.now then .error (.certificateExpiredError certId)
  else do
    verifyCertObject S R context cert
    return true

def revokedCopy (cert : TrustCertificate) (reason : String) : TrustCertificate :=
  { cert with revoked := true, revocationReason := reason }

def revokeCertificate (certId reason : String) : TableCall Unit := do
  let table ← Call.read
  let cert ← Call.lift (loadCertificate R table certId)
  persist R "Failed to persist revocation"
    (revokedCopy cert (if reason = "" then "unspecified" else reason))

/-- The loop of `revoke_all_certs_for_delegator`. The warning about a row that cannot be saved cuts
the certificate's id short, which needs a text. -/
def revokeEach (reason : String) : List TrustCertificate → Nat → TableCall Nat
  | [], revokedCount => return revokedCount
  | cert :: rest, revokedCount =>
      match rowOf R (revokedCopy cert reason), cert.certId with
      | .ok row, _ => do
          Call.modify fun table => table.insertOrReplace row
          revokeEach reason rest (revokedCount + 1)
      | .error _, .str _ => revokeEach reason rest revokedCount
      | .error _, _ => Call.raise .typeError

def revokeAllCertsForDelegator (delegatorName : String) : TableCall Nat := do
  let table ← Call.read
  let delegations ← Call.lift
    (getDelegationCertsHeldByMe R context.now context.myName table)
  if delegations.any fun cert => cert.issuedBy delegatorName then do
    let certs ← Call.lift (getCertsForFriend R table delegatorName)
    revokeEach R ("Revoked by delegate " ++ context.myName)
      (certs.filter fun cert => !cert.revoked && !cert.isExpired context.now) 0
  else Call.raise (.certificateError ("No valid delegation certificate from '" ++ delegatorName ++
    "'. Cannot revoke their certificates."))

/-- Each dictionary is saved before the next is looked at. -/
def importReceivedCerts : List JsonDict → Nat → TableCall Nat
  | [], imported => return imported
  | dict :: rest, imported => do
      match ← Call.lift (receivedRow S R context dict) with
      | none => importReceivedCerts rest imported
      | some row => do
          Call.modify fun table => table.insertOrReplace row
          importReceivedCerts rest (imported + 1)

end Service

/-- The libraries that the service and the key store use. -/
structure Libraries (Priv Pub Pem : Type) where
  keyStore : KeyStore.Primitives Priv Pub Pem
  platform : KeyStore.Platform
  signatures : SignatureLibrary
  conversions : Conversions

/-- The application, as far as certificates depend on it. -/
structure World (Priv Pub Pem : Type) where
  session : KeyStore.Session Priv Pub Pem
  myName : String
  now : Binary64
  certificates : CertificateTable

def World.context {Priv Pub Pem : Type} (world : World Priv Pub Pem) : Context Priv Pub :=
  ⟨world.session.store, world.myName, world.now⟩

inductive Event where
  | issue (subjectName subjectPubB64 certType : String) (validityDays : Int) (certId : String)
      (draw : Bytes)
  | importCerts (dicts : List JsonDict)
  | revoke (certId reason : String)
  | revokeAll (delegatorName : String)
  | updateFriend (name : String) (update : KeyStore.FriendUpdate) (password : Bytes)
      (draws : KeyStore.Draws)
  | removeFriend (name : String)
  | advance (now : Binary64)

section Runs

variable {Priv Pub Pem : Type} (E : Libraries Priv Pub Pem)

/-- The certificates table after an event. -/
def tableAfter (world : World Priv Pub Pem) : Event → CertificateTable
  | .issue subjectName subjectPubB64 certType validityDays certId draw =>
      ((issueCertificate E.signatures E.conversions world.context subjectName subjectPubB64 certType
        validityDays certId draw).run world.certificates).2
  | .importCerts dicts =>
      ((importReceivedCerts E.signatures E.conversions world.context dicts 0).run
        world.certificates).2
  | .revoke certId reason =>
      ((revokeCertificate E.conversions certId reason).run world.certificates).2
  | .revokeAll delegatorName =>
      ((revokeAllCertsForDelegator E.conversions world.context delegatorName).run
        world.certificates).2
  | _ => world.certificates

/-- The key store after an event. -/
def sessionAfter (world : World Priv Pub Pem) : Event → KeyStore.Session Priv Pub Pem
  | .updateFriend name update password draws =>
      ((KeyStore.saveFriend E.keyStore E.platform name update password draws).run world.session).2
  | .removeFriend name => ((KeyStore.removeFriend name).run world.session).2
  | _ => world.session

def nowAfter (world : World Priv Pub Pem) : Event → Binary64
  | .advance now => now
  | _ => world.now

/-- The clock does not go back, and a new id is that of no certificate in the table. -/
def enabled (world : World Priv Pub Pem) : Event → Prop
  | .issue _ _ _ _ certId _ => ∀ row ∈ world.certificates.rows, row.certId ≠ some certId
  | .advance now => now.isNaN = false ∧ now.lt world.now = false
  | _ => True

def machine (start : World Priv Pub Pem → Prop) : Machine (World Priv Pub Pem) Event where
  start := start
  enabled := enabled
  apply world event :=
    { session := sessionAfter E world event
      myName := world.myName
      now := nowAfter world event
      certificates := tableAfter E world event }

end Runs

section Toy

/-- Conversions small enough to run. -/
def toyConversions : Conversions where
  floatOfText _ := none
  floatOfInt number := some (BitVec.ofInt 64 number)
  str
    | .str text => text
    | _ => ""
  realText _ := ""
  plus value number := value + BitVec.ofInt 64 number

def toyTrustLibraries : Libraries String String (String × Bytes) where
  keyStore := KeyStore.toyLibraries
  platform := ⟨true, true⟩
  signatures := toySignatures
  conversions := toyConversions

/-- The combined key of the private key that both schemes share here. -/
def toyCombined (priv : Bytes) : Bytes :=
  HybridSigner.combine (toySignatures.edPublic priv) (toySignatures.dilPublic priv)

/-- An application with its own keys, and alice pinned. -/
def toyWorld : World String String (String × Bytes) where
  session :=
    { store :=
        { myEdPriv := some [1]
          myDilPriv := some [1]
          myHybridSigCombinedPub := some (toyCombined [1])
          friends := [("bob", "pem", none), ("alice", "pem", none)]
          friendsHybridSigPubs :=
            Dict.empty.set "alice" (toySignatures.edPublic [7], toySignatures.dilPublic [7]) }
      db := .empty }
  myName := "me"
  now := 0
  certificates := .empty

/-- Alice's signature over a key, valid from 0 to 1000. -/
def toySignature (subjectPub : Bytes) : Bytes :=
  ((HybridSigner.sign toySignatures (signedData subjectPub .identity 0 1000) [7] [7] []).getD [])

/-- A certificate that alice signed. -/
def toyCertificate (certId subjectName : String) (revoked : Bool) : TrustCertificate where
  certId := .str certId
  subjectName := .str subjectName
  subjectPub := [5]
  issuerName := .str "alice"
  issuerPub := toyCombined [7]
  certType := .identity
  notBefore := 0
  notAfter := 1000
  signature := toySignature [5]
  revoked := revoked
  revocationReason := ""
  receivedFrom := "alice"
  createdAt := 0

/-- The row that it is saved as. -/
def toyRow (certId subjectName : String) (revoked : Bool) : CertificateRow where
  certId := some certId
  subjectName := subjectName
  subjectPubB64 := b64encode [5]
  issuerName := "alice"
  issuerPubB64 := b64encode (toyCombined [7])
  certType := CertificateType.identity.value
  notBefore := 0
  notAfter := 1000
  signatureB64 := b64encode (toySignature [5])
  revoked := revoked
  revocationReason := ""
  receivedFrom := "alice"
  createdAt := 0

/-- What a peer sends of it. -/
def toyEntry (certId subjectName : String) (revoked : Bool) : JsonDict :=
  (toyRow certId subjectName revoked).toDict

end Toy

end UltimateEnigma.TrustChain
