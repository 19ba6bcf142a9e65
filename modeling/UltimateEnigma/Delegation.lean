import UltimateEnigma.PartialUpdates
import UltimateEnigma.RevokedCertificates

set_option autoImplicit false

namespace Py

/-- A table whose primary key is text, which may be `NULL` any number of times. -/
structure KeyedTable (Row : Type) (key : Row → Option String) where
  rows : List Row
  unique : (rows.filterMap key).Nodup

namespace KeyedTable

variable {Row : Type} {key : Row → Option String}

def empty : KeyedTable Row key := ⟨[], List.nodup_nil⟩

/-- `DELETE FROM … WHERE …`. -/
def deleteWhere (table : KeyedTable Row key) (condition : Row → Bool) : KeyedTable Row key where
  rows := table.rows.filter fun row => !condition row
  unique := table.unique.sublist (List.filter_sublist.filterMap key)

/-- `WHERE key = ?`: nothing is equal to `NULL`. -/
def hasKey (key : Row → Option String) (wanted : Option String) (row : Row) : Bool :=
  wanted.isSome && key row == wanted

end KeyedTable

end Py

namespace UltimateEnigma.Delegation

open Py

/-- A row of `recovery_shares`. -/
structure RecoveryShare where
  shareId : Option String
  ownerName : String
  shareIndex : Int
  totalShares : Int
  threshold : Int
  encryptedShareB64 : String
  holderName : String
  holderPubB64 : String
  createdAt : Binary64
deriving DecidableEq, Repr

/-- A row of `held_shares`. -/
structure HeldShare where
  shareId : Option String
  ownerName : String
  holderName : String
  shareIndex : Int
  totalShares : Int
  threshold : Int
  plaintextShareB64 : String
  createdAt : Binary64
deriving DecidableEq, Repr

/-- The key store and the tables that the delegated operations touch. -/
structure Tables (Priv Pub Pem : Type) where
  session : KeyStore.Session Priv Pub Pem
  myNameSetting : Option String
  certificates : TrustChain.CertificateTable
  recoveryShares : KeyedTable RecoveryShare RecoveryShare.shareId
  heldShares : KeyedTable HeldShare HeldShare.shareId

/-- What the service finds outside the tables: the libraries, the clock and the random source;
`fingerprint` is the hexadecimal SHA-256 of a text. -/
structure Setting (Priv Pub Pem : Type) where
  libraries : TrustChain.Libraries Priv Pub Pem
  fingerprint : String → String
  now : Binary64
  context : Friends.UpdateContext

inductive Failure where
  | chain (raised : TrustChain.Raised)
  | friends (raised : Friends.ServiceRaised)
deriving DecidableEq, Repr

/-- Instances of `CertificateError`. -/
def Failure.isCertificateError : Failure → Bool
  | .chain (.certificateError _) | .chain (.certificateRevokedError _)
  | .chain (.certificateExpiredError _) | .chain (.certificateSignatureError _) => true
  | .friends (.certificateError _) | .friends (.certificateErrorFrom _ _) => true
  | _ => false

abbrev DelegateCall (Priv Pub Pem α : Type) : Type := Call Failure (Tables Priv Pub Pem) α

section Operations

variable {Priv Pub Pem : Type}

def onSession {α : Type} (call : Friends.ServiceCall Priv Pub Pem α) :
    DelegateCall Priv Pub Pem α := fun tables =>
  match call.run tables.session with
  | (.ok value, after) => (.ok value, { tables with session := after })
  | (.error raised, after) => (.error (.friends raised), { tables with session := after })

def onCertificates {α : Type} (call : TrustChain.TableCall α) :
    DelegateCall Priv Pub Pem α := fun tables =>
  match call.run tables.certificates with
  | (.ok value, after) => (.ok value, { tables with certificates := after })
  | (.error raised, after) => (.error (.chain raised), { tables with certificates := after })

variable (setting : Setting Priv Pub Pem)

/-- `KeyStore.my_name`. -/
def myName (tables : Tables Priv Pub Pem) : String :=
  match KeyStore.nonempty tables.myNameSetting with
  | some name => name
  | none =>
      match tables.session.store.myPub with
      | some pub =>
          let print := setting.fingerprint (setting.libraries.keyStore.pubkeyToPem pub)
          "user-" ++ String.ofList (print.toList.take 8)
      | none => "anonymous"

/-- `get_delegation_certs_held_by_me`. -/
def heldByMe : DelegateCall Priv Pub Pem (List TrustChain.TrustCertificate) := do
  let tables ← Call.read
  Call.lift ((TrustChain.getDelegationCertsHeldByMe setting.libraries.conversions setting.now
    (myName setting tables) tables.certificates).mapError .chain)

/-- An update of a delegator's key, which is given the certificates that are held. It returns
`None`. -/
def keyUpdate (update : Friends.UpdateContext → Friends.ServiceCall Priv Pub Pem Unit) :
    DelegateCall Priv Pub Pem (Option Nat) := do
  let delegations ← heldByMe setting
  onSession (update { setting.context with delegations })
  return none

/-- `remove_all_delegator_optional_keys`, behind its lock. -/
def removeAllOptionalKeys (P : KeyStore.Primitives Priv Pub Pem) (platform : KeyStore.Platform)
    (context : Friends.UpdateContext) (delegatorName : String) (masterPassword : Bytes) :
    Friends.ServiceCall Priv Pub Pem Unit :=
  Friends.updateDelegator P platform context delegatorName masterPassword (.ok ())
    fun update => { update with
      x25519PubB64 := none
      pqcCombinedPubB64 := none
      hybridSigPubB64 := none }

def getRecoverySharesFor (tables : Tables Priv Pub Pem) (ownerName : String) :
    List RecoveryShare :=
  tables.recoveryShares.rows.filter fun row => row.ownerName = ownerName

def deleteRecoverySharesFor (ownerName : String) (tables : Tables Priv Pub Pem) :
    Tables Priv Pub Pem :=
  { tables with
    recoveryShares := tables.recoveryShares.deleteWhere fun row => row.ownerName = ownerName }

def deleteHeldShare (shareId : Option String) (tables : Tables Priv Pub Pem) :
    Tables Priv Pub Pem :=
  { tables with
    heldShares := tables.heldShares.deleteWhere (KeyedTable.hasKey HeldShare.shareId shareId) }

/-- The loop over `get_all_held_shares()`. -/
def deleteHeldShares (delegatorName : String) : List HeldShare → Nat →
    DelegateCall Priv Pub Pem Nat
  | [], heldCount => return heldCount
  | row :: rest, heldCount =>
      if row.ownerName = delegatorName then do
        Call.modify (deleteHeldShare row.shareId)
        deleteHeldShares delegatorName rest (heldCount + 1)
      else deleteHeldShares delegatorName rest heldCount

def revokeDelegatorRecoveryShares (delegatorName : String) :
    DelegateCall Priv Pub Pem (Option Nat) := do
  let delegations ← heldByMe setting
  Call.lift ((Friends.assertDelegation { setting.context with delegations }
    delegatorName).mapError .friends)
  let tables ← Call.read
  let distributedCount := (getRecoverySharesFor tables delegatorName).length
  Call.modify (deleteRecoverySharesFor delegatorName)
  let heldCount ← deleteHeldShares delegatorName tables.heldShares.rows 0
  return some (distributedCount + heldCount)

def revokeAllCertsForDelegator (delegatorName : String) :
    DelegateCall Priv Pub Pem (Option Nat) := do
  let tables ← Call.read
  let revokedCount ← onCertificates (TrustChain.revokeAllCertsForDelegator
    setting.libraries.conversions ⟨tables.session.store, myName setting tables, setting.now⟩
    delegatorName)
  return some revokedCount

/-- The operations that a delegation certificate permits. -/
inductive Mutation where
  | updateDelegatorPubKey (newCombinedPubB64 : String) (masterPassword : Bytes)
  | updateDelegatorX25519Key (newX25519B64 : String) (masterPassword : Bytes)
  | updateDelegatorPem (newPem : String) (masterPassword : Bytes)
  | updateDelegatorPqcKey (newPqcB64 : String) (masterPassword : Bytes)
  | removeAllDelegatorOptionalKeys (masterPassword : Bytes)
  | revokeDelegatorRecoveryShares
  | revokeAllCertsForDelegator
deriving DecidableEq, Repr

def Mutation.perform (delegatorName : String) :
    Mutation → DelegateCall Priv Pub Pem (Option Nat)
  | .updateDelegatorPubKey new masterPassword =>
      keyUpdate setting fun context =>
        Friends.updateDelegatorPubKey setting.libraries.keyStore setting.libraries.platform context
          delegatorName new masterPassword
  | .updateDelegatorX25519Key new masterPassword =>
      keyUpdate setting fun context =>
        Friends.updateDelegatorX25519Key setting.libraries.keyStore setting.libraries.platform
          context delegatorName new masterPassword
  | .updateDelegatorPem new masterPassword =>
      keyUpdate setting fun context =>
        Friends.updateDelegatorPem setting.libraries.keyStore setting.libraries.platform context
          delegatorName new masterPassword
  | .updateDelegatorPqcKey new masterPassword =>
      keyUpdate setting fun context =>
        Friends.updateDelegatorPqcKey setting.libraries.keyStore setting.libraries.platform context
          delegatorName new masterPassword
  | .removeAllDelegatorOptionalKeys masterPassword =>
      keyUpdate setting fun context =>
        removeAllOptionalKeys setting.libraries.keyStore setting.libraries.platform context
          delegatorName masterPassword
  | .revokeDelegatorRecoveryShares =>
      Delegation.revokeDelegatorRecoveryShares setting delegatorName
  | .revokeAllCertsForDelegator => Delegation.revokeAllCertsForDelegator setting delegatorName

end Operations

section Statements

variable {Priv Pub Pem : Type} (setting : Setting Priv Pub Pem)

/-- The rows are left that are not the delegator's. -/
structure OnlyOf (delegatorName : String) (before after : Tables Priv Pub Pem) : Prop where
  session : ((KeyStore.removeFriend delegatorName).run after.session).2 =
    ((KeyStore.removeFriend delegatorName).run before.session).2
  myNameSetting : after.myNameSetting = before.myNameSetting
  certificates : after.certificates.rows.filter (fun row => row.subjectName ≠ delegatorName) =
    before.certificates.rows.filter (fun row => row.subjectName ≠ delegatorName)
  recoveryShares : after.recoveryShares.rows.filter (fun row => row.ownerName ≠ delegatorName) =
    before.recoveryShares.rows.filter (fun row => row.ownerName ≠ delegatorName)
  heldShares : after.heldShares.rows.filter (fun row => row.ownerName ≠ delegatorName) =
    before.heldShares.rows.filter (fun row => row.ownerName ≠ delegatorName)

/-- An unrevoked, unexpired DELEGATION certificate is stored, from the delegator to the local
user. -/
def Authorised (delegatorName : String) (tables : Tables Priv Pub Pem) : Prop :=
  ∃ row ∈ tables.certificates.rows, row.certType = "delegation" ∧
    row.issuerName = delegatorName ∧ row.subjectName = myName setting tables ∧
    row.live setting.now = true

def Mutation.isRevocation : Mutation → Bool
  | .revokeDelegatorRecoveryShares | .revokeAllCertsForDelegator => true
  | _ => false

/-- What the revocations take away: shares, and certificates that are not revoked. -/
def remaining (tables : Tables Priv Pub Pem) : Nat :=
  tables.recoveryShares.rows.length + tables.heldShares.rows.length +
    (tables.certificates.rows.filter fun row => !row.revoked).length

/-- The gate: without a delegation the call raises a `CertificateError` and changes nothing; with
one it changes what is the delegator's only, and a revocation returns what it took away. -/
structure Gated (mutation : Mutation) (delegatorName : String) (before : Tables Priv Pub Pem) :
    Prop where
  refused : ¬ Authorised setting delegatorName before → ∃ raised,
    (mutation.perform setting delegatorName).run before = (.error raised, before) ∧
      raised.isCertificateError = true
  onlyOf : Authorised setting delegatorName before →
    OnlyOf delegatorName before ((mutation.perform setting delegatorName).run before).2
  counts : Authorised setting delegatorName before → mutation.isRevocation = true →
    ∃ count after, (mutation.perform setting delegatorName).run before =
      (.ok (some count), after) ∧ remaining before = remaining after + count

/-- Every certificate row that the query selects can be read back. -/
def Readable (subjectName : String) (tables : Tables Priv Pub Pem) : Prop :=
  ∀ row ∈ tables.certificates.certificatesFor none (some subjectName),
    ∃ cert, TrustChain.fromDict setting.libraries.conversions row.toDict = .ok cert

/-- When the gate holds. -/
def Mutation.Holds (delegatorName : String) (before : Tables Priv Pub Pem) : Mutation → Prop
  | .revokeDelegatorRecoveryShares =>
      Readable setting (myName setting before) before ∧
        (Authorised setting delegatorName before → ∀ row ∈ before.heldShares.rows,
          row.ownerName = delegatorName → row.shareId ≠ none)
  | .revokeAllCertsForDelegator =>
      Readable setting (myName setting before) before ∧
        (Authorised setting delegatorName before → Readable setting delegatorName before ∧
          ∀ row ∈ before.certificates.certificatesFor none (some delegatorName),
            row.live setting.now = true → row.certId ≠ none ∧
              (row.Dated → row.subjectName = delegatorName))
  | _ =>
      Readable setting (myName setting before) before ∨ Authorised setting delegatorName before

end Statements

end UltimateEnigma.Delegation
