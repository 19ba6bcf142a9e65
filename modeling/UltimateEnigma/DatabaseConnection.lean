import UltimateEnigma.KeyStoreOperations
import UltimateEnigma.Py.Text
import UltimateEnigma.Py.Transaction

set_option autoImplicit false

namespace Py.Call

variable {ε σ τ α : Type}

/-- A call on one part of an object. -/
def within (part : σ → τ) (write : τ → σ → σ) (call : Call ε τ α) : Call ε σ α := fun object =>
  ((call.run (part object)).1, write (call.run (part object)).2 object)

theorem run_within {part : σ → τ} {write : τ → σ → σ} {call : Call ε τ α} {object : σ}
    {result : Except ε α} {after : τ} (ran : call.run (part object) = (result, after)) :
    (within part write call).run object = (result, write after object) := by
  show ((call.run (part object)).1, write (call.run (part object)).2 object) = _
  rw [ran]

end Py.Call

namespace UltimateEnigma.KeyStore

open Py

/-- The module `database` and its file beside the tables of the key store: whether `sqlcipher3`
could be imported, `_MASTER_PASSWORD`, the key that the pages are encrypted under, and the
setting `sqlcipher_db_key`. -/
structure DatabaseModule where
  hasSqlcipher : Bool
  masterPassword : Option Bytes
  pageKey : Option Bytes
  sqlcipherDbKey : Option Wrapper
deriving DecidableEq, Repr

/-- What a connection draws where it makes a key for the file. -/
structure DbKeyDraw where
  dbKey : Bytes
  entropy : Entropy

abbrev ConnectionCall (α : Type) : Type := Call Raised DatabaseModule α

section Connections

variable {Priv Pub Pem : Type} (P : Primitives Priv Pub Pem)

/-- The stored key, which counts as one under Argon2id whatever its kind. Where there is no
master password the derivation takes `str(None)`. -/
def openDbKey (masterPassword : Option Bytes) (wrapper : Wrapper) : Except Raised Bytes := do
  match ← jsonLoads wrapper with
  | .other => .error .typeError
  | .dict enc => do
      let salt ← entry "salt" enc.salt
      let nonce ← entry "nonce" enc.nonce
      let ct ← entry "ct" enc.ct
      let key ← deriveKeyArgon2id P (masterPassword.getD (encodeUtf8 "None")) salt
      P.aesDecrypt key nonce ct

/-- `_derive_db_key`, whose own connection has no key. The table of settings is there, as
`init_db` has made it. -/
def deriveDbKey (draw : DbKeyDraw) : ConnectionCall (Option Bytes) := do
  let database ← Call.read
  match database.pageKey, database.sqlcipherDbKey, database.masterPassword with
  | some _, _, none => return none
  | some _, _, some _ => Call.raise .databaseConnectionError
  | none, some wrapper, masterPassword =>
      match openDbKey P masterPassword wrapper with
      | .ok dbKey => return some dbKey
      | .error _ => Call.raise .databaseConnectionError
  | none, none, none => return none
  | none, none, some masterPassword => do
      Call.modify fun database =>
        { database with sqlcipherDbKey := some (wrap P draw.dbKey masterPassword draw.entropy) }
      return some draw.dbKey

/-- The key that a connection is given. -/
def connectionKey (draw : DbKeyDraw) : ConnectionCall (Option Bytes) := do
  let database ← Call.read
  if database.hasSqlcipher then deriveDbKey P draw else return none

/-- `get_connection`. The first pragma that reads the file finds no database under any key but
that of its pages. -/
def getConnection (draw : DbKeyDraw) : ConnectionCall Unit := do
  let dbKey ← connectionKey P draw
  let database ← Call.read
  if dbKey = database.pageKey then return () else Call.raise .databaseError

def setMasterPassword (password : Bytes) : ConnectionCall Unit :=
  Call.modify fun database => { database with masterPassword := some password }

/-- A plaintext file, and nothing that makes a connection take a key for it. -/
structure DatabaseModule.Opens (database : DatabaseModule) : Prop where
  plain : database.pageKey = none
  keyless : database.hasSqlcipher = true →
    database.masterPassword = none ∧ database.sqlcipherDbKey = none

variable {P}

/-- A connection is made to such a file and leaves everything as it was; one that fails leaves a
file that no later connection opens either. -/
theorem getConnection_cases (database : DatabaseModule) (draw : DbKeyDraw) :
    (database.Opens ∧ (getConnection P draw).run database = (.ok (), database)) ∨
      ¬ database.Opens ∧ ∃ raised after,
        (getConnection P draw).run database = (.error raised, after) ∧ ¬ after.Opens := by
  obtain ⟨hasSqlcipher, masterPassword, pageKey, sqlcipherDbKey⟩ := database
  cases pageKey with
  | some key =>
      -- encrypted pages are beyond every connection, as the plain one cannot read the settings
      have shut (database : DatabaseModule) (pages : database.pageKey = some key) :
          ¬ database.Opens := by
        intro opens
        rw [opens.plain] at pages
        cases pages
      refine .inr ⟨shut _ rfl, ?_⟩
      cases hasSqlcipher with
      | false => exact ⟨_, _, rfl, shut _ rfl⟩
      | true =>
          cases masterPassword with
          | none => exact ⟨_, _, rfl, shut _ rfl⟩
          | some password => exact ⟨_, _, rfl, shut _ rfl⟩
  | none =>
      cases hasSqlcipher with
      | false => exact .inl ⟨⟨rfl, nofun⟩, rfl⟩
      | true =>
          have keyed (masterPassword : Option Bytes) (wrapper : Wrapper) :
              ¬ (⟨true, masterPassword, none, some wrapper⟩ : DatabaseModule).Opens := by
            intro opens
            cases (opens.keyless rfl).2
          cases sqlcipherDbKey with
          | none =>
              cases masterPassword with
              | none => exact .inl ⟨⟨rfl, fun _ => ⟨rfl, rfl⟩⟩, rfl⟩
              | some password =>
                  refine .inr ⟨?_, _, _, rfl, keyed _ _⟩
                  intro opens
                  cases (opens.keyless rfl).1
          | some wrapper =>
              refine .inr ⟨keyed _ _, ?_⟩
              have chosen : (connectionKey P draw).run ⟨true, masterPassword, none, some wrapper⟩ =
                  (match openDbKey P masterPassword wrapper with
                    | .ok dbKey => return some dbKey
                    | .error _ => Call.raise .databaseConnectionError :
                    ConnectionCall (Option Bytes)).run
                      ⟨true, masterPassword, none, some wrapper⟩ := rfl
              cases opened : openDbKey P masterPassword wrapper with
              | ok dbKey =>
                  rw [opened] at chosen
                  rw [getConnection, Call.run_bind_of_ok chosen]
                  exact ⟨_, _, rfl, keyed _ _⟩
              | error raised =>
                  rw [opened] at chosen
                  rw [getConnection, Call.run_bind_of_error chosen]
                  exact ⟨_, _, rfl, keyed _ _⟩

theorem getConnection_opens {database : DatabaseModule} (opens : database.Opens)
    (draw : DbKeyDraw) : (getConnection P draw).run database = (.ok (), database) := by
  obtain ⟨_, made⟩ | ⟨shut, _⟩ := getConnection_cases (P := P) database draw
  · exact made
  · exact absurd opens shut

theorem opens_of_getConnection {database after : DatabaseModule} {draw : DbKeyDraw}
    (connected : (getConnection P draw).run database = (.ok (), after)) :
    database.Opens ∧ after = database := by
  obtain ⟨opens, made⟩ | ⟨_, raised, after, failed, _⟩ := getConnection_cases (P := P) database draw
  · rw [made] at connected
    exact ⟨opens, (Prod.mk.inj connected).2.symm⟩
  · rw [failed] at connected
    cases connected

end Connections

/-- A process with its key store. -/
structure Process (Priv Pub Pem : Type) where
  database : DatabaseModule
  session : Session Priv Pub Pem

abbrev ProcessCall (Priv Pub Pem α : Type) : Type := Call Raised (Process Priv Pub Pem) α

section Processes

variable {Priv Pub Pem α : Type} (P : Primitives Priv Pub Pem) (platform : Platform)

def onDatabase (call : ConnectionCall α) : ProcessCall Priv Pub Pem α :=
  Call.within Process.database (fun database process => { process with database }) call

def onSession (call : StoreCall Priv Pub Pem α) : ProcessCall Priv Pub Pem α :=
  Call.within Process.session (fun session process => { process with session }) call

namespace Process

/-- `reset_with_recovery_key`. -/
def resetWithRecoveryKey (newPassword : Bytes) (draws : ResetDraws Priv) (draw : DbKeyDraw) :
    ProcessCall Priv Pub Pem Bool := do
  Call.mapError (.keyStoreErrorFrom "Recovery reset failed: ") (onDatabase (getConnection P draw))
  let reset ← onSession (resetKeys P platform newPassword draws)
  onDatabase (setMasterPassword newPassword)
  return reset

/-- `load`, whose first connection is the migration's that passes over its failures. -/
def load (password : Bytes) (now : Rat) (draws : LoadDraws) (first second : DbKeyDraw) :
    ProcessCall Priv Pub Pem Bool := do
  let _ ← Call.tryExcept (fun _ => true) (onDatabase (getConnection P first))
  onDatabase (getConnection P second)
  onSession (KeyStore.load P platform password now draws)

variable {P platform} {process after : Process Priv Pub Pem}

theorem connect_opens (opens : process.database.Opens) (draw : DbKeyDraw) :
    (onDatabase (getConnection P draw) : ProcessCall Priv Pub Pem Unit).run process =
      (.ok (), process) :=
  Call.run_within (getConnection_opens opens draw)

theorem opens_of_connect {draw : DbKeyDraw}
    (connected : (onDatabase (getConnection P draw) : ProcessCall Priv Pub Pem Unit).run process =
      (.ok (), after)) : process.database.Opens ∧ after = process := by
  obtain ⟨made, rfl⟩ := Prod.mk.inj connected
  have ran : (getConnection P draw).run process.database = (.ok (), _) := Prod.ext made rfl
  obtain ⟨opens, same⟩ := opens_of_getConnection ran
  exact ⟨opens, congrArg (Process.mk · process.session) same⟩

/-- A reset that returned went through a connection, and leaves the new password for the next. -/
theorem resetWithRecoveryKey_true {newPassword : Bytes} {draws : ResetDraws Priv}
    {draw : DbKeyDraw}
    (reset : (resetWithRecoveryKey P platform newPassword draws draw).run process =
      (.ok true, after)) :
    process.database.Opens ∧
      (resetKeys P platform newPassword draws).run process.session = (.ok true, after.session) ∧
        after.database = { process.database with masterPassword := some newPassword } := by
  obtain ⟨_, middle, connected, rest⟩ := Call.ok_of_run_bind reset
  obtain ⟨opens, rfl⟩ := opens_of_connect ((Call.run_mapError_ok_iff _ _ _ _ _).mp connected)
  obtain ⟨returned, written, keys, kept⟩ := Call.ok_of_run_bind rest
  obtain ⟨made, same⟩ := Prod.mk.inj keys
  obtain ⟨rfl, rfl⟩ : returned = true ∧
      { written with database := { written.database with masterPassword := some newPassword } } =
        after := by
    cases kept
    exact ⟨rfl, rfl⟩
  subst same
  exact ⟨opens, Prod.ext made rfl, rfl⟩

theorem load_opens (opens : process.database.Opens) (password : Bytes) (now : Rat)
    (draws : LoadDraws) (first second : DbKeyDraw) :
    (load P platform password now draws first second).run process =
      (onSession (KeyStore.load P platform password now draws)).run process := by
  have passed : (Call.tryExcept (fun _ => true) (onDatabase (getConnection P first)) :
      ProcessCall Priv Pub Pem (Option Unit)).run process = (.ok (some ()), process) := by
    rw [Call.run_tryExcept, connect_opens opens]
  rw [load, Call.run_bind_of_ok passed, Call.run_bind_of_ok (connect_opens opens second)]

/-- A load that returned found a file that opens, whatever its first connection did. -/
theorem opens_of_load {password : Bytes} {now : Rat} {draws : LoadDraws}
    {first second : DbKeyDraw} {returned : Bool}
    (loaded : (load P platform password now draws first second).run process =
      (.ok returned, after)) : process.database.Opens := by
  obtain ⟨_, migrated, passed, loaded⟩ := Call.ok_of_run_bind loaded
  obtain ⟨_, connected, made, _⟩ := Call.ok_of_run_bind loaded
  obtain ⟨opens, _⟩ := opens_of_connect made
  obtain ⟨still, _⟩ | ⟨_, raised, left, failed, shut⟩ :=
    getConnection_cases (P := P) process.database first
  · exact still
  · have refused : (onDatabase (getConnection P first) : ProcessCall Priv Pub Pem Unit).run
        process = (.error raised, { process with database := left }) := Call.run_within failed
    rw [Call.run_tryExcept, refused] at passed
    cases passed
    exact absurd opens shut

end Process

end Processes

end UltimateEnigma.KeyStore
