import UltimateEnigma.KeyStoreOperations
import UltimateEnigma.Py.Text

set_option autoImplicit false

namespace UltimateEnigma.Totp

open Py KeyStore

def totpDigits : Nat := 6

/-- Seconds for each time step. -/
def totpInterval : Int := 30

def totpDrift : Int := 1

inductive TotpRaised where
  | totpValidationError (message : String)
  | structError
  | typeError
  | passed (cause : KeyStore.Raised)
deriving DecidableEq, Repr

/-- What is used of the standard library: `hmac.new(secret, msg, hashlib.sha1).digest()`, and
`str.isdigit` of one character. -/
structure TotpLibrary where
  hmacSha1 : Bytes → Bytes → Bytes
  isDigit : Char → Bool

structure TotpLibrary.Lawful (L : TotpLibrary) : Prop where
  ascii_digit (digit : Nat) (decimal : digit < 10) : L.isDigit (Char.ofNat (48 + digit)) = true

/-- `persistCounter` says whether `_persist_counter` is set, to `save_last_counter`. -/
structure TOTPService where
  secret : Option Bytes := none
  lastCounter : Int := -1
  persistCounter : Bool := false
deriving DecidableEq, Repr

/-- The attributes of `AuthController` that matter here: the key store with its database, and the
TOTP service. -/
structure Controller (Priv Pub Pem : Type) where
  session : Session Priv Pub Pem
  totpService : TOTPService

variable {Priv Pub Pem : Type}

abbrev TotpCall (Priv Pub Pem α : Type) : Type := Call TotpRaised (Controller Priv Pub Pem) α

def onService (change : TOTPService → TOTPService) : TotpCall Priv Pub Pem Unit :=
  Call.modify fun controller => { controller with totpService := change controller.totpService }

/-- `set_secret`. -/
def setSecret (secret : Bytes) : TotpCall Priv Pub Pem Unit :=
  if secret.length < 20 then
    Call.raise (.totpValidationError "TOTP secret must be at least 20 bytes")
  else onService fun service => { service with secret := some (secret.take 20), lastCounter := -1 }

/-- `set_raw_secret`. -/
def setRawSecret (secret : Bytes) : TotpCall Priv Pub Pem Unit :=
  if secret.length ≠ 20 then
    Call.raise (.totpValidationError
      ("Raw TOTP secret must be exactly 20 bytes, got " ++ toString secret.length))
  else onService fun service => { service with secret := some secret, lastCounter := -1 }

section Codes

variable (L : TotpLibrary)

/-- `_hotp`. A SHA-1 digest has 20 bytes, so that four stand at every offset below 16. -/
def hotp (secret : Bytes) (counter : Int) : Except TotpRaised Nat :=
  if 0 ≤ counter ∧ counter < 2 ^ 64 then
    let h := L.hmacSha1 secret (packBE 8 counter.toNat)
    let offset := (h.getLastD 0).toNat % 16
    .ok (unpackBE ((h.drop offset).take 4) % 2 ^ 31 % 10 ^ totpDigits)
  else .error .structError

/-- `f"{code:06d}"` of a number below a million. -/
def formatCode (code : Nat) : String :=
  String.ofList ((List.range totpDigits).reverse.map fun place =>
    Char.ofNat (48 + code / 10 ^ place % 10))

/-- The time step of a moment. -/
def timeStep (timestamp : Rat) : Int := toInt timestamp / totpInterval

def requireSecret : TotpCall Priv Pub Pem Bytes := do
  let controller ← Call.read
  Call.require (.totpValidationError "TOTP secret not set") controller.totpService.secret

def generate (timestamp : Rat) : TotpCall Priv Pub Pem String := do
  let secret ← requireSecret
  let code ← Call.lift (hotp L secret (timeStep timestamp))
  return formatCode code

/-- `hmac.compare_digest` of a text with one that is ASCII. -/
def compareDigest (code expected : String) : Except TotpRaised Bool :=
  if code.toList.all fun char => char.toNat < 128 then .ok (code = expected)
  else .error .typeError

/-- `_last_counter` is raised, and saved where that is wired. -/
def acceptCounter (counter : Int) (controller : Controller Priv Pub Pem) : Controller Priv Pub Pem where
  session :=
    if controller.totpService.persistCounter then
      { controller.session with
        db := controller.session.db.setText .totpLastCounter counter.repr }
    else controller.session
  totpService := { controller.totpService with lastCounter := counter }

/-- The loop of `verify` over the counters within the drift. -/
def verifyAmong (secret : Bytes) (code : String) (trackReplay : Bool) :
    List Int → TotpCall Priv Pub Pem Bool
  | [] => return false
  | candidate :: rest => do
      let expected ← Call.lift (hotp L secret candidate)
      if ← Call.lift (compareDigest code (formatCode expected)) then
        if !trackReplay then return true
        else do
          let controller ← Call.read
          if candidate ≤ controller.totpService.lastCounter then return false
          else do
            Call.modify (acceptCounter candidate)
            return true
      else verifyAmong secret code trackReplay rest

/-- `range(-TOTP_DRIFT, TOTP_DRIFT + 1)` around a time step. -/
def candidates (base : Int) : List Int := [base - totpDrift, base, base + totpDrift]

def verify (code : String) (timestamp : Rat) (trackReplay : Bool) :
    TotpCall Priv Pub Pem Bool := do
  let secret ← requireSecret
  let code := strip code
  if code.length ≠ totpDigits || !(code.toList.all L.isDigit) then return false
  else verifyAmong L secret code trackReplay (candidates (timeStep timestamp))

end Codes

/-- The clock when the self-test generates its code, and when it verifies it. -/
structure SelfTest where
  generated : Rat
  verified : Rat
deriving DecidableEq, Repr

section SelfTests

variable {L : TotpLibrary} {controller : Controller Priv Pub Pem} {secret : Bytes}

theorem mem_formatCode {code : Nat} {char : Char} (member : char ∈ (formatCode code).toList) :
    ∃ digit < 10, char = Char.ofNat (48 + digit) := by
  rw [formatCode, String.toList_ofList] at member
  obtain ⟨place, _, rfl⟩ := List.mem_map.mp member
  exact ⟨code / 10 ^ place % 10, Nat.mod_lt _ (by decide), rfl⟩

theorem digit_plain : ∀ digit < 10, isSpace (Char.ofNat (48 + digit)) = false ∧
    (Char.ofNat (48 + digit)).toNat < 128 := by decide

theorem formatCode_length (code : Nat) : (formatCode code).length = totpDigits := by
  rw [formatCode, String.length_ofList, List.length_map, List.length_reverse, List.length_range]

theorem strip_formatCode (code : Nat) : strip (formatCode code) = formatCode code := by
  have plain : ∀ char ∈ (formatCode code).toList, isSpace char = false := by
    intro char member
    obtain ⟨digit, decimal, rfl⟩ := mem_formatCode member
    exact (digit_plain digit decimal).1
  exact String.toList_injective (toList_strip plain)

theorem compareDigest_formatCode (code : Nat) (expected : String) :
    compareDigest (formatCode code) expected = .ok (formatCode code = expected) := by
  have ascii : (formatCode code).toList.all (fun char => char.toNat < 128) = true := by
    apply List.all_eq_true.mpr
    intro char member
    obtain ⟨digit, decimal, rfl⟩ := mem_formatCode member
    exact decide_eq_true (digit_plain digit decimal).2
  rw [compareDigest, if_pos ascii]

/-- The counters that `struct.pack(">Q", counter)` takes. -/
def Packable (counter : Int) : Prop := 0 ≤ counter ∧ counter < 2 ^ 64

instance (counter : Int) : Decidable (Packable counter) := inferInstanceAs (Decidable (_ ∧ _))

theorem hotp_of_packable {counter : Int} (packable : Packable counter) :
    ∃ code, hotp L secret counter = .ok code :=
  ⟨_, if_pos packable⟩

/-- A code is found among the counters that it was made with one of. -/
theorem verifyAmong_own {counter : Int} {code : Nat} (made : hotp L secret counter = .ok code)
    {counters : List Int} (packable : ∀ candidate ∈ counters, Packable candidate)
    (among : counter ∈ counters) :
    (verifyAmong L secret (formatCode code) false counters).run controller =
      (.ok true, controller) := by
  induction counters with
  | nil => cases among
  | cons candidate rest ih =>
      obtain ⟨other, found⟩ : ∃ other, hotp L secret candidate = .ok other :=
        hotp_of_packable (packable candidate List.mem_cons_self)
      rw [verifyAmong, found, Call.run_lift_ok_bind, compareDigest_formatCode,
        Call.run_lift_ok_bind]
      by_cases same : formatCode code = formatCode other
      · rw [decide_eq_true same]
        rfl
      · rw [decide_eq_false same]
        have later : counter ∈ rest := by
          rcases List.mem_cons.mp among with rfl | later
          · rw [made] at found
            cases found
            exact absurd rfl same
          · exact later
        exact ih (fun candidate member => packable candidate (List.mem_cons_of_mem _ member)) later

/-- The clock is past the first time step, and has moved by one time step at most since the code was
made. -/
structure SelfTest.Steady (test : SelfTest) : Prop where
  packable : ∀ counter ∈ candidates (timeStep test.verified), Packable counter
  near : timeStep test.generated ∈ candidates (timeStep test.verified)

/-- The self-test of `load_totp_secret` goes through, and consumes nothing. -/
theorem selfTest_run (lawful : L.Lawful) {test : SelfTest} (steady : test.Steady)
    (held : controller.totpService.secret = some secret) :
    ∃ testCode, (generate L test.generated).run controller = (.ok testCode, controller) ∧
      (verify L testCode test.verified false).run controller = (.ok true, controller) := by
  obtain ⟨code, made⟩ : ∃ code, hotp L secret (timeStep test.generated) = .ok code :=
    hotp_of_packable (steady.packable _ steady.near)
  have secretFound : (requireSecret : TotpCall Priv Pub Pem Bytes).run controller =
      (.ok secret, controller) := by
    rw [requireSecret, Call.run_read_bind, held]
    rfl
  have digits : (formatCode code).toList.all L.isDigit = true := by
    apply List.all_eq_true.mpr
    intro char member
    obtain ⟨digit, decimal, rfl⟩ := mem_formatCode member
    exact lawful.ascii_digit digit decimal
  refine ⟨formatCode code, ?_, ?_⟩
  · rw [generate, Call.run_bind_of_ok secretFound, made]
    rfl
  · have plain : ¬ ((formatCode code).length ≠ totpDigits || !(formatCode code).toList.all L.isDigit) =
        true := by
      rw [digits, formatCode_length]
      decide
    rw [verify, Call.run_bind_of_ok secretFound, strip_formatCode, if_neg plain]
    exact verifyAmong_own made steady.packable steady.near

/-- A verification changes nothing, or it accepts a counter above the last one. -/
theorem verifyAmong_cases (secret : Bytes) (code : String) (trackReplay : Bool)
    (counters : List Int) :
    (((verifyAmong L secret code trackReplay counters).run controller).2 = controller ∧
      (trackReplay = true →
        ((verifyAmong L secret code trackReplay counters).run controller).1 ≠ .ok true)) ∨
    ∃ counter, controller.totpService.lastCounter < counter ∧
      (verifyAmong L secret code trackReplay counters).run controller =
        (.ok true, acceptCounter counter controller) := by
  induction counters with
  | nil => exact .inl ⟨rfl, fun _ => nofun⟩
  | cons candidate rest ih =>
      rw [verifyAmong]
      cases hotp L secret candidate with
      | error raised => exact .inl ⟨rfl, fun _ => nofun⟩
      | ok expected =>
          rw [Call.run_lift_ok_bind]
          cases compareDigest code (formatCode expected) with
          | error raised => exact .inl ⟨rfl, fun _ => nofun⟩
          | ok same =>
              rw [Call.run_lift_ok_bind]
              cases same with
              | false => exact ih
              | true =>
                  cases trackReplay with
                  | false => exact .inl ⟨rfl, nofun⟩
                  | true =>
                      by_cases replayed : candidate ≤ controller.totpService.lastCounter
                      · left
                        simp only [Bool.not_true, Bool.false_eq_true, if_true, if_false,
                          Call.run_read_bind, replayed, Call.run_pure]
                        exact ⟨trivial, fun _ => nofun⟩
                      · refine .inr ⟨candidate, by omega, ?_⟩
                        simp only [Bool.not_true, Bool.false_eq_true, if_true, if_false,
                          Call.run_read_bind, replayed, Call.run_modify_bind, Call.run_pure]

theorem verify_cases (controller : Controller Priv Pub Pem) (code : String) (timestamp : Rat) :
    (((verify L code timestamp true).run controller).2 = controller ∧
      ((verify L code timestamp true).run controller).1 ≠ .ok true) ∨
    ∃ counter, controller.totpService.lastCounter < counter ∧
      (verify L code timestamp true).run controller =
        (.ok true, acceptCounter counter controller) := by
  rw [verify, requireSecret, bind_assoc, Call.run_read_bind]
  cases controller.totpService.secret with
  | none => exact .inl ⟨rfl, nofun⟩
  | some secret =>
      rw [Call.run_require_bind, Call.run_ite]
      split
      · exact .inl ⟨rfl, nofun⟩
      · rcases verifyAmong_cases secret (strip code) true (candidates (timeStep timestamp)) with
          ⟨same, fails⟩ | accepts
        · exact .inl ⟨same, fails rfl⟩
        · exact .inr accepts

end SelfTests

section Persistence

/-- `load_last_counter`. -/
def loadLastCounter (db : Database Pem) : Int :=
  ((db.texts .totpLastCounter).bind parseInt).getD (-1)

/-- What `save_last_counter` writes is read back. -/
theorem loadLastCounter_setText (db : Database Pem) (counter : Int) :
    loadLastCounter (db.setText .totpLastCounter counter.repr) = counter := by
  have stored : (db.setText .totpLastCounter counter.repr).texts .totpLastCounter =
      some counter.repr := Function.update_self TextSetting.totpLastCounter _ db.texts
  rw [loadLastCounter, stored, Option.bind_some, parseInt_repr]
  rfl

/-- `_wire_replay_counter`. -/
def wireReplayCounter : TotpCall Priv Pub Pem Unit :=
  Call.modify fun controller =>
    let initial := loadLastCounter controller.session.db
    { controller with
      totpService := { controller.totpService with
        persistCounter := true
        lastCounter :=
          if initial > controller.totpService.lastCounter then initial
          else controller.totpService.lastCounter } }

/-- The service that a load leaves. -/
def loadedService (secret : Bytes) (db : Database Pem) : TOTPService where
  secret := some secret
  lastCounter := if loadLastCounter db > -1 then loadLastCounter db else -1
  persistCounter := true

/-- A call of the key store. -/
def onKeyStore {α : Type} (call : StoreCall Priv Pub Pem α) : TotpCall Priv Pub Pem α :=
  fun controller =>
    match call.run controller.session with
    | (.ok value, after) => (.ok value, { controller with session := after })
    | (.error raised, after) => (.error (.passed raised), { controller with session := after })

/-- `try: … except Exception as e: log`, where what was done stays done. -/
def orElseLog (call : TotpCall Priv Pub Pem Bool) : TotpCall Priv Pub Pem Bool :=
  fun controller =>
    match call.run controller with
    | (.ok value, after) => (.ok value, after)
    | (.error _, after) => (.ok false, after)

structure SelfTests where
  password : SelfTest
  globalSecret : SelfTest
deriving DecidableEq, Repr

variable (P : Primitives Priv Pub Pem) (L : TotpLibrary)

/-- How `load_totp_secret` puts a decrypted secret into the service. -/
def installSecret (totpSecret : Bytes) : TotpCall Priv Pub Pem Unit :=
  if totpSecret.length = 20 then setRawSecret totpSecret else setSecret totpSecret

/-- One of the two strategies of `load_totp_secret`. -/
def loadWith (enc : EncValue) (key : Bytes) (test : SelfTest) : TotpCall Priv Pub Pem Bool := do
  let totpSecret ← onKeyStore (Call.lift (decryptSecret P enc key))
  installSecret totpSecret
  let testCode ← generate L test.generated
  if ← verify L testCode test.verified false then do
    wireReplayCounter
    return true
  else return false

/-- The legacy mode of `load_totp_secret`. -/
def loadDerived (globalSecret : Bytes) : TotpCall Priv Pub Pem Bool := do
  setSecret globalSecret
  wireReplayCounter
  return true

/-- The first strategy that returns `True`. -/
def firstOf : List (TotpCall Priv Pub Pem Bool) → TotpCall Priv Pub Pem Bool
  | [] => return false
  | strategy :: rest => do
      if ← orElseLog strategy then return true
      else firstOf rest

/-- `load_totp_secret`. -/
def loadTotpSecret (password : Option Bytes) (tests : SelfTests) : TotpCall Priv Pub Pem Bool := do
  let controller ← Call.read
  let globalSecret := nonemptyBytes controller.session.store.globalSecret
  match controller.session.db.secrets .totpSecretEncrypted with
  | some row => do
      let enc ← onKeyStore (Call.lift (jsonLoads row))
      firstOf
        (((nonemptyBytes password).map fun key => loadWith P L enc key tests.password).toList ++
          (globalSecret.map fun secret => loadWith P L enc (hex secret) tests.globalSecret).toList)
  | none =>
      firstOf (globalSecret.map loadDerived).toList

/-- `generate_new_totp`, with what `generate_random_secret` gives. -/
def generateNewTotp (newSecret : Bytes) (password : Option Bytes) (draws : Draws) :
    TotpCall Priv Pub Pem Unit := do
  setSecret newSecret
  let actualSecret ← requireSecret
  onKeyStore (persistTotpSecret P actualSecret password draws)

/-- `regenerate_totp`. -/
def regenerateTotp (newSecret : Bytes) (draws : Draws) : TotpCall Priv Pub Pem Unit := do
  setSecret newSecret
  let actualSecret ← requireSecret
  onKeyStore (persistTotpSecret P actualSecret none draws)

/-- `init_totp`. Of 32 random bytes `generate_new_totp` does not raise. -/
def initTotp (password : Option Bytes) (tests : SelfTests) (newSecret : Bytes) (draws : Draws) :
    TotpCall Priv Pub Pem Unit := do
  if ← orElseLog (loadTotpSecret P L password tests) then return ()
  else generateNewTotp P newSecret password draws

/-- `show_totp_setup`, up to the URI that the dialog shows. -/
def showTotpSetup (newSecret : Bytes) (draws : Draws) : TotpCall Priv Pub Pem Unit := do
  let controller ← Call.read
  if controller.totpService.secret.isSome then return ()
  else generateNewTotp P newSecret none draws

/-- `AuthController.change_password`, once the old password is verified. -/
def changePassword (oldPassword newPassword : Bytes) (draws persistDraws : Draws) :
    TotpCall Priv Pub Pem Bool := do
  if newPassword.isEmpty || oldPassword = newPassword then return false
  else do
    let success ← onKeyStore (KeyStore.changePassword P oldPassword newPassword draws)
    if !success then return false
    else do
      let controller ← Call.read
      match controller.totpService.secret with
      | none => return true
      | some actualSecret => do
          onKeyStore (persistTotpSecret P actualSecret (some newPassword) persistDraws)
          return true

variable {P L} {controller : Controller Priv Pub Pem}

theorem onKeyStore_run_ok {α : Type} {call : StoreCall Priv Pub Pem α} {value : α}
    {after : Session Priv Pub Pem} (ran : call.run controller.session = (.ok value, after)) :
    (onKeyStore call).run controller = (.ok value, { controller with session := after }) := by
  show onKeyStore call controller = _
  unfold onKeyStore
  rw [ran]

theorem onKeyStore_run_error {α : Type} {call : StoreCall Priv Pub Pem α} {raised : KeyStore.Raised}
    {after : Session Priv Pub Pem} (ran : call.run controller.session = (.error raised, after)) :
    (onKeyStore call).run controller =
      (.error (.passed raised), { controller with session := after }) := by
  show onKeyStore call controller = _
  unfold onKeyStore
  rw [ran]

theorem ok_of_onKeyStore_lift {α : Type} {computed : Except KeyStore.Raised α} {value : α}
    {after : Controller Priv Pub Pem}
    (ran : (onKeyStore (Call.lift computed)).run controller = (.ok value, after)) :
    computed = .ok value ∧ after = controller := by
  cases computed with
  | error raised => cases ran
  | ok found =>
      cases ran
      exact ⟨rfl, rfl⟩

theorem eq_some_of_nonemptyBytes {bytes : Option Bytes} {value : Bytes}
    (filled : nonemptyBytes bytes = some value) : bytes = some value := by
  cases bytes with
  | none => cases filled
  | some found =>
      have filled : (if found.isEmpty then none else some found) = some value := filled
      split at filled
      · cases filled
      · exact filled

/-- The key store never touches the service. -/
theorem onKeyStore_after {α : Type} (call : StoreCall Priv Pub Pem α)
    (controller : Controller Priv Pub Pem) :
    ((onKeyStore call).run controller).2 =
      { controller with session := (call.run controller.session).2 } := by
  cases ran : call.run controller.session with
  | mk result after =>
      cases result with
      | ok value => rw [onKeyStore_run_ok ran]
      | error raised => rw [onKeyStore_run_error ran]

theorem orElseLog_run_ok {call : TotpCall Priv Pub Pem Bool} {value : Bool}
    {after : Controller Priv Pub Pem} (ran : call.run controller = (.ok value, after)) :
    (orElseLog call).run controller = (.ok value, after) := by
  show orElseLog call controller = _
  unfold orElseLog
  rw [ran]

theorem orElseLog_run_error {call : TotpCall Priv Pub Pem Bool} {raised : TotpRaised}
    {after : Controller Priv Pub Pem} (ran : call.run controller = (.error raised, after)) :
    (orElseLog call).run controller = (.ok false, after) := by
  show orElseLog call controller = _
  unfold orElseLog
  rw [ran]

theorem installSecret_run {plain : Bytes} (long : 20 ≤ plain.length) :
    (installSecret plain).run controller =
      (.ok (), { controller with totpService := { controller.totpService with
        secret := some (plain.take 20), lastCounter := -1 } }) := by
  unfold installSecret
  by_cases whole : plain.length = 20
  · have fits : ¬ plain.length ≠ 20 := not_not.mpr whole
    rw [if_pos whole, setRawSecret, if_neg fits, List.take_of_length_le (by omega)]
    rfl
  · rw [if_neg whole, setSecret, if_neg (by omega)]
    rfl

theorem long_of_installSecret {plain : Bytes} {after : Controller Priv Pub Pem}
    (installed : (installSecret plain).run controller = (.ok (), after)) : 20 ≤ plain.length := by
  by_contra short
  rw [installSecret, if_neg (by omega), setSecret, if_pos (by omega)] at installed
  cases installed

/-- `generate_new_totp` sets the secret before it stores it. -/
theorem generateNewTotp_run_eq {newSecret : Bytes} (drawn : newSecret.length = 32)
    (password : Option Bytes) (draws : Draws) :
    (generateNewTotp P newSecret password draws).run controller =
      (onKeyStore (persistTotpSecret P (newSecret.take 20) password draws)).run
        { controller with totpService := { controller.totpService with
          secret := some (newSecret.take 20), lastCounter := -1 } } := by
  rw [generateNewTotp, setSecret, if_neg (by omega)]
  rfl

/-- What was stored is loaded by the key that opens it. -/
theorem loadWith_run (lawful : L.Lawful) {enc : EncValue} {key plain : Bytes} {test : SelfTest}
    (opened : decryptSecret P enc key = .ok plain) (long : 20 ≤ plain.length)
    (steady : test.Steady) :
    (loadWith P L enc key test).run controller =
      (.ok true, { controller with
        totpService := loadedService (plain.take 20) controller.session.db }) := by
  let installed : Controller Priv Pub Pem := { controller with
    totpService := { controller.totpService with secret := some (plain.take 20), lastCounter := -1 } }
  obtain ⟨testCode, generated, verified⟩ : ∃ testCode,
      (generate L test.generated).run installed = (.ok testCode, installed) ∧
        (verify L testCode test.verified false).run installed = (.ok true, installed) :=
    selfTest_run lawful steady rfl
  have decrypted : (onKeyStore (Call.lift (decryptSecret P enc key))).run controller =
      (.ok plain, controller) := by
    rw [opened]
    rfl
  have installs : (installSecret plain).run controller = (.ok (), installed) :=
    installSecret_run long
  rw [loadWith, Call.run_bind_of_ok decrypted, Call.run_bind_of_ok installs,
    Call.run_bind_of_ok generated, Call.run_bind_of_ok verified]
  rfl

theorem loadDerived_run {globalSecret : Bytes} (long : 20 ≤ globalSecret.length) :
    (loadDerived globalSecret).run controller =
      (.ok true, { controller with
        totpService := loadedService (globalSecret.take 20) controller.session.db }) := by
  rw [loadDerived, setSecret, if_neg (by omega)]
  rfl

/-- A key that does not open what is stored changes nothing. -/
theorem orElseLog_loadWith_refused {enc : EncValue} {key : Bytes} {test : SelfTest}
    {raised : KeyStore.Raised} (refused : decryptSecret P enc key = .error raised) :
    (orElseLog (loadWith P L enc key test)).run controller = (.ok false, controller) := by
  have failed : (onKeyStore (Call.lift (decryptSecret P enc key))).run controller =
      (.error (.passed raised), controller) := by
    rw [refused]
    rfl
  have run : (loadWith P L enc key test).run controller = (.error (.passed raised), controller) := by
    rw [loadWith, Call.run_bind_of_error failed]
  exact orElseLog_run_error run

section Frames

variable {τ : Type} {view : Controller Priv Pub Pem → τ}

theorem keeps_requireSecret : (requireSecret : TotpCall Priv Pub Pem Bytes).Keeps view :=
  Call.keeps_bind Call.keeps_read fun _ => Call.keeps_require _ _

theorem keeps_generate (timestamp : Rat) :
    (generate L timestamp : TotpCall Priv Pub Pem String).Keeps view :=
  Call.keeps_bind keeps_requireSecret fun _ =>
    Call.keeps_bind (Call.keeps_lift _) fun _ => Call.keeps_pure _

theorem keeps_verifyAmong (secret : Bytes) (code : String) (counters : List Int) :
    (verifyAmong L secret code false counters : TotpCall Priv Pub Pem Bool).Keeps view := by
  induction counters with
  | nil => exact Call.keeps_pure false
  | cons candidate rest ih =>
      refine Call.keeps_bind (Call.keeps_lift _) fun expected => ?_
      refine Call.keeps_bind (Call.keeps_lift _) fun same => ?_
      cases same with
      | true => exact Call.keeps_pure true
      | false => exact ih

/-- A verification that tracks no replay changes nothing. -/
theorem keeps_verify (code : String) (timestamp : Rat) :
    (verify L code timestamp false : TotpCall Priv Pub Pem Bool).Keeps view :=
  Call.keeps_bind keeps_requireSecret fun _ =>
    Call.keeps_ite (Call.keeps_pure false) (keeps_verifyAmong _ _ _)

theorem eq_of_keeps {α : Type} {call : TotpCall Priv Pub Pem α} (keeps : call.Keeps id)
    {result : Except TotpRaised α} {after : Controller Priv Pub Pem}
    (ran : call.run controller = (result, after)) : after = controller := by
  have kept := keeps controller
  rw [ran] at kept
  exact kept

theorem orElseLog_keeps {call : TotpCall Priv Pub Pem Bool} (keeps : call.Keeps view) :
    (orElseLog call).Keeps view := by
  intro controller
  rw [← keeps controller]
  cases ran : call.run controller with
  | mk result after =>
      cases result with
      | ok value => rw [orElseLog_run_ok ran]
      | error raised => rw [orElseLog_run_error ran]

theorem firstOf_keeps {strategies : List (TotpCall Priv Pub Pem Bool)}
    (keep : ∀ strategy ∈ strategies, strategy.Keeps view) : (firstOf strategies).Keeps view := by
  induction strategies with
  | nil => exact Call.keeps_pure false
  | cons strategy rest ih =>
      refine Call.keeps_bind (orElseLog_keeps (keep strategy List.mem_cons_self)) fun done => ?_
      cases done with
      | true => exact Call.keeps_pure true
      | false => exact ih fun other member => keep other (List.mem_cons_of_mem _ member)

theorem firstOf_cons_true {strategy : TotpCall Priv Pub Pem Bool}
    {rest : List (TotpCall Priv Pub Pem Bool)} {after : Controller Priv Pub Pem}
    (ran : strategy.run controller = (.ok true, after)) :
    (firstOf (strategy :: rest)).run controller = (.ok true, after) := by
  rw [firstOf, Call.run_bind_of_ok (orElseLog_run_ok ran)]
  rfl

theorem firstOf_cons_false {strategy : TotpCall Priv Pub Pem Bool}
    {rest : List (TotpCall Priv Pub Pem Bool)} {middle : Controller Priv Pub Pem}
    (ran : (orElseLog strategy).run controller = (.ok false, middle)) :
    (firstOf (strategy :: rest)).run controller = (firstOf rest).run middle := by
  rw [firstOf, Call.run_bind_of_ok ran]
  rfl

/-- What returned `True` is one of the strategies. -/
theorem firstOf_ok {strategies : List (TotpCall Priv Pub Pem Bool)} {after : Controller Priv Pub Pem}
    (keep : ∀ strategy ∈ strategies, strategy.Keeps Controller.session)
    (ran : (firstOf strategies).run controller = (.ok true, after)) :
    ∃ strategy ∈ strategies, ∃ middle : Controller Priv Pub Pem,
      middle.session = controller.session ∧ strategy.run middle = (.ok true, after) := by
  induction strategies generalizing controller with
  | nil => cases ran
  | cons strategy rest ih =>
      have kept := keep strategy List.mem_cons_self controller
      cases first : strategy.run controller with
      | mk result middle =>
          rw [first] at kept
          have go (next : (orElseLog strategy).run controller = (.ok false, middle)) :
              ∃ other ∈ strategy :: rest, ∃ middle : Controller Priv Pub Pem,
                middle.session = controller.session ∧ other.run middle = (.ok true, after) := by
            rw [firstOf_cons_false next] at ran
            obtain ⟨other, member, later, same, ran⟩ :=
              ih (fun other member => keep other (List.mem_cons_of_mem _ member)) ran
            exact ⟨other, List.mem_cons_of_mem _ member, later, same.trans kept, ran⟩
          cases result with
          | error raised => exact go (orElseLog_run_error first)
          | ok success =>
              cases success with
              | false => exact go (orElseLog_run_ok first)
              | true =>
                  rw [firstOf_cons_true first] at ran
                  cases ran
                  exact ⟨strategy, List.mem_cons_self, controller, rfl, first⟩

theorem onService_keeps_session (change : TOTPService → TOTPService) :
    (onService change : TotpCall Priv Pub Pem Unit).Keeps Controller.session :=
  Call.keeps_modify fun _ => rfl

theorem setSecret_keeps_session (secret : Bytes) :
    (setSecret secret : TotpCall Priv Pub Pem Unit).Keeps Controller.session :=
  Call.keeps_ite (Call.keeps_raise _) (onService_keeps_session _)

theorem installSecret_keeps_session (totpSecret : Bytes) :
    (installSecret totpSecret : TotpCall Priv Pub Pem Unit).Keeps Controller.session :=
  Call.keeps_ite (Call.keeps_ite (Call.keeps_raise _) (onService_keeps_session _))
    (setSecret_keeps_session totpSecret)

theorem wireReplayCounter_keeps_session :
    (wireReplayCounter : TotpCall Priv Pub Pem Unit).Keeps Controller.session :=
  Call.keeps_modify fun _ => rfl

theorem onKeyStore_lift_keeps {α : Type} (computed : Except KeyStore.Raised α) :
    (onKeyStore (Call.lift computed) : TotpCall Priv Pub Pem α).Keeps view := by
  intro controller
  cases computed <;> rfl

theorem loadWith_keeps_session (enc : EncValue) (key : Bytes) (test : SelfTest) :
    (loadWith P L enc key test : TotpCall Priv Pub Pem Bool).Keeps Controller.session := by
  refine Call.keeps_bind (onKeyStore_lift_keeps _) fun plain => ?_
  refine Call.keeps_bind (installSecret_keeps_session plain) fun _ => ?_
  refine Call.keeps_bind (keeps_generate _) fun code => ?_
  refine Call.keeps_bind (keeps_verify _ _) fun same => ?_
  cases same with
  | true => exact Call.keeps_bind wireReplayCounter_keeps_session fun _ => Call.keeps_pure true
  | false => exact Call.keeps_pure false

theorem loadDerived_keeps_session (globalSecret : Bytes) :
    (loadDerived globalSecret : TotpCall Priv Pub Pem Bool).Keeps Controller.session :=
  Call.keeps_bind (setSecret_keeps_session globalSecret) fun _ =>
    Call.keeps_bind wireReplayCounter_keeps_session fun _ => Call.keeps_pure true

/-- What holds of the strategy for each key holds of all that are tried. -/
theorem forall_mem_strategies {α : Type} {make : α → TotpCall Priv Pub Pem Bool} {given : Option α}
    {property : TotpCall Priv Pub Pem Bool → Prop} (each : ∀ key, given = some key → property (make key)) :
    ∀ strategy ∈ (given.map make).toList, property strategy := by
  intro strategy member
  obtain ⟨key, given, rfl⟩ := Option.map_eq_some_iff.mp (Option.mem_toList.mp member)
  exact each key given

/-- Loading the secret leaves the key store and the database alone. -/
theorem loadTotpSecret_keeps_session (password : Option Bytes) (tests : SelfTests) :
    (loadTotpSecret P L password tests : TotpCall Priv Pub Pem Bool).Keeps Controller.session := by
  refine Call.keeps_bind Call.keeps_read fun controller => ?_
  dsimp only
  split
  · refine Call.keeps_bind (onKeyStore_lift_keeps _) fun enc =>
      firstOf_keeps (List.forall_mem_append.mpr ⟨?_, ?_⟩)
    · exact forall_mem_strategies fun _ _ => loadWith_keeps_session _ _ _
    · exact forall_mem_strategies fun _ _ => loadWith_keeps_session _ _ _
  · exact firstOf_keeps (forall_mem_strategies fun secret _ => loadDerived_keeps_session secret)

end Frames

/-- What a strategy has loaded when it returns `True`. -/
theorem loadWith_ok {enc : EncValue} {key : Bytes} {test : SelfTest}
    {after : Controller Priv Pub Pem}
    (loaded : (loadWith P L enc key test).run controller = (.ok true, after)) :
    ∃ plain, decryptSecret P enc key = .ok plain ∧ 20 ≤ plain.length ∧
      after = { controller with
        totpService := loadedService (plain.take 20) controller.session.db } := by
  obtain ⟨plain, middle, decrypted, loaded⟩ := Call.ok_of_run_bind loaded
  obtain ⟨opened, same⟩ := ok_of_onKeyStore_lift decrypted
  rw [same] at loaded
  obtain ⟨_, installed, installs, loaded⟩ := Call.ok_of_run_bind loaded
  have long := long_of_installSecret installs
  rw [installSecret_run long] at installs
  cases installs
  obtain ⟨code, generated, made, loaded⟩ := Call.ok_of_run_bind loaded
  obtain ⟨success, verified, tested, loaded⟩ := Call.ok_of_run_bind loaded
  have unchanged := (eq_of_keeps (keeps_verify _ _) tested).trans
    (eq_of_keeps (keeps_generate _) made)
  cases success with
  | false => cases loaded
  | true =>
      rw [unchanged] at loaded
      cases loaded
      exact ⟨plain, opened, long, rfl⟩

theorem loadDerived_ok {globalSecret : Bytes} {after : Controller Priv Pub Pem}
    (loaded : (loadDerived globalSecret).run controller = (.ok true, after)) :
    20 ≤ globalSecret.length ∧ after = { controller with
      totpService := loadedService (globalSecret.take 20) controller.session.db } := by
  by_cases long : 20 ≤ globalSecret.length
  · rw [loadDerived_run long] at loaded
    cases loaded
    exact ⟨long, rfl⟩
  · rw [loadDerived, setSecret, if_pos (by omega)] at loaded
    cases loaded

/-- What `load_totp_secret` has done when it returns `True`: a key that it has opened the stored
secret, or nothing is stored and it derived the secret. -/
theorem loadTotpSecret_cases {password : Option Bytes} {tests : SelfTests}
    {after : Controller Priv Pub Pem}
    (ran : (loadTotpSecret P L password tests).run controller = (.ok true, after)) :
    (∃ row enc key test, ∃ middle : Controller Priv Pub Pem,
      controller.session.db.secrets .totpSecretEncrypted = some row ∧ jsonLoads row = .ok enc ∧
      (password = some key ∨ ∃ secret, controller.session.store.globalSecret = some secret ∧
        key = hex secret) ∧
      middle.session = controller.session ∧
      (loadWith P L enc key test).run middle = (.ok true, after)) ∨
    ∃ secret, ∃ middle : Controller Priv Pub Pem,
      controller.session.db.secrets .totpSecretEncrypted = none ∧
      controller.session.store.globalSecret = some secret ∧
      middle.session = controller.session ∧
      (loadDerived secret).run middle = (.ok true, after) := by
  rw [loadTotpSecret, Call.run_read_bind] at ran
  dsimp only at ran
  split at ran
  · rename_i row stored
    left
    obtain ⟨enc, unchanged, parsed, ran⟩ := Call.ok_of_run_bind ran
    obtain ⟨opened, same⟩ := ok_of_onKeyStore_lift parsed
    rw [same] at ran
    have keep (given : Option Bytes) (keyOf : Bytes → Bytes) (test : SelfTest) :
        ∀ strategy ∈ (given.map fun key => loadWith P L enc (keyOf key) test).toList,
          strategy.Keeps Controller.session :=
      forall_mem_strategies fun key _ => loadWith_keeps_session enc (keyOf key) test
    obtain ⟨strategy, member, middle, kept, loaded⟩ := firstOf_ok
      (List.forall_mem_append.mpr ⟨keep _ id _, keep _ hex _⟩) ran
    rcases List.mem_append.mp member with first | second
    · obtain ⟨key, given, rfl⟩ := Option.map_eq_some_iff.mp (Option.mem_toList.mp first)
      exact ⟨row, enc, key, tests.password, middle, stored, opened,
        .inl (eq_some_of_nonemptyBytes given), kept, loaded⟩
    · obtain ⟨secret, given, rfl⟩ := Option.map_eq_some_iff.mp (Option.mem_toList.mp second)
      exact ⟨row, enc, hex secret, tests.globalSecret, middle, stored, opened,
        .inr ⟨secret, eq_some_of_nonemptyBytes given, rfl⟩, kept, loaded⟩
  · rename_i absent
    right
    obtain ⟨strategy, member, middle, kept, loaded⟩ :=
      firstOf_ok (forall_mem_strategies fun secret _ => loadDerived_keeps_session secret) ran
    obtain ⟨secret, given, rfl⟩ := Option.map_eq_some_iff.mp (Option.mem_toList.mp member)
    exact ⟨secret, middle, absent, eq_some_of_nonemptyBytes given, kept, loaded⟩

/-- What `init_totp` has done: it loaded what was stored, or stored a new secret. -/
theorem initTotp_run (controller : Controller Priv Pub Pem) (password : Option Bytes)
    (tests : SelfTests) (newSecret : Bytes) (draws : Draws) :
    (∃ after, (loadTotpSecret P L password tests).run controller = (.ok true, after) ∧
        (initTotp P L password tests newSecret draws).run controller = (.ok (), after)) ∨
      ∃ middle : Controller Priv Pub Pem, middle.session = controller.session ∧
        (initTotp P L password tests newSecret draws).run controller =
          (generateNewTotp P newSecret password draws).run middle := by
  have kept := loadTotpSecret_keeps_session (P := P) (L := L) password tests controller
  cases ran : (loadTotpSecret P L password tests).run controller with
  | mk result after =>
      rw [ran] at kept
      cases result with
      | error raised =>
          refine .inr ⟨after, kept, ?_⟩
          rw [initTotp, Call.run_bind_of_ok (orElseLog_run_error ran)]
          rfl
      | ok success =>
          cases success with
          | true =>
              refine .inl ⟨after, rfl, ?_⟩
              rw [initTotp, Call.run_bind_of_ok (orElseLog_run_ok ran)]
              rfl
          | false =>
              refine .inr ⟨after, kept, ?_⟩
              rw [initTotp, Call.run_bind_of_ok (orElseLog_run_ok ran)]
              rfl

end Persistence

end UltimateEnigma.Totp
