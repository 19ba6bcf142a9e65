import UltimateEnigma.RecoveryReset
import UltimateEnigma.Shamir
import UltimateEnigma.Py.Json
import UltimateEnigma.Py.Text

set_option autoImplicit false

namespace UltimateEnigma.RecoveryUnlock

open Py KeyStore

/-- What the dialog catches. -/
inductive Failure where
  | unreadable
  | attributeError
  | typeError
  | decode (error : Base64.DecodeError)
  | shamir (raised : Shamir.Raised)
deriving DecidableEq, Repr

/-- What the toolkit reads and what the dialog shows of values and exceptions. -/
structure Toolkit where
  /-- `IntVar.get()` of a variable with this value; `none` is a `TclError` -/
  intVar : Json → Option Int
  str : Json → String
  strError : KeyStore.Raised → String
  friendlyError : Failure → String

/-- A row of the tab: the number and the entry. -/
structure ShareEntry where
  idxVar : Json
  entry : String

/-- A press of the last button that was confirmed, with the key it was pressed for. -/
structure Recovery where
  newPw : String
  keyBytes : Bytes
  keyShares : List (Int × Bytes)
deriving DecidableEq, Repr

/-- The dialog, the work it has under way, and what its controller holds. The shares behind the key
and the passwords that `on_recovered` was called with are kept for the statements below only. -/
structure Dialog (Priv Pub Pem : Type) where
  shareEntries : List ShareEntry
  reconstructing : Option (List (Int × Bytes)) := none
  resultDisplay : String := ""
  resultVar : String := ""
  keyBytes : Option Bytes := none
  keyShares : List (Int × Bytes) := []
  newPwVar : String := ""
  confirmPwVar : String := ""
  applying : Option Recovery := none
  destroyed : Bool := false
  shown : List (String × String) := []
  recovered : List Recovery := []
  keyStore : Option (KeyStore Priv Pub) := none
  db : Database Pem

inductive Event (Priv : Type) where
  | addShare
  | removeLast
  | setIndex (row : Nat) (value : Json)
  | typeShare (row : Nat) (text : String)
  | importShareFile (payload : Option Json)
  | reconstruct
  | reconstructed
  | typeNewPassword (text : String)
  | typeConfirmation (text : String)
  | applyRecovery (confirm : Bool)
  | recoveryWork (draws : ResetDraws Priv)
  | cancel

section Dialogs

variable {Priv Pub Pem : Type} (P : Primitives Priv Pub Pem) (platform : Platform)
variable (toolkit : Toolkit)

def Dialog.show (dialog : Dialog Priv Pub Pem) (title message : String) : Dialog Priv Pub Pem :=
  { dialog with shown := dialog.shown ++ [(title, message)] }

def addShareEntry (dialog : Dialog Priv Pub Pem) (idxVal : Json) (b64Val : String) :
    Dialog Priv Pub Pem :=
  let number := match idxVal with
    | .null => .int (dialog.shareEntries.length + 1)
    | value => value
  { dialog with shareEntries := dialog.shareEntries ++ [⟨number, b64Val⟩] }

/-- The dialog as it opens. -/
def opened (db : Database Pem) : Dialog Priv Pub Pem :=
  addShareEntry (addShareEntry (addShareEntry { shareEntries := [], db } .null "") .null "")
    .null ""

/-- `base64.b64decode` of a value out of the file. -/
def decodeShare : Json → Except Failure Bytes
  | .str text =>
      match b64decode text with
      | .ok bytes => .ok bytes
      | .error error => .error (.decode error)
  | _ => .error .typeError

/-- `KeyStore` has no `decrypt_share`, so the bytes of the file are taken as they are. -/
def importShareFile (dialog : Dialog Priv Pub Pem) : Option Json → Dialog Priv Pub Pem
  | some (.dict payload) =>
      let encB64 := (payload.lookup "encrypted_share_b64").getD (.str "")
      let shareIndex := (payload.lookup "share_index").getD
        (.int (dialog.shareEntries.length + 1))
      if !encB64.truthy then
        dialog.show "Invalid file" "No encrypted shares were found in the file."
      else
        match decodeShare encB64 with
        | .ok plainBytes =>
            (addShareEntry dialog shareIndex (b64encode plainBytes)).show "Share Imported"
              ("Added share #" ++ toolkit.str shareIndex ++ ".\nOwner: " ++
                toolkit.str ((payload.lookup "owner_name").getD (.str "unknown")))
        | .error failure =>
            dialog.show "Import failed"
              ("Failed to import share file.\n\n" ++ toolkit.friendlyError failure)
  | some _ =>
      dialog.show "Import failed"
        ("Failed to import share file.\n\n" ++ toolkit.friendlyError .attributeError)
  | none =>
      dialog.show "Import failed"
        ("Failed to import share file.\n\n" ++ toolkit.friendlyError .unreadable)

/-- The rows that are not blank; a number that does not read ends the press. -/
def rawShares : List ShareEntry → Option (List (Int × String))
  | [] => some []
  | row :: rest =>
      let val := strip row.entry
      if val = "" then rawShares rest
      else do
        let number ← toolkit.intVar row.idxVar
        let others ← rawShares rest
        return (number, val) :: others

def parseShares : List (Int × String) → Except Failure (List (Int × Bytes))
  | [] => .ok []
  | (number, b64Str) :: rest => do
      let bytes ← decodeShare (.str b64Str)
      let others ← parseShares rest
      return (number, bytes) :: others

/-- `len(parsed[0][1])`. -/
def expectedLen : List (Int × Bytes) → Nat
  | [] => 0
  | first :: _ => first.2.length

def doReconstruct (dialog : Dialog Priv Pub Pem) : Dialog Priv Pub Pem :=
  match rawShares toolkit dialog.shareEntries with
  | none => dialog
  | some raw =>
      if raw.length < 2 then dialog.show "Insufficient Shares" "Enter at least 2 shares."
      else
        match parseShares raw with
        | .error failure => dialog.show "Invalid Shares" (toolkit.friendlyError failure)
        | .ok parsed =>
            if (parsed.map fun share => share.2.length).dedup.length ≠ 1 then
              dialog.show "Invalid Shares" "All shares must be the same length."
            else { dialog with reconstructing := some parsed }

/-- The first eight characters and a dot for each of the others. -/
def masked (keyBytes : Bytes) : String :=
  let fullB64 := (b64encode keyBytes).toList
  String.ofList (fullB64.take 8 ++ List.replicate (fullB64.length - 8) '●')

/-- What the work of `do_reconstruct` comes back with. -/
def reconstructed (dialog : Dialog Priv Pub Pem) : Dialog Priv Pub Pem :=
  match dialog.reconstructing with
  | none => dialog
  | some parsed =>
      let rest := { dialog with reconstructing := none }
      if dialog.destroyed then rest
      else
        match Shamir.reconstructSecret parsed (expectedLen parsed) with
        | .ok keyBytes =>
            { rest with
              resultDisplay := masked keyBytes
              resultVar := "✅ Key reconstructed successfully"
              keyBytes := some keyBytes
              keyShares := parsed }
        | .error raised =>
            rest.show "Reconstruction Failed" (toolkit.friendlyError (.shamir raised))

def applyRecovery (dialog : Dialog Priv Pub Pem) (confirm : Bool) : Dialog Priv Pub Pem :=
  match dialog.keyBytes with
  | none => dialog.show "No key" "First, reconstruct the recovery key."
  | some keyBytes =>
      let newPw := dialog.newPwVar
      if newPw = "" then dialog.show "Password is empty" "Enter a new master password."
      else if newPw ≠ dialog.confirmPwVar then
        dialog.show "Passwords Don't Match" "Passwords do not match."
      else if newPw.length < 8 then
        dialog.show "Weak password" "Password must be at least 8 characters long."
      else if !confirm then dialog
      else { dialog with applying := some ⟨newPw, keyBytes, dialog.keyShares⟩ }

/-- The controller's `on_recovered`: a fresh key store is reset, with no key to show. What the reset
does to the connections is in `Process.resetWithRecoveryKey`. -/
def onRecovered (dialog : Dialog Priv Pub Pem) (newPassword : String)
    (draws : ResetDraws Priv) : Dialog Priv Pub Pem :=
  match (resetKeys P platform (encodeUtf8 newPassword) draws).run
      ⟨{}, dialog.db⟩ with
  | (.ok _, session) => { dialog with keyStore := some session.store, db := session.db }
  | (.error raised, session) =>
      { dialog with db := session.db }.show "Recovery Failed"
        ("Failed to complete recovery:\n" ++ toolkit.strError raised)

/-- The work of `apply_recovery`, after which the dialog closes. -/
def recoveryWork (dialog : Dialog Priv Pub Pem) (draws : ResetDraws Priv) :
    Dialog Priv Pub Pem :=
  match dialog.applying with
  | none => dialog
  | some recovery =>
      let after := onRecovered P platform toolkit dialog recovery.newPw draws
      { after with
        applying := none
        destroyed := true
        recovered := dialog.recovered ++ [recovery] }

def setRow (dialog : Dialog Priv Pub Pem) (row : Nat) (change : ShareEntry → ShareEntry) :
    Dialog Priv Pub Pem :=
  { dialog with shareEntries := dialog.shareEntries.modify row change }

def perform (dialog : Dialog Priv Pub Pem) : Event Priv → Dialog Priv Pub Pem
  | .addShare => addShareEntry dialog .null ""
  | .removeLast => { dialog with shareEntries := dialog.shareEntries.dropLast }
  | .setIndex row value => setRow dialog row fun share => { share with idxVar := value }
  | .typeShare row text => setRow dialog row fun share => { share with entry := text }
  | .importShareFile payload => importShareFile toolkit dialog payload
  | .reconstruct => doReconstruct toolkit dialog
  | .reconstructed => reconstructed toolkit dialog
  | .typeNewPassword text => { dialog with newPwVar := text }
  | .typeConfirmation text => { dialog with confirmPwVar := text }
  | .applyRecovery confirm => applyRecovery dialog confirm
  | .recoveryWork draws => recoveryWork P platform toolkit dialog draws
  | .cancel => { dialog with destroyed := true }

/-- A button is disabled while its work is under way, and a closed dialog takes no input; work that
is under way goes on. -/
def enabled (dialog : Dialog Priv Pub Pem) : Event Priv → Prop
  | .reconstruct => dialog.destroyed = false ∧ dialog.reconstructing = none
  | .applyRecovery _ => dialog.destroyed = false ∧ dialog.applying = none
  | .reconstructed => dialog.reconstructing ≠ none
  | .recoveryWork _ => dialog.applying ≠ none
  | _ => dialog.destroyed = false

instance (dialog : Dialog Priv Pub Pem) : ∀ event, Decidable (enabled dialog event)
  | .reconstruct => inferInstanceAs (Decidable (_ ∧ _))
  | .applyRecovery _ => inferInstanceAs (Decidable (_ ∧ _))
  | .reconstructed => inferInstanceAs (Decidable (_ ≠ _))
  | .recoveryWork _ => inferInstanceAs (Decidable (_ ≠ _))
  | .addShare => inferInstanceAs (Decidable (_ = _))
  | .removeLast => inferInstanceAs (Decidable (_ = _))
  | .setIndex _ _ => inferInstanceAs (Decidable (_ = _))
  | .typeShare _ _ => inferInstanceAs (Decidable (_ = _))
  | .importShareFile _ => inferInstanceAs (Decidable (_ = _))
  | .typeNewPassword _ => inferInstanceAs (Decidable (_ = _))
  | .typeConfirmation _ => inferInstanceAs (Decidable (_ = _))
  | .cancel => inferInstanceAs (Decidable (_ = _))

def dialogMachine (db : Database Pem) : Machine (Dialog Priv Pub Pem) (Event Priv) where
  start dialog := dialog = opened db
  enabled := enabled
  apply := perform P platform toolkit

instance (db : Database Pem) (dialog : Dialog Priv Pub Pem) (event : Event Priv) :
    Decidable ((dialogMachine P platform toolkit db).enabled dialog event) :=
  inferInstanceAs (Decidable (enabled dialog event))

end Dialogs

section Genuine

variable {Priv Pub Pem : Type} {P : Primitives Priv Pub Pem} {platform : Platform}
variable {toolkit : Toolkit} {db : Database Pem} {dialog : Dialog Priv Pub Pem}
variable {secret : Bytes} {split : List (Int × Bytes)} {threshold : Nat}

/-- A reset for the key that was split, from as many of its shares as the threshold. -/
structure FromShares (secret : Bytes) (split : List (Int × Bytes)) (threshold : Nat)
    (recovery : Recovery) : Prop where
  key : recovery.keyBytes = secret
  enough : threshold ≤ (recovery.keyShares.filter (· ∈ split)).dedup.length

/-- Every call of `on_recovered` was for the key, and nothing else changed the database. -/
structure Guarded (secret : Bytes) (split : List (Int × Bytes)) (threshold : Nat)
    (db : Database Pem) (dialog : Dialog Priv Pub Pem) : Prop where
  recovered : ∀ recovery ∈ dialog.recovered, FromShares secret split threshold recovery
  untouched : dialog.recovered = [] → dialog.db = db

/-- The checks of `apply_recovery` stop it. -/
def Refused (dialog : Dialog Priv Pub Pem) (confirm : Bool) : Prop :=
  dialog.keyBytes = none ∨ dialog.newPwVar = "" ∨ dialog.newPwVar ≠ dialog.confirmPwVar ∨
    dialog.newPwVar.length < 8 ∨ confirm = false

/-- A press that goes through is for a key from distinct shares of the split, enough of them and no
others. -/
def Supplied (split : List (Int × Bytes)) (threshold : Nat) (dialog : Dialog Priv Pub Pem) :
    Event Priv → Prop
  | .applyRecovery confirm =>
      Refused dialog confirm ∨
        (dialog.keyShares.Nodup ∧ (∀ share ∈ dialog.keyShares, share ∈ split) ∧
          threshold ≤ dialog.keyShares.length)
  | _ => True

/-- What a step that has no part in the reset leaves alone. -/
structure Held (before after : Dialog Priv Pub Pem) : Prop where
  keyBytes : after.keyBytes = before.keyBytes
  keyShares : after.keyShares = before.keyShares
  applying : after.applying = before.applying
  recovered : after.recovered = before.recovered
  db : after.db = before.db

theorem Held.refl (dialog : Dialog Priv Pub Pem) : Held dialog dialog :=
  ⟨rfl, rfl, rfl, rfl, rfl⟩

theorem held_show (title message : String) : Held dialog (dialog.show title message) :=
  ⟨rfl, rfl, rfl, rfl, rfl⟩

theorem held_importShareFile (payload : Option Json) :
    Held dialog (importShareFile toolkit dialog payload) := by
  unfold importShareFile
  split
  · dsimp only
    split
    · exact held_show _ _
    · split
      · exact ⟨rfl, rfl, rfl, rfl, rfl⟩
      · exact held_show _ _
  · exact held_show _ _
  · exact held_show _ _

theorem held_doReconstruct : Held dialog (doReconstruct toolkit dialog) := by
  unfold doReconstruct
  split
  · exact .refl dialog
  · split
    · exact held_show _ _
    · split
      · exact held_show _ _
      · split
        · exact held_show _ _
        · exact ⟨rfl, rfl, rfl, rfl, rfl⟩

/-- The key is what the shares behind it reconstruct to, and every reset under way or past is
from shares of the split. -/
structure Behind (secret : Bytes) (split : List (Int × Bytes)) (threshold : Nat)
    (db : Database Pem) (dialog : Dialog Priv Pub Pem) : Prop extends
    Guarded secret split threshold db dialog where
  reconstructed : ∀ keyBytes, dialog.keyBytes = some keyBytes →
    Shamir.reconstructSecret dialog.keyShares (expectedLen dialog.keyShares) = .ok keyBytes
  applying : ∀ recovery, dialog.applying = some recovery →
    FromShares secret split threshold recovery

theorem Behind.of_held {after : Dialog Priv Pub Pem} (behind : Behind secret split threshold db dialog)
    (held : Held dialog after) : Behind secret split threshold db after := by
  obtain ⟨⟨recovered, untouched⟩, reconstructed, applying⟩ := behind
  refine ⟨⟨?_, ?_⟩, ?_, ?_⟩
  · rw [held.recovered]
    exact recovered
  · rw [held.recovered, held.db]
    exact untouched
  · rw [held.keyBytes, held.keyShares]
    exact reconstructed
  · rw [held.applying]
    exact applying

theorem behind_reconstructed (behind : Behind secret split threshold db dialog) :
    Behind secret split threshold db (reconstructed toolkit dialog) := by
  unfold reconstructed
  split
  · exact behind
  · rename_i parsed _
    dsimp only
    split
    · exact behind.of_held ⟨rfl, rfl, rfl, rfl, rfl⟩
    · split
      · rename_i keyBytes success
        refine ⟨⟨behind.recovered, behind.untouched⟩, fun bytes same => ?_, behind.applying⟩
        cases same
        exact success
      · exact behind.of_held ⟨rfl, rfl, rfl, rfl, rfl⟩

/-- Shares of the split all have the length of the secret. -/
theorem length_of_taken {numShares : Nat} {draws : Shamir.Draws secret.length threshold}
    {item : Int × Bytes}
    (taken : item ∈ (List.range numShares).map (Shamir.share secret draws)) :
    item.2.length = secret.length := by
  obtain ⟨i, -, rfl⟩ := List.mem_map.mp taken
  exact List.length_ofFn

/-- Distinct shares of the split, enough of them and no others, reconstruct to the secret. -/
theorem fromShares_of_supplied {numShares : Nat} {draws : Shamir.Draws secret.length threshold}
    (made : Shamir.splitSecret secret numShares threshold draws = .ok split)
    {recovery : Recovery} (distinct : recovery.keyShares.Nodup)
    (taken : ∀ share ∈ recovery.keyShares, share ∈ split)
    (enough : threshold ≤ recovery.keyShares.length)
    (reconstructed : Shamir.reconstructSecret recovery.keyShares (expectedLen recovery.keyShares) =
      .ok recovery.keyBytes) : FromShares secret split threshold recovery := by
  obtain ⟨nonempty, two, reachable, few⟩ := Shamir.accepts_of_ok made
  have all : recovery.keyShares.filter (· ∈ split) = recovery.keyShares := by
    refine List.filter_eq_self.mpr fun share member => ?_
    exact decide_eq_true (taken share member)
  have counted : threshold ≤ (recovery.keyShares.filter (· ∈ split)).dedup.length := by
    rw [all, distinct.dedup]
    exact enough
  rw [Shamir.splitSecret_ok nonempty two reachable few draws] at made
  cases made
  have length : expectedLen recovery.keyShares = secret.length := by
    match shares : recovery.keyShares with
    | [] =>
        rw [shares, List.length_nil] at enough
        omega
    | first :: rest =>
        refine length_of_taken (taken first ?_)
        rw [shares]
        exact List.mem_cons_self
  have genuine := Shamir.reconstruct_taken two few draws distinct taken enough
  rw [length, genuine] at reconstructed
  cases reconstructed
  exact ⟨rfl, counted⟩

theorem behind_applyRecovery {numShares : Nat} {draws : Shamir.Draws secret.length threshold}
    (made : Shamir.splitSecret secret numShares threshold draws = .ok split)
    (behind : Behind secret split threshold db dialog) {confirm : Bool}
    (supplied : Supplied split threshold dialog (.applyRecovery confirm)) :
    Behind secret split threshold db (applyRecovery dialog confirm) := by
  unfold applyRecovery
  split
  · exact behind.of_held (held_show _ _)
  · rename_i keyBytes known
    dsimp only
    split_ifs with empty differ weak declined
    · exact behind.of_held (held_show _ _)
    · exact behind.of_held (held_show _ _)
    · exact behind.of_held (held_show _ _)
    · exact behind
    · have through : ¬ Refused dialog confirm := by
        rintro (unknown | noPassword | unequal | short | no)
        · rw [known] at unknown
          cases unknown
        · exact empty noPassword
        · exact differ unequal
        · exact weak short
        · rw [no] at declined
          exact declined rfl
      obtain ⟨distinct, taken, enough⟩ := supplied.resolve_left through
      refine ⟨⟨behind.recovered, behind.untouched⟩, behind.reconstructed,
        fun recovery same => ?_⟩
      cases same
      exact fromShares_of_supplied made distinct taken enough (behind.reconstructed keyBytes known)

theorem behind_recoveryWork (behind : Behind secret split threshold db dialog)
    (draws : ResetDraws Priv) :
    Behind secret split threshold db (recoveryWork P platform toolkit dialog draws) := by
  unfold recoveryWork
  split
  · exact behind
  · rename_i recovery underWay
    have kept : ∀ (dialog : Dialog Priv Pub Pem) (password : String),
        (onRecovered P platform toolkit dialog password draws).keyBytes = dialog.keyBytes ∧
          (onRecovered P platform toolkit dialog password draws).keyShares = dialog.keyShares := by
      intro dialog password
      unfold onRecovered
      split <;> exact ⟨rfl, rfl⟩
    refine ⟨⟨fun other member => ?_, fun none => ?_⟩, ?_, nofun⟩
    · rcases List.mem_append.mp member with past | now
      · exact behind.recovered other past
      · rw [List.mem_singleton.mp now]
        exact behind.applying recovery underWay
    · exact absurd none (List.append_ne_nil_of_right_ne_nil _ (List.cons_ne_nil _ _))
    · dsimp only
      rw [(kept dialog recovery.newPw).1, (kept dialog recovery.newPw).2]
      exact behind.reconstructed

/-- One step keeps the invariant. -/
theorem behind_step {numShares : Nat} {draws : Shamir.Draws secret.length threshold}
    (made : Shamir.splitSecret secret numShares threshold draws = .ok split)
    (behind : Behind secret split threshold db dialog) {event : Event Priv}
    (supplied : Supplied split threshold dialog event) :
    Behind secret split threshold db (perform P platform toolkit dialog event) := by
  cases event with
  | importShareFile payload => exact behind.of_held (held_importShareFile payload)
  | reconstruct => exact behind.of_held held_doReconstruct
  | reconstructed => exact behind_reconstructed behind
  | applyRecovery confirm => exact behind_applyRecovery made behind supplied
  | recoveryWork draws => exact behind_recoveryWork behind draws
  | _ => exact behind.of_held ⟨rfl, rfl, rfl, rfl, rfl⟩

end Genuine

section Presses

variable {Priv Pub Pem : Type} {P : Primitives Priv Pub Pem} {platform : Platform}
variable {toolkit : Toolkit} {db : Database Pem} {dialog : Dialog Priv Pub Pem}
variable {allowed : Dialog Priv Pub Pem → Event Priv → Prop}

variable (toolkit) in
theorem reconstructed_of_ok {parsed : List (Int × Bytes)} {keyBytes : Bytes}
    (underWay : dialog.reconstructing = some parsed) (shown : dialog.destroyed = false)
    (success : Shamir.reconstructSecret parsed (expectedLen parsed) = .ok keyBytes) :
    reconstructed toolkit dialog =
      { dialog with
        reconstructing := none
        resultDisplay := masked keyBytes
        resultVar := "✅ Key reconstructed successfully"
        keyBytes := some keyBytes
        keyShares := parsed } := by
  rw [reconstructed, underWay]
  simp only [shown, Bool.false_eq_true, if_false, success]

/-- The dialog with a password typed twice. -/
def withPassword (dialog : Dialog Priv Pub Pem) (password : String) : Dialog Priv Pub Pem :=
  { dialog with newPwVar := password, confirmPwVar := password }

theorem applyRecovery_withPassword {keyBytes : Bytes} (known : dialog.keyBytes = some keyBytes)
    {password : String} (long : 8 ≤ password.length) :
    applyRecovery (withPassword dialog password) true =
      { withPassword dialog password with
        applying := some ⟨password, keyBytes, dialog.keyShares⟩ } := by
  have nonempty : password ≠ "" := by
    rintro rfl
    exact absurd long (by decide)
  have strong : ¬ password.length < 8 := by omega
  rw [applyRecovery]
  simp only [withPassword, known, nonempty, strong, ne_eq, not_true_eq_false, if_false,
    Bool.not_true, Bool.false_eq_true]

/-- No check stands between a key, whichever it is, and the reset. -/
theorem any_key_resets (reachable : (dialogMachine P platform toolkit db).Reachable allowed dialog)
    (ready : dialog.destroyed = false ∧ dialog.applying = none) {keyBytes : Bytes}
    (known : dialog.keyBytes = some keyBytes) {password : String} (long : 8 ≤ password.length)
    (draws : ResetDraws Priv)
    (others : ∀ dialog event, (∀ confirm, event ≠ .applyRecovery confirm) → allowed dialog event)
    (pressed : allowed (withPassword dialog password) (.applyRecovery true)) :
    ∃ after, (dialogMachine P platform toolkit db).Reachable allowed after ∧
      after.recovered = dialog.recovered ++ [⟨password, keyBytes, dialog.keyShares⟩] := by
  have typed := Machine.Reachable.step (Event.typeNewPassword password) reachable ready.1
    (others _ _ nofun)
  have confirmed := Machine.Reachable.step (Event.typeConfirmation password) typed ready.1
    (others _ _ nofun)
  have applied := Machine.Reachable.step (Event.applyRecovery true) confirmed ready pressed
  have step : (dialogMachine P platform toolkit db).apply (withPassword dialog password)
      (.applyRecovery true) = _ := applyRecovery_withPassword known long
  have underWay : (dialogMachine P platform toolkit db).enabled
      ((dialogMachine P platform toolkit db).apply (withPassword dialog password)
        (.applyRecovery true)) (.recoveryWork draws) := by
    rw [step]
    exact Option.some_ne_none _
  have worked := Machine.Reachable.step (Event.recoveryWork draws) applied underWay
    (others _ _ nofun)
  refine ⟨_, worked, ?_⟩
  show (recoveryWork P platform toolkit (applyRecovery (withPassword dialog password) true)
    draws).recovered = _
  rw [applyRecovery_withPassword known long]
  rfl

/-- Where every coefficient drawn is zero, each share is the secret. -/
theorem shareBytes_zero (bytes : Bytes) (i : Nat) :
    Shamir.shareBytes bytes (fun _ (_ : Fin (2 - 1)) => 0) i = bytes := by
  refine List.ext_getElem List.length_ofFn fun k _ _ => ?_
  have free : Shamir.Gf256.equivFin.symm (0 : Fin 256) = 0 := rfl
  simp only [Shamir.shareBytes, List.getElem_ofFn, Shamir.polynomial, free,
    Nat.add_one_sub_one, List.ofFn_succ, List.ofFn_zero, Interpolation.eval, mul_zero, add_zero]
  exact UInt8.ofNat_toNat

/-- Two rows of the same bytes reconstruct to these bytes. -/
theorem reconstruct_equal (bytes : Bytes) :
    Shamir.reconstructSecret [(1, bytes), (2, bytes)] bytes.length = .ok bytes := by
  have positions : ∀ i ∈ [0, 1], i + 1 < 256 := by decide
  have genuine := Shamir.reconstruct_positions (le_refl 2)
    (fun (_ : Fin bytes.length) (_ : Fin (2 - 1)) => 0) (by decide) positions (by decide)
  simp only [List.map_cons, List.map_nil, Shamir.share, shareBytes_zero] at genuine
  exact genuine

/-- The bytes of two rows, whichever they are, become the key, and the key resets the password. -/
theorem equal_rows_reset
    (reachable : (dialogMachine P platform toolkit db).Reachable allowed dialog)
    (ready : dialog.destroyed = false ∧ dialog.applying = none) {bytes : Bytes}
    (underWay : dialog.reconstructing = some [(1, bytes), (2, bytes)]) {password : String}
    (long : 8 ≤ password.length) (draws : ResetDraws Priv)
    (others : ∀ dialog event, (∀ confirm, event ≠ .applyRecovery confirm) → allowed dialog event)
    (pressed : ∀ dialog, dialog.keyShares = [(1, bytes), (2, bytes)] →
      allowed dialog (.applyRecovery true)) :
    ∃ after, (dialogMachine P platform toolkit db).Reachable allowed after ∧
      after.recovered = dialog.recovered ++ [⟨password, bytes, [(1, bytes), (2, bytes)]⟩] := by
  have working : dialog.reconstructing ≠ none := by
    rw [underWay]
    exact Option.some_ne_none _
  have known := reconstructed_of_ok toolkit underWay ready.1 (reconstruct_equal bytes)
  have after : (dialogMachine P platform toolkit db).Reachable allowed
      (reconstructed toolkit dialog) :=
    .step Event.reconstructed reachable working (others _ _ nofun)
  rw [known] at after
  exact any_key_resets after ready rfl long draws others (pressed _ rfl)

/-- The first two rows hold one text. -/
def typed (db : Database Pem) (text : String) : Dialog Priv Pub Pem :=
  let fill := fun share : ShareEntry => { share with entry := text }
  setRow (setRow (opened db) 0 fill) 1 fill

theorem apply_reconstruct : (dialogMachine P platform toolkit db).apply dialog .reconstruct =
    doReconstruct toolkit dialog := rfl

theorem typed_reachable (text : String)
    (others : ∀ dialog event, (∀ confirm, event ≠ .applyRecovery confirm) → allowed dialog event) :
    (dialogMachine P platform toolkit db).Reachable allowed
      (doReconstruct toolkit (typed db text)) := by
  have fresh : (dialogMachine P platform toolkit db).Reachable allowed (opened db) := .start rfl
  have one := Machine.Reachable.step (Event.typeShare 0 text) fresh rfl (others _ _ nofun)
  have two : (dialogMachine P platform toolkit db).Reachable allowed (typed db text) :=
    .step (Event.typeShare 1 text) one rfl (others _ _ nofun)
  have entered := Machine.Reachable.step Event.reconstruct two ⟨rfl, rfl⟩ (others _ _ nofun)
  rw [apply_reconstruct] at entered
  exact entered

end Presses

section Statement

variable {Priv Pub Pem : Type} (P : Primitives Priv Pub Pem) (platform : Platform)
variable (toolkit : Toolkit)

/-- Where every press that goes through is for a key from enough shares of the split, the password
is reset for the key only. -/
theorem reset_needs_shares {secret : Bytes} {numShares threshold : Nat}
    {draws : Shamir.Draws secret.length threshold} {split : List (Int × Bytes)}
    (made : Shamir.splitSecret secret numShares threshold draws = .ok split) (db : Database Pem)
    {dialog : Dialog Priv Pub Pem}
    (reachable : (dialogMachine P platform toolkit db).Reachable (Supplied split threshold)
      dialog) : Guarded secret split threshold db dialog := by
  refine (Machine.Reachable.invariant _ (Behind secret split threshold db) ?_ ?_
    reachable).toGuarded
  · intro state started
    have fresh : state = opened db := started
    rw [fresh]
    exact ⟨⟨nofun, fun _ => rfl⟩, nofun, nofun⟩
  · intro state event _ behind _ supplied
    exact behind_step made behind supplied

end Statement

section Example

def toyToolkit : Toolkit where
  intVar
    | .int value => some value
    | _ => none
  str _ := ""
  strError _ := ""
  friendlyError _ := ""

abbrev ToyDialogs : Machine (Dialog String String (String × Bytes)) (Event String) :=
  dialogMachine toyLibraries toyPlatform toyToolkit toyBefriended.db

/-- A key of one byte in three shares, any two of which give it back. -/
def toySplit : List (Int × Bytes) :=
  (List.range 3).map (Shamir.share [5] fun _ (_ : Fin (2 - 1)) => 0)

theorem toySplit_made : Shamir.splitSecret [5] 3 2 (fun _ _ => 0) = .ok toySplit :=
  Shamir.splitSecret_ok (by decide) (by decide) (by decide) (by decide) _

theorem toySplit_eq : toySplit = [(1, [5]), (2, [5]), (3, [5])] := by
  have positions : List.range 3 = [0, 1, 2] := rfl
  simp only [toySplit, positions, List.map_cons, List.map_nil, Shamir.share, shareBytes_zero]
  rfl

/-- Two rows with one text, then the first button. -/
def toyPressed (text : String) : Dialog String String (String × Bytes) :=
  doReconstruct toyToolkit (typed toyBefriended.db text)

/-- Two of the three shares. -/
theorem toyGenuine_guarded : ∃ dialog, ToyDialogs.Reachable (Supplied toySplit 2) dialog ∧
    dialog.recovered ≠ [] ∧ Guarded [5] toySplit 2 toyBefriended.db dialog := by
  have others : ∀ (dialog : Dialog String String (String × Bytes)) (event : Event String),
      (∀ confirm, event ≠ .applyRecovery confirm) → Supplied toySplit 2 dialog event := by
    intro dialog event other
    cases event with
    | applyRecovery confirm => exact absurd rfl (other confirm)
    | _ => trivial
  have pressed : ∀ dialog : Dialog String String (String × Bytes),
      dialog.keyShares = [(1, [5]), (2, [5])] →
        Supplied toySplit 2 dialog (.applyRecovery true : Event String) := by
    intro dialog shares
    refine .inr ?_
    rw [shares, toySplit_eq]
    decide
  have underWay : (toyPressed "BQ==").reconstructing = some [(1, [5]), (2, [5])] := by
    decide +kernel
  have ready : (toyPressed "BQ==").destroyed = false ∧ (toyPressed "BQ==").applying = none := by
    decide +kernel
  have long : 8 ≤ "long enough".length := by decide
  obtain ⟨dialog, reachable, recovered⟩ := equal_rows_reset
    (typed_reachable "BQ==" others : ToyDialogs.Reachable _ (toyPressed "BQ==")) ready underWay
    long toyReset others pressed
  refine ⟨dialog, reachable, ?_, ?_⟩
  · rw [recovered]
    exact List.append_ne_nil_of_right_ne_nil _ (List.cons_ne_nil _ _)
  · exact reset_needs_shares toyLibraries toyPlatform toyToolkit toySplit_made toyBefriended.db
      reachable

/-- The password is reset for a byte that no share of the split has. -/
theorem toyForged_resets :
    ¬ ∀ dialog, ToyDialogs.Reachable (fun _ _ => True) dialog →
      Guarded [5] toySplit 2 toyBefriended.db dialog := by
  intro claim
  have underWay : (toyPressed "CQ==").reconstructing = some [(1, [9]), (2, [9])] := by
    decide +kernel
  have ready : (toyPressed "CQ==").destroyed = false ∧ (toyPressed "CQ==").applying = none := by
    decide +kernel
  have long : 8 ≤ "long enough".length := by decide
  obtain ⟨dialog, reachable, recovered⟩ := equal_rows_reset
    (typed_reachable "CQ==" (fun _ _ _ => trivial) :
      ToyDialogs.Reachable (fun _ _ => True) (toyPressed "CQ==")) ready underWay long toyReset
    (fun _ _ _ => trivial) (fun _ _ => trivial)
  have last : (⟨"long enough", [9], [(1, [9]), (2, [9])]⟩ : Recovery) ∈ dialog.recovered := by
    rw [recovered]
    exact List.mem_append_right _ (List.mem_singleton_self _)
  exact absurd ((claim dialog reachable).recovered _ last).key (by decide)

end Example

end UltimateEnigma.RecoveryUnlock
