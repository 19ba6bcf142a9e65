import UltimateEnigma.LegacyStrategy
import UltimateEnigma.SealedMessage
import UltimateEnigma.Machine
import Mathlib.Algebra.Order.Field.Rat
import Mathlib.Algebra.Order.Ring.Abs
import Mathlib.Tactic.Linarith

set_option autoImplicit false

namespace UltimateEnigma.ClockTracking

open Py Crypto Encryption

/-- The time as it is, the system clock, and `_ntp_time` with the time at which it was stored. -/
structure World where
  now : Rat
  clock : Rat
  ntpTime : Option Rat
  syncedAt : Rat
deriving DecidableEq, Repr

/-- The system clock may drift, or be set, while time advances. A synchronisation calls
`update_ntp_time`, with `None` where no server answered, unless it raises before. -/
inductive Event where
  | advance (elapsed drift : Rat)
  | updateNtpTime (timestamp : Option Rat)
  | syncRaised
  | encryptOrDecrypt
deriving DecidableEq, Repr

namespace World

def clocks (world : World) : Clocks where
  ntpTime := world.ntpTime
  clock := world.clock

/-- The reading that decryption takes the whole seconds of. -/
def checkReading (world : World) : Rat :=
  (world.ntpTime.filter fun reading => reading ≠ 0).getD world.clock

/-- The error of the last synchronisation, or of the system clock when there was none. -/
def error (world : World) : Rat :=
  match world.ntpTime with
  | some reading => |reading - world.syncedAt|
  | none => |world.clock - world.now|

def apply (world : World) : Event → World
  | .advance elapsed drift =>
      { world with now := world.now + elapsed, clock := world.clock + elapsed + drift }
  | .updateNtpTime timestamp => { world with ntpTime := timestamp, syncedAt := world.now }
  | .syncRaised => world
  | .encryptOrDecrypt => world

/-- Both readings are as near to the time as the error allows. -/
structure Tracks (world : World) : Prop where
  stamp : |world.clocks.stamp - world.now| ≤ world.error
  check : |world.checkReading - world.now| ≤ world.error

/-- The reading that is stored has not aged by more than twice its lead; one of zero is not used
to check messages, so the system clock has to serve. -/
def Current (world : World) : Prop :=
  ∀ reading, world.ntpTime = some reading →
    world.now - world.syncedAt ≤ 2 * max (reading - world.syncedAt) 0 ∧
      (reading = 0 → |world.clock - world.now| ≤ |reading - world.syncedAt|)

end World

def machine : Machine World Event where
  start world := world.ntpTime = none
  enabled _ event :=
    match event with
    | .advance elapsed _ => 0 ≤ elapsed
    | _ => True
  apply := World.apply

/-- What may happen while the readings stay good: no time passes beyond twice the lead of the
reading that is stored. -/
def Permitted (world : World) : Event → Prop
  | .advance elapsed drift => ∀ reading, world.ntpTime = some reading →
      world.now + elapsed - world.syncedAt ≤ 2 * max (reading - world.syncedAt) 0 ∧
        (reading = 0 →
          |world.clock + elapsed + drift - (world.now + elapsed)| ≤ |reading - world.syncedAt|)
  | .updateNtpTime timestamp =>
      timestamp = some 0 → |world.clock - world.now| ≤ |0 - world.now|
  | .syncRaised => True
  | .encryptOrDecrypt => True

/-- `int(value)` is less than a second away. -/
theorem abs_toInt_sub_lt (value : Rat) : |(toInt value : Rat) - value| < 1 := by
  have positive : (0 : Rat) < value.den := by exact_mod_cast value.den_pos
  have division : (value.den : Rat) * value.num.tdiv value.den + value.num.tmod value.den =
      value.num := by exact_mod_cast Int.mul_tdiv_add_tmod value.num value.den
  have quotient : value * value.den = value.num := Rat.mul_den_eq_num value
  have small : |value.num.tmod value.den| < (value.den : Int) := by
    have size := Int.natAbs_tmod value.num value.den
    have bound := Nat.mod_lt value.num.natAbs value.den_pos
    rw [Int.abs_eq_natAbs, size, Int.natAbs_natCast]
    exact_mod_cast bound
  have remainder : |(value.num.tmod value.den : Rat)| < value.den := by exact_mod_cast small
  have gap : ((toInt value : Rat) - value) * value.den = -(value.num.tmod value.den : Rat) := by
    unfold toInt
    linarith
  have size : |(toInt value : Rat) - value| * value.den < 1 * value.den := by
    rw [← abs_of_pos positive, ← abs_mul, abs_of_pos positive, gap, abs_neg, one_mul]
    exact remainder
  exact lt_of_mul_lt_mul_right size positive.le

/-- The reading of a synchronisation is never newer than the moment at which it was stored. -/
theorem syncedAt_le_now {world : World} {allowed : World → Event → Prop}
    (reachable : machine.Reachable allowed world) (synced : world.ntpTime.isSome = true) :
    world.syncedAt ≤ world.now := by
  revert synced
  refine Machine.Reachable.invariant machine (fun world => world.ntpTime.isSome = true →
    world.syncedAt ≤ world.now) ?_ ?_ reachable
  · intro world start synced
    rw [start] at synced
    cases synced
  · intro world event _ ih enabled _
    cases event with
    | advance elapsed drift =>
        intro synced
        have before := ih synced
        have elapsed_nonneg : 0 ≤ elapsed := enabled
        show world.syncedAt ≤ world.now + elapsed
        linarith
    | updateNtpTime timestamp => exact fun _ => le_refl world.now
    | syncRaised => exact ih
    | encryptOrDecrypt => exact ih

/-- A reading that stands still is near enough until time has run past it by its lead. -/
theorem abs_sub_le_iff_aged {reading syncedAt now : Rat} (later : syncedAt ≤ now) :
    |reading - now| ≤ |reading - syncedAt| ↔
      now - syncedAt ≤ 2 * max (reading - syncedAt) 0 := by
  by_cases lead : syncedAt ≤ reading
  · rw [max_eq_left (by linarith), abs_of_nonneg (by linarith : 0 ≤ reading - syncedAt), abs_le]
    constructor
    · intro bounds
      linarith [bounds.1]
    · intro aged
      constructor
      · linarith
      · linarith
  · rw [max_eq_right (by linarith), abs_of_neg (by linarith : reading - syncedAt < 0),
      abs_of_nonpos (by linarith : reading - now ≤ 0)]
    constructor
    · intro bound
      linarith
    · intro aged
      linarith

theorem tracks_iff_current {world : World}
    (later : world.ntpTime.isSome = true → world.syncedAt ≤ world.now) :
    world.Tracks ↔ world.Current := by
  cases stored : world.ntpTime with
  | none =>
      have error : world.error = |world.clock - world.now| := by rw [World.error, stored]
      have stamp : world.clocks.stamp = world.clock := by
        rw [Clocks.stamp, World.clocks, stored, Option.getD_none]
      have check : world.checkReading = world.clock := by
        rw [World.checkReading, stored]
        rfl
      constructor
      · intro _ reading synced
        rw [stored] at synced
        cases synced
      · intro _
        constructor
        · rw [stamp, error]
        · rw [check, error]
  | some reading =>
      have order : world.syncedAt ≤ world.now := later (by rw [stored, Option.isSome_some])
      have error : world.error = |reading - world.syncedAt| := by rw [World.error, stored]
      have stamp : world.clocks.stamp = reading := by
        rw [Clocks.stamp, World.clocks, stored, Option.getD_some]
      have check : world.checkReading = if reading = 0 then world.clock else reading := by
        rw [World.checkReading, stored, Option.filter_some]
        by_cases zero : reading = 0
        · rw [if_pos zero, if_neg (by simpa using zero), Option.getD_none]
        · rw [if_neg zero, if_pos (by simpa using zero), Option.getD_some]
      constructor
      · rintro ⟨stamped, checked⟩ other synced
        rw [stored] at synced
        cases synced
        rw [stamp, error, abs_sub_le_iff_aged order] at stamped
        refine ⟨stamped, fun zero => ?_⟩
        rw [check, if_pos zero, error] at checked
        exact checked
      · intro current
        obtain ⟨aged, system⟩ := current reading stored
        have near := (abs_sub_le_iff_aged order).mpr aged
        constructor
        · rw [stamp, error]
          exact near
        · rw [check, error]
          split
          · rename_i zero
            exact system zero
          · exact near

theorem current_apply {world : World} {event : Event} (current : world.Current)
    (permitted : Permitted world event) : (world.apply event).Current := by
  cases event with
  | advance elapsed drift => exact permitted
  | updateNtpTime timestamp =>
      intro reading synced
      have given : timestamp = some reading := synced
      show world.now - world.now ≤ 2 * max (reading - world.now) 0 ∧
        (reading = 0 → |world.clock - world.now| ≤ |reading - world.now|)
      constructor
      · have lead : 0 ≤ max (reading - world.now) 0 := le_max_right _ _
        linarith
      · intro zero
        rw [zero]
        exact permitted (given.trans (congrArg some zero))
  | syncRaised => exact current
  | encryptOrDecrypt => exact current

theorem current_of_reachable {world : World} (reachable : machine.Reachable Permitted world) :
    world.Current := by
  refine Machine.Reachable.invariant machine World.Current ?_ ?_ reachable
  · intro world start reading synced
    have none : world.ntpTime = none := start
    rw [none] at synced
    cases synced
  · exact fun world event _ current _ permitted => current_apply current permitted

section Messages

variable {Priv Pub : Type} {L : MessageLibrary Priv Pub}

/-- The message is read before its end, or within the window, up to the error of the clock and the
second that the whole seconds leave out. -/
def OnTime (world : World) (opened : Opened) : Prop :=
  match opened.duration with
  | some seconds => world.now ≤ opened.time + seconds + world.error + 1
  | none => |world.now - opened.time| ≤ timeStep * windowSize + world.error + 1

theorem checkNow_getD (world : World) :
    world.clocks.checkNow.getD (toInt world.clocks.clock) = toInt world.checkReading := by
  unfold Clocks.checkNow World.checkReading World.clocks
  cases world.ntpTime.filter fun reading => reading ≠ 0 with
  | none => rfl
  | some reading => rfl

theorem onTime_of_checkTime {world : World} {opened : Opened} (tracks : world.Tracks)
    (passes : checkTime (toInt world.checkReading) opened.time opened.duration = .ok ()) :
    OnTime world opened := by
  have near := abs_le.mp tracks.check
  have whole := abs_lt.mp (abs_toInt_sub_lt world.checkReading)
  unfold OnTime
  cases duration : opened.duration with
  | some seconds =>
      rw [duration, checkTime] at passes
      by_cases after : ((opened.time : Int) + seconds) < toInt world.checkReading
      · rw [if_pos after] at passes
        cases passes
      · have before : (toInt world.checkReading : Rat) ≤ opened.time + seconds := by
          exact_mod_cast not_lt.mp after
        show world.now ≤ opened.time + seconds + world.error + 1
        linarith [near.1, whole.1]
  | none =>
      rw [duration, checkTime] at passes
      by_cases far : timeStep * windowSize < (toInt world.checkReading - opened.time).natAbs
      · rw [if_pos far] at passes
        cases passes
      · have inside : |toInt world.checkReading - (opened.time : Int)| ≤ timeStep * windowSize := by
          rw [Int.abs_eq_natAbs]
          omega
        have window : |(toInt world.checkReading : Rat) - opened.time| ≤
            timeStep * windowSize := by exact_mod_cast inside
        have bounds := abs_le.mp window
        show |world.now - opened.time| ≤ timeStep * windowSize + world.error + 1
        rw [abs_le]
        constructor
        · linarith [bounds.1, near.2, whole.2]
        · linarith [bounds.2, near.1, whole.1]

theorem checkTime_of_openPacket {packet constKey : Bytes} {myPriv : Option Priv}
    {now : Option Int} {clock : Int} {opened : Opened}
    (reading : openPacket L packet constKey myPriv now clock = .ok opened) :
    checkTime (now.getD clock) opened.time opened.duration = .ok () := by
  unfold openPacket at reading
  obtain ⟨⟨flags, outerTime, signature, rest⟩, _, reading⟩ := ok_of_bind reading
  obtain ⟨inner, _, reading⟩ := ok_of_bind reading
  obtain ⟨⟨time, duration, plaintext⟩, _, reading⟩ := ok_of_bind reading
  obtain ⟨_, passes, reading⟩ := ok_of_bind reading
  cases reading
  exact passes

variable (L)

/-- What holds of the messages at a moment: the stamp of each one that is made, and the time of each
one that is read, are as near to the time as the error allows. -/
structure Timely (store : KeyStore Priv Pub) (world : World) : Prop where
  stamped {draws : EncryptDraws} {plaintext : String} {friendName : Option String} {mode : Mode}
    {sign : Bool} {selfDestructSeconds : Option Int} {sent : Bytes × Int}
    (made : legacyEncrypt L store world.clocks draws plaintext friendName mode sign
      selfDestructSeconds = .ok sent) : |(sent.2 : Rat) - world.now| < world.error + 1
  read {packet : Bytes} {text : String}
    (accepted : legacyDecrypt L store world.clocks packet = .ok text) :
    ∃ constKey myPriv opened,
      openPacket L packet constKey myPriv world.clocks.checkNow (toInt world.clock) =
        .ok opened ∧ OnTime world opened

variable {L}

theorem timely_of_tracks (store : KeyStore Priv Pub) {world : World} (tracks : world.Tracks) :
    Timely L store world where
  stamped made := by
    obtain ⟨constKey, friendPub, _, made⟩ := legacyEncrypt_ok made
    have near := abs_le.mp tracks.stamp
    have whole := abs_lt.mp (abs_toInt_sub_lt world.clocks.stamp)
    rw [encryptMessage_time made, abs_lt]
    constructor
    · linarith [near.1, whole.1]
    · linarith [near.2, whole.2]
  read accepted := by
    obtain ⟨constKey, myPriv, _, _, decrypted⟩ := legacyDecrypt_ok accepted
    obtain ⟨opened, reading, _⟩ := ok_of_bind decrypted
    have passes := checkTime_of_openPacket reading
    rw [checkNow_getD world] at passes
    exact ⟨constKey, myPriv, opened, reading, onTime_of_checkTime tracks passes⟩

/-- The readings are good in every run in which no time passes under a stored reading beyond twice
its lead, and in any run exactly while that reading is current. -/
theorem clock_tracks_iff_current (L : MessageLibrary Priv Pub) (store : KeyStore Priv Pub) :
    (∀ world, machine.Reachable Permitted world → world.Tracks ∧ Timely L store world) ∧
      ∀ world, machine.Reachable (fun _ _ => True) world → (world.Tracks ↔ world.Current) := by
  constructor
  · intro world reachable
    have tracks := (tracks_iff_current (syncedAt_le_now reachable)).mpr
      (current_of_reachable reachable)
    exact ⟨tracks, timely_of_tracks store tracks⟩
  · intro world reachable
    exact tracks_iff_current (syncedAt_le_now reachable)

end Messages

section Example

/-- Someone who lists their own key as a friend's. -/
def toyStore : KeyStore Bytes Bytes where
  myPriv := some [4]
  friends := [("bob", [4], none)]

/-- A reading of `lead` seconds more than the time, stored when the time is one hundred. -/
def synced (lead : Rat) : World where
  now := 100
  clock := 100
  ntpTime := some (100 + lead)
  syncedAt := 100

theorem synced_reachable {lead : Rat} (positive : 0 ≤ lead) :
    machine.Reachable Permitted (synced lead) := by
  have start : machine.Reachable Permitted ⟨100, 100, none, 0⟩ := .start rfl
  refine .step (Event.updateNtpTime (some (100 + lead))) start trivial ?_
  intro zero
  have reading : 100 + lead = 0 := Option.some.inj zero
  linarith

/-- Eight seconds after a reading that is five seconds ahead, the readings are still good. -/
theorem synced_tracks :
    ((synced 5).apply (.advance 8 0)).Tracks := by
  have permitted : Permitted (synced 5) (.advance 8 0) := by
    intro reading stored
    cases stored
    constructor
    · show (100 : Rat) + 8 - 100 ≤ 2 * max (100 + 5 - 100) 0
      norm_num
    · intro zero
      norm_num at zero
  have enabled : machine.enabled (synced 5) (.advance 8 0) := by
    show (0 : Rat) ≤ 8
    norm_num
  have reachable := Machine.Reachable.step (.advance 8 0) (synced_reachable (by norm_num)) enabled
    permitted
  exact ((clock_tracks_iff_current toyMessages toyStore).1 _ reachable).1

/-- What `toyStore` sends to itself, with ten seconds to live. -/
theorem toyStore_reads {clocks : Clocks} (stopped : clocks.ntpTime = some 100) :
    ∃ packet, legacyEncrypt toyMessages toyStore clocks toyDraws "hi" (some "bob") .rsa false
        (some 10) = .ok (packet, (100 : Nat)) ∧
      ∀ later : Clocks, later.ntpTime = some 100 →
        legacyDecrypt toyMessages toyStore later packet = .ok "hi" := by
  have stamp : clocks.stamp = (((100 : Nat) : Int) : Rat) := by
    rw [Clocks.stamp, stopped, Option.getD_some]
    norm_num
  have resolved : resolveEncryptionKey toyStore (some "bob") .rsa =
      .ok (List.replicate aesKeySize 0, some [4]) := by decide
  have seconds : ∀ seconds, (legacyOptions toyStore (some [4]) false (some 10)).selfDestructSeconds =
      some seconds → seconds < 2 ^ 32 := by
    intro seconds given
    cases given
    omega
  have unlisted : Listed toyMessages (legacyOptions toyStore (some [4]) false (some 10)) toyDraws
      (friendsForCrypto toyStore) (friendsHybridList toyStore) :=
    { hybrid := fun used => nomatch used
      signable := fun used => nomatch used
      rsa := fun _ signed => nomatch signed }
  have matching : (legacyOptions toyStore (some [4]) false (some 10)).encryptForFriendPub =
      (some ([4] : Bytes)).map toyMessages.publicKey := rfl
  have anyKey : (some ([4] : Bytes)) = none → ([] : Bytes) = List.replicate aesKeySize 0 :=
    fun none => nomatch none
  obtain ⟨rest, packet, opened, whole, encrypted, _, bare, _, _, plaintext, _, _, reading⟩ :=
    openPacket_encryptMessage toyMessages_lawful (encodeUtf8 "hi") 0 matching anyKey rfl rfl seconds
      unlisted (by omega : 100 < 2 ^ 62) (by omega : 60 ≤ 100) (by omega)
  have fresh : Fresh 100 100 ((legacyOptions toyStore (some [4]) false (some 10)).seconds.map
      Nat.cast) := by
    show ((100 : Nat) : Int) ≤ (100 : Nat) + 10
    omega
  rw [checkTime_of_fresh fresh, ok_bind] at reading
  rw [BannerFor, if_neg (by decide), if_neg (by decide)] at bare
  refine ⟨packet, ?_, ?_⟩
  · rw [legacyEncrypt, resolved, stamp]
    simp only [ok_bind, encrypted]
  · intro later stopped
    have now : later.checkNow = some ((100 : Nat) : Int) := by
      rw [Clocks.checkNow, stopped]
      rfl
    have decrypted : decryptMessage toyMessages packet [] (some [4]) (friendsForCrypto toyStore)
        later.checkNow (toInt later.clock) (friendsHybridList toyStore) = .ok "hi" := by
      have same : openPacket toyMessages packet [] (some [4]) (some ((100 : Nat) : Int))
          (toInt later.clock) = .ok opened := reading
      rw [now, decryptMessage, same, ok_bind, bare, plaintext, decodeText_encodeUtf8]
      rfl
    rw [headerOf, List.cons_append, List.cons_append] at whole
    rw [whole] at decrypted ⊢
    exact legacyDecrypt_of_myPriv (by decide) rfl decrypted

/-- A message with ten seconds to live is read a thousand seconds later, by a reading that was
exact when it was stored. -/
theorem synced_stale :
    ∃ packet late, late = (synced 0).apply (.advance 1000 0) ∧
      machine.Reachable (fun _ _ => True) late ∧ late.now = 1100 ∧ late.error = 0 ∧
      late.clocks.stamp = 100 ∧ ¬ late.Tracks ∧
      legacyEncrypt toyMessages toyStore (synced 0).clocks toyDraws "hi" (some "bob") .rsa false
        (some 10) = .ok (packet, (100 : Nat)) ∧
      legacyDecrypt toyMessages toyStore late.clocks packet = .ok "hi" := by
  have stopped : (synced 0).clocks.ntpTime = some 100 := by
    show some ((100 : Rat) + 0) = some 100
    norm_num
  obtain ⟨packet, sent, read⟩ := toyStore_reads stopped
  have enabled : machine.enabled (synced 0) (.advance 1000 0) := by
    show (0 : Rat) ≤ 1000
    norm_num
  have before : machine.Reachable (fun _ _ => True) (synced 0) :=
    (synced_reachable (le_refl 0)).weaken fun _ _ _ _ _ => trivial
  have reachable := Machine.Reachable.step (.advance 1000 0) before enabled trivial
  have exact_sync : ((synced 0).apply (.advance 1000 0)).error = 0 := by
    show |(100 : Rat) + 0 - 100| = 0
    norm_num
  have stamp : ((synced 0).apply (.advance 1000 0)).clocks.stamp = 100 := by
    show (100 : Rat) + 0 = 100
    norm_num
  have now : ((synced 0).apply (.advance 1000 0)).now = 1100 := by
    show (100 : Rat) + 1000 = 1100
    norm_num
  refine ⟨packet, _, rfl, reachable, now, exact_sync, stamp, ?_, sent, read _ stopped⟩
  intro tracks
  have near := tracks.stamp
  rw [exact_sync, stamp, now] at near
  norm_num at near

end Example

end UltimateEnigma.ClockTracking
