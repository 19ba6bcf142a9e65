import UltimateEnigma.Py.Dict
import UltimateEnigma.Py.Statistics
import UltimateEnigma.Py.Struct
import Mathlib.Data.Rat.Cast.Order

set_option autoImplicit false

namespace UltimateEnigma.NtpClient

open Py Py.Statistics

def ntpDelta : Nat := 2208988800

def maxServersToTry : Nat := 5

/-- What `_query_one` raises; every class is caught. -/
inductive Raised where
  | gaierror
  | timeout
  | osError
  | valueError (message : String)
  | structError
deriving DecidableEq, Repr

/-- A datagram, and the clock before it was asked for and after it came. -/
structure Reply where
  data : Bytes
  before : Rat
  after : Rat
deriving DecidableEq, Repr

/-- `struct.unpack("!12I", data)[i]`. -/
def word (data : Bytes) (i : Nat) : Nat := unpackBE ((data.drop (4 * i)).take 4)

/-- `_query_one`, with what the socket gave. -/
def queryOne (received : Except Raised Reply) : Except Raised Rat := do
  let reply ← received
  if reply.data.length < 48 then
    .error (.valueError ("Short response (" ++ toString reply.data.length ++ " bytes)"))
  else if reply.data.length ≠ 48 then .error .structError
  else
    let serverTime : Rat := word reply.data 10 - ntpDelta + word reply.data 11 / 2 ^ 32
    return serverTime + (reply.after - reply.before) / 2

/-- The loop that fills `results`; a server that raises is left out. -/
def collect (network : String → Except Raised Reply) : List String → Dict String Rat →
    Dict String Rat
  | [], results => results
  | server :: rest, results =>
      match queryOne (network server) with
      | .ok time => collect network rest (results.set server time)
      | .error _ => collect network rest results

/-- `[t for t in timestamps if abs(t - median_time) < 0.5]`. -/
def closeTo (medianTime : Rat) (timestamps : List Rat) : List Rat :=
  timestamps.filter fun time => |time - medianTime| < 1 / 2

/-- What is made of the timestamps. -/
def consensus : List Rat → Option Rat
  | [] => none
  | [time] => some time
  | timestamps =>
      (median timestamps).map fun medianTime =>
        let filtered := closeTo medianTime timestamps
        if filtered = [] then medianTime else mean filtered

/-- `list(results.values())` of the multi-server mode. -/
def responses (network : String → Except Raised Reply) (servers : List String) : List Rat :=
  (collect network (servers.take maxServersToTry) .empty).items.map Prod.snd

/-- `get_ntp_time`. `servers` is `NTP_SERVERS`. -/
def getNtpTime (network : String → Except Raised Reply) (servers : List String) :
    Option String → Option Rat
  | some server => (queryOne (network server)).toOption
  | none => consensus (responses network servers)

section Consensus

variable {trueTime tolerance : Rat} {timestamps : List Rat}

/-- How many of the timestamps are no further from the time than the tolerance. -/
def countWithin (trueTime tolerance : Rat) (timestamps : List Rat) : Nat :=
  timestamps.countP fun time => |time - trueTime| ≤ tolerance

theorem countWithin_eq : countWithin trueTime tolerance timestamps =
    countBetween (trueTime - tolerance) (trueTime + tolerance) timestamps := by
  refine List.countP_congr fun time _ => ?_
  rw [decide_eq_true_eq, decide_eq_true_eq, abs_le]
  constructor
  · rintro ⟨low, high⟩
    exact ⟨by linarith, by linarith⟩
  · rintro ⟨low, high⟩
    exact ⟨by linarith, by linarith⟩

/-- What passes the filter lies within half a second of the median. -/
theorem filtered_between {medianTime : Rat} :
    ∀ time ∈ closeTo medianTime timestamps,
      medianTime - 1 / 2 ≤ time ∧ time ≤ medianTime + 1 / 2 := by
  intro time member
  have kept := (List.mem_filter.mp member).2
  rw [decide_eq_true_eq, abs_lt] at kept
  exact ⟨by linarith [kept.1], by linarith [kept.2]⟩

theorem consensus_many {first second : Rat} {rest : List Rat}
    (majority : (first :: second :: rest).length <
      2 * countWithin trueTime tolerance (first :: second :: rest)) (nonneg : 0 ≤ tolerance) :
    ∃ time, consensus (first :: second :: rest) = some time ∧
      |time - trueTime| ≤ tolerance + 1 / 2 := by
  rw [countWithin_eq] at majority
  obtain ⟨medianTime, found, low, high⟩ := median_between (by linarith) majority
  have taken : consensus (first :: second :: rest) =
      some (if closeTo medianTime (first :: second :: rest) = [] then medianTime
        else mean (closeTo medianTime (first :: second :: rest))) := by
    show (median (first :: second :: rest)).map _ = _
    rw [found]
    rfl
  refine ⟨_, taken, ?_⟩
  by_cases outliers : closeTo medianTime (first :: second :: rest) = []
  · rw [if_pos outliers, abs_le]
    exact ⟨by linarith, by linarith⟩
  · obtain ⟨meanLow, meanHigh⟩ := mean_between outliers filtered_between
    rw [if_neg outliers, abs_le]
    exact ⟨by linarith, by linarith⟩

/-- Where a strict majority of the responses is right up to the tolerance, so is the consensus up to
half a second more, and a single response as it is. -/
theorem consensus_tolerates_minority (trueTime tolerance : Rat) (nonneg : 0 ≤ tolerance)
    (timestamps : List Rat)
    (majority : timestamps.length < 2 * countWithin trueTime tolerance timestamps) :
    ∃ time, consensus timestamps = some time ∧
      |time - trueTime| ≤ tolerance + 1 / 2 ∧
      (timestamps.length = 1 → |time - trueTime| ≤ tolerance) ∧
      ∀ network servers, responses network servers = timestamps →
        getNtpTime network servers none = some time := by
  cases timestamps with
  | nil => exact absurd majority (Nat.not_lt_zero _)
  | cons first rest =>
      cases rest with
      | nil =>
          have right : |first - trueTime| ≤ tolerance := by
            by_contra wrong
            rw [countWithin, List.countP_cons_of_neg (by simpa using wrong)] at majority
            exact absurd majority (Nat.not_lt_zero _)
          refine ⟨first, rfl, by linarith, fun _ => right, fun network servers same => ?_⟩
          rw [getNtpTime, same]
          rfl
      | cons second rest =>
          obtain ⟨time, found, bounded⟩ := consensus_many majority nonneg
          refine ⟨time, found, bounded, fun single => ?_, fun network servers same => ?_⟩
          · rw [List.length_cons, List.length_cons] at single
            omega
          · rw [getNtpTime, same]
            exact found

/-- Two servers that agree and one that is an hour off. -/
theorem consensus_tolerates_minority_three :
    ([100, 3700, 101] : List Rat).length < 2 * countWithin 100 1 [100, 3700, 101] ∧
      ∃ time, consensus [100, 3700, 101] = some time ∧ |time - 100| ≤ 1 + 1 / 2 := by
  have majority : ([100, 3700, 101] : List Rat).length <
      2 * countWithin 100 1 [100, 3700, 101] := by decide +kernel
  obtain ⟨time, found, bounded, -⟩ :=
    consensus_tolerates_minority 100 1 (by decide) [100, 3700, 101] majority
  exact ⟨majority, time, found, bounded⟩

end Consensus

end UltimateEnigma.NtpClient
