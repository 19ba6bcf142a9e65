import UltimateEnigma.LockOrder
import UltimateEnigma.OrderedLocks

set_option autoImplicit false

namespace UltimateEnigma.RatchetService

section Detector

-- `str.lower`
variable (lower : String → String)

/-- `detect_potential_deadlock`. -/
def detectPotentialDeadlock (friendNamesA friendNamesB : List String) : Bool :=
  let overlap := friendNamesA.dedup.filter fun name => name ∈ friendNamesB
  if overlap.length < 2 then false
  else
    let sortedOverlapA := uniqueNames lower overlap
    let sortedOverlapB := uniqueNames lower overlap
    sortedOverlapA != sortedOverlapB

/-- `detect_deadlock` of the names that `_run_maintenance` finds. -/
def maintenanceDetects (activeNames : List String) : Bool :=
  let canonical := activeNames.insertionSort fun first second =>
    canonicalKey lower first ≤ canonicalKey lower second
  detectPotentialDeadlock lower activeNames canonical

/-- One thread acquires the locks of one list in its order, another thread those of the other. -/
def acquisitions (friendNamesA friendNamesB : List String) : Bool → List String
  | true => friendNamesA
  | false => friendNamesB

variable {lower}

theorem detects_nothing (friendNamesA friendNamesB : List String) :
    detectPotentialDeadlock lower friendNamesA friendNamesB = false := by
  simp only [detectPotentialDeadlock, bne_self_eq_false, ite_self]

/-- Two lists can deadlock exactly if the first names that they share differ, so the detector, which
never fires, is right about them exactly if these are the same; locks that
`acquire_friend_locks_ordered` takes never deadlock. -/
theorem detector_right_iff (friendNamesA friendNamesB : List String) :
    (CanDeadlock (acquisitions friendNamesA friendNamesB) ↔
      firstShared friendNamesA friendNamesB ≠ firstShared friendNamesB friendNamesA) ∧
    ((detectPotentialDeadlock lower friendNamesA friendNamesB = true ↔
        CanDeadlock (acquisitions friendNamesA friendNamesB)) ↔
      firstShared friendNamesA friendNamesB = firstShared friendNamesB friendNamesA) ∧
    (maintenanceDetects lower friendNamesA = false) ∧
    ¬ CanDeadlock (acquisitions (uniqueNames lower friendNamesA)
      (uniqueNames lower friendNamesB)) := by
  have deadlock : CanDeadlock (acquisitions friendNamesA friendNamesB) ↔
      firstShared friendNamesA friendNamesB ≠ firstShared friendNamesB friendNamesA :=
    canDeadlock_iff _
  refine ⟨deadlock, ?_, detects_nothing _ _, ?_⟩
  · rw [detects_nothing, deadlock]
    tauto
  · refine not_canDeadlock_of_sorted (fun first second =>
      canonicalKey lower first < canonicalKey lower second)
      (fun first second below => not_lt_of_gt below) fun side => ?_
    cases side with
    | false => exact uniqueNames_pairwise lower friendNamesB
    | true => exact uniqueNames_pairwise lower friendNamesA

end Detector

end UltimateEnigma.RatchetService
