import Mathlib.Data.Option.Basic
import Mathlib.Logic.Relation
import Mathlib.Order.Basic

set_option autoImplicit false

namespace Py

/-- A `threading.RLock`: free, or its owner and how often it was taken again. -/
inductive RLock (Thread : Type) where
  | free
  | held (owner : Thread) (again : Nat)
deriving DecidableEq, Repr

namespace RLock

variable {Thread : Type} [DecidableEq Thread]

/-- `lock.acquire(blocking=False)`; a blocking `acquire` waits until this succeeds. -/
def acquire? (thread : Thread) : RLock Thread → Option (RLock Thread)
  | free => some (held thread 0)
  | held owner again => if owner = thread then some (held owner (again + 1)) else none

/-- `lock.release()`, which raises `RuntimeError` for any other thread. -/
def release? (thread : Thread) : RLock Thread → Option (RLock Thread)
  | free => none
  | held owner again =>
      if owner = thread then
        some (match again with
          | 0 => free
          | again + 1 => held owner again)
      else none

/-- How many releases the thread owes. -/
def count (lock : RLock Thread) (thread : Thread) : Nat :=
  match lock with
  | free => 0
  | held owner again => if owner = thread then again + 1 else 0

@[simp] theorem count_free (thread : Thread) : (free : RLock Thread).count thread = 0 := rfl

theorem eq_of_count_pos {lock : RLock Thread} {first second : Thread}
    (held_first : 0 < lock.count first) (held_second : 0 < lock.count second) :
    first = second := by
  cases lock with
  | free => simp only [count_free, Nat.lt_irrefl] at held_first
  | held owner again =>
      simp only [count] at held_first held_second
      by_cases mine : owner = first
      · by_cases yours : owner = second
        · exact mine.symm.trans yours
        · rw [if_neg yours] at held_second
          omega
      · rw [if_neg mine] at held_first
        omega

theorem count_acquire {lock taken : RLock Thread} {thread : Thread}
    (acquired : lock.acquire? thread = some taken) (other : Thread) :
    taken.count other = lock.count other + if other = thread then 1 else 0 := by
  cases lock with
  | free =>
      cases acquired
      by_cases same : other = thread
      · simp [count, same]
      · simp [count, same, Ne.symm same]
  | held owner again =>
      simp only [acquire?] at acquired
      split at acquired
      · next mine =>
          cases acquired
          subst mine
          by_cases same : other = owner
          · simp [count, same]
          · simp [count, same, Ne.symm same]
      · cases acquired

theorem count_release {lock left : RLock Thread} {thread : Thread}
    (released : lock.release? thread = some left) (other : Thread) :
    left.count other + (if other = thread then 1 else 0) = lock.count other := by
  cases lock with
  | free => cases released
  | held owner again =>
      simp only [release?] at released
      split at released
      · next mine =>
          cases released
          subst mine
          by_cases same : other = owner
          · cases again <;> simp [count, same]
          · cases again <;> simp [count, same, Ne.symm same]
      · cases released

end RLock

end Py

/-- Threads that wait for locks and hold locks. -/
structure WaitGraph (Thread Lock : Type) where
  wants : Thread → Lock → Prop
  holds : Thread → Lock → Prop

namespace WaitGraph

variable {Thread Lock Rank : Type} (G : WaitGraph Thread Lock)

def Awaits (waiting holding : Thread) : Prop := ∃ lock, G.wants waiting lock ∧ G.holds holding lock

/-- No circular wait: the next thread of no chain of waits is one it has passed. -/
def DeadlockFree : Prop := ∀ thread, ¬ Relation.TransGen G.Awaits thread thread

variable {G} [Preorder Rank]

/-- Along a chain of waits the ranks wanted only grow. -/
theorem rank_le_of_awaits {rank : Lock → Rank}
    (ordered : ∀ thread held wanted, G.holds thread held → G.wants thread wanted →
      rank held < rank wanted) {first last : Thread}
    (chain : Relation.TransGen G.Awaits first last) :
    ∃ wanted held, G.wants first wanted ∧ G.holds last held ∧ rank wanted ≤ rank held := by
  induction chain with
  | single awaits =>
      obtain ⟨lock, wants, holds⟩ := awaits
      exact ⟨lock, lock, wants, holds, le_rfl⟩
  | tail _ awaits ih =>
      obtain ⟨lock, wants, holds⟩ := awaits
      obtain ⟨wanted, held, wants_first, holds_middle, below⟩ := ih
      have above := ordered _ held lock holds_middle wants
      exact ⟨wanted, lock, wants_first, holds, below.trans above.le⟩

theorem deadlockFree_of_ordered (rank : Lock → Rank)
    (ordered : ∀ thread held wanted, G.holds thread held → G.wants thread wanted →
      rank held < rank wanted) : G.DeadlockFree := by
  intro thread cycle
  obtain ⟨wanted, held, wants, holds, below⟩ := rank_le_of_awaits ordered cycle
  exact lt_irrefl _ ((ordered thread held wanted holds wants).trans_le below)

end WaitGraph
