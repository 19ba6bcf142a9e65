import UltimateEnigma.Machine
import Mathlib.Data.Bool.Basic
import Mathlib.Data.List.Basic
import Mathlib.Logic.Function.Basic

set_option autoImplicit false

/-- A thread that takes its locks one by one and gives them all back in the end. -/
structure Taking (κ : Type) where
  held : List κ
  rest : List κ

inductive LockStep where
  | take
  | giveBack
deriving DecidableEq

section LockOrder

variable {κ : Type}

/-- Two threads that each take the locks of a list in its order. A thread can take a lock again that
it holds. -/
def takers (orders : Bool → List κ) : Machine (Bool → Taking κ) (Bool × LockStep) where
  start state := ∀ side, state side = ⟨[], orders side⟩
  enabled state event :=
    match event.2 with
    | .take => ∃ next rest, (state event.1).rest = next :: rest ∧ next ∉ (state !event.1).held
    | .giveBack => (state event.1).rest = [] ∧ (state event.1).held ≠ []
  apply state event :=
    match event.2, (state event.1).rest with
    | .take, next :: rest =>
        Function.update state event.1 ⟨(state event.1).held ++ [next], rest⟩
    | .take, [] => state
    | .giveBack, _ => Function.update state event.1 ⟨[], []⟩

/-- Somebody still has locks to take, and nobody can do anything. -/
def Deadlocked (orders : Bool → List κ) (state : Bool → Taking κ) : Prop :=
  (∃ side, (state side).rest ≠ []) ∧ ∀ event, ¬ (takers orders).enabled state event

def CanDeadlock (orders : Bool → List κ) : Prop :=
  ∃ state, (takers orders).Reachable (fun _ _ => True) state ∧ Deadlocked orders state

variable {orders : Bool → List κ} {state : Bool → Taking κ}

/-- A thread has taken the front of its list or given everything back, and no lock is held twice. -/
structure InOrder (orders : Bool → List κ) (state : Bool → Taking κ) : Prop where
  order : ∀ side, (state side).held ++ (state side).rest = orders side ∨ state side = ⟨[], []⟩
  apart : ∀ side, ∀ lock ∈ (state side).held, lock ∉ (state !side).held

theorem InOrder.update {side : Bool} {after : Taking κ} (before : InOrder orders state)
    (order : after.held ++ after.rest = orders side ∨ after = ⟨[], []⟩)
    (apart : ∀ lock ∈ after.held, lock ∉ (state !side).held) :
    InOrder orders (Function.update state side after) where
  order := by
    intro other
    by_cases same : other = side
    · rw [same, Function.update_self]
      exact order
    · rw [Function.update_of_ne same]
      exact before.order other
  apart := by
    intro other lock held
    by_cases same : other = side
    · rw [same] at held ⊢
      rw [Function.update_self] at held
      rw [Function.update_of_ne (Bool.not_ne_self side)]
      exact apart lock held
    · have opposite : (!other) = side := by
        cases other <;> cases side <;> simp_all
      rw [Function.update_of_ne same] at held
      rw [opposite, Function.update_self]
      intro taken
      have free := apart lock taken
      rw [← opposite, Bool.not_not] at free
      exact free held

theorem inOrder_of_reachable (reachable : (takers orders).Reachable (fun _ _ => True) state) :
    InOrder orders state := by
  refine reachable.invariant _ (InOrder orders) ?_ ?_
  · intro state initial
    refine ⟨fun side => ?_, fun side lock held => ?_⟩
    · rw [initial side]
      exact .inl rfl
    · rw [initial side] at held
      cases held
  · rintro state ⟨side, action⟩ _ before enabled _
    cases action with
    | take =>
        obtain ⟨next, rest, left, free⟩ := enabled
        have applied : (takers orders).apply state (side, .take) =
            Function.update state side ⟨(state side).held ++ [next], rest⟩ := by
          simp only [takers, left]
        rw [applied]
        refine before.update ?_ ?_
        · rcases before.order side with order | done
          · rw [left] at order
            rw [← order, List.append_assoc]
            exact .inl rfl
          · rw [done] at left
            cases left
        · intro lock held
          rcases List.mem_append.mp held with old | new
          · exact before.apart side lock old
          · rw [List.mem_singleton.mp new]
            exact free
    | giveBack =>
        refine before.update (.inr rfl) ?_
        intro lock held
        cases held

/-- Alone, a thread can go on as far as it meets no lock that the other one holds. -/
theorem reachable_advance (side : Bool) {front rest : List κ}
    (reachable : (takers orders).Reachable (fun _ _ => True) state)
    (left : (state side).rest = front ++ rest)
    (free : ∀ lock ∈ front, lock ∉ (state !side).held) :
    (takers orders).Reachable (fun _ _ => True)
      (Function.update state side ⟨(state side).held ++ front, rest⟩) := by
  induction front generalizing state with
  | nil =>
      have same : (⟨(state side).held ++ [], rest⟩ : Taking κ) = state side := by
        rw [List.append_nil, ← List.nil_append rest, ← left]
      rw [same, Function.update_eq_self]
      exact reachable
  | cons next front ih =>
      have enabled : (takers orders).enabled state (side, .take) :=
        ⟨next, front ++ rest, left, free next List.mem_cons_self⟩
      have stepped := reachable.step (side, .take) enabled trivial
      have applied : (takers orders).apply state (side, .take) =
          Function.update state side ⟨(state side).held ++ [next], front ++ rest⟩ := by
        simp only [takers, left, List.cons_append]
      rw [applied] at stepped
      have later := ih stepped (by rw [Function.update_self]) ?_
      · rw [Function.update_self, Function.update_idem, List.append_assoc] at later
        exact later
      · intro lock member
        rw [Function.update_of_ne (Bool.not_ne_self side)]
        exact free lock (List.mem_cons_of_mem next member)

/-- A list up to its first member with a property. -/
theorem exists_first (property : κ → Prop) {list : List κ} {found : κ} (member : found ∈ list)
    (holds : property found) :
    ∃ front first back, list = front ++ first :: back ∧ property first ∧
      ∀ earlier ∈ front, ¬ property earlier := by
  induction list with
  | nil => cases member
  | cons head tail ih =>
      by_cases here : property head
      · exact ⟨[], head, tail, rfl, here, fun _ => nofun⟩
      · have later : found ∈ tail := by
          rcases List.mem_cons.mp member with same | later
          · rw [same] at holds
            exact absurd holds here
          · exact later
        obtain ⟨front, first, back, split, firstHolds, none⟩ := ih later
        refine ⟨head :: front, first, back, by rw [split, List.cons_append], firstHolds, ?_⟩
        intro earlier earlierMember
        rcases List.mem_cons.mp earlierMember with same | after
        · rw [same]
          exact here
        · exact none earlier after

/-- A thread can go on to a lock that the other one holds. -/
theorem reachable_blocked (side : Bool) {lock : κ}
    (reachable : (takers orders).Reachable (fun _ _ => True) state)
    (wanted : lock ∈ (state side).rest) (taken : lock ∈ (state !side).held) :
    ∃ after, (takers orders).Reachable (fun _ _ => True) after ∧
      (∃ next rest, (after side).rest = next :: rest ∧ next ∈ (state !side).held) ∧
      (∀ held ∈ (state side).held, held ∈ (after side).held) ∧
      after (!side) = state !side := by
  obtain ⟨front, next, back, split, blocked, free⟩ :=
    exists_first (· ∈ (state !side).held) wanted taken
  refine ⟨_, reachable_advance side reachable split free, ⟨next, back, ?_, blocked⟩, ?_, ?_⟩
  · rw [Function.update_self]
  · intro held member
    rw [Function.update_self]
    exact List.mem_append_left _ member
  · exact Function.update_of_ne (Bool.not_ne_self side) _ _

/-- Each holding what the other wants next, they are stuck. -/
theorem deadlocked_of_blocked
    (blocked : ∀ side, ∃ next rest, (state side).rest = next :: rest ∧
      next ∈ (state !side).held) : Deadlocked orders state := by
  refine ⟨⟨true, ?_⟩, ?_⟩
  · obtain ⟨next, rest, left, _⟩ := blocked true
    rw [left]
    exact List.cons_ne_nil _ _
  · rintro ⟨side, action⟩ enabled
    obtain ⟨next, rest, left, taken⟩ := blocked side
    cases action with
    | take =>
        obtain ⟨other, _, again, free⟩ := enabled
        rw [left] at again
        cases again
        exact free taken
    | giveBack =>
        have done := enabled.1
        rw [left] at done
        cases done

theorem blocked_of_deadlocked (deadlocked : Deadlocked orders state) (side : Bool) :
    ∃ next rest, (state side).rest = next :: rest ∧ next ∈ (state !side).held := by
  obtain ⟨⟨waiting, left⟩, stuck⟩ := deadlocked
  -- whoever has a lock to take waits for the other, who therefore has one to take
  have blocked : ∀ side, (state side).rest ≠ [] →
      ∃ next rest, (state side).rest = next :: rest ∧ next ∈ (state !side).held := by
    intro side left
    cases rest : (state side).rest with
    | nil => exact absurd rest left
    | cons next others =>
        refine ⟨next, others, rfl, ?_⟩
        by_contra free
        exact stuck (side, .take) ⟨next, others, rest, free⟩
  have other : (state !waiting).rest ≠ [] := by
    intro done
    obtain ⟨next, _, _, taken⟩ := blocked waiting left
    exact stuck (!waiting, .giveBack) ⟨done, List.ne_nil_of_mem taken⟩
  by_cases same : side = waiting
  · rw [same]
    exact blocked waiting left
  · have opposite : side = !waiting := by
      cases side <;> cases waiting <;> simp_all
    rw [opposite]
    exact blocked _ other

variable [DecidableEq κ]

/-- The first lock of a thread that the other one takes too. -/
def firstShared (own other : List κ) : Option κ := own.find? fun lock => lock ∈ other

/-- What a thread holds of the other's locks begins with the first that they share. -/
theorem firstShared_mem_held {own other held rest : List κ} {lock : κ}
    (order : held ++ rest = own) (taken : lock ∈ held) (shared : lock ∈ other) :
    ∃ first, firstShared own other = some first ∧ first ∈ held := by
  have some : (held.find? fun lock => lock ∈ other).isSome := by
    rw [List.find?_isSome]
    exact ⟨lock, taken, decide_eq_true shared⟩
  obtain ⟨first, found⟩ := Option.isSome_iff_exists.mp some
  refine ⟨first, ?_, List.mem_of_find?_eq_some found⟩
  rw [firstShared, ← order, List.find?_append, found]
  rfl

theorem firstShared_eq_none {own other : List κ} (nothing : firstShared own other = none) :
    firstShared other own = none := by
  rw [firstShared, List.find?_eq_none] at nothing ⊢
  intro lock member shared
  exact nothing lock (of_decide_eq_true shared) (decide_eq_true member)

/-- Before the first shared lock a thread takes none of the other's, and where the two begin with
different ones, it takes the other's later. -/
theorem split_of_different {own other : List κ} {first second : κ}
    (ownFirst : firstShared own other = some first)
    (otherFirst : firstShared other own = some second) (different : first ≠ second) :
    ∃ front back, own = front ++ first :: back ∧ (∀ lock ∈ front, lock ∉ other) ∧
      second ∈ back := by
  obtain ⟨_, front, back, split, apart⟩ := List.find?_eq_some_iff_append.mp ownFirst
  have unshared : ∀ lock ∈ front, lock ∉ other := by
    intro lock member shared
    have none := apart lock member
    rw [decide_eq_true shared] at none
    cases none
  have shared := List.find?_some otherFirst
  have inOwn : second ∈ own := of_decide_eq_true shared
  refine ⟨front, back, split, unshared, ?_⟩
  rw [split] at inOwn
  rcases List.mem_append.mp inOwn with early | rest
  · exact absurd (List.mem_of_find?_eq_some otherFirst) (unshared second early)
  · rcases List.mem_cons.mp rest with same | later
    · exact absurd same.symm different
    · exact later

theorem different_of_ne {own other : List κ}
    (different : firstShared own other ≠ firstShared other own) :
    ∃ first second, firstShared own other = some first ∧ firstShared other own = some second ∧
      first ≠ second := by
  cases found : firstShared own other with
  | none =>
      rw [found, firstShared_eq_none found] at different
      exact absurd rfl different
  | some first =>
      cases matching : firstShared other own with
      | none =>
          rw [matching, firstShared_eq_none matching] at different
          exact absurd rfl different
      | some second =>
          refine ⟨first, second, rfl, rfl, fun same => different ?_⟩
          rw [found, matching, same]

/-- Two threads that take their locks in these orders can wait for each other for ever exactly if the
first lock that they share is not the same in both orders. -/
theorem canDeadlock_iff (orders : Bool → List κ) :
    CanDeadlock orders ↔
      firstShared (orders true) (orders false) ≠ firstShared (orders false) (orders true) := by
  constructor
  · rintro ⟨state, reachable, deadlocked⟩ same
    have inOrder := inOrder_of_reachable reachable
    have blocked := blocked_of_deadlocked deadlocked
    have order : ∀ side, (state side).held ++ (state side).rest = orders side := by
      intro side
      rcases inOrder.order side with order | done
      · exact order
      · obtain ⟨_, _, left, _⟩ := blocked side
        rw [done] at left
        cases left
    -- each holds a lock of the other's, so it holds the first that they share
    have first : ∀ side, ∃ first, firstShared (orders side) (orders !side) = some first ∧
        first ∈ (state side).held := by
      intro side
      obtain ⟨next, rest, left, taken⟩ := blocked !side
      rw [Bool.not_not] at taken
      refine firstShared_mem_held (order side) taken ?_
      rw [← order !side, left]
      exact List.mem_append_right _ List.mem_cons_self
    obtain ⟨one, oneFirst, oneHeld⟩ := first true
    obtain ⟨two, twoFirst, twoHeld⟩ := first false
    have equal : one = two := by
      rw [Bool.not_true] at oneFirst
      rw [Bool.not_false, ← same, oneFirst] at twoFirst
      exact Option.some.inj twoFirst
    rw [← equal] at twoHeld
    exact inOrder.apart true one oneHeld twoHeld
  · intro different
    obtain ⟨one, two, oneFirst, twoFirst, apart⟩ := different_of_ne different
    obtain ⟨oneFront, oneBack, oneSplit, oneApart, twoLater⟩ :=
      split_of_different oneFirst twoFirst apart
    obtain ⟨twoFront, twoBack, twoSplit, twoApart, oneLater⟩ :=
      split_of_different twoFirst oneFirst apart.symm
    have twoShared : two ∈ orders false := List.mem_of_find?_eq_some twoFirst
    -- each takes the first lock that they share in its own order
    have started : (takers orders).Reachable (fun _ _ => True) fun side => ⟨[], orders side⟩ :=
      .start fun _ => rfl
    have oneLeft : orders true = (oneFront ++ [one]) ++ oneBack := by
      rw [List.append_assoc]
      exact oneSplit
    have twoLeft : orders false = (twoFront ++ [two]) ++ twoBack := by
      rw [List.append_assoc]
      exact twoSplit
    have twoFree : ∀ lock ∈ twoFront ++ [two], lock ∉ oneFront ++ [one] := by
      intro lock member held
      rcases List.mem_append.mp member with front | last
      · refine twoApart lock front ?_
        rw [oneLeft]
        exact List.mem_append_left _ held
      · rw [List.mem_singleton.mp last] at held
        rcases List.mem_append.mp held with front | same
        · exact oneApart two front twoShared
        · exact apart (List.mem_singleton.mp same).symm
    have oneTaken := reachable_advance true started oneLeft fun _ _ => List.not_mem_nil
    have bothTaken := reachable_advance false oneTaken twoLeft twoFree
    -- then each goes on to the one that the other has taken
    obtain ⟨third, thirdReachable, trueBlocked, trueKeeps, falseSame⟩ :=
      reachable_blocked true bothTaken twoLater
        (List.mem_append_right _ (List.mem_append_right _ (List.mem_singleton_self two)))
    rw [Bool.not_true] at falseSame
    have left : (third false).rest = twoBack := congrArg Taking.rest falseSame
    obtain ⟨last, lastReachable, falseBlocked, falseKeeps, trueSame⟩ :=
      reachable_blocked false thirdReachable (left.symm ▸ oneLater)
        (trueKeeps one (List.mem_append_right _ (List.mem_append_right _
          (List.mem_singleton_self one))))
    rw [Bool.not_false] at trueSame
    refine ⟨last, lastReachable, deadlocked_of_blocked fun side => ?_⟩
    cases side with
    | false =>
        rw [Bool.not_false, trueSame]
        exact falseBlocked
    | true =>
        obtain ⟨next, rest, others, taken⟩ := trueBlocked
        have held : next ∈ (third false).held := by
          rw [falseSame]
          exact taken
        refine ⟨next, rest, ?_, falseKeeps next held⟩
        rw [trueSame]
        exact others

/-- Orders that agree with one relation cannot deadlock. -/
theorem not_canDeadlock_of_sorted (before : κ → κ → Prop) (asymm : ∀ first second,
    before first second → ¬ before second first)
    (sorted : ∀ side, (orders side).Pairwise before) : ¬ CanDeadlock orders := by
  rw [canDeadlock_iff]
  intro different
  obtain ⟨one, two, oneFirst, twoFirst, apart⟩ := different_of_ne different
  obtain ⟨oneFront, oneBack, oneSplit, _, twoLater⟩ := split_of_different oneFirst twoFirst apart
  obtain ⟨twoFront, twoBack, twoSplit, _, oneLater⟩ :=
    split_of_different twoFirst oneFirst apart.symm
  have firstSorted := sorted true
  have secondSorted := sorted false
  rw [oneSplit] at firstSorted
  rw [twoSplit] at secondSorted
  have oneBefore := List.rel_of_pairwise_cons (List.pairwise_append.mp firstSorted).2.1 twoLater
  have twoBefore := List.rel_of_pairwise_cons (List.pairwise_append.mp secondSorted).2.1 oneLater
  exact asymm one two oneBefore twoBefore

end LockOrder
