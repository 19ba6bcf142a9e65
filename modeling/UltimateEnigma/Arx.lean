import Mathlib.Data.Set.Function
import Mathlib.Data.Vector.Basic

set_option autoImplicit false

/- Straight-line programs of additions, exclusive ors and rotations over registers, on machine
words and on integers without a bound that are masked where a word would overflow. -/
namespace Arx

inductive Instr (n : Nat) where
  | add (dst src : Fin n)
  | xor (dst src : Fin n)
  | rotl (dst : Fin n) (amount : Nat)
deriving DecidableEq, Repr

abbrev Program (n : Nat) : Type := List (Instr n)

/-- What the instructions do to the values of two registers. -/
structure Ops (α : Type) where
  add : α → α → α
  xor : α → α → α
  rotl : α → Nat → α

variable {α : Type} {k n w : Nat}

namespace Ops

def word (w : Nat) : Ops (BitVec w) where
  add := (· + ·)
  xor := (· ^^^ ·)
  rotl := BitVec.rotateLeft

/-- The sum and the shift are masked; an exclusive or does not leave the range of its operands. -/
def masked (w : Nat) : Ops Nat where
  add x y := (x + y) &&& (2 ^ w - 1)
  xor x y := x ^^^ y
  rotl x amount := ((x <<< amount) ||| (x >>> (w - amount))) &&& (2 ^ w - 1)

end Ops

namespace Instr

/-- The register that is written. -/
def dst : Instr n → Fin n
  | add dst _ | xor dst _ | rotl dst _ => dst

/-- A register is not added to itself, and a rotation is by less than a word. -/
def Proper (w : Nat) : Instr n → Prop
  | add dst src | xor dst src => dst ≠ src
  | rotl _ amount => amount < w

instance : DecidablePred (Proper (n := n) w)
  | add dst src | xor dst src => inferInstanceAs (Decidable (dst ≠ src))
  | rotl _ amount => inferInstanceAs (Decidable (amount < w))

def exec (ops : Ops α) : Instr n → Vector α n → Vector α n
  | add dst src, state => state.set dst (ops.add state[dst] state[src])
  | xor dst src, state => state.set dst (ops.xor state[dst] state[src])
  | rotl dst amount, state => state.set dst (ops.rotl state[dst] amount)

def rename (place : Fin k → Fin n) : Instr k → Instr n
  | add dst src => add (place dst) (place src)
  | xor dst src => xor (place dst) (place src)
  | rotl dst amount => rotl (place dst) amount

end Instr

namespace Program

def Proper (w : Nat) (program : Program n) : Prop := ∀ instr ∈ program, instr.Proper w

instance (program : Program n) : Decidable (program.Proper w) :=
  inferInstanceAs (Decidable (∀ instr ∈ program, instr.Proper w))

def run (ops : Ops α) (program : Program n) (state : Vector α n) : Vector α n :=
  program.foldl (fun state instr => instr.exec ops state) state

def rename (place : Fin k → Fin n) (program : Program k) : Program n :=
  program.map (Instr.rename place)

end Program

/-- The registers of a part of the state. -/
def gather (place : Fin k → Fin n) (state : Vector α n) : Vector α k :=
  Vector.ofFn fun i => state[place i]

section Running

variable {ops : Ops α} {state : Vector α n}

theorem ext_registers {first second : Vector α n} (same : ∀ i : Fin n, first[i] = second[i]) :
    first = second :=
  Vector.ext fun i below => same ⟨i, below⟩

theorem getElem_set_apart {i j : Fin n} (apart : i ≠ j) (value : α) :
    (state.set i value)[j] = state[j] :=
  Vector.getElem_set_ne i.isLt j.isLt fun same => apart (Fin.ext same)

/-- Writing a register twice, the second time what it held. -/
theorem set_set_back (state : Vector α n) (i : Fin n) (value : α) :
    (state.set i value).set i state[i] = state := by
  rw [Vector.set_set, Fin.getElem_fin, Vector.set_getElem_self]

theorem Instr.exec_frame {instr : Instr n} {i : Fin n} (apart : instr.dst ≠ i) :
    (instr.exec ops state)[i] = state[i] := by
  cases instr with
  | add dst src => exact getElem_set_apart apart _
  | xor dst src => exact getElem_set_apart apart _
  | rotl dst amount => exact getElem_set_apart apart _

@[simp] theorem getElem_gather (place : Fin k → Fin n) (state : Vector α n) (i : Fin k) :
    (gather place state)[i] = state[place i] := by
  rw [gather, Fin.getElem_fin, Vector.getElem_ofFn]

theorem gather_set {place : Fin k → Fin n} (injective : place.Injective) (i : Fin k) (value : α) :
    gather place (state.set (place i) value) = (gather place state).set i value := by
  apply ext_registers
  intro j
  rw [getElem_gather]
  by_cases same : i = j
  · subst same
    rw [Fin.getElem_fin, Fin.getElem_fin, Vector.getElem_set_self, Vector.getElem_set_self]
  · rw [getElem_set_apart same, getElem_set_apart (injective.ne same), getElem_gather]

/-- Two states that agree on a part and beside it. -/
theorem eq_of_gather {place : Fin k → Fin n} {first second : Vector α n}
    (inside : gather place first = gather place second)
    (beside : ∀ i, (∀ j, place j ≠ i) → first[i] = second[i]) : first = second := by
  apply ext_registers
  intro i
  by_cases held : ∃ j, place j = i
  · obtain ⟨j, rfl⟩ := held
    rw [← getElem_gather, ← getElem_gather, inside]
  · exact beside i fun j same => held ⟨j, same⟩

theorem Instr.gather_exec {place : Fin k → Fin n} (injective : place.Injective)
    (instr : Instr k) :
    gather place ((instr.rename place).exec ops state) = instr.exec ops (gather place state) := by
  cases instr <;> simp only [rename, exec, gather_set injective, getElem_gather]

namespace Program

theorem run_append (first second : Program n) (state : Vector α n) :
    run ops (first ++ second) state = run ops second (run ops first state) := List.foldl_append

theorem proper_append {first second : Program n} :
    Proper w (first ++ second) ↔ Proper w first ∧ Proper w second := List.forall_mem_append

theorem run_repeat (program : Program n) (times : Nat) (state : Vector α n) :
    run ops (List.replicate times program).flatten state = (run ops program)^[times] state := by
  induction times generalizing state with
  | zero => rfl
  | succ times ih =>
      rw [List.replicate_succ, List.flatten_cons, run_append, ih, Function.iterate_succ_apply]

theorem proper_repeat {program : Program n} (proper : program.Proper w) (times : Nat) :
    Proper w (List.replicate times program).flatten := by
  intro instr member
  obtain ⟨copy, copied, here⟩ := List.mem_flatten.mp member
  rw [List.eq_of_mem_replicate copied] at here
  exact proper instr here

/-- Registers that no instruction writes. -/
theorem run_frame {program : Program n} {i : Fin n}
    (apart : ∀ instr ∈ program, instr.dst ≠ i) : (program.run ops state)[i] = state[i] := by
  induction program generalizing state with
  | nil => rfl
  | cons instr rest ih =>
      rw [List.forall_mem_cons] at apart
      exact (ih apart.2).trans (Instr.exec_frame apart.1)

/-- A program on renamed registers does to them what it does to registers of its own. -/
theorem gather_run {place : Fin k → Fin n} (injective : place.Injective) (program : Program k) :
    gather place ((program.rename place).run ops state) =
      program.run ops (gather place state) := by
  induction program generalizing state with
  | nil => rfl
  | cons instr rest ih =>
      have stepped : gather place ((rename place rest).run ops
          ((instr.rename place).exec ops state)) = _ := ih
      rw [Instr.gather_exec injective] at stepped
      exact stepped

/-- A program on renamed registers writes no other register. -/
theorem run_rename_frame (place : Fin k → Fin n) (program : Program k) {i : Fin n}
    (apart : ∀ j, place j ≠ i) : ((program.rename place).run ops state)[i] = state[i] := by
  apply run_frame
  intro instr member
  obtain ⟨own, _, rfl⟩ := List.mem_map.mp member
  cases own with
  | add dst src => exact apart dst
  | xor dst src => exact apart dst
  | rotl dst amount => exact apart dst

theorem proper_rename {place : Fin k → Fin n} (injective : place.Injective) {program : Program k}
    (proper : program.Proper w) : (program.rename place).Proper w := by
  intro instr member
  obtain ⟨own, there, rfl⟩ := List.mem_map.mp member
  have fine := proper own there
  cases own with
  | add dst src => exact injective.ne fine
  | xor dst src => exact injective.ne fine
  | rotl dst amount => exact fine

end Program

end Running

section Undoing

theorem rotateRight_rotateLeft (word : BitVec w) (amount : Nat) :
    (word.rotateLeft amount).rotateRight amount = word := by
  ext i below
  have small : amount % w < w := Nat.mod_lt _ (by omega)
  rw [BitVec.getElem_rotateRight]
  by_cases low : i < w - amount % w
  · rw [dif_pos low, BitVec.getElem_rotateLeft, dif_neg (by omega)]
    congr 1
    omega
  · rw [dif_neg low, BitVec.getElem_rotateLeft, dif_pos (by omega)]
    congr 1
    omega

theorem rotateLeft_rotateRight (word : BitVec w) (amount : Nat) :
    (word.rotateRight amount).rotateLeft amount = word := by
  ext i below
  have small : amount % w < w := Nat.mod_lt _ (by omega)
  rw [BitVec.getElem_rotateLeft]
  by_cases low : i < amount % w
  · rw [dif_pos low, BitVec.getElem_rotateRight, dif_neg (by omega)]
    congr 1
    omega
  · rw [dif_neg low, BitVec.getElem_rotateRight, dif_pos (by omega)]
    congr 1
    omega

namespace Instr

/-- An instruction is undone by subtracting, by the same exclusive or, or by rotating back. -/
def undo : Instr n → Vector (BitVec w) n → Vector (BitVec w) n
  | add dst src, words => words.set dst (words[dst] - words[src])
  | xor dst src, words => words.set dst (words[dst] ^^^ words[src])
  | rotl dst amount, words => words.set dst (words[dst].rotateRight amount)

theorem undo_exec {instr : Instr n} (proper : instr.Proper w) (words : Vector (BitVec w) n) :
    instr.undo (instr.exec (.word w) words) = words := by
  cases instr with
  | add dst src =>
      have apart : (dst : Nat) ≠ src := fun same => proper (Fin.ext same)
      simp only [exec, undo, Ops.word, Fin.getElem_fin, Vector.getElem_set_self,
        Vector.getElem_set_ne _ _ apart, BitVec.add_sub_cancel]
      exact set_set_back words dst _
  | xor dst src =>
      have apart : (dst : Nat) ≠ src := fun same => proper (Fin.ext same)
      simp only [exec, undo, Ops.word, Fin.getElem_fin, Vector.getElem_set_self,
        Vector.getElem_set_ne _ _ apart, BitVec.xor_assoc, BitVec.xor_self, BitVec.xor_zero]
      exact set_set_back words dst _
  | rotl dst amount =>
      simp only [exec, undo, Ops.word, Fin.getElem_fin, Vector.getElem_set_self,
        rotateRight_rotateLeft]
      exact set_set_back words dst _

theorem exec_undo {instr : Instr n} (proper : instr.Proper w) (words : Vector (BitVec w) n) :
    instr.exec (.word w) (instr.undo words) = words := by
  cases instr with
  | add dst src =>
      have apart : (dst : Nat) ≠ src := fun same => proper (Fin.ext same)
      simp only [exec, undo, Ops.word, Fin.getElem_fin, Vector.getElem_set_self,
        Vector.getElem_set_ne _ _ apart, BitVec.sub_add_cancel]
      exact set_set_back words dst _
  | xor dst src =>
      have apart : (dst : Nat) ≠ src := fun same => proper (Fin.ext same)
      simp only [exec, undo, Ops.word, Fin.getElem_fin, Vector.getElem_set_self,
        Vector.getElem_set_ne _ _ apart, BitVec.xor_assoc, BitVec.xor_self, BitVec.xor_zero]
      exact set_set_back words dst _
  | rotl dst amount =>
      simp only [exec, undo, Ops.word, Fin.getElem_fin, Vector.getElem_set_self,
        rotateLeft_rotateRight]
      exact set_set_back words dst _

theorem exec_bijective {instr : Instr n} (proper : instr.Proper w) :
    Function.Bijective (instr.exec (.word w)) :=
  Function.bijective_iff_has_inverse.mpr ⟨instr.undo, undo_exec proper, exec_undo proper⟩

end Instr

theorem Program.run_bijective {program : Program n} (proper : program.Proper w) :
    Function.Bijective (program.run (.word w)) := by
  induction program with
  | nil => exact Function.bijective_id
  | cons instr rest ih =>
      rw [Program.Proper, List.forall_mem_cons] at proper
      exact (ih proper.2).comp (Instr.exec_bijective proper.1)

end Undoing

section Unbounded

/-- All numbers fit into a word. -/
def InRange (w : Nat) (state : Vector Nat n) : Prop := ∀ i : Fin n, state[i] < 2 ^ w

def toWords (w : Nat) (state : Vector Nat n) : Vector (BitVec w) n := state.map (BitVec.ofNat w)

def ofWords (words : Vector (BitVec w) n) : Vector Nat n := words.map BitVec.toNat

theorem ofWords_inRange (words : Vector (BitVec w) n) : InRange w (ofWords words) := by
  intro i
  simp only [ofWords, Fin.getElem_fin, Vector.getElem_map]
  exact BitVec.isLt _

theorem toWords_ofWords (words : Vector (BitVec w) n) : toWords w (ofWords words) = words := by
  ext i below
  simp only [toWords, ofWords, Vector.getElem_map, BitVec.ofNat_toNat, BitVec.setWidth_eq]

theorem ofWords_toWords {state : Vector Nat n} (fits : InRange w state) :
    ofWords (toWords w state) = state := by
  ext i below
  simp only [toWords, ofWords, Vector.getElem_map, BitVec.toNat_ofNat]
  exact Nat.mod_eq_of_lt (fits ⟨i, below⟩)

theorem toWords_bijOn : Set.BijOn (toWords w) {state : Vector Nat n | InRange w state} Set.univ :=
  Set.InvOn.bijOn ⟨fun _ fits => ofWords_toWords fits, fun words _ => toWords_ofWords words⟩
    (fun _ _ => trivial) (fun words _ => ofWords_inRange words)

theorem ofWords_bijOn :
    Set.BijOn (ofWords (w := w)) Set.univ {state : Vector Nat n | InRange w state} :=
  Set.InvOn.bijOn ⟨fun words _ => toWords_ofWords words, fun _ fits => ofWords_toWords fits⟩
    (fun words _ => ofWords_inRange words) (fun _ _ => trivial)

theorem InRange.set {state : Vector Nat n} (fits : InRange w state) (i : Fin n) {value : Nat}
    (small : value < 2 ^ w) : InRange w (state.set i value) := by
  intro j
  rw [Fin.getElem_fin, Vector.getElem_set]
  split
  · exact small
  · exact fits j

theorem InRange.append {m : Nat} {first : Vector Nat m} {second : Vector Nat n}
    (left : InRange w first) (right : InRange w second) : InRange w (first ++ second) := by
  intro i
  rw [Fin.getElem_fin, Vector.getElem_append]
  split
  · rename_i below
    exact left ⟨i, below⟩
  · rename_i above
    exact right ⟨i - m, by omega⟩

theorem and_mask_lt (value : Nat) : value &&& (2 ^ w - 1) < 2 ^ w := by
  rw [Nat.and_two_pow_sub_one_eq_mod]
  exact Nat.mod_lt _ (Nat.two_pow_pos w)

theorem ofNat_and_mask (value : Nat) :
    BitVec.ofNat w (value &&& (2 ^ w - 1)) = BitVec.ofNat w value := by
  apply BitVec.eq_of_toNat_eq
  rw [Nat.and_two_pow_sub_one_eq_mod, BitVec.toNat_ofNat, BitVec.toNat_ofNat, Nat.mod_mod]

/-- Shifting out to the left and in again from the right, under a mask, rotates a word. -/
theorem ofNat_rotl {value amount : Nat} (fits : value < 2 ^ w) (small : amount < w) :
    BitVec.ofNat w ((Ops.masked w).rotl value amount) =
      (BitVec.ofNat w value).rotateLeft amount := by
  have shifted : value >>> (w - amount) < 2 ^ w :=
    Nat.lt_of_le_of_lt (Nat.shiftRight_le _ _) fits
  apply BitVec.eq_of_toNat_eq
  rw [Ops.masked, ofNat_and_mask, BitVec.toNat_rotateLeft, BitVec.toNat_ofNat, BitVec.toNat_ofNat,
    Nat.or_mod_two_pow, Nat.mod_eq_of_lt shifted, Nat.mod_eq_of_lt fits, Nat.mod_eq_of_lt small]

namespace Instr

/-- No instruction leaves the range, also not the one without a mask. -/
theorem exec_inRange (instr : Instr n) {state : Vector Nat n} (fits : InRange w state) :
    InRange w (instr.exec (.masked w) state) := by
  cases instr with
  | add dst src => exact fits.set dst (and_mask_lt _)
  | xor dst src => exact fits.set dst (Nat.xor_lt_two_pow (fits dst) (fits src))
  | rotl dst amount => exact fits.set dst (and_mask_lt _)

/-- The masked instruction is the instruction on words. -/
theorem toWords_exec {instr : Instr n} (proper : instr.Proper w) {state : Vector Nat n}
    (fits : InRange w state) :
    toWords w (instr.exec (.masked w) state) = instr.exec (.word w) (toWords w state) := by
  cases instr with
  | add dst src =>
      simp only [toWords, exec, Ops.masked, Ops.word, Vector.map_set, ofNat_and_mask,
        Fin.getElem_fin, Vector.getElem_map, BitVec.ofNat_add]
  | xor dst src =>
      simp only [toWords, exec, Ops.masked, Ops.word, Vector.map_set, Fin.getElem_fin,
        Vector.getElem_map, BitVec.ofNat_xor]
  | rotl dst amount =>
      have rotated := ofNat_rotl (fits dst) proper
      rw [Fin.getElem_fin] at rotated
      simp only [toWords, exec, Ops.word, Vector.map_set, Fin.getElem_fin, Vector.getElem_map,
        rotated]

end Instr

namespace Program

variable {program : Program n} {state : Vector Nat n}

theorem run_inRange (program : Program n) (fits : InRange w state) :
    InRange w (program.run (.masked w) state) := by
  induction program generalizing state with
  | nil => exact fits
  | cons instr rest ih => exact ih (instr.exec_inRange fits)

theorem toWords_run (proper : program.Proper w) (fits : InRange w state) :
    toWords w (program.run (.masked w) state) = program.run (.word w) (toWords w state) := by
  induction program generalizing state with
  | nil => rfl
  | cons instr rest ih =>
      rw [Program.Proper, List.forall_mem_cons] at proper
      have stepped : toWords w (run (.masked w) rest (instr.exec (.masked w) state)) =
          run (.word w) rest (toWords w (instr.exec (.masked w) state)) :=
        ih proper.2 (instr.exec_inRange fits)
      rw [Instr.toWords_exec proper.1 fits] at stepped
      exact stepped

/-- On numbers that fit into words, the masked program is the program on words. -/
theorem run_masked (proper : program.Proper w) (fits : InRange w state) :
    program.run (.masked w) state = ofWords (program.run (.word w) (toWords w state)) := by
  rw [← toWords_run proper fits, ofWords_toWords (program.run_inRange fits)]

theorem run_bijOn (proper : program.Proper w) :
    Set.BijOn (program.run (.masked w)) {state | InRange w state} {state | InRange w state} :=
  (ofWords_bijOn.comp ((Set.bijOn_univ.mpr (program.run_bijective proper)).comp
    toWords_bijOn)).congr fun _ fits => (run_masked proper fits).symm

end Program

end Unbounded

end Arx
