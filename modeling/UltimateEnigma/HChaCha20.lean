import UltimateEnigma.Arx
import UltimateEnigma.Py.Call
import UltimateEnigma.Py.LittleEndian
import Mathlib.Tactic.IntervalCases

set_option autoImplicit false

namespace UltimateEnigma.HChaCha20

open Py Arx

def mask32 : Nat := 0xFFFFFFFF

/-- `_rotl32`. The shift to the left leaves the 32 bits, the mask comes last. -/
def rotl32 (v n : Nat) : Nat := ((v <<< n) ||| (v >>> (32 - n))) &&& mask32

/-- The list of sixteen Python integers. -/
abbrev State : Type := Vector Nat 16

/-- The lines of `_quarter_round`, each an assignment to one element of the list. -/
def quarterRoundLines (a b c d : Fin 16) : List (State → State) := [
  fun state => state.set a ((state[a] + state[b]) &&& mask32),
  fun state => state.set d (state[d] ^^^ state[a]),
  fun state => state.set d (rotl32 state[d] 16),
  fun state => state.set c ((state[c] + state[d]) &&& mask32),
  fun state => state.set b (state[b] ^^^ state[c]),
  fun state => state.set b (rotl32 state[b] 12),
  fun state => state.set a ((state[a] + state[b]) &&& mask32),
  fun state => state.set d (state[d] ^^^ state[a]),
  fun state => state.set d (rotl32 state[d] 8),
  fun state => state.set c ((state[c] + state[d]) &&& mask32),
  fun state => state.set b (state[b] ^^^ state[c]),
  fun state => state.set b (rotl32 state[b] 7)]

def runLines (lines : List (State → State)) (state : State) : State :=
  lines.foldl (fun state line => line state) state

/-- `_quarter_round`. -/
def quarterRound (state : State) (a b c d : Fin 16) : State :=
  runLines (quarterRoundLines a b c d) state

def chacha20Constants : Vector Nat 4 := #v[0x61707865, 0x3320646E, 0x79622D32, 0x6B206574]

inductive Raised where
  | valueError (message : String)
  | structError
deriving DecidableEq, Repr

def orStructError {α : Type} : Option α → Except Raised α
  | some value => .ok value
  | none => .error .structError

/-- The body of the loop: four column rounds and four diagonal rounds. -/
def doubleRound (state : State) : State :=
  let state := quarterRound state 0 4 8 12
  let state := quarterRound state 1 5 9 13
  let state := quarterRound state 2 6 10 14
  let state := quarterRound state 3 7 11 15
  let state := quarterRound state 0 5 10 15
  let state := quarterRound state 1 6 11 12
  let state := quarterRound state 2 7 8 13
  quarterRound state 3 4 9 14

/-- `_hchacha20_block` up to the loop. -/
def initialState (key nonce : Bytes) : Except Raised State :=
  if key.length ≠ 32 then
    .error (.valueError ("HChaCha20 key must be 32 bytes, got " ++ toString key.length))
  else if nonce.length ≠ 16 then
    .error (.valueError ("HChaCha20 nonce must be 16 bytes, got " ++ toString nonce.length))
  else do
    let keyWords ← orStructError (unpackWords 8 key)
    let nonceWords ← orStructError (unpackWords 4 nonce)
    return chacha20Constants ++ keyWords ++ nonceWords

/-- `_hchacha20_block`. -/
def hchacha20Block (key nonce : Bytes) : Except Raised Bytes := do
  let state ← initialState key nonce
  let state := (List.range 10).foldl (fun state _ => doubleRound state) state
  orStructError (packWords (state.extract 0 4 ++ state.extract 12 16))

namespace Reference

abbrev Word : Type := BitVec 32

/-- RFC 8439, section 2.1. -/
def quarterRound (a b c d : Word) : Word × Word × Word × Word :=
  let a := a + b
  let d := (d ^^^ a).rotateLeft 16
  let c := c + d
  let b := (b ^^^ c).rotateLeft 12
  let a := a + b
  let d := (d ^^^ a).rotateLeft 8
  let c := c + d
  let b := (b ^^^ c).rotateLeft 7
  (a, b, c, d)

/-- Four words of the state are replaced. -/
def write (words : Vector Word 16) (x y z w : Fin 16) : Word × Word × Word × Word → Vector Word 16
  | (a, b, c, d) => (((words.set x a).set y b).set z c).set w d

/-- `QUARTERROUND(x, y, z, w)`. -/
def quarterRoundAt (words : Vector Word 16) (x y z w : Fin 16) : Vector Word 16 :=
  write words x y z w (quarterRound words[x] words[y] words[z] words[w])

def innerBlock (words : Vector Word 16) : Vector Word 16 :=
  let words := quarterRoundAt words 0 4 8 12
  let words := quarterRoundAt words 1 5 9 13
  let words := quarterRoundAt words 2 6 10 14
  let words := quarterRoundAt words 3 7 11 15
  let words := quarterRoundAt words 0 5 10 15
  let words := quarterRoundAt words 1 6 11 12
  let words := quarterRoundAt words 2 7 8 13
  quarterRoundAt words 3 4 9 14

def constants : Vector Word 4 := #v[0x61707865, 0x3320646E, 0x79622D32, 0x6B206574]

def initialWords (key nonce : Bytes) : Vector Word 16 :=
  constants ++ Vector.ofFn (fun i : Fin 8 => wordAt key i) ++
    Vector.ofFn (fun i : Fin 4 => wordAt nonce i)

def hchacha20 (key nonce : Bytes) : Bytes :=
  let words := innerBlock^[10] (initialWords key nonce)
  [words[0], words[1], words[2], words[3], words[12], words[13], words[14], words[15]].flatMap
    wordBytes

end Reference

section Programs

/-- The twelve assignments of a quarter round, on registers of their own. -/
def quarter : Program 4 :=
  [.add 0 1, .xor 3 0, .rotl 3 16, .add 2 3, .xor 1 2, .rotl 1 12,
    .add 0 1, .xor 3 0, .rotl 3 8, .add 2 3, .xor 1 2, .rotl 1 7]

def quarterProgram (a b c d : Fin 16) : Program 16 := quarter.rename [a, b, c, d].get

def doubleRoundProgram : Program 16 :=
  quarterProgram 0 4 8 12 ++ (quarterProgram 1 5 9 13 ++ (quarterProgram 2 6 10 14 ++
    (quarterProgram 3 7 11 15 ++ (quarterProgram 0 5 10 15 ++ (quarterProgram 1 6 11 12 ++
      (quarterProgram 2 7 8 13 ++ quarterProgram 3 4 9 14))))))

def roundsProgram : Program 16 := (List.replicate 10 doubleRoundProgram).flatten

/-- Every line of the ten double rounds, in the order in which they run. -/
def roundLines : List (State → State) :=
  (List.replicate 10
    (quarterRoundLines 0 4 8 12 ++ (quarterRoundLines 1 5 9 13 ++ (quarterRoundLines 2 6 10 14 ++
      (quarterRoundLines 3 7 11 15 ++ (quarterRoundLines 0 5 10 15 ++
        (quarterRoundLines 1 6 11 12 ++ (quarterRoundLines 2 7 8 13 ++
          quarterRoundLines 3 4 9 14)))))))).flatten

theorem runLines_exec (program : Program 16) (state : State) :
    runLines (program.map (Instr.exec (.masked 32))) state = program.run (.masked 32) state :=
  List.foldl_map

/-- The lines are the instructions on masked integers. -/
theorem quarterRoundLines_eq (a b c d : Fin 16) :
    quarterRoundLines a b c d = (quarterProgram a b c d).map (Instr.exec (.masked 32)) := rfl

theorem roundLines_eq : roundLines = roundsProgram.map (Instr.exec (.masked 32)) := by
  simp only [roundLines, roundsProgram, doubleRoundProgram, quarterRoundLines_eq, List.map_flatten,
    List.map_replicate, List.map_append]

theorem quarterRound_eq (state : State) (a b c d : Fin 16) :
    quarterRound state a b c d = (quarterProgram a b c d).run (.masked 32) state := by
  rw [quarterRound, quarterRoundLines_eq, runLines_exec]

theorem doubleRound_eq (state : State) :
    doubleRound state = doubleRoundProgram.run (.masked 32) state := by
  simp only [doubleRound, quarterRound_eq, doubleRoundProgram, Program.run_append]

theorem foldl_doubleRound (state : State) :
    (List.range 10).foldl (fun state _ => doubleRound state) state =
      roundsProgram.run (.masked 32) state := by
  rw [List.foldl_const, List.length_range, roundsProgram, Program.run_repeat]
  exact congrArg (fun step => step^[10] state) (funext doubleRound_eq)

theorem quarter_proper : quarter.Proper 32 := by decide

theorem quarterProgram_proper {a b c d : Fin 16} (distinct : [a, b, c, d].Nodup) :
    (quarterProgram a b c d).Proper 32 :=
  Program.proper_rename (List.nodup_iff_injective_get.mp distinct) quarter_proper

theorem roundsProgram_proper : roundsProgram.Proper 32 := by
  refine Program.proper_repeat ?_ 10
  simp only [doubleRoundProgram, Program.proper_append]
  refine ⟨?_, ?_, ?_, ?_, ?_, ?_, ?_, ?_⟩ <;> exact quarterProgram_proper (by decide)

section Quarter

variable (a b c d : Reference.Word) (amount : Nat)

theorem exec_add_first : (Instr.add 0 1).exec (.word 32) #v[a, b, c, d] = #v[a + b, b, c, d] := rfl

theorem exec_add_third : (Instr.add 2 3).exec (.word 32) #v[a, b, c, d] = #v[a, b, c + d, d] := rfl

theorem exec_xor_fourth :
    (Instr.xor 3 0).exec (.word 32) #v[a, b, c, d] = #v[a, b, c, d ^^^ a] := rfl

theorem exec_xor_second :
    (Instr.xor 1 2).exec (.word 32) #v[a, b, c, d] = #v[a, b ^^^ c, c, d] := rfl

theorem exec_rotl_fourth : (Instr.rotl 3 amount).exec (.word 32) #v[a, b, c, d] =
    #v[a, b, c, d.rotateLeft amount] := rfl

theorem exec_rotl_second : (Instr.rotl 1 amount).exec (.word 32) #v[a, b, c, d] =
    #v[a, b.rotateLeft amount, c, d] := rfl

/-- On four words of its own the program is the quarter round of the RFC. -/
theorem quarter_run :
    quarter.run (.word 32) #v[a, b, c, d] =
      match Reference.quarterRound a b c d with
      | (a, b, c, d) => #v[a, b, c, d] := by
  simp only [quarter, Program.run, List.foldl_cons, List.foldl_nil, exec_add_first, exec_add_third,
    exec_xor_fourth, exec_xor_second, exec_rotl_fourth, exec_rotl_second, Reference.quarterRound]

end Quarter

theorem gather_write {a b c d : Fin 16} (distinct : [a, b, c, d].Nodup)
    (words : Vector Reference.Word 16) (p q r s : Reference.Word) :
    gather [a, b, c, d].get (Reference.write words a b c d (p, q, r, s)) = #v[p, q, r, s] := by
  have injective : Function.Injective [a, b, c, d].get := List.nodup_iff_injective_get.mp distinct
  have first : gather [a, b, c, d].get (words.set a p) = (gather _ words).set 0 p :=
    gather_set injective 0 p
  have second : gather [a, b, c, d].get ((words.set a p).set b q) = (gather _ _).set 1 q :=
    gather_set injective 1 q
  have third : gather [a, b, c, d].get (((words.set a p).set b q).set c r) = (gather _ _).set 2 r :=
    gather_set injective 2 r
  have fourth : gather [a, b, c, d].get ((((words.set a p).set b q).set c r).set d s) =
      (gather _ _).set 3 s := gather_set injective 3 s
  rw [Reference.write, fourth, third, second, first]
  rfl

theorem write_frame {a b c d i : Fin 16} (apart : ∀ j, [a, b, c, d].get j ≠ i)
    (words : Vector Reference.Word 16) (p q r s : Reference.Word) :
    (Reference.write words a b c d (p, q, r, s))[i] = words[i] := by
  have notFirst : a ≠ i := apart 0
  have notSecond : b ≠ i := apart 1
  have notThird : c ≠ i := apart 2
  have notFourth : d ≠ i := apart 3
  rw [Reference.write, getElem_set_apart notFourth, getElem_set_apart notThird,
    getElem_set_apart notSecond, getElem_set_apart notFirst]

/-- The assignments on four different words are the quarter round of the RFC on them. -/
theorem quarterProgram_run {a b c d : Fin 16} (distinct : [a, b, c, d].Nodup)
    (words : Vector Reference.Word 16) :
    (quarterProgram a b c d).run (.word 32) words = Reference.quarterRoundAt words a b c d := by
  have own : gather [a, b, c, d].get words = #v[words[a], words[b], words[c], words[d]] := rfl
  have inside : gather [a, b, c, d].get ((quarterProgram a b c d).run (.word 32) words) =
      gather [a, b, c, d].get (Reference.quarterRoundAt words a b c d) := by
    rw [quarterProgram, Program.gather_run (List.nodup_iff_injective_get.mp distinct), own,
      quarter_run, Reference.quarterRoundAt, gather_write distinct]
  refine eq_of_gather inside fun i apart => ?_
  rw [quarterProgram, Program.run_rename_frame _ _ apart, Reference.quarterRoundAt,
    write_frame apart]

theorem doubleRoundProgram_run (words : Vector Reference.Word 16) :
    doubleRoundProgram.run (.word 32) words = Reference.innerBlock words := by
  simp only [doubleRoundProgram, Program.run_append]
  rw [quarterProgram_run (by decide), quarterProgram_run (by decide),
    quarterProgram_run (by decide), quarterProgram_run (by decide),
    quarterProgram_run (by decide), quarterProgram_run (by decide),
    quarterProgram_run (by decide), quarterProgram_run (by decide)]
  rfl

theorem roundsProgram_run (words : Vector Reference.Word 16) :
    roundsProgram.run (.word 32) words = Reference.innerBlock^[10] words := by
  rw [roundsProgram, Program.run_repeat]
  exact congrArg (fun step => step^[10] words) (funext doubleRoundProgram_run)

end Programs

section Block

variable {key nonce : Bytes}

theorem chacha20Constants_inRange : InRange 32 chacha20Constants := by
  unfold InRange
  decide

theorem map_chacha20Constants :
    chacha20Constants.map (BitVec.ofNat 32) = Reference.constants := by
  apply Vector.ext
  intro i below
  rw [Vector.getElem_map]
  interval_cases i <;> rfl

/-- For a key and a nonce of the right lengths the state starts as the one of the reference. -/
theorem initialState_eq (keySize : key.length = 32) (nonceSize : nonce.length = 16) :
    ∃ state, initialState key nonce = .ok state ∧ InRange 32 state ∧
      toWords 32 state = Reference.initialWords key nonce := by
  obtain ⟨keyWords, keyUnpacked⟩ := unpackWords_of_length (show key.length = 4 * 8 from keySize)
  obtain ⟨nonceWords, nonceUnpacked⟩ := unpackWords_of_length (show nonce.length = 4 * 4 from nonceSize)
  refine ⟨chacha20Constants ++ keyWords ++ nonceWords, ?_, ?_, ?_⟩
  · rw [initialState, if_neg (not_not.mpr keySize), if_neg (not_not.mpr nonceSize), keyUnpacked,
      nonceUnpacked]
    rfl
  · have keyFits : InRange 32 keyWords := fun i => unpackWords_lt keyUnpacked i i.isLt
    have nonceFits : InRange 32 nonceWords := fun i => unpackWords_lt nonceUnpacked i i.isLt
    exact (chacha20Constants_inRange.append keyFits).append nonceFits
  · show (chacha20Constants ++ keyWords ++ nonceWords).map (BitVec.ofNat 32) = _
    rw [Vector.map_append, Vector.map_append, map_chacha20Constants, map_unpackWords keyUnpacked,
      map_unpackWords nonceUnpacked]
    rfl

theorem toList_outWords (words : Vector Reference.Word 16) :
    (words.extract 0 4 ++ words.extract 12 16).toList =
      [words[0], words[1], words[2], words[3], words[12], words[13], words[14], words[15]] := by
  apply List.ext_getElem
  · rw [Vector.length_toList]
    rfl
  · intro i below eight
    rw [Vector.getElem_toList, Vector.getElem_append]
    simp only [List.length_cons, List.length_nil] at eight
    split
    · rename_i low
      have small : i < 4 := by omega
      rw [Vector.getElem_extract]
      interval_cases i <;> rfl
    · rename_i high
      have large : 4 ≤ i := by omega
      rw [Vector.getElem_extract]
      interval_cases i <;> rfl

theorem packWords_outWords (words : Vector Reference.Word 16) :
    packWords ((ofWords words).extract 0 4 ++ (ofWords words).extract 12 16) =
      some ([words[0], words[1], words[2], words[3], words[12], words[13], words[14],
        words[15]].flatMap wordBytes) := by
  rw [ofWords, ← Vector.map_extract, ← Vector.map_extract, ← Vector.map_append, packWords_toNat,
    toList_outWords]

theorem hchacha20Block_eq (keySize : key.length = 32) (nonceSize : nonce.length = 16) :
    hchacha20Block key nonce = .ok (Reference.hchacha20 key nonce) := by
  obtain ⟨state, started, fits, words⟩ := initialState_eq keySize nonceSize
  have mixed : roundsProgram.run (.masked 32) state =
      ofWords (Reference.innerBlock^[10] (Reference.initialWords key nonce)) := by
    rw [Program.run_masked roundsProgram_proper fits, words, roundsProgram_run]
  have packed := packWords_outWords (Reference.innerBlock^[10] (Reference.initialWords key nonce))
  rw [← mixed, ← foldl_doubleRound] at packed
  rw [hchacha20Block, started, ok_bind]
  exact congrArg orStructError packed

/-- After every assignment of the ten double rounds the state consists of 32-bit words; the block
is the one computed on machine words; and a quarter round permutes the states of 32-bit words and
leaves the other twelve alone. -/
theorem hchacha20_exact (keySize : key.length = 32) (nonceSize : nonce.length = 16) :
    (∃ state, initialState key nonce = .ok state ∧
      (List.range 10).foldl (fun state _ => doubleRound state) state = runLines roundLines state ∧
      ∀ done rest, roundLines = done ++ rest → ∀ i : Fin 16, (runLines done state)[i] < 2 ^ 32) ∧
    hchacha20Block key nonce = .ok (Reference.hchacha20 key nonce) ∧
    ∀ a b c d : Fin 16, [a, b, c, d].Nodup →
      Set.BijOn (fun state => quarterRound state a b c d) {state | InRange 32 state}
        {state | InRange 32 state} ∧
      ∀ (state : State) (i : Fin 16), i ∉ [a, b, c, d] →
        (quarterRound state a b c d)[i] = state[i] := by
  refine ⟨?_, hchacha20Block_eq keySize nonceSize, ?_⟩
  · obtain ⟨state, started, fits, _⟩ := initialState_eq keySize nonceSize
    refine ⟨state, started, ?_, ?_⟩
    · rw [foldl_doubleRound, roundLines_eq, runLines_exec]
    · intro done rest split
      rw [roundLines_eq, List.map_eq_append_iff] at split
      obtain ⟨before, _, _, rfl, _⟩ := split
      rw [runLines_exec]
      exact Program.run_inRange before fits
  · intro a b c d distinct
    simp only [quarterRound_eq]
    refine ⟨Program.run_bijOn (quarterProgram_proper distinct), ?_⟩
    intro state i outside
    refine Program.run_rename_frame _ quarter fun j => ?_
    rintro rfl
    exact outside (List.get_mem [a, b, c, d] j)

/-- A key that counts up from zero. -/
def vectorKey : Bytes := (List.range 32).map UInt8.ofNat

def vectorNonce : Bytes := [0, 0, 0, 9, 0, 0, 0, 0x4a, 0, 0, 0, 0, 0x31, 0x41, 0x59, 0x27]

theorem vector_exact :
    hchacha20Block vectorKey vectorNonce =
      .ok [0x82, 0x41, 0x3b, 0x42, 0x27, 0xb2, 0x7b, 0xfe, 0xd3, 0x0e, 0x42, 0x50, 0x8a, 0x87, 0x7d,
        0x73, 0xa0, 0xf9, 0xe4, 0xd5, 0x8a, 0x74, 0xa8, 0x53, 0xc1, 0x2e, 0xc4, 0x13, 0x26, 0xd3,
        0xec, 0xdc] ∧
    Set.BijOn (fun state => quarterRound state 3 4 9 14) {state | InRange 32 state}
      {state | InRange 32 state} :=
  have vector := hchacha20_exact (show vectorKey.length = 32 from rfl)
    (show vectorNonce.length = 16 from rfl)
  ⟨vector.2.1.trans (by decide +kernel), (vector.2.2 3 4 9 14 (by decide)).1⟩

end Block

end UltimateEnigma.HChaCha20
