import UltimateEnigma.DoubleRatchetSteps
import UltimateEnigma.KeyTree

set_option autoImplicit false

namespace UltimateEnigma.DoubleRatchet

variable {Priv Dh Key : Type}

/-- One derivation: either half of `_hkdf_rk`, or an HMAC of one byte. -/
inductive Derivation (Dh : Type) where
  | root (dhOut : Dh)
  | chain (dhOut : Dh)
  | hmac (byte : UInt8)
deriving DecidableEq

/-- A message key's turn of the ratchet, and its number on the chain of that turn. -/
structure Place where
  level : Nat
  number : Nat
deriving DecidableEq

def Place.Before (earlier later : Place) : Prop :=
  earlier.level < later.level ∨ earlier.level = later.level ∧ earlier.number < later.number

def Place.next (place : Place) : Place := ⟨place.level, place.number + 1⟩

theorem Place.before_next (place : Place) : place.Before place.next :=
  Or.inr ⟨rfl, Nat.lt_succ_self _⟩

theorem Place.Before.trans {first second third : Place} (left : first.Before second)
    (right : second.Before third) : first.Before third := by
  unfold Place.Before at *
  omega

theorem Place.Before.ne {earlier later : Place} (before : earlier.Before later) :
    earlier ≠ later := by
  rintro rfl
  unfold Place.Before at before
  omega

def rootPath (dhOuts : List Dh) : List (Derivation Dh) := dhOuts.map .root

/-- After the turns `dhOuts` and one more by `dhOut`, `number` steps along the chain. -/
def chainPath (dhOuts : List Dh) (dhOut : Dh) (number : Nat) : List (Derivation Dh) :=
  rootPath dhOuts ++ .chain dhOut :: List.replicate number (.hmac 0x02)

def messagePath (dhOuts : List Dh) (dhOut : Dh) (number : Nat) : List (Derivation Dh) :=
  chainPath dhOuts dhOut number ++ [.hmac 0x01]

@[simp] theorem rootPath_length (dhOuts : List Dh) : (rootPath dhOuts).length = dhOuts.length :=
  List.length_map _

theorem chainPath_succ (dhOuts : List Dh) (dhOut : Dh) (number : Nat) :
    chainPath dhOuts dhOut (number + 1) = chainPath dhOuts dhOut number ++ [.hmac 0x02] := by
  simp only [chainPath, List.replicate_succ', List.append_assoc, List.cons_append]

theorem rootPath_append_singleton (dhOuts : List Dh) (dhOut : Dh) :
    rootPath (dhOuts ++ [dhOut]) = rootPath dhOuts ++ [.root dhOut] := by
  simp only [rootPath, List.map_append, List.map_cons, List.map_nil]

/-- The turns on the way to a chain are as many as the root steps in its path. -/
theorem chain_of_prefix {dhOuts others : List Dh} {dhOut other : Dh}
    {rest otherRest : List (Derivation Dh)}
    (start : rootPath dhOuts ++ .chain dhOut :: rest <+:
      rootPath others ++ .chain other :: otherRest) :
    dhOuts.length = others.length ∧ rest <+: otherRest := by
  induction dhOuts generalizing others with
  | nil =>
      cases others with
      | nil => exact ⟨rfl, (List.cons_prefix_cons.mp start).2⟩
      | cons first others => cases (List.cons_prefix_cons.mp start).1
  | cons first dhOuts ih =>
      cases others with
      | nil => cases (List.cons_prefix_cons.mp start).1
      | cons second others =>
          obtain ⟨same, inside⟩ := ih (List.cons_prefix_cons.mp start).2
          exact ⟨congrArg Nat.succ same, inside⟩

/-- A root key is above a chain only where the chain starts at a later turn. -/
theorem length_le_of_rootPath_prefix {dhOuts others : List Dh} {other : Dh}
    {otherRest : List (Derivation Dh)}
    (start : rootPath dhOuts <+: rootPath others ++ .chain other :: otherRest) :
    dhOuts.length ≤ others.length := by
  induction dhOuts generalizing others with
  | nil => exact Nat.zero_le _
  | cons first dhOuts ih =>
      cases others with
      | nil => cases (List.cons_prefix_cons.mp start).1
      | cons second others =>
          exact Nat.succ_le_succ (ih (List.cons_prefix_cons.mp start).2)

/-- A chain key is above the message keys of its own chain from its place on. -/
theorem number_le_of_chainPath_prefix {dhOuts others : List Dh} {dhOut other : Dh}
    {number otherNumber : Nat}
    (start : chainPath dhOuts dhOut number <+: messagePath others other otherNumber) :
    dhOuts.length = others.length ∧ number ≤ otherNumber := by
  rw [messagePath, chainPath, chainPath, List.append_assoc, List.cons_append] at start
  obtain ⟨same, inside⟩ := chain_of_prefix start
  refine ⟨same, ?_⟩
  apply Nat.le_of_not_lt
  intro beyond
  have bound := inside.length_le
  simp only [List.length_replicate, List.length_append, List.length_cons, List.length_nil] at bound
  have exact : number = otherNumber + 1 := by omega
  subst exact
  have equal := inside.eq_of_length (by simp)
  rw [List.replicate_succ'] at equal
  have last := List.append_cancel_left equal
  cases last

/-- A message key is above no other message key. -/
theorem eq_of_messagePath_prefix {dhOuts others : List Dh} {dhOut other : Dh}
    {number otherNumber : Nat}
    (start : messagePath dhOuts dhOut number <+: messagePath others other otherNumber) :
    messagePath dhOuts dhOut number = messagePath others other otherNumber := by
  apply start.eq_of_length
  have bound := start.length_le
  have chain := number_le_of_chainPath_prefix ((List.prefix_append _ _).trans start)
  rw [messagePath, messagePath, chainPath, chainPath, List.append_assoc, List.append_assoc,
    List.cons_append, List.cons_append] at start
  obtain ⟨same, inside⟩ := chain_of_prefix start
  have reach : ¬ number < otherNumber := by
    intro below
    obtain ⟨extra, spelled⟩ : ∃ extra, otherNumber = number + 1 + extra :=
      ⟨otherNumber - (number + 1), by omega⟩
    rw [spelled, List.replicate_add, List.replicate_succ', List.append_assoc,
      List.append_assoc] at inside
    have head := (List.prefix_append_right_inj _).mp inside
    cases (List.cons_prefix_cons.mp head).1
  simp only [messagePath, chainPath, rootPath_length, List.length_append, List.length_cons,
    List.length_replicate, List.length_nil] at bound ⊢
  omega

theorem place_of_messagePath_eq {dhOuts others : List Dh} {dhOut other : Dh}
    {number otherNumber : Nat}
    (same : messagePath dhOuts dhOut number = messagePath others other otherNumber) :
    dhOuts.length = others.length ∧ number = otherNumber := by
  have forward : chainPath dhOuts dhOut number <+: messagePath others other otherNumber := by
    rw [← same]
    exact List.prefix_append _ _
  have backward : chainPath others other otherNumber <+: messagePath dhOuts dhOut number := by
    rw [same]
    exact List.prefix_append _ _
  have below := number_le_of_chainPath_prefix forward
  have above := number_le_of_chainPath_prefix backward
  omega

namespace Primitives

variable (P : Primitives Priv Dh Key) (secret : Key)

def derive (key : Key) : Derivation Dh → Key
  | .root dhOut => (P.hkdfRk key dhOut).1
  | .chain dhOut => (P.hkdfRk key dhOut).2
  | .hmac byte => P.hmac key byte

/-- Everything that HKDF and HMAC make of the shared secret. -/
def keyTree : KeyTree (Derivation Dh) Key := ⟨secret, P.derive⟩

def RootAt (rk : Key) (level : Nat) : Prop :=
  ∃ dhOuts, dhOuts.length = level ∧ (P.keyTree secret).key (rootPath dhOuts) = rk

def ChainAt (ck : Key) (place : Place) : Prop :=
  ∃ dhOuts dhOut, dhOuts.length + 1 = place.level ∧
    (P.keyTree secret).key (chainPath dhOuts dhOut place.number) = ck

def MessageAt (mk : Key) (place : Place) : Prop :=
  ∃ dhOuts dhOut, dhOuts.length + 1 = place.level ∧
    (P.keyTree secret).key (messagePath dhOuts dhOut place.number) = mk

variable {P secret}

theorem rootAt_secret : P.RootAt secret secret 0 := ⟨[], rfl, rfl⟩

theorem RootAt.root {rk : Key} {level : Nat} (root : P.RootAt secret rk level) (dhOut : Dh) :
    P.RootAt secret (P.hkdfRk rk dhOut).1 (level + 1) := by
  obtain ⟨dhOuts, length, reached⟩ := root
  refine ⟨dhOuts ++ [dhOut], by rw [List.length_append, length]; rfl, ?_⟩
  rw [rootPath_append_singleton, KeyTree.key_append_singleton, reached]
  rfl

theorem RootAt.chain {rk : Key} {level : Nat} (root : P.RootAt secret rk level) (dhOut : Dh) :
    P.ChainAt secret (P.hkdfRk rk dhOut).2 ⟨level + 1, 0⟩ := by
  obtain ⟨dhOuts, length, reached⟩ := root
  refine ⟨dhOuts, dhOut, by rw [length], ?_⟩
  rw [chainPath, List.replicate_zero, KeyTree.key_append_singleton, reached]
  rfl

theorem ChainAt.next {ck : Key} {place : Place} (chain : P.ChainAt secret ck place) :
    P.ChainAt secret (P.hkdfCk ck).1 place.next := by
  obtain ⟨dhOuts, dhOut, length, reached⟩ := chain
  refine ⟨dhOuts, dhOut, length, ?_⟩
  rw [Place.next, chainPath_succ, KeyTree.key_append_singleton, reached]
  rfl

theorem ChainAt.message {ck : Key} {place : Place} (chain : P.ChainAt secret ck place) :
    P.MessageAt secret (P.hkdfCk ck).2 place := by
  obtain ⟨dhOuts, dhOut, length, reached⟩ := chain
  refine ⟨dhOuts, dhOut, length, ?_⟩
  rw [messagePath, KeyTree.key_append_singleton, reached]
  rfl

variable (free : (P.keyTree secret).Free)

include free

theorem MessageAt.unique {mk : Key} {place other : Place} (here : P.MessageAt secret mk place)
    (there : P.MessageAt secret mk other) : place = other := by
  obtain ⟨dhOuts, dhOut, length, reached⟩ := here
  obtain ⟨dhOuts', dhOut', length', reached'⟩ := there
  obtain ⟨same, number⟩ := place_of_messagePath_eq (free (reached.trans reached'.symm))
  obtain ⟨level, number⟩ := place
  obtain ⟨level', number'⟩ := other
  simp only [Place.mk.injEq] at *
  omega

end Primitives

end UltimateEnigma.DoubleRatchet
