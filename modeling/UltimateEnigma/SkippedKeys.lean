import UltimateEnigma.KeyTrace
import UltimateEnigma.RestoredState
import UltimateEnigma.Sessions

set_option autoImplicit false

namespace UltimateEnigma.DoubleRatchet

open Py

variable {Priv Dh Key : Type}

/-- The store and its queue in step: within the cap, and the queue lists the names of the
store in the order of their entry. -/
structure Tidy (state : RatchetState Priv Key) : Prop where
  bounded : state.skippedKeys.size ≤ maxSkippedKeys
  listed : state.skippedKeyOrder = state.skippedKeys.keys

instance (state : RatchetState Priv Key) : Decidable (Tidy state) :=
  decidable_of_iff (_ ∧ _) ⟨fun both => ⟨both.1, both.2⟩, fun tidy => ⟨tidy.1, tidy.2⟩⟩

/-- What a full store drops for a new key is its oldest entry. -/
def EvictsOldest (state : RatchetState Priv Key) : Prop :=
  ∀ oldest rest name mk, state.skippedKeys.keys = oldest :: rest →
    maxSkippedKeys ≤ state.skippedKeys.size →
      ((storeSkippedKey name mk).run state).2.skippedKeys =
        (state.skippedKeys.erase oldest).set name mk

/-- The names that a packet makes `decrypt` look up or store. -/
def Touches (state : RatchetState Priv Key) (header : Bytes) (name : PubBytes × Nat) : Prop :=
  if state.dhPubRemote = headerPub header then
    headerPub header = some name.1 ∧ (name.2 = headerMsgNum header ∨
      state.recvMsgNum ≤ name.2 ∧ name.2 < headerMsgNum header)
  else
    headerPub header = some name.1 ∧ name.2 ≤ headerMsgNum header ∨
      state.dhPubRemote = some name.1 ∧ state.recvMsgNum ≤ name.2 ∧
        name.2 < headerPrevChainLen header

/-- No packet for a name that is in the store already, and nothing in the store when the
state is restored. -/
def Untroubled (state : RatchetState Priv Key) : SideEvent Priv Key → Prop
  | .call (.decrypt _ header _) =>
      ∀ name, Touches state header name → state.skippedKeys.get? name = none
  | .restore => state.skippedKeys.size = 0
  | _ => True

theorem Tidy.evicts {state : RatchetState Priv Key} (tidy : Tidy state) : EvictsOldest state := by
  intro oldest rest name mk first full
  simp only [storeSkippedKey, Call.run_read_bind, full, ↓reduceIte, tidy.listed, first,
    Call.run_modify_bind, Call.run_modify]

theorem Tidy.of_store {state after : RatchetState Priv Key} (tidy : Tidy state)
    (stored : after.skippedKeys = state.skippedKeys)
    (order : after.skippedKeyOrder = state.skippedKeyOrder) : Tidy after := by
  refine ⟨?_, ?_⟩
  · rw [stored]
    exact tidy.bounded
  · rw [stored, order]
    exact tidy.listed

/-- The store and its queue. -/
def RatchetState.skipped (state : RatchetState Priv Key) :
    Dict (PubBytes × Nat) Key × List (PubBytes × Nat) :=
  (state.skippedKeys, state.skippedKeyOrder)

theorem Tidy.of_keeps {α : Type} {call : Call Raised (RatchetState Priv Key) α}
    {state : RatchetState Priv Key} (tidy : Tidy state) (keeps : call.Keeps RatchetState.skipped) :
    Tidy (call.run state).2 :=
  tidy.of_store (congrArg Prod.fst (keeps state)) (congrArg Prod.snd (keeps state))

/-- None of these names is in the store. -/
def Lacks (names : PubBytes × Nat → Prop) (state : RatchetState Priv Key) : Prop :=
  ∀ name, names name → state.skippedKeys.get? name = none

theorem storeSkippedKey_tidy (names : PubBytes × Nat → Prop) (name : PubBytes × Nat) (mk : Key)
    (apart : ¬ names name) :
    (storeSkippedKey name mk : Call Raised (RatchetState Priv Key) Unit).Ensures
      (fun state => Tidy state ∧ Lacks names state ∧ state.skippedKeys.get? name = none)
      (fun _ state => Tidy state ∧ Lacks names state) Tidy := by
  apply Call.ensures_read_bind
  rintro state ⟨tidy, lacks, absent⟩
  have kept : ∀ other, names other → other ≠ name := fun other inside same =>
    apart (same ▸ inside)
  split
  · rename_i full
    cases queue : state.skippedKeyOrder with
    | nil =>
        rintro _ rfl
        exact tidy
    | cons oldest order =>
        have first : state.skippedKeys.keys = oldest :: order := tidy.listed.symm.trans queue
        have missing : (state.skippedKeys.erase oldest).get? name = none := by
          rw [Dict.get?_erase]
          split
          · rfl
          · exact absent
        have smaller : (state.skippedKeys.erase oldest).size + 1 ≤ state.skippedKeys.size := by
          have before := congrArg List.length first
          have after := congrArg List.length (state.skippedKeys.keys_erase_head first)
          simp only [Dict.keys, List.length_map, List.length_cons] at before after
          simp only [Dict.size]
          omega
        rintro state rfl
        rw [Call.run_modify_bind, Call.run_modify]
        refine ⟨⟨?_, ?_⟩, ?_⟩
        · show (Dict.set _ name mk).size ≤ maxSkippedKeys
          rw [Dict.size_set_of_absent _ mk missing]
          exact Nat.le_trans smaller tidy.bounded
        · show order ++ [name] = (Dict.set _ name mk).keys
          rw [Dict.keys_set_of_absent _ mk missing, state.skippedKeys.keys_erase_head first]
        · intro other inside
          show (Dict.set _ name mk).get? other = none
          rw [Dict.get?_set_of_ne _ mk (kept other inside), Dict.get?_erase]
          split
          · rfl
          · exact lacks other inside
  · rename_i room
    rintro state rfl
    rw [Call.run_modify]
    refine ⟨⟨?_, ?_⟩, ?_⟩
    · show (Dict.set _ name mk).size ≤ maxSkippedKeys
      rw [Dict.size_set_of_absent _ mk absent]
      omega
    · show state.skippedKeyOrder ++ [name] = (Dict.set _ name mk).keys
      rw [Dict.keys_set_of_absent _ mk absent, tidy.listed]
    · intro other inside
      show (Dict.set _ name mk).get? other = none
      rw [Dict.get?_set_of_ne _ mk (kept other inside)]
      exact lacks other inside

namespace Primitives

variable (P : Primitives Priv Dh Key)

theorem stepRecvChain_tidy (names : PubBytes × Nat → Prop) (number : Nat) :
    P.stepRecvChain.Ensures
      (fun state => Tidy state ∧ Lacks names state ∧ state.recvMsgNum = number)
      (fun _ state => Tidy state ∧ Lacks names state ∧ state.recvMsgNum = number) Tidy := by
  apply Call.ensures_read_bind
  rintro state ⟨tidy, lacks, same⟩
  apply Call.ensures_bind fun _ => (· = state)
  · exact Call.ensures_require (fun _ _ _ here => here) (fun _ here => here ▸ tidy)
  · rintro ck state rfl
    exact ⟨tidy.of_store rfl rfl, lacks, same⟩

/-- The names that the skip loop gives to the keys from `number` up to `bound`. -/
def Ahead (pub : PubBytes) (number bound : Nat) (name : PubBytes × Nat) : Prop :=
  name.1 = pub ∧ number ≤ name.2 ∧ name.2 < bound

/-- Skipping over names that are not in the store. -/
theorem skipMessages_tidy (names : PubBytes × Nat → Prop) (pub : PubBytes) (count number : Nat)
    (apart : ∀ name, Ahead pub number (number + count) name → ¬ names name) :
    (P.skipMessages pub count).Ensures
      (fun state => Tidy state ∧
        Lacks (fun name => names name ∨ Ahead pub number (number + count) name) state ∧
          state.recvMsgNum = number)
      (fun _ state => Tidy state ∧ Lacks names state) Tidy := by
  induction count generalizing number with
  | zero => exact Call.ensures_pure fun _ holds => ⟨holds.1, fun name asked =>
      holds.2.1 name (Or.inl asked)⟩
  | succ count ih =>
      apply Call.ensures_bind _ (P.stepRecvChain_tidy _ number)
      intro mk
      apply Call.ensures_read_bind
      rintro state ⟨tidy, lacks, same⟩
      -- The names still to come stay out of the store, as well as those asked for.
      have aside : ¬ (names (pub, number) ∨
          Ahead pub (number + 1) (number + 1 + count) (pub, number)) := by
        rintro (asked | ⟨_, later, _⟩)
        · exact apart _ ⟨rfl, Nat.le_refl _, by simp only; omega⟩ asked
        · simp only at later
          omega
      have stored : (storeSkippedKey (pub, number) mk : Call Raised (RatchetState Priv Key)
          Unit).Ensures _ _ _ := storeSkippedKey_tidy (fun name => names name ∨
            Ahead pub (number + 1) (number + 1 + count) name) (pub, number) mk aside
      have store := stored.keeping
        (storeSkippedKey_keeps RatchetState.recvMsgNum (pub, number) mk fun _ _ _ => rfl)
        (· = number)
      rw [same]
      apply Call.ensures_bind _ (store.weaken _ (fun _ _ => id) fun _ holds => holds.1)
      · intro _
        have rest := ih (number + 1) (by
          rintro name ⟨pub, lower, upper⟩
          exact apart name ⟨pub, by omega, by omega⟩)
        apply Call.ensures_bind _ _ fun _ => rest
        apply Call.ensures_modify
        rintro after ⟨⟨tidy, lacks⟩, same⟩
        refine ⟨tidy.of_store rfl rfl, lacks, ?_⟩
        show after.recvMsgNum + 1 = number + 1
        rw [same]
      · rintro _ rfl
        refine ⟨⟨tidy, ?_, ?_⟩, same⟩
        · rintro name (asked | ⟨pub, lower, upper⟩)
          · exact lacks name (Or.inl asked)
          · exact lacks name (Or.inr ⟨pub, by omega, by omega⟩)
        · exact lacks _ (Or.inr ⟨rfl, Nat.le_refl _, by simp only; omega⟩)

theorem skipRecvChain_tidy (names : PubBytes × Nat → Prop) (remotePub : Option PubBytes)
    (bound number : Nat)
    (apart : ∀ pub name, remotePub = some pub → Ahead pub number bound name → ¬ names name) :
    (P.skipRecvChain remotePub bound).Ensures
      (fun state => Tidy state ∧ Lacks (fun name => names name ∨
        ∃ pub, remotePub = some pub ∧ Ahead pub number bound name) state ∧
          state.recvMsgNum = number)
      (fun _ state => Tidy state ∧ Lacks names state) Tidy := by
  apply Call.ensures_read_bind
  rintro state ⟨tidy, lacks, same⟩
  have fewer : Lacks names state := fun name asked => lacks name (Or.inl asked)
  split
  · rename_i ck pub chain
    split
    · rintro _ rfl
      exact tidy
    · have reach : ∀ name, Ahead pub number (number + (bound - number)) name →
          Ahead pub number bound name := by
        rintro name ⟨same, lower, upper⟩
        exact ⟨same, lower, by omega⟩
      have skip := P.skipMessages_tidy names pub (bound - number) number
        (fun name ahead => apart pub name rfl (reach name ahead))
      rintro _ rfl
      rw [same]
      refine skip _ ⟨tidy, ?_, same⟩
      rintro name (asked | ahead)
      · exact lacks name (Or.inl asked)
      · exact lacks name (Or.inr ⟨pub, rfl, reach name ahead⟩)
  · rintro _ rfl
    exact ⟨tidy, fewer⟩

/-- A name that is not in the store, behind others that are not. -/
theorem selectKey_tidy (remotePub : PubBytes) (msgNum number : Nat) :
    (P.selectKey remotePub msgNum).Ensures
      (fun state => Tidy state ∧ Lacks (fun name => name = (remotePub, msgNum) ∨
        Ahead remotePub number msgNum name) state ∧ state.recvMsgNum = number)
      (fun _ => Tidy) Tidy := by
  apply Call.ensures_read_bind
  rintro state ⟨tidy, lacks, same⟩
  rw [lacks (remotePub, msgNum) (Or.inl rfl)]
  simp only
  split
  · rintro _ rfl
    exact tidy
  · have skip := P.skipMessages_tidy (fun _ => False) remotePub (msgNum - number) number
      (fun _ _ => id)
    apply Call.ensures_bind fun _ => Tidy
    · rintro _ rfl
      rw [same]
      refine (skip.weaken (fun _ => id) (fun _ _ holds => holds.1) (fun _ => id)) _
        ⟨tidy, ?_, same⟩
      rintro name (impossible | ⟨pub, lower, upper⟩)
      · exact impossible.elim
      · exact lacks name (Or.inr ⟨pub, lower, by omega⟩)
    · intro _
      apply Call.ensures_bind fun _ => Tidy
      · intro middle tidy
        have step := P.stepRecvChain_tidy (fun _ => False) middle.recvMsgNum
        exact (step.weaken (fun _ => id) (fun _ _ holds => holds.1) (fun _ => id)) middle
          ⟨tidy, fun _ => False.elim, rfl⟩
      · intro mk after tidy
        exact tidy.of_store rfl rfl

theorem exchangeOn_ensures (dhPriv : Option Priv) (pub : PubBytes)
    {before raised : RatchetState Priv Key → Prop} (weaker : ∀ state, before state → raised state) :
    (P.exchangeOn dhPriv pub).Ensures before (fun _ => before) raised := by
  apply Call.ensures_bind fun _ => before
  · exact Call.ensures_require (fun _ _ _ here => here) weaker
  · exact fun priv => Call.ensures_require (fun _ _ _ here => here) weaker

theorem dhRatchetStep_tidy (names : PubBytes × Nat → Prop) (fresh : Priv)
    (remotePub : PubBytes) :
    (P.dhRatchetStep fresh remotePub).Ensures (fun state => Tidy state ∧ Lacks names state)
      (fun _ state => Tidy state ∧ Lacks names state ∧ state.recvMsgNum = 0) Tidy := by
  apply Call.ensures_read_bind
  rintro state ⟨tidy, lacks⟩
  have idle : ∀ object : RatchetState Priv Key, object = state → Tidy object :=
    fun _ same => same ▸ tidy
  apply Call.ensures_bind _ (P.exchangeOn_ensures _ _ idle)
  intro dhOut
  apply Call.ensures_bind fun _ => (· = state)
  · exact Call.ensures_require (fun _ _ _ here => here) idle
  · intro rk
    apply Call.ensures_bind fun _ turned =>
      Tidy turned ∧ Lacks names turned ∧ turned.recvMsgNum = 0
    · apply Call.ensures_modify
      rintro _ rfl
      exact ⟨tidy.of_store rfl rfl, lacks, rfl⟩
    · intro _
      apply Call.ensures_bind _ (P.exchangeOn_ensures _ _ fun _ holds => holds.1)
      intro dhOut2
      apply Call.ensures_modify
      rintro turned ⟨tidy, lacks, zero⟩
      exact ⟨tidy.of_store rfl rfl, lacks, zero⟩

theorem decryptKey_tidy (fresh : Priv) (header : Bytes) {state : RatchetState Priv Key}
    (tidy : Tidy state) (clear : Lacks (Touches state header) state) :
    (P.decryptKey fresh header).Ensures (· = state) (fun _ => Tidy) Tidy := by
  by_cases short : header.length < 40
  · rw [decryptKey, dif_pos short]
    rintro _ rfl
    exact tidy
  have long : 40 ≤ header.length := Nat.le_of_not_lt short
  have named : headerPub header = some (headerDhPub header long) := dif_pos long
  rw [decryptKey, dif_neg short]
  apply Call.ensures_read_bind
  rintro _ rfl
  rename_i state
  by_cases same : state.dhPubRemote = some (headerDhPub header long)
  · rw [if_pos same]
    refine (P.selectKey_tidy _ _ state.recvMsgNum).weaken ?_ (fun _ _ => id) (fun _ => id)
    rintro _ rfl
    refine ⟨tidy, fun name wanted => clear name ?_, rfl⟩
    rw [Touches, if_pos (same.trans named.symm), named]
    rcases wanted with rfl | ⟨own, lower, upper⟩
    · exact ⟨rfl, Or.inl rfl⟩
    · exact ⟨own ▸ rfl, Or.inr ⟨lower, upper⟩⟩
  · rw [if_neg same]
    have touched : ∀ name, Touches state header name ↔
        headerDhPub header long = name.1 ∧ name.2 ≤ headerMsgNum header ∨
          state.dhPubRemote = some name.1 ∧ state.recvMsgNum ≤ name.2 ∧
            name.2 < headerPrevChainLen header := by
      intro name
      rw [Touches, if_neg (by rw [named]; exact same), named, Option.some_inj]
    apply Call.ensures_bind fun _ middle => Tidy middle ∧
      Lacks (fun name => headerDhPub header long = name.1 ∧ name.2 ≤ headerMsgNum header) middle
    · refine (P.skipRecvChain_tidy (fun name => headerDhPub header long = name.1 ∧
        name.2 ≤ headerMsgNum header) state.dhPubRemote (headerPrevChainLen header)
        state.recvMsgNum ?_).weaken ?_ (fun _ _ => id) (fun _ => id)
      · rintro pub name remote ⟨rfl, _⟩ ⟨own, _⟩
        exact same (own ▸ remote)
      · rintro _ rfl
        refine ⟨tidy, fun name wanted => clear name ((touched name).mpr ?_), rfl⟩
        rcases wanted with own | ⟨pub, remote, rfl, lower, upper⟩
        · exact Or.inl own
        · exact Or.inr ⟨remote, lower, upper⟩
    · intro _
      apply Call.ensures_bind _ (P.dhRatchetStep_tidy _ fresh _)
      intro _
      refine (P.selectKey_tidy _ _ 0).weaken ?_ (fun _ _ => id) (fun _ => id)
      rintro turned ⟨tidy, lacks, zero⟩
      refine ⟨tidy, fun name wanted => lacks name ?_, zero⟩
      rcases wanted with rfl | ⟨own, _, upper⟩
      · exact ⟨rfl, Nat.le_refl _⟩
      · exact ⟨own.symm, Nat.le_of_lt upper⟩

theorem perform_tidy {state : RatchetState Priv Key} (tidy : Tidy state) (call : SideCall Priv)
    (untroubled : Untroubled state (.call call : SideEvent Priv Key)) :
    Tidy (P.perform state call).2 := by
  cases call with
  | encrypt fresh nonce plaintext =>
      have kept := P.encrypt_keeps RatchetState.skipped fresh nonce plaintext
        fun _ _ _ _ _ _ => rfl
      show Tidy ((P.encrypt fresh nonce plaintext).run state).2
      exact tidy.of_keeps kept
  | decrypt fresh header ciphertext =>
      have chosen := P.decryptKey_tidy fresh header tidy untroubled
      have whole : (P.decrypt fresh header ciphertext).Ensures (· = state) (fun _ => Tidy)
          Tidy := by
        rw [decrypt_eq]
        apply Call.ensures_bind _ chosen
        intro mk after tidy
        have kept := tidy.of_keeps (P.decryptWithKey_keeps RatchetState.skipped mk ciphertext header)
        cases outcome : (P.decryptWithKey mk ciphertext header).run after with
        | mk result final =>
            rw [outcome] at kept
            cases result <;> exact kept
      have after := whole state rfl
      simp only [perform]
      cases outcome : (P.decrypt fresh header ciphertext).run state with
      | mk result final =>
          rw [outcome] at after
          cases result <;> exact after

/-- In every run without a packet for a name that is stored already, and without a restore
of stored keys, the store stays within its cap and in step with its queue, and what it
evicts is its oldest entry. -/
theorem tidy_of_reachable {state : RatchetState Priv Key}
    (reachable : P.side.Reachable Untroubled state) : Tidy state ∧ EvictsOldest state := by
  have tidy : Tidy state := by
    induction reachable with
    | start initial =>
        subst initial
        exact ⟨Nat.zero_le _, rfl⟩
    | @step before event _ _ untroubled tidy =>
        cases event with
        | setUp role fresh dhPub sharedSecret localDhPriv =>
            cases role with
            | alice =>
                apply tidy.of_keeps
                refine Call.keeps_bind (Call.keeps_modify fun _ => ?_) fun _ => ?_
                · rfl
                · exact Call.keeps_bind (P.exchangeOn_keeps _ _ _)
                    fun _ => Call.keeps_modify fun _ => rfl
            | bob =>
                apply tidy.of_keeps
                refine Call.keeps_bind (Call.keeps_modify fun _ => ?_) fun _ => ?_
                · rfl
                · exact Call.keeps_bind (P.exchangeOn_keeps _ _ _)
                    fun _ => Call.keeps_modify fun _ => rfl
        | turn fresh remotePub =>
            have turned := P.dhRatchetStep_tidy (fun _ => False) fresh remotePub before
              ⟨tidy, fun _ => False.elim⟩
            show Tidy ((P.dhRatchetStep fresh remotePub).run before).2
            cases outcome : (P.dhRatchetStep fresh remotePub).run before with
            | mk result after =>
                rw [outcome] at turned
                cases result with
                | ok _ => exact turned.1
                | error _ => exact turned
        | call call => exact P.perform_tidy tidy call untroubled
        | restore =>
            have empty : before.skippedKeys.keys = [] :=
              List.eq_nil_of_length_eq_zero ((List.length_map _).trans untroubled)
            exact ⟨tidy.bounded, empty.symm⟩
  exact ⟨tidy, tidy.evicts⟩

end Primitives

def toyReady : RatchetState UInt8 Bytes :=
  ((toySpelled.initializeAsBob 3 (toySpelled.publicBytes 1) [7] none).run {}).2

def toySecond : SideCall UInt8 :=
  .decrypt 12 (toyExchanged.packet 2).1 (toyExchanged.packet 2).2

def toyFirst : SideCall UInt8 :=
  .decrypt 13 (toyExchanged.packet 3).1 (toyExchanged.packet 3).2

/-- Bob takes alice's second message, with the key of the first in his store. -/
def toySkipped : RatchetState UInt8 Bytes := (toySpelled.perform toyReady toySecond).2

/-- He takes the first one out of it. -/
def toyDelivered : RatchetState UInt8 Bytes := (toySpelled.perform toySkipped toyFirst).2

theorem toyReady_reachable {allowed : RatchetState UInt8 Bytes → SideEvent UInt8 Bytes → Prop}
    (permitted : allowed {} (.setUp .bob 3 (toySpelled.publicBytes 1) [7] none)) :
    toySpelled.side.Reachable allowed toyReady :=
  Machine.Reachable.step (SideEvent.setUp .bob 3 (toySpelled.publicBytes 1) [7] none)
    (Machine.Reachable.start rfl : toySpelled.side.Reachable allowed {}) trivial permitted

theorem toyReady_untroubled : Untroubled toyReady (.call toySecond : SideEvent UInt8 Bytes) :=
  fun _ _ => rfl

theorem reachable_perform {P : Primitives Priv Dh Key} {state : RatchetState Priv Key}
    {allowed : RatchetState Priv Key → SideEvent Priv Key → Prop}
    (before : P.side.Reachable allowed state) (call : SideCall Priv)
    (permitted : allowed state (.call call)) :
    P.side.Reachable allowed (P.perform state call).2 :=
  Machine.Reachable.step (SideEvent.call call) before trivial permitted

example : toySkipped.skippedKeys.size = 1 := by decide +kernel

theorem toySkipped_tidy : Tidy toySkipped ∧ EvictsOldest toySkipped :=
  toySpelled.tidy_of_reachable
    (reachable_perform (toyReady_reachable trivial) toySecond toyReady_untroubled)

/-- A late message that was delivered leaves its name in the queue. -/
theorem toyDelivered_untidy :
    toySpelled.side.Reachable (fun _ _ => True) toyDelivered ∧ ¬ Tidy toyDelivered := by
  have skipped : toySpelled.side.Reachable (fun _ _ => True) toySkipped :=
    reachable_perform (toyReady_reachable trivial) toySecond trivial
  exact ⟨reachable_perform skipped toyFirst trivial, by decide +kernel⟩

end UltimateEnigma.DoubleRatchet
