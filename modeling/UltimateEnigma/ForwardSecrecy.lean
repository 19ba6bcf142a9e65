import UltimateEnigma.Alternation

set_option autoImplicit false

namespace UltimateEnigma.DoubleRatchet

open Py

/-- The keys that a state holds. -/
def RatchetState.heldKeys {Priv Key : Type} (state : RatchetState Priv Key) : Set Key :=
  { key | state.rootKey = some key ∨ state.sendChainKey = some key ∨
    state.recvChainKey = some key ∨ key ∈ state.storedKeys }

namespace Primitives

variable {Priv Dh Key : Type} (P : Primitives Priv Dh Key)

/-- The derivations open to someone who has the state, knows every header and has the key
pairs `own` besides: HMACs of any byte, and HKDF with what `exchange` makes of the state's
private key, or one of his own, and any public key. -/
def Combines (own : Set Priv) (state : RatchetState Priv Key) : Derivation Dh → Prop
  | .hmac _ => True
  | .root dhOut | .chain dhOut =>
      ∃ priv pub, (priv ∈ own ∨ state.dhPriv = some priv) ∧ P.exchange priv pub = some dhOut

variable {P} {secret : Key} {sends receives : Set Nat} {turn : Nat} {sent spent : Set Key}
  {key mk : Key} {now place : Place} {state : RatchetState Priv Key}

/-- `key` is on the way from the shared secret to the message key `mk`, or is `mk`. -/
def Above (P : Primitives Priv Dh Key) (secret key : Key) (place : Place) (mk : Key) : Prop :=
  ∃ dhOuts dhOut start, dhOuts.length + 1 = place.level ∧
    start <+: messagePath dhOuts dhOut place.number ∧ (P.keyTree secret).key start = key ∧
    (P.keyTree secret).key (messagePath dhOuts dhOut place.number) = mk

theorem RootAt.above (free : (P.keyTree secret).Free) (root : P.RootAt secret key turn)
    (above : Above P secret key place mk) : turn < place.level := by
  obtain ⟨dhOuts, dhOut, start, length, inside, reached, _⟩ := above
  obtain ⟨others, length', reached'⟩ := root
  have same := free (reached.trans reached'.symm)
  subst same
  rw [messagePath, chainPath, List.append_assoc, List.cons_append] at inside
  have bound := length_le_of_rootPath_prefix inside
  omega

theorem ChainAt.above (free : (P.keyTree secret).Free) (chain : P.ChainAt secret key now)
    (above : Above P secret key place mk) :
    now.level = place.level ∧ now.number ≤ place.number := by
  obtain ⟨dhOuts, dhOut, start, length, inside, reached, _⟩ := above
  obtain ⟨others, other, length', reached'⟩ := chain
  have same := free (reached.trans reached'.symm)
  subst same
  obtain ⟨turns, numbers⟩ := number_le_of_chainPath_prefix inside
  omega

theorem MessageAt.above (free : (P.keyTree secret).Free) (message : P.MessageAt secret key now)
    (above : Above P secret key place mk) : key = mk := by
  obtain ⟨dhOuts, dhOut, start, length, inside, reached, spelled⟩ := above
  obtain ⟨others, other, _, reached'⟩ := message
  have same := free (reached.trans reached'.symm)
  subst same
  rw [← reached', ← spelled, eq_of_messagePath_prefix inside]

/-- The present key of a chain is above no key that was taken before, on its own turns. -/
theorem Used.not_above {levels : Set Nat} {used : Set Key} {ck : Key}
    (free : (P.keyTree secret).Free) (trace : P.Used secret levels turn (some ck) used)
    (before : mk ∈ used) (message : P.MessageAt secret mk place) :
    ¬ Above P secret ck place mk := by
  obtain ⟨now, chain, _, past⟩ := trace
  intro above
  obtain ⟨earlier, current, same, message', _, order⟩ := past mk before
  rw [message'.unique free message] at order
  subst same
  cases chain with
  | running chain =>
      obtain ⟨levels, numbers⟩ := chain.above free above
      unfold Place.Before at order
      omega

/-- Nor above any key of the other side's turns. -/
theorem Used.not_above_of_level {levels : Set Nat} {used : Set Key} {ck : Key}
    (free : (P.keyTree secret).Free) (trace : P.Used secret levels turn (some ck) used)
    (foreign : place.level ∉ levels) : ¬ Above P secret ck place mk := by
  obtain ⟨now, chain, level, _⟩ := trace
  intro above
  cases chain with
  | running chain =>
      have inside := (level _ rfl).1
      rw [(chain.above free above).1] at inside
      exact foreign inside

theorem Used.located {levels : Set Nat} {used : Set Key} {ck : Option Key}
    (trace : P.Used secret levels turn ck used) (member : mk ∈ used) :
    ∃ place, P.MessageAt secret mk place ∧ place.level ∈ levels ∧ place.level ≤ turn := by
  obtain ⟨now, _, level, past⟩ := trace
  obtain ⟨place, current, same, message, inside, order⟩ := past mk member
  have bound := (level current same).2
  refine ⟨place, message, inside, ?_⟩
  unfold Place.Before at order
  omega

/-- What a traced state holds is on the tree of the shared secret. -/
theorem Traced.onTree (traced : P.Traced secret sends receives turn sent spent state) :
    ∀ key ∈ state.heldKeys, ∃ path, (P.keyTree secret).key path = key := by
  have ofChain : ∀ {levels used} {ck : Option Key}, P.Used secret levels turn ck used →
      ∀ key, ck = some key → ∃ path, (P.keyTree secret).key path = key := by
    rintro levels used ck ⟨now, chain, _⟩ key rfl
    cases chain with
    | running chain =>
        obtain ⟨_, _, _, reached⟩ := chain
        exact ⟨_, reached⟩
  rintro key (root | send | receive | stored)
  · obtain ⟨_, _, reached⟩ := traced.root key root
    exact ⟨_, reached⟩
  · exact ofChain traced.send key send
  · exact ofChain traced.received.used key receive
  · obtain ⟨_, ⟨_, _, _, reached⟩, _⟩ := traced.received.used.located (Or.inr stored)
    exact ⟨_, reached⟩

/-- No key that a traced state holds is above a message key that was used. -/
theorem Traced.not_above (free : (P.keyTree secret).Free)
    (disjoint : ∀ level, level ∈ sends → level ∉ receives)
    (traced : P.Traced secret sends receives turn sent spent state)
    (member : mk ∈ sent ∪ spent) (held : key ∈ state.heldKeys)
    (message : P.MessageAt secret mk place) : ¬ Above P secret key place mk := by
  have located : place.level ≤ turn ∧
      (mk ∈ sent ∧ place.level ∉ receives ∨ mk ∈ spent ∧ place.level ∉ sends) := by
    rcases member with used | used
    · obtain ⟨other, message', inside, bound⟩ := traced.send.located used
      rw [message'.unique free message] at inside bound
      exact ⟨bound, Or.inl ⟨used, disjoint _ inside⟩⟩
    · obtain ⟨other, message', inside, bound⟩ := traced.received.used.located (Or.inl used)
      rw [message'.unique free message] at inside bound
      exact ⟨bound, Or.inr ⟨used, fun sending => disjoint _ sending inside⟩⟩
  obtain ⟨bound, side⟩ := located
  rcases held with root | send | receive | stored
  · intro above
    have := (traced.root key root).above free above
    omega
  · have trace := traced.send
    rw [send] at trace
    rcases side with ⟨used, _⟩ | ⟨_, foreign⟩
    · exact trace.not_above free used message
    · exact trace.not_above_of_level free foreign
  · have trace := traced.received.used
    rw [receive] at trace
    rcases side with ⟨_, foreign⟩ | ⟨used, _⟩
    · exact trace.not_above_of_level free foreign
    · exact trace.not_above free (Or.inl used) message
  · intro above
    obtain ⟨other, message', inside, _⟩ := traced.received.used.located (Or.inr stored)
    have same := message'.above free above
    subst same
    rcases side with ⟨_, foreign⟩ | ⟨used, _⟩
    · rw [message'.unique free message] at inside
      exact foreign inside
    · exact traced.received.apart _ used stored

/-- Used message keys are out of reach of the state that used them, whatever comes in
from outside. -/
theorem Traced.not_derivable (free : (P.keyTree secret).Free)
    (disjoint : ∀ level, level ∈ sends → level ∉ receives)
    (traced : P.Traced secret sends receives turn sent spent state)
    (member : mk ∈ sent ∪ spent) (usable : Derivation Dh → Prop) :
    ¬ (P.keyTree secret).Derivable usable state.heldKeys mk := by
  have located : ∃ place, P.MessageAt secret mk place := by
    rcases member with used | used
    · obtain ⟨place, message, _⟩ := traced.send.located used
      exact ⟨place, message⟩
    · obtain ⟨place, message, _⟩ := traced.received.used.located (Or.inl used)
      exact ⟨place, message⟩
  obtain ⟨place, message⟩ := located
  obtain ⟨dhOuts, dhOut, length, reached⟩ := message
  intro derivable
  rw [← reached] at derivable
  obtain ⟨start, inside, held⟩ := derivable.exists_prefix free traced.onTree
  exact traced.not_above free disjoint member held ⟨dhOuts, dhOut, length, reached⟩
    ⟨dhOuts, dhOut, start, length, inside, rfl, reached⟩

section Runs

variable {setup : Setup Priv Key} {world : Sessions Priv Key}
  {allowed : Sessions Priv Key → SessionEvent Priv → Prop}

/-- The header of every message names a public key that some private key belongs to. -/
theorem sent_names_key (reachable : (P.sessions setup).Reachable allowed world) :
    ∀ message ∈ world.sent, ∃ priv, headerPub message.header = some (P.publicBytes priv) := by
  induction reachable with
  | start initial =>
      rw [initial.sent]
      exact nofun
  | @step world event _ _ _ ih =>
      cases event with
      | encrypt party fresh nonce plaintext =>
          show ∀ message ∈ (P.sessionEncrypt world party fresh nonce plaintext).sent, _
          unfold sessionEncrypt
          split
          · rename_i header ciphertext after outcome
            obtain ⟨middle, onChain, _⟩ := P.encrypt_ok outcome
            obtain ⟨priv, _, _, _, packed, _⟩ := P.encryptOnChain_ok onChain
            have written := headerOf_packHeader packed
            intro message member
            rcases List.mem_cons.mp member with rfl | member
            · exact ⟨priv, by rw [headerPub, dif_pos written.long, written.pub]⟩
            · exact ih message member
          · exact ih
      | decrypt party fresh header ciphertext =>
          show ∀ message ∈ (P.sessionDecrypt world party fresh header ciphertext).sent, _
          rw [sessionDecrypt_sent]
          exact ih

/-- No message key that a side has used is derivable from what that side still holds. -/
theorem used_keys_underivable (free : (P.keyTree setup.sharedSecret).Free)
    (agrees : ∀ left right, (P.exchange left (P.publicBytes right)).isSome)
    (reachable : (P.sessions setup).Reachable FromPeer world) (own : Set Priv) (party : Party)
    {mk : Key} (used : mk ∈ world.sentKeys party ∪ world.openedKeys party) :
    ¬ (P.keyTree setup.sharedSecret).Derivable (P.Combines own (world.state party))
      (world.state party).heldKeys mk := by
  have whole : (P.sessions setup).Reachable (Whole P) world := by
    apply reachable.weaken
    intro world event reachable _ fromPeer
    refine ⟨fromPeer, ?_⟩
    cases event with
    | encrypt _ _ _ _ => trivial
    | decrypt receiver fresh header ciphertext =>
        obtain ⟨message, member, _, rfl, _⟩ := fromPeer
        obtain ⟨priv, named⟩ := sent_names_key reachable message member
        refine Or.inr fun long => ?_
        rw [headerPub, dif_pos long] at named
        rw [Option.some.inj named]
        exact agrees fresh priv
  obtain ⟨turn, _, traced⟩ := (alternating_of_reachable free whole).sides party
  exact traced.not_derivable free (fun _ => sendTurns_disjoint party) used _

end Runs

end Primitives

theorem toyExchanged_reachable :
    (toySpelled.sessions toyPair).Reachable Primitives.FromPeer toyExchanged :=
  .run (.start toyOpening_initialised) (by decide +kernel)

theorem toyExchanged_opened : [7, 1, 4, 2, 1] ∈ toyExchanged.openedKeys .bob := by
  have opened : toyExchanged.opened.any fun message =>
      message.receiver = .bob ∧ message.key = some [7, 1, 4, 2, 1] := by
    decide +kernel
  obtain ⟨message, member, holds⟩ := List.any_eq_true.mp opened
  have holds := of_decide_eq_true holds
  exact ⟨message, member, holds.1, holds.2⟩

theorem toyExchanged_forgets : ¬ (toySpelled.keyTree [7]).Derivable
    (toySpelled.Combines {20} (toyExchanged.state .bob))
    (toyExchanged.state .bob).heldKeys [7, 1, 4, 2, 1] :=
  Primitives.used_keys_underivable (toySpelled_free [7]) (fun _ _ => rfl) toyExchanged_reachable
    {20} .bob (Or.inr toyExchanged_opened)

end UltimateEnigma.DoubleRatchet
