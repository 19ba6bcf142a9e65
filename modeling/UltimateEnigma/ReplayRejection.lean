import UltimateEnigma.Sessions

set_option autoImplicit false

namespace UltimateEnigma.DoubleRatchet

open Py

namespace Primitives

variable {Priv Dh Key : Type} (P : Primitives Priv Dh Key)

/-- What opens under one key opens under no other. -/
def KeyCommitting : Prop :=
  ∀ (key other : Key) (nonce data header : Bytes), (P.aeadDecrypt key nonce data header).isSome →
    other ≠ key → P.aeadDecrypt other nonce data header = none

variable {P}

/-- A decryption that returned chose a key under which the ciphertext opens. -/
theorem decrypt_chose {fresh : Priv} {header ciphertext plaintext : Bytes}
    {state after : RatchetState Priv Key}
    (success : (P.decrypt fresh header ciphertext).run state = (.ok plaintext, after)) :
    ∃ mk, (P.decryptKey fresh header).run state = (.ok mk, after) ∧
      (P.aeadDecrypt mk (ciphertext.take xchacha20NonceSize)
        (ciphertext.drop xchacha20NonceSize) header).isSome := by
  rw [decrypt_eq] at success
  obtain ⟨mk, middle, chosen, opened⟩ := Call.ok_of_run_bind success
  unfold decryptWithKey at opened
  split at opened
  · cases opened
  · obtain ⟨found, same⟩ := Call.ok_of_run_require opened
    exact ⟨mk, by rw [chosen, same], Option.isSome_iff_exists.mpr ⟨plaintext, found⟩⟩

theorem decryptWithKey_error {mk : Key} {ciphertext header : Bytes}
    (closed : P.aeadDecrypt mk (ciphertext.take xchacha20NonceSize)
      (ciphertext.drop xchacha20NonceSize) header = none) (state : RatchetState Priv Key) :
    ∃ raised, (P.decryptWithKey mk ciphertext header).run state = (.error raised, state) := by
  unfold decryptWithKey
  split
  · exact ⟨_, rfl⟩
  · rw [closed]
    exact ⟨_, rfl⟩

section Runs

variable {setup : Setup Priv Key} {world : Sessions Priv Key}
  {allowed : Sessions Priv Key → SessionEvent Priv → Prop}

theorem sessions_traced (free : (P.keyTree setup.sharedSecret).Free)
    (reachable : (P.sessions setup).Reachable allowed world) (party : Party) :
    ∃ turn, TracedSide P setup.sharedSecret Set.univ Set.univ world party turn := by
  induction reachable generalizing party with
  | start initial =>
      cases party with
      | alice => exact ⟨1, initial.traced_alice (Set.mem_univ 1)⟩
      | bob => exact ⟨1, initial.traced_bob (Set.mem_univ 1)⟩
  | @step world event _ _ _ ih =>
      cases event with
      | encrypt sender fresh nonce plaintext =>
          rcases Party.eq_or_eq_peer sender party with rfl | rfl
          · obtain ⟨turn, traced⟩ := ih party
            obtain ⟨later, stepped, _⟩ := traced.encrypt free (fun _ => Set.mem_univ _) rfl
            exact ⟨later, stepped⟩
          · obtain ⟨turn, traced⟩ := ih sender.peer
            exact ⟨turn, traced.untouched (sessionEncrypt_untouched P world sender _ _ _)⟩
      | decrypt receiver fresh header ciphertext =>
          rcases Party.eq_or_eq_peer receiver party with rfl | rfl
          · obtain ⟨turn, traced⟩ := ih party
            obtain ⟨later, stepped, _⟩ := traced.decrypt free
              (fun _ => ⟨Set.mem_univ _, Set.mem_univ _⟩) rfl
            exact ⟨later, stepped⟩
          · obtain ⟨turn, traced⟩ := ih receiver.peer
            exact ⟨turn, traced.untouched (sessionDecrypt_untouched P world receiver _ _ _)⟩

theorem opened_grows (world : Sessions Priv Key) (event : SessionEvent Priv) :
    world.opened ⊆ ((P.sessions setup).apply world event).opened := by
  cases event with
  | encrypt party fresh nonce plaintext =>
      show world.opened ⊆ (P.sessionEncrypt world party fresh nonce plaintext).opened
      unfold sessionEncrypt
      split
      · exact List.Subset.refl _
      · exact List.Subset.refl _
  | decrypt party fresh header ciphertext =>
      show world.opened ⊆ (P.sessionDecrypt world party fresh header ciphertext).opened
      unfold sessionDecrypt
      split
      · exact List.subset_cons_self _ _
      · exact List.Subset.refl _

theorem opened_kept {before after : Sessions Priv Key} {packet : OpenedMessage Key}
    (later : (P.sessions setup).Follows allowed before after) (opened : packet ∈ before.opened) :
    packet ∈ after.opened :=
  later.relation (fun world => packet ∈ world.opened) opened
    fun middle event _ member _ _ => opened_grows middle event member

/-- A message that `decrypt` has accepted once it never accepts again. -/
theorem accepted_message_rejected (free : (P.keyTree setup.sharedSecret).Free)
    (commits : P.KeyCommitting)
    (reachable : (P.sessions setup).Reachable (fun _ _ => True) world)
    {party : Party} {fresh : Priv} {header ciphertext plaintext : Bytes}
    {accepted : RatchetState Priv Key} (unheld : P.publicBytes fresh ∉ world.held)
    (returned : (P.decrypt fresh header ciphertext).run (world.state party) =
      (.ok plaintext, accepted))
    {later : Sessions Priv Key}
    (continued : (P.sessions setup).Follows (fun _ _ => True)
      (P.sessionDecrypt world party fresh header ciphertext) later)
    (again : Priv) :
    ∃ raised after, (P.decrypt again header ciphertext).run (later.state party) =
      (.error raised, after) := by
  obtain ⟨mk, chosen, opens⟩ := decrypt_chose returned
  have spent : mk ∈ later.openedKeys party := by
    refine ⟨⟨party, some mk, header, ciphertext⟩, opened_kept continued ?_, rfl, rfl⟩
    rw [sessionDecrypt, returned, chosen]
    exact List.mem_cons_self
  have step : (P.sessions setup).Reachable (fun _ _ => True)
      ((P.sessions setup).apply world (.decrypt party fresh header ciphertext)) :=
    .step _ reachable unheld trivial
  have reached := continued.reachable step
  obtain ⟨turn, traced⟩ := sessions_traced free reached party
  have select := decryptKey_traced free again header traced
    (fun _ => ⟨Set.mem_univ _, Set.mem_univ _⟩) _ rfl
  rw [decrypt_eq]
  cases choice : (P.decryptKey again header).run (later.state party) with
  | mk reply after =>
      rw [choice] at select
      cases reply with
      | error raised => exact ⟨raised, after, Call.run_bind_of_error choice _⟩
      | ok other =>
          have differs : other ≠ mk := by
            rintro rfl
            exact select.1 spent
          obtain ⟨raised, failed⟩ := decryptWithKey_error
            (commits mk other _ _ header opens differs) after
          exact ⟨raised, after, (Call.run_bind_of_ok choice _).trans failed⟩

end Runs

end Primitives

theorem toySpelled_commits : toySpelled.KeyCommitting := by
  intro key other nonce data header opens differs
  simp only [toySpelled] at opens ⊢
  split at opens
  · rename_i opened
    rw [if_neg]
    exact fun opened' => differs (opened'.1.symm.trans opened.1)
  · cases opens

/-- Bob is about to open the message that was overtaken, from his store. -/
def toyOvertakenWorld : Sessions UInt8 Bytes :=
  (toySpelled.sessions toyPair).run toyOpening (toyExchange.take 3)

def toyOvertakenPacket : Bytes × Bytes := toyOvertakenWorld.packet 1

def toyContinued : Sessions UInt8 Bytes :=
  (toySpelled.sessions toyPair).run
    (toySpelled.sessionDecrypt toyOvertakenWorld .bob 13 toyOvertakenPacket.1 toyOvertakenPacket.2)
    (toyExchange.drop 4)

theorem toyOvertakenWorld_reachable :
    (toySpelled.sessions toyPair).Reachable (fun _ _ => True) toyOvertakenWorld :=
  .run (.start toyOpening_initialised) (by decide +kernel)

theorem toyOvertakenPacket_opens :
    ((toySpelled.decrypt 13 toyOvertakenPacket.1 toyOvertakenPacket.2).run
      (toyOvertakenWorld.state .bob)).1 = .ok [1] := by
  decide +kernel

theorem toyContinued_follows :
    (toySpelled.sessions toyPair).Follows (fun _ _ => True)
      (toySpelled.sessionDecrypt toyOvertakenWorld .bob 13 toyOvertakenPacket.1
        toyOvertakenPacket.2) toyContinued :=
  .run (.refl _) (by decide +kernel)

theorem toyContinued_rejects :
    ∃ raised after, (toySpelled.decrypt 20 toyOvertakenPacket.1 toyOvertakenPacket.2).run
      (toyContinued.state .bob) = (.error raised, after) :=
  Primitives.accepted_message_rejected (toySpelled_free [7]) toySpelled_commits
    toyOvertakenWorld_reachable (by decide +kernel) (Prod.ext toyOvertakenPacket_opens rfl)
    toyContinued_follows 20

end UltimateEnigma.DoubleRatchet
