import UltimateEnigma.DeferredState

set_option autoImplicit false

namespace UltimateEnigma.RatchetService

open Py DoubleRatchet

/-- Which session of a friend a state belongs to, and when it was buffered or stored. -/
structure Stamp where
  session : Nat
  time : Nat
deriving DecidableEq, Repr

/-- Not newer: an earlier session, or the same one no later. -/
def Stamp.NotNewer (older newer : Stamp) : Prop :=
  older.session < newer.session ∨ older.session = newer.session ∧ older.time ≤ newer.time

instance (older newer : Stamp) : Decidable (older.NotNewer newer) :=
  inferInstanceAs (Decidable (_ ∨ _))

theorem Stamp.NotNewer.refl (stamp : Stamp) : stamp.NotNewer stamp :=
  Or.inr ⟨rfl, Nat.le_refl _⟩

theorem Stamp.NotNewer.trans {first second third : Stamp} (left : first.NotNewer second)
    (right : second.NotNewer third) : first.NotNewer third := by
  unfold Stamp.NotNewer at left right ⊢
  omega

/-- A state on its way from the buffer to the database. -/
structure Pending (Priv Key : Type) where
  friend : String
  state : RatchetState Priv Key
  stamp : Stamp
deriving DecidableEq

/-- A call of `flush_dirty_states` that has not returned. -/
structure Flush (Priv Key : Type) where
  pending : List (Pending Priv Key)
  remaining : List (Pending Priv Key)
deriving DecidableEq

/-- A call of `save_friend` between its `SELECT` and its `INSERT OR REPLACE`. -/
structure Copying (Priv Key Box : Type) where
  friend : String
  existing : Option (Blob Priv Key Box)
  stamp : Stamp
deriving DecidableEq

/-- An encryption or decryption that has loaded its state and not yet buffered the new
one, with the session it loaded from. -/
structure Loaded where
  friend : String
  session : Nat
deriving DecidableEq

/-- The service between atomic steps of any number of calls. The stamps are history:
no step of the code reads them. -/
structure Race (Priv Key StorageKey Box : Type) where
  service : Service Priv Key StorageKey Box
  flushes : Dict Nat (Flush Priv Key)
  copies : Dict Nat (Copying Priv Key Box)
  loads : Dict Nat Loaded
  clock : Nat
  session : String → Nat
  rowStamp : String → Stamp
  bufferStamp : String → Stamp
  latest : String → Stamp

/-- Atomic steps. Numbers identify the calls that take more than one. -/
inductive Step (Priv Key : Type) where
  | load (call : Nat) (friend : String)
  | mark (call : Nat) (state : RatchetState Priv Key)
  | flushBegin (call : Nat)
  | flushSave (call : Nat) (nonce : Bytes) (fails : Bool)
  | flushEnd (call : Nat)
  | init (role : Party) (friend : String) (fresh : Priv) (dhPub : PubBytes)
      (sharedSecret : Key) (localDhPriv : Option Priv) (nonce : Bytes) (fails : Bool)
  | delete (friend : String) (fails : Bool)
  | saveFriendRead (call : Nat) (friend : String)
  | saveFriendReplace (call : Nat)

section Steps

variable {Priv Dh Key StorageKey Box : Type}
variable (P : Primitives Priv Dh Key) (cipher : StorageCipher Priv Key StorageKey Box)

/-- The friend's row now belongs to a new session, or to none. -/
def newSession (race : Race Priv Key StorageKey Box) (friend : String)
    (service : Service Priv Key StorageKey Box) : Race Priv Key StorageKey Box :=
  let stamp : Stamp := ⟨race.session friend + 1, race.clock + 1⟩
  { race with
    service := service
    clock := race.clock + 1
    session := Function.update race.session friend (race.session friend + 1)
    rowStamp := Function.update race.rowStamp friend stamp
    latest := Function.update race.latest friend stamp }

/-- `_mark_dirty` with the new state. -/
def applyMark (race : Race Priv Key StorageKey Box) (call : Nat)
    (state : RatchetState Priv Key) (load : Loaded) : Race Priv Key StorageKey Box :=
  let stamp : Stamp := ⟨load.session, race.clock + 1⟩
  { race with
    service := ((markDirty load.friend state).run race.service).2
    loads := race.loads.erase call
    clock := race.clock + 1
    bufferStamp := Function.update race.bufferStamp load.friend stamp
    latest := Function.update race.latest load.friend stamp }

/-- `to_flush = dict(_dirty_states)`, `_dirty_states.clear()`, under the lock. -/
def applyFlushBegin (race : Race Priv Key StorageKey Box) (call : Nat) :
    Race Priv Key StorageKey Box :=
  { race with
    service := { race.service with dirty := .empty }
    flushes := race.flushes.set call
      { pending := race.service.dirty.items.map fun item =>
          ⟨item.1, item.2, race.bufferStamp item.1⟩
        remaining := [] } }

/-- One round of the loop. -/
def applyFlushSave (race : Race Priv Key StorageKey Box) (call : Nat) (flush : Flush Priv Key)
    (entry : Pending Priv Key) (rest : List (Pending Priv Key)) (nonce : Bytes) (fails : Bool) :
    Race Priv Key StorageKey Box :=
  match (saveRatchetState cipher entry.friend entry.state nonce fails).run race.service with
  | (.ok (), service) =>
      { race with
        service := service
        flushes := race.flushes.set call { flush with pending := rest }
        rowStamp := if (race.service.rows.get? entry.friend).isSome then
            Function.update race.rowStamp entry.friend entry.stamp
          else race.rowStamp }
  | (.error _, service) =>
      { race with
        service := service
        flushes := race.flushes.set call
          { pending := rest, remaining := flush.remaining ++ [entry] } }

/-- `_dirty_states.update(remaining_dirty)`. -/
def applyFlushEnd (race : Race Priv Key StorageKey Box) (call : Nat) (flush : Flush Priv Key) :
    Race Priv Key StorageKey Box :=
  { race with
    service :=
      { race.service with
        dirty := race.service.dirty.update
          (flush.remaining.map fun entry => (entry.friend, entry.state)) }
    flushes := race.flushes.erase call
    bufferStamp := fun friend =>
      match flush.remaining.find? (fun entry => entry.friend = friend) with
      | some entry => entry.stamp
      | none => race.bufferStamp friend }

def applyInit (race : Race Priv Key StorageKey Box) (role : Party) (friend : String)
    (fresh : Priv) (dhPub : PubBytes) (sharedSecret : Key) (localDhPriv : Option Priv)
    (nonce : Bytes) (fails : Bool) : Race Priv Key StorageKey Box :=
  match (initRatchet P cipher role friend fresh dhPub sharedSecret localDhPriv nonce fails).run
      race.service with
  | (.ok _, service) =>
      if (race.service.rows.get? friend).isSome then newSession race friend service
      else { race with service := service }
  | (.error _, service) => { race with service := service }

def applyDelete (race : Race Priv Key StorageKey Box) (friend : String) (fails : Bool) :
    Race Priv Key StorageKey Box :=
  match (deleteRatchet friend fails).run race.service with
  | (.ok true, service) => newSession race friend service
  | (_, service) => { race with service := service }

/-- Every interleaving of the atomic steps. -/
def interleaved : Machine (Race Priv Key StorageKey Box) (Step Priv Key) where
  start race := race.service.dirty = .empty ∧ race.flushes = .empty ∧ race.copies = .empty ∧
    race.loads = .empty ∧ race.clock = 0 ∧ (∀ friend, race.session friend = 0) ∧
    (∀ friend, race.rowStamp friend = ⟨0, 0⟩) ∧ (∀ friend, race.latest friend = ⟨0, 0⟩)
  enabled race
    | .load call friend => (race.loads.get? call).isNone ∧
        (loadedState cipher race.service friend).isOk
    | .mark call _ => (race.loads.get? call).isSome
    | .flushBegin call => (race.flushes.get? call).isNone
    | .flushSave call _ _ => ∃ flush ∈ race.flushes.get? call, flush.pending ≠ []
    | .flushEnd call => ∃ flush ∈ race.flushes.get? call, flush.pending = []
    | .init .. => True
    | .delete .. => True
    | .saveFriendRead call _ => (race.copies.get? call).isNone
    | .saveFriendReplace call => (race.copies.get? call).isSome
  apply race
    | .load call friend =>
        { race with loads := race.loads.set call ⟨friend, race.session friend⟩ }
    | .mark call state =>
        match race.loads.get? call with
        | some load => applyMark race call state load
        | none => race
    | .flushBegin call => applyFlushBegin race call
    | .flushSave call nonce fails =>
        match race.flushes.get? call with
        | some flush =>
            match flush.pending with
            | entry :: rest => applyFlushSave cipher race call flush entry rest nonce fails
            | [] => race
        | none => race
    | .flushEnd call =>
        match race.flushes.get? call with
        | some flush => applyFlushEnd race call flush
        | none => race
    | .init role friend fresh dhPub sharedSecret localDhPriv nonce fails =>
        applyInit P cipher race role friend fresh dhPub sharedSecret localDhPriv nonce fails
    | .delete friend fails => applyDelete race friend fails
    | .saveFriendRead call friend =>
        { race with
          copies := race.copies.set call
            ⟨friend, existingRatchetJson race.service friend, race.rowStamp friend⟩ }
    | .saveFriendReplace call =>
        match race.copies.get? call with
        | some copy =>
            { race with
              service := ((replaceFriendRow copy.friend copy.existing).run race.service).2
              copies := race.copies.erase call
              rowStamp := Function.update race.rowStamp copy.friend copy.stamp }
        | none => race

/-- An unfinished flush holds a state of this friend. -/
def Flush.Holds (flush : Flush Priv Key) (friend : String) : Prop :=
  ∃ entry ∈ flush.pending ++ flush.remaining, entry.friend = friend

def FlushHolds (race : Race Priv Key StorageKey Box) (friend : String) : Prop :=
  ∃ item ∈ race.flushes.items, item.2.Holds friend

def CopyHolds (race : Race Priv Key StorageKey Box) (friend : String) : Prop :=
  ∃ item ∈ race.copies.items, item.2.friend = friend

/-- Nothing of this friend is buffered or under way. -/
def Quiet (race : Race Priv Key StorageKey Box) (friend : String) : Prop :=
  race.service.dirty.get? friend = none ∧ ¬ FlushHolds race friend ∧ ¬ CopyHolds race friend

/-- No step of one call falls into another call's window. -/
def Apart (race : Race Priv Key StorageKey Box) : Step Priv Key → Prop
  | .mark call _ => ∀ load ∈ race.loads.get? call, load.session = race.session load.friend
  | .flushBegin _ => ∀ friend ∈ race.service.dirty.keys, ¬ FlushHolds race friend
  | .flushSave call _ _ => ∀ flush ∈ race.flushes.get? call, ∀ entry ∈ flush.pending.head?,
      ¬ CopyHolds race entry.friend
  | .flushEnd call => ∀ flush ∈ race.flushes.get? call, ∀ entry ∈ flush.remaining,
      race.service.dirty.get? entry.friend = none
  | .init _ friend .. => Quiet race friend
  | .delete friend _ => Quiet race friend
  | .load .. => True
  | .saveFriendRead .. => True
  | .saveFriendReplace _ => True

instance (flush : Flush Priv Key) (friend : String) : Decidable (flush.Holds friend) :=
  inferInstanceAs (Decidable (∃ entry ∈ flush.pending ++ flush.remaining, entry.friend = friend))

instance (race : Race Priv Key StorageKey Box) (friend : String) :
    Decidable (FlushHolds race friend) :=
  inferInstanceAs (Decidable (∃ item ∈ race.flushes.items, item.2.Holds friend))

instance (race : Race Priv Key StorageKey Box) (friend : String) :
    Decidable (CopyHolds race friend) :=
  inferInstanceAs (Decidable (∃ item ∈ race.copies.items, item.2.friend = friend))

instance (race : Race Priv Key StorageKey Box) (friend : String) : Decidable (Quiet race friend) :=
  decidable_of_iff ((race.service.dirty.get? friend).isNone ∧ ¬ FlushHolds race friend ∧
    ¬ CopyHolds race friend) (and_congr_left fun _ => Option.isNone_iff_eq_none)

instance (race : Race Priv Key StorageKey Box) : (event : Step Priv Key) →
    Decidable ((interleaved P cipher).enabled race event)
  | .load call friend => inferInstanceAs (Decidable ((race.loads.get? call).isNone ∧
      (loadedState cipher race.service friend).isOk))
  | .mark call _ => inferInstanceAs (Decidable ((race.loads.get? call).isSome = true))
  | .flushBegin call => inferInstanceAs (Decidable ((race.flushes.get? call).isNone = true))
  | .flushSave call _ _ =>
      decidable_of_iff (∃ flush ∈ race.flushes.get? call, flush.pending.isEmpty = false)
        (exists_congr fun flush => and_congr_right fun _ => by
          rw [List.isEmpty_eq_false_iff])
  | .flushEnd call =>
      decidable_of_iff (∃ flush ∈ race.flushes.get? call, flush.pending.isEmpty = true)
        (exists_congr fun flush => and_congr_right fun _ => List.isEmpty_iff)
  | .init .. => inferInstanceAs (Decidable True)
  | .delete .. => inferInstanceAs (Decidable True)
  | .saveFriendRead call _ => inferInstanceAs (Decidable ((race.copies.get? call).isNone = true))
  | .saveFriendReplace call =>
      inferInstanceAs (Decidable ((race.copies.get? call).isSome = true))

instance (race : Race Priv Key StorageKey Box) : (event : Step Priv Key) →
    Decidable (Apart race event)
  | .mark call _ => inferInstanceAs (Decidable
      (∀ load ∈ race.loads.get? call, load.session = race.session load.friend))
  | .flushBegin _ => inferInstanceAs (Decidable
      (∀ friend ∈ race.service.dirty.keys, ¬ FlushHolds race friend))
  | .flushSave call _ _ => inferInstanceAs (Decidable (∀ flush ∈ race.flushes.get? call,
      ∀ entry ∈ flush.pending.head?, ¬ CopyHolds race entry.friend))
  | .flushEnd call =>
      decidable_of_iff (∀ flush ∈ race.flushes.get? call, ∀ entry ∈ flush.remaining,
          (race.service.dirty.get? entry.friend).isNone)
        (forall₂_congr fun _ _ => forall₂_congr fun _ _ => Option.isNone_iff_eq_none)
  | .init _ friend .. => inferInstanceAs (Decidable (Quiet race friend))
  | .delete friend _ => inferInstanceAs (Decidable (Quiet race friend))
  | .load .. => inferInstanceAs (Decidable True)
  | .saveFriendRead .. => inferInstanceAs (Decidable True)
  | .saveFriendReplace _ => inferInstanceAs (Decidable True)

theorem flushHolds_iff {race : Race Priv Key StorageKey Box} {friend : String} :
    FlushHolds race friend ↔
      ∃ call flush, race.flushes.get? call = some flush ∧ flush.Holds friend := by
  constructor
  · intro holds
    obtain ⟨⟨call, flush⟩, member, held⟩ := holds
    exact ⟨call, flush, race.flushes.get?_of_mem member, held⟩
  · intro holds
    obtain ⟨call, flush, found, held⟩ := holds
    exact ⟨(call, flush), Dict.mem_of_get? found, held⟩

theorem copyHolds_iff {race : Race Priv Key StorageKey Box} {friend : String} :
    CopyHolds race friend ↔
      ∃ call copy, race.copies.get? call = some copy ∧ copy.friend = friend := by
  constructor
  · intro holds
    obtain ⟨⟨call, copy⟩, member, held⟩ := holds
    exact ⟨call, copy, race.copies.get?_of_mem member, held⟩
  · intro holds
    obtain ⟨call, copy, found, held⟩ := holds
    exact ⟨(call, copy), Dict.mem_of_get? found, held⟩

/-- What a state under way to the database may be. -/
structure Current (race : Race Priv Key StorageKey Box) (entry : Pending Priv Key) : Prop where
  session : entry.stamp.session = race.session entry.friend
  row : (race.rowStamp entry.friend).NotNewer entry.stamp
  latest : entry.stamp.NotNewer (race.latest entry.friend)
  only : race.service.dirty.get? entry.friend = none → entry.stamp = race.latest entry.friend

/-- Everything held for a friend is of the row's session and between the row and the latest. -/
structure InOrder (race : Race Priv Key StorageKey Box) : Prop where
  rowSession : ∀ friend, (race.rowStamp friend).session = race.session friend
  latestSession : ∀ friend, (race.latest friend).session = race.session friend
  rowOld : ∀ friend, (race.rowStamp friend).NotNewer (race.latest friend)
  clock : ∀ friend, (race.latest friend).time ≤ race.clock
  buffered : ∀ friend, (race.service.dirty.get? friend).isSome →
    race.bufferStamp friend = race.latest friend
  held : ∀ call flush, race.flushes.get? call = some flush →
    ∀ entry ∈ flush.pending ++ flush.remaining, Current race entry
  heldOnce : ∀ first second left right friend, race.flushes.get? first = some left →
    race.flushes.get? second = some right → left.Holds friend → right.Holds friend →
      first = second
  frames : ∀ call flush, race.flushes.get? call = some flush →
    ((flush.pending ++ flush.remaining).map Pending.friend).Nodup
  copies : ∀ call copy, race.copies.get? call = some copy →
    copy.existing = existingRatchetJson race.service copy.friend ∧
      copy.stamp = race.rowStamp copy.friend
  loads : ∀ call load, race.loads.get? call = some load →
    load.session ≤ race.session load.friend
  emptyBuffer : ∀ friend, existingRatchetJson race.service friend = none →
    race.service.dirty.get? friend = none
  emptyFlushes : ∀ friend, existingRatchetJson race.service friend = none →
    ¬ FlushHolds race friend
  emptyLoads : ∀ call load, race.loads.get? call = some load →
    existingRatchetJson race.service load.friend = none →
      load.session < race.session load.friend

/-- Nothing goes back: not the row, not the newest state made, and a session that is gone
stays gone. -/
structure Advances (before after : Race Priv Key StorageKey Box) : Prop where
  row : ∀ friend, (before.rowStamp friend).NotNewer (after.rowStamp friend)
  latest : ∀ friend, (before.latest friend).NotNewer (after.latest friend)
  session : ∀ friend, before.session friend ≤ after.session friend
  gone : ∀ friend, existingRatchetJson before.service friend = none →
    after.session friend = before.session friend →
      existingRatchetJson after.service friend = none

variable {race : Race Priv Key StorageKey Box}

theorem Advances.refl (race : Race Priv Key StorageKey Box) : Advances race race :=
  ⟨fun _ => .refl _, fun _ => .refl _, fun _ => Nat.le_refl _, fun _ empty _ => empty⟩

theorem Advances.trans {first second third : Race Priv Key StorageKey Box}
    (left : Advances first second) (right : Advances second third) : Advances first third := by
  refine ⟨fun friend => (left.row friend).trans (right.row friend),
    fun friend => (left.latest friend).trans (right.latest friend),
    fun friend => Nat.le_trans (left.session friend) (right.session friend), ?_⟩
  intro friend empty same
  have lower := left.session friend
  have upper := right.session friend
  exact right.gone friend (left.gone friend empty (by omega)) (by omega)

theorem InOrder.time_le (order : InOrder race) (friend : String) :
    (race.rowStamp friend).time ≤ race.clock := by
  have old := order.rowOld friend
  have bound := order.clock friend
  have row := order.rowSession friend
  have latest := order.latestSession friend
  unfold Stamp.NotNewer at old
  omega

theorem InOrder.mark (order : InOrder race) {call : Nat} {load : Loaded}
    (loaded : race.loads.get? call = some load)
    (current : load.session = race.session load.friend) (state : RatchetState Priv Key) :
    InOrder (applyMark race call state load) ∧ Advances race (applyMark race call state load) := by
  have nonempty : existingRatchetJson race.service load.friend ≠ none := by
    intro empty
    have gone := order.emptyLoads call load loaded empty
    omega
  have newest : ∀ stamp : Stamp, stamp.session = race.session load.friend →
      stamp.time ≤ race.clock → stamp.NotNewer ⟨load.session, race.clock + 1⟩ := by
    intro stamp session time
    right
    exact ⟨by rw [session, current], Nat.le_succ_of_le time⟩
  have latestSelf : (applyMark race call state load).latest load.friend =
      ⟨load.session, race.clock + 1⟩ := Function.update_self _ _ _
  have latestOther : ∀ friend, friend ≠ load.friend →
      (applyMark race call state load).latest friend = race.latest friend :=
    fun friend apart => Function.update_of_ne apart _ _
  have bufferSelf : (applyMark race call state load).bufferStamp load.friend =
      ⟨load.session, race.clock + 1⟩ := Function.update_self _ _ _
  have bufferOther : ∀ friend, friend ≠ load.friend →
      (applyMark race call state load).bufferStamp friend = race.bufferStamp friend :=
    fun friend apart => Function.update_of_ne apart _ _
  have dirty : ∀ friend, (applyMark race call state load).service.dirty.get? friend =
      if friend = load.friend then some state else race.service.dirty.get? friend :=
    fun friend => Dict.get?_set _ _ _ _
  have remaining : ∀ other found,
      (applyMark race call state load).loads.get? other = some found →
        race.loads.get? other = some found := by
    intro other found member
    have member : (race.loads.erase call).get? other = some found := member
    rw [Dict.get?_erase] at member
    split at member
    · cases member
    · exact member
  refine ⟨⟨order.rowSession, ?_, ?_, ?_, ?_, ?_, order.heldOnce, order.frames, order.copies,
    ?_, ?_, order.emptyFlushes, ?_⟩, ⟨fun _ => .refl _, ?_, fun _ => Nat.le_refl _,
    fun _ empty _ => empty⟩⟩
  · intro friend
    by_cases own : friend = load.friend
    · rw [own, latestSelf]
      exact current
    · rw [latestOther friend own]
      exact order.latestSession friend
  · intro friend
    by_cases own : friend = load.friend
    · rw [own, latestSelf]
      exact newest _ (order.rowSession _) (order.time_le _)
    · rw [latestOther friend own]
      exact order.rowOld friend
  · intro friend
    show ((applyMark race call state load).latest friend).time ≤ race.clock + 1
    by_cases own : friend = load.friend
    · rw [own, latestSelf]
    · rw [latestOther friend own]
      exact Nat.le_succ_of_le (order.clock friend)
  · intro friend present
    by_cases own : friend = load.friend
    · rw [own, latestSelf, bufferSelf]
    · rw [dirty, if_neg own] at present
      rw [latestOther friend own, bufferOther friend own]
      exact order.buffered friend present
  · intro other flush found entry member
    have entry_ok := order.held other flush found entry member
    refine ⟨entry_ok.session, entry_ok.row, ?_, ?_⟩
    · by_cases own : entry.friend = load.friend
      · have bound : entry.stamp.time ≤ race.clock := by
          have upper := entry_ok.latest
          have session := entry_ok.session
          have latestSession := order.latestSession entry.friend
          have clock := order.clock entry.friend
          unfold Stamp.NotNewer at upper
          omega
        rw [own, latestSelf]
        exact newest _ (by rw [← own]; exact entry_ok.session) bound
      · rw [latestOther _ own]
        exact entry_ok.latest
    · intro absent
      by_cases own : entry.friend = load.friend
      · rw [dirty, if_pos own] at absent
        cases absent
      · rw [dirty, if_neg own] at absent
        rw [latestOther _ own]
        exact entry_ok.only absent
  · intro other found member
    exact order.loads other found (remaining other found member)
  · intro friend empty
    by_cases own : friend = load.friend
    · rw [own] at empty
      exact absurd empty nonempty
    · rw [dirty, if_neg own]
      exact order.emptyBuffer friend empty
  · intro other found member empty
    exact order.emptyLoads other found (remaining other found member) empty
  · intro friend
    by_cases own : friend = load.friend
    · rw [own, latestSelf]
      exact newest _ (order.latestSession _) (order.clock _)
    · rw [latestOther friend own]
      exact .refl _

theorem InOrder.load (order : InOrder race) {call : Nat} {friend : String}
    (present : existingRatchetJson race.service friend ≠ none) :
    InOrder { race with loads := race.loads.set call ⟨friend, race.session friend⟩ } := by
  refine ⟨order.rowSession, order.latestSession, order.rowOld, order.clock, order.buffered,
    ?_, order.heldOnce, order.frames, order.copies, ?_, order.emptyBuffer, order.emptyFlushes, ?_⟩
  · exact fun other flush found entry member =>
      let entry_ok := order.held other flush found entry member
      ⟨entry_ok.session, entry_ok.row, entry_ok.latest, entry_ok.only⟩
  · intro other load found
    simp only [Dict.get?_set] at found
    split at found
    · cases found
      exact Nat.le_refl _
    · exact order.loads other load found
  · intro other load found empty
    simp only [Dict.get?_set] at found
    split at found
    · cases found
      exact absurd empty present
    · exact order.emptyLoads other load found empty

theorem InOrder.flushBegin (order : InOrder race) (call : Nat)
    (apart : ∀ friend ∈ race.service.dirty.keys, ¬ FlushHolds race friend) :
    InOrder (applyFlushBegin race call) ∧ Advances race (applyFlushBegin race call) := by
  have flushes : ∀ other, (applyFlushBegin race call).flushes.get? other =
      if other = call then some
        { pending := race.service.dirty.items.map fun item =>
            ⟨item.1, item.2, race.bufferStamp item.1⟩
          remaining := [] }
      else race.flushes.get? other := fun other => Dict.get?_set _ _ _ _
  have taken : ∀ entry : Pending Priv Key,
      entry ∈ (race.service.dirty.items.map fun item =>
        (⟨item.1, item.2, race.bufferStamp item.1⟩ : Pending Priv Key)) ++ [] →
      race.service.dirty.get? entry.friend = some entry.state ∧
        entry.stamp = race.bufferStamp entry.friend := by
    intro entry member
    rw [List.append_nil] at member
    obtain ⟨item, inside, rfl⟩ := List.mem_map.mp member
    exact ⟨race.service.dirty.get?_of_mem inside, rfl⟩
  have buffered_key : ∀ friend state, race.service.dirty.get? friend = some state →
      friend ∈ race.service.dirty.keys :=
    fun friend state found => List.mem_map_of_mem (Dict.mem_of_get? found)
  refine ⟨⟨order.rowSession, order.latestSession, order.rowOld, order.clock, ?_, ?_, ?_, ?_,
    order.copies, order.loads, fun _ _ => rfl, ?_, order.emptyLoads⟩,
    ⟨fun _ => .refl _, fun _ => .refl _, fun _ => Nat.le_refl _, fun _ empty _ => empty⟩⟩
  · intro friend present
    cases present
  · intro other flush found entry member
    rw [flushes] at found
    split at found
    · cases found
      obtain ⟨stored, stamped⟩ := taken entry member
      have latest := order.buffered entry.friend (by rw [stored]; rfl)
      have same : entry.stamp = race.latest entry.friend := stamped.trans latest
      refine ⟨?_, ?_, ?_, fun _ => same⟩
      · rw [same]
        exact order.latestSession _
      · rw [same]
        exact order.rowOld _
      · rw [same]
        exact .refl _
    · have entry_ok := order.held other flush found entry member
      refine ⟨entry_ok.session, entry_ok.row, entry_ok.latest, fun _ => entry_ok.only ?_⟩
      cases stored : race.service.dirty.get? entry.friend with
      | none => rfl
      | some state =>
          exact absurd (flushHolds_iff.mpr ⟨other, flush, found, entry, member, rfl⟩)
            (apart _ (buffered_key _ state stored))
  · have only : ∀ other flush friend, race.flushes.get? other = some flush →
        flush.Holds friend → ∀ entry : Pending Priv Key,
          entry ∈ (race.service.dirty.items.map fun item =>
            (⟨item.1, item.2, race.bufferStamp item.1⟩ : Pending Priv Key)) ++ [] →
          entry.friend ≠ friend := by
      intro other flush friend found holds entry member same
      have stored := (taken entry member).1
      rw [same] at stored
      exact apart _ (buffered_key _ _ stored) (flushHolds_iff.mpr ⟨other, flush, found, holds⟩)
    intro first second left right friend foundLeft foundRight holdsLeft holdsRight
    rw [flushes] at foundLeft foundRight
    split at foundLeft
    · rename_i firstNew
      split at foundRight
      · rename_i secondNew
        rw [firstNew, secondNew]
      · cases foundLeft
        obtain ⟨entry, member, same⟩ := holdsLeft
        exact absurd same (only second right friend foundRight holdsRight entry member)
    · split at foundRight
      · cases foundRight
        obtain ⟨entry, member, same⟩ := holdsRight
        exact absurd same (only first left friend foundLeft holdsLeft entry member)
      · exact order.heldOnce first second left right friend foundLeft foundRight holdsLeft
          holdsRight
  · intro other flush found
    rw [flushes] at found
    split at found
    · cases found
      simp only [List.append_nil, List.map_map]
      exact race.service.dirty.nodup
    · exact order.frames other flush found
  · intro friend empty holds
    obtain ⟨other, flush, found, held⟩ := flushHolds_iff.mp holds
    rw [flushes] at found
    split at found
    · cases found
      obtain ⟨entry, member, same⟩ := held
      have stored := (taken entry member).1
      have absent := order.emptyBuffer friend empty
      rw [same, absent] at stored
      cases stored
    · exact order.emptyFlushes friend empty (flushHolds_iff.mpr ⟨other, flush, found, held⟩)

/-- Every flush holds at most what it held before. -/
def FlushesWithin (next race : Race Priv Key StorageKey Box) : Prop :=
  ∀ call held, next.flushes.get? call = some held → ∃ old, race.flushes.get? call = some old ∧
    ∀ entry ∈ held.pending ++ held.remaining, entry ∈ old.pending ++ old.remaining

theorem FlushesWithin.holds {next : Race Priv Key StorageKey Box}
    (within : FlushesWithin next race) {friend : String} (holds : FlushHolds next friend) :
    FlushHolds race friend := by
  obtain ⟨call, flush, found, entry, member, same⟩ := flushHolds_iff.mp holds
  obtain ⟨old, foundOld, subset⟩ := within call flush found
  exact flushHolds_iff.mpr ⟨call, old, foundOld, entry, subset entry member, same⟩

theorem FlushesWithin.heldOnce {next : Race Priv Key StorageKey Box}
    (within : FlushesWithin next race) (order : InOrder race) :
    ∀ first second left right friend, next.flushes.get? first = some left →
      next.flushes.get? second = some right → left.Holds friend → right.Holds friend →
        first = second := by
  intro first second left right friend foundLeft foundRight holdsLeft holdsRight
  obtain ⟨oldLeft, storedLeft, subsetLeft⟩ := within first left foundLeft
  obtain ⟨oldRight, storedRight, subsetRight⟩ := within second right foundRight
  obtain ⟨entry, member, same⟩ := holdsLeft
  obtain ⟨other, otherMember, otherSame⟩ := holdsRight
  exact order.heldOnce first second oldLeft oldRight friend storedLeft storedRight
    ⟨entry, subsetLeft entry member, same⟩ ⟨other, subsetRight other otherMember, otherSame⟩

theorem flushesWithin_of_set {next : Race Priv Key StorageKey Box} {call : Nat}
    {flush after : Flush Priv Key} (found : race.flushes.get? call = some flush)
    (flushes : next.flushes = race.flushes.set call after)
    (subset : ∀ entry ∈ after.pending ++ after.remaining,
      entry ∈ flush.pending ++ flush.remaining) : FlushesWithin next race := by
  intro other held stored
  rw [flushes, Dict.get?_set] at stored
  split at stored
  · rename_i same
    cases stored
    exact ⟨flush, by rw [same]; exact found, subset⟩
  · exact ⟨held, stored, fun entry member => member⟩

theorem frames_of_set {next : Race Priv Key StorageKey Box} (order : InOrder race) {call : Nat}
    {after : Flush Priv Key} (flushes : next.flushes = race.flushes.set call after)
    (distinct : ((after.pending ++ after.remaining).map Pending.friend).Nodup) :
    ∀ other held, next.flushes.get? other = some held →
      ((held.pending ++ held.remaining).map Pending.friend).Nodup := by
  intro other held stored
  rw [flushes, Dict.get?_set] at stored
  split at stored
  · cases stored
    exact distinct
  · exact order.frames other held stored

/-- A flush whose entries only move between its lists, or are dropped. -/
theorem InOrder.flushMove (order : InOrder race) {call : Nat} {flush : Flush Priv Key}
    (after : Flush Priv Key) (found : race.flushes.get? call = some flush)
    (subset : ∀ entry ∈ after.pending ++ after.remaining,
      entry ∈ flush.pending ++ flush.remaining)
    (distinct : ((after.pending ++ after.remaining).map Pending.friend).Nodup) :
    InOrder { race with flushes := race.flushes.set call after } := by
  have within : FlushesWithin { race with flushes := race.flushes.set call after } race :=
    flushesWithin_of_set found rfl subset
  refine ⟨order.rowSession, order.latestSession, order.rowOld, order.clock, order.buffered, ?_,
    within.heldOnce order, frames_of_set order rfl distinct, order.copies, order.loads,
    order.emptyBuffer, ?_, order.emptyLoads⟩
  · intro other held stored moved member
    obtain ⟨old, foundOld, inside⟩ := within other held stored
    have entry_ok := order.held other old foundOld moved (inside moved member)
    exact ⟨entry_ok.session, entry_ok.row, entry_ok.latest, entry_ok.only⟩
  · exact fun friend empty holds => order.emptyFlushes friend empty (within.holds holds)

/-- A save that goes through brings the row up to its entry. -/
theorem InOrder.flushWrite (order : InOrder race) {call : Nat} {flush : Flush Priv Key}
    (found : race.flushes.get? call = some flush) {entry : Pending Priv Key}
    {rest : List (Pending Priv Key)} (head : flush.pending = entry :: rest)
    (apart : ¬ CopyHolds race entry.friend) (blob : Blob Priv Key Box)
    (row : (race.service.rows.get? entry.friend).isSome) :
    let next : Race Priv Key StorageKey Box :=
      { race with
        service :=
          { race.service with
            rows := updateRow race.service.rows entry.friend (some blob) }
        flushes := race.flushes.set call { flush with pending := rest }
        rowStamp := Function.update race.rowStamp entry.friend entry.stamp }
    InOrder next ∧ Advances race next := by
  intro next
  have existing : ∀ friend, existingRatchetJson next.service friend =
      if friend = entry.friend then some blob else existingRatchetJson race.service friend := by
    intro friend
    simp only [next, existingRatchetJson, get?_updateRow, row, and_true]
    split <;> rfl
  have stampSelf : next.rowStamp entry.friend = entry.stamp := Function.update_self _ _ _
  have stampOther : ∀ friend, friend ≠ entry.friend →
      next.rowStamp friend = race.rowStamp friend :=
    fun friend differs => Function.update_of_ne differs _ _
  have nonempty : ∀ friend, existingRatchetJson next.service friend = none →
      friend ≠ entry.friend ∧ existingRatchetJson race.service friend = none := by
    intro friend empty
    rw [existing] at empty
    split at empty
    · cases empty
    · rename_i differs
      exact ⟨differs, empty⟩
  have within : FlushesWithin next race := by
    refine flushesWithin_of_set found rfl ?_
    intro other member
    rw [head]
    exact List.mem_cons_of_mem _ member
  have distinct := order.frames call flush found
  rw [head, List.cons_append, List.map_cons, List.nodup_cons] at distinct
  have own := order.held call flush found entry (by rw [head]; exact List.mem_cons_self)
  have released : ∀ other held, next.flushes.get? other = some held →
      ∀ left ∈ held.pending ++ held.remaining, left.friend ≠ entry.friend := by
    intro other held stored left member same
    have stored := stored
    simp only [next, Dict.get?_set] at stored
    split at stored
    · cases stored
      exact distinct.1 (same ▸ List.mem_map_of_mem member)
    · rename_i another
      exact another (order.heldOnce other call held flush entry.friend stored found
        ⟨left, member, same⟩ ⟨entry, by rw [head]; exact List.mem_cons_self, rfl⟩)
  refine ⟨⟨?_, order.latestSession, ?_, order.clock, order.buffered, ?_, within.heldOnce order,
    ?_, ?_, order.loads, ?_, ?_, ?_⟩, ⟨?_, fun _ => .refl _, fun _ => Nat.le_refl _, ?_⟩⟩
  · intro friend
    by_cases same : friend = entry.friend
    · rw [same, stampSelf]
      exact own.session
    · rw [stampOther friend same]
      exact order.rowSession friend
  · intro friend
    by_cases same : friend = entry.friend
    · rw [same, stampSelf]
      exact own.latest
    · rw [stampOther friend same]
      exact order.rowOld friend
  · intro other held stored left member
    obtain ⟨old, foundOld, subset⟩ := within other held stored
    have left_ok := order.held other old foundOld left (subset left member)
    refine ⟨left_ok.session, ?_, left_ok.latest, left_ok.only⟩
    rw [stampOther _ (released other held stored left member)]
    exact left_ok.row
  · exact frames_of_set order rfl distinct.2
  · intro other copy stored
    have differs : copy.friend ≠ entry.friend :=
      fun same => apart (copyHolds_iff.mpr ⟨other, copy, stored, same⟩)
    rw [existing, if_neg differs, stampOther _ differs]
    exact order.copies other copy stored
  · exact fun friend empty => order.emptyBuffer friend (nonempty friend empty).2
  · exact fun friend empty holds =>
      order.emptyFlushes friend (nonempty friend empty).2 (within.holds holds)
  · exact fun other load stored empty => order.emptyLoads other load stored (nonempty _ empty).2
  · intro friend
    by_cases same : friend = entry.friend
    · rw [same, stampSelf]
      exact own.row
    · rw [stampOther friend same]
      exact .refl _
  · intro friend empty _
    rw [existing]
    split
    · rename_i same
      rw [same] at empty
      exact absurd (flushHolds_iff.mpr ⟨call, flush, found, entry,
        by rw [head]; exact List.mem_cons_self, rfl⟩) (order.emptyFlushes _ empty)
    · exact empty

theorem InOrder.flushSave (order : InOrder race) {call : Nat} {flush : Flush Priv Key}
    (found : race.flushes.get? call = some flush) {entry : Pending Priv Key}
    {rest : List (Pending Priv Key)} (head : flush.pending = entry :: rest)
    (apart : ¬ CopyHolds race entry.friend) (nonce : Bytes) (fails : Bool) :
    InOrder (applyFlushSave cipher race call flush entry rest nonce fails) ∧
      Advances race (applyFlushSave cipher race call flush entry rest nonce fails) := by
  have distinct := order.frames call flush found
  have permuted : (rest ++ (flush.remaining ++ [entry])).Perm
      (flush.pending ++ flush.remaining) := by
    rw [head, ← List.append_assoc]
    exact List.perm_append_singleton _ _
  have kept := order.flushMove ⟨rest, flush.remaining ++ [entry]⟩ found
    (fun other member => permuted.mem_iff.mp member)
    ((permuted.map Pending.friend).nodup_iff.mpr distinct)
  rw [head, List.cons_append, List.map_cons, List.nodup_cons] at distinct
  have dropped := order.flushMove ⟨rest, flush.remaining⟩ found
    (fun other member => by rw [head]; exact List.mem_cons_of_mem _ member) distinct.2
  have same : Advances race
      { race with flushes := race.flushes.set call ⟨rest, flush.remaining ++ [entry]⟩ } :=
    ⟨fun _ => .refl _, fun _ => .refl _, fun _ => Nat.le_refl _, fun _ empty _ => empty⟩
  by_cases blocked : race.service.storageKey = none ∨ fails = true
  · obtain ⟨raised, ran⟩ :=
      saveRatchetState_run_error cipher entry.friend entry.state nonce blocked
    simp only [applyFlushSave, ran]
    exact ⟨kept, same⟩
  · rw [not_or, Bool.not_eq_true] at blocked
    obtain ⟨key, present⟩ := Option.ne_none_iff_exists'.mp blocked.1
    have ran := saveRatchetState_run_ok cipher entry.friend entry.state nonce present
    by_cases row : (race.service.rows.get? entry.friend).isSome
    · simp only [applyFlushSave, blocked.2, ran, row, if_true]
      exact order.flushWrite found head apart _ row
    · rw [updateRow_of_absent _ _ row] at ran
      simp only [applyFlushSave, blocked.2, ran, row, if_false, Bool.false_eq_true]
      exact ⟨dropped, fun _ => .refl _, fun _ => .refl _, fun _ => Nat.le_refl _,
        fun _ empty _ => empty⟩

/-- Merging back what could not be saved, where nothing newer was buffered. -/
theorem InOrder.flushEnd (order : InOrder race) {call : Nat} {flush : Flush Priv Key}
    (found : race.flushes.get? call = some flush)
    (apart : ∀ entry ∈ flush.remaining, race.service.dirty.get? entry.friend = none) :
    InOrder (applyFlushEnd race call flush) ∧ Advances race (applyFlushEnd race call flush) := by
  have distinct : (flush.remaining.map Pending.friend).Nodup := by
    have all := order.frames call flush found
    rw [List.map_append] at all
    exact (List.nodup_append.mp all).2.1
  have keys : (flush.remaining.map fun entry => (entry.friend, entry.state)).map Prod.fst =
      flush.remaining.map Pending.friend := by
    rw [List.map_map]
    rfl
  have restored : ∀ entry ∈ flush.remaining,
      (applyFlushEnd race call flush).service.dirty.get? entry.friend = some entry.state ∧
        (applyFlushEnd race call flush).bufferStamp entry.friend = entry.stamp := by
    intro entry member
    constructor
    · apply Dict.get?_update_of_mem
      · rw [keys]
        exact distinct
      · exact List.mem_map_of_mem member
    · show (match flush.remaining.find? (fun other => other.friend = entry.friend) with
        | some other => other.stamp
        | none => race.bufferStamp entry.friend) = entry.stamp
      cases first : flush.remaining.find? (fun other => other.friend = entry.friend) with
      | none =>
          have missing := List.find?_eq_none.mp first entry member
          simp only [decide_true, not_true_eq_false] at missing
      | some other =>
          have inside := List.mem_of_find?_eq_some first
          have equal := List.find?_some first
          simp only [decide_eq_true_eq] at equal
          rw [List.inj_on_of_nodup_map distinct inside member equal]
  have untouched : ∀ friend, (∀ entry ∈ flush.remaining, entry.friend ≠ friend) →
      (applyFlushEnd race call flush).service.dirty.get? friend =
          race.service.dirty.get? friend ∧
        (applyFlushEnd race call flush).bufferStamp friend = race.bufferStamp friend := by
    intro friend absent
    constructor
    · apply Dict.get?_update_of_not_mem
      rw [keys]
      intro member
      obtain ⟨entry, inside, same⟩ := List.mem_map.mp member
      exact absent entry inside same
    · show (match flush.remaining.find? (fun other => other.friend = friend) with
        | some other => other.stamp
        | none => race.bufferStamp friend) = race.bufferStamp friend
      have none_found : flush.remaining.find? (fun other => other.friend = friend) = none := by
        apply List.find?_eq_none.mpr
        intro entry inside same
        exact absent entry inside (of_decide_eq_true same)
      rw [none_found]
  have cases_of : ∀ friend, (∃ entry ∈ flush.remaining, entry.friend = friend) ∨
      ∀ entry ∈ flush.remaining, entry.friend ≠ friend := by
    intro friend
    by_cases present : ∃ entry ∈ flush.remaining, entry.friend = friend
    · exact Or.inl present
    · exact Or.inr fun entry member same => present ⟨entry, member, same⟩
  have within : FlushesWithin (applyFlushEnd race call flush) race := by
    intro other held stored
    have stored : (race.flushes.erase call).get? other = some held := stored
    rw [Dict.get?_erase] at stored
    split at stored
    · cases stored
    · exact ⟨held, stored, fun entry member => member⟩
  refine ⟨⟨order.rowSession, order.latestSession, order.rowOld, order.clock, ?_, ?_,
    within.heldOnce order, ?_, order.copies, order.loads, ?_, ?_, order.emptyLoads⟩,
    ⟨fun _ => .refl _, fun _ => .refl _, fun _ => Nat.le_refl _, fun _ empty _ => empty⟩⟩
  · intro friend present
    rcases cases_of friend with ⟨entry, member, same⟩ | absent
    · rw [← same, (restored entry member).2]
      exact (order.held call flush found entry (List.mem_append_right _ member)).only
        (apart entry member)
    · rw [(untouched friend absent).1] at present
      rw [(untouched friend absent).2]
      exact order.buffered friend present
  · intro other held stored entry member
    obtain ⟨old, foundOld, subset⟩ := within other held stored
    have entry_ok := order.held other old foundOld entry (subset entry member)
    refine ⟨entry_ok.session, entry_ok.row, entry_ok.latest, ?_⟩
    intro absent
    rcases cases_of entry.friend with ⟨merged, inside, same⟩ | missing
    · rw [← same, (restored merged inside).1] at absent
      cases absent
    · rw [(untouched _ missing).1] at absent
      exact entry_ok.only absent
  · intro other held stored
    have stored : (race.flushes.erase call).get? other = some held := stored
    rw [Dict.get?_erase] at stored
    split at stored
    · cases stored
    · exact order.frames other held stored
  · intro friend empty
    rcases cases_of friend with ⟨entry, member, same⟩ | absent
    · exact absurd (flushHolds_iff.mpr ⟨call, flush, found, entry,
        List.mem_append_right _ member, same⟩) (order.emptyFlushes friend empty)
    · rw [(untouched friend absent).1]
      exact order.emptyBuffer friend empty
  · exact fun friend empty holds => order.emptyFlushes friend empty (within.holds holds)

/-- A quiet friend's row changes hands. -/
theorem InOrder.newSession (order : InOrder race) {friend : String} (quiet : Quiet race friend)
    {service : Service Priv Key StorageKey Box} (dirty : service.dirty = race.service.dirty)
    (others : ∀ other, other ≠ friend →
      existingRatchetJson service other = existingRatchetJson race.service other) :
    InOrder (newSession race friend service) ∧ Advances race (newSession race friend service) := by
  have sessionSelf : (RatchetService.newSession race friend service).session friend =
      race.session friend + 1 := Function.update_self _ _ _
  have sessionOther : ∀ other, other ≠ friend →
      (RatchetService.newSession race friend service).session other = race.session other :=
    fun other apart => Function.update_of_ne apart _ _
  have rowSelf : (RatchetService.newSession race friend service).rowStamp friend =
      ⟨race.session friend + 1, race.clock + 1⟩ := Function.update_self _ _ _
  have rowOther : ∀ other, other ≠ friend →
      (RatchetService.newSession race friend service).rowStamp other = race.rowStamp other :=
    fun other apart => Function.update_of_ne apart _ _
  have latestSelf : (RatchetService.newSession race friend service).latest friend =
      ⟨race.session friend + 1, race.clock + 1⟩ := Function.update_self _ _ _
  have latestOther : ∀ other, other ≠ friend →
      (RatchetService.newSession race friend service).latest other = race.latest other :=
    fun other apart => Function.update_of_ne apart _ _
  obtain ⟨unbuffered, unflushed, uncopied⟩ := quiet
  refine ⟨⟨?_, ?_, ?_, ?_, ?_, ?_, order.heldOnce, order.frames, ?_, ?_, ?_, ?_, ?_⟩, ?_⟩
  · intro other
    by_cases own : other = friend
    · rw [own, rowSelf, sessionSelf]
    · rw [rowOther other own, sessionOther other own]
      exact order.rowSession other
  · intro other
    by_cases own : other = friend
    · rw [own, latestSelf, sessionSelf]
    · rw [latestOther other own, sessionOther other own]
      exact order.latestSession other
  · intro other
    by_cases own : other = friend
    · rw [own, latestSelf, rowSelf]
      exact .refl _
    · rw [latestOther other own, rowOther other own]
      exact order.rowOld other
  · intro other
    show ((RatchetService.newSession race friend service).latest other).time ≤ race.clock + 1
    by_cases own : other = friend
    · rw [own, latestSelf]
    · rw [latestOther other own]
      exact Nat.le_succ_of_le (order.clock other)
  · intro other present
    have present : (race.service.dirty.get? other).isSome := by rwa [← dirty]
    by_cases own : other = friend
    · rw [own, unbuffered] at present
      cases present
    · rw [latestOther other own]
      exact order.buffered other present
  · intro call flush found entry member
    have differs : entry.friend ≠ friend :=
      fun same => unflushed (flushHolds_iff.mpr ⟨call, flush, found, entry, member, same⟩)
    have entry_ok := order.held call flush found entry member
    refine ⟨?_, ?_, ?_, ?_⟩
    · rw [sessionOther _ differs]
      exact entry_ok.session
    · rw [rowOther _ differs]
      exact entry_ok.row
    · rw [latestOther _ differs]
      exact entry_ok.latest
    · intro absent
      have absent : service.dirty.get? entry.friend = none := absent
      rw [latestOther _ differs]
      exact entry_ok.only (by rwa [← dirty])
  · intro call copy found
    have differs : copy.friend ≠ friend :=
      fun same => uncopied (copyHolds_iff.mpr ⟨call, copy, found, same⟩)
    obtain ⟨existing, stamp⟩ := order.copies call copy found
    rw [rowOther _ differs]
    exact ⟨existing.trans (others _ differs).symm, stamp⟩
  · intro call load found
    have older := order.loads call load found
    by_cases own : load.friend = friend
    · rw [own] at older ⊢
      rw [sessionSelf]
      omega
    · rw [sessionOther _ own]
      exact older
  · intro other empty
    show service.dirty.get? other = none
    rw [dirty]
    by_cases own : other = friend
    · rw [own]
      exact unbuffered
    · have empty : existingRatchetJson service other = none := empty
      exact order.emptyBuffer other (by rwa [← others other own])
  · intro other empty holds
    have holds : FlushHolds race other := holds
    by_cases own : other = friend
    · rw [own] at holds
      exact unflushed holds
    · have empty : existingRatchetJson service other = none := empty
      exact order.emptyFlushes other (by rwa [← others other own]) holds
  · intro call load found empty
    by_cases own : load.friend = friend
    · have older := order.loads call load found
      rw [own] at older ⊢
      rw [sessionSelf]
      omega
    · have empty : existingRatchetJson service load.friend = none := empty
      rw [sessionOther _ own]
      exact order.emptyLoads call load found (by rwa [← others _ own])
  · refine ⟨?_, ?_, ?_, ?_⟩
    · intro other
      by_cases own : other = friend
      · rw [own, rowSelf]
        refine Or.inl ?_
        rw [order.rowSession]
        exact Nat.lt_succ_self _
      · rw [rowOther other own]
        exact .refl _
    · intro other
      by_cases own : other = friend
      · rw [own, latestSelf]
        refine Or.inl ?_
        rw [order.latestSession]
        exact Nat.lt_succ_self _
      · rw [latestOther other own]
        exact .refl _
    · intro other
      by_cases own : other = friend
      · rw [own, sessionSelf]
        exact Nat.le_succ _
      · rw [sessionOther other own]
    · intro other empty same
      by_cases own : other = friend
      · rw [own, sessionSelf] at same
        omega
      · show existingRatchetJson service other = none
        rw [others other own]
        exact empty

/-- What an initialisation that returned did to the service: one write to one row. -/
theorem initRatchet_ok {role : Party} {friend : String} {fresh : Priv} {dhPub : PubBytes}
    {sharedSecret : Key} {localDhPriv : Option Priv} {nonce : Bytes} {fails : Bool}
    {service after : Service Priv Key StorageKey Box} {state : RatchetState Priv Key}
    (success : (initRatchet P cipher role friend fresh dhPub sharedSecret localDhPriv nonce
      fails).run service = (.ok state, after)) :
    ∃ blob, after = { service with rows := updateRow service.rows friend (some blob) } := by
  simp only [initRatchet] at success
  split at success
  · rename_i made _
    obtain ⟨_, saved, first, success⟩ := Call.ok_of_run_bind success
    by_cases blocked : service.storageKey = none ∨ fails = true
    · obtain ⟨raised, ran⟩ := saveRatchetState_run_error cipher friend made nonce blocked
      rw [ran] at first
      cases first
    · rw [not_or, Bool.not_eq_true] at blocked
      obtain ⟨key, present⟩ := Option.ne_none_iff_exists'.mp blocked.1
      rw [blocked.2, saveRatchetState_run_ok cipher friend made nonce present] at first
      cases first
      cases success
      exact ⟨_, rfl⟩
  · cases success

theorem initRatchet_error {role : Party} {friend : String} {fresh : Priv} {dhPub : PubBytes}
    {sharedSecret : Key} {localDhPriv : Option Priv} {nonce : Bytes} {fails : Bool}
    {service after : Service Priv Key StorageKey Box} {raised : ServiceError}
    (failed : (initRatchet P cipher role friend fresh dhPub sharedSecret localDhPriv nonce
      fails).run service = (.error raised, after)) : after = service := by
  simp only [initRatchet] at failed
  split at failed
  · rename_i made _
    by_cases blocked : service.storageKey = none ∨ fails = true
    · obtain ⟨reason, ran⟩ := saveRatchetState_run_error cipher friend made nonce blocked
      rw [Call.run_bind_of_error ran] at failed
      cases failed
      rfl
    · rw [not_or, Bool.not_eq_true] at blocked
      obtain ⟨key, present⟩ := Option.ne_none_iff_exists'.mp blocked.1
      rw [blocked.2, Call.run_bind_of_ok
        (saveRatchetState_run_ok cipher friend made nonce present)] at failed
      cases failed
  · cases failed
    rfl

theorem existingRatchetJson_updateRow (service : Service Priv Key StorageKey Box)
    (friend other : String) (value : Option (Blob Priv Key Box)) (apart : other ≠ friend) :
    existingRatchetJson { service with rows := updateRow service.rows friend value } other =
      existingRatchetJson service other := by
  simp only [existingRatchetJson, get?_updateRow, apart, false_and, if_false]

theorem InOrder.init (order : InOrder race) {role : Party} {friend : String} {fresh : Priv}
    {dhPub : PubBytes} {sharedSecret : Key} {localDhPriv : Option Priv} {nonce : Bytes}
    {fails : Bool} (quiet : Quiet race friend) :
    InOrder (applyInit P cipher race role friend fresh dhPub sharedSecret localDhPriv nonce
        fails) ∧
      Advances race (applyInit P cipher race role friend fresh dhPub sharedSecret localDhPriv
        nonce fails) := by
  rcases ran : (initRatchet P cipher role friend fresh dhPub sharedSecret localDhPriv nonce
    fails).run race.service with ⟨outcome, after⟩
  cases outcome with
  | error raised =>
      rw [initRatchet_error P cipher ran] at ran
      simp only [applyInit, ran]
      exact ⟨order, .refl race⟩
  | ok state =>
      obtain ⟨blob, written⟩ := initRatchet_ok P cipher ran
      by_cases row : (race.service.rows.get? friend).isSome
      · simp only [applyInit, ran, row, if_true]
        refine order.newSession quiet (by rw [written]) ?_
        intro other apart
        rw [written]
        exact existingRatchetJson_updateRow _ _ _ _ apart
      · rw [updateRow_of_absent _ _ row] at written
        simp only [applyInit, ran, row, if_false, Bool.false_eq_true]
        rw [written]
        exact ⟨order, .refl race⟩

theorem InOrder.delete (order : InOrder race) {friend : String} (quiet : Quiet race friend)
    (fails : Bool) :
    InOrder (applyDelete race friend fails) ∧ Advances race (applyDelete race friend fails) := by
  cases fails with
  | true => exact ⟨order, .refl race⟩
  | false =>
      cases row : race.service.rows.get? friend with
      | none =>
          simp only [applyDelete, deleteRatchet, Bool.false_eq_true, ↓reduceIte,
            Call.run_read_bind, row, Call.run_pure]
          exact ⟨order, .refl race⟩
      | some value =>
          cases value with
          | none =>
              simp only [applyDelete, deleteRatchet, Bool.false_eq_true, ↓reduceIte,
                Call.run_read_bind, row, Call.run_pure]
              exact ⟨order, .refl race⟩
          | some blob =>
              simp only [applyDelete, deleteRatchet, Bool.false_eq_true, ↓reduceIte,
                Call.run_read_bind, row, Call.run_modify_bind, Call.run_pure]
              refine order.newSession quiet ?_ ?_
              · rfl
              · exact fun other apart => existingRatchetJson_updateRow _ _ _ _ apart

theorem InOrder.saveFriendRead (order : InOrder race) (call : Nat) (friend : String) :
    InOrder { race with
      copies := race.copies.set call
        ⟨friend, existingRatchetJson race.service friend, race.rowStamp friend⟩ } := by
  refine ⟨order.rowSession, order.latestSession, order.rowOld, order.clock, order.buffered,
    ?_, order.heldOnce, order.frames, ?_, order.loads, order.emptyBuffer, order.emptyFlushes,
    order.emptyLoads⟩
  · exact fun other flush found entry member =>
      let entry_ok := order.held other flush found entry member
      ⟨entry_ok.session, entry_ok.row, entry_ok.latest, entry_ok.only⟩
  · intro other copy found
    simp only [Dict.get?_set] at found
    split at found
    · cases found
      exact ⟨rfl, rfl⟩
    · exact order.copies other copy found

/-- Replacing a row by a copy of itself. -/
theorem InOrder.saveFriendReplace (order : InOrder race) {call : Nat}
    {copy : Copying Priv Key Box} (found : race.copies.get? call = some copy) :
    let next : Race Priv Key StorageKey Box :=
      { race with
        service := ((replaceFriendRow copy.friend copy.existing).run race.service).2
        copies := race.copies.erase call
        rowStamp := Function.update race.rowStamp copy.friend copy.stamp }
    InOrder next ∧ Advances race next := by
  intro next
  obtain ⟨carried, stamp⟩ := order.copies call copy found
  have stamps : next.rowStamp = race.rowStamp := by
    simp only [next, stamp, Function.update_eq_self]
  have existing : ∀ friend, existingRatchetJson next.service friend =
      existingRatchetJson race.service friend := by
    intro friend
    simp only [next, replaceFriendRow, Call.run_modify, existingRatchetJson, Dict.get?_set,
      Dict.get?_erase]
    by_cases own : friend = copy.friend
    · rw [own, if_pos rfl, carried]
      rfl
    · rw [if_neg own, if_neg own]
  refine ⟨⟨?_, order.latestSession, ?_, order.clock, order.buffered, ?_, order.heldOnce,
    order.frames, ?_, order.loads, ?_, ?_, ?_⟩, ⟨?_, fun _ => .refl _, fun _ => Nat.le_refl _, ?_⟩⟩
  · rw [stamps]
    exact order.rowSession
  · rw [stamps]
    exact order.rowOld
  · intro other flush stored entry member
    have entry_ok := order.held other flush stored entry member
    refine ⟨entry_ok.session, ?_, entry_ok.latest, entry_ok.only⟩
    rw [stamps]
    exact entry_ok.row
  · intro other left stored
    have stored : (race.copies.erase call).get? other = some left := stored
    rw [Dict.get?_erase] at stored
    split at stored
    · cases stored
    · rw [existing, stamps]
      exact order.copies other left stored
  · intro friend empty
    rw [existing] at empty
    exact order.emptyBuffer friend empty
  · intro friend empty
    rw [existing] at empty
    exact order.emptyFlushes friend empty
  · intro other load stored empty
    rw [existing] at empty
    exact order.emptyLoads other load stored empty
  · intro friend
    rw [stamps]
    exact .refl _
  · intro friend empty _
    rw [existing]
    exact empty

variable (nonce : String → Bytes) (fails : String → Bool)

theorem inOrder_start {race : Race Priv Key StorageKey Box}
    (initial : (interleaved P cipher).start race) : InOrder race := by
  obtain ⟨dirty, flushes, copies, loads, clock, session, rowStamp, latest⟩ := initial
  refine ⟨?_, ?_, ?_, ?_, ?_, ?_, ?_, ?_, ?_, ?_, ?_, ?_, ?_⟩
  · intro friend
    rw [rowStamp, session]
  · intro friend
    rw [latest, session]
  · intro friend
    rw [rowStamp, latest]
    exact .refl _
  · intro friend
    rw [latest]
    exact Nat.zero_le _
  · intro friend present
    rw [dirty] at present
    cases present
  · intro call flush found
    rw [flushes] at found
    cases found
  · intro first second left right friend found
    rw [flushes] at found
    cases found
  · intro call flush found
    rw [flushes] at found
    cases found
  · intro call copy found
    rw [copies] at found
    cases found
  · intro call load found
    rw [loads] at found
    cases found
  · intro friend _
    rw [dirty]
    rfl
  · intro friend _ holds
    obtain ⟨call, flush, found, _⟩ := flushHolds_iff.mp holds
    rw [flushes] at found
    cases found
  · intro call load found
    rw [loads] at found
    cases found

/-- A state that loads has a blob behind it. -/
theorem existing_of_loadedState {service : Service Priv Key StorageKey Box} {friend : String}
    (loaded : (loadedState cipher service friend).isOk) :
    existingRatchetJson service friend ≠ none := by
  intro empty
  rw [existingRatchetJson, Option.join_eq_none_iff] at empty
  rcases empty with missing | null
  · simp only [loadedState, getRatchetState, Call.run_read_bind, missing, Call.run_raise] at loaded
    cases loaded
  · simp only [loadedState, getRatchetState, Call.run_read_bind, null, Call.run_raise] at loaded
    cases loaded

/-- Every atomic step outside the others' windows keeps the order and goes forward. -/
theorem InOrder.step (order : InOrder race) {event : Step Priv Key}
    (enabled : (interleaved P cipher).enabled race event) (apart : Apart race event) :
    InOrder ((interleaved P cipher).apply race event) ∧
      Advances race ((interleaved P cipher).apply race event) := by
  cases event with
  | load call friend =>
      exact ⟨order.load (existing_of_loadedState cipher enabled.2), fun _ => .refl _,
        fun _ => .refl _, fun _ => Nat.le_refl _, fun _ empty _ => empty⟩
  | mark call state =>
      obtain ⟨load, found⟩ := Option.isSome_iff_exists.mp enabled
      simp only [interleaved, found]
      exact order.mark found (apart load found) state
  | flushBegin call => exact order.flushBegin call apart
  | flushSave call nonce fails =>
      obtain ⟨flush, found, work⟩ := enabled
      have found : race.flushes.get? call = some flush := found
      obtain ⟨entry, rest, head⟩ := List.exists_cons_of_ne_nil work
      simp only [interleaved, found, head]
      refine order.flushSave cipher found head (apart flush found entry ?_) nonce fails
      rw [head]
      rfl
  | flushEnd call =>
      obtain ⟨flush, found, _⟩ := enabled
      have found : race.flushes.get? call = some flush := found
      simp only [interleaved, found]
      exact order.flushEnd found (apart flush found)
  | init role friend fresh dhPub sharedSecret localDhPriv nonce fails =>
      exact order.init P cipher apart
  | delete friend fails => exact order.delete apart fails
  | saveFriendRead call friend =>
      exact ⟨order.saveFriendRead call friend, fun _ => .refl _, fun _ => .refl _,
        fun _ => Nat.le_refl _, fun _ empty _ => empty⟩
  | saveFriendReplace call =>
      obtain ⟨copy, found⟩ := Option.isSome_iff_exists.mp enabled
      simp only [interleaved, found]
      exact order.saveFriendReplace found

theorem inOrder_of_reachable (reachable : (interleaved P cipher).Reachable Apart race) :
    InOrder race := by
  refine Machine.Reachable.invariant _ InOrder ?_ ?_ reachable
  · exact fun state initial => inOrder_start P cipher initial
  · exact fun state event _ order enabled apart => (order.step P cipher enabled apart).1

theorem advances_of_follows {before after : Race Priv Key StorageKey Box}
    (reachable : (interleaved P cipher).Reachable Apart before)
    (later : (interleaved P cipher).Follows Apart before after) : Advances before after := by
  refine Machine.Follows.relation (Advances before) (.refl before) ?_ later
  intro middle event earlier advanced enabled apart
  have order := inOrder_of_reachable P cipher (earlier.reachable reachable)
  exact advanced.trans (order.step P cipher enabled apart).2

end Steps

/-- In runs whose steps stay out of each other's windows the newest state wins: the row
never goes back, the buffer never holds anything older than what was buffered or stored
before, and a session that is gone comes back only with a new initialisation. -/
theorem newest_state_wins {Priv Dh Key StorageKey Box : Type} (P : Primitives Priv Dh Key)
    (cipher : StorageCipher Priv Key StorageKey Box) (before after : Race Priv Key StorageKey Box)
    (reachable : (interleaved P cipher).Reachable Apart before)
    (later : (interleaved P cipher).Follows Apart before after) (friend : String) :
    (before.rowStamp friend).NotNewer (after.rowStamp friend) ∧
    ((after.service.dirty.get? friend).isSome →
      (before.rowStamp friend).NotNewer (after.bufferStamp friend) ∧
      ((before.service.dirty.get? friend).isSome →
        (before.bufferStamp friend).NotNewer (after.bufferStamp friend))) ∧
    (existingRatchetJson before.service friend = none →
      existingRatchetJson after.service friend ≠ none →
        before.session friend < after.session friend) := by
  have start := inOrder_of_reachable P cipher reachable
  have finish := inOrder_of_reachable P cipher (later.reachable reachable)
  have advanced := advances_of_follows P cipher reachable later
  refine ⟨advanced.row friend, ?_, ?_⟩
  · intro buffered
    rw [finish.buffered friend buffered]
    refine ⟨(start.rowOld friend).trans (advanced.latest friend), ?_⟩
    intro earlier
    rw [start.buffered friend earlier]
    exact advanced.latest friend
  · intro gone back
    have forward := advanced.session friend
    by_contra same
    exact back (advanced.gone friend gone (by omega))

/-- A stored session with Bob, and nothing under way. -/
def toyRace : Race UInt8 Bytes Nat (Nat × Bytes × SerializedState UInt8 Bytes) where
  service := toyStart.service
  flushes := .empty
  copies := .empty
  loads := .empty
  clock := 0
  session _ := 0
  rowStamp _ := ⟨0, 0⟩
  bufferStamp _ := ⟨0, 0⟩
  latest _ := ⟨0, 0⟩

abbrev toyInterleaved :
    Machine (Race UInt8 Bytes Nat (Nat × Bytes × SerializedState UInt8 Bytes))
      (Step UInt8 Bytes) := interleaved toyPrimitives toyCipher

theorem toyRace_start : toyInterleaved.start toyRace :=
  ⟨rfl, rfl, rfl, rfl, rfl, fun _ => rfl, fun _ => rfl, fun _ => rfl⟩

/-- One message, flushed, and then the session is deleted. -/
def toyDeleted : Race UInt8 Bytes Nat (Nat × Bytes × SerializedState UInt8 Bytes) :=
  toyInterleaved.run toyRace
    [fun _ => .load 0 "bob", fun _ => .mark 0 { sendMsgNum := 1 }, fun _ => .flushBegin 1,
     fun _ => .flushSave 1 [] false, fun _ => .flushEnd 1, fun _ => .delete "bob" false]

/-- A new session, with a message in the buffer. -/
def toyRestarted : Race UInt8 Bytes Nat (Nat × Bytes × SerializedState UInt8 Bytes) :=
  toyInterleaved.run toyDeleted
    [fun _ => .init .alice "bob" 1 (Vector.replicate 32 2) [7] none [] false,
     fun _ => .load 2 "bob", fun _ => .mark 2 { sendMsgNum := 1 }]

theorem toyRestarted_newer :
    (toyDeleted.rowStamp "bob").NotNewer (toyRestarted.rowStamp "bob") ∧
    (toyDeleted.rowStamp "bob").NotNewer (toyRestarted.bufferStamp "bob") ∧
    toyDeleted.session "bob" < toyRestarted.session "bob" := by
  obtain ⟨row, buffer, session⟩ := newest_state_wins toyPrimitives toyCipher toyDeleted
    toyRestarted (.run (.start toyRace_start) (by decide +kernel))
    (.run (.refl _) (by decide +kernel)) "bob"
  exact ⟨row, (buffer (by decide +kernel)).1, session (by decide +kernel) (by decide +kernel)⟩

/-- A message is buffered, and then the session is deleted. -/
def toyBuffered : Race UInt8 Bytes Nat (Nat × Bytes × SerializedState UInt8 Bytes) :=
  toyInterleaved.run toyRace
    [fun _ => .load 0 "bob", fun _ => .mark 0 { sendMsgNum := 1 }, fun _ => .delete "bob" false]

/-- The flush that comes after. -/
def toyUndead : Race UInt8 Bytes Nat (Nat × Bytes × SerializedState UInt8 Bytes) :=
  toyInterleaved.run toyBuffered
    [fun _ => .flushBegin 1, fun _ => .flushSave 1 [] false, fun _ => .flushEnd 1]

/-- The flush stores the deleted session again. -/
theorem toyUndead_recreated :
    toyInterleaved.Reachable (fun _ _ => True) toyBuffered ∧
    toyInterleaved.Follows (fun _ _ => True) toyBuffered toyUndead ∧
    existingRatchetJson toyBuffered.service "bob" = none ∧
    existingRatchetJson toyUndead.service "bob" ≠ none ∧
    toyUndead.session "bob" = toyBuffered.session "bob" ∧
    ¬ (toyBuffered.rowStamp "bob").NotNewer (toyUndead.rowStamp "bob") :=
  ⟨.run (.start toyRace_start) (by decide +kernel), .run (.refl _) (by decide +kernel),
    by decide +kernel, by decide +kernel, by decide +kernel, by decide +kernel⟩

end UltimateEnigma.RatchetService
