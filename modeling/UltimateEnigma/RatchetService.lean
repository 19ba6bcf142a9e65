import UltimateEnigma.Conversation

set_option autoImplicit false

namespace UltimateEnigma

open Py

namespace DoubleRatchet

/-- What `serialize` writes. The eviction queue is not among it. -/
structure SerializedState (Priv Key : Type) where
  rootKey : Option Key
  sendChainKey : Option Key
  recvChainKey : Option Key
  sendMsgNum : Nat
  recvMsgNum : Nat
  prevSendChainLen : Nat
  dhPriv : Option Priv
  dhPubRemote : Option PubBytes
  skippedKeys : Dict (PubBytes × Nat) Key
deriving DecidableEq

variable {Priv Key : Type}

def RatchetState.serialize (state : RatchetState Priv Key) : SerializedState Priv Key where
  rootKey := state.rootKey
  sendChainKey := state.sendChainKey
  recvChainKey := state.recvChainKey
  sendMsgNum := state.sendMsgNum
  recvMsgNum := state.recvMsgNum
  prevSendChainLen := state.prevSendChainLen
  dhPriv := state.dhPriv
  dhPubRemote := state.dhPubRemote
  skippedKeys := state.skippedKeys

def SerializedState.deserialize (data : SerializedState Priv Key) : RatchetState Priv Key where
  dhPriv := data.dhPriv
  dhPubRemote := data.dhPubRemote
  rootKey := data.rootKey
  sendChainKey := data.sendChainKey
  recvChainKey := data.recvChainKey
  sendMsgNum := data.sendMsgNum
  recvMsgNum := data.recvMsgNum
  prevSendChainLen := data.prevSendChainLen
  skippedKeys := data.skippedKeys

@[simp] theorem deserialize_serialize (state : RatchetState Priv Key) :
    state.serialize.deserialize = { state with skippedKeyOrder := [] } := rfl

@[simp] theorem serialize_deserialize (data : SerializedState Priv Key) :
    data.deserialize.serialize = data := rfl

/-- A stored state comes back as it was exactly when its eviction queue was empty. -/
theorem deserialize_serialize_eq_iff (state : RatchetState Priv Key) :
    state.serialize.deserialize = state ↔ state.skippedKeyOrder = [] := by
  rw [deserialize_serialize]
  constructor
  · intro same
    exact (congrArg RatchetState.skippedKeyOrder same).symm
  · intro empty
    rw [← empty]

end DoubleRatchet

namespace RatchetService

open DoubleRatchet

/-- The text in `ratchet_state_json`: a legacy plain JSON object, or the Base64 of an
encrypted one. -/
inductive Blob (Priv Key Box : Type) where
  | json (data : SerializedState Priv Key)
  | encrypted (box : Box)
deriving DecidableEq

/-- AES-256-GCM over the JSON of a state, nonce in front, under the storage key. -/
structure StorageCipher (Priv Key StorageKey Box : Type) where
  encrypt : StorageKey → Bytes → SerializedState Priv Key → Box
  decrypt : StorageKey → Box → Option (SerializedState Priv Key)

structure StorageCipher.Lawful {Priv Key StorageKey Box : Type}
    (cipher : StorageCipher Priv Key StorageKey Box) : Prop where
  opens (key : StorageKey) (nonce : Bytes) (data : SerializedState Priv Key) :
    cipher.decrypt key (cipher.encrypt key nonce data) = some data

inductive ServiceError where
  | friendNotFound (friend : String)
  | noActiveSession (friend : String)
  | corruptedJson (friend : String)
  | blobDecryptFailed
  | noStorageKey (friend : String)
  | database (friend : String)
  | encryptionFailed (friend : String) (cause : Raised)
  | decryptionFailed (friend : String) (cause : Raised)
  | initFailed (friend : String) (cause : Raised)
  | ratchet (cause : Raised)
deriving DecidableEq, Repr

/-- The column `ratchet_state_json` of the friends table, and the class attributes. -/
structure Service (Priv Key StorageKey Box : Type) where
  storageKey : Option StorageKey
  rows : Dict String (Option (Blob Priv Key Box))
  dirty : Dict String (RatchetState Priv Key)

/-- `UPDATE friends SET ratchet_state_json=? WHERE name=?`: no row, no effect. -/
def updateRow {Priv Key Box : Type} (rows : Dict String (Option (Blob Priv Key Box)))
    (friend : String) (value : Option (Blob Priv Key Box)) :
    Dict String (Option (Blob Priv Key Box)) :=
  if friend ∈ rows.keys then rows.set friend value else rows

section Operations

variable {Priv Dh Key StorageKey Box : Type}
variable (P : Primitives Priv Dh Key) (cipher : StorageCipher Priv Key StorageKey Box)

abbrev ServiceCall (Priv Key StorageKey Box α : Type) : Type :=
  Call ServiceError (Service Priv Key StorageKey Box) α

/-- Without a key the blob is taken as JSON; with one, plain JSON still passes. -/
def decryptRatchetBlob (friend : String) (key : Option StorageKey) :
    Blob Priv Key Box → Except ServiceError (SerializedState Priv Key)
  | .json data => .ok data
  | .encrypted box =>
      match key with
      | none => .error (.corruptedJson friend)
      | some key =>
          match cipher.decrypt key box with
          | some data => .ok data
          | none => .error .blobDecryptFailed

def getRatchetState (friend : String) :
    ServiceCall Priv Key StorageKey Box (RatchetState Priv Key) := do
  let service ← Call.read
  match service.rows.get? friend with
  | none => Call.raise (.friendNotFound friend)
  | some none => Call.raise (.noActiveSession friend)
  | some (some blob) =>
      match decryptRatchetBlob cipher friend service.storageKey blob with
      | .error raised => Call.raise raised
      | .ok data => return data.deserialize

/-- `fails` says that the database raises on this write. -/
def saveRatchetState (friend : String) (state : RatchetState Priv Key) (nonce : Bytes)
    (fails : Bool) : ServiceCall Priv Key StorageKey Box Unit := do
  let service ← Call.read
  let key ← Call.require (.noStorageKey friend) service.storageKey
  if fails then
    Call.raise (.database friend)
  else
    Call.modify fun service =>
      { service with
        rows := updateRow service.rows friend
          (some (.encrypted (cipher.encrypt key nonce state.serialize))) }

def markDirty (friend : String) (state : RatchetState Priv Key) :
    ServiceCall Priv Key StorageKey Box Unit :=
  Call.modify fun service => { service with dirty := service.dirty.set friend state }

/-- The loop of `flush_dirty_states`: how many were saved, and what remains. -/
def flushItems (nonce : String → Bytes) (fails : String → Bool) :
    List (String × RatchetState Priv Key) → Service Priv Key StorageKey Box →
      Nat × List (String × RatchetState Priv Key) × Service Priv Key StorageKey Box
  | [], service => (0, [], service)
  | (friend, state) :: rest, service =>
      match (saveRatchetState cipher friend state (nonce friend) (fails friend)).run service with
      | (.ok (), saved) =>
          let (count, remaining, after) := flushItems nonce fails rest saved
          (count + 1, remaining, after)
      | (.error _, same) =>
          let (count, remaining, after) := flushItems nonce fails rest same
          (count, (friend, state) :: remaining, after)

def flushDirtyStates (nonce : String → Bytes) (fails : String → Bool) :
    ServiceCall Priv Key StorageKey Box Nat := fun service =>
  let toFlush := service.dirty.items
  let (count, remaining, after) :=
    flushItems cipher nonce fails toFlush { service with dirty := .empty }
  (.ok count, { after with dirty := after.dirty.update remaining })

/-- A `ValueError` becomes a service error; any other exception passes through. -/
def encryptMessage (friend : String) (fresh : Priv) (nonce plaintext : Bytes) :
    ServiceCall Priv Key StorageKey Box (Bytes × Bytes) := do
  let state ← getRatchetState cipher friend
  match (P.encrypt fresh nonce plaintext).run state with
  | (.ok packet, after) => do
      markDirty friend after
      return packet
  | (.error (.valueError message), _) =>
      Call.raise (.encryptionFailed friend (.valueError message))
  | (.error raised, _) => Call.raise (.ratchet raised)

def decryptMessage (friend : String) (fresh : Priv) (header ciphertext : Bytes) :
    ServiceCall Priv Key StorageKey Box Bytes := do
  let state ← getRatchetState cipher friend
  match (P.decrypt fresh header ciphertext).run state with
  | (.ok plaintext, after) => do
      markDirty friend after
      return plaintext
  | (.error raised, _) => Call.raise (.decryptionFailed friend raised)

/-- `init_ratchet_alice` or `init_ratchet_bob`: a new state, saved at once. -/
def initRatchet (role : Party) (friend : String) (fresh : Priv) (dhPub : PubBytes)
    (sharedSecret : Key) (localDhPriv : Option Priv) (nonce : Bytes) (fails : Bool) :
    ServiceCall Priv Key StorageKey Box (RatchetState Priv Key) :=
  let initialized := match role with
    | .alice => (P.initializeAsAlice fresh dhPub sharedSecret localDhPriv).run {}
    | .bob => (P.initializeAsBob fresh dhPub sharedSecret localDhPriv).run {}
  match initialized with
  | (.ok (), state) => do
      saveRatchetState cipher friend state nonce fails
      return state
  | (.error raised, _) => Call.raise (.initFailed friend raised)

/-- `UPDATE … SET ratchet_state_json=NULL WHERE name=? AND ratchet_state_json IS NOT NULL`;
returns whether there was a state. -/
def deleteRatchet (friend : String) (fails : Bool) : ServiceCall Priv Key StorageKey Box Bool := do
  if fails then
    Call.raise (.database friend)
  else
    let service ← Call.read
    match service.rows.get? friend with
    | some (some _) => do
        Call.modify fun service => { service with rows := updateRow service.rows friend none }
        return true
    | _ => return false

/-- The first half of `KeyStore.save_friend`: the blob it will carry over. -/
def existingRatchetJson (service : Service Priv Key StorageKey Box) (friend : String) :
    Option (Blob Priv Key Box) :=
  (service.rows.get? friend).join

/-- The second half: `INSERT OR REPLACE` with the blob read before. -/
def replaceFriendRow (friend : String) (existing : Option (Blob Priv Key Box)) :
    ServiceCall Priv Key StorageKey Box Unit :=
  Call.modify fun service =>
    { service with rows := (service.rows.erase friend).set friend existing }

/-- What `get_ratchet_state` returns; it changes nothing. -/
def loadedState (service : Service Priv Key StorageKey Box) (friend : String) :
    Except ServiceError (RatchetState Priv Key) :=
  ((getRatchetState cipher friend).run service).1

theorem getRatchetState_run (service : Service Priv Key StorageKey Box) (friend : String) :
    (getRatchetState cipher friend).run service = (loadedState cipher service friend, service) := by
  have same : ((getRatchetState cipher friend).run service).2 = service := by
    simp only [getRatchetState, Call.run_read_bind]
    split
    · rfl
    · rfl
    · split <;> rfl
  exact Prod.ext rfl same

/-- Loading reads the friend's row and the storage key. -/
theorem loadedState_congr {service other : Service Priv Key StorageKey Box} {friend : String}
    (key : service.storageKey = other.storageKey)
    (row : service.rows.get? friend = other.rows.get? friend) :
    loadedState cipher service friend = loadedState cipher other friend := by
  simp only [loadedState, getRatchetState, Call.run_read_bind, key, row]
  split
  · rfl
  · rfl
  · split <;> rfl

theorem loadedState_encrypted {cipher : StorageCipher Priv Key StorageKey Box}
    (lawful : cipher.Lawful) {service : Service Priv Key StorageKey Box} {friend : String}
    {key : StorageKey} {nonce : Bytes} {data : SerializedState Priv Key}
    (present : service.storageKey = some key)
    (row : service.rows.get? friend = some (some (.encrypted (cipher.encrypt key nonce data)))) :
    loadedState cipher service friend = .ok data.deserialize := by
  simp only [loadedState, getRatchetState, Call.run_read_bind, row, present, decryptRatchetBlob,
    lawful.opens, Call.run_pure]

/-- A friend whose state loads has a row. -/
theorem row_of_loadedState {service : Service Priv Key StorageKey Box} {friend : String}
    {state : RatchetState Priv Key} (loaded : loadedState cipher service friend = .ok state) :
    (service.rows.get? friend).isSome := by
  cases row : service.rows.get? friend with
  | none =>
      simp only [loadedState, getRatchetState, Call.run_read_bind, row] at loaded
      cases loaded
  | some value => rfl

theorem get?_updateRow (rows : Dict String (Option (Blob Priv Key Box))) (friend other : String)
    (value : Option (Blob Priv Key Box)) :
    (updateRow rows friend value).get? other =
      if other = friend ∧ (rows.get? friend).isSome then some value else rows.get? other := by
  have present : friend ∈ rows.keys ↔ (rows.get? friend).isSome := by
    have absent := Dict.get?_eq_none_iff rows friend
    rw [← Option.ne_none_iff_isSome]
    exact (not_iff_comm.mp absent.symm).symm.trans Iff.rfl
  unfold updateRow
  split
  · rename_i inside
    rw [Dict.get?_set]
    simp only [present.mp inside, and_true]
  · rename_i outside
    have missing : ¬ (rows.get? friend).isSome := fun found => outside (present.mpr found)
    simp only [missing, and_false, if_false, Bool.false_eq_true]

theorem updateRow_of_absent {rows : Dict String (Option (Blob Priv Key Box))} (friend : String)
    (value : Option (Blob Priv Key Box)) (absent : ¬ (rows.get? friend).isSome) :
    updateRow rows friend value = rows := by
  unfold updateRow
  rw [if_neg]
  intro present
  apply absent
  rw [← Option.ne_none_iff_isSome]
  exact fun missing => (Dict.get?_eq_none_iff rows friend).mp missing present

/-- A save writes exactly when there is a storage key and the database does not raise. -/
theorem saveRatchetState_run (friend : String) (state : RatchetState Priv Key) (nonce : Bytes)
    (fails : Bool) (service : Service Priv Key StorageKey Box) :
    (saveRatchetState cipher friend state nonce fails).run service =
      match service.storageKey, fails with
      | none, _ => (.error (.noStorageKey friend), service)
      | some _, true => (.error (.database friend), service)
      | some key, false => (.ok (), { service with
          rows := updateRow service.rows friend
            (some (.encrypted (cipher.encrypt key nonce state.serialize))) }) := by
  rw [saveRatchetState, Call.run_read_bind]
  cases key : service.storageKey with
  | none => rfl
  | some key =>
      rw [Call.run_require_bind]
      cases fails with
      | true => rfl
      | false => simp only [Bool.false_eq_true, ↓reduceIte, Call.run_modify, key]

theorem saveRatchetState_run_ok (friend : String) (state : RatchetState Priv Key) (nonce : Bytes)
    {service : Service Priv Key StorageKey Box} {key : StorageKey}
    (present : service.storageKey = some key) :
    (saveRatchetState cipher friend state nonce false).run service =
      (.ok (), { service with
        rows := updateRow service.rows friend
          (some (.encrypted (cipher.encrypt key nonce state.serialize))) }) := by
  rw [saveRatchetState_run, present]

theorem saveRatchetState_run_error (friend : String) (state : RatchetState Priv Key)
    (nonce : Bytes) {fails : Bool} {service : Service Priv Key StorageKey Box}
    (blocked : service.storageKey = none ∨ fails = true) :
    ∃ raised, (saveRatchetState cipher friend state nonce fails).run service =
      (.error raised, service) := by
  rw [saveRatchetState_run]
  cases key : service.storageKey with
  | none => exact ⟨_, rfl⟩
  | some key =>
      rcases blocked with missing | failing
      · rw [key] at missing
        cases missing
      · rw [failing]
        exact ⟨_, rfl⟩

/-- Whether the save of this friend's state goes through. -/
def saves (service : Service Priv Key StorageKey Box) (fails : String → Bool)
    (friend : String) : Bool :=
  service.storageKey.isSome && !fails friend

variable (nonce : String → Bytes) (fails : String → Bool)

theorem flushItems_cons_of_saves (friend : String) (state : RatchetState Priv Key)
    (rest : List (String × RatchetState Priv Key)) (service : Service Priv Key StorageKey Box)
    (key : StorageKey) (present : service.storageKey = some key) (writes : fails friend = false) :
    flushItems cipher nonce fails ((friend, state) :: rest) service =
      let saved := { service with
        rows := updateRow service.rows friend
          (some (.encrypted (cipher.encrypt key (nonce friend) state.serialize))) }
      let result := flushItems cipher nonce fails rest saved
      (result.1 + 1, result.2.1, result.2.2) := by
  rw [flushItems, saveRatchetState_run, present, writes]

theorem flushItems_cons_of_fails (friend : String) (state : RatchetState Priv Key)
    (rest : List (String × RatchetState Priv Key)) (service : Service Priv Key StorageKey Box)
    (blocked : saves service fails friend = false) :
    flushItems cipher nonce fails ((friend, state) :: rest) service =
      let result := flushItems cipher nonce fails rest service
      (result.1, (friend, state) :: result.2.1, result.2.2) := by
  rw [flushItems, saveRatchetState_run]
  cases key : service.storageKey with
  | none => rfl
  | some key' =>
      simp only [saves, key, Option.isSome_some, Bool.true_and, Bool.not_eq_false'] at blocked
      rw [blocked]

theorem flushItems_frame (items : List (String × RatchetState Priv Key))
    (service : Service Priv Key StorageKey Box) :
    (flushItems cipher nonce fails items service).2.2.storageKey = service.storageKey ∧
      (flushItems cipher nonce fails items service).2.2.dirty = service.dirty := by
  induction items generalizing service with
  | nil => exact ⟨rfl, rfl⟩
  | cons item rest ih =>
      obtain ⟨friend, state⟩ := item
      cases goes : saves service fails friend with
      | false =>
          rw [flushItems_cons_of_fails cipher nonce fails friend state rest service goes]
          exact ih service
      | true =>
          simp only [saves, Bool.and_eq_true, Bool.not_eq_true'] at goes
          obtain ⟨key, present⟩ := Option.isSome_iff_exists.mp goes.1
          rw [flushItems_cons_of_saves cipher nonce fails friend state rest service key present
            goes.2]
          exact ih _

/-- What remains dirty is what could not be saved, in its order. -/
theorem flushItems_remaining (items : List (String × RatchetState Priv Key))
    (service : Service Priv Key StorageKey Box) :
    (flushItems cipher nonce fails items service).2.1 =
      items.filter fun item => !saves service fails item.1 := by
  induction items generalizing service with
  | nil => rfl
  | cons item rest ih =>
      obtain ⟨friend, state⟩ := item
      cases goes : saves service fails friend with
      | false =>
          rw [flushItems_cons_of_fails cipher nonce fails friend state rest service goes]
          simp only [List.filter_cons, goes, Bool.not_false, ↓reduceIte, ih]
      | true =>
          have kept := goes
          simp only [saves, Bool.and_eq_true, Bool.not_eq_true'] at kept
          obtain ⟨key, present⟩ := Option.isSome_iff_exists.mp kept.1
          rw [flushItems_cons_of_saves cipher nonce fails friend state rest service key present
            kept.2]
          simp only [List.filter_cons, goes, Bool.not_true, Bool.false_eq_true, ↓reduceIte, ih]
          rfl

theorem flushItems_rows_of_not_mem (items : List (String × RatchetState Priv Key))
    (service : Service Priv Key StorageKey Box) (friend : String)
    (absent : friend ∉ items.map Prod.fst) :
    (flushItems cipher nonce fails items service).2.2.rows.get? friend =
      service.rows.get? friend := by
  induction items generalizing service with
  | nil => rfl
  | cons item rest ih =>
      obtain ⟨other, state⟩ := item
      simp only [List.map_cons, List.mem_cons, not_or] at absent
      cases goes : saves service fails other with
      | false =>
          rw [flushItems_cons_of_fails cipher nonce fails other state rest service goes]
          exact ih service absent.2
      | true =>
          simp only [saves, Bool.and_eq_true, Bool.not_eq_true'] at goes
          obtain ⟨key, present⟩ := Option.isSome_iff_exists.mp goes.1
          rw [flushItems_cons_of_saves cipher nonce fails other state rest service key present
            goes.2]
          refine (ih _ absent.2).trans ?_
          simp only [get?_updateRow, absent.1, false_and, if_false]

/-- A friend's row after the loop: the state it held, if its save went through. -/
theorem flushItems_rows_of_mem (items : List (String × RatchetState Priv Key))
    (service : Service Priv Key StorageKey Box) (friend : String)
    (state : RatchetState Priv Key) (unique : (items.map Prod.fst).Nodup)
    (member : (friend, state) ∈ items) (row : (service.rows.get? friend).isSome) :
    (saves service fails friend = false →
      (flushItems cipher nonce fails items service).2.2.rows.get? friend =
        service.rows.get? friend) ∧
    ∀ key, service.storageKey = some key → fails friend = false →
      (flushItems cipher nonce fails items service).2.2.rows.get? friend =
        some (some (.encrypted (cipher.encrypt key (nonce friend) state.serialize))) := by
  induction items generalizing service with
  | nil => cases member
  | cons item rest ih =>
      obtain ⟨other, stored⟩ := item
      simp only [List.map_cons, List.nodup_cons] at unique
      rcases List.mem_cons.mp member with same | later
      · cases same
        constructor
        · intro blocked
          rw [flushItems_cons_of_fails cipher nonce fails friend state rest service blocked]
          exact flushItems_rows_of_not_mem cipher nonce fails rest service friend unique.1
        · intro key present writes
          rw [flushItems_cons_of_saves cipher nonce fails friend state rest service key present
            writes]
          refine (flushItems_rows_of_not_mem cipher nonce fails rest _ friend unique.1).trans ?_
          simp only [get?_updateRow, row, and_self, ↓reduceIte]
      · have apart : friend ≠ other := by
          intro same
          rw [same] at later
          exact unique.1 (List.mem_map_of_mem later)
        cases goes : saves service fails other with
        | false =>
            rw [flushItems_cons_of_fails cipher nonce fails other stored rest service goes]
            exact ih service unique.2 later row
        | true =>
            simp only [saves, Bool.and_eq_true, Bool.not_eq_true'] at goes
            obtain ⟨key, present⟩ := Option.isSome_iff_exists.mp goes.1
            rw [flushItems_cons_of_saves cipher nonce fails other stored rest service key present
              goes.2]
            have untouched : (updateRow service.rows other
                (some (.encrypted (cipher.encrypt key (nonce other) stored.serialize)))).get?
                  friend = service.rows.get? friend := by
              simp only [get?_updateRow, apart, false_and, if_false]
            have rest_of := ih
              { service with
                rows := updateRow service.rows other
                  (some (.encrypted (cipher.encrypt key (nonce other) stored.serialize))) }
              unique.2 later (by rw [untouched]; exact row)
            rw [untouched] at rest_of
            exact rest_of

theorem flushDirtyStates_storageKey (service : Service Priv Key StorageKey Box) :
    ((flushDirtyStates cipher nonce fails).run service).2.storageKey = service.storageKey :=
  (flushItems_frame cipher nonce fails service.dirty.items { service with dirty := .empty }).1

/-- A flush leaves in the buffer exactly what it could not save. -/
theorem flushDirtyStates_dirty (service : Service Priv Key StorageKey Box) (friend : String) :
    ((flushDirtyStates cipher nonce fails).run service).2.dirty.get? friend =
      if saves service fails friend then none else service.dirty.get? friend := by
  have frame := (flushItems_frame cipher nonce fails service.dirty.items
    { service with dirty := .empty }).2
  have remaining := flushItems_remaining cipher nonce fails service.dirty.items
    { service with dirty := .empty }
  show ((flushItems cipher nonce fails service.dirty.items
      { service with dirty := .empty }).2.2.dirty.update
    (flushItems cipher nonce fails service.dirty.items
      { service with dirty := .empty }).2.1).get? friend = _
  rw [frame, remaining]
  have unique : ((service.dirty.items.filter fun item =>
      !saves service fails item.1).map Prod.fst).Nodup :=
    service.dirty.nodup.sublist (List.filter_sublist.map Prod.fst)
  cases stored : service.dirty.get? friend with
  | none =>
      rw [ite_self]
      rw [Dict.get?_update_of_not_mem]
      · rfl
      · intro member
        obtain ⟨⟨other, state⟩, inside, rfl⟩ := List.mem_map.mp member
        have found := service.dirty.get?_of_mem (List.mem_of_mem_filter inside)
        rw [stored] at found
        cases found
  | some state =>
      have member := Dict.mem_of_get? stored
      split
      · rename_i goes
        rw [Dict.get?_update_of_not_mem]
        · rfl
        · intro inside
          obtain ⟨⟨other, left⟩, filtered, rfl⟩ := List.mem_map.mp inside
          have blocked : (!saves service fails other) = true := (List.mem_filter.mp filtered).2
          have goes : saves service fails other = true := goes
          rw [goes] at blocked
          cases blocked
      · rename_i blocked
        apply Dict.get?_update_of_mem _ _ _ _ unique
        refine List.mem_filter.mpr ⟨member, ?_⟩
        simp only [Bool.not_eq_true] at blocked
        simp only [blocked, Bool.not_false]

/-- A flush changes a row only to the state that was buffered for it. -/
theorem flushDirtyStates_rows_of_absent (service : Service Priv Key StorageKey Box)
    (friend : String) (absent : service.dirty.get? friend = none) :
    ((flushDirtyStates cipher nonce fails).run service).2.rows.get? friend =
      service.rows.get? friend :=
  flushItems_rows_of_not_mem cipher nonce fails service.dirty.items
    { service with dirty := .empty } friend ((Dict.get?_eq_none_iff _ _).mp absent)

theorem flushDirtyStates_rows_of_blocked (service : Service Priv Key StorageKey Box)
    (friend : String) (blocked : saves service fails friend = false)
    (row : (service.rows.get? friend).isSome) :
    ((flushDirtyStates cipher nonce fails).run service).2.rows.get? friend =
      service.rows.get? friend := by
  cases stored : service.dirty.get? friend with
  | none => exact flushDirtyStates_rows_of_absent cipher nonce fails service friend stored
  | some state =>
      exact (flushItems_rows_of_mem cipher nonce fails service.dirty.items
        { service with dirty := .empty } friend state service.dirty.nodup
        (Dict.mem_of_get? stored) row).1 blocked

theorem flushDirtyStates_loaded (lawful : cipher.Lawful)
    (service : Service Priv Key StorageKey Box) (friend : String)
    (state : RatchetState Priv Key) (stored : service.dirty.get? friend = some state)
    (goes : saves service fails friend = true) (row : (service.rows.get? friend).isSome) :
    loadedState cipher ((flushDirtyStates cipher nonce fails).run service).2 friend =
      .ok state.serialize.deserialize := by
  simp only [saves, Bool.and_eq_true, Bool.not_eq_true'] at goes
  obtain ⟨key, present⟩ := Option.isSome_iff_exists.mp goes.1
  have written := (flushItems_rows_of_mem cipher nonce fails service.dirty.items
    { service with dirty := .empty } friend state service.dirty.nodup
    (Dict.mem_of_get? stored) row).2 key present goes.2
  exact loadedState_encrypted lawful
    ((flushDirtyStates_storageKey cipher nonce fails service).trans present) written

end Operations

end RatchetService

end UltimateEnigma
