import UltimateEnigma.FileService
import UltimateEnigma.KeyStoreRuns

set_option autoImplicit false

namespace UltimateEnigma.FileOps

open Py Crypto

/-- What is asked of a `FileService`. -/
inductive FileRequest where
  | decryptFile (timeouts : Timeouts) (data : Bytes) (password : Option String)
  | decryptWithSharedSecret (data fingerprint : Bytes)

inductive FileEvent (Priv : Type) where
  | change (operation : KeyStore.Operation Priv)
  | ask (request : FileRequest)

/-- What a request comes to: what it writes and returns, or what it raises. -/
abbrev Outcome : Type := Except Failure (Bytes × String)

/-- A key store with one `FileService` over it. Beside it stand the store as it was when the service
collected its secrets, and for each request so far the outcome and that of a new service. -/
structure FileWorld (Priv Pub Pem : Type) where
  session : KeyStore.Session Priv Pub Pem
  cachedFingerprints : Option (Dict Bytes (Bytes × String)) := none
  collectedFrom : Option (KeyStore Priv Pub) := none
  outcomes : List (Outcome × Outcome) := []

section Cache

variable {Priv Pub Pem : Type} (P : KeyStore.Primitives Priv Pub Pem)
variable (platform : KeyStore.Platform) (L : FileLibrary Priv Pub)

def FileRequest.call : FileRequest → FileCall Priv Pub (Bytes × String)
  | .decryptFile timeouts data password => FileOps.decryptFile L timeouts data password
  | .decryptWithSharedSecret data fingerprint => FileOps.decryptWithSharedSecret L data fingerprint

def FileRequest.outcome (service : FileService Priv Pub) (request : FileRequest) : Outcome :=
  ((request.call L).run service).1

def FileWorld.service (world : FileWorld Priv Pub Pem) : FileService Priv Pub where
  keyStore := world.session.store
  cachedFingerprints := world.cachedFingerprints

def FileEvent.perform (world : FileWorld Priv Pub Pem) : FileEvent Priv → FileWorld Priv Pub Pem
  | .change operation => { world with session := operation.perform P platform world.session }
  | .ask request =>
      let cached := ((request.call L).run world.service).2.cachedFingerprints
      { world with
        cachedFingerprints := cached
        collectedFrom :=
          if cached.isSome then some (world.collectedFrom.getD world.session.store) else none
        outcomes := world.outcomes ++
          [(request.outcome L world.service, request.outcome L (.new world.session.store))] }

/-- Runs of one `FileService` object: a restart of the process would make a new one. -/
def fileMachine : Machine (FileWorld Priv Pub Pem) (FileEvent Priv) where
  start world := ∃ session, world = { session }
  enabled _ event := event ≠ .change .restart
  apply world event := event.perform P platform L world

/-- Every request would now come to what it comes to with a new service. -/
def UpToDate (world : FileWorld Priv Pub Pem) : Prop :=
  ∀ request : FileRequest, request.outcome L world.service =
    request.outcome L (.new world.session.store)

/-- The store holds the secrets, under the owners, that it held when the service collected them. -/
def Unmoved (world : FileWorld Priv Pub Pem) : Prop :=
  ∀ first ∈ world.collectedFrom, ∀ fingerprint,
    (secretsDict L first).get? fingerprint = (secretsDict L world.session.store).get? fingerprint

/-- Requests are made only while the secrets are as they were collected. -/
def AsksUnmoved (world : FileWorld Priv Pub Pem) : FileEvent Priv → Prop
  | .change _ => True
  | .ask _ => Unmoved L world

/-- No two of the secrets, then and now, have one fingerprint. -/
def DistinctFingerprints (world : FileWorld Priv Pub Pem) : Prop :=
  ∀ first ∈ world.collectedFrom, ∀ entry ∈ secretEntries first,
    ∀ other ∈ secretEntries world.session.store,
      secretFingerprint L entry.1 = secretFingerprint L other.1 → entry.1 = other.1

/-- What is cached was collected from the store that is remembered. -/
def Collected (world : FileWorld Priv Pub Pem) : Prop :=
  world.cachedFingerprints = world.collectedFrom.map (secretsDict L)

section Answers

/-- `_decrypt_shared_file` with the dictionary it is given. -/
def sharedOutcome (store : KeyStore Priv Pub) (secrets : Dict Bytes (Bytes × String))
    (data : Bytes) : Outcome :=
  if secrets.items.isEmpty then .error (.fileServiceError "No shared secrets available")
  else do
    let own ← ownHybridEntry L store
    fileDecryptShared L data secrets (friendsForSig store)
      (store.friendsHybridSigPubs.items ++ own)

def passwordOutcome (timeouts : Timeouts) (data : Bytes) : Option String → Outcome
  | none => .error (.fileServiceError "Password required")
  | some password => do
      let plaintext ← fileDecrypt L timeouts data password
      return (plaintext, "")

/-- What a request comes to with this dictionary. -/
def FileRequest.answer (store : KeyStore Priv Pub) (secrets : Dict Bytes (Bytes × String)) :
    FileRequest → Outcome
  | .decryptFile timeouts data password =>
      if data.take fileMagic.length = fileMagic then sharedOutcome L store secrets data
      else if data.length < 17 then passwordOutcome L timeouts data password
      else
        match secrets.get? ((data.drop 1).take 16) with
        | some entry => .error (.sharedSecretDetected entry.2 ((data.drop 1).take 16))
        | none => passwordOutcome L timeouts data password
  | .decryptWithSharedSecret data fingerprint =>
      if (secrets.get? fingerprint).isNone then
        .error (.fileServiceError "Unknown shared secret fingerprint")
      else sharedOutcome L store secrets (fileMagic ++ data)

/-- The dictionary that `_build_secrets_dict` returns. -/
def FileService.secrets (service : FileService Priv Pub) : Dict Bytes (Bytes × String) :=
  service.cachedFingerprints.getD (secretsDict L service.keyStore)

variable {L} {service : FileService Priv Pub}

theorem buildSecretsDict_run :
    (buildSecretsDict L).run service =
      (.ok (service.secrets L), { service with cachedFingerprints := some (service.secrets L) }) := by
  obtain ⟨store, cached⟩ := service
  cases cached with
  | none => rfl
  | some secrets => rfl

theorem decryptSharedFile_run (data : Bytes) :
    (decryptSharedFile L data).run service =
      (sharedOutcome L service.keyStore (service.secrets L) data,
        { service with cachedFingerprints := some (service.secrets L) }) := by
  rw [decryptSharedFile, Call.run_bind_of_ok buildSecretsDict_run, sharedOutcome]
  split
  · rfl
  · rw [Call.run_read_bind]
    cases ownHybridEntry L service.keyStore with
    | error raised => rfl
    | ok own => exact Call.run_lift _ _

theorem withPassword_run (timeouts : Timeouts) (data : Bytes) (password : Option String) :
    ((match password with
      | none => Call.raise (.fileServiceError "Password required")
      | some password => do
          let plaintext ← Call.lift (fileDecrypt L timeouts data password)
          return (plaintext, "")) : FileCall Priv Pub (Bytes × String)).run service =
      (passwordOutcome L timeouts data password, service) := by
  cases password with
  | none => rfl
  | some password =>
      show (Call.lift (fileDecrypt L timeouts data password) >>= fun plaintext =>
        return (plaintext, "")).run service = _
      rw [passwordOutcome]
      cases fileDecrypt L timeouts data password with
      | error raised => rfl
      | ok plaintext => rfl

/-- A request leaves the store alone and caches at most the dictionary that it used. -/
theorem request_run (service : FileService Priv Pub) (request : FileRequest) :
    ∃ cached, (request.call L).run service =
        (request.answer L service.keyStore (service.secrets L),
          { service with cachedFingerprints := cached }) ∧
      (cached = service.cachedFingerprints ∨ cached = some (service.secrets L)) := by
  cases request with
  | decryptFile timeouts data password =>
      unfold FileRequest.call FileRequest.answer FileOps.decryptFile
      dsimp only
      by_cases magic : data.take fileMagic.length = fileMagic
      · rw [if_pos magic, if_pos magic, decryptSharedFile_run]
        exact ⟨_, rfl, .inr rfl⟩
      · rw [if_neg magic, if_neg magic, detectSharedFingerprint]
        by_cases short : data.length < 17
        · rw [if_pos short, if_pos short]
          exact ⟨_, withPassword_run timeouts data password, .inl rfl⟩
        · rw [if_neg short, if_neg short, bind_assoc, Call.run_bind_of_ok buildSecretsDict_run]
          dsimp only
          rw [pure_bind]
          cases (service.secrets L).get? ((data.drop 1).take 16) with
          | none => exact ⟨_, withPassword_run timeouts data password, .inr rfl⟩
          | some entry => exact ⟨_, rfl, .inr rfl⟩
  | decryptWithSharedSecret data fingerprint =>
      unfold FileRequest.call FileRequest.answer FileOps.decryptWithSharedSecret
      dsimp only
      rw [Call.run_bind_of_ok buildSecretsDict_run]
      split
      · exact ⟨_, rfl, .inr rfl⟩
      · rw [decryptSharedFile_run]
        exact ⟨_, rfl, .inr rfl⟩

theorem request_outcome (request : FileRequest) :
    request.outcome L service = request.answer L service.keyStore (service.secrets L) := by
  obtain ⟨_, ran, _⟩ := request_run (L := L) service request
  rw [FileRequest.outcome, ran]

theorem isEmpty_congr {first second : Dict Bytes (Bytes × String)}
    (same : ∀ fingerprint, first.get? fingerprint = second.get? fingerprint) :
    first.items.isEmpty = second.items.isEmpty := by
  have empty_iff (dict : Dict Bytes (Bytes × String)) :
      dict.items.isEmpty = true ↔ ∀ fingerprint, dict.get? fingerprint = none := by
    rw [List.isEmpty_iff]
    constructor
    · intro empty fingerprint
      rw [Dict.get?_eq_none_iff, Dict.keys, empty]
      exact List.not_mem_nil
    · intro absent
      cases items : dict.items with
      | nil => rfl
      | cons item rest =>
          have member : (item.1, item.2) ∈ dict.items := by
            rw [items]
            exact List.mem_cons_self
          have found := dict.get?_of_mem member
          rw [absent] at found
          cases found
  rw [Bool.eq_iff_iff, empty_iff, empty_iff]
  simp only [same]

/-- Dictionaries with the same entries are used alike. -/
theorem answer_congr {first second : Dict Bytes (Bytes × String)} {store : KeyStore Priv Pub}
    (same : ∀ fingerprint, first.get? fingerprint = second.get? fingerprint)
    (request : FileRequest) : request.answer L store first = request.answer L store second := by
  have shared (data : Bytes) : sharedOutcome L store first data =
      sharedOutcome L store second data := by
    unfold sharedOutcome fileDecryptShared openShared
    simp only [same, isEmpty_congr same]
  cases request with
  | decryptFile timeouts data password => simp only [FileRequest.answer, shared, same]
  | decryptWithSharedSecret data fingerprint => simp only [FileRequest.answer, shared, same]

end Answers

section Runs

variable {P platform L} {world : FileWorld Priv Pub Pem}

theorem Collected.secrets (collected : Collected L world) :
    world.service.secrets L =
      secretsDict L (world.collectedFrom.getD world.session.store) := by
  show world.cachedFingerprints.getD (secretsDict L world.session.store) = _
  rw [collected]
  cases world.collectedFrom with
  | none => rfl
  | some first => rfl

theorem Collected.perform (collected : Collected L world) (event : FileEvent Priv) :
    Collected L (event.perform P platform L world) := by
  cases event with
  | change operation => exact collected
  | ask request =>
      obtain ⟨cached, ran, kept⟩ := request_run (L := L) world.service request
      show ((request.call L).run world.service).2.cachedFingerprints = Option.map (secretsDict L)
        (if ((request.call L).run world.service).2.cachedFingerprints.isSome then
          some (world.collectedFrom.getD world.session.store) else none)
      rw [ran]
      dsimp only
      rcases kept with same | filled
      · have earlier : world.service.cachedFingerprints =
            world.collectedFrom.map (secretsDict L) := collected
        rw [same, earlier]
        cases world.collectedFrom with
        | none => rfl
        | some first => rfl
      · rw [filled, collected.secrets]
        rfl

theorem collected_of_reachable {allowed : FileWorld Priv Pub Pem → FileEvent Priv → Prop}
    (reachable : (fileMachine P platform L).Reachable allowed world) : Collected L world := by
  apply reachable.invariant
  · rintro _ ⟨session, rfl⟩
    rfl
  · intro world event _ collected _ _
    exact collected.perform event

theorem upToDate_of_unmoved (collected : Collected L world) (unmoved : Unmoved L world) :
    UpToDate L world := by
  intro request
  rw [request_outcome, request_outcome, collected.secrets]
  show request.answer L world.session.store _ =
    request.answer L world.session.store (secretsDict L world.session.store)
  cases first : world.collectedFrom with
  | none => rfl
  | some store => exact answer_congr (unmoved store first) request

/-- Sixteen bytes behind one that begins no shared file: a request that shows the owner. -/
def probe (fingerprint : Bytes) : FileRequest := .decryptFile .none (0 :: fingerprint) none

theorem probe_answer {store : KeyStore Priv Pub} {secrets : Dict Bytes (Bytes × String)}
    {fingerprint : Bytes} (size : fingerprint.length = 16) :
    (probe fingerprint).answer L store secrets =
      match secrets.get? fingerprint with
      | some entry => .error (.sharedSecretDetected entry.2 fingerprint)
      | none => .error (.fileServiceError "Password required") := by
  have plain : (0 :: fingerprint).take fileMagic.length ≠ fileMagic := by
    intro same
    have magic : fileMagic = 69 :: [78, 73, 71, 77, 65, 1] := by decide
    rw [magic] at same
    cases same
  have front : ((0 :: fingerprint).drop 1).take 16 = fingerprint :=
    List.take_of_length_le (Nat.le_of_eq size)
  have long : ¬ (0 :: fingerprint).length < 17 := by
    rw [List.length_cons, size]
    omega
  unfold probe FileRequest.answer
  dsimp only
  rw [if_neg plain, if_neg long, front]
  rfl

theorem secretsDict_get?_some {store : KeyStore Priv Pub} {fingerprint : Bytes}
    {entry : Bytes × String} (found : (secretsDict L store).get? fingerprint = some entry) :
    entry ∈ secretEntries store ∧ secretFingerprint L entry.1 = fingerprint := by
  have present : fingerprint ∈
      ((secretEntries store).map fun entry => (secretFingerprint L entry.1, entry)).map
        Prod.fst := by
    by_contra absent
    rw [secretsDict, Dict.get?_update_of_not_mem _ _ _ absent] at found
    cases found
  obtain ⟨value, member, kept⟩ := Dict.empty.exists_get?_update _ present
  have unique : entry = value := Option.some.inj (found.symm.trans kept)
  obtain ⟨other, entered, same⟩ := List.mem_map.mp member
  have stored : other = value := congrArg Prod.snd same
  rw [unique, ← stored]
  exact ⟨entered, congrArg Prod.fst same⟩

/-- Fingerprints have sixteen bytes. -/
theorem secretsDict_get?_of_length (digest : ∀ data, (L.sha256 data).length = 32)
    (store : KeyStore Priv Pub) {fingerprint : Bytes} (size : fingerprint.length ≠ 16) :
    (secretsDict L store).get? fingerprint = none := by
  cases found : (secretsDict L store).get? fingerprint with
  | none => rfl
  | some entry =>
      have print := (secretsDict_get?_some found).2
      rw [← print, secretFingerprint, List.length_take, digest] at size
      exact absurd rfl size

theorem unmoved_of_upToDate (digest : ∀ data, (L.sha256 data).length = 32)
    (distinct : DistinctFingerprints L world) (collected : Collected L world)
    (current : UpToDate L world) : Unmoved L world := by
  intro first remembered fingerprint
  by_cases size : fingerprint.length = 16
  · have asked := current (probe fingerprint)
    rw [request_outcome, request_outcome, collected.secrets, remembered, probe_answer size,
      probe_answer size] at asked
    change (match (secretsDict L first).get? fingerprint with
      | some entry => _
      | none => _) = (match (secretsDict L world.session.store).get? fingerprint with
      | some entry => _
      | none => _) at asked
    cases before : (secretsDict L first).get? fingerprint with
    | none =>
        cases now : (secretsDict L world.session.store).get? fingerprint with
        | none => rfl
        | some entry =>
            rw [before, now] at asked
            cases asked
    | some entry =>
        cases now : (secretsDict L world.session.store).get? fingerprint with
        | none =>
            rw [before, now] at asked
            cases asked
        | some other =>
            rw [before, now] at asked
            obtain ⟨entered, print⟩ := secretsDict_get?_some before
            obtain ⟨otherEntered, otherPrint⟩ := secretsDict_get?_some now
            have secret : entry.1 = other.1 :=
              distinct first remembered entry entered other otherEntered (print.trans otherPrint.symm)
            have owner : entry.2 = other.2 := by
              injection asked with same
              injection same
            rw [Prod.ext secret owner]
  · rw [secretsDict_get?_of_length digest first size, secretsDict_get?_of_length digest _ size]

/-- A service is up to date, for every request, just as long as the store holds the secrets that it
collected first; a run that asks only then has only outcomes of new services. -/
theorem file_service_up_to_date (digest : ∀ data, (L.sha256 data).length = 32) :
    (∀ world, (fileMachine P platform L).Reachable (AsksUnmoved L) world →
      ∀ outcome ∈ world.outcomes, outcome.1 = outcome.2) ∧
    (∀ world, (fileMachine P platform L).Reachable (fun _ _ => True) world →
      DistinctFingerprints L world → (UpToDate L world ↔ Unmoved L world)) := by
  constructor
  · intro world reachable
    refine Machine.Reachable.invariant _ (fun world : FileWorld Priv Pub Pem =>
      ∀ outcome ∈ world.outcomes, outcome.1 = outcome.2) ?_ ?_ reachable
    · rintro _ ⟨session, rfl⟩ outcome member
      cases member
    · intro world event before same _ asks
      cases event with
      | change operation => exact same
      | ask request =>
          intro outcome member
          rcases List.mem_append.mp member with earlier | now
          · exact same outcome earlier
          · cases List.mem_singleton.mp now
            exact upToDate_of_unmoved (collected_of_reachable before) asks request
  · intro world reachable distinct
    have collected := collected_of_reachable reachable
    exact ⟨unmoved_of_upToDate digest distinct collected, upToDate_of_unmoved collected⟩

end Runs

end Cache

section Toy

/-- A key store whose keys are the bytes of their own encodings. -/
def toyFileKeys : KeyStore.Primitives Bytes Bytes Bytes where
  publicKey priv := priv
  keySize _ := 3072
  pubkeyToPem _ := "pem"
  pemToPubkey _ := .ok []
  privkeyToEncryptedPem priv _ _ := .ok priv
  pemToPrivkey pem _ := .ok pem
  argon2id := KeyStore.toyLibraries.argon2id
  pbkdf2 := KeyStore.toyLibraries.pbkdf2
  hkdf := KeyStore.toyLibraries.hkdf
  aesEncrypt := KeyStore.toyLibraries.aesEncrypt
  aesDecrypt := KeyStore.toyLibraries.aesDecrypt

abbrev ToyFileWorld := FileWorld Bytes Bytes Bytes

abbrev ToyFileRuns : Machine ToyFileWorld (FileEvent Bytes) :=
  fileMachine toyFileKeys ⟨true, true⟩ toyFiles

def toyOpen : ToyFileWorld where
  session := ⟨toyReader, .empty⟩

/-- The shared file is decrypted, the store is locked, and the file is asked for again. -/
def toyLocked : ToyFileWorld :=
  ToyFileRuns.run toyOpen
    [fun _ => .ask (.decryptFile .none toyEncrypted none), fun _ => .change .wipe,
     fun _ => .ask (.decryptFile .none toyEncrypted none)]

/-- The shared file is decrypted before and after a friend without a secret is removed. -/
def toyAsked : ToyFileWorld :=
  ToyFileRuns.run toyOpen
    [fun _ => .ask (.decryptFile .none toyEncrypted none), fun _ => .change (.removeFriend "bob"),
     fun _ => .ask (.decryptFile .none toyEncrypted none)]

theorem toyAsked_up_to_date :
    toyAsked.outcomes.length = 2 ∧ toyAsked.session.store.friends.length = 1 ∧
    (∀ outcome ∈ toyAsked.outcomes, outcome.1 = outcome.2) ∧ UpToDate toyFiles toyAsked := by
  obtain ⟨secrets, counts⟩ :
      secretsDict toyFiles toyReader = secretsDict toyFiles toyAsked.session.store ∧
        toyAsked.outcomes.length = 2 ∧ toyAsked.session.store.friends.length = 1 := by
    decide +kernel
  have unmoved {world : ToyFileWorld} (collected : world.collectedFrom = some toyReader)
      (store : world.session.store = toyAsked.session.store) : Unmoved toyFiles world := by
    intro first remembered fingerprint
    rw [collected] at remembered
    cases remembered
    rw [store, secrets]
  have asks : ToyFileRuns.Reachable (AsksUnmoved toyFiles) toyAsked := by
    refine .run (.start ⟨_, rfl⟩) ⟨nofun, ?_, nofun, trivial, nofun, unmoved rfl rfl, trivial⟩
    intro first remembered
    cases remembered
  have distinct : DistinctFingerprints toyFiles toyAsked := by
    intro first remembered
    cases remembered
    decide
  obtain ⟨answers, current⟩ :=
    file_service_up_to_date (P := toyFileKeys) toyFiles_lawful.messages.sha256_length
  exact ⟨counts.1, counts.2, answers _ asks,
    (current _ (asks.weaken fun _ _ _ _ _ => trivial) distinct).mpr (unmoved rfl rfl)⟩

/-- A locked store's secrets are still used. -/
theorem toyLocked_stale :
    ToyFileRuns.Reachable (fun _ _ => True) toyLocked ∧
      toyLocked.session.store.globalSecret = none ∧
      ¬ ∀ outcome ∈ toyLocked.outcomes, outcome.1 = outcome.2 := by
  refine ⟨.run (.start ⟨_, rfl⟩) ⟨nofun, trivial, nofun, trivial, nofun, trivial, trivial⟩, rfl, ?_⟩
  have opened : toyLocked.outcomes.map (fun outcome => (outcome.1.isOk, outcome.2.isOk)) =
      [(true, true), (true, false)] := by decide +kernel
  intro same
  have alike : ∀ shown ∈ toyLocked.outcomes.map (fun outcome => (outcome.1.isOk, outcome.2.isOk)),
      shown.1 = shown.2 := by
    intro shown member
    obtain ⟨outcome, listed, rfl⟩ := List.mem_map.mp member
    exact congrArg Except.isOk (same outcome listed)
  rw [opened] at alike
  exact absurd alike (by decide)

end Toy

end UltimateEnigma.FileOps
