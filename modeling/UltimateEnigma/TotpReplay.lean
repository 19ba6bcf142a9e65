import UltimateEnigma.TotpSurvival

set_option autoImplicit false

namespace UltimateEnigma.Totp

open Py KeyStore

variable {Priv Pub Pem : Type} {P : Primitives Priv Pub Pem} {platform : Platform} {L : TotpLibrary}
variable {controller : Controller Priv Pub Pem} {world : World Priv Pub Pem}

section Services

theorem onKeyStore_keeps_service {α : Type} (call : StoreCall Priv Pub Pem α) :
    (onKeyStore call).Keeps (Controller.totpService : Controller Priv Pub Pem → TOTPService) := by
  intro controller
  rw [onKeyStore_after]

/-- A password change leaves the service alone. -/
theorem changePassword_keeps_service (oldPassword newPassword : Bytes) (draws persistDraws : Draws) :
    (changePassword P oldPassword newPassword draws persistDraws).Keeps Controller.totpService := by
  refine Call.keeps_ite (Call.keeps_pure false) (Call.keeps_bind (onKeyStore_keeps_service _)
    fun success => Call.keeps_ite (Call.keeps_pure false) (Call.keeps_bind Call.keeps_read
      fun controller => ?_))
  split
  · exact Call.keeps_pure true
  · exact Call.keeps_bind (onKeyStore_keeps_service _) fun _ => Call.keeps_pure true

/-- The service that a successful `load_totp_secret` leaves. -/
theorem loadTotpSecret_service {password : Option Bytes} {tests : SelfTests}
    {after : Controller Priv Pub Pem}
    (ran : (loadTotpSecret P L password tests).run controller = (.ok true, after)) :
    ∃ secret, after.totpService = loadedService secret controller.session.db := by
  rcases loadTotpSecret_cases ran with ⟨row, enc, key, test, middle, _, _, _, kept, loaded⟩ |
    ⟨secret, middle, _, _, kept, loaded⟩
  · obtain ⟨plain, _, _, rfl⟩ := loadWith_ok loaded
    exact ⟨plain.take 20, by rw [kept]⟩
  · obtain ⟨_, rfl⟩ := loadDerived_ok loaded
    exact ⟨secret.take 20, by rw [kept]⟩

theorem loadedService_lastCounter (secret : Bytes) (db : Database Pem) :
    (loadedService secret db).lastCounter = max (-1) (loadLastCounter db) := by
  unfold loadedService
  dsimp only
  split
  · omega
  · omega

/-- A load leaves the stored counter alone. -/
theorem loadLastCounter_load (password : Bytes) (now : Rat) (draws : LoadDraws) (db : Database Pem) :
    loadLastCounter ((load P platform password now draws).run ⟨{}, db⟩).2.db = loadLastCounter db := by
  have survives : SurvivesLoad P fun after : Database Pem =>
      after.texts .totpLastCounter = db.texts .totpLastCounter := by
    constructor
    · exact fun _ same => same
    · intro password draws before after same made
      obtain ⟨_, _, texts, _⟩ := newRatchetStorageKey_settings made
      exact (texts _ (by decide)).trans same
  have kept : ((load P platform password now draws).run ⟨{}, db⟩).2.db.texts .totpLastCounter =
      db.texts .totpLastCounter := load_maintains_of survives password now draws ⟨{}, db⟩ rfl
  unfold loadLastCounter
  rw [kept]

/-- `init_totp` leaves a service that knows the stored counter, or one with a new secret. -/
theorem initTotp_service (password : Option Bytes) (tests : SelfTests) {newSecret : Bytes}
    (drawn : newSecret.length = 32) (draws : Draws) :
    (∃ secret, ((initTotp P L password tests newSecret draws).run controller).2.totpService =
        loadedService secret controller.session.db) ∨
      ((initTotp P L password tests newSecret draws).run controller).2.totpService.secret =
        some (newSecret.take 20) := by
  rcases initTotp_run (P := P) (L := L) controller password tests newSecret draws with
    ⟨after, loaded, ran⟩ | ⟨middle, _, ran⟩
  · rw [ran]
    exact .inl (loadTotpSecret_service loaded)
  · rw [ran, generateNewTotp_run_eq drawn, onKeyStore_after]
    exact .inr rfl

end Services

section Runs

/-- The steps after which no counter comes back: a restart finds the last accepted counter stored,
and a new secret is not the old one. -/
def KeepsCounter (world : World Priv Pub Pem) : TotpStep → Prop
  | .generateNewTotp newSecret _ _ | .regenerateTotp newSecret _ =>
      world.controller.totpService.secret ≠ some (newSecret.take 20)
  | .restart _ _ _ newSecret _ =>
      world.controller.totpService.lastCounter ≤ max (-1) (loadLastCounter world.db) ∧
        world.controller.totpService.secret ≠ some (newSecret.take 20)
  | _ => True

/-- The accepted counters go up, and the service has reached the last of them. -/
structure Increasing (world : World Priv Pub Pem) : Prop where
  sorted : world.accepted.Pairwise (· < ·)
  reached : ∀ counter ∈ world.accepted, counter ≤ world.controller.totpService.lastCounter

/-- A step that accepts no code. -/
theorem Increasing.become (increasing : Increasing world) {after : Controller Priv Pub Pem}
    (kept : after.totpService.secret = world.controller.totpService.secret →
      world.controller.totpService.lastCounter ≤ after.totpService.lastCounter) :
    Increasing (world.become after []) := by
  by_cases same : after.totpService.secret = world.controller.totpService.secret
  · have recorded : (world.become after []).accepted = world.accepted := by
      rw [World.become, if_pos same, List.append_nil]
    refine ⟨by rw [recorded]; exact increasing.sorted, fun counter member => ?_⟩
    rw [recorded] at member
    exact (increasing.reached counter member).trans (kept same)
  · have recorded : (world.become after []).accepted = [] := by
      rw [World.become, if_neg same]
    refine ⟨by rw [recorded]; exact .nil, fun counter member => ?_⟩
    rw [recorded] at member
    cases member

/-- A step that leaves the service alone. -/
theorem Increasing.of_service (increasing : Increasing world) {after : Controller Priv Pub Pem}
    (same : after.totpService = world.controller.totpService) :
    Increasing (world.become after []) :=
  increasing.become fun _ => by rw [same]

theorem Increasing.accept (increasing : Increasing world) {counter : Int}
    (later : world.controller.totpService.lastCounter < counter) :
    Increasing (world.become (acceptCounter counter world.controller) [counter]) := by
  have recorded : (world.become (acceptCounter counter world.controller) [counter]).accepted =
      world.accepted ++ [counter] := if_pos rfl
  constructor
  · rw [recorded, List.pairwise_append]
    refine ⟨increasing.sorted, List.pairwise_singleton _ _, fun before member other last => ?_⟩
    rw [List.mem_singleton.mp last]
    have reached := increasing.reached before member
    omega
  · intro before member
    rw [recorded, List.mem_append, List.mem_singleton] at member
    show before ≤ counter
    rcases member with member | rfl
    · have reached := increasing.reached before member
      omega
    · omega

/-- Showing it to the user changes nothing. -/
theorem Increasing.provision (increasing : Increasing world) : Increasing world.provision :=
  ⟨increasing.sorted, increasing.reached⟩

/-- A new secret. -/
theorem Increasing.generateNewTotp (increasing : Increasing world) {newSecret : Bytes}
    (drawn : newSecret.length = 32)
    (other : world.controller.totpService.secret ≠ some (newSecret.take 20))
    (password : Option Bytes) (draws : Draws) :
    Increasing (world.become
      ((Totp.generateNewTotp P newSecret password draws).run world.controller).2 []) := by
  refine increasing.become fun same => ?_
  rw [generateNewTotp_run_eq drawn, onKeyStore_after] at same
  exact absurd same.symm other

theorem increasing_step (increasing : Increasing world) {step : TotpStep}
    (enabled : step.Enabled P platform world) (keeps : KeepsCounter world step) :
    Increasing (step.perform P platform L world) := by
  cases step with
  | generateNewTotp newSecret withPassword draws =>
      exact (increasing.generateNewTotp enabled keeps _ draws).provision
  | regenerateTotp newSecret draws =>
      exact (increasing.generateNewTotp enabled keeps none draws).provision
  | showTotpSetup newSecret draws =>
      refine Increasing.provision (increasing.become fun same => ?_)
      cases held : world.controller.totpService.secret with
      | some secret =>
          rw [showTotpSetup, Call.run_read_bind, held]
          exact le_rfl
      | none =>
          rw [showTotpSetup, Call.run_read_bind, held] at same
          have generated : ((Totp.generateNewTotp P newSecret none draws).run
              world.controller).2.totpService.secret = none := same
          rw [generateNewTotp_run_eq enabled, onKeyStore_after] at generated
          cases generated
  | updateSecret guard newSecret password draws => exact increasing.of_service rfl
  | changePassword newPassword draws persistDraws =>
      have same := changePassword_keeps_service (P := P) world.master newPassword draws persistDraws
        world.controller
      rw [TotpStep.perform]
      split
      · rename_i ran
        rw [ran] at same
        exact ⟨(increasing.of_service same).sorted, (increasing.of_service same).reached⟩
      · rename_i ran
        rw [ran] at same
        exact increasing.of_service same
  | verify code timestamp =>
      rw [TotpStep.perform]
      rcases verify_cases (L := L) world.controller code timestamp with
        ⟨same, refused⟩ | ⟨counter, later, ran⟩
      · split
        · rename_i ran
          rw [ran] at refused
          exact absurd rfl refused
        · rename_i ran
          rw [ran] at same
          cases same
          exact increasing.of_service rfl
      · rw [ran]
        exact increasing.accept later
  | restart now loadDraws tests newSecret draws =>
      obtain ⟨stored, other⟩ := keeps
      refine increasing.become fun same => ?_
      rcases initTotp_service (some world.master) tests enabled.1 draws with ⟨secret, loaded⟩ | renewed
      · rw [loaded, loadedService_lastCounter]
        dsimp only
        rw [loadLastCounter_load]
        exact stored
      · rw [renewed] at same
        exact absurd same.symm other

theorem increasing_of_started (started : Started P platform L world) : Increasing world := by
  obtain ⟨_, _, _, _, _, _, _, _, _, _, _, _, _, _, _, none⟩ := started
  refine ⟨by rw [none]; exact .nil, fun counter member => ?_⟩
  rw [none] at member
  cases member

/-- In every run whose restarts find the last counter stored, the accepted counters go up: no code
is accepted twice. -/
theorem accepted_counters_increase
    (reachable : (totpMachine P platform L).Reachable KeepsCounter world) :
    world.accepted.Pairwise (· < ·) ∧ world.accepted.Nodup := by
  have increasing : Increasing world :=
    reachable.invariant _ Increasing (fun _ started => increasing_of_started started)
      (fun _ _ _ increasing enabled keeps => increasing_step increasing enabled keeps)
  exact ⟨increasing.sorted, increasing.sorted.imp ne_of_lt⟩

end Runs

section Toy

/-- A code, a restart, the same code again, and the next one. -/
def toyRemembered : ToyWorld :=
  ToyTotp.run toyLoggedIn
    [fun _ => .verify "000010" 300,
     fun _ => .restart 0 toyLoadDraws toyTests (List.replicate 32 18) toyDraws,
     fun _ => .verify "000010" 300,
     fun _ => .verify "000011" 300]

theorem toyRemembered_increases :
    toyRemembered.accepted = [10, 11] ∧ toyRemembered.accepted.Pairwise (· < ·) ∧
      toyRemembered.accepted.Nodup := by
  let verified := ToyTotp.run toyLoggedIn [fun _ => .verify "000010" 300]
  have loads : ((load toyLibraries toyPlatform [1] 0 toyLoadDraws).run ⟨{}, verified.db⟩).1 =
      .ok true := by decide +kernel
  have stored : verified.controller.totpService.lastCounter ≤ max (-1) (loadLastCounter verified.db) :=
    by decide +kernel
  have other : verified.controller.totpService.secret ≠ some ((List.replicate 32 18).take 20) := by
    decide +kernel
  have reachable : ToyTotp.Reachable KeepsCounter toyRemembered :=
    .run (.start toyLoggedIn_start) ⟨trivial, trivial, ⟨rfl, loads⟩, ⟨stored, other⟩, trivial,
      trivial, trivial, trivial, trivial⟩
  exact ⟨by decide +kernel, accepted_counters_increase reachable⟩

/-- A code and a password change. -/
def toyChanged : ToyWorld :=
  ToyTotp.run toyLoggedIn
    [fun _ => .verify "000010" 300, fun _ => .changePassword [2] toyDraws toyDraws]

/-- A restart, and the same code again. -/
def toyReplayed : ToyWorld :=
  ToyTotp.run toyChanged
    [fun _ => .restart 0 toyLoadDraws toyTests (List.replicate 32 18) toyDraws,
     fun _ => .verify "000010" 300]

/-- The password change resets the stored counter, and the code is accepted twice. -/
theorem toyReplayed_twice :
    ToyTotp.Reachable (fun _ _ => True) toyReplayed ∧
    toyLoggedIn.controller.totpService.secret = some (List.replicate 20 14) ∧
    toyReplayed.controller.totpService.secret = some (List.replicate 20 14) ∧
    toyReplayed.accepted = [10, 10] := by
  have loads : ((load toyLibraries toyPlatform toyChanged.master 0 toyLoadDraws).run
      ⟨{}, toyChanged.db⟩).1 = .ok true := by decide +kernel
  have changed : ToyTotp.Reachable (fun _ _ => True) toyChanged :=
    .run (.start toyLoggedIn_start) ⟨trivial, trivial, trivial, trivial, trivial⟩
  have reachable : ToyTotp.Reachable (fun _ _ => True) toyReplayed :=
    changed.run ⟨⟨rfl, loads⟩, trivial, trivial, trivial, trivial⟩
  have secret : toyReplayed.controller.totpService.secret = some (List.replicate 20 14) := by
    decide +kernel
  have accepted : toyReplayed.accepted = [10, 10] := by decide +kernel
  exact ⟨reachable, by decide +kernel, secret, accepted⟩

end Toy

end UltimateEnigma.Totp
