import UltimateEnigma.Totp

set_option autoImplicit false

namespace UltimateEnigma.Totp

open Py KeyStore

variable {Priv Pub Pem : Type} {L : TotpLibrary}

/-- Six of the characters `0` to `9`. -/
structure SixDigits (code : String) : Prop where
  six : code.length = totpDigits
  digits : ∀ char ∈ code.toList, ∃ digit < 10, char = Char.ofNat (48 + digit)

/-- This counter has this code. -/
def HasCode (L : TotpLibrary) (secret : Bytes) (code : String) (counter : Int) : Prop :=
  ∃ value, hotp L secret counter = .ok value ∧ code = formatCode value

/-- A counter within the drift and above the last one has the stripped code. -/
structure Acceptable (L : TotpLibrary) (lastCounter : Int) (secret : Bytes) (code : String)
    (timestamp : Rat) (counter : Int) : Prop where
  digits : SixDigits (strip code)
  lower : timeStep timestamp - totpDrift ≤ counter
  upper : counter ≤ timeStep timestamp + totpDrift
  fresh : lastCounter < counter
  hit : HasCode L secret (strip code) counter

/-- An acceptable counter is consumed, and where there is none nothing changes. -/
def VerifiesExactly (L : TotpLibrary) (secret : Bytes) (code : String) (timestamp : Rat)
    (controller : Controller Priv Pub Pem) : Prop :=
  let lastCounter := controller.totpService.lastCounter
  (∃ counter, Acceptable L lastCounter secret code timestamp counter ∧
      (verify L code timestamp true).run controller =
        (.ok true, acceptCounter counter controller)) ∨
    (∀ counter, ¬ Acceptable L lastCounter secret code timestamp counter) ∧
      (verify L code timestamp true).run controller = (.ok false, controller)

/-- The loop does not stop too early: before a counter that cannot be packed one has the code, and
there is no used counter with the code beside a fresh one. -/
structure Unambiguous (L : TotpLibrary) (lastCounter : Int) (secret : Bytes) (code : String)
    (counters : List Int) : Prop where
  packable : ∀ counter ∈ counters, ¬ Packable counter →
    ∃ earlier ∈ counters, earlier < counter ∧ HasCode L secret code earlier
  apart : ∀ used ∈ counters, ∀ fresh ∈ counters, used ≤ lastCounter → lastCounter < fresh →
    HasCode L secret code used → ¬ HasCode L secret code fresh

/-- The test before the loop. -/
def WellFormed (L : TotpLibrary) (code : String) : Prop :=
  code.length = totpDigits ∧ code.toList.all L.isDigit = true

def Ascii (code : String) : Prop := (code.toList.all fun char => char.toNat < 128) = true

instance (code : String) : Decidable (Ascii code) := inferInstanceAs (Decidable (_ = true))

section Codes

variable {secret : Bytes} {code : String} {counter : Int}

theorem hasCode_of_ok {value : Nat} (made : hotp L secret counter = .ok value) :
    HasCode L secret code counter ↔ code = formatCode value := by
  constructor
  · rintro ⟨other, found, same⟩
    rw [made] at found
    cases found
    exact same
  · intro same
    exact ⟨value, made, same⟩

theorem hotp_of_wide (wide : ¬ Packable counter) : hotp L secret counter = .error .structError :=
  if_neg wide

theorem compareDigest_of_ascii (ascii : Ascii code) (expected : String) :
    compareDigest code expected = .ok (code = expected) := if_pos ascii

theorem compareDigest_of_foreign (foreign : ¬ Ascii code) (expected : String) :
    compareDigest code expected = .error .typeError := if_neg foreign

theorem HasCode.sixDigits (hit : HasCode L secret code counter) : SixDigits code := by
  obtain ⟨value, _, rfl⟩ := hit
  exact ⟨formatCode_length value, fun _ member => mem_formatCode member⟩

theorem HasCode.wellFormed (lawful : L.Lawful) (hit : HasCode L secret code counter) :
    WellFormed L code := by
  refine ⟨hit.sixDigits.six, List.all_eq_true.mpr ?_⟩
  intro char member
  obtain ⟨digit, decimal, rfl⟩ := hit.sixDigits.digits char member
  exact lawful.ascii_digit digit decimal

end Codes

section Loop

variable {secret : Bytes} {code : String} {controller : Controller Priv Pub Pem}

/-- What `VerifiesExactly` says of the loop alone. -/
def LoopExact (L : TotpLibrary) (secret : Bytes) (code : String)
    (controller : Controller Priv Pub Pem) (counters : List Int) : Prop :=
  let lastCounter := controller.totpService.lastCounter
  (∃ counter ∈ counters, lastCounter < counter ∧ HasCode L secret code counter ∧
      (verifyAmong L secret code true counters).run controller =
        (.ok true, acceptCounter counter controller)) ∨
    (∀ counter ∈ counters, lastCounter < counter → ¬ HasCode L secret code counter) ∧
      (verifyAmong L secret code true counters).run controller = (.ok false, controller)

theorem not_loopExact_of_raises {raised : TotpRaised} {counters : List Int}
    (raises : (verifyAmong L secret code true counters).run controller =
      (.error raised, controller)) : ¬ LoopExact L secret code controller counters := by
  rintro (⟨_, _, _, _, ran⟩ | ⟨_, ran⟩)
  all_goals
    rw [raises] at ran
    cases ran

/-- A code that is not ASCII cannot be compared. -/
theorem verifyAmong_raises (foreign : ¬ Ascii code) (counter : Int) (rest : List Int) :
    ∃ raised, (verifyAmong L secret code true (counter :: rest)).run controller =
      (.error raised, controller) := by
  rw [verifyAmong]
  cases hotp L secret counter with
  | error raised => exact ⟨raised, rfl⟩
  | ok value =>
      rw [Call.run_lift_ok_bind, compareDigest_of_foreign foreign]
      exact ⟨.typeError, rfl⟩

section Conditions

variable {lastCounter counter : Int} {rest : List Int}

theorem unambiguous_hit (fits : Packable counter) (above : ∀ later ∈ rest, counter < later)
    (hit : HasCode L secret code counter) :
    (counter ≤ lastCounter → ∀ fresh ∈ rest, lastCounter < fresh → ¬ HasCode L secret code fresh) ↔
      Unambiguous L lastCounter secret code (counter :: rest) := by
  constructor
  · intro apart
    constructor
    · intro other member wide
      rcases List.mem_cons.mp member with rfl | later
      · exact absurd fits wide
      · exact ⟨counter, List.mem_cons_self, above other later, hit⟩
    · intro used usedMember fresh freshMember replayed unused _
      have first : counter ≤ lastCounter := by
        rcases List.mem_cons.mp usedMember with rfl | later
        · exact replayed
        · have before := above used later
          omega
      rcases List.mem_cons.mp freshMember with rfl | later
      · omega
      · exact apart first fresh later unused
  · intro clear replayed fresh later unused
    exact clear.apart counter List.mem_cons_self fresh (List.mem_cons_of_mem counter later) replayed
      unused hit

theorem unambiguous_miss (fits : Packable counter) (miss : ¬ HasCode L secret code counter) :
    Unambiguous L lastCounter secret code rest ↔
      Unambiguous L lastCounter secret code (counter :: rest) := by
  constructor
  · intro clear
    constructor
    · intro other member wide
      rcases List.mem_cons.mp member with rfl | later
      · exact absurd fits wide
      · obtain ⟨earlier, among, before, hit⟩ := clear.packable other later wide
        exact ⟨earlier, List.mem_cons_of_mem counter among, before, hit⟩
    · intro used usedMember fresh freshMember replayed unused hit
      rcases List.mem_cons.mp usedMember with rfl | usedLater
      · exact absurd hit miss
      rcases List.mem_cons.mp freshMember with rfl | freshLater
      · exact miss
      · exact clear.apart used usedLater fresh freshLater replayed unused hit
  · intro clear
    constructor
    · intro other later wide
      obtain ⟨earlier, among, before, hit⟩ :=
        clear.packable other (List.mem_cons_of_mem counter later) wide
      rcases List.mem_cons.mp among with rfl | earlierLater
      · exact absurd hit miss
      · exact ⟨earlier, earlierLater, before, hit⟩
    · intro used usedMember fresh freshMember
      exact clear.apart used (List.mem_cons_of_mem counter usedMember) fresh
        (List.mem_cons_of_mem counter freshMember)

end Conditions

section Ascii

variable (ascii : Ascii code) {counter : Int} {rest : List Int}
include ascii

theorem verifyAmong_miss {value : Nat} (made : hotp L secret counter = .ok value)
    (miss : code ≠ formatCode value) :
    (verifyAmong L secret code true (counter :: rest)).run controller =
      (verifyAmong L secret code true rest).run controller := by
  rw [verifyAmong, made, Call.run_lift_ok_bind, compareDigest_of_ascii ascii, Call.run_lift_ok_bind,
    decide_eq_false miss]
  rfl

theorem verifyAmong_hit {value : Nat} (made : hotp L secret counter = .ok value)
    (hit : code = formatCode value) :
    (verifyAmong L secret code true (counter :: rest)).run controller =
      if counter ≤ controller.totpService.lastCounter then (.ok false, controller)
      else (.ok true, acceptCounter counter controller) := by
  rw [verifyAmong, made, Call.run_lift_ok_bind, compareDigest_of_ascii ascii, Call.run_lift_ok_bind,
    decide_eq_true hit]
  by_cases replayed : counter ≤ controller.totpService.lastCounter
  · simp only [Bool.not_true, Bool.false_eq_true, if_true, if_false, Call.run_read_bind, replayed,
      Call.run_pure]
  · simp only [Bool.not_true, Bool.false_eq_true, if_true, if_false, Call.run_read_bind, replayed,
      Call.run_modify_bind, Call.run_pure]

/-- Behind a counter without the code the loop is as exact as on the rest. -/
theorem loopExact_miss {value : Nat} (made : hotp L secret counter = .ok value)
    (miss : code ≠ formatCode value) :
    LoopExact L secret code controller (counter :: rest) ↔
      LoopExact L secret code controller rest := by
  have without : ¬ HasCode L secret code counter := by
    rw [hasCode_of_ok made]
    exact miss
  simp only [LoopExact, verifyAmong_miss ascii made miss, List.mem_cons]
  constructor
  · rintro (⟨found, rfl | later, fresh, hit, ran⟩ | ⟨none, ran⟩)
    · exact absurd hit without
    · exact .inl ⟨found, later, fresh, hit, ran⟩
    · exact .inr ⟨fun other later => none other (.inr later), ran⟩
  · rintro (⟨found, later, fresh, hit, ran⟩ | ⟨none, ran⟩)
    · exact .inl ⟨found, .inr later, fresh, hit, ran⟩
    · refine .inr ⟨?_, ran⟩
      rintro other (rfl | later) fresh
      · exact without
      · exact none other later fresh

/-- The loop ends at a counter with the code. -/
theorem loopExact_hit {value : Nat} (made : hotp L secret counter = .ok value)
    (hit : code = formatCode value) :
    LoopExact L secret code controller (counter :: rest) ↔
      (counter ≤ controller.totpService.lastCounter → ∀ fresh ∈ rest,
        controller.totpService.lastCounter < fresh → ¬ HasCode L secret code fresh) := by
  have has : HasCode L secret code counter := ⟨value, made, hit⟩
  have ran : (verifyAmong L secret code true (counter :: rest)).run controller =
      if counter ≤ controller.totpService.lastCounter then (.ok false, controller)
      else (.ok true, acceptCounter counter controller) := verifyAmong_hit ascii made hit
  by_cases replayed : counter ≤ controller.totpService.lastCounter
  · rw [if_pos replayed] at ran
    simp only [LoopExact, ran, replayed, forall_const]
    constructor
    · rintro (⟨_, _, _, _, impossible⟩ | ⟨none, _⟩) fresh later
      · cases impossible
      · exact none fresh (List.mem_cons_of_mem counter later)
    · intro none
      refine .inr ⟨?_, trivial⟩
      intro other member fresh
      rcases List.mem_cons.mp member with rfl | later
      · omega
      · exact none other later fresh
  · rw [if_neg replayed] at ran
    refine iff_of_true (.inl ⟨counter, List.mem_cons_self, by omega, has, ran⟩) ?_
    intro impossible
    exact absurd impossible replayed

theorem loopExact_iff {counters : List Int} (sorted : counters.Pairwise (· < ·)) :
    LoopExact L secret code controller counters ↔
      Unambiguous L controller.totpService.lastCounter secret code counters := by
  induction counters with
  | nil =>
      refine iff_of_true (.inr ⟨?_, rfl⟩) ⟨?_, ?_⟩
      · intro counter member
        cases member
      · intro counter member
        cases member
      · intro used member
        cases member
  | cons counter rest ih =>
      obtain ⟨above, sorted⟩ := List.pairwise_cons.mp sorted
      cases made : hotp L secret counter with
      | error raised =>
          have wide : ¬ Packable counter := by
            intro packable
            obtain ⟨value, found⟩ : ∃ value, hotp L secret counter = .ok value :=
              hotp_of_packable packable
            rw [made] at found
            cases found
          have raises : (verifyAmong L secret code true (counter :: rest)).run controller =
              (.error raised, controller) := by
            rw [verifyAmong, made]
            rfl
          refine iff_of_false (not_loopExact_of_raises raises) ?_
          intro clear
          obtain ⟨earlier, member, before, _⟩ := clear.packable counter List.mem_cons_self wide
          rcases List.mem_cons.mp member with rfl | later
          · omega
          · have after := above earlier later
            omega
      | ok value =>
          have fits : Packable counter := by
            by_contra wide
            rw [hotp_of_wide wide] at made
            cases made
          by_cases same : code = formatCode value
          · rw [loopExact_hit ascii made same]
            exact unambiguous_hit fits above ⟨value, made, same⟩
          · rw [loopExact_miss ascii made same, ih sorted]
            refine unambiguous_miss fits ?_
            rw [hasCode_of_ok made]
            exact same

end Ascii

end Loop

section Verification

variable {controller : Controller Priv Pub Pem} {secret : Bytes} {code : String} {timestamp : Rat}

theorem candidates_sorted (base : Int) : (candidates base).Pairwise (· < ·) := by
  have drift : totpDrift = 1 := rfl
  simp only [candidates, List.pairwise_cons, List.mem_cons, List.not_mem_nil, or_false,
    forall_eq_or_imp, forall_eq, false_imp_iff, implies_true, List.Pairwise.nil, and_true, drift]
  omega

theorem mem_candidates_iff {base counter : Int} :
    counter ∈ candidates base ↔ base - totpDrift ≤ counter ∧ counter ≤ base + totpDrift := by
  have drift : totpDrift = 1 := rfl
  simp only [candidates, List.mem_cons, List.not_mem_nil, or_false, drift]
  omega

theorem acceptable_iff {lastCounter counter : Int} :
    Acceptable L lastCounter secret code timestamp counter ↔
      counter ∈ candidates (timeStep timestamp) ∧ lastCounter < counter ∧
        HasCode L secret (strip code) counter := by
  rw [mem_candidates_iff]
  constructor
  · intro acceptable
    exact ⟨⟨acceptable.lower, acceptable.upper⟩, acceptable.fresh, acceptable.hit⟩
  · rintro ⟨⟨lower, upper⟩, fresh, hit⟩
    exact ⟨hit.sixDigits, lower, upper, fresh, hit⟩

theorem verify_guard_iff : (decide (code.length ≠ totpDigits) || !code.toList.all L.isDigit) = true ↔
    ¬ WellFormed L code := by
  rw [WellFormed, not_and_or, Bool.or_eq_true, decide_eq_true_iff, Bool.not_eq_true',
    Bool.not_eq_true]

section Held

variable (held : controller.totpService.secret = some secret)
include held

theorem requireSecret_run :
    (requireSecret : TotpCall Priv Pub Pem Bytes).run controller = (.ok secret, controller) := by
  rw [requireSecret, Call.run_read_bind, held]
  rfl

theorem verify_run_wellFormed (timestamp : Rat) (wellFormed : WellFormed L (strip code)) :
    (verify L code timestamp true).run controller =
      (verifyAmong L secret (strip code) true (candidates (timeStep timestamp))).run controller := by
  rw [verify, Call.run_bind_of_ok (requireSecret_run held), Call.run_ite,
    if_neg (mt verify_guard_iff.mp (not_not.mpr wellFormed))]

theorem verify_run_malformed (timestamp : Rat) (malformed : ¬ WellFormed L (strip code)) :
    (verify L code timestamp true).run controller = (.ok false, controller) := by
  rw [verify, Call.run_bind_of_ok (requireSecret_run held), Call.run_ite,
    if_pos (verify_guard_iff.mpr malformed)]
  rfl

end Held

/-- `verify` accepts the unused counters of the window and nothing else, where the code fails the
first test, or is ASCII and stands for no used and unused counter at once. -/
theorem totp_verification_exact_iff (lawful : L.Lawful) (controller : Controller Priv Pub Pem)
    (secret : Bytes) (held : controller.totpService.secret = some secret) (code : String)
    (timestamp : Rat) :
    VerifiesExactly L secret code timestamp controller ↔
      ¬ WellFormed L (strip code) ∨ Ascii (strip code) ∧
        Unambiguous L controller.totpService.lastCounter secret (strip code)
          (candidates (timeStep timestamp)) := by
  by_cases wellFormed : WellFormed L (strip code)
  · have loop : VerifiesExactly L secret code timestamp controller ↔
        LoopExact L secret (strip code) controller (candidates (timeStep timestamp)) := by
      simp only [VerifiesExactly, LoopExact, acceptable_iff,
        verify_run_wellFormed held timestamp wellFormed, and_assoc, not_and]
    rw [loop, or_iff_right (not_not.mpr wellFormed)]
    by_cases ascii : Ascii (strip code)
    · rw [loopExact_iff ascii (candidates_sorted _), and_iff_right ascii]
    · obtain ⟨raised, raises⟩ : ∃ raised, (verifyAmong L secret (strip code) true
          (candidates (timeStep timestamp))).run controller = (.error raised, controller) :=
        verifyAmong_raises ascii _ _
      refine iff_of_false (not_loopExact_of_raises raises) ?_
      intro impossible
      exact ascii impossible.1
  · refine iff_of_true (.inr ⟨?_, verify_run_malformed held timestamp wellFormed⟩) (.inl wellFormed)
    intro counter acceptable
    exact wellFormed (acceptable.hit.wellFormed lawful)

end Verification

section Toy

/-- A digest that is the same for all counters, and the digits of two scripts. -/
def toyFlat : TotpLibrary where
  hmacSha1 _ _ := List.replicate 20 0
  isDigit char := char.isDigit || (0x660 ≤ char.toNat && char.toNat ≤ 0x669)

theorem toyFlat_lawful : toyFlat.Lawful where
  ascii_digit := by decide

/-- A service that accepted the counter 10. -/
def toyUsed : Controller String String (String × Bytes) where
  session := ⟨{}, .empty⟩
  totpService := { secret := some (List.replicate 20 1), lastCounter := 10 }

/-- The next code, at a time when all counters of the window are new. -/
theorem toyUsed_exact :
    VerifiesExactly toyFlat (List.replicate 20 1) " 000000 " 390 toyUsed := by
  refine (totp_verification_exact_iff toyFlat_lawful toyUsed _ rfl _ _).mpr (.inr ⟨by decide, ?_⟩)
  have window : candidates (timeStep 390) = [12, 13, 14] := by decide +kernel
  have packable : ∀ counter ∈ ([12, 13, 14] : List Int), Packable counter := by decide
  rw [window]
  constructor
  · intro counter member wide
    exact absurd (packable counter member) wide
  · intro used member fresh _ replayed
    have last : toyUsed.totpService.lastCounter = 10 := rfl
    have later : ∀ counter ∈ ([12, 13, 14] : List Int), 10 < counter := by decide
    have above := later used member
    omega

/-- Arabic digits raise a `TypeError`, and a code that an unused counter shares with a used one is
refused. -/
theorem totp_verification_inexact :
    ¬ VerifiesExactly toyFlat (List.replicate 20 1) "٠٠٠٠٠٠" 300 toyUsed ∧
      ¬ VerifiesExactly toyFlat (List.replicate 20 1) "000000" 300 toyUsed := by
  constructor
  · have raises : ((verify toyFlat "٠٠٠٠٠٠" 300 true).run toyUsed).1 = .error .typeError := by
      decide +kernel
    rintro (⟨_, _, ran⟩ | ⟨_, ran⟩)
    all_goals
      rw [ran] at raises
      cases raises
  · have refused : ((verify toyFlat "000000" 300 true).run toyUsed).1 = .ok false := by
      decide +kernel
    rintro (⟨_, _, ran⟩ | ⟨none, _⟩)
    · rw [ran] at refused
      cases refused
    · refine none 11 (acceptable_iff.mpr ⟨by decide +kernel, by decide, ?_⟩)
      exact ⟨0, rfl, rfl⟩

end Toy

end UltimateEnigma.Totp
