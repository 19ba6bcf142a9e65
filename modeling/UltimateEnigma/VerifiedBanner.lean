import UltimateEnigma.LegacyRoundTrip

set_option autoImplicit false

namespace UltimateEnigma.Crypto

open Py

section Fingerprint

/-- Sixteen hexadecimal digits. -/
def IsFingerprint (print : String) : Prop :=
  print.length = 16 ∧ ∀ digit ∈ print.toList, digit ∈ "0123456789abcdef".toList

theorem hexDigit_char {value : Nat} (small : value < 16) :
    Char.ofNat (KeyStore.hex.hexDigit value).toNat ∈ "0123456789abcdef".toList := by
  have all : ∀ value : Fin 16,
      Char.ofNat (KeyStore.hex.hexDigit value).toNat ∈ "0123456789abcdef".toList := by decide
  exact all ⟨value, small⟩

theorem hex_chars (data : Bytes) : ∀ digit ∈ KeyStore.hex data,
    Char.ofNat digit.toNat ∈ "0123456789abcdef".toList := by
  intro digit member
  obtain ⟨byte, _, inside⟩ := List.mem_flatMap.mp member
  have bound := byte.toNat_lt
  rcases List.mem_pair.mp inside with rfl | rfl
  · exact hexDigit_char (by omega)
  · exact hexDigit_char (by omega)

theorem hex_length (data : Bytes) : (KeyStore.hex data).length = 2 * data.length := by
  induction data with
  | nil => rfl
  | cons byte rest ih =>
      have step : KeyStore.hex (byte :: rest) =
          [KeyStore.hex.hexDigit (byte.toNat / 16), KeyStore.hex.hexDigit (byte.toNat % 16)] ++
            KeyStore.hex rest := rfl
      rw [step, List.length_append, ih, List.length_cons]
      simp only [List.length_cons, List.length_nil]
      omega

theorem isFingerprint_fingerprint {Priv Pub : Type} {L : MessageLibrary Priv Pub}
    (hashLength : ∀ data, (L.sha256 data).length = 32) (data : Bytes) :
    IsFingerprint (fingerprint L data) := by
  have digits := hex_length (L.sha256 data)
  have size := hashLength data
  unfold IsFingerprint fingerprint
  rw [← String.length_toList, String.toList_ofList]
  constructor
  · rw [List.length_map, List.length_take]
    omega
  · intro digit member
    obtain ⟨byte, inside, rfl⟩ := List.mem_map.mp member
    exact hex_chars _ byte (List.mem_of_mem_take inside)

theorem newline_not_mem {print : String} (shape : IsFingerprint print) : '\n' ∉ print.toList := by
  intro member
  have digit := shape.2 '\n' member
  revert digit
  decide

end Fingerprint

section Lines

/-- The first line of a result says that the signature of `signer` verified. -/
def Carries (signer output : String) : Prop :=
  ∃ line, FirstLine output line ∧
    (line ++ "\n" = hybridVerified signer ∨
      ∃ print, IsFingerprint print ∧ line ++ "\n" = rsaVerified signer print)

def hybridLine (signer : String) : String :=
  "✅ Hybrid Signature Verified (Ed25519 + Dilithium3) from " ++ signer

def rsaLine (signer print : String) : String :=
  "✅ Signature verified from " ++ signer ++ (" (key fingerprint: " ++ print ++ ")")

theorem hybridVerified_eq (signer : String) : hybridVerified signer = hybridLine signer ++ "\n" := rfl

theorem rsaVerified_eq (signer : String) {print : String} (shape : IsFingerprint print) :
    rsaVerified signer print = rsaLine signer print ++ "\n" := by
  have present : print ≠ "" := by
    rintro rfl
    cases shape.1
  unfold rsaVerified rsaLine
  rw [if_neg present]

theorem append_newline_inj {line other : String} : line ++ "\n" = other ++ "\n" ↔ line = other := by
  constructor
  · intro same
    have chars := congrArg String.toList same
    rw [String.toList_append, String.toList_append] at chars
    exact String.toList_injective (List.append_cancel_right chars)
  · intro same
    rw [same]

theorem carries_iff (signer output : String) :
    Carries signer output ↔ FirstLine output (hybridLine signer) ∨
      ∃ print, IsFingerprint print ∧ FirstLine output (rsaLine signer print) := by
  constructor
  · rintro ⟨line, first, verified | ⟨print, shape, verified⟩⟩
    · rw [hybridVerified_eq, append_newline_inj] at verified
      exact .inl (verified ▸ first)
    · rw [rsaVerified_eq signer shape, append_newline_inj] at verified
      exact .inr ⟨print, shape, verified ▸ first⟩
  · rintro (first | ⟨print, shape, first⟩)
    · exact ⟨_, first, .inl rfl⟩
    · exact ⟨_, first, .inr ⟨print, shape, (rsaVerified_eq signer shape).symm⟩⟩

theorem hybridLine_ne_rsaLine (signer other print : String) :
    hybridLine signer ≠ rsaLine other print := by
  intro same
  have chars := congrArg String.toList same
  unfold hybridLine rsaLine at chars
  simp at chars

theorem hybridLine_inj {signer other : String} (same : hybridLine signer = hybridLine other) :
    signer = other := by
  have chars := congrArg String.toList same
  unfold hybridLine at chars
  rw [String.toList_append, String.toList_append] at chars
  exact String.toList_injective (List.append_cancel_left chars)

/-- Fingerprints have one length, so the name in the line can be told from what follows it. -/
theorem rsaLine_inj {signer other print otherPrint : String} (shape : IsFingerprint print)
    (otherShape : IsFingerprint otherPrint)
    (same : rsaLine signer print = rsaLine other otherPrint) : signer = other := by
  have size : print.toList.length = otherPrint.toList.length := by
    rw [String.length_toList, String.length_toList, shape.1, otherShape.1]
  have chars := congrArg String.toList same
  unfold rsaLine at chars
  simp only [String.toList_append, List.append_assoc] at chars
  have names := List.append_cancel_left chars
  obtain ⟨equal, _⟩ := List.append_inj' names (by simp only [List.length_append, size])
  exact String.toList_injective equal

theorem newline_mem_hybridLine {signer : String} :
    '\n' ∈ (hybridLine signer).toList ↔ '\n' ∈ signer.toList := by
  unfold hybridLine
  rw [String.toList_append, List.mem_append]
  constructor
  · rintro (front | name)
    · exact absurd front (by decide)
    · exact name
  · exact .inr

theorem newline_mem_rsaLine {signer print : String} (shape : IsFingerprint print) :
    '\n' ∈ (rsaLine signer print).toList ↔ '\n' ∈ signer.toList := by
  have unbroken := newline_not_mem shape
  unfold rsaLine
  simp only [String.toList_append, List.mem_append]
  constructor
  · rintro ((front | name) | ((opening | digit) | closing))
    · exact absurd front (by decide)
    · exact name
    · exact absurd opening (by decide)
    · exact absurd digit unbroken
    · exact absurd closing (by decide)
  · exact fun name => .inl (.inr name)

/-- A line without a break is the first line of what it is put in front of. -/
theorem firstLine_of_line {line : String} (unbroken : '\n' ∉ line.toList) (rest : String) :
    FirstLine (line ++ "\n" ++ rest) line :=
  ⟨rest, rfl, unbroken⟩

end Lines

section Verification

variable {Priv Pub : Type} (L : MessageLibrary Priv Pub)

/-- The signature of the packet verifies, over what is signed, under a key listed for `signer`. -/
def VerifiedFor (friends : List (String × Pub)) (friendsHybrid : List (String × Bytes × Bytes))
    (opened : Opened) (signer : String) : Prop :=
  if opened.hybridSigned then
    ∃ entry ∈ friendsHybrid, entry.1 = signer ∧
      hybridVerify L opened.signedData opened.signature entry.2.1 entry.2.2 = true
  else
    opened.rsaSigned = true ∧ ∃ entry ∈ friends, entry.1 = signer ∧
      L.rsaVerify entry.2 opened.signedData opened.signature = true

/-- The contents of a packet whose first line can be trusted: an unsigned text does not begin with
such a line itself, and a verified signature belongs to one name, of one line. -/
structure Trustworthy (friends : List (String × Pub))
    (friendsHybrid : List (String × Bytes × Bytes)) (opened : Opened) : Prop where
  unsigned (noHybrid : opened.hybridSigned = false) (noRsa : opened.rsaSigned = false)
    (signer : String) : ¬ Carries signer (decodeText opened.plaintext)
  alone {signer other : String} (verified : VerifiedFor L friends friendsHybrid opened signer)
    (otherVerified : VerifiedFor L friends friendsHybrid opened other) : signer = other
  oneLine {signer : String} (verified : VerifiedFor L friends friendsHybrid opened signer) :
    '\n' ∉ signer.toList

variable {L}

/-- A line that names no one, in front of a text. -/
theorem not_carries_of_firstLine {output line : String} (first : FirstLine output line)
    (noHybrid : ∀ signer, line ≠ hybridLine signer)
    (noRsa : ∀ signer print, line ≠ rsaLine signer print) (signer : String) :
    ¬ Carries signer output := by
  rw [carries_iff]
  rintro (hybrid | ⟨print, _, rsa⟩)
  · exact noHybrid signer (first.unique hybrid)
  · exact noRsa signer print (first.unique rsa)

theorem carries_hybridVerified {name : String} (unbroken : '\n' ∉ name.toList)
    (text signer : String) : Carries signer (hybridVerified name ++ text) ↔ signer = name := by
  have oneLine : '\n' ∉ (hybridLine name).toList := fun inside =>
    unbroken (newline_mem_hybridLine.mp inside)
  have first := firstLine_of_line oneLine text
  rw [← hybridVerified_eq] at first
  rw [carries_iff]
  constructor
  · rintro (hybrid | ⟨print, _, rsa⟩)
    · exact hybridLine_inj (hybrid.unique first)
    · exact absurd (first.unique rsa) (hybridLine_ne_rsaLine name signer print)
  · rintro rfl
    exact .inl first

theorem carries_rsaVerified {name print : String} (shape : IsFingerprint print)
    (unbroken : '\n' ∉ name.toList) (text signer : String) :
    Carries signer (rsaVerified name print ++ text) ↔ signer = name := by
  have oneLine : '\n' ∉ (rsaLine name print).toList := fun inside =>
    unbroken ((newline_mem_rsaLine shape).mp inside)
  have first := firstLine_of_line oneLine text
  rw [← rsaVerified_eq name shape] at first
  rw [carries_iff]
  constructor
  · rintro (hybrid | ⟨other, otherShape, rsa⟩)
    · exact absurd (hybrid.unique first) (hybridLine_ne_rsaLine signer name print)
    · exact rsaLine_inj otherShape shape (rsa.unique first)
  · rintro rfl
    exact .inr ⟨print, shape, first⟩

theorem not_carries_of_newline {signer : String} (broken : '\n' ∈ signer.toList)
    (output : String) : ¬ Carries signer output := by
  rw [carries_iff]
  rintro (⟨_, _, unbroken⟩ | ⟨print, shape, _, _, unbroken⟩)
  · exact unbroken (newline_mem_hybridLine.mpr broken)
  · exact unbroken ((newline_mem_rsaLine shape).mpr broken)

theorem signed_of_verifiedFor {friends : List (String × Pub)}
    {friendsHybrid : List (String × Bytes × Bytes)} {opened : Opened} {signer : String}
    (verified : VerifiedFor L friends friendsHybrid opened signer) :
    opened.hybridSigned = true ∨ opened.rsaSigned = true := by
  unfold VerifiedFor at verified
  split at verified
  · rename_i hybrid
    exact .inl hybrid
  · exact .inr verified.1

/-- A verified signature puts a line in front that names an entry it verifies for. -/
theorem banner_of_verified (hashLength : ∀ data, (L.sha256 data).length = 32)
    {friends : List (String × Pub)} {friendsHybrid : List (String × Bytes × Bytes)}
    {opened : Opened} {signer : String}
    (verified : VerifiedFor L friends friendsHybrid opened signer) :
    ∃ name, VerifiedFor L friends friendsHybrid opened name ∧
      (banner L friends friendsHybrid opened = hybridVerified name ∨
        ∃ print, IsFingerprint print ∧
          banner L friends friendsHybrid opened = rsaVerified name print) := by
  unfold VerifiedFor banner at *
  cases hybrid : opened.hybridSigned with
  | true =>
      rw [hybrid, if_pos rfl] at verified
      obtain ⟨entry, member, _, passes⟩ := verified
      obtain ⟨found, inside, checks, lookup⟩ := exists_find?_of_mem
        (fun entry : String × Bytes × Bytes =>
          hybridVerify L opened.signedData opened.signature entry.2.1 entry.2.2) member passes
      refine ⟨found.1, ?_, .inl ?_⟩
      · rw [if_pos rfl]
        exact ⟨found, inside, rfl, checks⟩
      · rw [if_pos rfl, lookup]
  | false =>
      rw [hybrid, if_neg Bool.false_ne_true] at verified
      obtain ⟨signed, entry, member, _, passes⟩ := verified
      obtain ⟨found, inside, checks, lookup⟩ := exists_find?_of_mem
        (fun entry : String × Pub => L.rsaVerify entry.2 opened.signedData opened.signature)
        member passes
      refine ⟨found.1, ?_, .inr ⟨fingerprint L (encodeUtf8 (L.pubkeyToPem found.2)),
        isFingerprint_fingerprint hashLength _, ?_⟩⟩
      · rw [if_neg Bool.false_ne_true]
        exact ⟨signed, found, inside, rfl, checks⟩
      · rw [if_neg Bool.false_ne_true, if_pos signed, lookup]

/-- A signature that verifies for no one puts a warning in front. -/
theorem banner_of_unverified {friends : List (String × Pub)}
    {friendsHybrid : List (String × Bytes × Bytes)} {opened : Opened}
    (unverified : ∀ signer, ¬ VerifiedFor L friends friendsHybrid opened signer)
    (signed : opened.hybridSigned = true ∨ opened.rsaSigned = true) :
    banner L friends friendsHybrid opened = "⚠️ Hybrid Signature INVALID or sender unknown\n" ∨
      banner L friends friendsHybrid opened = "⚠️ Signature INVALID or sender unknown\n" := by
  unfold VerifiedFor at unverified
  unfold banner
  cases hybrid : opened.hybridSigned with
  | true =>
      have nobody : (friendsHybrid.find? fun entry =>
          hybridVerify L opened.signedData opened.signature entry.2.1 entry.2.2) = none := by
        rw [List.find?_eq_none]
        intro entry member passes
        apply unverified entry.1
        rw [if_pos hybrid]
        exact ⟨entry, member, rfl, passes⟩
      rw [if_pos rfl, nobody]
      exact .inl rfl
  | false =>
      have rsa : opened.rsaSigned = true := by
        simpa only [hybrid, Bool.false_eq_true, false_or] using signed
      have nobody : (friends.find? fun entry =>
          L.rsaVerify entry.2 opened.signedData opened.signature) = none := by
        rw [List.find?_eq_none]
        intro entry member passes
        apply unverified entry.1
        rw [hybrid, if_neg Bool.false_ne_true]
        exact ⟨rsa, entry, member, rfl, passes⟩
      rw [if_neg Bool.false_ne_true, if_pos rsa, nobody]
      exact .inr rfl

theorem not_carries_hybridWarning (text signer : String) :
    ¬ Carries signer ("⚠️ Hybrid Signature INVALID or sender unknown\n" ++ text) := by
  have whole : "⚠️ Hybrid Signature INVALID or sender unknown\n" =
      "⚠️ Hybrid Signature INVALID or sender unknown" ++ "\n" := by decide
  rw [whole]
  apply not_carries_of_firstLine (firstLine_of_line (by decide) text)
  · intro name same
    have chars := congrArg String.toList same
    unfold hybridLine at chars
    simp at chars
  · intro name print same
    have chars := congrArg String.toList same
    unfold rsaLine at chars
    simp at chars

theorem not_carries_rsaWarning (text signer : String) :
    ¬ Carries signer ("⚠️ Signature INVALID or sender unknown\n" ++ text) := by
  have whole : "⚠️ Signature INVALID or sender unknown\n" =
      "⚠️ Signature INVALID or sender unknown" ++ "\n" := by decide
  rw [whole]
  apply not_carries_of_firstLine (firstLine_of_line (by decide) text)
  · intro name same
    have chars := congrArg String.toList same
    unfold hybridLine at chars
    simp at chars
  · intro name print same
    have chars := congrArg String.toList same
    unfold rsaLine at chars
    simp at chars

theorem carries_verified_iff (hashLength : ∀ data, (L.sha256 data).length = 32)
    {friends : List (String × Pub)} {friendsHybrid : List (String × Bytes × Bytes)}
    {opened : Opened} (someone : ∃ signer, VerifiedFor L friends friendsHybrid opened signer)
    (text : String) :
    (∀ signer, Carries signer (banner L friends friendsHybrid opened ++ text) ↔
      VerifiedFor L friends friendsHybrid opened signer) ↔
      Trustworthy L friends friendsHybrid opened := by
  obtain ⟨signer, verified⟩ := someone
  obtain ⟨name, nameVerified, line⟩ := banner_of_verified hashLength verified
  have signed := signed_of_verifiedFor verified
  by_cases unbroken : '\n' ∉ name.toList
  · have named : ∀ other,
        Carries other (banner L friends friendsHybrid opened ++ text) ↔ other = name := by
      intro other
      rcases line with hybrid | ⟨print, shape, rsa⟩
      · rw [hybrid]
        exact carries_hybridVerified unbroken text other
      · rw [rsa]
        exact carries_rsaVerified shape unbroken text other
    constructor
    · intro exactly
      have same {other : String} (holds : VerifiedFor L friends friendsHybrid opened other) :
          other = name := (named other).mp ((exactly other).mpr holds)
      constructor
      · intro noHybrid noRsa
        rw [noHybrid, noRsa] at signed
        simp at signed
      · intro one other first second
        rw [same first, same second]
      · intro other holds
        rw [same holds]
        exact unbroken
    · intro trustworthy other
      rw [named other]
      constructor
      · rintro rfl
        exact nameVerified
      · exact fun holds => trustworthy.alone holds nameVerified
  · constructor
    · intro exactly
      have carried := (exactly name).mpr nameVerified
      exact absurd carried (not_carries_of_newline (not_not.mp unbroken) _)
    · intro trustworthy
      exact absurd (trustworthy.oneLine nameVerified) unbroken

/-- The first line says whose signature verified exactly if the contents are trustworthy. -/
theorem carries_iff_verifiedFor (hashLength : ∀ data, (L.sha256 data).length = 32)
    (friends : List (String × Pub)) (friendsHybrid : List (String × Bytes × Bytes))
    (opened : Opened) :
    (∀ signer, Carries signer (banner L friends friendsHybrid opened ++
        decodeText opened.plaintext) ↔ VerifiedFor L friends friendsHybrid opened signer) ↔
      Trustworthy L friends friendsHybrid opened := by
  by_cases someone : ∃ signer, VerifiedFor L friends friendsHybrid opened signer
  · exact carries_verified_iff hashLength someone _
  have unverified : ∀ signer, ¬ VerifiedFor L friends friendsHybrid opened signer :=
    fun signer verified => someone ⟨signer, verified⟩
  have trust : (opened.hybridSigned = false → opened.rsaSigned = false →
      ∀ signer, ¬ Carries signer (decodeText opened.plaintext)) →
      Trustworthy L friends friendsHybrid opened := fun unsigned =>
    { unsigned
      alone := fun verified => absurd verified (unverified _)
      oneLine := fun verified => absurd verified (unverified _) }
  by_cases signed : opened.hybridSigned = true ∨ opened.rsaSigned = true
  · have silent : ∀ signer, ¬ Carries signer
        (banner L friends friendsHybrid opened ++ decodeText opened.plaintext) := by
      intro signer
      rcases banner_of_unverified unverified signed with hybrid | rsa
      · rw [hybrid]
        exact not_carries_hybridWarning _ signer
      · rw [rsa]
        exact not_carries_rsaWarning _ signer
    refine iff_of_true (fun signer => iff_of_false (silent signer) (unverified signer)) ?_
    apply trust
    intro noHybrid noRsa
    rw [noHybrid, noRsa] at signed
    simp at signed
  · have noHybrid : opened.hybridSigned = false := by
      exact Bool.eq_false_iff.mpr fun hybrid => signed (.inl hybrid)
    have noRsa : opened.rsaSigned = false := by
      exact Bool.eq_false_iff.mpr fun rsa => signed (.inr rsa)
    have bare : banner L friends friendsHybrid opened = "" := by
      rw [banner, noHybrid, noRsa, if_neg Bool.false_ne_true, if_neg Bool.false_ne_true]
    rw [bare, String.empty_append]
    constructor
    · intro exactly
      exact trust fun _ _ signer carried => unverified signer ((exactly signer).mp carried)
    · intro trustworthy signer
      exact iff_of_false (trustworthy.unsigned noHybrid noRsa signer) (unverified signer)

theorem decryptMessage_opened {packet constKey : Bytes} {myPriv : Option Priv}
    {friends : List (String × Pub)} {now : Option Int} {clock : Int}
    {friendsHybrid : List (String × Bytes × Bytes)} {output : String}
    (accepted : decryptMessage L packet constKey myPriv friends now clock friendsHybrid =
      .ok output) :
    ∃ opened, openPacket L packet constKey myPriv now clock = .ok opened ∧
      output = banner L friends friendsHybrid opened ++ decodeText opened.plaintext := by
  obtain ⟨opened, reading, assembled⟩ := ok_of_bind accepted
  cases assembled
  exact ⟨opened, reading, rfl⟩

/-- The first line of an accepted packet can be believed exactly if its contents are trustworthy,
and one output of two such packets stands for the same signers. -/
theorem decryptMessage_carries_iff (hashLength : ∀ data, (L.sha256 data).length = 32)
    {packet constKey : Bytes} {myPriv : Option Priv} {friends : List (String × Pub)}
    {now : Option Int} {clock : Int} {friendsHybrid : List (String × Bytes × Bytes)}
    {output : String}
    (accepted : decryptMessage L packet constKey myPriv friends now clock friendsHybrid =
      .ok output) :
    ∃ opened, openPacket L packet constKey myPriv now clock = .ok opened ∧
      ((∀ signer, Carries signer output ↔ VerifiedFor L friends friendsHybrid opened signer) ↔
        Trustworthy L friends friendsHybrid opened) ∧
      ∀ {otherPacket otherConstKey : Bytes} {otherPriv : Option Priv} {otherNow : Option Int}
        {otherClock : Int} {other : Opened},
        decryptMessage L otherPacket otherConstKey otherPriv friends otherNow otherClock
          friendsHybrid = .ok output →
        openPacket L otherPacket otherConstKey otherPriv otherNow otherClock = .ok other →
        Trustworthy L friends friendsHybrid opened → Trustworthy L friends friendsHybrid other →
        ∀ signer, VerifiedFor L friends friendsHybrid opened signer ↔
          VerifiedFor L friends friendsHybrid other signer := by
  obtain ⟨opened, reading, whole⟩ := decryptMessage_opened accepted
  have believed := carries_iff_verifiedFor hashLength friends friendsHybrid opened
  rw [← whole] at believed
  refine ⟨opened, reading, believed, ?_⟩
  intro _ _ _ _ _ other otherAccepted otherReading trustworthy otherTrustworthy signer
  obtain ⟨found, foundReading, otherWhole⟩ := decryptMessage_opened otherAccepted
  rw [otherReading] at foundReading
  cases foundReading
  have otherBelieved := carries_iff_verifiedFor hashLength friends friendsHybrid other
  rw [← otherWhole] at otherBelieved
  exact (believed.mpr trustworthy signer).symm.trans (otherBelieved.mpr otherTrustworthy signer)

end Verification

section Example

/-- A message under the shared secret, by someone who has the key that others know as `[3]`. -/
def toyShared (sign : Bool) : EncryptOptions Bytes Bytes where
  sign := sign
  myPriv := some [3]
  encryptForFriendPub := none
  selfDestructSeconds := none
  hybridEdPriv := none
  hybridDilPriv := none

theorem toyShared_hybridKeys (sign : Bool) : (toyShared sign).hybridKeys toyMessages = none := by
  cases sign <;> rfl

theorem toyShared_listed (sign : Bool) :
    Listed toyMessages (toyShared sign) toyDraws [("alice", [3])] [] where
  hybrid used := by
    rw [toyShared_hybridKeys] at used
    cases used
  signable used := by
    rw [toyShared_hybridKeys] at used
    cases used
  rsa _ _ := ⟨[3], rfl, "alice", List.mem_singleton.mpr rfl⟩

/-- What is read of a shared message ten seconds later. -/
theorem toyShared_read (sign : Bool) (text : String) :
    ∃ packet opened,
      encryptMessage toyMessages (toyShared sign) (encodeUtf8 text) [] (100 : Nat) toyDraws =
        .ok (packet, (100 : Nat)) ∧
      openPacket toyMessages packet [] none (some (110 : Nat)) 0 = .ok opened ∧
      opened.hybridSigned = false ∧ opened.rsaSigned = sign ∧
      BannerFor toyMessages (toyShared sign) [("alice", [3])] [] opened.signedData opened.signature
        (banner toyMessages [("alice", [3])] [] opened) ∧
      decryptMessage toyMessages packet [] none [("alice", [3])] (some (110 : Nat)) 0 [] =
        .ok (banner toyMessages [("alice", [3])] [] opened ++ text) := by
  have seconds : ∀ seconds, (toyShared sign).selfDestructSeconds = some seconds →
      seconds < 2 ^ 32 := fun _ given => nomatch given
  have matching : (toyShared sign).encryptForFriendPub =
      (none : Option Bytes).map toyMessages.publicKey := rfl
  obtain ⟨_, packet, opened, _, encrypted, _, line, _, _, plaintext, hybrid, rsa, reading⟩ :=
    openPacket_encryptMessage toyMessages_lawful (encodeUtf8 text) 0 matching
      (fun _ => (rfl : ([] : Bytes) = [])) rfl rfl seconds (toyShared_listed sign)
      (by omega : 100 < 2 ^ 62) (by omega : 60 ≤ 110) (by omega)
  have fresh : Fresh 100 110 ((toyShared sign).seconds.map Nat.cast) := by
    show (((110 : Nat) : Int) - (100 : Nat)).natAbs ≤ timeStep * windowSize
    decide
  rw [checkTime_of_fresh fresh, ok_bind] at reading
  rw [toyShared_hybridKeys] at hybrid rsa
  refine ⟨packet, opened, encrypted, reading, hybrid, ?_, line, ?_⟩
  · rw [rsa, Option.isSome_none, Bool.not_false, Bool.and_true]
    rfl
  · rw [decryptMessage, reading, ok_bind, plaintext, decodeText_encodeUtf8]
    rfl

theorem toyMessages_hash (data : Bytes) : (toyMessages.sha256 data).length = 32 :=
  toyMessages_lawful.sha256_length data

theorem toyShared_trustworthy {opened : Opened} (hybrid : opened.hybridSigned = false)
    (rsa : opened.rsaSigned = true) :
    Trustworthy toyMessages [("alice", [3])] [] opened := by
  have alice {signer : String}
      (verified : VerifiedFor toyMessages [("alice", [3])] [] opened signer) :
      signer = "alice" := by
    rw [VerifiedFor, hybrid, if_neg Bool.false_ne_true] at verified
    obtain ⟨_, entry, member, name, _⟩ := verified
    rw [List.mem_singleton.mp member] at name
    exact name.symm
  constructor
  · intro _ noRsa
    rw [rsa] at noRsa
    cases noRsa
  · intro signer other first second
    rw [alice first, alice second]
  · intro signer verified
    rw [alice verified]
    decide

/-- The line of a signed message is to be believed. -/
theorem toyShared_carries :
    ∃ packet output,
      decryptMessage toyMessages packet [] none [("alice", [3])] (some (110 : Nat)) 0 [] =
        .ok output ∧ Carries "alice" output := by
  obtain ⟨packet, opened, _, reading, hybrid, rsa, line, decrypted⟩ := toyShared_read true "hi"
  obtain ⟨found, foundReading, believed, _⟩ :=
    decryptMessage_carries_iff toyMessages_hash decrypted
  rw [reading] at foundReading
  cases foundReading
  rw [BannerFor, toyShared_hybridKeys, if_neg (by decide), if_pos (by decide)] at line
  obtain ⟨entry, member, verified, _⟩ := line
  rw [List.mem_singleton.mp member] at verified
  have signer : VerifiedFor toyMessages [("alice", [3])] [] opened "alice" := by
    rw [VerifiedFor, hybrid, if_neg Bool.false_ne_true]
    exact ⟨rsa, _, List.mem_singleton.mpr rfl, rfl, verified⟩
  have believable := believed.mpr (toyShared_trustworthy hybrid rsa)
  exact ⟨packet, _, decrypted, (believable "alice").mpr signer⟩

/-- A text that begins with the line of a verified signature. -/
def forgedText : String :=
  rsaVerified "alice" (fingerprint toyMessages (encodeUtf8 "pem")) ++ "hi"

/-- It is read, unsigned, as Alice's own message would be. -/
theorem forgedText_unsigned :
    ∃ forged signed opened,
      encryptMessage toyMessages (toyShared false) (encodeUtf8 forgedText) [] (100 : Nat) toyDraws =
        .ok (forged, (100 : Nat)) ∧
      encryptMessage toyMessages (toyShared true) (encodeUtf8 "hi") [] (100 : Nat) toyDraws =
        .ok (signed, (100 : Nat)) ∧
      openPacket toyMessages forged [] none (some (110 : Nat)) 0 = .ok opened ∧
      opened.hybridSigned = false ∧ opened.rsaSigned = false ∧ Carries "alice" forgedText ∧
      ¬ VerifiedFor toyMessages [("alice", [3])] [] opened "alice" ∧
      decryptMessage toyMessages forged [] none [("alice", [3])] (some (110 : Nat)) 0 [] =
        .ok forgedText ∧
      decryptMessage toyMessages signed [] none [("alice", [3])] (some (110 : Nat)) 0 [] =
        .ok forgedText := by
  obtain ⟨forged, opened, forgedMade, reading, hybrid, rsa, bare, forgedRead⟩ :=
    toyShared_read false forgedText
  obtain ⟨signed, _, signedMade, _, _, _, line, signedRead⟩ := toyShared_read true "hi"
  rw [BannerFor, toyShared_hybridKeys, if_neg (by decide), if_neg (by decide)] at bare
  rw [BannerFor, toyShared_hybridKeys, if_neg (by decide), if_pos (by decide)] at line
  obtain ⟨entry, member, _, named⟩ := line
  rw [List.mem_singleton.mp member] at named
  have pem : toyMessages.pubkeyToPem [3] = "pem" := rfl
  rw [pem] at named
  rw [bare, String.empty_append] at forgedRead
  rw [named, ← forgedText] at signedRead
  have shape := isFingerprint_fingerprint toyMessages_hash (encodeUtf8 "pem")
  have carried : Carries "alice" forgedText := (carries_rsaVerified shape (by decide) _ _).mpr rfl
  have unverified : ¬ VerifiedFor toyMessages [("alice", [3])] [] opened "alice" := by
    rw [VerifiedFor, hybrid, if_neg Bool.false_ne_true, rsa]
    rintro ⟨signed, _⟩
    cases signed
  exact ⟨forged, signed, opened, forgedMade, signedMade, reading, hybrid, rsa, carried, unverified,
    forgedRead, signedRead⟩

end Example

end UltimateEnigma.Crypto
