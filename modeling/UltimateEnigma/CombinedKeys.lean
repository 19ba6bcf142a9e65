import UltimateEnigma.EnvelopeCodec
import UltimateEnigma.HybridKem
import UltimateEnigma.FileService

set_option autoImplicit false

namespace UltimateEnigma

open Py Crypto

/-- `len16(x) + x + len16(y) + y`, a classical key of 32 bytes before a post-quantum key. -/
structure Combines (keys : Bytes × Bytes) (data : Bytes) : Prop where
  classical : keys.1.length = 32
  filled : keys.2 ≠ []
  short : keys.2.length < 65536
  data : data = HybridSigner.combine keys.1 keys.2

/-- Combined keys with more bytes behind them. -/
def Extends (data : Bytes) : Prop :=
  ∃ keys encoded surplus, Combines keys encoded ∧ surplus ≠ [] ∧ data = encoded ++ surplus

theorem combine_framed (x y : Bytes) : HybridSigner.combine x y = framed x ++ framed y :=
  List.append_assoc (packBE 2 x.length ++ x) (packBE 2 y.length) y

namespace Combines

variable {keys other : Bytes × Bytes} {data : Bytes}

theorem positive (combines : Combines keys data) : 0 < keys.2.length :=
  List.length_pos_iff.mpr combines.filled

theorem signer_parses (combines : Combines keys data) :
    KeyStore.parseCombinedPub data = .ok keys := by
  have classical := combines.classical
  rw [combines.data]
  exact HybridSigner.parseCombinedPub_combine _ _ (by omega) combines.short

theorem kem_parses (combines : Combines keys data) (surplus : Bytes) :
    HybridKem.parseCombinedPub (data ++ surplus) = .ok keys := by
  rw [combines.data]
  exact HybridKem.parseCombinedPub_append surplus combines.classical
    ⟨combines.positive, combines.short⟩

/-- Two key pairs never share an encoding. -/
theorem unique (combines : Combines keys data) (again : Combines other data) : other = keys :=
  Except.ok.inj (again.signer_parses.symm.trans combines.signer_parses)

theorem iff_eq (combines : Combines keys data) : Combines other data ↔ other = keys := by
  constructor
  · exact combines.unique
  · rintro rfl
    exact combines

end Combines

/-- What `_parse_combined_pub` accepts starts with the encoding of what it returns. -/
theorem HybridKem.parseCombinedPub_ok {data : Bytes} {keys : Bytes × Bytes}
    (parsed : HybridKem.parseCombinedPub data = .ok keys) :
    ∃ encoded surplus, Combines keys encoded ∧ data = encoded ++ surplus := by
  unfold HybridKem.parseCombinedPub at parsed
  dsimp only at parsed
  split at parsed
  · cases parsed
  split at parsed
  · cases parsed
  split at parsed
  · cases parsed
  split at parsed
  · cases parsed
  rename_i long classical enough filled
  have long : 36 ≤ data.length := Nat.le_of_not_lt long
  have size : unpackBE (data.take 2) = 32 := not_not.mp classical
  have behind : (data.drop 2).length = data.length - 2 := List.length_drop
  have second : ((data.drop 2).drop (unpackBE (data.take 2))).length = data.length - 34 := by
    rw [List.length_drop, behind, size]
    omega
  obtain ⟨whole, _⟩ := framed_take data (by omega) (by omega)
  obtain ⟨rest, short⟩ := framed_take ((data.drop 2).drop (unpackBE (data.take 2)))
    (by omega) (by omega)
  rw [rest, ← List.append_assoc, ← combine_framed] at whole
  cases parsed
  refine ⟨_, _, ⟨?_, ?_, short, rfl⟩, whole⟩
  · show ((data.drop 2).take (unpackBE (data.take 2))).length = 32
    rw [List.length_take, behind, size]
    omega
  · intro empty
    exact filled (List.isEmpty_iff.mpr empty)

theorem HybridKem.parseCombinedPub_error {data : Bytes} {raised : Raised}
    (failed : HybridKem.parseCombinedPub data = .error raised) :
    Envelope.IsValueError raised := by
  unfold HybridKem.parseCombinedPub at failed
  dsimp only at failed
  repeat' split at failed
  all_goals
    cases failed
    try exact Envelope.isValueError _

theorem signer_reads_exactly_iff (data : Bytes) :
    ReadsExactly Combines (· = .valueError) KeyStore.parseCombinedPub data ↔
      ∃ keys, Combines keys data := by
  cases parsed : KeyStore.parseCombinedPub data with
  | ok keys =>
      rw [readsExactly_of_ok parsed]
      constructor
      · intro written
        exact ⟨keys, (written keys).mpr rfl⟩
      · rintro ⟨made, combines⟩ other
        have same := Except.ok.inj (combines.signer_parses.symm.trans parsed)
        rw [← same]
        exact combines.iff_eq
  | error raised =>
      rw [readsExactly_of_error parsed]
      constructor
      · rintro ⟨refusal, _⟩
        rw [FileOps.parseCombinedPub_error parsed] at refusal
        cases refusal
      · rintro ⟨keys, combines⟩
        have impossible := combines.signer_parses
        rw [parsed] at impossible
        cases impossible

theorem kem_reads_exactly_iff (data : Bytes) :
    ReadsExactly Combines Envelope.IsValueError HybridKem.parseCombinedPub data ↔
      ¬ Extends data := by
  cases parsed : HybridKem.parseCombinedPub data with
  | ok keys =>
      obtain ⟨encoded, surplus, combines, whole⟩ := HybridKem.parseCombinedPub_ok parsed
      rw [readsExactly_of_ok parsed]
      constructor
      · rintro written ⟨other, start, more, made, present, split⟩
        have longer := (written keys).mpr rfl
        have first := longer.data
        have same : other = keys := by
          have again := made.kem_parses more
          rw [← split, parsed] at again
          exact (Except.ok.inj again).symm
        rw [split, made.data, same] at first
        exact present (List.append_right_eq_self.mp first)
      · intro exact' other
        have tight : surplus = [] := by
          by_contra present
          exact exact' ⟨keys, encoded, surplus, combines, present, whole⟩
        rw [whole, tight, List.append_nil]
        exact combines.iff_eq
  | error raised =>
      rw [readsExactly_of_error parsed]
      constructor
      · rintro _ ⟨keys, encoded, surplus, combines, _, whole⟩
        have impossible := combines.kem_parses surplus
        rw [← whole, parsed] at impossible
        cases impossible
      · intro _
        refine ⟨HybridKem.parseCombinedPub_error parsed, ?_⟩
        intro keys combines
        have impossible := combines.kem_parses []
        rw [List.append_nil, parsed] at impossible
        cases impossible

/-- `parse_combined_pub` is exact on the encoded pairs alone, `_parse_combined_pub` on all data but
an encoded pair with more behind it. -/
theorem combined_key_parsers_exact_iff (data : Bytes) :
    (ReadsExactly Combines (· = .valueError) KeyStore.parseCombinedPub data ↔
        ∃ keys, Combines keys data) ∧
      (ReadsExactly Combines Envelope.IsValueError HybridKem.parseCombinedPub data ↔
        ¬ Extends data) :=
  ⟨signer_reads_exactly_iff data, kem_reads_exactly_iff data⟩

section Toy

def toyCombined : Bytes := HybridSigner.combine (List.replicate 32 0) [1]

theorem toyCombined_combines : Combines (List.replicate 32 0, [1]) toyCombined where
  classical := rfl
  filled := List.cons_ne_nil _ _
  short := by decide
  data := rfl

/-- No bytes at all raise a `struct.error`, and one byte too many is not noticed. -/
theorem combined_key_parsers_inexact :
    ¬ ReadsExactly Combines (· = .valueError) KeyStore.parseCombinedPub [] ∧
      ¬ ReadsExactly Combines Envelope.IsValueError HybridKem.parseCombinedPub
        (toyCombined ++ [0]) := by
  constructor
  · intro reads
    cases reads.refuses .structError rfl
  · intro reads
    have accepted := toyCombined_combines.kem_parses [0]
    have size := congrArg List.length ((reads.accepts _).mp accepted).data
    exact absurd size (by decide)

end Toy

end UltimateEnigma
