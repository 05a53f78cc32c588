import TheVoteApp.BabyJubjub.OffChain
import TheVoteApp.BabyJubjub.OnChain

/-!
# The two modular inverses

`modInv` of the service is the extended Euclidean algorithm on `bigint`s,
`_modInv` of the contract a power by Fermat's theorem.  In `ZMod q` both are the
inverse (`HomomorphicTallyService.modInv_spec`, `HomomorphicTally.modInv_spec`);
here that is read back as statements about integers, and the two functions
agree because a residue has one representative below `q`.
-/

namespace TheVoteApp.HomomorphicTallyService

variable {q : ℕ}

/-- The inverse of an argument that the modulus does not divide. -/
theorem mul_modInv (prime : q.Prime) {a : ℤ} (nonneg : 0 ≤ a) (coprime : ¬ (q : ℤ) ∣ a) :
    a * modInv a q ≡ 1 [ZMOD q] := by
  have : Fact q.Prime := ⟨prime⟩
  have nonzero : (a : ZMod q) ≠ 0 := by
    rwa [Ne, ZMod.intCast_zmod_eq_zero_iff_dvd]
  rw [← ZMod.intCast_eq_intCast_iff, Int.cast_mul, (modInv_spec nonneg).2.2,
    mul_inv_cancel₀ nonzero, Int.cast_one]

/-- The coefficient of a multiple of the modulus is zero, and zero is returned. -/
theorem modInv_of_dvd (prime : q.Prime) {a : ℤ} (nonneg : 0 ≤ a) (divides : (q : ℤ) ∣ a) :
    modInv a q = 0 := by
  have : Fact q.Prime := ⟨prime⟩
  obtain ⟨lower, upper, value⟩ := modInv_spec (q := q) nonneg
  rw [(ZMod.intCast_zmod_eq_zero_iff_dvd a q).mpr divides, inv_zero] at value
  exact Int.eq_zero_of_dvd_of_nonneg_of_lt lower upper
    ((ZMod.intCast_zmod_eq_zero_iff_dvd _ q).mp value)

/-- Both inverses are the reduced representative of the same residue. -/
theorem modInv_eq_onChain (prime : q.Prime) (odd : Odd q) (a : ℕ) :
    modInv a q = (HomomorphicTally.modInv a q : ℕ) := by
  have : Fact q.Prime := ⟨prime⟩
  have large : 2 < q := by
    have two := prime.two_le
    obtain ⟨k, rfl⟩ := odd
    omega
  obtain ⟨lower, upper, value⟩ := modInv_spec (q := q) (Int.natCast_nonneg a)
  obtain ⟨reduced, onChain⟩ := HomomorphicTally.modInv_spec large a
  have residues : ((modInv a q : ℤ) : ZMod q) = ((HomomorphicTally.modInv a q : ℤ) : ZMod q) := by
    rw [value, Int.cast_natCast, Int.cast_natCast, onChain]
  rw [ZMod.intCast_eq_intCast_iff, Int.ModEq, Int.emod_eq_of_lt lower upper,
    Int.emod_eq_of_lt (Int.natCast_nonneg _) (by exact_mod_cast reduced)] at residues
  exact residues

/-- **The inverses.**  Both loops end.  The service inverts what the modulus
does not divide and sends the rest to zero, the contract's exponentiation is
the power, and the two inverses are one function. -/
theorem modInv_and_modExp_correct :
    (∀ q : ℕ, q.Prime → Odd q → ∀ a : ℤ, 0 ≤ a →
      0 ≤ modInv a q ∧ modInv a q < q ∧
      (¬ (q : ℤ) ∣ a → a * modInv a q ≡ 1 [ZMOD q]) ∧
      ((q : ℤ) ∣ a → modInv a q = 0)) ∧
    (∀ base exp mod : ℕ, 1 < mod → HomomorphicTally.modExp base exp mod = base ^ exp % mod) ∧
    (∀ q : ℕ, q.Prime → Odd q → ∀ a : ℕ,
      modInv a q = (HomomorphicTally.modInv a q : ℕ)) := by
  refine ⟨?_, ?_, ?_⟩
  · intro q prime _ a nonneg
    have : Fact q.Prime := ⟨prime⟩
    obtain ⟨lower, upper, -⟩ := modInv_spec (q := q) nonneg
    exact ⟨lower, upper, mul_modInv prime nonneg, modInv_of_dvd prime nonneg⟩
  · intro base exp mod large
    exact HomomorphicTally.modExp_eq large base exp
  · intro q prime odd a
    exact modInv_eq_onChain prime odd a

/-- At the modulus seven: `3 * 5 = 15` is one more than a multiple, and
fourteen has no inverse. -/
theorem modInv_and_modExp_correct_seven :
    (3 : ℤ) * modInv 3 (7 : ℕ) ≡ 1 [ZMOD (7 : ℕ)] ∧ modInv 14 (7 : ℕ) = 0 ∧
      HomomorphicTally.modExp 3 5 7 = 3 ^ 5 % 7 ∧
      modInv (3 : ℕ) (7 : ℕ) = (HomomorphicTally.modInv 3 7 : ℕ) := by
  have prime : Nat.Prime 7 := by norm_num
  obtain ⟨inverse, power, agree⟩ := modInv_and_modExp_correct
  refine ⟨(inverse 7 prime (by decide) 3 (by decide)).2.2.1 (by decide),
    (inverse 7 prime (by decide) 14 (by decide)).2.2.2 (by decide), power 3 5 7 (by decide), ?_⟩
  exact agree 7 prime (by decide) 3

end TheVoteApp.HomomorphicTallyService
