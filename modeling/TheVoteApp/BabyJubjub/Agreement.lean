import TheVoteApp.BabyJubjub.OffChain
import TheVoteApp.BabyJubjub.OnChain

/-!
# The two additions agree

`bjjAdd` inverts by the extended Euclidean algorithm, `_babyJubAdd` by a power.
Away from the shortcuts both return the reduced values of the same two
fractions, with `0⁻¹ = 0`; on a shortcut both return the other operand as it
came, reduced or not.
-/

namespace TheVoteApp.HomomorphicTallyService

open Foundations BabyJubjub HomomorphicTally

/-- A pair of `uint256`s as `bigint`s. -/
def toBig (c : ℕ × ℕ) : BigPoint := (c.1, c.2)

/-- The neutral element is recognised alike on both sides. -/
theorem natCast_neutral_iff (x y : ℕ) : ((x : ℤ) = 0 ∧ (y : ℤ) = 1) ↔ x = 0 ∧ y = 1 := by
  norm_cast

/-- **Agreement.**  For all natural numbers, hence for all `uint256`s, on the
curve or not, `bjjAdd` and `_babyJubAdd` return the same pair. -/
theorem bjjAdd_eq_babyJubAdd (x1 y1 x2 y2 : ℕ) :
    bjjAdd x1 y1 x2 y2 = toBig (babyJubAdd x1 y1 x2 y2) := by
  by_cases first : x1 = 0 ∧ y1 = 1
  · rw [bjjAdd, babyJubAdd, if_pos ((natCast_neutral_iff x1 y1).mpr first), if_pos first, toBig]
  · have firstBig := (natCast_neutral_iff x1 y1).not.mpr first
    by_cases second : x2 = 0 ∧ y2 = 1
    · rw [bjjAdd, babyJubAdd, if_neg firstBig, if_neg first,
        if_pos ((natCast_neutral_iff x2 y2).mpr second), if_pos second, toBig]
    · have secondBig := (natCast_neutral_iff x2 y2).not.mpr second
      rw [bjjAdd_eq_formula (Int.natCast_nonneg x1) (Int.natCast_nonneg y1)
        (Int.natCast_nonneg x2) (Int.natCast_nonneg y2) firstBig secondBig,
        babyJubAdd_eq_formula first second, toBig]
      simp only [Int.cast_natCast]

end TheVoteApp.HomomorphicTallyService
