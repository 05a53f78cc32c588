import Mathlib

/-!
# The doubles among the natural numbers

`Number(n)` of a natural number, and what `+` and `*` round an exact result to:
the closest double, ties to even.  Numbers below `2 ^ 53` are doubles; from there
on only the multiples of a growing power of two are.  `Math.sqrt` is rounded in
the same way.

## Main definitions

* `roundTo` — rounding to the multiples of a unit
* `toNumber` — the closest double
* `ceilSqrt` — `Math.ceil(Math.sqrt(n))`

## Main results

* `toNumber_mono` — rounding keeps the order
* `toNumber_toNumber` — a double is its own closest double
* `toNumber_mul_two_pow` — what has a significand of 53 bits is a double
-/

namespace TheVoteApp.JavaScript

/-- Rounding to a multiple of `unit`, ties to even. -/
def roundTo (unit n : ℕ) : ℕ :=
  if 2 * (n % unit) < unit then n / unit
  else if unit < 2 * (n % unit) then n / unit + 1
  else n / unit + n / unit % 2

/-- JavaScript's `Number(n)`: the closest double, ties to even. -/
def toNumber (n : ℕ) : ℕ :=
  if n < 2 ^ 53 then n
  else
    let unit := 2 ^ (n.log2 - 52)
    roundTo unit n * unit

theorem toNumber_of_lt {n : ℕ} (small : n < 2 ^ 53) : toNumber n = n := if_pos small

theorem le_roundTo (unit n : ℕ) : n / unit ≤ roundTo unit n ∧ roundTo unit n ≤ n / unit + 1 := by
  unfold roundTo
  split
  · omega
  split
  · omega
  · omega

theorem roundTo_mono {unit n m : ℕ} (le : n ≤ m) : roundTo unit n ≤ roundTo unit m := by
  have quotients : n / unit ≤ m / unit := Nat.div_le_div_right le
  rcases Nat.lt_or_ge (n / unit) (m / unit) with less | more
  · exact (le_roundTo unit n).2.trans ((Nat.succ_le_of_lt less).trans (le_roundTo unit m).1)
  · have same : n / unit = m / unit := le_antisymm quotients more
    have rests : n % unit ≤ m % unit := by
      have splitN := Nat.div_add_mod n unit
      have splitM := Nat.div_add_mod m unit
      rw [same] at splitN
      omega
    unfold roundTo
    rw [same]
    split_ifs <;> omega

theorem toNumber_of_le {n : ℕ} (large : 2 ^ 53 ≤ n) :
    toNumber n = roundTo (2 ^ (n.log2 - 52)) n * 2 ^ (n.log2 - 52) :=
  if_neg (Nat.not_lt.mpr large)

theorem toNumber_mem {n : ℕ} (large : 2 ^ 53 ≤ n) :
    2 ^ n.log2 ≤ toNumber n ∧ toNumber n ≤ 2 ^ (n.log2 + 1) := by
  have nonzero : n ≠ 0 := by omega
  have exponent : 53 ≤ n.log2 := (Nat.le_log2 nonzero).mpr large
  have low : 2 ^ n.log2 = 2 ^ 52 * 2 ^ (n.log2 - 52) := by rw [← pow_add]; congr 1; omega
  have high : 2 ^ (n.log2 + 1) = 2 ^ 53 * 2 ^ (n.log2 - 52) := by rw [← pow_add]; congr 1; omega
  have unit : 0 < 2 ^ (n.log2 - 52) := Nat.two_pow_pos _
  have above : 2 ^ 52 ≤ n / 2 ^ (n.log2 - 52) := by
    rw [Nat.le_div_iff_mul_le unit, ← low]
    exact Nat.log2_self_le nonzero
  have below : n / 2 ^ (n.log2 - 52) < 2 ^ 53 := by
    rw [Nat.div_lt_iff_lt_mul unit, ← high]
    exact Nat.lt_log2_self
  rw [toNumber_of_le large, low, high]
  have bounds := le_roundTo (2 ^ (n.log2 - 52)) n
  exact ⟨Nat.mul_le_mul_right _ (above.trans bounds.1),
    Nat.mul_le_mul_right _ (bounds.2.trans below)⟩

theorem toNumber_mono {n m : ℕ} (le : n ≤ m) : toNumber n ≤ toNumber m := by
  rcases Nat.lt_or_ge m (2 ^ 53) with small | large
  · rw [toNumber_of_lt small, toNumber_of_lt (le.trans_lt small)]
    exact le
  have nonzero : m ≠ 0 := by omega
  rcases Nat.lt_or_ge n (2 ^ 53) with small | largeN
  · rw [toNumber_of_lt small]
    have exponent : 53 ≤ m.log2 := (Nat.le_log2 nonzero).mpr large
    exact small.le.trans ((Nat.pow_le_pow_right (by decide) exponent).trans (toNumber_mem large).1)
  · have nonzeroN : n ≠ 0 := by omega
    have exponents : n.log2 ≤ m.log2 :=
      (Nat.le_log2 nonzero).mpr ((Nat.log2_self_le nonzeroN).trans le)
    rcases Nat.lt_or_ge n.log2 m.log2 with less | more
    · exact (toNumber_mem largeN).2.trans
        ((Nat.pow_le_pow_right (by decide) less).trans (toNumber_mem large).1)
    · have same : n.log2 = m.log2 := le_antisymm exponents more
      rw [toNumber_of_le largeN, toNumber_of_le large, same]
      exact Nat.mul_le_mul_right _ (roundTo_mono le)

theorem toNumber_two_pow : toNumber (2 ^ 53) = 2 ^ 53 := by decide

theorem toNumber_of_le_two_pow {n : ℕ} (small : n ≤ 2 ^ 53) : toNumber n = n := by
  rcases small.lt_or_eq with less | rfl
  · exact toNumber_of_lt less
  · exact toNumber_two_pow

/-- The first number that is no double: it is half-way, and `2 ^ 53` is even. -/
theorem toNumber_two_pow_succ : toNumber (2 ^ 53 + 1) = 2 ^ 53 := by decide

/-- A multiple of its unit is a double. -/
theorem toNumber_of_dvd {n : ℕ} (large : 2 ^ 53 ≤ n) (divides : 2 ^ (n.log2 - 52) ∣ n) :
    toNumber n = n := by
  have whole : roundTo (2 ^ (n.log2 - 52)) n = n / 2 ^ (n.log2 - 52) := by
    rw [roundTo, Nat.mod_eq_zero_of_dvd divides, if_pos (Nat.mul_zero 2 ▸ Nat.two_pow_pos _)]
  rw [toNumber_of_le large, whole, Nat.div_mul_cancel divides]

/-- Every number with a significand of 53 bits is a double. -/
theorem toNumber_mul_two_pow {k : ℕ} (significand : k ≤ 2 ^ 53) (j : ℕ) :
    toNumber (k * 2 ^ j) = k * 2 ^ j := by
  rcases Nat.lt_or_ge (k * 2 ^ j) (2 ^ 53) with small | large
  · exact toNumber_of_lt small
  apply toNumber_of_dvd large
  rcases Nat.lt_or_eq_of_le significand with less | rfl
  · have bits : (k * 2 ^ j).log2 < 53 + j := by
      rw [Nat.log2_lt (by omega), pow_add]
      exact Nat.mul_lt_mul_of_pos_right less (Nat.two_pow_pos j)
    exact Dvd.dvd.mul_left (pow_dvd_pow 2 (by omega)) k
  · rw [← pow_add, Nat.log2_two_pow]
    exact pow_dvd_pow 2 (by omega)

/-- A double is its own closest double. -/
theorem toNumber_toNumber (n : ℕ) : toNumber (toNumber n) = toNumber n := by
  rcases Nat.lt_or_ge n (2 ^ 53) with small | large
  · rw [toNumber_of_lt small, toNumber_of_lt small]
  have above := (toNumber_mem large).2
  have nonzero : n ≠ 0 := by omega
  have exponent : 53 ≤ n.log2 := (Nat.le_log2 nonzero).mpr large
  rw [toNumber_of_le large] at above ⊢
  apply toNumber_mul_two_pow
  rw [show n.log2 + 1 = 53 + (n.log2 - 52) by omega, pow_add] at above
  exact Nat.le_of_mul_le_mul_right above (Nat.two_pow_pos _)

/-! ## Square roots -/

/-- Twice the root of `n`, and half a unit more if that is not exact: on the same side of
every number and every half as twice the real root. -/
def sqrtBits (n : ℕ) : ℕ := 2 * n.sqrt + if n.sqrt * n.sqrt = n then 0 else 1

/-- `Math.ceil(Math.sqrt(n))`: the root is rounded to 53 bits, then up. -/
def ceilSqrt (n : ℕ) : ℕ :=
  let exponent := n.sqrt.log2
  let unit := 2 ^ (exponent - 52)
  let scale := 2 ^ (52 - exponent)
  (roundTo (4 * unit) (sqrtBits (4 * n * scale ^ 2)) * unit) ⌈/⌉ scale

theorem roundTo_mul {unit : ℕ} (pos : 0 < unit) (k : ℕ) : roundTo unit (unit * k) = k := by
  rw [roundTo, Nat.mul_mod_right, if_pos (by omega), Nat.mul_div_cancel_left _ pos]

theorem four_mul_sqrt_le (n scale : ℕ) : 4 * (scale * n.sqrt) ≤ sqrtBits (4 * n * scale ^ 2) := by
  have root : 2 * (scale * n.sqrt) ≤ (4 * n * scale ^ 2).sqrt := by
    rw [Nat.le_sqrt]
    calc
      2 * (scale * n.sqrt) * (2 * (scale * n.sqrt)) = 4 * scale ^ 2 * (n.sqrt * n.sqrt) := by ring
      _ ≤ 4 * scale ^ 2 * n := Nat.mul_le_mul_left _ (Nat.sqrt_le n)
      _ = 4 * n * scale ^ 2 := by ring
  rw [sqrtBits]
  omega

theorem sqrtBits_le {n scale : ℕ} (pos : 0 < scale) :
    sqrtBits (4 * n * scale ^ 2) ≤ 4 * (scale * (n.sqrt + 1)) := by
  have root : (4 * n * scale ^ 2).sqrt < 2 * (scale * (n.sqrt + 1)) := by
    rw [Nat.sqrt_lt]
    calc
      4 * n * scale ^ 2 = 4 * scale ^ 2 * n := by ring
      _ < 4 * scale ^ 2 * ((n.sqrt + 1) * (n.sqrt + 1)) :=
        Nat.mul_lt_mul_of_pos_left (Nat.lt_succ_sqrt n) (by positivity)
      _ = 2 * (scale * (n.sqrt + 1)) * (2 * (scale * (n.sqrt + 1))) := by ring
  rw [sqrtBits]
  split_ifs <;> omega

section CeilSqrt

variable {n : ℕ}

/-- A root of at most 53 bits before the point is rounded behind it. -/
theorem ceilSqrt_of_log2_le (small : n.sqrt.log2 ≤ 52) :
    ceilSqrt n = roundTo 4 (sqrtBits (4 * n * (2 ^ (52 - n.sqrt.log2)) ^ 2)) ⌈/⌉
      2 ^ (52 - n.sqrt.log2) := by
  simp only [ceilSqrt, Nat.sub_eq_zero_of_le small, pow_zero, mul_one]

theorem sqrt_le_ceilSqrt (small : n.sqrt.log2 ≤ 52) : n.sqrt ≤ ceilSqrt n := by
  have scale : 0 < 2 ^ (52 - n.sqrt.log2) := Nat.two_pow_pos _
  have rounds := @roundTo_mono 4 _ _ (four_mul_sqrt_le n (2 ^ (52 - n.sqrt.log2)))
  rw [roundTo_mul (by omega)] at rounds
  rw [ceilSqrt_of_log2_le small]
  exact Nat.le_of_mul_le_mul_left (rounds.trans (le_smul_ceilDiv scale)) scale

theorem ceilSqrt_le (small : n.sqrt.log2 ≤ 52) : ceilSqrt n ≤ n.sqrt + 1 := by
  have scale : 0 < 2 ^ (52 - n.sqrt.log2) := Nat.two_pow_pos _
  have rounds := @roundTo_mono 4 _ _ (@sqrtBits_le n _ scale)
  rw [roundTo_mul (by omega)] at rounds
  rw [ceilSqrt_of_log2_le small]
  exact (ceilDiv_le_iff_le_mul scale).mpr rounds

end CeilSqrt

theorem log2_mono {n m : ℕ} (order : n ≤ m) : n.log2 ≤ m.log2 := by
  rw [Nat.log2_eq_log_two, Nat.log2_eq_log_two]
  exact Nat.log_mono_right order

end TheVoteApp.JavaScript
