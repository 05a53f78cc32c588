import TheVoteApp.BabyJubjub.Curve
import TheVoteApp.Solidity.Basic

/-!
# Curve arithmetic on chain

The internal functions of `HomomorphicTally.sol` that add two points, and what
they compute.  Inverses are powers by Fermat's theorem, so the inverse of zero
is zero, the convention of division in a field; that makes the addition formula
right for every two pairs of integers (`babyJubAdd_eq_formula`), on the curve or
not.
-/

namespace TheVoteApp.HomomorphicTally

open Solidity Foundations BabyJubjub

/-- `_modExp`. -/
def modExp (base exp mod : ℕ) : ℕ :=
  doubleAndAdd (fun x y => mulmod x y mod) 1 (base % mod) exp

/-- `_modInv`. -/
def modInv (a p : ℕ) : ℕ := modExp a (p - 2) p

/-- `_babyJubAdd`. -/
def babyJubAdd (x1 y1 x2 y2 : ℕ) : ℕ × ℕ :=
  let p := fieldModulus
  let a := 168700
  let d := 168696
  -- the neutral element (0, 1)
  if x1 = 0 ∧ y1 = 1 then (x2, y2)
  else if x2 = 0 ∧ y2 = 1 then (x1, y1)
  else
    let x1x2 := mulmod x1 x2 p
    let y1y2 := mulmod y1 y2 p
    let dx1x2y1y2 := mulmod (mulmod d x1x2 p) y1y2 p
    let x3num := addmod (mulmod x1 y2 p) (mulmod y1 x2 p) p
    let x3den := addmod 1 dx1x2y1y2 p
    let y3num := addmod y1y2 (p - mulmod a x1x2 p) p
    let y3den := addmod 1 (p - dx1x2y1y2) p
    (mulmod x3num (modInv x3den p) p, mulmod y3num (modInv y3den p) p)

/-! ## Modular powers and inverses -/

theorem cast_mulmod (x y m : ℕ) : (mulmod x y m : ZMod m) = x * y := by
  rw [mulmod, ZMod.natCast_mod, Nat.cast_mul]

theorem cast_addmod (x y m : ℕ) : (addmod x y m : ZMod m) = x + y := by
  rw [addmod, ZMod.natCast_mod, Nat.cast_add]

/-- `p - x`, for a reduced `x`, is minus `x` modulo `p`. -/
theorem cast_sub_of_lt {x m : ℕ} (reduced : x < m) : ((m - x : ℕ) : ZMod m) = -x := by
  rw [Nat.cast_sub reduced.le, ZMod.natCast_self, zero_sub]

theorem mulmod_lt {x y m : ℕ} (positive : 0 < m) : mulmod x y m < m := Nat.mod_lt _ positive

/-- A reduced number is the value of its residue. -/
theorem eq_val_of_cast_eq {m x : ℕ} {z : ZMod m} (reduced : x < m) (cast : (x : ZMod m) = z) :
    x = z.val := by
  rw [← cast, ZMod.val_natCast_of_lt reduced]

/-- The loop of `_modExp` keeps its accumulator reduced and multiplies it by the
power. -/
theorem modExp_spec {mod : ℕ} (large : 1 < mod) (base exp : ℕ) :
    modExp base exp mod < mod ∧ (modExp base exp mod : ZMod mod) = (base : ZMod mod) ^ exp := by
  have mulMod : ∀ (a b : ℕ) (x y : Additive (ZMod mod)),
      (a < mod ∧ (a : ZMod mod) = x.toMul) → (b < mod ∧ (b : ZMod mod) = y.toMul) →
      (mulmod a b mod < mod ∧ (mulmod a b mod : ZMod mod) = (x + y).toMul) := by
    rintro a b x y ⟨-, onA⟩ ⟨-, onB⟩
    refine ⟨mulmod_lt (by omega), ?_⟩
    rw [cast_mulmod, onA, onB, toMul_add]
  have power := doubleAndAdd_simulates mulMod
    (show 1 < mod ∧ ((1 : ℕ) : ZMod mod) = (0 : Additive (ZMod mod)).toMul from
      ⟨large, Nat.cast_one⟩)
    (show base % mod < mod ∧ ((base % mod : ℕ) : ZMod mod) =
        (Additive.ofMul (base : ZMod mod)).toMul from
      ⟨Nat.mod_lt _ (by omega), ZMod.natCast_mod base mod⟩) exp
  refine ⟨power.1, power.2.trans ?_⟩
  rw [zero_add, toMul_nsmul, toMul_ofMul]

/-- **`_modExp`.** -/
theorem modExp_eq {mod : ℕ} (large : 1 < mod) (base exp : ℕ) :
    modExp base exp mod = base ^ exp % mod := by
  obtain ⟨reduced, cast⟩ := modExp_spec large base exp
  rw [← Nat.cast_pow, ZMod.natCast_eq_natCast_iff', Nat.mod_eq_of_lt reduced] at cast
  exact cast

/-- **`_modInv`.**  For a prime modulus it inverts, and sends zero to zero. -/
theorem modInv_spec {p : ℕ} [Fact p.Prime] (large : 2 < p) (a : ℕ) :
    modInv a p < p ∧ (modInv a p : ZMod p) = (a : ZMod p)⁻¹ := by
  obtain ⟨reduced, cast⟩ := modExp_spec (by omega : 1 < p) a (p - 2)
  refine ⟨reduced, cast.trans ?_⟩
  by_cases zero : (a : ZMod p) = 0
  · rw [zero, inv_zero, zero_pow (by omega)]
  · apply eq_inv_of_mul_eq_one_left
    rw [← pow_succ, show p - 2 + 1 = p - 1 by omega]
    exact ZMod.pow_card_sub_one_eq_one zero

/-! ## Point addition -/

theorem two_lt_fieldModulus : 2 < fieldModulus := by decide

theorem cast_modInv (a : ℕ) : (modInv a fieldModulus : Fp) = (a : Fp)⁻¹ :=
  (modInv_spec two_lt_fieldModulus a).2

/-- **The formula.**  Away from the two shortcuts `_babyJubAdd` computes the
reduced values of the Edwards formula, for any integers. -/
theorem babyJubAdd_eq_formula {x1 y1 x2 y2 : ℕ} (first : ¬ (x1 = 0 ∧ y1 = 1))
    (second : ¬ (x2 = 0 ∧ y2 = 1)) :
    babyJubAdd x1 y1 x2 y2 =
      ((curve.addX x1 y1 x2 y2).val, (curve.addY x1 y1 x2 y2).val) := by
  have positive : 0 < fieldModulus := by have := two_lt_fieldModulus; omega
  simp only [babyJubAdd, if_neg first, if_neg second]
  refine Prod.ext (eq_val_of_cast_eq (mulmod_lt positive) ?_)
    (eq_val_of_cast_eq (mulmod_lt positive) ?_)
  · simp only [cast_mulmod, cast_modInv, cast_addmod, Nat.cast_one, TwistedEdwards.addX, curve_d]
    rw [div_eq_mul_inv]
    congr 2
    ring
  · simp only [cast_mulmod, cast_modInv, cast_addmod, cast_sub_of_lt (mulmod_lt positive),
      Nat.cast_one, TwistedEdwards.addY, curve_a, curve_d]
    rw [div_eq_mul_inv]
    congr 2 <;> ring

/-- **Addition of points.** -/
theorem babyJubAdd_coords (P Q : curve.Point) :
    babyJubAdd (coords P).1 (coords P).2 (coords Q).1 (coords Q).2 = coords (P + Q) := by
  by_cases first : (coords P).1 = 0 ∧ (coords P).2 = 1
  · have zero : P = 0 := coords_injective (by rw [coords_zero]; exact Prod.ext first.1 first.2)
    rw [babyJubAdd, if_pos first, zero, zero_add]
  · by_cases second : (coords Q).1 = 0 ∧ (coords Q).2 = 1
    · have zero : Q = 0 := coords_injective (by rw [coords_zero]; exact Prod.ext second.1 second.2)
      rw [babyJubAdd, if_neg first, if_pos second, zero, add_zero]
    · rw [babyJubAdd_eq_formula first second, cast_coords_fst, cast_coords_snd, cast_coords_fst,
        cast_coords_snd]
      rfl

end TheVoteApp.HomomorphicTally
