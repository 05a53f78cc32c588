import TheVoteApp.BabyJubjub.Curve

/-!
# Curve arithmetic in the service

The functions of `HomomorphicTallyService.ts` on `bigint` coordinates.  A
`bigint` is an integer, `/` and `%` round towards zero.  Inverses come from the
extended Euclidean algorithm, whose loop keeps both remainders multiples of the
argument modulo `p` (`modInvLoop_mul`).

On the coordinates of points `bjjAdd`, `bjjNeg` and `bjjScalarMul` are the group
operations.
-/

namespace TheVoteApp.HomomorphicTallyService

open Foundations BabyJubjub

/-- A pair of `bigint` coordinates. -/
abbrev BigPoint := ℤ × ℤ

/-- `BJJ_P`. -/
def bjjP : ℤ := fieldModulus

/-- `BJJ_A`. -/
def bjjA : ℤ := 168700

/-- `BJJ_D`. -/
def bjjD : ℤ := 168696

/-- The generator `[BJJ_GX, BJJ_GY]`. -/
def bjjG : BigPoint := (baseX, baseY)

/-- `BJJ_NEUTRAL`. -/
def bjjNeutral : BigPoint := (0, 1)

/-- The loop of `modInv`, which returns the final `old_s`. -/
def modInvLoop (oldR r oldS s : ℤ) : ℤ :=
  if r = 0 then oldS
  else
    let q := oldR.tdiv r
    modInvLoop r (oldR - q * r) s (oldS - q * s)
termination_by r.natAbs
decreasing_by
  rw [Int.tdiv_mul_self, sub_sub_cancel, Int.natAbs_tmod]
  exact Nat.mod_lt _ (Int.natAbs_pos.mpr ‹_›)

/-- `modInv`, whose result is made non-negative. -/
def modInv (a p : ℤ) : ℤ := ((modInvLoop a p 1 0).tmod p + p).tmod p

/-- `bjjAdd`.  The two neutral operands are handled first. -/
def bjjAdd (x1 y1 x2 y2 : ℤ) : BigPoint :=
  if x1 = 0 ∧ y1 = 1 then (x2, y2)
  else if x2 = 0 ∧ y2 = 1 then (x1, y1)
  else
    let x1x2 := (x1 * x2).tmod bjjP
    let y1y2 := (y1 * y2).tmod bjjP
    let dx1x2y1y2 := ((bjjD * x1x2).tmod bjjP * y1y2).tmod bjjP
    let x3num := ((x1 * y2).tmod bjjP + (y1 * x2).tmod bjjP).tmod bjjP
    let x3den := (1 + dx1x2y1y2).tmod bjjP
    let y3num := (y1y2 + bjjP - (bjjA * x1x2).tmod bjjP).tmod bjjP
    let y3den := (1 + bjjP - dx1x2y1y2).tmod bjjP
    let x3 := (x3num * modInv x3den bjjP).tmod bjjP
    let y3 := (y3num * modInv y3den bjjP).tmod bjjP
    (x3, y3)

/-- A negative scalar leaves the loop before it starts. -/
def bjjScalarMul (scalar px py : ℤ) : BigPoint :=
  doubleAndAdd (fun r c => bjjAdd r.1 r.2 c.1 c.2) bjjNeutral (px, py) scalar.toNat

/-- `bjjNeg`. -/
def bjjNeg (x y : ℤ) : BigPoint := ((bjjP - x).tmod bjjP, y)

/-! ## The extended Euclidean algorithm -/

theorem cast_tmod (x : ℤ) (m : ℕ) : ((x.tmod m : ℤ) : ZMod m) = x := by
  rw [Int.tmod_def, Int.cast_sub, Int.cast_mul, Int.cast_natCast, ZMod.natCast_self, zero_mul,
    sub_zero]

theorem tmod_range {x : ℤ} {m : ℕ} (positive : 0 < m) (nonneg : 0 ≤ x) :
    0 ≤ x.tmod m ∧ x.tmod m < m :=
  ⟨Int.tmod_nonneg _ nonneg, Int.tmod_lt_of_pos _ (by exact_mod_cast positive)⟩

/-- **The loop invariant.**  Both remainders are their coefficient times `a`;
the last non-zero one is the greatest common divisor. -/
theorem modInvLoop_mul {q : ℕ} (a : ZMod q) (oldR r oldS s : ℤ) (nonnegOld : 0 ≤ oldR)
    (nonneg : 0 ≤ r) (onOld : (oldR : ZMod q) = oldS * a) (onNew : (r : ZMod q) = s * a) :
    (modInvLoop oldR r oldS s : ZMod q) * a = (Int.gcd oldR r : ZMod q) := by
  induction oldR, r, oldS, s using modInvLoop.induct with
  | case1 oldR oldS s =>
      rw [modInvLoop, if_pos rfl, ← onOld, Int.gcd_zero_right]
      rw [← Int.cast_natCast, Int.natAbs_of_nonneg nonnegOld]
  | case2 oldR r oldS s nonzero quotient ih =>
      rw [modInvLoop, if_neg nonzero]
      refine (ih nonneg ?_ onNew ?_).trans ?_
      · rw [Int.tdiv_mul_self, sub_sub_cancel]
        exact Int.tmod_nonneg r nonnegOld
      · push_cast
        rw [onOld, onNew]
        ring
      · rw [Int.gcd_sub_mul_right_right, Int.gcd_comm]

/-- **`modInv`.**  For a prime modulus and a non-negative argument it inverts,
and sends multiples of the modulus to zero. -/
theorem modInv_spec {q : ℕ} [Fact q.Prime] {a : ℤ} (nonneg : 0 ≤ a) :
    0 ≤ modInv a q ∧ modInv a q < q ∧ (modInv a q : ZMod q) = (a : ZMod q)⁻¹ := by
  have positive : 0 < q := (Fact.out : q.Prime).pos
  have lower := Int.lt_tmod_of_pos (modInvLoop a q 1 0) (by exact_mod_cast positive : (0 : ℤ) < q)
  obtain ⟨bound, small⟩ := tmod_range (x := (modInvLoop a q 1 0).tmod q + q) positive
    (by linarith)
  refine ⟨bound, small, ?_⟩
  have value : (modInv a q : ZMod q) = (modInvLoop a q 1 0 : ZMod q) := by
    rw [modInv, cast_tmod, Int.cast_add, cast_tmod]
    simp
  rw [value]
  by_cases divides : (q : ℤ) ∣ a
  · -- the first division leaves no remainder, and the loop ends with coefficient zero
    have zero : (a : ZMod q) = 0 := (ZMod.intCast_zmod_eq_zero_iff_dvd a q).mpr divides
    have nonzero : (q : ℤ) ≠ 0 := by exact_mod_cast positive.ne'
    have remainder : a - a.tdiv q * q = 0 := by
      rw [Int.tdiv_mul_cancel divides, sub_self]
    rw [modInvLoop, if_neg nonzero]
    simp only [remainder]
    rw [modInvLoop, if_pos rfl, zero, inv_zero, Int.cast_zero]
  · have coprime : Int.gcd a q = 1 := by
      rw [Int.gcd_comm, ← Int.isCoprime_iff_gcd_eq_one]
      exact ((Nat.prime_iff_prime_int.mp Fact.out).coprime_iff_not_dvd).mpr divides
    have held := modInvLoop_mul (q := q) (a : ZMod q) a q 1 0 nonneg (by positivity) (by simp)
      (by simp)
    rw [coprime, Nat.cast_one] at held
    exact eq_inv_of_mul_eq_one_left held

/-! ## Point arithmetic -/

/-- The coordinates of a point, as `bigint`s. -/
def bigCoords (P : curve.Point) : BigPoint := ((coords P).1, (coords P).2)

theorem bigCoords_injective : Function.Injective bigCoords := by
  intro P Q same
  obtain ⟨x, y⟩ := Prod.mk.inj same
  exact coords_injective (Prod.ext (by exact_mod_cast x) (by exact_mod_cast y))

theorem bigCoords_nonneg (P : curve.Point) : 0 ≤ (bigCoords P).1 ∧ 0 ≤ (bigCoords P).2 :=
  ⟨Int.natCast_nonneg _, Int.natCast_nonneg _⟩

theorem bigCoords_zero : bigCoords 0 = bjjNeutral := by
  simp [bigCoords, bjjNeutral]

theorem bigCoords_base : bigCoords base = bjjG := by
  rw [bigCoords, coords_base]
  rfl

theorem bjjP_pos : 0 < bjjP := Int.natCast_pos.mpr prime_fieldModulus.pos

theorem cast_bjjP : ((bjjP : ℤ) : Fp) = 0 := by
  rw [bjjP, Int.cast_natCast, ZMod.natCast_self]

/-- A non-negative `bigint` in the class of `z`. -/
structure Denotes (x : ℤ) (z : Fp) : Prop where
  nonneg : 0 ≤ x
  cast : (x : Fp) = z

namespace Denotes

variable {x y : ℤ} {z w : Fp}

theorem add (left : Denotes x z) (right : Denotes y w) : Denotes (x + y) (z + w) :=
  ⟨add_nonneg left.nonneg right.nonneg, by rw [Int.cast_add, left.cast, right.cast]⟩

theorem mul (left : Denotes x z) (right : Denotes y w) : Denotes (x * y) (z * w) :=
  ⟨mul_nonneg left.nonneg right.nonneg, by rw [Int.cast_mul, left.cast, right.cast]⟩

/-- `x % BJJ_P`. -/
theorem reduce (held : Denotes x z) : Denotes (x.tmod bjjP) z :=
  ⟨Int.tmod_nonneg _ held.nonneg, by rw [bjjP, cast_tmod, held.cast]⟩

/-- `x + BJJ_P - y % BJJ_P`. -/
theorem sub (left : Denotes x z) (right : Denotes y w) :
    Denotes (x + bjjP - y.tmod bjjP) (z - w) := by
  have small := Int.tmod_lt_of_pos y bjjP_pos
  have nonneg := left.nonneg
  refine ⟨by linarith, ?_⟩
  rw [Int.cast_sub, Int.cast_add, cast_bjjP, add_zero, left.cast, right.reduce.cast]

/-- `modInv(x, BJJ_P)`. -/
theorem inv (held : Denotes x z) : Denotes (modInv x bjjP) z⁻¹ := by
  obtain ⟨nonneg, -, cast⟩ := modInv_spec (q := fieldModulus) held.nonneg
  exact ⟨nonneg, by rw [← held.cast, ← cast]; rfl⟩

/-- A reduced `bigint` is the value of its class. -/
theorem tmod_eq_val (held : Denotes x z) : x.tmod bjjP = z.val := by
  rw [← held.reduce.cast, ZMod.val_intCast]
  exact (Int.emod_eq_of_lt held.reduce.nonneg (Int.tmod_lt_of_pos x bjjP_pos)).symm

theorem of_nonneg (nonneg : 0 ≤ x) : Denotes x x := ⟨nonneg, rfl⟩

end Denotes

/-- **The formula.**  Away from the two shortcuts `bjjAdd` computes the reduced
values of the Edwards formula, for any non-negative integers. -/
theorem bjjAdd_eq_formula {x1 y1 x2 y2 : ℤ} (nonnegX1 : 0 ≤ x1) (nonnegY1 : 0 ≤ y1)
    (nonnegX2 : 0 ≤ x2) (nonnegY2 : 0 ≤ y2) (first : ¬ (x1 = 0 ∧ y1 = 1))
    (second : ¬ (x2 = 0 ∧ y2 = 1)) :
    bjjAdd x1 y1 x2 y2 =
      (((curve.addX x1 y1 x2 y2).val : ℤ), ((curve.addY x1 y1 x2 y2).val : ℤ)) := by
  have one : Denotes 1 1 := ⟨zero_le_one, Int.cast_one⟩
  have a : Denotes bjjA curve.a := ⟨by decide, by simp [bjjA]⟩
  have d : Denotes bjjD curve.d := ⟨by decide, by simp [bjjD]⟩
  have x1x2 := ((Denotes.of_nonneg nonnegX1).mul (.of_nonneg nonnegX2)).reduce
  have y1y2 := ((Denotes.of_nonneg nonnegY1).mul (.of_nonneg nonnegY2)).reduce
  have x1y2 := ((Denotes.of_nonneg nonnegX1).mul (.of_nonneg nonnegY2)).reduce
  have y1x2 := ((Denotes.of_nonneg nonnegY1).mul (.of_nonneg nonnegX2)).reduce
  have dx1x2y1y2 := (d.mul x1x2).reduce.mul y1y2
  have x3 := ((x1y2.add y1x2).reduce.mul (one.add dx1x2y1y2.reduce).reduce.inv).tmod_eq_val
  have y3 := ((y1y2.sub (a.mul x1x2)).reduce.mul (one.sub dx1x2y1y2).reduce.inv).tmod_eq_val
  simp only [bjjAdd, if_neg first, if_neg second]
  rw [x3, y3, TwistedEdwards.addX, TwistedEdwards.addY, div_eq_mul_inv, div_eq_mul_inv]
  simp only [mul_assoc, mul_left_comm]

/-- **Addition of points.** -/
theorem bjjAdd_coords (P Q : curve.Point) :
    bjjAdd (bigCoords P).1 (bigCoords P).2 (bigCoords Q).1 (bigCoords Q).2 =
      bigCoords (P + Q) := by
  by_cases first : (bigCoords P).1 = 0 ∧ (bigCoords P).2 = 1
  · have zero : P = 0 :=
      bigCoords_injective (by rw [bigCoords_zero]; exact Prod.ext first.1 first.2)
    rw [bjjAdd, if_pos first, zero, zero_add]
  · by_cases second : (bigCoords Q).1 = 0 ∧ (bigCoords Q).2 = 1
    · have zero : Q = 0 :=
        bigCoords_injective (by rw [bigCoords_zero]; exact Prod.ext second.1 second.2)
      rw [bjjAdd, if_neg first, if_pos second, zero, add_zero]
    · rw [bjjAdd_eq_formula (bigCoords_nonneg P).1 (bigCoords_nonneg P).2 (bigCoords_nonneg Q).1
        (bigCoords_nonneg Q).2 first second]
      simp only [bigCoords, Int.cast_natCast, cast_coords_fst, cast_coords_snd]
      rfl

/-- **Negation.** -/
theorem bjjNeg_coords (P : curve.Point) :
    bjjNeg (bigCoords P).1 (bigCoords P).2 = bigCoords (-P) := by
  have nonneg : 0 ≤ bjjP - (bigCoords P).1 :=
    sub_nonneg.mpr (Int.ofNat_le.mpr (coords_lt P).1.le)
  have opposite : Denotes (bjjP - (bigCoords P).1) (-P).x := by
    refine ⟨nonneg, ?_⟩
    rw [Int.cast_sub, cast_bjjP, zero_sub, bigCoords, Int.cast_natCast, cast_coords_fst]
    rfl
  exact Prod.ext opposite.tmod_eq_val rfl

/-- **Scalar multiplication.**  The loop adds the point to itself. -/
theorem bjjScalarMul_coords (n : ℕ) (P : curve.Point) :
    bjjScalarMul n (bigCoords P).1 (bigCoords P).2 = bigCoords (n • P) := by
  have simulates : ∀ (r c : BigPoint) (P Q : curve.Point), r = bigCoords P → c = bigCoords Q →
      bjjAdd r.1 r.2 c.1 c.2 = bigCoords (P + Q) := by
    rintro r c P Q rfl rfl
    exact bjjAdd_coords P Q
  have multiple := doubleAndAdd_simulates simulates bigCoords_zero.symm
    (rfl : bigCoords P = bigCoords P) n
  rw [zero_add] at multiple
  exact multiple

end TheVoteApp.HomomorphicTallyService
