import TheVoteApp.BabyJubjub.OffChain

/-!
# The group of canonical points

The service keeps a point as a pair of `bigint`s.  A `CanonicalPoint` is such a
pair together with the bounds and the curve equation, so only points of the
curve in reduced form can be built.

`bjjAdd` and `bjjNeg` are operations of this type.  Under `pointEquiv` they are
the operations of the curve's group (`bjjAdd_coords`, `bjjNeg_coords`), and the
group structure is carried over.

## Main definitions

* `CanonicalPoint` — a reduced pair on the curve
* `pointEquiv` — canonical points are the points of the curve
-/

namespace TheVoteApp.HomomorphicTallyService

open Foundations BabyJubjub

/-- A pair of `bigint`s in `[0, BJJ_P)` on the curve. -/
@[ext]
structure CanonicalPoint where
  x : ℤ
  y : ℤ
  x_nonneg : 0 ≤ x
  x_lt : x < bjjP
  y_nonneg : 0 ≤ y
  y_lt : y < bjjP
  onCurve : bjjA * x ^ 2 + y ^ 2 ≡ 1 + bjjD * x ^ 2 * y ^ 2 [ZMOD bjjP]

namespace CanonicalPoint

/-- The pair the service passes around. -/
def pair (P : CanonicalPoint) : BigPoint := (P.x, P.y)

theorem pair_injective : Function.Injective pair := by
  intro P Q same
  obtain ⟨x, y⟩ := Prod.mk.inj same
  exact CanonicalPoint.ext x y

end CanonicalPoint

/-- The curve equation on `bigint`s is the one in the field. -/
theorem onCurve_cast_iff (x y : ℤ) :
    curve.OnCurve (x : Fp) (y : Fp) ↔
      bjjA * x ^ 2 + y ^ 2 ≡ 1 + bjjD * x ^ 2 * y ^ 2 [ZMOD bjjP] := by
  rw [bjjP, ← ZMod.intCast_eq_intCast_iff]
  simp [TwistedEdwards.OnCurve, bjjA, bjjD]

/-- The point of the curve a canonical pair stands for. -/
def CanonicalPoint.toPoint (P : CanonicalPoint) : curve.Point where
  x := P.x
  y := P.y
  onCurve := (onCurve_cast_iff P.x P.y).mpr P.onCurve

theorem bigCoords_toPoint (P : CanonicalPoint) : bigCoords P.toPoint = P.pair := by
  have reduced : ∀ z : ℤ, 0 ≤ z → z < bjjP → (((z : Fp).val : ℕ) : ℤ) = z := by
    intro z nonneg small
    rw [ZMod.val_intCast]
    exact Int.emod_eq_of_lt nonneg small
  exact Prod.ext (reduced P.x P.x_nonneg P.x_lt) (reduced P.y P.y_nonneg P.y_lt)

/-- The canonical pair of a point. -/
def CanonicalPoint.ofPoint (P : curve.Point) : CanonicalPoint where
  x := (bigCoords P).1
  y := (bigCoords P).2
  x_nonneg := (bigCoords_nonneg P).1
  x_lt := Int.ofNat_lt.mpr (coords_lt P).1
  y_nonneg := (bigCoords_nonneg P).2
  y_lt := Int.ofNat_lt.mpr (coords_lt P).2
  onCurve := by
    rw [← onCurve_cast_iff]
    simp only [bigCoords, Int.cast_natCast, cast_coords_fst, cast_coords_snd]
    exact P.onCurve

/-- Canonical pairs are the points of the curve. -/
def pointEquiv : CanonicalPoint ≃ curve.Point where
  toFun := CanonicalPoint.toPoint
  invFun := CanonicalPoint.ofPoint
  left_inv P := CanonicalPoint.pair_injective (bigCoords_toPoint P)
  right_inv P := bigCoords_injective (bigCoords_toPoint (CanonicalPoint.ofPoint P))

instance : AddCommGroup CanonicalPoint := pointEquiv.addCommGroup

/-! ## The operations of the service -/

namespace CanonicalPoint

theorem pair_add (P Q : CanonicalPoint) : (P + Q).pair = bjjAdd P.x P.y Q.x Q.y := by
  have sum := bjjAdd_coords P.toPoint Q.toPoint
  rw [bigCoords_toPoint, bigCoords_toPoint] at sum
  exact sum.symm

theorem pair_neg (P : CanonicalPoint) : (-P).pair = bjjNeg P.x P.y := by
  have opposite := bjjNeg_coords P.toPoint
  rw [bigCoords_toPoint] at opposite
  exact opposite.symm

theorem pair_zero : (0 : CanonicalPoint).pair = bjjNeutral := bigCoords_zero

/-- On two canonical points neither denominator of the sum vanishes. -/
theorem isUnit_denominators (P Q : CanonicalPoint) :
    IsUnit ((1 + bjjD * P.x * Q.x * P.y * Q.y : ℤ) : Fp) ∧
      IsUnit ((1 - bjjD * P.x * Q.x * P.y * Q.y : ℤ) : Fp) := by
  have plus := TwistedEdwards.one_add_ne_zero P.toPoint.onCurve Q.toPoint.onCurve
  have minus := TwistedEdwards.one_sub_ne_zero P.toPoint.onCurve Q.toPoint.onCurve
  have coefficient : ((bjjD : ℤ) : Fp) = curve.d := by simp [bjjD]
  constructor
  · push_cast
    rw [coefficient]
    exact plus.isUnit
  · push_cast
    rw [coefficient]
    exact minus.isUnit

end CanonicalPoint

/-- **Group law.**  On canonical points the denominators of `bjjAdd` are
invertible, its sums are canonical, and with `(0, 1)` and `bjjNeg` it is a
commutative group. -/
theorem bjjAdd_group_law :
    (∀ P Q : CanonicalPoint,
      IsUnit ((1 + bjjD * P.x * Q.x * P.y * Q.y : ℤ) : Fp) ∧
        IsUnit ((1 - bjjD * P.x * Q.x * P.y * Q.y : ℤ) : Fp)) ∧
    (∀ P Q : CanonicalPoint, bjjAdd P.x P.y Q.x Q.y ∈ Set.range CanonicalPoint.pair) ∧
    (∀ P Q : CanonicalPoint, bjjAdd P.x P.y Q.x Q.y = bjjAdd Q.x Q.y P.x P.y) ∧
    (∀ P Q R : CanonicalPoint,
      bjjAdd (bjjAdd P.x P.y Q.x Q.y).1 (bjjAdd P.x P.y Q.x Q.y).2 R.x R.y =
        bjjAdd P.x P.y (bjjAdd Q.x Q.y R.x R.y).1 (bjjAdd Q.x Q.y R.x R.y).2) ∧
    (0, 1) ∈ Set.range CanonicalPoint.pair ∧
    (∀ P : CanonicalPoint, bjjAdd 0 1 P.x P.y = P.pair ∧ bjjAdd P.x P.y 0 1 = P.pair) ∧
    ∀ P : CanonicalPoint, bjjNeg P.x P.y ∈ Set.range CanonicalPoint.pair ∧
      bjjAdd P.x P.y (bjjNeg P.x P.y).1 (bjjNeg P.x P.y).2 = (0, 1) ∧
      bjjAdd (bjjNeg P.x P.y).1 (bjjNeg P.x P.y).2 P.x P.y = (0, 1) := by
  -- the members of a pair are the coordinates, so `pair_add` also reads nested sums
  have add_pair (P Q : CanonicalPoint) :
      bjjAdd P.pair.1 P.pair.2 Q.pair.1 Q.pair.2 = (P + Q).pair := (P.pair_add Q).symm
  refine ⟨CanonicalPoint.isUnit_denominators, ?closed, ?comm, ?assoc, ?neutral, ?neutral_add,
    ?inverse⟩
  case closed =>
    intro P Q
    exact ⟨P + Q, P.pair_add Q⟩
  case comm =>
    intro P Q
    rw [← CanonicalPoint.pair_add, ← CanonicalPoint.pair_add, add_comm]
  case assoc =>
    intro P Q R
    rw [← CanonicalPoint.pair_add, ← CanonicalPoint.pair_add]
    exact (add_pair (P + Q) R).trans
      ((congrArg _ (add_assoc P Q R)).trans (add_pair P (Q + R)).symm)
  case neutral => exact ⟨0, CanonicalPoint.pair_zero⟩
  case neutral_add =>
    intro P
    have zero : ((0, 1) : BigPoint) = (0 : CanonicalPoint).pair := CanonicalPoint.pair_zero.symm
    have left := add_pair 0 P
    have right := add_pair P 0
    rw [← zero, zero_add] at left
    rw [← zero, add_zero] at right
    exact ⟨left, right⟩
  case inverse =>
    intro P
    have right := add_pair P (-P)
    have left := add_pair (-P) P
    rw [add_neg_cancel, CanonicalPoint.pair_zero, CanonicalPoint.pair_neg] at right
    rw [neg_add_cancel, CanonicalPoint.pair_zero, CanonicalPoint.pair_neg] at left
    exact ⟨⟨-P, P.pair_neg⟩, right, left⟩

end TheVoteApp.HomomorphicTallyService
