import Mathlib

/-!
# Twisted Edwards curves

The curve `a x² + y² = 1 + d x² y²` over a field, with the addition law that
divides by `1 ± d x₁ x₂ y₁ y₂`.  When `a` is a non-zero square and `d` is no
square the law is *complete*: no denominator ever vanishes on the curve, so one
formula adds every two points, equal and opposite ones included, and the points
form a commutative group.

## Main definitions

* `TwistedEdwards` — the coefficients, with the three facts completeness needs
* `TwistedEdwards.Point` — the points, each with its curve equation
* `TwistedEdwards.instAddCommGroupPoint` — the group

## Design notes

Associativity is two polynomial identities modulo the three curve equations,
`addX_assoc_numerators` and `addY_assoc_numerators`, stated without fractions;
completeness turns them into the equations between coordinates.
-/

namespace TheVoteApp.Foundations

universe u

/-- The coefficients of a complete twisted Edwards curve. -/
structure TwistedEdwards (F : Type u) [Field F] where
  a : F
  d : F
  a_isSquare : IsSquare a
  a_ne_zero : a ≠ 0
  d_not_isSquare : ¬ IsSquare d
  two_ne_zero : (2 : F) ≠ 0

namespace TwistedEdwards

variable {F : Type u} [Field F] (E : TwistedEdwards F)

/-- The curve equation. -/
def OnCurve (x y : F) : Prop := E.a * x ^ 2 + y ^ 2 = 1 + E.d * x ^ 2 * y ^ 2

/-- The first coordinate of a sum. -/
def addX (x₁ y₁ x₂ y₂ : F) : F :=
  (x₁ * y₂ + y₁ * x₂) / (1 + E.d * x₁ * x₂ * y₁ * y₂)

/-- The second coordinate of a sum. -/
def addY (x₁ y₁ x₂ y₂ : F) : F :=
  (y₁ * y₂ - E.a * x₁ * x₂) / (1 - E.d * x₁ * x₂ * y₁ * y₂)

variable {E}

/-! ## Completeness -/

section Completeness

variable {x₁ y₁ x₂ y₂ : F}

/-- `d` divides no square into a square. -/
theorem eq_zero_of_sq_eq {u v w : F} (square : u ^ 2 = E.d * w ^ 2 * v ^ 2) (nonzero : w ≠ 0) :
    v = 0 := by
  by_contra v_ne_zero
  refine E.d_not_isSquare ⟨u / (w * v), ?_⟩
  field_simp
  rw [square]

/-- The product in the denominators is neither `1` nor `-1`. -/
theorem product_sq_ne_one (on₁ : E.OnCurve x₁ y₁) (on₂ : E.OnCurve x₂ y₂) :
    (E.d * x₁ * x₂ * y₁ * y₂) ^ 2 ≠ 1 := by
  intro unit
  obtain ⟨s, root⟩ := E.a_isSquare
  unfold OnCurve at on₁ on₂
  have s_ne_zero : s ≠ 0 := by
    rintro rfl
    exact E.a_ne_zero (by rw [root, mul_zero])
  have product_ne_zero : E.d * x₁ * x₂ * y₁ * y₂ ≠ 0 := by
    intro vanishes
    rw [vanishes] at unit
    simp at unit
  have w_ne_zero : x₁ * y₁ ≠ 0 := by
    intro vanishes
    exact product_ne_zero (by linear_combination E.d * x₂ * y₂ * vanishes)
  have x₂_ne_zero : x₂ ≠ 0 := by
    rintro rfl
    exact product_ne_zero (by ring)
  -- multiplied by the product `e`, both sign choices of `s x₁ ± e y₁` square to `d` times a square
  have plus : (s * x₁ + E.d * x₁ * x₂ * y₁ * y₂ * y₁) ^ 2 =
      E.d * (x₁ * y₁) ^ 2 * (s * x₂ + y₂) ^ 2 := by
    rw [root] at on₁ on₂
    linear_combination on₁ + (y₁ ^ 2 - 1) * unit - E.d * x₁ ^ 2 * y₁ ^ 2 * on₂
  have minus : (s * x₁ - E.d * x₁ * x₂ * y₁ * y₂ * y₁) ^ 2 =
      E.d * (x₁ * y₁) ^ 2 * (s * x₂ - y₂) ^ 2 := by
    rw [root] at on₁ on₂
    linear_combination on₁ + (y₁ ^ 2 - 1) * unit - E.d * x₁ ^ 2 * y₁ ^ 2 * on₂
  have left := eq_zero_of_sq_eq plus w_ne_zero
  have right := eq_zero_of_sq_eq minus w_ne_zero
  have twice : 2 * s * x₂ = 0 := by linear_combination left + right
  exact mul_ne_zero (mul_ne_zero E.two_ne_zero s_ne_zero) x₂_ne_zero twice

theorem one_add_ne_zero (on₁ : E.OnCurve x₁ y₁) (on₂ : E.OnCurve x₂ y₂) :
    1 + E.d * x₁ * x₂ * y₁ * y₂ ≠ 0 := by
  intro vanishes
  refine product_sq_ne_one on₁ on₂ ?_
  linear_combination (E.d * x₁ * x₂ * y₁ * y₂ - 1) * vanishes

theorem one_sub_ne_zero (on₁ : E.OnCurve x₁ y₁) (on₂ : E.OnCurve x₂ y₂) :
    1 - E.d * x₁ * x₂ * y₁ * y₂ ≠ 0 := by
  intro vanishes
  refine product_sq_ne_one on₁ on₂ ?_
  linear_combination (-E.d * x₁ * x₂ * y₁ * y₂ - 1) * vanishes

/-- The curve equation of a sum, multiplied by the denominators. -/
theorem add_numerators (on₁ : E.OnCurve x₁ y₁) (on₂ : E.OnCurve x₂ y₂) :
    E.a * (x₁ * y₂ + y₁ * x₂) ^ 2 * (1 - E.d * x₁ * x₂ * y₁ * y₂) ^ 2 +
        (y₁ * y₂ - E.a * x₁ * x₂) ^ 2 * (1 + E.d * x₁ * x₂ * y₁ * y₂) ^ 2 =
      (1 + E.d * x₁ * x₂ * y₁ * y₂) ^ 2 * (1 - E.d * x₁ * x₂ * y₁ * y₂) ^ 2 +
        E.d * (x₁ * y₂ + y₁ * x₂) ^ 2 * (y₁ * y₂ - E.a * x₁ * x₂) ^ 2 := by
  unfold OnCurve at on₁ on₂
  grind

/-- **Closure.**  The sum of two points lies on the curve. -/
theorem OnCurve.add (on₁ : E.OnCurve x₁ y₁) (on₂ : E.OnCurve x₂ y₂) :
    E.OnCurve (E.addX x₁ y₁ x₂ y₂) (E.addY x₁ y₁ x₂ y₂) := by
  have plus := one_add_ne_zero on₁ on₂
  have minus := one_sub_ne_zero on₁ on₂
  have numerators := add_numerators on₁ on₂
  simp only [OnCurve, addX, addY]
  generalize 1 + E.d * x₁ * x₂ * y₁ * y₂ = p at *
  generalize 1 - E.d * x₁ * x₂ * y₁ * y₂ = m at *
  field_simp
  linear_combination numerators

end Completeness

/-! ## Associativity -/

section Associativity

variable {x₁ y₁ x₂ y₂ x₃ y₃ : F}

/-- First coordinates of the two ways to add three points, cross-multiplied. -/
theorem addX_assoc_numerators (on₁ : E.OnCurve x₁ y₁) (on₂ : E.OnCurve x₂ y₂)
    (on₃ : E.OnCurve x₃ y₃) :
    ((x₁ * y₂ + y₁ * x₂) * (1 - E.d * x₁ * x₂ * y₁ * y₂) * y₃ +
        (y₁ * y₂ - E.a * x₁ * x₂) * (1 + E.d * x₁ * x₂ * y₁ * y₂) * x₃) *
      ((1 + E.d * x₂ * x₃ * y₂ * y₃) * (1 - E.d * x₂ * x₃ * y₂ * y₃) +
        E.d * x₁ * y₁ * (x₂ * y₃ + y₂ * x₃) * (y₂ * y₃ - E.a * x₂ * x₃)) =
    (x₁ * (y₂ * y₃ - E.a * x₂ * x₃) * (1 + E.d * x₂ * x₃ * y₂ * y₃) +
        y₁ * (x₂ * y₃ + y₂ * x₃) * (1 - E.d * x₂ * x₃ * y₂ * y₃)) *
      ((1 + E.d * x₁ * x₂ * y₁ * y₂) * (1 - E.d * x₁ * x₂ * y₁ * y₂) +
        E.d * (x₁ * y₂ + y₁ * x₂) * (y₁ * y₂ - E.a * x₁ * x₂) * x₃ * y₃) := by
  unfold OnCurve at on₁ on₂ on₃
  grind

/-- Second coordinates of the two ways to add three points, cross-multiplied. -/
theorem addY_assoc_numerators (on₁ : E.OnCurve x₁ y₁) (on₂ : E.OnCurve x₂ y₂)
    (on₃ : E.OnCurve x₃ y₃) :
    ((y₁ * y₂ - E.a * x₁ * x₂) * (1 + E.d * x₁ * x₂ * y₁ * y₂) * y₃ -
        E.a * (x₁ * y₂ + y₁ * x₂) * (1 - E.d * x₁ * x₂ * y₁ * y₂) * x₃) *
      ((1 + E.d * x₂ * x₃ * y₂ * y₃) * (1 - E.d * x₂ * x₃ * y₂ * y₃) -
        E.d * x₁ * y₁ * (x₂ * y₃ + y₂ * x₃) * (y₂ * y₃ - E.a * x₂ * x₃)) =
    (y₁ * (y₂ * y₃ - E.a * x₂ * x₃) * (1 + E.d * x₂ * x₃ * y₂ * y₃) -
        E.a * x₁ * (x₂ * y₃ + y₂ * x₃) * (1 - E.d * x₂ * x₃ * y₂ * y₃)) *
      ((1 + E.d * x₁ * x₂ * y₁ * y₂) * (1 - E.d * x₁ * x₂ * y₁ * y₂) -
        E.d * (x₁ * y₂ + y₁ * x₂) * (y₁ * y₂ - E.a * x₁ * x₂) * x₃ * y₃) := by
  unfold OnCurve at on₁ on₂ on₃
  grind

theorem addX_assoc (on₁ : E.OnCurve x₁ y₁) (on₂ : E.OnCurve x₂ y₂) (on₃ : E.OnCurve x₃ y₃) :
    E.addX (E.addX x₁ y₁ x₂ y₂) (E.addY x₁ y₁ x₂ y₂) x₃ y₃ =
      E.addX x₁ y₁ (E.addX x₂ y₂ x₃ y₃) (E.addY x₂ y₂ x₃ y₃) := by
  have left := one_add_ne_zero (on₁.add on₂) on₃
  have right := one_add_ne_zero on₁ (on₂.add on₃)
  have plus₁₂ := one_add_ne_zero on₁ on₂
  have minus₁₂ := one_sub_ne_zero on₁ on₂
  have plus₂₃ := one_add_ne_zero on₂ on₃
  have minus₂₃ := one_sub_ne_zero on₂ on₃
  have numerators := addX_assoc_numerators on₁ on₂ on₃
  apply (div_eq_div_iff left right).mpr
  simp only [addX, addY]
  generalize 1 + E.d * x₁ * x₂ * y₁ * y₂ = p₁₂ at *
  generalize 1 - E.d * x₁ * x₂ * y₁ * y₂ = m₁₂ at *
  generalize 1 + E.d * x₂ * x₃ * y₂ * y₃ = p₂₃ at *
  generalize 1 - E.d * x₂ * x₃ * y₂ * y₃ = m₂₃ at *
  field_simp
  linear_combination numerators

theorem addY_assoc (on₁ : E.OnCurve x₁ y₁) (on₂ : E.OnCurve x₂ y₂) (on₃ : E.OnCurve x₃ y₃) :
    E.addY (E.addX x₁ y₁ x₂ y₂) (E.addY x₁ y₁ x₂ y₂) x₃ y₃ =
      E.addY x₁ y₁ (E.addX x₂ y₂ x₃ y₃) (E.addY x₂ y₂ x₃ y₃) := by
  have left := one_sub_ne_zero (on₁.add on₂) on₃
  have right := one_sub_ne_zero on₁ (on₂.add on₃)
  have plus₁₂ := one_add_ne_zero on₁ on₂
  have minus₁₂ := one_sub_ne_zero on₁ on₂
  have plus₂₃ := one_add_ne_zero on₂ on₃
  have minus₂₃ := one_sub_ne_zero on₂ on₃
  have numerators := addY_assoc_numerators on₁ on₂ on₃
  apply (div_eq_div_iff left right).mpr
  simp only [addX, addY]
  generalize 1 + E.d * x₁ * x₂ * y₁ * y₂ = p₁₂ at *
  generalize 1 - E.d * x₁ * x₂ * y₁ * y₂ = m₁₂ at *
  generalize 1 + E.d * x₂ * x₃ * y₂ * y₃ = p₂₃ at *
  generalize 1 - E.d * x₂ * x₃ * y₂ * y₃ = m₂₃ at *
  field_simp
  linear_combination numerators

end Associativity

/-! ## The group of points -/

/-- A point of the curve. -/
@[ext] structure Point (E : TwistedEdwards F) where
  x : F
  y : F
  onCurve : E.OnCurve x y

namespace Point

instance : Zero E.Point where
  zero := ⟨0, 1, by simp [OnCurve]⟩

instance : Add E.Point where
  add P Q := ⟨E.addX P.x P.y Q.x Q.y, E.addY P.x P.y Q.x Q.y, P.onCurve.add Q.onCurve⟩

instance : Neg E.Point where
  neg P := ⟨-P.x, P.y, by simpa [OnCurve] using P.onCurve⟩

@[simp] theorem x_zero : (0 : E.Point).x = 0 := rfl

@[simp] theorem y_zero : (0 : E.Point).y = 1 := rfl

@[simp] theorem x_neg (P : E.Point) : (-P).x = -P.x := rfl

@[simp] theorem y_neg (P : E.Point) : (-P).y = P.y := rfl

theorem x_add (P Q : E.Point) : (P + Q).x = E.addX P.x P.y Q.x Q.y := rfl

theorem y_add (P Q : E.Point) : (P + Q).y = E.addY P.x P.y Q.x Q.y := rfl

protected theorem add_comm (P Q : E.Point) : P + Q = Q + P := by
  ext
  · rw [x_add, x_add, addX, addX]
    congr 1 <;> ring
  · rw [y_add, y_add, addY, addY]
    congr 1 <;> ring

protected theorem zero_add (P : E.Point) : 0 + P = P := by
  ext
  · simp [x_add, addX]
  · simp [y_add, addY]

protected theorem neg_add_cancel (P : E.Point) : -P + P = 0 := by
  have minus := one_sub_ne_zero (-P).onCurve P.onCurve
  have equation := P.onCurve
  ext
  · rw [x_add, addX, x_neg, y_neg, x_zero]
    simp only [mul_comm P.y, neg_mul, neg_add_cancel, zero_div]
  · rw [y_add, addY, y_zero, div_eq_one_iff_eq minus, x_neg, y_neg]
    unfold OnCurve at equation
    linear_combination equation

instance instAddCommGroupPoint : AddCommGroup E.Point where
  add_assoc P Q R := by
    ext
    · exact addX_assoc P.onCurve Q.onCurve R.onCurve
    · exact addY_assoc P.onCurve Q.onCurve R.onCurve
  zero_add := Point.zero_add
  add_zero P := by rw [Point.add_comm, Point.zero_add]
  add_comm := Point.add_comm
  neg_add_cancel := Point.neg_add_cancel
  nsmul := nsmulRec
  zsmul := zsmulRec

end Point

/-! ## Projective coordinates -/

/-- The triple `(X, Y, Z)` stands for the point `(X / Z, Y / Z)`. -/
structure Represents (t : F × F × F) (P : E.Point) : Prop where
  z_ne_zero : t.2.2 ≠ 0
  x_eq : t.1 = P.x * t.2.2
  y_eq : t.2.1 = P.y * t.2.2

/-- Addition without division. -/
def projectiveAdd {R : Type*} [CommRing R] (a d : R) (t u : R × R × R) : R × R × R :=
  let zz := t.2.2 * u.2.2
  let e := d * (t.1 * u.1) * (t.2.1 * u.2.1)
  (zz * (zz * zz - e) * (t.1 * u.2.1 + t.2.1 * u.1),
    zz * (zz * zz + e) * (t.2.1 * u.2.1 - a * (t.1 * u.1)),
    (zz * zz - e) * (zz * zz + e))

theorem Represents.add {t u : F × F × F} {P Q : E.Point} (left : Represents t P)
    (right : Represents u Q) : Represents (projectiveAdd E.a E.d t u) (P + Q) := by
  obtain ⟨x₁, y₁, z₁⟩ := t
  obtain ⟨x₂, y₂, z₂⟩ := u
  obtain ⟨nonzero₁, x_eq₁, y_eq₁⟩ := left
  obtain ⟨nonzero₂, x_eq₂, y_eq₂⟩ := right
  dsimp only at nonzero₁ x_eq₁ y_eq₁ nonzero₂ x_eq₂ y_eq₂
  subst x_eq₁ y_eq₁ x_eq₂ y_eq₂
  have plus := one_add_ne_zero P.onCurve Q.onCurve
  have minus := one_sub_ne_zero P.onCurve Q.onCurve
  have z_eq : (projectiveAdd E.a E.d (P.x * z₁, P.y * z₁, z₁) (Q.x * z₂, Q.y * z₂, z₂)).2.2 =
      (z₁ * z₂) ^ 4 * ((1 - E.d * P.x * Q.x * P.y * Q.y) * (1 + E.d * P.x * Q.x * P.y * Q.y)) := by
    simp only [projectiveAdd]
    ring
  refine ⟨?_, ?_, ?_⟩
  · rw [z_eq]
    exact mul_ne_zero (pow_ne_zero 4 (mul_ne_zero nonzero₁ nonzero₂)) (mul_ne_zero minus plus)
  · rw [z_eq, Point.x_add, addX]
    simp only [projectiveAdd]
    field_simp
  · rw [z_eq, Point.y_add, addY]
    simp only [projectiveAdd]
    field_simp

theorem represents_zero : Represents ((0, 1, 1) : F × F × F) (0 : E.Point) :=
  ⟨one_ne_zero, by simp, by simp⟩

theorem represents_affine (P : E.Point) : Represents (P.x, P.y, 1) P :=
  ⟨one_ne_zero, by simp, by simp⟩

/-- The neutral element is the only point with these coordinates. -/
theorem Represents.eq_zero {t : F × F × F} {P : E.Point} (represents : Represents t P)
    (x_zero : t.1 = 0) (y_eq_z : t.2.1 = t.2.2) : P = 0 := by
  have nonzero := represents.z_ne_zero
  ext
  · have vanishes := represents.x_eq.symm.trans x_zero
    exact (mul_eq_zero.mp vanishes).resolve_right nonzero
  · have unit := represents.y_eq.symm.trans y_eq_z
    exact mul_right_cancel₀ nonzero (unit.trans (one_mul _).symm)

end TwistedEdwards

end TheVoteApp.Foundations
