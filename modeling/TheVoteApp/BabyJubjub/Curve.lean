import TheVoteApp.BabyJubjub.Primes
import TheVoteApp.Foundations.TwistedEdwards

/-!
# The curve Baby Jubjub

The twisted Edwards curve with `a = 168700` and `d = 168696` over the scalar
field of BN254, its base point, and the order of that point.

The program handles points as pairs of integers.  A pair of naturals is
*canonical* when it is the pair of reduced coordinates of a point;
`canonical_iff` compares this with the inequalities and the equation it stands
for.

## Main definitions

* `curve`, `base` — the curve and the point `G`
* `coords` — the reduced coordinates of a point
* `Canonical` — a pair of naturals that is one
-/

namespace TheVoteApp.BabyJubjub

open Foundations

instance : Fact fieldModulus.Prime := ⟨prime_fieldModulus⟩

/-- The field the coordinates live in. -/
abbrev Fp := ZMod fieldModulus

theorem cast_eq_cast_of_mod {m n : ℕ} (same : m % fieldModulus = n % fieldModulus) :
    (m : Fp) = n := (ZMod.natCast_eq_natCast_iff' m n fieldModulus).mpr same

/-- A square root of `168700`. -/
def rootOfA : ℕ := 7214280148105020021932206872019688659210616427216992810330019057549499971851

theorem isSquare_a : IsSquare ((168700 : ℕ) : Fp) := by
  refine ⟨(rootOfA : Fp), ?_⟩
  rw [← Nat.cast_mul]
  exact cast_eq_cast_of_mod (by decide)

theorem not_isSquare_d : ¬ IsSquare ((168696 : ℕ) : Fp) := by
  have nonzero : ((168696 : ℕ) : Fp) ≠ 0 := by
    rw [ne_eq, ZMod.natCast_eq_zero_iff]
    decide
  rw [ZMod.euler_criterion fieldModulus nonzero, ← powMod_cast, ← Nat.cast_one,
    ZMod.natCast_eq_natCast_iff']
  decide +kernel

/-- Baby Jubjub. -/
def curve : TwistedEdwards Fp where
  a := (168700 : ℕ)
  d := (168696 : ℕ)
  a_isSquare := isSquare_a
  a_ne_zero := by
    rw [ne_eq, ZMod.natCast_eq_zero_iff]
    decide
  d_not_isSquare := not_isSquare_d
  two_ne_zero := by
    rw [← Nat.cast_two, ne_eq, ZMod.natCast_eq_zero_iff]
    decide

@[simp] theorem curve_a : curve.a = ((168700 : ℕ) : Fp) := rfl

@[simp] theorem curve_d : curve.d = ((168696 : ℕ) : Fp) := rfl

/-! ## Coordinates -/

/-- The reduced coordinates of a point. -/
def coords (P : curve.Point) : ℕ × ℕ := (P.x.val, P.y.val)

theorem coords_injective : Function.Injective coords := by
  intro P Q same
  obtain ⟨x, y⟩ := Prod.mk.inj same
  ext
  · exact ZMod.val_injective _ x
  · exact ZMod.val_injective _ y

theorem coords_lt (P : curve.Point) : (coords P).1 < fieldModulus ∧ (coords P).2 < fieldModulus :=
  ⟨ZMod.val_lt P.x, ZMod.val_lt P.y⟩

@[simp] theorem coords_zero : coords 0 = (0, 1) := by
  have one : (1 : Fp).val = 1 := ZMod.val_one fieldModulus
  simp [coords, one]

@[simp] theorem cast_coords_fst (P : curve.Point) : ((coords P).1 : Fp) = P.x :=
  ZMod.natCast_zmod_val P.x

@[simp] theorem cast_coords_snd (P : curve.Point) : ((coords P).2 : Fp) = P.y :=
  ZMod.natCast_zmod_val P.y

/-- The pair of reduced coordinates of some point. -/
def Canonical (c : ℕ × ℕ) : Prop := ∃ P, coords P = c

/-- A pair is canonical when its members are reduced and satisfy the curve
equation. -/
theorem canonical_iff {x y : ℕ} :
    Canonical (x, y) ↔ x < fieldModulus ∧ y < fieldModulus ∧
      (168700 * x ^ 2 + y ^ 2) % fieldModulus = (1 + 168696 * x ^ 2 * y ^ 2) % fieldModulus := by
  have equation : curve.OnCurve (x : Fp) (y : Fp) ↔
      (168700 * x ^ 2 + y ^ 2) % fieldModulus = (1 + 168696 * x ^ 2 * y ^ 2) % fieldModulus := by
    rw [← ZMod.natCast_eq_natCast_iff']
    simp [TwistedEdwards.OnCurve]
  rw [← equation]
  constructor
  · rintro ⟨P, same⟩
    obtain ⟨rfl, rfl⟩ := Prod.mk.inj same
    refine ⟨ZMod.val_lt _, ZMod.val_lt _, ?_⟩
    rw [ZMod.natCast_zmod_val, ZMod.natCast_zmod_val]
    exact P.onCurve
  · rintro ⟨smallX, smallY, onCurve⟩
    refine ⟨⟨x, y, onCurve⟩, ?_⟩
    rw [coords, ZMod.val_natCast_of_lt smallX, ZMod.val_natCast_of_lt smallY]

/-! ## The base point -/

/-- The coordinates of the base point `G`. -/
def baseX : ℕ := 5299619240641551281634865583518297030282874472190772894086521144482721001553

/-- The second coordinate of the base point. -/
def baseY : ℕ := 16950150798460657717958625567821834550301663161624707787222815936182638968203

/-- The base point `G`. -/
def base : curve.Point where
  x := baseX
  y := baseY
  onCurve := by
    have equation : ((168700 * baseX ^ 2 + baseY ^ 2 : ℕ) : Fp) =
        (1 + 168696 * baseX ^ 2 * baseY ^ 2 : ℕ) := cast_eq_cast_of_mod (by decide)
    simpa [TwistedEdwards.OnCurve] using equation

theorem coords_base : coords base = (baseX, baseY) := by
  have smallX : baseX < fieldModulus := by decide
  have smallY : baseY < fieldModulus := by decide
  rw [coords, base, ZMod.val_natCast_of_lt smallX, ZMod.val_natCast_of_lt smallY]

/-- Projective addition on integers, reduced after every step. -/
def reducedAdd (t u : ℤ × ℤ × ℤ) : ℤ × ℤ × ℤ :=
  let sum := TwistedEdwards.projectiveAdd 168700 168696 t u
  (sum.1 % fieldModulus, sum.2.1 % fieldModulus, sum.2.2 % fieldModulus)

/-- The triple an integer triple stands for. -/
def castTriple (t : ℤ × ℤ × ℤ) : Fp × Fp × Fp := (t.1, t.2.1, t.2.2)

theorem castTriple_reducedAdd (t u : ℤ × ℤ × ℤ) :
    castTriple (reducedAdd t u) =
      TwistedEdwards.projectiveAdd curve.a curve.d (castTriple t) (castTriple u) := by
  have mod_cast_eq : ∀ z : ℤ, ((z % fieldModulus : ℤ) : Fp) = z := fun z => ZMod.intCast_mod z _
  simp only [castTriple, reducedAdd, mod_cast_eq]
  simp [TwistedEdwards.projectiveAdd]

/-- `n • G`, in integer projective coordinates. -/
theorem represents_nsmul_base (n : ℕ) :
    TwistedEdwards.Represents
      (castTriple (doubleAndAdd reducedAdd (0, 1, 1) (baseX, baseY, 1) n)) (n • base) := by
  have simulates : ∀ (t u : ℤ × ℤ × ℤ) (P Q : curve.Point),
      TwistedEdwards.Represents (castTriple t) P → TwistedEdwards.Represents (castTriple u) Q →
      TwistedEdwards.Represents (castTriple (reducedAdd t u)) (P + Q) := by
    intro t u P Q left right
    rw [castTriple_reducedAdd]
    exact left.add right
  have start : TwistedEdwards.Represents (castTriple (0, 1, 1)) (0 : curve.Point) := by
    simpa [castTriple] using TwistedEdwards.represents_zero (E := curve)
  have generator : TwistedEdwards.Represents (castTriple (baseX, baseY, 1)) base := by
    have affine : castTriple (baseX, baseY, 1) = (base.x, base.y, 1) := by simp [castTriple, base]
    rw [affine]
    exact TwistedEdwards.represents_affine base
  simpa using doubleAndAdd_simulates simulates start generator n

theorem subgroupOrder_nsmul_base : subgroupOrder • base = 0 := by
  have computed : doubleAndAdd reducedAdd (0, 1, 1) (baseX, baseY, 1) subgroupOrder =
      (0, (doubleAndAdd reducedAdd (0, 1, 1) (baseX, baseY, 1) subgroupOrder).2.2,
        (doubleAndAdd reducedAdd (0, 1, 1) (baseX, baseY, 1) subgroupOrder).2.2) := by
    decide +kernel
  have represents := represents_nsmul_base subgroupOrder
  rw [computed] at represents
  exact represents.eq_zero (by simp [castTriple]) rfl

theorem base_ne_zero : base ≠ 0 := by
  intro zero
  have same := congrArg coords zero
  rw [coords_base, coords_zero] at same
  exact absurd same (by decide)

/-- **The order of the base point.** -/
theorem addOrderOf_base : addOrderOf base = subgroupOrder :=
  haveI : Fact subgroupOrder.Prime := ⟨prime_subgroupOrder⟩
  addOrderOf_eq_prime subgroupOrder_nsmul_base base_ne_zero

/-- Below the order, multiples of the base point determine their scalars. -/
theorem nsmul_base_injOn {m n : ℕ} (smallM : m < subgroupOrder) (smallN : n < subgroupOrder)
    (same : m • base = n • base) : m = n := by
  rw [← addOrderOf_base] at smallM smallN
  exact nsmul_injOn_Iio_addOrderOf smallM smallN same

end TheVoteApp.BabyJubjub
